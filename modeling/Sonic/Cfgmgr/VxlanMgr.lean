/-
Cfgmgr/VxlanMgr.lean

VXLAN devices of VNETs: `VxlanMgr` (cfgmgr/vxlanmgr.cpp).

A VNET with a tunnel and a VNI gets a pair of devices in the host, a VXLAN device and a bridge
over it that is enslaved to the VRF of the VNET.  The devices are made and removed by shell
commands; a command is modelled by its documented effect on the devices of the host, and may
be refused for any other reason (`deny`).
-/
import Sonic.Lib.Links
import Sonic.Orchagent.Sweep

namespace Cfgmgr.Vxlan

open Orchagent Swss
open Transition (Meets)

/-! ### The host -/

inductive Kind where
  | vxlan (vni sourceIp : String)
  | bridge
  | vrf
  /-- a device that is none of these -/
  | other
  deriving DecidableEq

/-- The devices, with the MAC address where one was set. -/
abbrev Host := Links String Kind (Option String)

/-- A VRF takes any device, a bridge any but a bridge. -/
def canEnslave (slave : Kind) : Kind → Bool
  | .vrf => true
  | .bridge => slave ≠ .bridge
  | _ => false

/-- The commands of `ip link` and `brctl`. -/
inductive Command where
  /-- the list of the devices -/
  | listDevices
  | addVxlan (dev vni sourceIp : String)
  | addBridge (dev : String)
  | setUp (dev : String)
  | setAddress (dev mac : String)
  | setMaster (dev master : String)
  | noMaster (dev : String)
  | addIf (bridge dev : String)
  | delIf (bridge dev : String)
  | del (dev : String)
  deriving DecidableEq

/-- What a command makes of the devices; `none` if it fails. -/
def Command.effect (h : Host) : Command → Option Host
  | .listDevices => some h
  | .addVxlan dev vni sourceIp => h.add dev (.vxlan vni sourceIp) none
  | .addBridge dev => h.add dev .bridge none
  | .setUp dev => h.setUp dev true
  | .setAddress dev mac => h.setAttrs dev fun _ => some mac
  | .setMaster dev master => h.setMaster canEnslave dev master
  | .noMaster dev => h.noMaster dev
  | .addIf bridge dev =>
    -- a port of another bridge is busy
    if (h.lookup bridge).map Link.kind = some .bridge ∧
        (h.lookup dev).bind Link.master = none then
      h.setMaster canEnslave dev bridge
    else none
  | .delIf bridge dev =>
    if (h.lookup dev).bind Link.master = some bridge then h.noMaster dev else none
  | .del dev => h.del dev

/-! ### The manager -/

structure VxlanInfo where
  m_vxlanTunnel : String
  m_sourceIp : String
  m_vnet : String
  m_vni : String
  m_vxlan : String
  m_vxlanIf : String
  m_macAddress : String
  deriving DecidableEq

structure St where
  /-- what was sent to APP_DB -/
  m_appVxlanTunnelTable : List KeyOpFieldsValuesTuple
  m_appVxlanTunnelMapTable : List KeyOpFieldsValuesTuple
  m_stateVrfTable : Table String (List FieldValueTuple)
  m_stateVxlanTable : Table String (List FieldValueTuple)
  /-- the row `switch` of `m_appSwitchTable` -/
  m_appSwitchTable : Option (List FieldValueTuple)
  m_vxlanTunnelCache : Table String (List FieldValueTuple)
  m_vnetCache : Table String VxlanInfo
  host : Host
  /-- the number of commands run -/
  commands : ℕ

def VXLAN_NAME_PREFIX : String := "Vxlan"

def VXLAN_IF_NAME_PREFIX : String := "Brvxlan"

def getVxlanName (info : VxlanInfo) : String := VXLAN_NAME_PREFIX ++ info.m_vni

def getVxlanIfName (info : VxlanInfo) : String := VXLAN_IF_NAME_PREFIX ++ info.m_vni

/-! ### Commands -/

def cmdCreateVxlan (info : VxlanInfo) : List Command :=
  [.addVxlan info.m_vxlan info.m_vni info.m_sourceIp]

def cmdUpVxlan (info : VxlanInfo) : List Command := [.setUp info.m_vxlan]

def cmdCreateVxlanIf (info : VxlanInfo) : List Command := [.addBridge info.m_vxlanIf]

def cmdAddVxlanIntoVxlanIf (info : VxlanInfo) : List Command :=
  .addIf info.m_vxlanIf info.m_vxlan ::
    if info.m_macAddress ≠ "" then [.setAddress info.m_vxlanIf info.m_macAddress] else []

def cmdAttachVxlanIfToVnet (info : VxlanInfo) : List Command :=
  [.setMaster info.m_vxlanIf info.m_vnet]

def cmdUpVxlanIf (info : VxlanInfo) : List Command := [.setUp info.m_vxlanIf]

def cmdDeleteVxlan (info : VxlanInfo) : List Command := [.del info.m_vxlan]

def cmdDeleteVxlanFromVxlanIf (info : VxlanInfo) : List Command :=
  [.delIf info.m_vxlanIf info.m_vxlan]

def cmdDeleteVxlanIf (info : VxlanInfo) : List Command := [.del info.m_vxlanIf]

def cmdDetachVxlanIfFromVnet (info : VxlanInfo) : List Command := [.noMaster info.m_vxlanIf]

/-- Which commands the host refuses, by their number in the run. -/
abbrev Denial := ℕ → Command → Bool

variable (deny : Denial)

/-- `swss::exec` of commands joined by `&&`, with whether it returns `RET_SUCCESS`. -/
def exec : List Command → St → St × Bool
  | [], s => (s, true)
  | c :: cmd, s =>
    let s' := { s with commands := s.commands + 1 }
    if deny s.commands c then (s', false)
    else
      match c.effect s.host with
      | none => (s', false)
      | some host => exec cmd { s' with host := host }

/-- Commands whose results are ignored. -/
def execAll (cmds : List (List Command)) (s : St) : St :=
  cmds.foldl (fun s cmd => (exec deny cmd s).1) s

/-- The steps of `createVxlan`: a command, and what is run if it fails. -/
def createSteps (info : VxlanInfo) : List (List Command × List (List Command)) :=
  [(cmdCreateVxlan info, []),
    (cmdUpVxlan info, [cmdDeleteVxlan info]),
    (cmdCreateVxlanIf info, [cmdDeleteVxlan info]),
    (cmdAddVxlanIntoVxlanIf info, [cmdDeleteVxlanIf info, cmdDeleteVxlan info]),
    (cmdAttachVxlanIfToVnet info,
      [cmdDeleteVxlanFromVxlanIf info, cmdDeleteVxlanIf info, cmdDeleteVxlan info]),
    (cmdUpVxlanIf info,
      [cmdDetachVxlanIfFromVnet info, cmdDeleteVxlanFromVxlanIf info, cmdDeleteVxlanIf info,
        cmdDeleteVxlan info])]

/-- The first step that fails ends the run. -/
def runSteps : List (List Command × List (List Command)) → St → St × Bool
  | [], s => (s, true)
  | (cmd, rollback) :: rest, s =>
    let r := exec deny cmd s
    if r.2 then runSteps rest r.1 else (execAll deny rollback r.1, false)

def createVxlan (info : VxlanInfo) (s : St) : St × Bool :=
  let r := runSteps deny (createSteps info) s
  if r.2 then
    ({ r.1 with
        m_stateVxlanTable := r.1.m_stateVxlanTable.insert info.m_vxlan [("state", "ok")] }, true)
  else r

/-- The results of the commands are not looked at. -/
def deleteVxlan (info : VxlanInfo) (s : St) : St × Bool :=
  let s := execAll deny
    [cmdDetachVxlanIfFromVnet info, cmdDeleteVxlanFromVxlanIf info, cmdDeleteVxlanIf info,
      cmdDeleteVxlan info] s
  ({ s with m_stateVxlanTable := s.m_stateVxlanTable.erase info.m_vxlan }, true)

/-! ### Readiness -/

def isVrfStateOk (s : St) (vrfName : String) : Bool := (s.m_stateVrfTable.lookup vrfName).isSome

def isVxlanStateOk (s : St) (vxlanName : String) : Bool :=
  (s.m_stateVxlanTable.lookup vxlanName).isSome

/-- `find_if` by the name of a field. -/
def findField (field : String) (fvs : List FieldValueTuple) : Option String :=
  (fvs.find? (·.1 = field)).map (·.2)

/-- Whether the MAC address is known, and the address; it is empty if the switch sets it. -/
def getVxlanRouterMacAddress (s : St) : Bool × String :=
  match s.m_appSwitchTable with
  | none => (false, "")
  | some temp =>
    match findField "vxlan_router_mac" temp with
    | some mac => if mac ≠ "" then (true, mac) else (true, "")
    | none => (true, "")

/-! ### Tasks -/

/-- The tunnel and the VNI that a VNET row names; the last value of a field counts. -/
def vnetFields (t : KeyOpFieldsValuesTuple) : String × String :=
  t.kfvFieldsValues.foldl (fun r i =>
    if i.1 = "vxlan_tunnel" then (i.2, r.2) else if i.1 = "vni" then (r.1, i.2) else r) ("", "")

/-- The record that a VNET row is made into, for a tunnel with the fields `tunnel`. -/
def vxlanInfo (t : KeyOpFieldsValuesTuple) (tunnel : List FieldValueTuple) (mac : String) :
    VxlanInfo :=
  let info : VxlanInfo :=
    ⟨(vnetFields t).1, (findField "src_ip" tunnel).getD "", t.kfvKey, (vnetFields t).2, "", "", mac⟩
  { info with m_vxlan := getVxlanName info, m_vxlanIf := getVxlanIfName info }

def doVxlanDeleteTask (s : St) (t : KeyOpFieldsValuesTuple) : St × Bool :=
  match s.m_vnetCache.lookup t.kfvKey with
  | none => (s, true)
  | some info =>
    let r := if isVxlanStateOk s info.m_vxlan then deleteVxlan deny info s else (s, true)
    if r.2 then ({ r.1 with m_vnetCache := r.1.m_vnetCache.erase t.kfvKey }, true)
    else (r.1, false)

/-- The devices of a VNET that is ready are made, in the place of those that it has. -/
def updateVxlan (s : St) (t : KeyOpFieldsValuesTuple) (info : VxlanInfo) : St :=
  let s := if isVxlanStateOk s info.m_vxlan then (doVxlanDeleteTask deny s t).1 else s
  let r := createVxlan deny info s
  if r.2 then { r.1 with m_vnetCache := r.1.m_vnetCache.insert info.m_vnet info } else r.1

def doVxlanCreateTask (s : St) (t : KeyOpFieldsValuesTuple) : St × Bool :=
  -- an incomplete row is ignored: the complete one follows
  if (vnetFields t).1 = "" ∨ (vnetFields t).2 = "" then (s, true)
  else
    match s.m_vxlanTunnelCache.lookup (vnetFields t).1 with
    | none => (s, false)
    | some tunnel =>
      if ¬ isVrfStateOk s t.kfvKey then (s, false)
      else
        let macAddress := getVxlanRouterMacAddress s
        -- `if (macAddress.first)`: an address that is known suspends the task
        if macAddress.1 then (s, false)
        else (updateVxlan deny s t (vxlanInfo t tunnel macAddress.2), true)

def doVxlanTunnelCreateTask (s : St) (t : KeyOpFieldsValuesTuple) : St × Bool :=
  ({ s with
      m_appVxlanTunnelTable :=
        s.m_appVxlanTunnelTable ++ [⟨t.kfvKey, SET_COMMAND, t.kfvFieldsValues⟩]
      m_vxlanTunnelCache := s.m_vxlanTunnelCache.insert t.kfvKey t.kfvFieldsValues }, true)

def doVxlanTunnelDeleteTask (s : St) (t : KeyOpFieldsValuesTuple) : St × Bool :=
  ({ s with
      m_appVxlanTunnelTable := s.m_appVxlanTunnelTable ++ [⟨t.kfvKey, DEL_COMMAND, []⟩]
      m_vxlanTunnelCache := s.m_vxlanTunnelCache.erase t.kfvKey }, true)

/-- `std::replace` of `config_db_key_delimiter` by `delimiter`. -/
def mapName (key : String) : String := key.map fun c => if c = '|' then ':' else c

def doVxlanTunnelMapCreateTask (s : St) (t : KeyOpFieldsValuesTuple) : St × Bool :=
  ({ s with
      m_appVxlanTunnelMapTable :=
        s.m_appVxlanTunnelMapTable ++ [⟨mapName t.kfvKey, SET_COMMAND, t.kfvFieldsValues⟩] }, true)

def doVxlanTunnelMapDeleteTask (s : St) (t : KeyOpFieldsValuesTuple) : St × Bool :=
  ({ s with
      m_appVxlanTunnelMapTable :=
        s.m_appVxlanTunnelMapTable ++ [⟨mapName t.kfvKey, DEL_COMMAND, []⟩] }, true)

inductive CfgTable where
  | CFG_VNET_TABLE | CFG_VXLAN_TUNNEL_TABLE | CFG_VXLAN_TUNNEL_MAP_TABLE
  deriving DecidableEq

/-- A task of `doTask`, with `task_result`; a task with an unknown command stays. -/
def handle (table : CfgTable) (s : St) (t : KeyOpFieldsValuesTuple) : St × Bool :=
  if t.kfvOp = SET_COMMAND then
    match table with
    | .CFG_VNET_TABLE => doVxlanCreateTask deny s t
    | .CFG_VXLAN_TUNNEL_TABLE => doVxlanTunnelCreateTask s t
    | .CFG_VXLAN_TUNNEL_MAP_TABLE => doVxlanTunnelMapCreateTask s t
  else if t.kfvOp = DEL_COMMAND then
    match table with
    | .CFG_VNET_TABLE => doVxlanDeleteTask deny s t
    | .CFG_VXLAN_TUNNEL_TABLE => doVxlanTunnelDeleteTask s t
    | .CFG_VXLAN_TUNNEL_MAP_TABLE => doVxlanTunnelMapDeleteTask s t
  else (s, false)

/-! ### The daemon -/

/-- The manager and the pending tasks of its consumers. -/
structure Daemon where
  m_toSync : CfgTable → SyncMap
  mgr : St

inductive Event where
  /-- entries are popped from a table of CONFIG_DB -/
  | pop (table : CfgTable) (entries : List KeyOpFieldsValuesTuple)
  /-- a pass over the pending tasks of a table -/
  | doTask (table : CfgTable)
  /-- the VRF of a VNET is ready: its device is there, and STATE_DB says so -/
  | vrfReady (vrfName : String)
  /-- STATE_DB does not say so any more -/
  | vrfLost (vrfName : String)
  /-- the row `switch` is written or removed -/
  | switchRow (row : Option (List FieldValueTuple))

/-- The host with a device for a VRF; it stays as it is if the name is taken. -/
def addVrf (h : Host) (vrfName : String) : Host := (h.add vrfName .vrf none).getD h

def step (d : Daemon) : Event → Daemon
  | .pop table entries =>
    { d with
      m_toSync := Function.update d.m_toSync table (addToSync (d.m_toSync table) entries).1 }
  | .doTask table =>
    let r := sweep (handle deny table) (d.m_toSync table) d.mgr
    { m_toSync := Function.update d.m_toSync table r.1, mgr := r.2 }
  | .vrfReady vrfName =>
    { d with
      mgr := { d.mgr with
        m_stateVrfTable := d.mgr.m_stateVrfTable.insert vrfName [("state", "ok")]
        host := addVrf d.mgr.host vrfName } }
  | .vrfLost vrfName =>
    { d with
      mgr := { d.mgr with m_stateVrfTable := d.mgr.m_stateVrfTable.erase vrfName } }
  | .switchRow row => { d with mgr := { d.mgr with m_appSwitchTable := row } }

/-- A device whose name starts with the text, as `find(..) == 0` has it. -/
def startsWith (text dev : String) : Bool := text.toList.isPrefixOf dev.toList

/-- One line of the list of devices. -/
def clearDevice (s : St) (dev : String) : St :=
  if startsWith VXLAN_NAME_PREFIX dev ∨ startsWith VXLAN_IF_NAME_PREFIX dev then
    (exec deny [.del dev] s).1
  else s

def clearAllVxlanDevices (s : St) : St :=
  let r := exec deny [.listDevices] s
  if r.2 then r.1.host.table.keys.foldl (clearDevice deny) r.1 else r.1

/-- `VxlanMgr()` on a host: the devices of an earlier run are cleared. -/
def boot (host : Host) : Daemon :=
  { m_toSync := fun _ => .empty
    mgr := clearAllVxlanDevices deny ⟨[], [], ∅, ∅, none, ∅, ∅, host, 0⟩ }

end Cfgmgr.Vxlan
