/-
Cfgmgr/SflowMgr.lean

sFlow sessions: `SflowMgr`.

A port has a session while sFlow is enabled and the port is configured, by itself or by the
setting for all ports.  The manager does not compute the sessions anew: every task changes
those that it thinks are concerned.  What is configured is kept beside it (`Conf`), with
the sessions that it asks for (`Conf.session`); on runs whose tasks are all safe (`Safe`)
the sessions are those (`sessions_follow_configuration`).
-/
import Sonic.Common.Table
import Sonic.Lib.Table
import Sonic.Lib.Transition

namespace Cfgmgr.Sflow

open Std (ExtTreeMap)
open FieldMap Swss
open Transition (Run Guarded)

/-! ### The data -/

def SFLOW_ERROR_SPEED_STR : String := "error"

/-- `sflowSpeedRateInitMap`. -/
def sflowSpeedRateInitMap : List (String × String) :=
  [("400000", "40000"), ("100000", "10000"), ("50000", "5000"), ("40000", "4000"),
    ("25000", "2500"), ("10000", "1000"), ("1000", "100")]

/-- The default rate of a speed; `operator[]` gives the empty text for others. -/
def defaultRate (speed : String) : String :=
  if speed ≠ SFLOW_ERROR_SPEED_STR then
    ((sflowSpeedRateInitMap.find? (·.1 = speed)).map (·.2)).getD ""
  else SFLOW_ERROR_SPEED_STR

structure SflowPortInfo where
  local_conf : Bool
  speed : String
  rate : String
  admin : String

structure St where
  m_sflowPortConfMap : Table String SflowPortInfo
  m_intfAllConf : Bool
  m_gEnable : Bool
  /-- the sessions in APP_DB -/
  m_appSflowSessionTable : Table String (ExtTreeMap String String)

/-- `SflowMgr()`. -/
def init : St := ⟨∅, true, false, ∅⟩

/-- The tables whose tasks are handled. -/
inductive CfgTable where
  | CFG_PORT_TABLE | CFG_SFLOW_TABLE | CFG_SFLOW_SESSION_TABLE
  deriving DecidableEq

structure Task where
  table : CfgTable
  kco : KeyOpFieldsValuesTuple

/-! ### Sessions -/

/-- The sessions, by port. -/
abbrev Sessions := Table String (ExtTreeMap String String)

/-- `set` merges the fields. -/
def Sessions.set (t : Sessions) (key : String) (fvs : List FieldValueTuple) : Sessions :=
  t.insert key (merge ((t.lookup key).getD ∅) fvs)

/-- `sflowGetGlobalInfo`. -/
def sflowGetGlobalInfo (speed : String) : List FieldValueTuple :=
  [("admin_state", "up"), ("sample_rate", defaultRate speed)]

/-- `sflowGetPortInfo`. -/
def sflowGetPortInfo (local_info : SflowPortInfo) : List FieldValueTuple :=
  (if local_info.admin.length > 0 then [("admin_state", local_info.admin)] else []) ++
    [("sample_rate", local_info.rate)]

/-- The sessions of the ports that meet `p` are set or removed. -/
def handleSessions (p : SflowPortInfo → Bool) (fvs : SflowPortInfo → List FieldValueTuple)
    (enable : Bool) (ports : Table String SflowPortInfo) (t : Sessions) : Sessions :=
  ports.entries.foldl (fun t it =>
    if p it.2 then if enable then t.set it.1 (fvs it.2) else t.erase it.1 else t) t

namespace St

/-- `sflowHandleSessionAll`. -/
def sflowHandleSessionAll (s : St) (enable : Bool) : St :=
  { s with
    m_appSflowSessionTable :=
      handleSessions (!·.local_conf) (fun it => sflowGetGlobalInfo it.speed) enable
        s.m_sflowPortConfMap s.m_appSflowSessionTable }

/-- `sflowHandleSessionLocal`. -/
def sflowHandleSessionLocal (s : St) (enable : Bool) : St :=
  { s with
    m_appSflowSessionTable :=
      handleSessions (·.local_conf) sflowGetPortInfo enable
        s.m_sflowPortConfMap s.m_appSflowSessionTable }

def setSession (s : St) (key : String) (fvs : List FieldValueTuple) : St :=
  { s with m_appSflowSessionTable := Sessions.set s.m_appSflowSessionTable key fvs }

def delSession (s : St) (key : String) : St :=
  { s with m_appSflowSessionTable := s.m_appSflowSessionTable.erase key }

/-! ### Ports -/

/-- The last value of a field, or what was there. -/
def lastValue (field : String) (values : List FieldValueTuple) (old : String) : String :=
  values.foldl (fun v i => if i.1 = field then i.2 else v) old

/-- A SET in `sflowUpdatePortInfo`. -/
def setPort (s : St) (key : String) (values : List FieldValueTuple) : St :=
  match s.m_sflowPortConfMap.lookup key with
  | some port_info =>
    { s with
      m_sflowPortConfMap := s.m_sflowPortConfMap.insert key
        { port_info with speed := lastValue "speed" values port_info.speed } }
  | none =>
    let speed := lastValue "speed" values SFLOW_ERROR_SPEED_STR
    let s := { s with
      m_sflowPortConfMap := s.m_sflowPortConfMap.insert key ⟨false, speed, "", ""⟩ }
    if s.m_gEnable ∧ s.m_intfAllConf then s.setSession key (sflowGetGlobalInfo speed) else s

/-- A DEL in `sflowUpdatePortInfo`. -/
def delPort (s : St) (key : String) : St :=
  match s.m_sflowPortConfMap.lookup key with
  | none => s
  | some port_info =>
    let s := { s with m_sflowPortConfMap := s.m_sflowPortConfMap.erase key }
    if s.m_intfAllConf ∧ s.m_gEnable ∨ port_info.local_conf then s.delSession key else s

/-! ### The global setting -/

/-- The fields of a SET of the SFLOW table, up to an `admin_state` that changes nothing. -/
def setGlobal : List FieldValueTuple → St → St
  | [], s => s
  | i :: values, s =>
    if i.1 = "admin_state" then
      let enable : Bool := i.2 = "up"
      if enable = s.m_gEnable then s
      else
        let s := { s with m_gEnable := enable }
        let s := if s.m_intfAllConf then s.sflowHandleSessionAll enable else s
        setGlobal values (s.sflowHandleSessionLocal enable)
    else setGlobal values s

def delGlobal (s : St) : St :=
  { (if s.m_gEnable then s.sflowHandleSessionAll false else s) with m_gEnable := false }

/-! ### The setting for all ports -/

/-- The fields of a SET of `all`. -/
def setAll : List FieldValueTuple → St → St
  | [], s => s
  | i :: values, s =>
    if i.1 = "admin_state" then
      let enable : Bool := i.2 = "up"
      let s := if enable ≠ s.m_intfAllConf ∧ s.m_gEnable then s.sflowHandleSessionAll enable else s
      setAll values { s with m_intfAllConf := enable }
    else setAll values s

def delAll (s : St) : St :=
  { (if ¬ s.m_intfAllConf then s.sflowHandleSessionAll true else s) with m_intfAllConf := true }

/-! ### The setting of a port -/

/-- The record and the values that `sflowCheckAndFillValues` makes. -/
def sflowCheckAndFillValues (port_info : SflowPortInfo) (fvs : List FieldValueTuple) :
    SflowPortInfo × List FieldValueTuple :=
  let port_info := { port_info with
    rate := lastValue "sample_rate" fvs port_info.rate
    admin := lastValue "admin_state" fvs port_info.admin }
  let rate_present := fvs.any (·.1 = "sample_rate")
  let admin_present := fvs.any (·.1 = "admin_state")
  let rate :=
    if ¬ rate_present ∧ port_info.rate = "" then defaultRate port_info.speed else port_info.rate
  let admin := if ¬ admin_present ∧ port_info.admin = "" then "up" else port_info.admin
  ({ port_info with rate := rate, admin := admin },
    fvs ++ (if rate_present then [] else [("sample_rate", rate)]) ++
      (if admin_present then [] else [("admin_state", admin)]))

/-- A SET of a port's session; it waits for the port. -/
def setLocal (s : St) (key : String) (values : List FieldValueTuple) : St × Bool :=
  match s.m_sflowPortConfMap.lookup key with
  | none => (s, false)
  | some port_info =>
    let r := sflowCheckAndFillValues port_info values
    (({ s with
        m_sflowPortConfMap :=
          s.m_sflowPortConfMap.insert key { r.1 with local_conf := true } }).setSession key r.2,
      true)

/-- A DEL of a port's session.  `operator[]` makes a record for a port that has none. -/
def delLocal (s : St) (key : String) : St :=
  let s := s.delSession key
  let port_info := (s.m_sflowPortConfMap.lookup key).getD ⟨false, "", "", ""⟩
  let s := { s with
    m_sflowPortConfMap :=
      s.m_sflowPortConfMap.insert key { port_info with local_conf := false, rate := "", admin := "" } }
  if s.m_intfAllConf then s.setSession key (sflowGetGlobalInfo port_info.speed) else s

/-- `doTask`: a task, with whether it is erased. -/
def doTask (s : St) (task : Task) : St × Bool :=
  let key := task.kco.kfvKey
  let op := task.kco.kfvOp
  let values := task.kco.kfvFieldsValues
  match task.table with
  | .CFG_PORT_TABLE =>
    if op = SET_COMMAND then (s.setPort key values, true)
    else if op = DEL_COMMAND then (s.delPort key, true)
    else (s, true)
  | .CFG_SFLOW_TABLE =>
    if op = SET_COMMAND then (setGlobal values s, true)
    else if op = DEL_COMMAND then (s.delGlobal, true)
    else (s, true)
  | .CFG_SFLOW_SESSION_TABLE =>
    if op = SET_COMMAND then
      if key = "all" then (setAll values s, true) else s.setLocal key values
    else if op = DEL_COMMAND then
      if key = "all" then (s.delAll, true) else (s.delLocal key, true)
    else (s, true)

end St

/-! ### Sessions after a task -/

section Lookup

variable {t : Sessions} {key key' field : String} {fvs : List FieldValueTuple}
  {h : ExtTreeMap String String} {d : String}

theorem lookup_set :
    (t.set key fvs).lookup key' =
      if key' = key then some (merge ((t.lookup key).getD ∅) fvs) else t.lookup key' :=
  Table.lookup_insert_eq

theorem lastValue_cons {i : FieldValueTuple} :
    St.lastValue field (i :: fvs) d = St.lastValue field fvs (if i.1 = field then i.2 else d) :=
  rfl

/-- A field that is not given keeps its value. -/
theorem lastValue_of_not_any (hout : fvs.any (·.1 = field) = false) :
    St.lastValue field fvs d = d := by
  induction fvs with
  | nil => rfl
  | cons i fvs ih =>
    rw [List.any_cons, Bool.or_eq_false_iff] at hout
    rw [lastValue_cons, if_neg (of_decide_eq_false hout.1), ih hout.2]

/-- The value of a field that is given is that of the list. -/
theorem lastValue_of_any {d' : String} (hin : fvs.any (·.1 = field) = true) :
    St.lastValue field fvs d = St.lastValue field fvs d' := by
  induction fvs generalizing d d' with
  | nil => cases hin
  | cons i fvs ih =>
    rw [lastValue_cons, lastValue_cons]
    split
    · rfl
    · next hi =>
        rw [List.any_cons, decide_eq_false hi, Bool.false_or] at hin
        exact ih hin

/-- The field of a merged map is the last value that is given, if any. -/
theorem getElem?_merge_last :
    (merge h fvs)[field]? =
      if fvs.any (·.1 = field) then some (St.lastValue field fvs d) else h[field]? := by
  induction fvs generalizing h d with
  | nil => rfl
  | cons i fvs ih =>
    rw [merge_cons, ih (d := if i.1 = field then i.2 else d), lastValue_cons, List.any_cons]
    by_cases hi : i.1 = field
    · rw [decide_eq_true hi, Bool.true_or, if_pos rfl]
      cases hany : fvs.any (·.1 = field) with
      | true => rfl
      | false =>
        rw [if_neg nofun, lastValue_of_not_any hany, if_pos hi]
        simp [hi]
    · rw [decide_eq_false hi, Bool.false_or]
      split
      · rfl
      · simp [ExtTreeMap.getElem?_insert, hi]

/-- The session of a port after those of some ports are set or removed. -/
theorem lookup_handleSessions {p : SflowPortInfo → Bool}
    {fvs : SflowPortInfo → List FieldValueTuple} {enable : Bool}
    {ports : Table String SflowPortInfo} :
    (handleSessions p fvs enable ports t).lookup key =
      match ports.lookup key with
      | some it =>
        if p it then
          if enable then some (merge ((t.lookup key).getD ∅) (fvs it)) else none
        else t.lookup key
      | none => t.lookup key := by
  obtain ⟨entries, hnodup⟩ := ports
  show (entries.foldl _ t).lookup key = match entries.dlookup key with | some it => _ | none => _
  induction entries generalizing t with
  | nil => rfl
  | cons e entries ih =>
    obtain ⟨k, it⟩ := e
    have hnodup' := (List.nodupKeys_cons.mp hnodup)
    rw [List.foldl_cons, ih hnodup'.2]
    by_cases hk : key = k
    · subst hk
      rw [List.dlookup_cons_eq, List.dlookup_eq_none.mpr hnodup'.1]
      simp only
      split
      · split
        · rw [lookup_set, if_pos rfl]
        · rw [Table.lookup_erase_eq, if_pos rfl]
      · rfl
    · rw [List.dlookup_cons_ne _ _ hk]
      have hother : ∀ t' : Sessions, t' = (if p it then if enable then t.set k (fvs it)
          else t.erase k else t) → t'.lookup key = t.lookup key := by
        rintro t' rfl
        split
        · split
          · rw [lookup_set, if_neg hk]
          · rw [Table.lookup_erase_eq, if_neg hk]
        · rfl
      rw [hother _ rfl]

end Lookup

/-! ### What is configured -/

/-- The rate and the admin state that a port is given, where it has a setting of its own. -/
structure LocalConf where
  rate : Option String
  admin : Option String

structure PortConf where
  speed : String
  localConf : Option LocalConf

structure Conf where
  ports : Table String PortConf
  allConf : Bool
  enabled : Bool

/-- Nothing is configured: the setting for all ports is up. -/
def Conf.init : Conf := ⟨∅, true, false⟩

/-- The last value that is given for a field. -/
def given (field : String) (values : List FieldValueTuple) : Option String :=
  if values.any (·.1 = field) then some (St.lastValue field values "") else none

/-- The session that a port is to have while sFlow is enabled. -/
def PortConf.session (allConf : Bool) (port : PortConf) : Option (String × String) :=
  match port.localConf with
  | some l => some (l.rate.getD (defaultRate port.speed), l.admin.getD "up")
  | none => if allConf then some (defaultRate port.speed, "up") else none

/-- The rate and the admin state of the session that a port is to have. -/
def Conf.session (c : Conf) (key : String) : Option (String × String) :=
  if c.enabled then (c.ports.lookup key).bind (·.session c.allConf) else none

/-- What is configured after a task.  What a port is given stays until its setting is
removed; a setting of a port that is not there is not taken. -/
def Conf.after (c : Conf) (task : Task) : Conf :=
  let key := task.kco.kfvKey
  let op := task.kco.kfvOp
  let values := task.kco.kfvFieldsValues
  match task.table with
  | .CFG_PORT_TABLE =>
    if op = SET_COMMAND then
      let port := (c.ports.lookup key).getD ⟨SFLOW_ERROR_SPEED_STR, none⟩
      let port := { port with speed := (given "speed" values).getD port.speed }
      { c with ports := c.ports.insert key port }
    else if op = DEL_COMMAND then { c with ports := c.ports.erase key }
    else c
  | .CFG_SFLOW_TABLE =>
    if op = SET_COMMAND then
      { c with enabled := (given "admin_state" values).elim c.enabled fun v => v = "up" }
    else if op = DEL_COMMAND then { c with enabled := false }
    else c
  | .CFG_SFLOW_SESSION_TABLE =>
    if op = SET_COMMAND then
      if key = "all" then
        { c with allConf := (given "admin_state" values).elim c.allConf fun v => v = "up" }
      else
        match c.ports.lookup key with
        | none => c
        | some port =>
          let old := port.localConf.getD ⟨none, none⟩
          let localConf : LocalConf :=
            ⟨(given "sample_rate" values).or old.rate, (given "admin_state" values).or old.admin⟩
          { c with ports := c.ports.insert key { port with localConf := some localConf } }
    else if op = DEL_COMMAND then
      if key = "all" then { c with allConf := true }
      else
        match c.ports.lookup key with
        | none => c
        | some port => { c with ports := c.ports.insert key { port with localConf := none } }
    else c

/-! ### The sessions against what is configured -/

/-- A session is there if one is wanted, with the rate and the admin state. -/
def SessionIs (fields : Option (ExtTreeMap String String)) : Option (String × String) → Prop
  | none => fields = none
  | some (rate, admin) => ∃ f, fields = some f ∧ f["sample_rate"]? = some rate ∧
      f["admin_state"]? = some admin

/-- The ports that have a record are those that are configured, and the sessions are those
that they are to have. -/
structure Follows (s : St) (c : Conf) : Prop where
  ports : ∀ key, (s.m_sflowPortConfMap.lookup key).isSome = (c.ports.lookup key).isSome
  sessions : ∀ key, SessionIs (s.m_appSflowSessionTable.lookup key) (c.session key)

/-- The record of a port: a default rate is filled in where none is given. -/
structure Recorded (port_info : SflowPortInfo) (port : PortConf) : Prop where
  speed : port_info.speed = port.speed
  localConf : port_info.local_conf = port.localConf.isSome
  unset : port.localConf = none → port_info.rate = "" ∧ port_info.admin = ""
  set : ∀ l, port.localConf = some l →
    port_info.rate = l.rate.getD (defaultRate port.speed) ∧ l.rate ≠ some "" ∧
      port_info.admin = l.admin.getD "up" ∧ port_info.admin ≠ ""

structure Inv (s : St) (c : Conf) : Prop where
  enabled : s.m_gEnable = c.enabled
  allConf : s.m_intfAllConf = c.allConf
  ports : ∀ key, Option.Rel Recorded (s.m_sflowPortConfMap.lookup key) (c.ports.lookup key)
  sessions : ∀ key, SessionIs (s.m_appSflowSessionTable.lookup key) (c.session key)

/-- A port has the default rate, or will have it when sFlow is enabled again. -/
def Conf.UsesDefault (c : Conf) (port : PortConf) : Prop :=
  match port.localConf with
  | some l => l.rate = none
  | none => c.enabled ∧ c.allConf

/-- A task that leaves no session behind, makes none, and changes none, that it should not:
no field is given twice; the speed of a port changes only if its default rate is not used;
sFlow is removed only if no port has a setting of its own; a port is given a setting, not
one of empty texts, only while sFlow is enabled, and the settings are removed only then or
where there is no setting for all ports to fall back to. -/
def Safe (c : Conf) (task : Task) : Prop :=
  let key := task.kco.kfvKey
  let op := task.kco.kfvOp
  let values := task.kco.kfvFieldsValues
  (values.map (·.1)).Nodup ∧
  match task.table with
  | .CFG_PORT_TABLE =>
    op = SET_COMMAND → ∀ port, c.ports.lookup key = some port → c.UsesDefault port →
      defaultRate ((given "speed" values).getD port.speed) = defaultRate port.speed
  | .CFG_SFLOW_TABLE =>
    op = DEL_COMMAND → c.enabled → ∀ key port, c.ports.lookup key = some port →
      port.localConf = none
  | .CFG_SFLOW_SESSION_TABLE =>
    (op = SET_COMMAND → key ≠ "all" → (c.ports.lookup key).isSome →
      c.enabled ∧ given "sample_rate" values ≠ some "" ∧ given "admin_state" values ≠ some "") ∧
    (op = DEL_COMMAND → key = "all" → c.enabled ∨ c.allConf) ∧
    (op = DEL_COMMAND → key ≠ "all" →
      (c.ports.lookup key).isSome ∧ (c.enabled ∨ c.allConf = false))

section Given

variable {values : List FieldValueTuple} {field : String} {i : FieldValueTuple} {s : St}

theorem given_cons_of_ne (h : i.1 ≠ field) : given field (i :: values) = given field values := by
  rw [given, given, List.any_cons, decide_eq_false h, Bool.false_or, lastValue_cons, if_neg h]

/-- A field that is given once. -/
theorem given_cons_self (hi : i.1 ∉ values.map (·.1)) :
    given i.1 (i :: values) = some i.2 ∧ values.any (·.1 = i.1) = false := by
  have hout : values.any (·.1 = i.1) = false := by
    rw [List.any_eq_false]
    intro i' hi' heq
    exact hi (List.mem_map.mpr ⟨i', hi', of_decide_eq_true heq⟩)
  rw [given, List.any_cons, decide_eq_true rfl, Bool.true_or, if_pos rfl, lastValue_cons,
    if_pos rfl, lastValue_of_not_any hout]
  exact ⟨rfl, hout⟩

theorem lastValue_eq {d : String} : St.lastValue field values d = (given field values).getD d := by
  unfold given
  split
  · next h => exact lastValue_of_any h
  · next h => exact lastValue_of_not_any (Bool.eq_false_of_not_eq_true h)

theorem given_eq_none : given field values = none ↔ values.any (·.1 = field) = false := by
  unfold given
  split
  · next h => rw [h]; exact ⟨nofun, nofun⟩
  · next h => exact ⟨fun _ => Bool.eq_false_of_not_eq_true h, fun _ => rfl⟩

/-- A change of the global setting. -/
def St.toggle (s : St) (enable : Bool) : St :=
  if enable = s.m_gEnable then s
  else
    let s := { s with m_gEnable := enable }
    (if s.m_intfAllConf then s.sflowHandleSessionAll enable else s).sflowHandleSessionLocal enable

/-- A change of the setting for all ports. -/
def St.toggleAll (s : St) (enable : Bool) : St :=
  { (if enable ≠ s.m_intfAllConf ∧ s.m_gEnable then s.sflowHandleSessionAll enable else s) with
    m_intfAllConf := enable }

theorem setGlobal_of_not_any (h : values.any (·.1 = "admin_state") = false) :
    St.setGlobal values s = s := by
  induction values with
  | nil => rfl
  | cons i values ih =>
    rw [List.any_cons, Bool.or_eq_false_iff] at h
    rw [St.setGlobal, if_neg (of_decide_eq_false h.1), ih h.2]

theorem setGlobal_eq (h : (values.map (·.1)).Nodup) :
    St.setGlobal values s =
      (given "admin_state" values).elim s fun v => s.toggle (v = "up") := by
  induction values with
  | nil => rfl
  | cons i values ih =>
    obtain ⟨hi, hvalues⟩ := List.nodup_cons.mp h
    rw [St.setGlobal]
    split
    · next hadmin =>
        obtain ⟨hgiven, hout⟩ := given_cons_self hi
        rw [hadmin] at hgiven hout
        rw [hgiven, Option.elim_some, St.toggle]
        simp only
        split
        · rfl
        · exact setGlobal_of_not_any hout
    · next hadmin => rw [given_cons_of_ne hadmin, ih hvalues]

theorem setAll_of_not_any (h : values.any (·.1 = "admin_state") = false) :
    St.setAll values s = s := by
  induction values with
  | nil => rfl
  | cons i values ih =>
    rw [List.any_cons, Bool.or_eq_false_iff] at h
    rw [St.setAll, if_neg (of_decide_eq_false h.1), ih h.2]

theorem setAll_eq (h : (values.map (·.1)).Nodup) :
    St.setAll values s =
      (given "admin_state" values).elim s fun v => s.toggleAll (v = "up") := by
  induction values with
  | nil => rfl
  | cons i values ih =>
    obtain ⟨hi, hvalues⟩ := List.nodup_cons.mp h
    rw [St.setAll]
    split
    · next hadmin =>
        obtain ⟨hgiven, hout⟩ := given_cons_self hi
        rw [hadmin] at hgiven hout
        rw [hgiven, Option.elim_some, setAll_of_not_any hout]
        rfl
    · next hadmin => rw [given_cons_of_ne hadmin, ih hvalues]

end Given

/-! ### Sessions of the right fields -/

section Fields

variable {h : ExtTreeMap String String} {speed : String} {port_info : SflowPortInfo}

theorem sessionIs_global :
    SessionIs (some (merge h (sflowGetGlobalInfo speed))) (some (defaultRate speed, "up")) := by
  refine ⟨_, rfl, ?_, ?_⟩
  · rw [getElem?_merge_last (d := "")]
    rfl
  · rw [getElem?_merge_last (d := "")]
    rfl

theorem sessionIs_portInfo (hadmin : port_info.admin ≠ "") :
    SessionIs (some (merge h (sflowGetPortInfo port_info)))
      (some (port_info.rate, port_info.admin)) := by
  have hlength : port_info.admin.length > 0 := by
    rw [gt_iff_lt, Nat.pos_iff_ne_zero]
    exact fun h => hadmin (String.length_eq_zero_iff.mp h)
  rw [sflowGetPortInfo, if_pos hlength]
  refine ⟨_, rfl, ?_, ?_⟩
  · rw [getElem?_merge_last (d := ""), if_pos (by simp)]
    rfl
  · rw [getElem?_merge_last (d := ""), if_pos (by simp)]
    rfl

/-- A field that is filled in if it is not there. -/
theorem getElem?_merge_fill {g : ExtTreeMap String String} {field v : String} {b : Bool} :
    (merge g (if b then [] else [(field, v)]))[field]? = if b then g[field]? else some v := by
  cases b with
  | true => rfl
  | false =>
    show (g.insert field v)[field]? = some v
    exact ExtTreeMap.getElem?_insert_self

theorem getElem?_merge_fill_ne {g : ExtTreeMap String String} {field field' v : String} {b : Bool}
    (hf : field ≠ field') :
    (merge g (if b then [] else [(field, v)]))[field']? = g[field']? := by
  refine getElem?_merge_of_not_mem fun fv hfv => ?_
  cases b with
  | true => cases hfv
  | false =>
    obtain rfl := List.mem_singleton.mp hfv
    exact hf

/-- The values of a setting and the record agree, where both are given or filled in. -/
theorem sessionIs_filled {fvs : List FieldValueTuple} :
    SessionIs (some (merge h (St.sflowCheckAndFillValues port_info fvs).2))
      (some ((St.sflowCheckAndFillValues port_info fvs).1.rate,
        (St.sflowCheckAndFillValues port_info fvs).1.admin)) := by
  unfold St.sflowCheckAndFillValues
  simp only
  rw [merge_append, merge_append]
  refine ⟨_, rfl, ?_, ?_⟩
  · rw [getElem?_merge_fill_ne (by decide), getElem?_merge_fill]
    cases hrate : fvs.any (·.1 = "sample_rate") with
    | true =>
      rw [if_pos rfl, if_neg (by simp), getElem?_merge_last (d := port_info.rate), hrate, if_pos rfl]
    | false => rfl
  · rw [getElem?_merge_fill]
    cases hadmin : fvs.any (·.1 = "admin_state") with
    | true =>
      rw [if_pos rfl, getElem?_merge_fill_ne (show "sample_rate" ≠ "admin_state" by decide),
        if_neg (by simp), getElem?_merge_last (d := port_info.admin), hadmin, if_pos rfl]
    | false => rfl

end Fields

/-! ### What a task does -/

section Step

variable {s : St} {c : Conf} {key key' : String} {values : List FieldValueTuple}

theorem Conf.session_of_disabled (h : c.enabled = false) : c.session key = none :=
  if_neg (by rw [h]; exact nofun)

/-- Ports with and without a record. -/
theorem Inv.port_cases (hs : Inv s c) (key : String) :
    (s.m_sflowPortConfMap.lookup key = none ∧ c.ports.lookup key = none) ∨
      ∃ port_info port, s.m_sflowPortConfMap.lookup key = some port_info ∧
        c.ports.lookup key = some port ∧ Recorded port_info port := by
  have h := hs.ports key
  cases hs' : s.m_sflowPortConfMap.lookup key with
  | none =>
    rw [hs'] at h
    cases hc : c.ports.lookup key with
    | none => exact .inl ⟨rfl, rfl⟩
    | some port =>
      rw [hc] at h
      cases h
  | some port_info =>
    rw [hs'] at h
    cases hc : c.ports.lookup key with
    | none =>
      rw [hc] at h
      cases h
    | some port =>
      rw [hc] at h
      cases h with
      | some h => exact .inr ⟨port_info, port, rfl, rfl, h⟩

/-- One port changes: its record, its setting and its session. -/
theorem Inv.insert (hs : Inv s c) {port_info : SflowPortInfo} {port : PortConf} {t : Sessions}
    (hrec : Recorded port_info port)
    (hother : ∀ key', key' ≠ key → t.lookup key' = s.m_appSflowSessionTable.lookup key')
    (hself : SessionIs (t.lookup key) (if c.enabled then port.session c.allConf else none)) :
    Inv { s with
        m_sflowPortConfMap := s.m_sflowPortConfMap.insert key port_info
        m_appSflowSessionTable := t } { c with ports := c.ports.insert key port } := by
  refine ⟨hs.enabled, hs.allConf, fun key' => ?_, fun key' => ?_⟩
  · show Option.Rel Recorded ((s.m_sflowPortConfMap.insert key port_info).lookup key')
      ((c.ports.insert key port).lookup key')
    rw [Table.lookup_insert_eq, Table.lookup_insert_eq]
    split
    · exact .some hrec
    · exact hs.ports key'
  · show SessionIs (t.lookup key')
      (if c.enabled then ((c.ports.insert key port).lookup key').bind _ else none)
    rw [Table.lookup_insert_eq]
    by_cases hk : key' = key
    · rw [if_pos hk, hk]
      exact hself
    · rw [if_neg hk, hother key' hk]
      exact hs.sessions key'

/-- The session of a port, by what it was. -/
theorem Inv.session_of_lookup (hs : Inv s c) {port : PortConf} (h : c.ports.lookup key = some port) :
    SessionIs (s.m_appSflowSessionTable.lookup key)
      (if c.enabled then port.session c.allConf else none) := by
  have hsession := hs.sessions key
  rw [Conf.session, h] at hsession
  exact hsession

theorem Inv.session_of_none (hs : Inv s c) (h : c.ports.lookup key = none) :
    s.m_appSflowSessionTable.lookup key = none := by
  have hsession := hs.sessions key
  rw [Conf.session, h, Option.bind_none, ite_self] at hsession
  exact hsession

/-- A SET of a port. -/
theorem Inv.setPort (hs : Inv s c)
    (hsafe : ∀ port, c.ports.lookup key = some port → c.UsesDefault port →
      defaultRate ((given "speed" values).getD port.speed) = defaultRate port.speed) :
    Inv (s.setPort key values) { c with
      ports := c.ports.insert key
        { (c.ports.lookup key).getD ⟨SFLOW_ERROR_SPEED_STR, none⟩ with
          speed := (given "speed" values).getD
            ((c.ports.lookup key).getD ⟨SFLOW_ERROR_SPEED_STR, none⟩).speed } } := by
  rcases hs.port_cases key with ⟨hs', hc'⟩ | ⟨port_info, port, hs', hc', hrec⟩
  · -- a new port
    rw [hc', Option.getD_none, St.setPort, hs']
    simp only
    rw [lastValue_eq]
    have hrec : Recorded ⟨false, (given "speed" values).getD SFLOW_ERROR_SPEED_STR, "", ""⟩
        ⟨(given "speed" values).getD SFLOW_ERROR_SPEED_STR, none⟩ :=
      ⟨rfl, rfl, fun _ => ⟨rfl, rfl⟩, nofun⟩
    have hnone := hs.session_of_none hc'
    split
    · next h =>
        refine hs.insert hrec (fun key' hk => lookup_set.trans (if_neg hk)) ?_
        rw [← hs.enabled, if_pos h.1]
        show SessionIs _ (if c.allConf = true then _ else none)
        rw [← hs.allConf, if_pos h.2, lookup_set, if_pos rfl]
        exact sessionIs_global
    · next h =>
        refine hs.insert hrec (fun _ _ => rfl) ?_
        show SessionIs _ (if c.enabled = true then if c.allConf = true then _ else none else none)
        rw [hnone, ← hs.enabled, ← hs.allConf]
        split
        · next h₁ => rw [if_neg fun h₂ => h ⟨h₁, h₂⟩]; rfl
        · rfl
  · -- the speed of a port changes
    rw [hc', Option.getD_some, St.setPort, hs']
    simp only
    rw [lastValue_eq, hrec.speed]
    have hsession := hs.session_of_lookup hc'
    have hsafe := hsafe port hc'
    refine hs.insert ⟨rfl, hrec.localConf, hrec.unset, fun l hl => ?_⟩ (fun _ _ => rfl) ?_
    · obtain ⟨hrate, hne, hadmin⟩ := hrec.set l hl
      refine ⟨?_, hne, hadmin⟩
      cases hr : l.rate with
      | some r => rw [hrate, hr]; rfl
      | none =>
        have huses : c.UsesDefault port := by
          show match port.localConf with | some l => l.rate = none | none => _
          rw [hl]
          exact hr
        rw [hrate, hr, Option.getD_none, Option.getD_none]
        exact (hsafe huses).symm
    · -- the session is wanted as it was
      have heq : (if c.enabled then PortConf.session c.allConf
            { port with speed := (given "speed" values).getD port.speed } else none) =
          if c.enabled then port.session c.allConf else none := by
        split
        · next henabled =>
            unfold PortConf.session
            simp only
            cases hl : port.localConf with
            | some l =>
              cases hr : l.rate with
              | some r => simp only [hr, Option.getD_some]
              | none =>
                have huses : c.UsesDefault port := by
                  show match port.localConf with | some l => l.rate = none | none => _
                  rw [hl]
                  exact hr
                simp only [hr, Option.getD_none, hsafe huses]
            | none =>
              simp only
              split
              · next hall =>
                  have huses : c.UsesDefault port := by
                    show match port.localConf with | some l => l.rate = none | none => _
                    rw [hl]
                    exact ⟨henabled, hall⟩
                  rw [hsafe huses]
              · rfl
        · rfl
      rw [heq]
      exact hsession

/-- A DEL of a port. -/
theorem Inv.delPort (hs : Inv s c) :
    Inv (s.delPort key) { c with ports := c.ports.erase key } := by
  have herase : ∀ {t : Sessions}, (∀ key', key' ≠ key →
      t.lookup key' = s.m_appSflowSessionTable.lookup key') → t.lookup key = none →
      Inv { s with
          m_sflowPortConfMap := s.m_sflowPortConfMap.erase key
          m_appSflowSessionTable := t } { c with ports := c.ports.erase key } := by
    intro t hother hself
    refine ⟨hs.enabled, hs.allConf, fun key' => ?_, fun key' => ?_⟩
    · show Option.Rel Recorded ((s.m_sflowPortConfMap.erase key).lookup key')
        ((c.ports.erase key).lookup key')
      rw [Table.lookup_erase_eq, Table.lookup_erase_eq]
      split
      · exact .none
      · exact hs.ports key'
    · show SessionIs (t.lookup key')
        (if c.enabled then ((c.ports.erase key).lookup key').bind _ else none)
      rw [Table.lookup_erase_eq]
      by_cases hk : key' = key
      · rw [if_pos hk, hk, hself, Option.bind_none, ite_self]
        rfl
      · rw [if_neg hk, hother key' hk]
        exact hs.sessions key'
  rcases hs.port_cases key with ⟨hs', hc'⟩ | ⟨port_info, port, hs', hc', hrec⟩
  · have hports : s.m_sflowPortConfMap.erase key = s.m_sflowPortConfMap :=
      AList.ext (List.kerase_of_notMem_keys (AList.lookup_eq_none.mp hs'))
    have h := herase (t := s.m_appSflowSessionTable) (fun _ _ => rfl) (hs.session_of_none hc')
    rw [hports] at h
    rw [St.delPort, hs']
    exact h
  · rw [St.delPort, hs']
    simp only
    split
    · exact herase (fun key' hk => Table.lookup_erase_eq.trans (if_neg hk))
        (Table.lookup_erase_eq.trans (if_pos rfl))
    · next h =>
        refine herase (fun _ _ => rfl) ?_
        -- there is no session, because none is wanted
        have hsession := hs.session_of_lookup hc'
        have hnone : (if c.enabled then port.session c.allConf else none) = none := by
          split
          · next henabled =>
              have hlocal : port.localConf = none := by
                cases hl : port.localConf with
                | none => rfl
                | some l =>
                  refine absurd (.inr ?_) h
                  rw [hrec.localConf, hl]
                  rfl
              unfold PortConf.session
              rw [hlocal]
              refine if_neg fun hall => h (.inl ⟨?_, ?_⟩)
              · rw [hs.allConf]; exact hall
              · rw [hs.enabled]; exact henabled
          · rfl
        rw [hnone] at hsession
        exact hsession

/-- The sessions of ports without a record are left. -/
theorem lookup_all_of_none {enable : Bool} (h : s.m_sflowPortConfMap.lookup key = none) :
    (s.sflowHandleSessionAll enable).m_appSflowSessionTable.lookup key =
      s.m_appSflowSessionTable.lookup key := by
  show (handleSessions _ _ enable s.m_sflowPortConfMap _).lookup key = _
  rw [lookup_handleSessions, h]

theorem lookup_local_of_none {enable : Bool} (h : s.m_sflowPortConfMap.lookup key = none) :
    (s.sflowHandleSessionLocal enable).m_appSflowSessionTable.lookup key =
      s.m_appSflowSessionTable.lookup key := by
  show (handleSessions _ _ enable s.m_sflowPortConfMap _).lookup key = _
  rw [lookup_handleSessions, h]

theorem lookup_all {enable : Bool} {it : SflowPortInfo}
    (h : s.m_sflowPortConfMap.lookup key = some it) :
    (s.sflowHandleSessionAll enable).m_appSflowSessionTable.lookup key =
      if it.local_conf then s.m_appSflowSessionTable.lookup key
      else if enable then
        some (merge ((s.m_appSflowSessionTable.lookup key).getD ∅) (sflowGetGlobalInfo it.speed))
      else none := by
  show (handleSessions _ _ enable s.m_sflowPortConfMap _).lookup key = _
  rw [lookup_handleSessions, h]
  cases hlocal : it.local_conf <;> simp only [hlocal] <;> rfl

theorem lookup_local {enable : Bool} {it : SflowPortInfo}
    (h : s.m_sflowPortConfMap.lookup key = some it) :
    (s.sflowHandleSessionLocal enable).m_appSflowSessionTable.lookup key =
      if it.local_conf then
        if enable then
          some (merge ((s.m_appSflowSessionTable.lookup key).getD ∅) (sflowGetPortInfo it))
        else none
      else s.m_appSflowSessionTable.lookup key := by
  show (handleSessions _ _ enable s.m_sflowPortConfMap _).lookup key = _
  rw [lookup_handleSessions, h]

/-- A port without a setting of its own has no session where there is none for all ports. -/
theorem Inv.session_of_not_local (hs : Inv s c) {port : PortConf}
    (h : c.ports.lookup key = some port) (hlocal : port.localConf = none)
    (hall : c.enabled = true → c.allConf = false) :
    s.m_appSflowSessionTable.lookup key = none := by
  have hsession := hs.session_of_lookup h
  have hnone : (if c.enabled then port.session c.allConf else none) = none := by
    split
    · next henabled =>
        rw [PortConf.session, hlocal]
        exact if_neg (by rw [hall henabled]; exact nofun)
    · rfl
  rw [hnone] at hsession
  exact hsession

theorem Recorded.localConf_of_true {port_info : SflowPortInfo} {port : PortConf}
    (h : Recorded port_info port) (hlocal : port_info.local_conf = true) :
    ∃ l, port.localConf = some l ∧ port.session c.allConf = some (port_info.rate, port_info.admin) ∧
      port_info.admin ≠ "" := by
  rw [h.localConf] at hlocal
  obtain ⟨l, hl⟩ := Option.isSome_iff_exists.mp hlocal
  obtain ⟨hrate, -, hadmin, hne⟩ := h.set l hl
  refine ⟨l, hl, ?_, hne⟩
  rw [PortConf.session, hl, hrate, hadmin]

theorem Recorded.localConf_of_false {port_info : SflowPortInfo} {port : PortConf}
    (h : Recorded port_info port) (hlocal : port_info.local_conf = false) :
    port.localConf = none ∧ port.session c.allConf =
      if c.allConf then some (defaultRate port_info.speed, "up") else none := by
  rw [h.localConf] at hlocal
  have hl : port.localConf = none := by
    cases hl : port.localConf with
    | none => rfl
    | some l =>
      rw [hl] at hlocal
      cases hlocal
  refine ⟨hl, ?_⟩
  rw [PortConf.session, hl, h.speed]

/-- A change of the global setting. -/
theorem Inv.toggle (hs : Inv s c) (enable : Bool) :
    Inv (s.toggle enable) { c with enabled := enable } := by
  unfold St.toggle
  by_cases henable : enable = s.m_gEnable
  · rw [if_pos henable]
    have hc : ({ c with enabled := enable } : Conf) = c := by
      rw [henable, hs.enabled]
    rw [hc]
    exact hs
  · rw [if_neg henable]
    have hports : (if s.m_intfAllConf then
        ({ s with m_gEnable := enable } : St).sflowHandleSessionAll enable
        else { s with m_gEnable := enable }).m_sflowPortConfMap = s.m_sflowPortConfMap := by
      split <;> rfl
    refine ⟨?_, ?_, fun key => ?_, fun key => ?_⟩
    · show (if _ then _ else _ : St).m_gEnable = enable
      split <;> rfl
    · show (if _ then _ else _ : St).m_intfAllConf = c.allConf
      rw [← hs.allConf]
      split <;> rfl
    · show Option.Rel Recorded ((if _ then _ else _ : St).m_sflowPortConfMap.lookup key) _
      rw [hports]
      exact hs.ports key
    · show SessionIs _ (if enable then (c.ports.lookup key).bind _ else none)
      rcases hs.port_cases key with ⟨hs', hc'⟩ | ⟨port_info, port, hs', hc', hrec⟩
      · have hnone := hs.session_of_none hc'
        rw [hc', Option.bind_none, ite_self, lookup_local_of_none (by rw [hports]; exact hs')]
        split
        · rw [lookup_all_of_none (s := { s with m_gEnable := enable }) hs']
          exact hnone
        · exact hnone
      · rw [hc', Option.bind_some, lookup_local (by rw [hports]; exact hs')]
        cases hlocal : port_info.local_conf with
        | true =>
          obtain ⟨l, -, hwant, hne⟩ := hrec.localConf_of_true (c := c) hlocal
          rw [if_pos rfl]
          show SessionIs _ (if enable then port.session c.allConf else none)
          rw [hwant]
          cases enable with
          | true => exact sessionIs_portInfo hne
          | false => rfl
        | false =>
          obtain ⟨hl, hwant⟩ := hrec.localConf_of_false (c := c) hlocal
          rw [if_neg nofun]
          show SessionIs _ (if enable then port.session c.allConf else none)
          rw [hwant, ← hs.allConf]
          split
          · rw [lookup_all (s := { s with m_gEnable := enable }) hs', hlocal, if_neg nofun]
            cases enable with
            | true => exact sessionIs_global
            | false => rfl
          · next hall =>
              rw [ite_self]
              refine hs.session_of_not_local hc' hl fun _ => ?_
              rw [← hs.allConf]
              exact Bool.eq_false_of_not_eq_true hall

/-- A change of the setting for all ports, while sFlow is enabled or nothing changes. -/
theorem Inv.all (hs : Inv s c) (enable : Bool) (h : c.enabled = true) :
    Inv { s.sflowHandleSessionAll enable with m_intfAllConf := enable }
      { c with allConf := enable } := by
  refine ⟨hs.enabled, rfl, hs.ports, fun key => ?_⟩
  show SessionIs ((s.sflowHandleSessionAll enable).m_appSflowSessionTable.lookup key)
    (if c.enabled then (c.ports.lookup key).bind (·.session enable) else none)
  rw [if_pos h]
  rcases hs.port_cases key with ⟨hs', hc'⟩ | ⟨port_info, port, hs', hc', hrec⟩
  · rw [hc', lookup_all_of_none hs']
    exact hs.session_of_none hc'
  · rw [hc', Option.bind_some, lookup_all hs']
    have hsession := hs.session_of_lookup hc'
    rw [if_pos h] at hsession
    cases hlocal : port_info.local_conf with
    | true =>
      -- its own setting decides
      obtain ⟨l, hl, hwant, -⟩ := hrec.localConf_of_true (c := c) hlocal
      obtain ⟨_, -, hwant', -⟩ := hrec.localConf_of_true (c := { c with allConf := enable }) hlocal
      rw [if_pos rfl, show port.session enable = _ from hwant', ← hwant]
      exact hsession
    | false =>
      obtain ⟨-, hwant⟩ := hrec.localConf_of_false (c := { c with allConf := enable }) hlocal
      rw [if_neg nofun, show port.session enable = _ from hwant]
      cases enable with
      | true => exact sessionIs_global
      | false => rfl

theorem Inv.allConf_of_disabled (hs : Inv s c) (enable : Bool) (h : c.enabled = false) :
    Inv { s with m_intfAllConf := enable } { c with allConf := enable } := by
  refine ⟨hs.enabled, rfl, hs.ports, fun key => ?_⟩
  have hsession := hs.sessions key
  rw [Conf.session_of_disabled h] at hsession
  rw [Conf.session_of_disabled (by exact h)]
  exact hsession

theorem Inv.toggleAll (hs : Inv s c) (enable : Bool) :
    Inv (s.toggleAll enable) { c with allConf := enable } := by
  unfold St.toggleAll
  by_cases henabled : c.enabled = true
  · split
    · exact hs.all enable henabled
    · next h =>
        have henable : enable = s.m_intfAllConf :=
          by_contra fun hne => h ⟨hne, by rw [hs.enabled]; exact henabled⟩
        have hs' : ({ s with m_intfAllConf := enable } : St) = s := by rw [henable]
        have hc' : ({ c with allConf := enable } : Conf) = c := by rw [henable, hs.allConf]
        rw [hs', hc']
        exact hs
  · rw [if_neg fun h => henabled (by rw [← hs.enabled]; exact h.2)]
    exact hs.allConf_of_disabled enable (Bool.eq_false_of_not_eq_true henabled)

/-- A DEL of the SFLOW table, where no port has a setting of its own while it is enabled. -/
theorem Inv.delGlobal (hs : Inv s c)
    (hsafe : c.enabled = true → ∀ key port, c.ports.lookup key = some port →
      port.localConf = none) : Inv s.delGlobal { c with enabled := false } := by
  unfold St.delGlobal
  have hports : (if s.m_gEnable then s.sflowHandleSessionAll false else s).m_sflowPortConfMap =
      s.m_sflowPortConfMap := by
    split <;> rfl
  refine ⟨rfl, ?_, fun key => ?_, fun key => ?_⟩
  · show (if _ then _ else _ : St).m_intfAllConf = c.allConf
    rw [← hs.allConf]
    split <;> rfl
  · show Option.Rel Recorded ((if _ then _ else _ : St).m_sflowPortConfMap.lookup key) _
    rw [hports]
    exact hs.ports key
  · show (if s.m_gEnable then s.sflowHandleSessionAll false else s).m_appSflowSessionTable.lookup
      key = none
    have hsession := hs.sessions key
    split
    · next h =>
        rw [hs.enabled] at h
        rcases hs.port_cases key with ⟨hs', hc'⟩ | ⟨port_info, port, hs', hc', hrec⟩
        · rw [lookup_all_of_none hs']
          exact hs.session_of_none hc'
        · rw [lookup_all hs', hrec.localConf, hsafe h key port hc']
          rfl
    · next h =>
        rw [hs.enabled] at h
        rw [Conf.session_of_disabled (Bool.eq_false_of_not_eq_true h)] at hsession
        exact hsession

/-- A DEL of `all`, while sFlow is enabled or nothing changes. -/
theorem Inv.delAll (hs : Inv s c) (hsafe : c.enabled = true ∨ c.allConf = true) :
    Inv s.delAll { c with allConf := true } := by
  unfold St.delAll
  split
  · next h =>
      rw [hs.allConf] at h
      exact hs.all true (hsafe.resolve_right h)
  · next h =>
      have hall : s.m_intfAllConf = true := not_not.mp h
      have hs' : ({ s with m_intfAllConf := true } : St) = s := by rw [← hall]
      have hc' : ({ c with allConf := true } : Conf) = c := by rw [← hall, hs.allConf]
      rw [hs', hc']
      exact hs

/-- What is filled in for a field: what is given now, or was given before, or the default. -/
theorem fill_eq {field record pre dflt : String} {old : Option String}
    (hrecord : record = old.getD pre) (hpre : pre = dflt ∨ pre = "") (hne : old ≠ some "") :
    (if ¬ values.any (·.1 = field) ∧ St.lastValue field values record = "" then dflt
      else St.lastValue field values record) = ((given field values).or old).getD dflt := by
  rw [lastValue_eq]
  cases hgiven : given field values with
  | some v =>
    have hany : values.any (·.1 = field) = true := by
      by_contra h
      rw [given_eq_none.mpr (Bool.eq_false_of_not_eq_true h)] at hgiven
      cases hgiven
    rw [hany, if_neg fun h => h.1 rfl]
    rfl
  | none =>
    rw [given_eq_none.mp hgiven, Option.getD_none, hrecord]
    show _ = old.getD dflt
    cases old with
    | some v => exact if_neg fun h => hne (congrArg some h.2)
    | none =>
      show (if _ ∧ pre = "" then dflt else pre) = dflt
      rcases hpre with rfl | rfl
      · exact ite_self _
      · exact if_pos ⟨nofun, rfl⟩

/-- A SET of a port's session. -/
theorem Inv.setLocal (hs : Inv s c) {port : PortConf} (hc : c.ports.lookup key = some port)
    (henabled : c.enabled = true) (hrate : given "sample_rate" values ≠ some "")
    (hadmin : given "admin_state" values ≠ some "") :
    Inv (s.setLocal key values).1 { c with
      ports := c.ports.insert key { port with
        localConf := some
          ⟨(given "sample_rate" values).or (port.localConf.getD ⟨none, none⟩).rate,
            (given "admin_state" values).or (port.localConf.getD ⟨none, none⟩).admin⟩ } } := by
  rcases hs.port_cases key with ⟨-, hc'⟩ | ⟨port_info, port', hs', hc', hrec⟩
  · rw [hc] at hc'
    cases hc'
  rw [hc] at hc'
  obtain rfl := Option.some.inj hc'
  rw [St.setLocal, hs']
  -- the rate and the admin state of the record, before
  obtain ⟨l, pre, preAdmin, hl, hrate₀, hpre, hne₀, hadmin₀, hpreAdmin, hne₁⟩ :
      ∃ l pre preAdmin, port.localConf.getD ⟨none, none⟩ = l ∧
        port_info.rate = l.rate.getD pre ∧ (pre = defaultRate port_info.speed ∨ pre = "") ∧
        l.rate ≠ some "" ∧ port_info.admin = l.admin.getD preAdmin ∧
        (preAdmin = "up" ∨ preAdmin = "") ∧ l.admin ≠ some "" := by
    cases hl : port.localConf with
    | none =>
      obtain ⟨h₁, h₂⟩ := hrec.unset hl
      exact ⟨_, "", "", rfl, h₁, .inr rfl, nofun, h₂, .inr rfl, nofun⟩
    | some l =>
      obtain ⟨h₁, h₂, h₃, h₄⟩ := hrec.set l hl
      refine ⟨l, defaultRate port.speed, "up", rfl, h₁, .inl (by rw [hrec.speed]), h₂, h₃,
        .inl rfl, ?_⟩
      intro h
      rw [h₃, h] at h₄
      exact h₄ rfl
  rw [hl]
  have hrate' : (St.sflowCheckAndFillValues port_info values).1.rate =
      ((given "sample_rate" values).or l.rate).getD (defaultRate port.speed) := by
    rw [← hrec.speed]
    exact fill_eq hrate₀ hpre hne₀
  have hadmin' : (St.sflowCheckAndFillValues port_info values).1.admin =
      ((given "admin_state" values).or l.admin).getD "up" :=
    fill_eq hadmin₀ hpreAdmin hne₁
  have hor : ∀ {a b : Option String}, a ≠ some "" → b ≠ some "" → a.or b ≠ some "" := by
    intro a b ha hb
    cases a with
    | some a => exact ha
    | none => exact hb
  refine hs.insert ⟨hrec.speed, rfl, nofun, ?_⟩ (fun key' hk => lookup_set.trans (if_neg hk)) ?_
  · rintro _ ⟨rfl⟩
    refine ⟨hrate', hor hrate hne₀, hadmin', ?_⟩
    show (St.sflowCheckAndFillValues port_info values).1.admin ≠ ""
    rw [hadmin']
    cases ha : (given "admin_state" values).or l.admin with
    | none => exact nofun
    | some a =>
      have hne := hor hadmin hne₁
      rw [ha] at hne
      exact fun h => hne (congrArg some h)
  · rw [if_pos henabled]
    show SessionIs ((Sessions.set _ key _).lookup key) (some (_, _))
    rw [lookup_set, if_pos rfl]
    simp only
    rw [← hrate', ← hadmin']
    exact sessionIs_filled

/-- A DEL of a port's session, while sFlow is enabled or there is no setting to fall back to. -/
theorem Inv.delLocal (hs : Inv s c) {port : PortConf} (hc : c.ports.lookup key = some port)
    (hsafe : c.enabled = true ∨ c.allConf = false) :
    Inv (s.delLocal key) { c with ports := c.ports.insert key { port with localConf := none } } := by
  rcases hs.port_cases key with ⟨-, hc'⟩ | ⟨port_info, port', hs', hc', hrec⟩
  · rw [hc] at hc'
    cases hc'
  rw [hc] at hc'
  obtain rfl := Option.some.inj hc'
  have hlookup : (s.delSession key).m_sflowPortConfMap.lookup key = some port_info := hs'
  rw [St.delLocal, hlookup]
  have hrec' : Recorded ⟨false, port_info.speed, "", ""⟩ { port with localConf := none } :=
    ⟨hrec.speed, rfl, fun _ => ⟨rfl, rfl⟩, nofun⟩
  have hother : ∀ key', key' ≠ key → (s.m_appSflowSessionTable.erase key).lookup key' =
      s.m_appSflowSessionTable.lookup key' := fun key' hk => Table.lookup_erase_eq.trans (if_neg hk)
  simp only [Option.getD_some]
  split
  · next hall =>
      have hall' : c.allConf = true := by
        rw [← hs.allConf]
        exact hall
      have henabled : c.enabled = true := hsafe.resolve_right (by rw [hall']; exact nofun)
      refine hs.insert hrec' (fun key' hk => (lookup_set.trans (if_neg hk)).trans (hother key' hk)) ?_
      rw [if_pos henabled]
      show SessionIs ((Sessions.set _ key _).lookup key) (if c.allConf then some _ else none)
      rw [if_pos hall', lookup_set, if_pos rfl, ← hrec.speed]
      exact sessionIs_global
  · next hall =>
      have hall' : c.allConf = false := by
        rw [← hs.allConf]
        exact Bool.eq_false_of_not_eq_true hall
      have hwant : (if c.enabled then
          PortConf.session c.allConf { port with localConf := none } else none) = none := by
        split
        · rw [hall']
          rfl
        · rfl
      refine hs.insert hrec' hother ?_
      rw [hwant]
      show SessionIs ((s.m_appSflowSessionTable.erase key).lookup key) none
      rw [Table.lookup_erase_eq, if_pos rfl]
      rfl

/-- **What a safe task does.** -/
theorem Inv.doTask {task : Task} (hs : Inv s c) (hsafe : Safe c task) :
    Inv (s.doTask task).1 (c.after task) := by
  obtain ⟨table, key, op, values⟩ := task
  obtain ⟨hnodup, hsafe⟩ := hsafe
  cases table with
  | CFG_PORT_TABLE =>
    simp only [St.doTask, Conf.after]
    split_ifs with hset hdel
    · exact hs.setPort (hsafe hset)
    · exact hs.delPort
    · exact hs
  | CFG_SFLOW_TABLE =>
    simp only [St.doTask, Conf.after]
    split_ifs with hset hdel
    · rw [setGlobal_eq hnodup]
      cases hgiven : given "admin_state" values with
      | none => exact hs
      | some v => exact hs.toggle (v = "up")
    · exact hs.delGlobal (hsafe hdel)
    · exact hs
  | CFG_SFLOW_SESSION_TABLE =>
    obtain ⟨hset', hdelAll, hdelLocal⟩ := hsafe
    simp only [St.doTask, Conf.after]
    split_ifs with hset hall hdel hall
    · rw [setAll_eq hnodup]
      cases hgiven : given "admin_state" values with
      | none => exact hs
      | some v => exact hs.toggleAll (v = "up")
    · cases hc : c.ports.lookup key with
      | none =>
        rcases hs.port_cases key with ⟨hs', -⟩ | ⟨_, _, -, hc', -⟩
        · rw [St.setLocal, hs']
          exact hs
        · rw [hc] at hc'
          cases hc'
      | some port =>
        obtain ⟨h₁, h₂, h₃⟩ := hset' hset hall (by rw [hc]; rfl)
        exact hs.setLocal hc h₁ h₂ h₃
    · exact hs.delAll (hdelAll hdel hall)
    · obtain ⟨hknown, hfall⟩ := hdelLocal hdel hall
      obtain ⟨port, hc⟩ := Option.isSome_iff_exists.mp hknown
      rw [hc]
      exact hs.delLocal hc hfall
    · exact hs

end Step

/-! ### Runs -/

/-- A task is handled, and changes what is configured. -/
def step (a : St × Conf) (task : Task) (b : St × Conf) : Prop :=
  b = ((a.1.doTask task).1, a.2.after task)

theorem inv_init : Inv init Conf.init :=
  ⟨rfl, rfl, fun _ => .none, fun _ => rfl⟩

theorem Inv.follows {s : St} {c : Conf} (hs : Inv s c) : Follows s c := by
  refine ⟨fun key => ?_, hs.sessions⟩
  rcases hs.port_cases key with ⟨hs', hc'⟩ | ⟨_, _, hs', hc', -⟩ <;> rw [hs', hc'] <;> rfl

/-- **Sessions follow the configuration**, on every run of safe tasks. -/
theorem sessions_follow_configuration {tasks : List Task} {b : St × Conf}
    (h : Run (Guarded (fun a => Safe a.2) step) (init, Conf.init) tasks b) : Follows b.1 b.2 := by
  refine Inv.follows (h.keeps (I := fun b => Inv b.1 b.2) inv_init ?_)
  rintro t e u ht ⟨hsafe, rfl⟩
  exact ht.doTask hsafe

def setPortTask : Task :=
  ⟨.CFG_PORT_TABLE, ⟨"Ethernet0", SET_COMMAND, [("speed", "100000")]⟩⟩

def upTask : Task := ⟨.CFG_SFLOW_TABLE, ⟨"global", SET_COMMAND, [("admin_state", "up")]⟩⟩

theorem sessions_follow_up :
    Follows (((init.doTask setPortTask).1).doTask upTask).1
      ((Conf.init.after setPortTask).after upTask) := by
  have hrun : Run (Guarded (fun a => Safe a.2) step) (init, Conf.init) [setPortTask, upTask]
      ((((init.doTask setPortTask).1).doTask upTask).1,
        (Conf.init.after setPortTask).after upTask) := by
    refine .cons ⟨⟨by decide, fun _ _ h => ?_⟩, rfl⟩ (.single ⟨⟨by decide, nofun⟩, rfl⟩)
    cases h
  exact sessions_follow_configuration hrun

/-- A port that is given a setting while sFlow is disabled has a session at once. -/
theorem not_sessions_follow :
    let task : Task := ⟨.CFG_SFLOW_SESSION_TABLE, ⟨"Ethernet0", SET_COMMAND, []⟩⟩
    let s := (((init.doTask setPortTask).1).doTask task).1
    let c := (Conf.init.after setPortTask).after task
    s.m_gEnable = false ∧ c.session "Ethernet0" = none ∧
      (s.m_appSflowSessionTable.lookup "Ethernet0").isSome ∧ ¬ Follows s c := by
  have hsession : ((((init.doTask setPortTask).1).doTask ⟨.CFG_SFLOW_SESSION_TABLE,
      ⟨"Ethernet0", SET_COMMAND, []⟩⟩).1.m_appSflowSessionTable.lookup "Ethernet0").isSome := by
    decide +kernel
  refine ⟨by decide +kernel, by decide +kernel, hsession, fun h => ?_⟩
  have hnone := h.sessions "Ethernet0"
  rw [show Conf.session _ "Ethernet0" = none by decide +kernel] at hnone
  rw [show AList.lookup "Ethernet0" _ = none from hnone] at hsession
  cases hsession

end Cfgmgr.Sflow
