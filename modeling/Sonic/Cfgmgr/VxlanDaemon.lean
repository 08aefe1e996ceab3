/-
Cfgmgr/VxlanDaemon.lean

Runs of `VxlanMgr`.

The devices, the rows of STATE_DB and `m_vnetCache` are consistent after every run in which a
VNET that has devices is not given another VNI (`run_consistent`); `doVxlanCreateTask` looks
for the devices of the new VNI only.  A VNET is taken up by a pass as its readiness demands
exactly if its tunnel or its VRF is missing (`pending_iff`): the address of the router has to
be unknown.
-/
import Sonic.Cfgmgr.VxlanConsistency

namespace Cfgmgr.Vxlan

open Links (Same)
open Orchagent Swss
open Transition (Meets Run Guarded)

variable {deny : Denial} {s s' : St} {info : VxlanInfo} {t : KeyOpFieldsValuesTuple}
  {table : CfgTable} {d d' : Daemon} {e : Event} {dev : String}

/-! ### What the functions leave alone -/

theorem runSteps_frame (deny : Denial) (steps : List (List Command × List (List Command)))
    (s : St) : ∃ host commands,
      (runSteps deny steps s).1 = { s with host := host, commands := commands } := by
  induction steps generalizing s with
  | nil => exact ⟨s.host, s.commands, rfl⟩
  | cons step rest ih =>
    obtain ⟨cmd, rollback⟩ := step
    obtain ⟨host, commands, hcmd⟩ := exec_frame deny cmd s
    rw [runSteps]
    cases (exec deny cmd s).2 with
    | true =>
      rw [if_pos rfl, hcmd]
      exact ih _
    | false =>
      rw [if_neg Bool.false_ne_true, hcmd]
      exact execAll_frame deny rollback _

/-- A creation that succeeds adds a row, and one that fails none. -/
theorem createVxlan_frame (deny : Denial) (info : VxlanInfo) (s : St) :
    ∃ host commands, (createVxlan deny info s).1 =
      { s with
        host := host, commands := commands
        m_stateVxlanTable :=
          if (createVxlan deny info s).2 then
            s.m_stateVxlanTable.insert info.m_vxlan [("state", "ok")]
          else s.m_stateVxlanTable } := by
  obtain ⟨host, commands, heq⟩ := runSteps_frame deny (createSteps info) s
  rw [createVxlan]
  cases hok : (runSteps deny (createSteps info) s).2 with
  | true =>
    rw [if_pos rfl, heq]
    exact ⟨host, commands, rfl⟩
  | false =>
    rw [if_neg Bool.false_ne_true, heq, hok]
    exact ⟨host, commands, rfl⟩

theorem deleteVxlan_frame (deny : Denial) (info : VxlanInfo) (s : St) :
    ∃ host commands, (deleteVxlan deny info s).1 =
      { s with
        host := host, commands := commands
        m_stateVxlanTable := s.m_stateVxlanTable.erase info.m_vxlan } := by
  obtain ⟨host, commands, heq⟩ := execAll_frame deny
    [cmdDetachVxlanIfFromVnet info, cmdDeleteVxlanFromVxlanIf info, cmdDeleteVxlanIf info,
      cmdDeleteVxlan info] s
  refine ⟨host, commands, ?_⟩
  rw [deleteVxlan, heq]

/-- What the readiness of a VNET is read from. -/
structure SameReadiness (s s' : St) : Prop where
  m_vxlanTunnelCache : s'.m_vxlanTunnelCache = s.m_vxlanTunnelCache
  m_stateVrfTable : s'.m_stateVrfTable = s.m_stateVrfTable
  m_appSwitchTable : s'.m_appSwitchTable = s.m_appSwitchTable

namespace SameReadiness

theorem refl (s : St) : SameReadiness s s := ⟨rfl, rfl, rfl⟩

theorem trans {s'' : St} (h : SameReadiness s s') (h' : SameReadiness s' s'') :
    SameReadiness s s'' :=
  ⟨h'.1.trans h.1, h'.2.trans h.2, h'.3.trans h.3⟩

end SameReadiness

theorem createVxlan_sameReadiness : SameReadiness s (createVxlan deny info s).1 := by
  obtain ⟨host, commands, heq⟩ := createVxlan_frame deny info s
  rw [heq]
  exact ⟨rfl, rfl, rfl⟩

theorem doVxlanDeleteTask_sameReadiness : SameReadiness s (doVxlanDeleteTask deny s t).1 := by
  rw [doVxlanDeleteTask]
  cases s.m_vnetCache.lookup t.kfvKey with
  | none => exact .refl s
  | some info =>
    simp only
    split
    · obtain ⟨host, commands, heq⟩ := deleteVxlan_frame deny info s
      show SameReadiness s { (deleteVxlan deny info s).1 with m_vnetCache := _ }
      rw [heq]
      exact ⟨rfl, rfl, rfl⟩
    · exact ⟨rfl, rfl, rfl⟩

theorem updateVxlan_sameReadiness : SameReadiness s (updateVxlan deny s t info) := by
  have hdelete : SameReadiness s
      (if isVxlanStateOk s info.m_vxlan then (doVxlanDeleteTask deny s t).1 else s) := by
    split
    · exact doVxlanDeleteTask_sameReadiness
    · exact .refl s
  rw [updateVxlan]
  generalize (if isVxlanStateOk s info.m_vxlan then (doVxlanDeleteTask deny s t).1 else s) = s₁
    at hdelete ⊢
  have hcreate : SameReadiness s₁ (createVxlan deny info s₁).1 := createVxlan_sameReadiness
  refine hdelete.trans ?_
  simp only
  split
  · exact ⟨hcreate.1, hcreate.2, hcreate.3⟩
  · exact hcreate

/-- A VNET task does not change the readiness of any VNET. -/
theorem handle_vnet_sameReadiness : SameReadiness s (handle deny .CFG_VNET_TABLE s t).1 := by
  rw [handle]
  split
  · show SameReadiness s (doVxlanCreateTask deny s t).1
    rw [doVxlanCreateTask]
    split
    · exact .refl s
    · cases s.m_vxlanTunnelCache.lookup (vnetFields t).1 with
      | none => exact .refl s
      | some tunnel =>
        simp only
        split
        · exact .refl s
        · split
          · exact .refl s
          · exact updateVxlan_sameReadiness
  · split
    · exact doVxlanDeleteTask_sameReadiness
    · exact .refl s

/-! ### Readiness -/

/-- The row names a tunnel and a VNI. -/
def Complete (t : KeyOpFieldsValuesTuple) : Prop := (vnetFields t).1 ≠ "" ∧ (vnetFields t).2 ≠ ""

def TunnelCached (s : St) (t : KeyOpFieldsValuesTuple) : Prop :=
  (s.m_vxlanTunnelCache.lookup (vnetFields t).1).isSome = true

def MacKnown (s : St) : Prop := (getVxlanRouterMacAddress s).1 = true

/-- The tunnel, the VRF and the MAC address of a VNET are there. -/
structure Ready (s : St) (t : KeyOpFieldsValuesTuple) : Prop where
  tunnel : TunnelCached s t
  vrf : isVrfStateOk s t.kfvKey = true
  mac : MacKnown s

/-- The answer of the handler for a complete row. -/
theorem handle_vnet_done (deny : Denial) (hop : t.kfvOp = SET_COMMAND) (hcomplete : Complete t) :
    (handle deny .CFG_VNET_TABLE s t).2 = true ↔
      TunnelCached s t ∧ isVrfStateOk s t.kfvKey = true ∧ ¬ MacKnown s := by
  rw [handle, if_pos hop]
  show (doVxlanCreateTask deny s t).2 = true ↔ _
  rw [doVxlanCreateTask, if_neg (by rw [not_or]; exact hcomplete), TunnelCached]
  cases htunnel : s.m_vxlanTunnelCache.lookup (vnetFields t).1 with
  | none => exact iff_of_false nofun nofun
  | some tunnel =>
    cases hvrf : isVrfStateOk s t.kfvKey with
    | false => exact iff_of_false nofun nofun
    | true =>
      simp only [not_true_eq_false, if_false]
      split
      · next hmac => exact iff_of_false nofun fun h => h.2.2 hmac
      · next hmac => exact iff_of_true rfl ⟨rfl, trivial, hmac⟩

/-- The answer depends on the readiness only. -/
theorem handle_vnet_done_congr (hop : t.kfvOp = SET_COMMAND) (hcomplete : Complete t)
    (hsame : SameReadiness s s') :
    (handle deny .CFG_VNET_TABLE s' t).2 = (handle deny .CFG_VNET_TABLE s t).2 := by
  rw [Bool.eq_iff_iff, handle_vnet_done deny hop hcomplete, handle_vnet_done deny hop hcomplete,
    TunnelCached, TunnelCached, MacKnown, MacKnown, isVrfStateOk, isVrfStateOk,
    getVxlanRouterMacAddress, getVxlanRouterMacAddress, hsame.m_vxlanTunnelCache,
    hsame.m_stateVrfTable, hsame.m_appSwitchTable]

/-- The task of a row is pending after a pass over the VNETs. -/
def PendingAfter (deny : Denial) (d : Daemon) (t : KeyOpFieldsValuesTuple) : Prop :=
  ((step deny d (.doTask .CFG_VNET_TABLE)).m_toSync .CFG_VNET_TABLE).map[t.kfvKey]? = some t

/-- A complete row is taken up exactly if the tunnel and the VRF are there and the MAC address
is not. -/
theorem pendingAfter_iff (hmem : t ∈ (d.m_toSync .CFG_VNET_TABLE).tasks)
    (hop : t.kfvOp = SET_COMMAND) (hcomplete : Complete t) :
    PendingAfter deny d t ↔
      ¬ (TunnelCached d.mgr t ∧ isVrfStateOk d.mgr t.kfvKey = true ∧ ¬ MacKnown d.mgr) := by
  have hslot := getElem?_sweep (handle deny .CFG_VNET_TABLE) (I := SameReadiness d.mgr) hmem
    (.refl d.mgr) (fun s t _ h => h.trans handle_vnet_sameReadiness)
    (fun s h => handle_vnet_done_congr hop hcomplete h)
  rw [PendingAfter, step]
  simp only [Function.update_self]
  rw [hslot, ← handle_vnet_done deny hop hcomplete]
  cases (handle deny .CFG_VNET_TABLE d.mgr t).2 with
  | true => exact iff_of_false nofun fun h => h rfl
  | false => exact iff_of_true rfl nofun

/-- **A row is pending as its readiness demands exactly if the tunnel or the VRF is missing.** -/
theorem pending_iff (hmem : t ∈ (d.m_toSync .CFG_VNET_TABLE).tasks)
    (hop : t.kfvOp = SET_COMMAND) (hcomplete : Complete t) :
    (PendingAfter deny d t ↔ ¬ Ready d.mgr t) ↔
      ¬ (TunnelCached d.mgr t ∧ isVrfStateOk d.mgr t.kfvKey = true) := by
  rw [pendingAfter_iff hmem hop hcomplete]
  have hready : Ready d.mgr t ↔
      TunnelCached d.mgr t ∧ isVrfStateOk d.mgr t.kfvKey = true ∧ MacKnown d.mgr :=
    ⟨fun h => ⟨h.1, h.2, h.3⟩, fun h => ⟨h.1, h.2.1, h.2.2⟩⟩
  rw [hready]
  tauto

/-! ### Tasks -/

/-- A VNET with devices is given another VNI only if that VNI has devices already. -/
def KeepsVni (s : St) (t : KeyOpFieldsValuesTuple) : Prop :=
  match s.m_vnetCache.lookup t.kfvKey with
  | none => True
  | some info =>
    t.kfvOp = SET_COMMAND → info.m_vni = (vnetFields t).2 ∨
      isVxlanStateOk s (VXLAN_NAME_PREFIX ++ (vnetFields t).2) = true

theorem createVxlan_consistent (hdeny : NeverRefused deny) (hcons : Consistent s)
    (hfail : (createVxlan deny info s).2 = false) :
    Consistent (createVxlan deny info s).1 := by
  have hsame := createVxlan_same hdeny hfail
  obtain ⟨host, commands, heq⟩ := createVxlan_frame deny info s
  rw [hfail, if_neg nofun] at heq
  rw [heq] at hsame ⊢
  exact hcons.congr hsame rfl rfl

theorem deleteVxlan_consistent (hdeny : NeverRefused deny) (hcons : Consistent s) :
    Consistent (doVxlanDeleteTask deny s t).1 ∧
      (doVxlanDeleteTask deny s t).1.m_vnetCache.lookup t.kfvKey = none := by
  rw [doVxlanDeleteTask]
  cases hinfo : s.m_vnetCache.lookup t.kfvKey with
  | none => exact ⟨hcons, hinfo⟩
  | some info =>
    have hok : isVxlanStateOk s info.m_vxlan = true := (hcons.state _).mpr ⟨_, info, hinfo, rfl⟩
    have hdrop := deleteVxlan_dropped hdeny hcons hinfo
    obtain ⟨host, commands, heq⟩ := deleteVxlan_frame deny info s
    simp only [if_pos hok]
    show Consistent { (deleteVxlan deny info s).1 with m_vnetCache := _ } ∧ _
    rw [heq] at hdrop ⊢
    exact ⟨hcons.erase hinfo hdrop rfl rfl, Table.lookup_erase_eq.trans (if_pos rfl)⟩

/-- A VNET that has no devices, or whose VNI has, is updated consistently. -/
theorem updateVxlan_consistent (hdeny : NeverRefused deny) (hcons : Consistent s)
    (hnamed : Named t.kfvKey info)
    (hkeeps : ∀ info', s.m_vnetCache.lookup t.kfvKey = some info' →
      isVxlanStateOk s info.m_vxlan = true) :
    Consistent (updateVxlan deny s t info) := by
  -- after the removal the VNET has no devices
  have hdelete : Consistent
        (if isVxlanStateOk s info.m_vxlan then (doVxlanDeleteTask deny s t).1 else s) ∧
      (if isVxlanStateOk s info.m_vxlan then (doVxlanDeleteTask deny s t).1
        else s).m_vnetCache.lookup t.kfvKey = none := by
    cases hok : isVxlanStateOk s info.m_vxlan with
    | true =>
      rw [if_pos rfl]
      exact deleteVxlan_consistent hdeny hcons
    | false =>
      rw [if_neg nofun]
      refine ⟨hcons, Option.eq_none_iff_forall_ne_some.mpr fun info' hinfo' => ?_⟩
      rw [hkeeps info' hinfo'] at hok
      cases hok
  rw [updateVxlan]
  generalize (if isVxlanStateOk s info.m_vxlan then (doVxlanDeleteTask deny s t).1 else s) = s₁
    at hdelete ⊢
  obtain ⟨hcons₁, hout⟩ := hdelete
  cases hcreate : (createVxlan deny info s₁).2 with
  | false =>
    simp only [Bool.false_eq_true, if_false]
    exact createVxlan_consistent hdeny hcons₁ hcreate
  | true =>
    simp only [if_true]
    have hbuilt := createVxlan_built hcreate
    obtain ⟨host, commands, heq⟩ := createVxlan_frame deny info s₁
    rw [hcreate, if_pos rfl] at heq
    rw [heq] at hbuilt ⊢
    refine hcons₁.insert hout hnamed hbuilt ?_ rfl
    rw [hnamed.vnet]

/-- **A VNET task that keeps the VNI is handled consistently.** -/
theorem handle_vnet_consistent (hdeny : NeverRefused deny) (hcons : Consistent s)
    (hkeeps : KeepsVni s t) : Consistent (handle deny .CFG_VNET_TABLE s t).1 := by
  rw [handle]
  split
  · next hop =>
      show Consistent (doVxlanCreateTask deny s t).1
      rw [doVxlanCreateTask]
      split
      · exact hcons
      · cases s.m_vxlanTunnelCache.lookup (vnetFields t).1 with
        | none => exact hcons
        | some tunnel =>
          simp only
          split
          · exact hcons
          · split
            · exact hcons
            · refine updateVxlan_consistent hdeny hcons ⟨rfl, rfl, rfl⟩ fun info hinfo => ?_
              rw [KeepsVni, hinfo] at hkeeps
              rcases hkeeps hop with hvni | hok
              · refine (hcons.state _).mpr ⟨_, info, hinfo, ?_⟩
                rw [(hcons.named hinfo).vxlan, hvni]
                rfl
              · exact hok
  · split
    · exact (deleteVxlan_consistent hdeny hcons).1
    · exact hcons

/-- The tasks of the other tables change no device and no VNET. -/
theorem handle_consistent (htable : table ≠ .CFG_VNET_TABLE) (hcons : Consistent s) :
    Consistent (handle deny table s t).1 := by
  unfold handle
  split
  · cases table with
    | CFG_VNET_TABLE => exact absurd rfl htable
    | CFG_VXLAN_TUNNEL_TABLE => exact hcons.congr (fun _ => rfl) rfl rfl
    | CFG_VXLAN_TUNNEL_MAP_TABLE => exact hcons.congr (fun _ => rfl) rfl rfl
  · split
    · cases table with
      | CFG_VNET_TABLE => exact absurd rfl htable
      | CFG_VXLAN_TUNNEL_TABLE => exact hcons.congr (fun _ => rfl) rfl rfl
      | CFG_VXLAN_TUNNEL_MAP_TABLE => exact hcons.congr (fun _ => rfl) rfl rfl
    · exact hcons

/-! ### The start -/

theorem foldl_clearDevice_gone (hdeny : NeverRefused deny) {devs : List String}
    (hname : startsWith VXLAN_NAME_PREFIX dev = true ∨
      startsWith VXLAN_IF_NAME_PREFIX dev = true)
    (hdev : dev ∈ devs ∨ s.host.lookup dev = none) :
    (devs.foldl (clearDevice deny) s).host.lookup dev = none := by
  induction devs generalizing s with
  | nil => exact hdev.resolve_left List.not_mem_nil
  | cons dev' devs ih =>
    refine ih ?_
    rcases hdev with hmem | hgone
    · rcases List.mem_cons.mp hmem with rfl | hmem
      · right
        rw [clearDevice, if_pos hname]
        exact exec_del hdeny
      · exact .inl hmem
    · right
      rw [clearDevice]
      split
      · exact exec_absent (D := [dev']) (by simp [Command.On]) hgone
      · exact hgone

theorem foldl_clearDevice_frame (deny : Denial) (devs : List String) (s : St) :
    ∃ host commands,
      devs.foldl (clearDevice deny) s = { s with host := host, commands := commands } := by
  induction devs generalizing s with
  | nil => exact ⟨s.host, s.commands, rfl⟩
  | cons dev devs ih =>
    have hstep : ∃ host commands,
        clearDevice deny s dev = { s with host := host, commands := commands } := by
      rw [clearDevice]
      split
      · exact exec_frame deny _ s
      · exact ⟨s.host, s.commands, rfl⟩
    obtain ⟨host, commands, heq⟩ := hstep
    rw [List.foldl_cons, heq]
    exact ih _

theorem startsWith_append (text rest : String) : startsWith text (text ++ rest) = true := by
  rw [startsWith, String.toList_append, List.isPrefixOf_iff_prefix]
  exact List.prefix_append _ _

/-- **The manager starts without VNETs on a host without devices of its own.** -/
theorem boot_consistent (hdeny : NeverRefused deny) (host : Host) :
    Consistent (boot deny host).mgr := by
  let s₀ : St := ⟨[], [], ∅, ∅, none, ∅, ∅, host, 1⟩
  have hboot : (boot deny host).mgr = host.table.keys.foldl (clearDevice deny) s₀ := by
    show clearAllVxlanDevices deny _ = _
    rw [clearAllVxlanDevices, exec, hdeny.listDevices]
    rfl
  have hgone : ∀ dev, startsWith VXLAN_NAME_PREFIX dev = true ∨
      startsWith VXLAN_IF_NAME_PREFIX dev = true →
      (host.table.keys.foldl (clearDevice deny) s₀).host.lookup dev = none := by
    intro dev hname
    refine foldl_clearDevice_gone hdeny hname ?_
    by_cases hmem : dev ∈ host.table
    · exact .inl hmem
    · exact .inr (AList.lookup_eq_none.mpr hmem)
  obtain ⟨host', commands, heq⟩ := foldl_clearDevice_frame deny host.table.keys s₀
  rw [heq] at hgone
  rw [hboot, heq]
  constructor
  case named =>
    intro vnet info hinfo
    cases hinfo
  case devices =>
    intro vnet info hinfo
    cases hinfo
  case state =>
    intro name
    refine iff_of_false (fun h => by cases h) ?_
    rintro ⟨vnet, info, hinfo, -⟩
    cases hinfo
  case apart =>
    intro vnet vnet' info info' hinfo
    cases hinfo
  case hostVxlan =>
    intro vni l hl
    rw [hgone _ (.inl (startsWith_append _ vni))] at hl
    cases hl
  case hostVxlanIf =>
    intro vni l hl
    rw [hgone _ (.inr (startsWith_append _ vni))] at hl
    cases hl
  case alone =>
    intro vnet info n l hinfo
    cases hinfo

/-! ### Runs -/

/-- The VRF of a VNET is a device of its own. -/
theorem addVrf_consistent (hcons : Consistent s) (vrfName : String)
    (hhost : s'.host = addVrf s.host vrfName) (hcache : s'.m_vnetCache = s.m_vnetCache)
    (hstate : s'.m_stateVxlanTable = s.m_stateVxlanTable) : Consistent s' := by
  cases hadd : s.host.add vrfName .vrf none with
  | none =>
    refine hcons.congr (fun n => ?_) hcache hstate
    rw [hhost, addVrf, hadd]
    rfl
  | some h =>
    obtain ⟨hnew, hlookup⟩ := Links.add_eq_some hadd
    have hhost' : s'.host = h := by
      rw [hhost, addVrf, hadd]
      rfl
    have hold : ∀ {n l}, s.host.lookup n = some l → s'.host.lookup n = s.host.lookup n := by
      intro n l hl
      rw [hhost', hlookup, if_neg]
      rintro rfl
      rw [hnew] at hl
      cases hl
    -- a device that is not the new VRF was there
    have hback : ∀ {n l}, s'.host.lookup n = some l → (l.kind = .vrf ∧ l.master = none) ∨
        s.host.lookup n = some l := by
      intro n l hl
      rw [hhost', hlookup] at hl
      split at hl
      · obtain rfl := Option.some.inj hl
        exact .inl ⟨rfl, rfl⟩
      · exact .inr hl
    constructor
    case named =>
      rw [hcache]
      exact hcons.named
    case devices =>
      rw [hcache]
      intro vnet info hinfo
      have hdev := hcons.devices hinfo
      obtain ⟨l, hl, -⟩ := Option.map_eq_some_iff.mp hdev.vrf
      exact hdev.congr (hold hdev.vxlan) (hold hdev.vxlanIf) (hold hl)
    case state =>
      intro name
      rw [isVxlanStateOk, hstate, hcache]
      exact hcons.state name
    case apart =>
      rw [hcache]
      exact hcons.apart
    case hostVxlan =>
      rw [hcache]
      intro vni l hl hkind
      rcases hback hl with ⟨hvrf, -⟩ | hl
      · obtain ⟨vni', sourceIp, hkind⟩ := hkind
        rw [hvrf] at hkind
        cases hkind
      · exact hcons.hostVxlan hl hkind
    case hostVxlanIf =>
      rw [hcache]
      intro vni l hl hkind
      rcases hback hl with ⟨hvrf, -⟩ | hl
      · rw [hvrf] at hkind
        cases hkind
      · exact hcons.hostVxlanIf hl hkind
    case alone =>
      rw [hcache]
      intro vnet info n l hinfo hl
      rcases hback hl with ⟨-, hm⟩ | hl
      · rw [hm]
        exact ⟨(fun h => by cases h), fun h => by cases h⟩
      · exact hcons.alone hinfo hl

/-- Every VNET task of a pass keeps the VNI, in the state that it is handled in. -/
def SafeStep (deny : Denial) (d : Daemon) : Event → Prop
  | .doTask .CFG_VNET_TABLE =>
    Meets KeepsVni (fun s t => (handle deny .CFG_VNET_TABLE s t).1) d.mgr
      (d.m_toSync .CFG_VNET_TABLE).tasks
  | _ => True

/-- **A safe step is consistent.** -/
theorem step_consistent (hdeny : NeverRefused deny) (hcons : Consistent d.mgr)
    (hsafe : SafeStep deny d e) : Consistent (step deny d e).mgr := by
  cases e with
  | pop table entries => exact hcons
  | doTask table =>
    cases table with
    | CFG_VNET_TABLE =>
      exact sweep_keeps_of_meets hcons hsafe fun s t h hkeeps =>
        handle_vnet_consistent hdeny h hkeeps
    | CFG_VXLAN_TUNNEL_TABLE =>
      exact sweep_keeps hcons fun s t _ h => handle_consistent nofun h
    | CFG_VXLAN_TUNNEL_MAP_TABLE =>
      exact sweep_keeps hcons fun s t _ h => handle_consistent nofun h
  | vrfReady vrfName => exact addVrf_consistent hcons vrfName rfl rfl rfl
  | vrfLost vrfName => exact hcons.congr (fun _ => rfl) rfl rfl
  | switchRow row => exact hcons.congr (fun _ => rfl) rfl rfl

/-- The runs of the daemon whose steps are all safe. -/
abbrev SafeRun (deny : Denial) (host : Host) (es : List Event) (d : Daemon) : Prop :=
  Run (Guarded (SafeStep deny) fun d e d' => d' = step deny d e) (boot deny host) es d

theorem run_consistent (hdeny : NeverRefused deny) {host : Host} {es : List Event}
    (hrun : SafeRun deny host es d) : Consistent d.mgr := by
  refine hrun.keeps (I := fun d => Consistent d.mgr) (boot_consistent hdeny host) ?_
  rintro d e d' hcons ⟨hsafe, rfl⟩
  exact step_consistent hdeny hcons hsafe

/-! ### The VNETs and their devices -/

/-- In every state reached, the VNETs, their devices and rows are the same; a row is pending
after a pass unless it is ready; and a creation that fails leaves no device. -/
structure MatchesConfiguration (deny : Denial) (host : Host) : Prop where
  consistent : ∀ {es d}, Run (fun d e d' => d' = step deny d e) (boot deny host) es d →
    Consistent d.mgr
  pending : ∀ {es d}, Run (fun d e d' => d' = step deny d e) (boot deny host) es d →
    ∀ t ∈ (d.m_toSync .CFG_VNET_TABLE).tasks, t.kfvOp = SET_COMMAND → Complete t →
      (PendingAfter deny d t ↔ ¬ Ready d.mgr t)
  undone : ∀ {es d}, Run (fun d e d' => d' = step deny d e) (boot deny host) es d →
    ∀ info, (createVxlan deny info d.mgr).2 = false →
      Same d.mgr.host (createVxlan deny info d.mgr).1.host

/-- A VNET with the VNI 100. -/
def vnetRow : KeyOpFieldsValuesTuple :=
  ⟨"Vnet1", "SET", [("vxlan_tunnel", "tunnel1"), ("vni", "100")]⟩

/-- The tunnel and the VRF of the VNET are made, and its row is read. -/
def prepare : List Event :=
  [.pop .CFG_VXLAN_TUNNEL_TABLE [⟨"tunnel1", "SET", [("src_ip", "10.1.0.32")]⟩],
    .doTask .CFG_VXLAN_TUNNEL_TABLE, .vrfReady "Vnet1", .pop .CFG_VNET_TABLE [vnetRow]]

/-- No command is refused. -/
def permit : Denial := fun _ _ => false

/-- The VNET gets its devices, and its row is read again. -/
def create : List Event := prepare ++ [.doTask .CFG_VNET_TABLE, .pop .CFG_VNET_TABLE [vnetRow]]

def daemonWithVnet : Daemon := create.foldl (step permit) (boot permit .empty)

/-- A VNET that is given another VNI keeps the devices of the old one. -/
example :
    let row : KeyOpFieldsValuesTuple :=
      ⟨"Vnet1", "SET", [("vxlan_tunnel", "tunnel1"), ("vni", "200")]⟩
    let change : List Event := [.pop .CFG_VNET_TABLE [row], .doTask .CFG_VNET_TABLE]
    let d := (create ++ change).foldl (step permit) (boot permit .empty)
    (d.mgr.m_vnetCache.lookup "Vnet1").map VxlanInfo.m_vni = some "200" ∧
      (d.mgr.host.lookup "Vxlan100").isSome = true := by
  decide

end Cfgmgr.Vxlan
