/-
Cfgmgr/VxlanConsistency.lean

VNETs and their VXLAN devices.

`Consistent` says that the host, STATE_DB and `m_vnetCache` describe the same VNETs.
-/
import Sonic.Cfgmgr.VxlanDevices

namespace Cfgmgr.Vxlan

open Links (Same Within)
open Orchagent Swss
open Transition (Meets Run Guarded)

variable {deny : Denial} {s s' : St} {h h' h₁ h₂ h₃ h₄ h₅ h₆ : Host} {info info' : VxlanInfo}
  {t : KeyOpFieldsValuesTuple} {vnet vnet' n : String} {l : Link String Kind (Option String)}

/-! ### A creation that fails -/

theorem createSteps_undone : Undone [] (createSteps info) := by
  have hnil : Removes [] [] := ⟨nofun, nofun⟩
  have hvxlan : Removes [info.m_vxlan] [cmdDeleteVxlan info] := by
    constructor
    · simp [cmdDeleteVxlan, Command.On]
    · simp [cmdDeleteVxlan]
  have hboth : ∀ rollback, [.del info.m_vxlanIf] ∈ rollback → [.del info.m_vxlan] ∈ rollback →
      (∀ cmd ∈ rollback, ∀ c ∈ cmd, c.On [info.m_vxlanIf, info.m_vxlan]) →
      Removes [info.m_vxlanIf, info.m_vxlan] rollback := by
    intro rollback hmem hmem' hon
    refine ⟨hon, fun dev hdev => ?_⟩
    rcases List.mem_cons.mp hdev with rfl | hdev
    · exact hmem
    · rw [List.mem_singleton.mp hdev]
      exact hmem'
  refine ⟨hnil, .inr ⟨info.m_vxlan, _, rfl, rfl, ?_⟩⟩
  refine ⟨hvxlan, .inl ⟨by simp [cmdUpVxlan, Command.On], ?_⟩⟩
  refine ⟨hvxlan, .inr ⟨info.m_vxlanIf, _, rfl, rfl, ?_⟩⟩
  refine ⟨hboth _ ?_ ?_ ?_, .inl ⟨?_, ?_⟩⟩
  · simp [cmdDeleteVxlanIf]
  · simp [cmdDeleteVxlan]
  · simp [cmdDeleteVxlan, cmdDeleteVxlanIf, Command.On]
  · intro c hc
    rw [cmdAddVxlanIntoVxlanIf] at hc
    rcases List.mem_cons.mp hc with rfl | hc
    · simp [Command.On]
    · split at hc
      · rw [List.mem_singleton.mp hc]
        simp [Command.On]
      · cases hc
  refine ⟨hboth _ ?_ ?_ ?_, .inl ⟨?_, ?_⟩⟩
  · simp [cmdDeleteVxlanIf]
  · simp [cmdDeleteVxlan]
  · simp [cmdDeleteVxlan, cmdDeleteVxlanIf, cmdDeleteVxlanFromVxlanIf, Command.On]
  · simp [cmdAttachVxlanIfToVnet, Command.On]
  refine ⟨hboth _ ?_ ?_ ?_, .inl ⟨?_, trivial⟩⟩
  · simp [cmdDeleteVxlanIf]
  · simp [cmdDeleteVxlan]
  · simp [cmdDeleteVxlan, cmdDeleteVxlanIf, cmdDeleteVxlanFromVxlanIf, cmdDetachVxlanIfFromVnet,
      Command.On]
  · simp [cmdUpVxlanIf, Command.On]

/-- **A creation that fails leaves the devices as they were.** -/
theorem createVxlan_same (hdeny : NeverRefused deny)
    (hfail : (createVxlan deny info s).2 = false) :
    Same s.host (createVxlan deny info s).1.host := by
  rw [createVxlan] at hfail ⊢
  cases hok : (runSteps deny (createSteps info) s).2 with
  | true =>
    rw [hok] at hfail
    cases hfail
  | false =>
    rw [if_neg nofun]
    exact runSteps_same hdeny createSteps_undone nofun (.of_new nofun fun n _ => rfl) hok

/-! ### A creation that succeeds -/

/-- The devices of a VNET: a VXLAN device with its VNI, and over it a bridge that is enslaved
to its VRF. -/
structure HasDevices (h : Host) (info : VxlanInfo) : Prop where
  vxlan : h.lookup info.m_vxlan =
    some ⟨.vxlan info.m_vni info.m_sourceIp, true, some info.m_vxlanIf, none⟩
  vxlanIf : h.lookup info.m_vxlanIf =
    some ⟨.bridge, true, some info.m_vnet,
      if info.m_macAddress ≠ "" then some info.m_macAddress else none⟩
  vrf : (h.lookup info.m_vnet).map Link.kind = some .vrf

/-- The devices that a creation adds to a host. -/
structure Built (h h' : Host) (info : VxlanInfo) : Prop extends HasDevices h' info where
  newVxlan : h.lookup info.m_vxlan = none
  newVxlanIf : h.lookup info.m_vxlanIf = none
  other : ∀ n, n ≠ info.m_vxlan → n ≠ info.m_vxlanIf → h'.lookup n = h.lookup n

/-- The effect of `cmdAddVxlanIntoVxlanIf` on a new pair of devices. -/
theorem addIf_lookup (hok : (exec deny (cmdAddVxlanIntoVxlanIf info) s).2 = true)
    (hne : info.m_vxlan ≠ info.m_vxlanIf)
    (hvxlanIf : s.host.lookup info.m_vxlanIf = some ⟨.bridge, false, none, none⟩) :
    ∀ n, (exec deny (cmdAddVxlanIntoVxlanIf info) s).1.host.lookup n =
      if n = info.m_vxlanIf then some ⟨.bridge, false, none,
        if info.m_macAddress ≠ "" then some info.m_macAddress else none⟩
      else if n = info.m_vxlan then
        (s.host.lookup info.m_vxlan).map fun l => { l with master := some info.m_vxlanIf }
      else s.host.lookup n := by
  rw [cmdAddVxlanIntoVxlanIf] at hok ⊢
  obtain ⟨h, commands, heff, heq⟩ := exec_cons_ok hok
  rw [heq] at hok ⊢
  simp only [Command.effect] at heff
  split at heff
  swap
  · cases heff
  obtain ⟨l, l', hl, hl', -, hmaster⟩ := Links.setMaster_eq_some heff
  rw [hvxlanIf] at hl'
  obtain rfl := Option.some.inj hl'
  split
  · next hmac =>
      rw [if_pos hmac] at hok
      have heff' := exec_single_ok hok
      obtain ⟨l', hl', haddr⟩ :=
        Links.setAttrs_eq_some (f := fun _ => some info.m_macAddress) heff'
      rw [hmaster, if_neg (Ne.symm hne), hvxlanIf] at hl'
      obtain rfl := Option.some.inj hl'
      intro n
      rw [haddr, hmaster, hl]
      rfl
  · intro n
    show h.lookup n = _
    rw [hmaster, hl]
    split
    · next hn =>
        rw [if_neg (by rw [hn]; exact hne)]
        rfl
    · next hn =>
        split
        · next hn' => rw [hn', hvxlanIf]
        · rfl

/-- The step that succeeds, and the rest of the steps after it. -/
theorem runSteps_cons_ok {cmd : List Command} {rollback : List (List Command)}
    {rest : List (List Command × List (List Command))}
    (hok : (runSteps deny ((cmd, rollback) :: rest) s).2 = true) :
    (exec deny cmd s).2 = true ∧
      runSteps deny ((cmd, rollback) :: rest) s = runSteps deny rest (exec deny cmd s).1 := by
  rw [runSteps] at hok ⊢
  cases hcmd : (exec deny cmd s).2 with
  | true => exact ⟨rfl, if_pos rfl⟩
  | false =>
    rw [hcmd, if_neg Bool.false_ne_true] at hok
    cases hok

/-- A bridge can be enslaved to a VRF only. -/
theorem kind_of_canEnslave_bridge {kind : Kind} (hcan : canEnslave .bridge kind = true) :
    kind = .vrf := by
  cases kind with
  | vrf => rfl
  | _ => cases hcan

theorem runSteps_built (hok : (runSteps deny (createSteps info) s).2 = true) :
    Built s.host (runSteps deny (createSteps info) s).1.host info := by
  rw [createSteps] at hok ⊢
  -- `cmdCreateVxlan`
  obtain ⟨hcreate, heq⟩ := runSteps_cons_ok hok
  rw [heq] at hok ⊢
  have heff : s.host.add info.m_vxlan (.vxlan info.m_vni info.m_sourceIp) none =
      some (exec deny (cmdCreateVxlan info) s).1.host := exec_single_ok hcreate
  obtain ⟨hnew, h₁⟩ := Links.add_eq_some heff
  generalize (exec deny (cmdCreateVxlan info) s).1 = s₁ at *
  -- `cmdUpVxlan`
  obtain ⟨hup, heq⟩ := runSteps_cons_ok hok
  rw [heq] at hok ⊢
  have heff : s₁.host.setUp info.m_vxlan true =
      some (exec deny (cmdUpVxlan info) s₁).1.host := exec_single_ok hup
  obtain ⟨l, hl, h₂⟩ := Links.setUp_eq_some heff
  rw [h₁, if_pos rfl] at hl
  obtain rfl := Option.some.inj hl
  generalize (exec deny (cmdUpVxlan info) s₁).1 = s₂ at *
  -- `cmdCreateVxlanIf`
  obtain ⟨hcreateIf, heq⟩ := runSteps_cons_ok hok
  rw [heq] at hok ⊢
  have heff : s₂.host.add info.m_vxlanIf .bridge none =
      some (exec deny (cmdCreateVxlanIf info) s₂).1.host := exec_single_ok hcreateIf
  obtain ⟨hnewIf, h₃⟩ := Links.add_eq_some heff
  have hne : info.m_vxlan ≠ info.m_vxlanIf := by
    intro heq
    rw [← heq, h₂, if_pos rfl] at hnewIf
    cases hnewIf
  rw [h₂, if_neg (Ne.symm hne), h₁, if_neg (Ne.symm hne)] at hnewIf
  generalize (exec deny (cmdCreateVxlanIf info) s₂).1 = s₃ at *
  -- `cmdAddVxlanIntoVxlanIf`
  obtain ⟨haddIf, heq⟩ := runSteps_cons_ok hok
  rw [heq] at hok ⊢
  have h₄ := addIf_lookup haddIf hne (by rw [h₃, if_pos rfl])
  generalize (exec deny (cmdAddVxlanIntoVxlanIf info) s₃).1 = s₄ at *
  -- `cmdAttachVxlanIfToVnet`
  obtain ⟨hattach, heq⟩ := runSteps_cons_ok hok
  rw [heq] at hok ⊢
  have heff : s₄.host.setMaster canEnslave info.m_vxlanIf info.m_vnet =
      some (exec deny (cmdAttachVxlanIfToVnet info) s₄).1.host := exec_single_ok hattach
  obtain ⟨l, vrf, hl, hvrf, hcan, h₅⟩ := Links.setMaster_eq_some heff
  rw [h₄, if_pos rfl] at hl
  obtain rfl := Option.some.inj hl
  have hvrfKind := kind_of_canEnslave_bridge hcan
  generalize (exec deny (cmdAttachVxlanIfToVnet info) s₄).1 = s₅ at *
  -- `cmdUpVxlanIf`
  obtain ⟨hupIf, heq⟩ := runSteps_cons_ok hok
  rw [heq]
  have heff : s₅.host.setUp info.m_vxlanIf true =
      some (exec deny (cmdUpVxlanIf info) s₅).1.host := exec_single_ok hupIf
  obtain ⟨l, hl, h₆⟩ := Links.setUp_eq_some heff
  rw [h₅, if_pos rfl] at hl
  obtain rfl := Option.some.inj hl
  have hother : ∀ n, n ≠ info.m_vxlan → n ≠ info.m_vxlanIf →
      (exec deny (cmdUpVxlanIf info) s₅).1.host.lookup n = s.host.lookup n := by
    intro n hn hn'
    rw [h₆, if_neg hn', h₅, if_neg hn', h₄, if_neg hn', if_neg hn, h₃, if_neg hn', h₂, if_neg hn,
      h₁, if_neg hn]
  have hvxlan : (exec deny (cmdUpVxlanIf info) s₅).1.host.lookup info.m_vxlan =
      some ⟨.vxlan info.m_vni info.m_sourceIp, true, some info.m_vxlanIf, none⟩ := by
    rw [h₆, if_neg hne, h₅, if_neg hne, h₄, if_neg hne, if_pos rfl, h₃, if_neg hne, h₂, if_pos rfl]
    rfl
  have hvxlanIf : (exec deny (cmdUpVxlanIf info) s₅).1.host.lookup info.m_vxlanIf =
      some ⟨.bridge, true, some info.m_vnet,
        if info.m_macAddress ≠ "" then some info.m_macAddress else none⟩ := by
    rw [h₆, if_pos rfl]
  -- the VRF is none of the new devices: they are of other kinds
  have hvrf₄ : (s₄.host.lookup info.m_vnet).map Link.kind = some .vrf := by
    rw [hvrf, Option.map_some, hvrfKind]
  have hneIf : info.m_vnet ≠ info.m_vxlanIf := by
    intro heq
    rw [heq, h₄, if_pos rfl] at hvrf₄
    cases hvrf₄
  have hneVxlan : info.m_vnet ≠ info.m_vxlan := by
    intro heq
    rw [heq, h₄, if_neg hne, if_pos rfl, h₃, if_neg hne, h₂, if_pos rfl] at hvrf₄
    cases hvrf₄
  refine ⟨⟨hvxlan, hvxlanIf, ?_⟩, hnew, hnewIf, hother⟩
  show ((exec deny (cmdUpVxlanIf info) s₅).1.host.lookup info.m_vnet).map Link.kind = some .vrf
  rw [h₆, if_neg hneIf, h₅, if_neg hneIf, hvrf, Option.map_some, hvrfKind]

/-- **A creation that succeeds adds the devices of the VNET.** -/
theorem createVxlan_built (hok : (createVxlan deny info s).2 = true) :
    Built s.host (createVxlan deny info s).1.host info := by
  rw [createVxlan] at hok ⊢
  cases hrun : (runSteps deny (createSteps info) s).2 with
  | false =>
    rw [hrun, if_neg nofun] at hok
    rw [hok] at hrun
    cases hrun
  | true => 
    rw [if_pos rfl]
    show Built s.host (runSteps deny (createSteps info) s).1.host info
    exact runSteps_built hrun

/-! ### Names -/

theorem vxlan_name_inj {vni vni' : String}
    (h : VXLAN_NAME_PREFIX ++ vni = VXLAN_NAME_PREFIX ++ vni') : vni = vni' := by
  rw [← String.toList_inj, String.toList_append, String.toList_append] at h
  exact String.toList_inj.mp (List.append_cancel_left h)

theorem vxlanIf_name_inj {vni vni' : String}
    (h : VXLAN_IF_NAME_PREFIX ++ vni = VXLAN_IF_NAME_PREFIX ++ vni') : vni = vni' := by
  rw [← String.toList_inj, String.toList_append, String.toList_append] at h
  exact String.toList_inj.mp (List.append_cancel_left h)

theorem vxlan_name_ne {vni vni' : String} :
    VXLAN_NAME_PREFIX ++ vni ≠ VXLAN_IF_NAME_PREFIX ++ vni' := by
  intro h
  rw [← String.toList_inj, String.toList_append, String.toList_append] at h
  have hhead : some 'V' = some 'B' := congrArg List.head? h
  exact absurd hhead (by decide)

/-! ### One set of VNETs -/

/-- A record with the names that its VNI gives. -/
structure Named (vnet : String) (info : VxlanInfo) : Prop where
  vnet : info.m_vnet = vnet
  vxlan : info.m_vxlan = VXLAN_NAME_PREFIX ++ info.m_vni
  vxlanIf : info.m_vxlanIf = VXLAN_IF_NAME_PREFIX ++ info.m_vni

/-- The host, STATE_DB and `m_vnetCache` describe the same VNETs: each VNET of the cache has
its devices and its row, and there are no other devices or rows. -/
structure Consistent (s : St) : Prop where
  named : ∀ {vnet info}, s.m_vnetCache.lookup vnet = some info → Named vnet info
  devices : ∀ {vnet info}, s.m_vnetCache.lookup vnet = some info → HasDevices s.host info
  state : ∀ name, isVxlanStateOk s name = true ↔
    ∃ vnet info, s.m_vnetCache.lookup vnet = some info ∧ info.m_vxlan = name
  apart : ∀ {vnet vnet' info info'}, s.m_vnetCache.lookup vnet = some info →
    s.m_vnetCache.lookup vnet' = some info' → info.m_vni = info'.m_vni → vnet = vnet'
  hostVxlan : ∀ {vni l}, s.host.lookup (VXLAN_NAME_PREFIX ++ vni) = some l →
    (∃ vni sourceIp, l.kind = .vxlan vni sourceIp) →
    ∃ vnet info, s.m_vnetCache.lookup vnet = some info ∧ info.m_vni = vni
  hostVxlanIf : ∀ {vni l}, s.host.lookup (VXLAN_IF_NAME_PREFIX ++ vni) = some l →
    l.kind = .bridge → ∃ vnet info, s.m_vnetCache.lookup vnet = some info ∧ info.m_vni = vni
  /-- a bridge has the VXLAN device as its only port -/
  alone : ∀ {vnet info n l}, s.m_vnetCache.lookup vnet = some info → s.host.lookup n = some l →
    l.master ≠ some info.m_vxlan ∧ (l.master = some info.m_vxlanIf → n = info.m_vxlan)

namespace Named

/-- Records with different VNIs share no name. -/
theorem names_ne (hnamed : Named vnet info) (hnamed' : Named vnet' info')
    (hvni : info'.m_vni ≠ info.m_vni) :
    (info'.m_vxlan ≠ info.m_vxlan ∧ info'.m_vxlan ≠ info.m_vxlanIf) ∧
      info'.m_vxlanIf ≠ info.m_vxlan ∧ info'.m_vxlanIf ≠ info.m_vxlanIf := by
  rw [hnamed.vxlan, hnamed.vxlanIf, hnamed'.vxlan, hnamed'.vxlanIf]
  exact ⟨⟨fun h => hvni (vxlan_name_inj h), vxlan_name_ne⟩, Ne.symm vxlan_name_ne,
    fun h => hvni (vxlanIf_name_inj h)⟩

end Named

namespace HasDevices

/-- The VRF of a VNET is not one of the devices of another one. -/
theorem vrf_ne (hdev : HasDevices h info) (hdev' : HasDevices h info') :
    info'.m_vnet ≠ info.m_vxlan ∧ info'.m_vnet ≠ info.m_vxlanIf := by
  have hvrf := hdev'.vrf
  constructor
  · intro heq
    rw [heq, hdev.vxlan] at hvrf
    cases hvrf
  · intro heq
    rw [heq, hdev.vxlanIf] at hvrf
    cases hvrf

/-- The devices of a VNET depend on their names and its VRF only. -/
theorem congr (hdev : HasDevices h info) (hvxlan : h'.lookup info.m_vxlan = h.lookup info.m_vxlan)
    (hvxlanIf : h'.lookup info.m_vxlanIf = h.lookup info.m_vxlanIf)
    (hvrf : h'.lookup info.m_vnet = h.lookup info.m_vnet) : HasDevices h' info :=
  ⟨hvxlan.trans hdev.vxlan, hvxlanIf.trans hdev.vxlanIf,
    (congrArg (·.map Link.kind) hvrf).trans hdev.vrf⟩

end HasDevices

/-- What is consistent stays so, where the devices, the rows and the VNETs are the same. -/
theorem Consistent.congr (hcons : Consistent s) (hhost : Same s.host s'.host)
    (hcache : s'.m_vnetCache = s.m_vnetCache)
    (hstate : s'.m_stateVxlanTable = s.m_stateVxlanTable) : Consistent s' where
  named := by
    rw [hcache]
    exact hcons.named
  devices := by
    rw [hcache]
    exact fun hinfo => (hcons.devices hinfo).congr (hhost _) (hhost _) (hhost _)
  state := by
    intro name
    rw [isVxlanStateOk, hstate, hcache]
    exact hcons.state name
  apart := by
    rw [hcache]
    exact hcons.apart
  hostVxlan := by
    intro vni l hl
    rw [hhost] at hl
    rw [hcache]
    exact hcons.hostVxlan hl
  hostVxlanIf := by
    intro vni l hl
    rw [hhost] at hl
    rw [hcache]
    exact hcons.hostVxlanIf hl
  alone := by
    intro vnet info n l hinfo hl
    rw [hcache] at hinfo
    rw [hhost] at hl
    exact hcons.alone hinfo hl

/-! ### A removal -/

/-- The devices that a removal takes from a host. -/
structure Dropped (h h' : Host) (info : VxlanInfo) : Prop where
  vxlan : h'.lookup info.m_vxlan = none
  vxlanIf : h'.lookup info.m_vxlanIf = none
  other : ∀ n, n ≠ info.m_vxlan → n ≠ info.m_vxlanIf → h'.lookup n = h.lookup n

/-- **A removal takes the devices of the VNET, and no other.** -/
theorem deleteVxlan_dropped (hdeny : NeverRefused deny) (hcons : Consistent s)
    (hinfo : s.m_vnetCache.lookup vnet = some info) :
    Dropped s.host (deleteVxlan deny info s).1.host info := by
  have hon : ∀ cmd ∈ [cmdDetachVxlanIfFromVnet info, cmdDeleteVxlanFromVxlanIf info,
      cmdDeleteVxlanIf info, cmdDeleteVxlan info], ∀ c ∈ cmd,
      c.On [info.m_vxlan, info.m_vxlanIf] := by
    simp [cmdDeleteVxlan, cmdDeleteVxlanIf, cmdDeleteVxlanFromVxlanIf, cmdDetachVxlanIfFromVnet,
      Command.On]
  -- the VXLAN device has no slaves, and the bridge only that one
  have hfree : ∀ n l m, n ∉ [info.m_vxlan, info.m_vxlanIf] → s.host.lookup n = some l →
      l.master = some m → m ∉ [info.m_vxlan, info.m_vxlanIf] := by
    intro n l m hn hl hm hmem
    obtain ⟨hvxlan, hvxlanIf⟩ := hcons.alone hinfo hl
    rcases List.mem_cons.mp hmem with rfl | hmem
    · exact hvxlan hm
    · rw [List.mem_singleton.mp hmem] at hm
      exact hn (List.mem_cons.mpr (.inl (hvxlanIf hm)))
  refine ⟨?_, ?_, fun n hn hn' => ?_⟩
  · exact execAll_gone hdeny hon (by simp [cmdDeleteVxlan])
  · exact execAll_gone hdeny hon (by simp [cmdDeleteVxlanIf])
  · exact (execAll_within hon (Within.refl hfree)).old n (by simp [hn, hn'])

/-- Without the devices and the row of a VNET, the others are consistent. -/
theorem Consistent.erase (hcons : Consistent s) (hinfo : s.m_vnetCache.lookup vnet = some info)
    (hdrop : Dropped s.host s'.host info)
    (hcache : s'.m_vnetCache = s.m_vnetCache.erase vnet)
    (hstate : s'.m_stateVxlanTable = s.m_stateVxlanTable.erase info.m_vxlan) : Consistent s' := by
  have hnamed := hcons.named hinfo
  -- another VNET has another VNI
  have hold : ∀ {vnet' info'}, s'.m_vnetCache.lookup vnet' = some info' →
      s.m_vnetCache.lookup vnet' = some info' ∧ info'.m_vni ≠ info.m_vni := by
    intro vnet' info' hinfo'
    rw [hcache] at hinfo'
    obtain ⟨hne, hinfo'⟩ := Table.lookup_erase_iff.mp hinfo'
    exact ⟨hinfo', fun hvni => hne (hcons.apart hinfo' hinfo hvni)⟩
  have hkept : ∀ {vnet' info'}, s.m_vnetCache.lookup vnet' = some info' →
      info'.m_vni ≠ info.m_vni → s'.m_vnetCache.lookup vnet' = some info' := by
    intro vnet' info' hinfo' hvni
    rw [hcache, Table.lookup_erase_iff]
    refine ⟨?_, hinfo'⟩
    rintro rfl
    rw [hinfo] at hinfo'
    exact hvni (congrArg VxlanInfo.m_vni (Option.some.inj hinfo').symm)
  have hthere : ∀ {n l}, s'.host.lookup n = some l →
      s.host.lookup n = some l ∧ n ≠ info.m_vxlan ∧ n ≠ info.m_vxlanIf := by
    intro n l hl
    have hn : n ≠ info.m_vxlan := by
      rintro rfl
      rw [hdrop.vxlan] at hl
      cases hl
    have hn' : n ≠ info.m_vxlanIf := by
      rintro rfl
      rw [hdrop.vxlanIf] at hl
      cases hl
    rw [hdrop.other n hn hn'] at hl
    exact ⟨hl, hn, hn'⟩
  constructor
  case named => exact fun hinfo' => hcons.named (hold hinfo').1
  case devices =>
    intro vnet' info' hinfo'
    obtain ⟨hinfo', hvni⟩ := hold hinfo'
    obtain ⟨⟨h₁, h₂⟩, h₃, h₄⟩ := hnamed.names_ne (hcons.named hinfo') hvni
    obtain ⟨h₅, h₆⟩ := (hcons.devices hinfo).vrf_ne (hcons.devices hinfo')
    exact (hcons.devices hinfo').congr (hdrop.other _ h₁ h₂) (hdrop.other _ h₃ h₄)
      (hdrop.other _ h₅ h₆)
  case state =>
    intro name
    rw [isVxlanStateOk, hstate, Table.lookup_erase_eq]
    constructor
    · intro hok
      split at hok
      · cases hok
      · next hne =>
          obtain ⟨vnet', info', hinfo', hname⟩ := (hcons.state name).mp hok
          refine ⟨vnet', info', hkept hinfo' fun hvni => hne ?_, hname⟩
          rw [← hname, (hcons.named hinfo').vxlan, hvni, hnamed.vxlan]
    · rintro ⟨vnet', info', hinfo', rfl⟩
      obtain ⟨hinfo', hvni⟩ := hold hinfo'
      rw [if_neg (hnamed.names_ne (hcons.named hinfo') hvni).1.1]
      exact (hcons.state _).mpr ⟨vnet', info', hinfo', rfl⟩
  case apart => exact fun hinfo' hinfo'' => hcons.apart (hold hinfo').1 (hold hinfo'').1
  case hostVxlan =>
    intro vni l hl hkind
    obtain ⟨hl, hne, -⟩ := hthere hl
    obtain ⟨vnet', info', hinfo', rfl⟩ := hcons.hostVxlan hl hkind
    refine ⟨vnet', info', hkept hinfo' fun hvni => hne ?_, rfl⟩
    rw [hvni, hnamed.vxlan]
  case hostVxlanIf =>
    intro vni l hl hkind
    obtain ⟨hl, -, hne⟩ := hthere hl
    obtain ⟨vnet', info', hinfo', rfl⟩ := hcons.hostVxlanIf hl hkind
    refine ⟨vnet', info', hkept hinfo' fun hvni => hne ?_, rfl⟩
    rw [hvni, hnamed.vxlanIf]
  case alone => exact fun hinfo' hl => hcons.alone (hold hinfo').1 (hthere hl).1

/-- With new devices and a row for a VNET that had none, all are consistent. -/
theorem Consistent.insert (hcons : Consistent s) (hout : s.m_vnetCache.lookup vnet = none)
    (hnamed : Named vnet info) (hbuilt : Built s.host s'.host info)
    (hcache : s'.m_vnetCache = s.m_vnetCache.insert vnet info)
    (hstate : s'.m_stateVxlanTable = s.m_stateVxlanTable.insert info.m_vxlan [("state", "ok")]) :
    Consistent s' := by
  have hcases : ∀ {vnet' info'}, s'.m_vnetCache.lookup vnet' = some info' →
      (vnet' = vnet ∧ info' = info) ∨ s.m_vnetCache.lookup vnet' = some info' := by
    intro vnet' info' hinfo'
    rw [hcache] at hinfo'
    exact (Table.lookup_insert_iff.mp hinfo').imp id And.right
  have hself : s'.m_vnetCache.lookup vnet = some info := by
    rw [hcache]
    exact Table.lookup_insert_iff.mpr (.inl ⟨rfl, rfl⟩)
  have hkept : ∀ {vnet' info'}, s.m_vnetCache.lookup vnet' = some info' →
      s'.m_vnetCache.lookup vnet' = some info' := by
    intro vnet' info' hinfo'
    rw [hcache, Table.lookup_insert_iff]
    refine .inr ⟨?_, hinfo'⟩
    rintro rfl
    rw [hout] at hinfo'
    cases hinfo'
  -- a device that was there is none of the new ones
  have hthere : ∀ {n l}, s.host.lookup n = some l → n ≠ info.m_vxlan ∧ n ≠ info.m_vxlanIf := by
    intro n l hl
    constructor
    · rintro rfl
      rw [hbuilt.newVxlan] at hl
      cases hl
    · rintro rfl
      rw [hbuilt.newVxlanIf] at hl
      cases hl
  have hvrf : ∀ {info'}, HasDevices s.host info' → ∃ l, s.host.lookup info'.m_vnet = some l := by
    intro info' hdev
    obtain ⟨l, hl, -⟩ := Option.map_eq_some_iff.mp hdev.vrf
    exact ⟨l, hl⟩
  have hdevices : ∀ {vnet' info'}, s'.m_vnetCache.lookup vnet' = some info' →
      HasDevices s'.host info' := by
    intro vnet' info' hinfo'
    rcases hcases hinfo' with ⟨rfl, rfl⟩ | hinfo'
    · exact hbuilt.toHasDevices
    · have hdev := hcons.devices hinfo'
      obtain ⟨l, hl⟩ := hvrf hdev
      obtain ⟨h₁, h₂⟩ := hthere hdev.vxlan
      obtain ⟨h₃, h₄⟩ := hthere hdev.vxlanIf
      obtain ⟨h₅, h₆⟩ := hthere hl
      exact hdev.congr (hbuilt.other _ h₁ h₂) (hbuilt.other _ h₃ h₄) (hbuilt.other _ h₅ h₆)
  have hnamed' : ∀ {vnet' info'}, s'.m_vnetCache.lookup vnet' = some info' →
      Named vnet' info' := by
    intro vnet' info' hinfo'
    rcases hcases hinfo' with ⟨rfl, rfl⟩ | hinfo'
    · exact hnamed
    · exact hcons.named hinfo'
  -- the VNI is one that no other VNET has
  have hvni : ∀ {vnet' info'}, s.m_vnetCache.lookup vnet' = some info' →
      info'.m_vni ≠ info.m_vni := by
    intro vnet' info' hinfo' heq
    refine (hthere (hcons.devices hinfo').vxlan).1 ?_
    rw [(hcons.named hinfo').vxlan, heq, hnamed.vxlan]
  constructor
  case named => exact hnamed'
  case devices => exact hdevices
  case state =>
    intro name
    rw [isVxlanStateOk, hstate, Table.lookup_insert_eq]
    constructor
    · intro hok
      split at hok
      · next heq => exact ⟨vnet, info, hself, heq.symm⟩
      · obtain ⟨vnet', info', hinfo', hname⟩ := (hcons.state name).mp hok
        exact ⟨vnet', info', hkept hinfo', hname⟩
    · rintro ⟨vnet', info', hinfo', rfl⟩
      split
      · rfl
      · next hne =>
          rcases hcases hinfo' with ⟨rfl, rfl⟩ | hinfo'
          · exact absurd rfl hne
          · exact (hcons.state _).mpr ⟨vnet', info', hinfo', rfl⟩
  case apart =>
    intro vnet' vnet'' info' info'' hinfo' hinfo'' heq
    rcases hcases hinfo' with ⟨rfl, rfl⟩ | hinfo'
    · rcases hcases hinfo'' with ⟨rfl, rfl⟩ | hinfo''
      · rfl
      · exact absurd heq.symm (hvni hinfo'')
    · rcases hcases hinfo'' with ⟨rfl, rfl⟩ | hinfo''
      · exact absurd heq (hvni hinfo')
      · exact hcons.apart hinfo' hinfo'' heq
  case hostVxlan =>
    intro vni l hl hkind
    by_cases hn : VXLAN_NAME_PREFIX ++ vni = info.m_vxlan
    · rw [hnamed.vxlan] at hn
      exact ⟨vnet, info, hself, (vxlan_name_inj hn).symm⟩
    · rw [hbuilt.other _ hn (by rw [hnamed.vxlanIf]; exact vxlan_name_ne)] at hl
      obtain ⟨vnet', info', hinfo', heq⟩ := hcons.hostVxlan hl hkind
      exact ⟨vnet', info', hkept hinfo', heq⟩
  case hostVxlanIf =>
    intro vni l hl hkind
    by_cases hn : VXLAN_IF_NAME_PREFIX ++ vni = info.m_vxlanIf
    · rw [hnamed.vxlanIf] at hn
      exact ⟨vnet, info, hself, (vxlanIf_name_inj hn).symm⟩
    · rw [hbuilt.other _ (by rw [hnamed.vxlan]; exact Ne.symm vxlan_name_ne) hn] at hl
      obtain ⟨vnet', info', hinfo', heq⟩ := hcons.hostVxlanIf hl hkind
      exact ⟨vnet', info', hkept hinfo', heq⟩
  case alone =>
    intro vnet' info' n l hinfo' hl
    by_cases hn : n = info.m_vxlan
    · -- the new VXLAN device is a port of the new bridge
      subst hn
      rw [hbuilt.vxlan] at hl
      obtain rfl := Option.some.inj hl
      constructor
      · intro hm
        have hname : info.m_vxlanIf = info'.m_vxlan := Option.some.inj hm
        rw [hnamed.vxlanIf, (hnamed' hinfo').vxlan] at hname
        exact vxlan_name_ne hname.symm
      · intro hm
        have hname : info.m_vxlanIf = info'.m_vxlanIf := Option.some.inj hm
        rw [hnamed.vxlanIf, (hnamed' hinfo').vxlanIf] at hname
        rw [hnamed.vxlan, (hnamed' hinfo').vxlan, vxlanIf_name_inj hname]
    · by_cases hn' : n = info.m_vxlanIf
      · -- the new bridge is enslaved to a VRF
        subst hn'
        rw [hbuilt.vxlanIf] at hl
        obtain rfl := Option.some.inj hl
        obtain ⟨h₁, h₂⟩ := (hdevices hinfo').vrf_ne hbuilt.toHasDevices
        exact ⟨fun hm => h₁ (Option.some.inj hm), fun hm => absurd (Option.some.inj hm) h₂⟩
      · rw [hbuilt.other n hn hn'] at hl
        rcases hcases hinfo' with ⟨rfl, rfl⟩ | hinfo'
        · -- what was there has no master that is new
          have hmaster : ∀ m, l.master = some m → ∃ l', s.host.lookup m = some l' :=
            fun m hm => Links.mem_table.mp (s.host.attached hl hm)
          constructor
          · intro hm
            obtain ⟨l', hl'⟩ := hmaster _ hm
            exact (hthere hl').1 rfl
          · intro hm
            obtain ⟨l', hl'⟩ := hmaster _ hm
            exact absurd rfl (hthere hl').2
        · exact hcons.alone hinfo' hl

end Cfgmgr.Vxlan
