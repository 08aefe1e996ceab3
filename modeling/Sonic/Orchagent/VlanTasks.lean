/-
Orchagent/VlanTasks.lean

When a VLAN task acts on the VLAN of its key and on no other (`NamesOneVlan`).

The number in a key is a text of digits and nothing else (`numberOf`).  As long as the tasks
act on the VLANs of their keys, a VLAN in `m_portList` has the id that its name says, the id
is one that a VLAN can have, and the ASIC has its object with this id (`Inv`).  In such a
state a task acts on the VLAN of its key alone exactly if it `Fits`: there is nothing to do,
or the number is the id of a VLAN, and what is removed is there.
-/
import Sonic.Orchagent.VlanOrch

namespace Orchagent.Vlan

open Numeral Swss
open Copp (sai_object_id_t)
open Transition (Meets)

/-! ### The number in a key -/

/-- The decimal number that is written after the prefix. -/
def numberOf (key : String) : Option ℕ :=
  if key.toList.take 4 = VLAN_PREFIX ∧ suffix key ≠ [] ∧ (suffix key).all (isDigit 10) = true then
    some (value 10 (suffix key))
  else none

/-- The ids that a VLAN can have. -/
def IsVlanId (n : ℕ) : Prop := 1 ≤ n ∧ n ≤ 4094

instance (n : ℕ) : Decidable (IsVlanId n) := inferInstanceAs (Decidable (_ ∧ _))

variable {n m : ℤ} {k : ℕ} {s ds : List Char} {key : String}

theorem IsVlanId.isInt (h : IsVlanId k) : IsInt k := by
  obtain ⟨-, hle⟩ := h
  constructor <;> omega

theorem suffix_vlanAlias : suffix (vlanAlias n) = to_string n := by
  rw [suffix, vlanAlias, String.toList_ofList]
  rfl

theorem vlanAlias_inj (hn : IsInt n) (hm : IsInt m) (h : vlanAlias n = vlanAlias m) : n = m := by
  have hsuffix : to_string n = to_string m := by
    rw [← suffix_vlanAlias, h, suffix_vlanAlias]
  have hread := stoi_to_string hn
  rw [hsuffix, stoi_to_string hm] at hread
  exact (Option.some.inj hread).symm

/-- The number in a key is the one that is read. -/
theorem eq_of_numberOf (hk : numberOf key = some k) (hn : stoi (suffix key) = some n) :
    n = k := by
  rw [numberOf] at hk
  split at hk
  · next h =>
      obtain rfl := Option.some.inj hk
      rw [stoi_digits h.2.1 (List.all_eq_true.mp h.2.2)] at hn
      split at hn
      · exact (Option.some.inj hn).symm
      · cases hn
  · cases hk

/-! ### The property -/

/-- A VLAN that is in the port list. -/
def IsVlanPort (orch : PortsOrch) (vlan_alias : String) (p : Port) : Prop :=
  orch.m_portList vlan_alias = some p ∧ p.m_type = .VLAN

/-- **A task acts on the VLAN whose number is in its key.** -/
structure NamesOneVlan (orch : PortsOrch) (task : KeyOpFieldsValuesTuple)
    (r : PortsOrch.Result) : Prop where
  not_thrown : r.done ≠ .thrown
  ports : ∀ alias_, r.orch.m_portList alias_ ≠ orch.m_portList alias_ →
    ∃ n, numberOf task.kfvKey = some n ∧ IsVlanId n ∧ alias_ = vlanAlias n ∧
      ∀ p, orch.m_portList alias_ = some p ∨ r.orch.m_portList alias_ = some p →
        p.m_type = .VLAN ∧ p.vlan_id = n
  counts : ∀ alias_, r.orch.m_port_ref_count alias_ ≠ orch.m_port_ref_count alias_ →
    ∃ n : ℕ, numberOf task.kfvKey = some n ∧ alias_ = vlanAlias n
  asic : ∀ oid, r.orch.asic oid ≠ orch.asic oid →
    ∀ n, orch.asic oid = some n ∨ r.orch.asic oid = some n →
      numberOf task.kfvKey = some n ∧ IsVlanId n
  mtu : ∀ rif_id mtu, .set_router_interface_mtu rif_id mtu ∈ r.calls →
    ∃ (n : ℕ) (p : Port), numberOf task.kfvKey = some n ∧ IsVlanPort orch (vlanAlias n) p ∧
      p.m_rif_id = rif_id
  /-- a DEL of a VLAN that is not there -/
  absent : task.kfvOp = DEL_COMMAND →
    (∀ (n : ℕ) (p : Port), numberOf task.kfvKey = some n → ¬ IsVlanPort orch (vlanAlias n) p) →
    r.orch = orch ∧ ∀ oid, .remove_vlan oid ∉ r.calls

/-! ### The condition -/

/-- The number in the key is the id of a VLAN. -/
def Named (key : String) : Prop := ∃ n, numberOf key = some n ∧ IsVlanId n

/-- A SET has nothing to do for a VLAN that is there. -/
def NothingToDo (p : Port) (mtu : UInt32) : Prop :=
  mtu = 0 ∨ mtu = p.m_mtu ∧ p.m_rif_id = 0

/-- A DEL is refused before SAI is called. -/
def InUse (orch : PortsOrch) (p : Port) : Prop :=
  ∃ count, orch.m_port_ref_count p.m_alias = some count ∧ (0 < count ∨ p.m_members.Nonempty)

/-- A SET of this VLAN with this MTU. -/
def FitsSet (orch : PortsOrch) (key vlan_alias : String) (mtu : UInt32) (answers : Answers) :
    Prop :=
  (∃ p, orch.m_portList vlan_alias = some p ∧
      (NothingToDo p mtu ∨ p.m_type = .VLAN ∧ Named key)) ∨
    (orch.m_portList vlan_alias = none ∧ (answers.vlan = false ∨ Named key))

/-- A DEL of this VLAN, where a fresh port stands for one that is not there. -/
def FitsDel (orch : PortsOrch) (key vlan_alias : String) : Prop :=
  let p := (orch.m_portList vlan_alias).getD {}
  InUse orch p ∨ IsVlanPort orch vlan_alias p ∧ Named key

/-- The task is carried out as its key says. -/
def Fits (orch : PortsOrch) (task : KeyOpFieldsValuesTuple) (answers : Answers) : Prop :=
  task.kfvKey.toList.take 4 ≠ VLAN_PREFIX ∨
    ∃ n, stoi (suffix task.kfvKey) = some n ∧
      (task.kfvOp = SET_COMMAND → ∃ mtu, PortsOrch.mtuOf task.kfvFieldsValues = some mtu ∧
        FitsSet orch task.kfvKey (vlanAlias n) mtu answers) ∧
      (task.kfvOp = DEL_COMMAND → FitsDel orch task.kfvKey (vlanAlias n))

/-! ### The invariant -/

structure Inv (orch : PortsOrch) : Prop where
  named : ∀ alias_ p, orch.m_portList alias_ = some p → p.m_alias = alias_
  vlan : ∀ alias_ p, IsVlanPort orch alias_ p →
    ∃ n, IsVlanId n ∧ alias_ = vlanAlias n ∧ p.vlan_id = n ∧ orch.asic p.vlan_oid = some n ∧
      ∃ count, orch.m_port_ref_count alias_ = some count
  fresh : ∀ oid, orch.next ≤ oid → orch.asic oid = none

variable {orch orch' : PortsOrch} {task : KeyOpFieldsValuesTuple} {answers : Answers}
  {r : PortsOrch.Result} {p : Port} {mtu : UInt32}

namespace Inv

/-- The name of a VLAN says its id. -/
theorem vlanAlias (h : Inv orch) (hn : IsInt n) (hp : IsVlanPort orch (vlanAlias n) p) :
    ∃ k : ℕ, n = k ∧ IsVlanId k ∧ p.vlan_id = k ∧ orch.asic p.vlan_oid = some k ∧
      ∃ count, orch.m_port_ref_count (Vlan.vlanAlias n) = some count := by
  obtain ⟨k, hk, hname, hrest⟩ := h.vlan _ p hp
  exact ⟨k, vlanAlias_inj hn hk.isInt hname, hk, hrest⟩

end Inv

/-! ### What a task does to one VLAN -/

/-- Between two states only one VLAN is changed: its port, its count, and its object. -/
structure Within (orch orch' : PortsOrch) (n : ℕ) : Prop where
  ports : ∀ alias_, alias_ ≠ vlanAlias n → orch'.m_portList alias_ = orch.m_portList alias_
  vlans : ∀ p, orch.m_portList (vlanAlias n) = some p ∨ orch'.m_portList (vlanAlias n) = some p →
    p.m_type = .VLAN ∧ p.vlan_id = n
  counts : ∀ alias_, alias_ ≠ vlanAlias n →
    orch'.m_port_ref_count alias_ = orch.m_port_ref_count alias_
  asic : ∀ oid, orch'.asic oid ≠ orch.asic oid →
    ∀ vid, orch.asic oid = some vid ∨ orch'.asic oid = some vid → vid = n

/-- The VLAN of the key is changed. -/
theorem NamesOneVlan.of_within (h : Within orch r.orch k) (hk : numberOf task.kfvKey = some k)
    (hid : IsVlanId k) (hdone : r.done ≠ .thrown)
    (hmtu : ∀ rif_id mtu, .set_router_interface_mtu rif_id mtu ∈ r.calls →
      ∃ p, IsVlanPort orch (vlanAlias k) p ∧ p.m_rif_id = rif_id)
    (hdel : task.kfvOp = DEL_COMMAND → ∃ p, IsVlanPort orch (vlanAlias k) p) :
    NamesOneVlan orch task r where
  not_thrown := hdone
  ports := by
    intro alias_ hne
    obtain rfl : alias_ = vlanAlias k := by_contra fun h' => hne (h.ports alias_ h')
    exact ⟨k, hk, hid, rfl, h.vlans⟩
  counts := by
    intro alias_ hne
    exact ⟨k, hk, by_contra fun h' => hne (h.counts alias_ h')⟩
  asic := by
    intro oid hne vid hvid
    obtain rfl := h.asic oid hne vid hvid
    exact ⟨hk, hid⟩
  mtu := by
    intro rif_id mtu hcall
    obtain ⟨p, hp, hrif⟩ := hmtu rif_id mtu hcall
    exact ⟨k, p, hk, hp, hrif⟩
  absent := by
    intro hop hnone
    obtain ⟨p, hp⟩ := hdel hop
    exact absurd hp (hnone k p hk)

/-- Nothing is changed. -/
theorem NamesOneVlan.of_eq (h : r.orch = orch) (hdone : r.done ≠ .thrown)
    (hmtu : ∀ rif_id mtu, .set_router_interface_mtu rif_id mtu ∉ r.calls)
    (hdel : ∀ oid, .remove_vlan oid ∉ r.calls) : NamesOneVlan orch task r where
  not_thrown := hdone
  ports := fun _ hne => absurd (by rw [h]) hne
  counts := fun _ hne => absurd (by rw [h]) hne
  asic := fun _ hne => absurd (by rw [h]) hne
  mtu := fun rif_id mtu hcall => absurd hcall (hmtu rif_id mtu)
  absent := fun _ _ => ⟨h, hdel⟩

/-! ### A SET -/

/-- The state with the MTU of a port set. -/
def PortsOrch.withMtu (orch : PortsOrch) (vlan_alias : String) (p : Port) (mtu : UInt32) :
    PortsOrch :=
  { orch with
    m_portList := Function.update orch.m_portList vlan_alias (some { p with m_mtu := mtu }) }

theorem processAttributes_eq {vlan_alias : String} (hp : orch.m_portList vlan_alias = some p) :
    orch.processAttributes vlan_alias mtu =
      if mtu ≠ 0 then
        (orch.withMtu vlan_alias p mtu,
          if p.m_rif_id ≠ 0 then [.set_router_interface_mtu p.m_rif_id mtu] else [])
      else (orch, []) := by
  rw [PortsOrch.processAttributes, hp]
  rfl

@[simp] theorem withMtu_portList_self {vlan_alias : String} :
    (orch.withMtu vlan_alias p mtu).m_portList vlan_alias = some { p with m_mtu := mtu } :=
  Function.update_self ..

theorem within_withMtu (h : IsVlanPort orch (vlanAlias k) p) (hid : p.vlan_id = k) :
    Within orch (orch.withMtu (vlanAlias k) p mtu) k where
  ports := fun alias_ hne => Function.update_of_ne hne _ _
  vlans := by
    rintro q (hq | hq)
    · obtain rfl := Option.some.inj (h.1.symm.trans hq)
      exact ⟨h.2, hid⟩
    · rw [withMtu_portList_self] at hq
      obtain rfl := Option.some.inj hq
      exact ⟨h.2, hid⟩
  counts := fun _ _ => rfl
  asic := fun _ hne => absurd rfl hne

theorem withMtu_self {vlan_alias : String} (hp : orch.m_portList vlan_alias = some p) :
    orch.withMtu vlan_alias p p.m_mtu = orch := by
  have hsame : Function.update orch.m_portList vlan_alias (some p) = orch.m_portList := by
    rw [← hp, Function.update_eq_self]
  show { orch with m_portList := Function.update orch.m_portList vlan_alias (some p) } = orch
  rw [hsame]

/-- **A SET of a port that is there.** -/
theorem names_setVlan_some (hinv : Inv orch) (hn : stoi (suffix task.kfvKey) = some n)
    (hop : task.kfvOp ≠ DEL_COMMAND) (hp : orch.m_portList (vlanAlias n) = some p) :
    NamesOneVlan orch task (orch.setVlan (vlanAlias n) mtu answers) ↔
      NothingToDo p mtu ∨ p.m_type = .VLAN ∧ Named task.kfvKey := by
  have hset : orch.setVlan (vlanAlias n) mtu answers =
      ⟨(orch.processAttributes (vlanAlias n) mtu).1,
        (orch.processAttributes (vlanAlias n) mtu).2, .erased⟩ := by
    rw [PortsOrch.setVlan, hp]
  rw [hset, processAttributes_eq hp]
  rcases eq_or_ne mtu 0 with hzero | hzero
  · -- no MTU: the SET asks for nothing
    rw [if_neg (not_not.mpr hzero)]
    refine iff_of_true ?_ (.inl (.inl hzero))
    exact NamesOneVlan.of_eq rfl nofun (fun _ _ => List.not_mem_nil)
      fun _ => List.not_mem_nil
  rw [if_pos hzero]
  constructor
  · intro h
    by_cases hsame : mtu = p.m_mtu ∧ p.m_rif_id = 0
    · exact .inl (.inr hsame)
    right
    by_cases hmtu : mtu = p.m_mtu
    · -- the port is left as it is, but the MTU of its interface is set
      have hrif : p.m_rif_id ≠ 0 := fun hrif => hsame ⟨hmtu, hrif⟩
      obtain ⟨k, q, hk, hq, -⟩ := h.mtu p.m_rif_id mtu (by
        show _ ∈ if p.m_rif_id ≠ 0 then _ else _
        rw [if_pos hrif]
        exact List.mem_singleton_self _)
      obtain rfl := eq_of_numberOf hk hn
      obtain rfl := Option.some.inj (hp.symm.trans hq.1)
      obtain ⟨k', hkk', hid, -⟩ := hinv.vlanAlias (isInt_of_stoi hn) hq
      rw [Int.ofNat_inj.mp hkk'] at hk
      exact ⟨hq.2, k', hk, hid⟩
    · -- the port is changed
      obtain ⟨k, hk, hid, -, htype⟩ := h.ports (vlanAlias n) (by
        rw [withMtu_portList_self, hp]
        intro heq
        exact hmtu (congrArg Port.m_mtu (Option.some.inj heq)))
      exact ⟨(htype p (.inl hp)).1, k, hk, hid⟩
  · rintro ((hz | ⟨rfl, hrif⟩) | ⟨htype, k, hk, hid⟩)
    · exact absurd hz hzero
    · rw [withMtu_self hp, if_neg (not_not.mpr hrif)]
      exact NamesOneVlan.of_eq rfl nofun (fun _ _ => List.not_mem_nil)
        fun _ => List.not_mem_nil
    · obtain rfl := eq_of_numberOf hk hn
      obtain ⟨k', hkk', -, hvid, -⟩ := hinv.vlanAlias hid.isInt ⟨hp, htype⟩
      obtain rfl := Int.ofNat_inj.mp hkk'
      refine NamesOneVlan.of_within (within_withMtu ⟨hp, htype⟩ hvid) hk hid nofun ?_
        fun h => absurd h hop
      intro rif_id mtu' hcall
      refine ⟨p, ⟨hp, htype⟩, ?_⟩
      simp only [ne_eq, ite_not] at hcall
      split at hcall
      · exact absurd hcall List.not_mem_nil
      · obtain ⟨hrif, -⟩ := SaiCall.set_router_interface_mtu.inj (List.mem_singleton.mp hcall)
        exact hrif.symm

theorem Within.refl (h : IsVlanPort orch (vlanAlias k) p) (hid : p.vlan_id = k) :
    Within orch orch k where
  ports := fun _ _ => rfl
  vlans := by
    intro q hq
    obtain rfl := Option.some.inj (h.1.symm.trans (or_self_iff.mp hq))
    exact ⟨h.2, hid⟩
  counts := fun _ _ => rfl
  asic := fun _ hne => absurd rfl hne

theorem Within.trans {orch'' : PortsOrch} (h : Within orch orch' k) (h' : Within orch' orch'' k) :
    Within orch orch'' k where
  ports := fun alias_ hne => (h'.ports alias_ hne).trans (h.ports alias_ hne)
  vlans := by
    rintro p (hp | hp)
    · exact h.vlans p (.inl hp)
    · exact h'.vlans p (.inr hp)
  counts := fun alias_ hne => (h'.counts alias_ hne).trans (h.counts alias_ hne)
  asic := by
    intro oid hne vid hvid
    by_cases hfirst : orch'.asic oid = orch.asic oid
    · rw [← hfirst] at hne hvid
      exact h'.asic oid hne vid hvid
    · rcases hvid with hvid | hvid
      · exact h.asic oid hfirst vid (.inl hvid)
      · by_cases hsecond : orch''.asic oid = orch'.asic oid
        · exact h.asic oid hfirst vid (.inr (hsecond ▸ hvid))
        · exact h'.asic oid hsecond vid (.inr hvid)

/-- The port of a VLAN that is created. -/
def PortsOrch.newVlan (orch : PortsOrch) (n : ℤ) : Port :=
  { m_alias := vlanAlias n, m_type := .VLAN, vlan_oid := orch.next,
    vlan_id := (n % 2 ^ 16).toNat }

/-- The state with a VLAN created. -/
def PortsOrch.created (orch : PortsOrch) (n : ℤ) : PortsOrch where
  m_portList := Function.update orch.m_portList (vlanAlias n) (some (orch.newVlan n))
  m_port_ref_count := Function.update orch.m_port_ref_count (vlanAlias n) (some 0)
  asic := Function.update orch.asic orch.next (some (n % 2 ^ 16).toNat)
  next := orch.next + 1

@[simp] theorem created_portList_self :
    (orch.created n).m_portList (vlanAlias n) = some (orch.newVlan n) :=
  Function.update_self ..

@[simp] theorem created_asic_self :
    (orch.created n).asic orch.next = some (n % 2 ^ 16).toNat :=
  Function.update_self ..

theorem addVlan_eq (hn : IsInt n) :
    orch.addVlan (vlanAlias n) answers =
      if answers.vlan then some (orch.created n, [.create_vlan (n % 2 ^ 16).toNat], true)
      else some (orch, [.create_vlan (n % 2 ^ 16).toNat], false) := by
  rw [PortsOrch.addVlan, suffix_vlanAlias, stoi_to_string hn]
  rfl

/-- The state that a SET of a VLAN that is not there leads to. -/
def PortsOrch.createdWith (orch : PortsOrch) (n : ℤ) (mtu : UInt32) : PortsOrch :=
  if mtu ≠ 0 then (orch.created n).withMtu (vlanAlias n) (orch.newVlan n) mtu
  else orch.created n

theorem setVlan_none (hn : IsInt n) (hnone : orch.m_portList (vlanAlias n) = none) :
    orch.setVlan (vlanAlias n) mtu answers =
      if answers.vlan then
        ⟨orch.createdWith n mtu, [.create_vlan (n % 2 ^ 16).toNat], .erased⟩
      else ⟨orch, [.create_vlan (n % 2 ^ 16).toNat], .kept⟩ := by
  rw [PortsOrch.setVlan, hnone, addVlan_eq hn]
  cases answers.vlan with
  | false => rfl
  | true =>
    show PortsOrch.Result.mk ((orch.created n).processAttributes (vlanAlias n) mtu).1
      (_ ++ ((orch.created n).processAttributes (vlanAlias n) mtu).2) .erased = _
    rw [processAttributes_eq created_portList_self, PortsOrch.createdWith]
    split <;> rfl

theorem createdWith_asic : (orch.createdWith n mtu).asic = (orch.created n).asic := by
  rw [PortsOrch.createdWith]
  split <;> rfl

theorem IsVlanId.toNat_emod (h : IsVlanId k) : ((k : ℤ) % 2 ^ 16).toNat = k := by
  obtain ⟨-, hle⟩ := h
  omega

theorem within_created (hinv : Inv orch) (hid : IsVlanId k)
    (hnone : orch.m_portList (vlanAlias k) = none) : Within orch (orch.created k) k where
  ports := fun alias_ hne => Function.update_of_ne hne _ _
  vlans := by
    rintro p (hp | hp)
    · rw [hnone] at hp
      cases hp
    · rw [created_portList_self] at hp
      obtain rfl := Option.some.inj hp
      exact ⟨rfl, hid.toNat_emod⟩
  counts := fun alias_ hne => Function.update_of_ne hne _ _
  asic := by
    intro oid hne vid hvid
    obtain rfl : oid = orch.next := by_contra fun h => hne (Function.update_of_ne h _ _)
    rw [hinv.fresh _ le_rfl, created_asic_self, hid.toNat_emod] at hvid
    rcases hvid with hvid | hvid
    · cases hvid
    · exact (Option.some.inj hvid).symm

theorem within_createdWith (hinv : Inv orch) (hid : IsVlanId k)
    (hnone : orch.m_portList (vlanAlias k) = none) : Within orch (orch.createdWith k mtu) k := by
  have hcreated := within_created hinv hid hnone
  rw [PortsOrch.createdWith]
  split
  · exact hcreated.trans (within_withMtu ⟨created_portList_self, rfl⟩ hid.toNat_emod)
  · exact hcreated

/-- **A SET of a port that is not there.** -/
theorem names_setVlan_none (hinv : Inv orch) (hn : stoi (suffix task.kfvKey) = some n)
    (hop : task.kfvOp ≠ DEL_COMMAND) (hnone : orch.m_portList (vlanAlias n) = none) :
    NamesOneVlan orch task (orch.setVlan (vlanAlias n) mtu answers) ↔
      answers.vlan = false ∨ Named task.kfvKey := by
  rw [setVlan_none (isInt_of_stoi hn) hnone]
  rcases Bool.eq_false_or_eq_true answers.vlan with hcreate | hcreate
  · rw [if_pos hcreate]
    constructor
    · -- the new object has the id of the key
      intro h
      have hnew : (orch.createdWith n mtu).asic orch.next = some (n % 2 ^ 16).toNat := by
        rw [createdWith_asic, created_asic_self]
      obtain ⟨hk, hid⟩ := h.asic orch.next (by
        show (orch.createdWith n mtu).asic orch.next ≠ _
        rw [hnew, hinv.fresh _ le_rfl]
        exact Option.some_ne_none _) _ (.inr hnew)
      exact .inr ⟨_, hk, hid⟩
    · rintro (hrefuse | ⟨k, hk, hid⟩)
      · rw [hcreate] at hrefuse
        cases hrefuse
      · obtain rfl := eq_of_numberOf hk hn
        refine NamesOneVlan.of_within (within_createdWith hinv hid hnone) hk hid nofun ?_
          fun h => absurd h hop
        intro rif_id mtu' hcall
        cases List.mem_singleton.mp hcall
  · rw [if_neg (by rw [hcreate]; exact Bool.false_ne_true)]
    refine iff_of_true ?_ (.inl hcreate)
    refine NamesOneVlan.of_eq rfl nofun (fun _ _ hcall => ?_) fun _ hcall => ?_
    · cases List.mem_singleton.mp hcall
    · cases List.mem_singleton.mp hcall

/-! ### A DEL -/

/-- The state with a VLAN removed. -/
def PortsOrch.removed (orch : PortsOrch) (p : Port) : PortsOrch :=
  { orch with
    m_portList := Function.update orch.m_portList p.m_alias none
    m_port_ref_count := Function.update orch.m_port_ref_count p.m_alias none
    asic := Function.update orch.asic p.vlan_oid none }

@[simp] theorem removed_portList_self : (orch.removed p).m_portList p.m_alias = none :=
  Function.update_self ..

@[simp] theorem removed_asic_self : (orch.removed p).asic p.vlan_oid = none :=
  Function.update_self ..

theorem removeVlan_of_inUse (h : InUse orch p) : orch.removeVlan p answers = (orch, [], false) := by
  obtain ⟨count, hcount, huse⟩ := h
  have hsame : Function.update orch.m_port_ref_count p.m_alias (some count)
      = orch.m_port_ref_count := by
    rw [← hcount, Function.update_eq_self]
  rw [PortsOrch.removeVlan, hcount, Option.getD_some, hsame]
  by_cases hpos : 0 < count
  · rw [if_pos hpos]
  · rw [if_neg hpos, if_pos (huse.resolve_left hpos)]

/-- A VLAN that has a count and no users. -/
theorem removeVlan_of_unused {count : UInt32} (hcount : orch.m_port_ref_count p.m_alias = some count)
    (h : ¬ InUse orch p) :
    orch.removeVlan p answers =
      if answers.vlan then
        (orch.removed p, .remove_vlan p.vlan_oid :: PortsOrch.removeAclTableGroup p answers.ingress,
          true)
      else (orch, [.remove_vlan p.vlan_oid], false) := by
  have hsame : Function.update orch.m_port_ref_count p.m_alias (some count)
      = orch.m_port_ref_count := by
    rw [← hcount, Function.update_eq_self]
  have hpos : ¬ 0 < count := fun hpos => h ⟨count, hcount, .inl hpos⟩
  have hmembers : ¬ p.m_members.Nonempty := fun hmem => h ⟨count, hcount, .inr hmem⟩
  rw [PortsOrch.removeVlan, hcount, Option.getD_some, hsame, if_neg hpos, if_neg hmembers]
  rfl

/-- **What is not in use does not stay as it is without a call to SAI.** -/
theorem removeVlan_acts (answers : Answers) (h : ¬ InUse orch p) :
    (orch.removeVlan p answers).1 ≠ orch ∨
      .remove_vlan p.vlan_oid ∈ (orch.removeVlan p answers).2.1 := by
  cases hcount : orch.m_port_ref_count p.m_alias with
  | some count =>
    right
    rw [removeVlan_of_unused hcount h]
    split
    · exact List.mem_cons_self
    · exact List.mem_singleton_self _
  | none =>
    rw [PortsOrch.removeVlan, hcount, Option.getD_none, if_neg (UInt32.lt_irrefl 0)]
    split
    · -- the count that `operator[]` has made
      left
      intro heq
      have hmade := congrFun (congrArg PortsOrch.m_port_ref_count heq) p.m_alias
      rw [hcount] at hmade
      exact absurd ((Function.update_self ..).symm.trans hmade) (Option.some_ne_none 0)
    · right
      split
      · exact List.mem_cons_self
      · exact List.mem_singleton_self _

theorem within_removed (hinv : Inv orch) (hid : IsVlanId k)
    (h : IsVlanPort orch (vlanAlias k) p) : Within orch (orch.removed p) k := by
  obtain ⟨k', hkk', -, hvid, hasic, -⟩ := hinv.vlanAlias hid.isInt h
  obtain rfl := Int.ofNat_inj.mp hkk'
  have hname := hinv.named _ _ h.1
  exact
    { ports := by
        intro alias_ hne
        exact Function.update_of_ne (hname ▸ hne) _ _
      vlans := by
        rintro q (hq | hq)
        · obtain rfl := Option.some.inj (h.1.symm.trans hq)
          exact ⟨h.2, hvid⟩
        · rw [← hname, removed_portList_self] at hq
          cases hq
      counts := by
        intro alias_ hne
        exact Function.update_of_ne (hname ▸ hne) _ _
      asic := by
        intro oid hne vid hv
        obtain rfl : oid = p.vlan_oid := by_contra fun h' => hne (Function.update_of_ne h' _ _)
        rw [hasic] at hv
        rcases hv with hv | hv
        · exact (Option.some.inj hv).symm
        · rw [removed_asic_self] at hv
          cases hv }

theorem mtu_notMem_removeAclTableGroup {ingress : Bool} {rif_id : sai_object_id_t} :
    .set_router_interface_mtu rif_id mtu ∉ PortsOrch.removeAclTableGroup p ingress := by
  rw [PortsOrch.removeAclTableGroup]
  split <;> (try split_ifs) <;> simp

/-- **A DEL.** -/
theorem names_delVlan (hinv : Inv orch) (hn : stoi (suffix task.kfvKey) = some n)
    (hop : task.kfvOp = DEL_COMMAND) :
    NamesOneVlan orch task (orch.delVlan (vlanAlias n) answers) ↔
      FitsDel orch task.kfvKey (vlanAlias n) := by
  show NamesOneVlan orch task (orch.delVlan (vlanAlias n) answers) ↔
    InUse orch ((orch.m_portList (vlanAlias n)).getD {}) ∨
      IsVlanPort orch (vlanAlias n) ((orch.m_portList (vlanAlias n)).getD {}) ∧ Named task.kfvKey
  rw [PortsOrch.delVlan]
  generalize hp : (orch.m_portList (vlanAlias n)).getD {} = p
  constructor
  · intro h
    by_contra hfits
    rw [not_or] at hfits
    -- no VLAN of this number is there, so nothing may happen
    obtain ⟨heq, hcalls⟩ := h.absent hop (by
      intro k q hk hq
      obtain rfl := eq_of_numberOf hk hn
      rw [hq.1, Option.getD_some] at hp
      obtain ⟨k', hkk', hid, -⟩ := hinv.vlanAlias (isInt_of_stoi hn) hq
      rw [Int.ofNat_inj.mp hkk'] at hk
      exact hfits.2 ⟨hp ▸ hq, k', hk, hid⟩)
    rcases removeVlan_acts answers hfits.1 with hne | hcall
    · exact hne heq
    · exact hcalls _ hcall
  · intro h
    by_cases huse : InUse orch p
    · rw [removeVlan_of_inUse huse]
      exact NamesOneVlan.of_eq rfl nofun (fun _ _ => List.not_mem_nil) fun _ => List.not_mem_nil
    · obtain ⟨hvlan, k, hk, hid⟩ := h.resolve_left huse
      obtain rfl := eq_of_numberOf hk hn
      obtain ⟨k', hkk', -, hvid, -, count, hcount⟩ := hinv.vlanAlias hid.isInt hvlan
      obtain rfl := Int.ofNat_inj.mp hkk'
      rw [← hinv.named _ _ hvlan.1] at hcount
      rw [removeVlan_of_unused hcount huse]
      cases answers.vlan with
      | true =>
        refine NamesOneVlan.of_within (within_removed hinv hid hvlan) hk hid nofun ?_
          fun _ => ⟨p, hvlan⟩
        intro rif_id mtu hcall
        rcases List.mem_cons.mp hcall with hcall | hcall
        · cases hcall
        · exact absurd hcall mtu_notMem_removeAclTableGroup
      | false =>
        -- SAI refuses: the VLAN is there, so the call was right
        refine NamesOneVlan.of_within (.refl hvlan hvid) hk hid nofun ?_ fun _ => ⟨p, hvlan⟩
        intro rif_id mtu hcall
        cases List.mem_singleton.mp hcall

/-! ### One task -/

theorem SET_ne_DEL : SET_COMMAND ≠ DEL_COMMAND := by decide

/-- **A task acts on the VLAN of its key alone exactly if it fits.** -/
theorem names_iff_fits (hinv : Inv orch) :
    NamesOneVlan orch task (orch.vlanTask task answers) ↔ Fits orch task answers := by
  rw [PortsOrch.vlanTask, Fits]
  by_cases hkey : task.kfvKey.toList.take 4 ≠ VLAN_PREFIX
  · rw [if_pos hkey]
    refine iff_of_true ?_ (.inl hkey)
    exact NamesOneVlan.of_eq rfl nofun (fun _ _ => List.not_mem_nil) fun _ => List.not_mem_nil
  rw [if_neg hkey, or_iff_right hkey]
  cases hread : stoi (suffix task.kfvKey) with
  | none =>
    refine iff_of_false (fun h => h.not_thrown rfl) ?_
    rintro ⟨n, hn, -⟩
    cases hn
  | some n =>
    simp only [Option.some.injEq, exists_eq_left']
    by_cases hset : task.kfvOp = SET_COMMAND
    · have hdel : task.kfvOp ≠ DEL_COMMAND := fun h => SET_ne_DEL (hset.symm.trans h)
      simp only [hset, if_true, forall_const, SET_ne_DEL, IsEmpty.forall_iff, and_true]
      cases hmtu : PortsOrch.mtuOf task.kfvFieldsValues with
      | none =>
        refine iff_of_false (fun h => h.not_thrown rfl) ?_
        rintro ⟨mtu, hmtu', -⟩
        cases hmtu'
      | some mtu =>
        simp only [Option.some.injEq, exists_eq_left', FitsSet]
        cases hp : orch.m_portList (vlanAlias n) with
        | none =>
          refine (names_setVlan_none hinv hread hdel hp).trans ?_
          simp
        | some p =>
          refine (names_setVlan_some hinv hread hdel hp).trans ?_
          simp
    · rw [if_neg hset]
      by_cases hdel : task.kfvOp = DEL_COMMAND
      · rw [if_pos hdel]
        refine (names_delVlan hinv hread hdel).trans ?_
        exact ⟨fun h => ⟨fun h' => absurd h' hset, fun _ => h⟩, fun h => h.2 hdel⟩
      · rw [if_neg hdel]
        refine iff_of_true ?_ ⟨fun h => absurd h hset, fun h => absurd h hdel⟩
        exact NamesOneVlan.of_eq rfl nofun (fun _ _ => List.not_mem_nil)
          fun _ => List.not_mem_nil

/-! ### The invariant is kept -/

/-- What is under a name after a write. -/
theorem update_eq_some {f : String → Option Port} {a b : String} {v : Option Port}
    (h : Function.update f a v b = some p) : (b = a ∧ v = some p) ∨ (b ≠ a ∧ f b = some p) := by
  rw [Function.update_apply] at h
  split at h
  · next heq => exact .inl ⟨heq, h⟩
  · next hne => exact .inr ⟨hne, h⟩

namespace Inv

/-- A port is written that may be written. -/
theorem setPort {alias_ : String} (hinv : Inv orch)
    (h : MayWrite (orch.m_portList alias_) alias_ p) :
    Inv { orch with m_portList := Function.update orch.m_portList alias_ (some p) } where
  named := by
    intro name q hq
    rcases update_eq_some hq with ⟨heq, hq⟩ | ⟨hne, hq⟩
    · obtain rfl := Option.some.inj hq
      cases hold : orch.m_portList alias_ with
      | none =>
        rw [hold] at h
        exact h.1.trans heq.symm
      | some q' =>
        rw [hold] at h
        exact h.1.trans ((hinv.named _ _ hold).trans heq.symm)
    · exact hinv.named _ _ hq
  vlan := by
    rintro name q ⟨hq, htype⟩
    rcases update_eq_some hq with ⟨heq, hq⟩ | ⟨hne, hq⟩
    · obtain rfl := Option.some.inj hq
      subst heq
      cases hold : orch.m_portList name with
      | none =>
        rw [hold] at h
        exact absurd htype h.2
      | some q' =>
        rw [hold] at h
        obtain ⟨-, htype', hoid, hid⟩ := h
        rw [hoid, hid]
        exact hinv.vlan name q' ⟨hold, htype' ▸ htype⟩
    · exact hinv.vlan _ _ ⟨hq, htype⟩
  fresh := hinv.fresh

theorem withMtu {vlan_alias : String} (hinv : Inv orch)
    (hp : orch.m_portList vlan_alias = some p) : Inv (orch.withMtu vlan_alias p mtu) := by
  refine hinv.setPort ?_
  rw [hp]
  exact ⟨rfl, rfl, rfl, rfl⟩

theorem created (hinv : Inv orch) (hid : IsVlanId k)
    (hnone : orch.m_portList (Vlan.vlanAlias k) = none) : Inv (orch.created k) where
  named := by
    intro name q hq
    rcases update_eq_some hq with ⟨heq, hq⟩ | ⟨hne, hq⟩
    · obtain rfl := Option.some.inj hq
      exact heq.symm
    · exact hinv.named _ _ hq
  vlan := by
    rintro name q ⟨hq, htype⟩
    rcases update_eq_some hq with ⟨heq, hq⟩ | ⟨hne, hq⟩
    · obtain rfl := Option.some.inj hq
      subst heq
      exact ⟨k, hid, rfl, hid.toNat_emod, created_asic_self.trans (by rw [hid.toNat_emod]), 0,
        Function.update_self ..⟩
    · obtain ⟨n, hn, hname, hvid, hasic, count, hcount⟩ := hinv.vlan _ _ ⟨hq, htype⟩
      refine ⟨n, hn, hname, hvid, ?_, count, (Function.update_of_ne hne _ _).trans hcount⟩
      -- the new object is none of the old ones
      refine (Function.update_of_ne ?_ _ _).trans hasic
      intro hoid
      rw [hoid, hinv.fresh _ le_rfl] at hasic
      cases hasic
  fresh := by
    intro oid hoid
    have hlt : orch.next < oid := hoid
    exact (Function.update_of_ne hlt.ne' _ _).trans (hinv.fresh oid hlt.le)

theorem createdWith (hinv : Inv orch) (hid : IsVlanId k)
    (hnone : orch.m_portList (Vlan.vlanAlias k) = none) : Inv (orch.createdWith k mtu) := by
  rw [PortsOrch.createdWith]
  split
  · exact (hinv.created hid hnone).withMtu created_portList_self
  · exact hinv.created hid hnone

theorem removed (hinv : Inv orch) (hid : IsVlanId k)
    (h : IsVlanPort orch (Vlan.vlanAlias k) p) : Inv (orch.removed p) where
  named := by
    intro name q hq
    rcases update_eq_some hq with ⟨heq, hq⟩ | ⟨hne, hq⟩
    · cases hq
    · exact hinv.named _ _ hq
  vlan := by
    rintro name q ⟨hq, htype⟩
    rcases update_eq_some hq with ⟨heq, hq⟩ | ⟨hne, hq⟩
    · cases hq
    · obtain ⟨n, hn, hname, hvid, hasic, count, hcount⟩ := hinv.vlan _ _ ⟨hq, htype⟩
      refine ⟨n, hn, hname, hvid, ?_, count, (Function.update_of_ne hne _ _).trans hcount⟩
      refine (Function.update_of_ne ?_ _ _).trans hasic
      -- one object has one id, and so one name
      intro hoid
      obtain ⟨k', hkk', -, -, hasic', -⟩ := hinv.vlanAlias hid.isInt h
      obtain rfl := Int.ofNat_inj.mp hkk'
      rw [hoid, hasic'] at hasic
      obtain rfl := Option.some.inj hasic
      exact hne (hname.trans (hinv.named _ _ h.1).symm)
  fresh := by
    intro oid hoid
    show Function.update orch.asic p.vlan_oid none oid = none
    rw [Function.update_apply]
    split
    · rfl
    · exact hinv.fresh oid hoid

/-- A count is changed that no VLAN needs. -/
theorem setPortRefCount {alias_ : String} {count : Option UInt32} (hinv : Inv orch)
    (h : orch.IsVlan alias_ → ∀ c, orch.m_port_ref_count alias_ = some c → ∃ c', count = some c') :
    Inv { orch with
      m_port_ref_count := Function.update orch.m_port_ref_count alias_ count } where
  named := hinv.named
  vlan := by
    intro name q hq
    obtain ⟨n, hn, hname, hvid, hasic, c, hc⟩ := hinv.vlan name q hq
    refine ⟨n, hn, hname, hvid, hasic, ?_⟩
    show ∃ c', Function.update orch.m_port_ref_count alias_ count name = some c'
    rw [Function.update_apply]
    split
    · next heq =>
        subst heq
        exact h (by rw [PortsOrch.IsVlan, hq.1]; exact congrArg some hq.2) c hc
    · exact ⟨c, hc⟩
  fresh := hinv.fresh

/-- **A task that fits keeps the invariant.** -/
theorem vlanTask (hinv : Inv orch) (h : Fits orch task answers) :
    Inv (orch.vlanTask task answers).orch := by
  rw [PortsOrch.vlanTask]
  by_cases hkey : task.kfvKey.toList.take 4 ≠ VLAN_PREFIX
  · rw [if_pos hkey]
    exact hinv
  rw [if_neg hkey]
  obtain ⟨n, hn, hset, hdel⟩ := h.resolve_left hkey
  have hint := isInt_of_stoi hn
  rw [hn]
  show Inv (if task.kfvOp = SET_COMMAND then _ else
    if task.kfvOp = DEL_COMMAND then _ else _ : PortsOrch.Result).orch
  split
  · next hop =>
      obtain ⟨mtu, hmtu, hfits⟩ := hset hop
      rw [hmtu]
      show Inv (orch.setVlan (Vlan.vlanAlias n) mtu answers).orch
      rcases hfits with ⟨p, hp, -⟩ | ⟨hnone, hfits⟩
      · rw [PortsOrch.setVlan, hp]
        show Inv (orch.processAttributes (Vlan.vlanAlias n) mtu).1
        rw [processAttributes_eq hp]
        split
        · exact hinv.withMtu hp
        · exact hinv
      · rw [setVlan_none hint hnone]
        split
        · next hcreate =>
            rcases hfits with hrefuse | ⟨k, hk, hid⟩
            · rw [hcreate] at hrefuse
              cases hrefuse
            · obtain rfl := eq_of_numberOf hk hn
              exact hinv.createdWith hid hnone
        · exact hinv
  · split
    · next hop =>
        have hfits := hdel hop
        rw [FitsDel] at hfits
        rw [PortsOrch.delVlan]
        generalize (orch.m_portList (Vlan.vlanAlias n)).getD {} = p at hfits ⊢
        by_cases huse : InUse orch p
        · rw [removeVlan_of_inUse huse]
          exact hinv
        · obtain ⟨hvlan, k, hk, hid⟩ := hfits.resolve_left huse
          obtain rfl := eq_of_numberOf hk hn
          obtain ⟨-, -, -, -, -, count, hcount⟩ := hinv.vlanAlias hid.isInt hvlan
          rw [← hinv.named _ _ hvlan.1] at hcount
          rw [removeVlan_of_unused hcount huse]
          cases answers.vlan with
          | true => exact hinv.removed hid hvlan
          | false => exact hinv
    · exact hinv

theorem initial : Inv .initial := by
  -- the CPU port is the only one
  have hcpu : ∀ name q, PortsOrch.initial.m_portList name = some q →
      name = "CPU" ∧ q = { m_alias := "CPU", m_type := .CPU } := by
    intro name q hq
    change Function.update (fun _ => none) "CPU" _ name = some q at hq
    rcases update_eq_some hq with ⟨heq, hq⟩ | ⟨-, hq⟩
    · exact ⟨heq, (Option.some.inj hq).symm⟩
    · cases hq
  refine ⟨fun name q hq => ?_, fun name q hq => ?_, fun oid hoid => ?_⟩
  · obtain ⟨rfl, rfl⟩ := hcpu name q hq
    rfl
  · obtain ⟨-, rfl⟩ := hcpu name q hq.1
    cases hq.2
  · have hlt : 1 < oid := hoid
    show Function.update (fun _ => none) 1 (some 1) oid = none
    rw [Function.update_of_ne hlt.ne']

end Inv

/-! ### Runs -/

/-- The property of an event: a task acts on the VLAN of its key. -/
def NamesStep (orch : PortsOrch) : Event → Prop
  | .task task answers => NamesOneVlan orch task (orch.vlanTask task answers)
  | _ => True

/-- The condition of an event. -/
def FitsStep (orch : PortsOrch) : Event → Prop
  | .task task answers => Fits orch task answers
  | _ => True

theorem namesStep_iff (hinv : Inv orch) (e : Event) : NamesStep orch e ↔ FitsStep orch e := by
  cases e with
  | task task answers => exact names_iff_fits hinv
  | _ => exact Iff.rfl

/-- One event keeps the invariant. -/
theorem Inv.apply (hinv : Inv orch) {e : Event} (h : FitsStep orch e) : Inv (orch.apply e) := by
  cases e with
  | task task answers => exact hinv.vlanTask h
  | setPort alias_ p =>
    rw [PortsOrch.apply]
    split
    · next hmay => exact hinv.setPort hmay
    · exact hinv
  | removePort alias_ =>
    rw [PortsOrch.apply]
    split
    · exact hinv
    · next hno =>
        refine ⟨fun name q hq => ?_, fun name q hq => ?_, hinv.fresh⟩
        · rcases update_eq_some hq with ⟨heq, hq⟩ | ⟨hne, hq⟩
          · cases hq
          · exact hinv.named _ _ hq
        · obtain ⟨hq, htype⟩ := hq
          rcases update_eq_some hq with ⟨heq, hq⟩ | ⟨hne, hq⟩
          · cases hq
          · exact hinv.vlan _ _ ⟨hq, htype⟩
  | setPortRefCount alias_ count =>
    rw [PortsOrch.apply]
    split
    · exact hinv
    · next hno => exact hinv.setPortRefCount fun hvlan => absurd hvlan hno
  | increasePortRefCount alias_ =>
    refine hinv.setPortRefCount fun _ c hc => ?_
    rw [hc]
    exact ⟨c + 1, rfl⟩
  | decreasePortRefCount alias_ =>
    refine hinv.setPortRefCount fun _ c hc => ?_
    rw [hc]
    exact ⟨c - 1, rfl⟩

/-- From a state in which the VLANs are as their names say, the tasks of a run all act on the
VLANs of their keys exactly if they all fit. -/
theorem meets_names_iff (hinv : Inv orch) (es : List Event) :
    Meets NamesStep PortsOrch.apply orch es ↔ Meets FitsStep PortsOrch.apply orch es := by
  induction es generalizing orch with
  | nil => exact Iff.rfl
  | cons e es ih =>
    show NamesStep orch e ∧ _ ↔ FitsStep orch e ∧ _
    rw [namesStep_iff hinv e]
    exact and_congr_right fun hfits => ih (hinv.apply hfits)

/-- **In a run from the start, the tasks all act on the VLANs of their keys exactly if they all
fit.** -/
theorem vlan_tasks_name_one (es : List Event) :
    Meets NamesStep PortsOrch.apply .initial es ↔ Meets FitsStep PortsOrch.apply .initial es :=
  meets_names_iff Inv.initial es

/-- **Not every run is like this**: the removal of a VLAN that is not there makes a count and
calls SAI. -/
theorem not_vlan_tasks_name_one :
    ¬ ∀ es, Meets NamesStep PortsOrch.apply .initial es := by
  intro h
  obtain ⟨hnames, -⟩ := h [.task ⟨"Vlan100", DEL_COMMAND, []⟩ ⟨false, false⟩]
  obtain ⟨n, -, hname⟩ := hnames.counts "" (by decide +kernel)
  -- no VLAN has the name of a fresh port
  have hempty : "".toList = VLAN_PREFIX ++ to_string n := by
    rw [hname, vlanAlias, String.toList_ofList]
  cases hempty

/-! ### A pass -/

/-- The events of a pass. -/
def passEvents (answers : String → Answers) (tasks : List KeyOpFieldsValuesTuple) : List Event :=
  tasks.map fun task => .task task (answers task.kfvKey)

/-- **A pass whose tasks act on the VLANs of their keys is not left early**, and its state is
the one that the tasks lead to one after the other. -/
theorem doVlanTask_of_meets {answers : String → Answers} {m_toSync : SyncMap}
    (h : Meets NamesStep PortsOrch.apply orch (passEvents answers m_toSync.tasks)) :
    (orch.doVlanTask answers m_toSync).2 =
      ((passEvents answers m_toSync.tasks).foldl PortsOrch.apply orch, false) := by
  rw [PortsOrch.doVlanTask]
  generalize m_toSync.tasks = tasks at h ⊢
  generalize m_toSync = left
  induction tasks generalizing orch left with
  | nil => rfl
  | cons task tasks ih =>
    obtain ⟨hnames, hrest⟩ := h
    rw [PortsOrch.loop]
    cases hdone : (orch.vlanTask task (answers task.kfvKey)).done with
    | erased => exact ih hrest _
    | kept => exact ih hrest _
    | thrown => exact absurd hdone hnames.not_thrown

end Orchagent.Vlan
