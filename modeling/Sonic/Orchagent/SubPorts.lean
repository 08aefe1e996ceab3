/-
Orchagent/SubPorts.lean

Sub interfaces among the ports (`PortsOrch::addSubPort`, `PortsOrch::removeSubPort`).

A sub interface is an entry of `m_portList` whose alias is that of its parent, a dot and a VLAN.
It is recorded in `m_child_ports` of its parent.  The parent is found by its alias when a sub
interface is added, and by its object in the ASIC when it is removed.

Every entry should record exactly the sub interfaces of its alias (`Forest`).  So it is as long
as every sub interface that is removed is one of a physical port: the object that is remembered
of another parent is null, a default port is then changed in its place, and put into the list
under the empty alias.
-/
import Sonic.Lib.Transition
import Sonic.Lib.TreeMap
import Sonic.Orchagent.CoppOrch

namespace Orchagent.SubPorts

open Std (ExtTreeMap)
open Copp (sai_object_id_t SAI_NULL_OBJECT_ID stoul)
open Transition (Run Guarded)
open TreeMap (getElem?_insert getElem?_erase mem_iff not_mem_iff)

/-! ### Ports -/

/-- `Port::Type`. -/
inductive PortType where
  | CPU | PHY | MGMT | LOOPBACK | VLAN | LAG | SUBPORT | UNKNOWN
  deriving DecidableEq

structure Port where
  m_alias : String
  m_type : PortType
  m_mtu : UInt32
  m_admin_state_up : Bool
  m_port_id : sai_object_id_t
  m_lag_id : sai_object_id_t
  vlan_oid : sai_object_id_t
  vlan_id : UInt16
  m_parent_port_id : sai_object_id_t
  m_child_ports : Finset String
  deriving DecidableEq

/-- `Port(alias, type)`. -/
def Port.new (port_alias : String) (type_ : PortType) : Port :=
  ⟨port_alias, type_, 1492, false, SAI_NULL_OBJECT_ID, SAI_NULL_OBJECT_ID, SAI_NULL_OBJECT_ID, 0,
    SAI_NULL_OBJECT_ID, ∅⟩

abbrev PortList := ExtTreeMap String Port

def MAX_VALID_VLAN_ID : UInt16 := 4094

/-- The alias of the parent and the VLAN, before and after the first dot. -/
def splitAlias (port_alias : String) : Option (String × String) :=
  if '.' ∈ port_alias.toList then
    some (String.ofList (port_alias.toList.takeWhile (· ≠ '.')),
      String.ofList (port_alias.toList.dropWhile (· ≠ '.')).tail)
  else none

/-- The object of a port in the ASIC, for the types that `getPort` looks at. -/
def Port.object (p : Port) : Option sai_object_id_t :=
  match p.m_type with
  | .PHY => some p.m_port_id
  | .LAG => some p.m_lag_id
  | .VLAN => some p.vlan_oid
  | _ => none

/-- `getPort` of an object: the first port, in the order of the aliases. -/
def getPort (m_portList : PortList) (id : sai_object_id_t) : Option Port :=
  (m_portList.toList.find? fun portIter => portIter.2.object = some id).map (·.2)

/-- `addSubPort`. -/
def addSubPort (m_portList : PortList) (port_alias : String) (adminUp : Bool) (mtu : UInt32) :
    PortList × Bool :=
  match splitAlias port_alias with
  | none => (m_portList, false)
  | some (parentAlias, vlanId) =>
    match stoul vlanId with
    | none => (m_portList, false)
    | some n =>
      let vlan_id := UInt16.ofNat n
      if vlan_id > MAX_VALID_VLAN_ID then (m_portList, false)
      else
        match m_portList[parentAlias]? with
        | none => (m_portList, false)
        | some parentPort =>
          let p := { Port.new port_alias .SUBPORT with
            m_admin_state_up := adminUp
            m_mtu := if mtu ≠ 0 then mtu else parentPort.m_mtu
            m_parent_port_id := parentPort.m_port_id
            vlan_id }
          let parentPort :=
            { parentPort with m_child_ports := insert port_alias parentPort.m_child_ports }
          ((m_portList.insert parentAlias parentPort).insert port_alias p, true)

/-- `removeSubPort`.  The type of a default port is not initialized: it is `indeterminate`. -/
def removeSubPort (m_portList : PortList) (indeterminate : PortType) (port_alias : String) :
    PortList × Bool :=
  match m_portList[port_alias]? with
  | none => (m_portList, false)
  | some port =>
    if port.m_type ≠ .SUBPORT then (m_portList, false)
    else
      let parentPort := (getPort m_portList port.m_parent_port_id).getD
        (.new "" indeterminate)
      let parentPort :=
        { parentPort with m_child_ports := parentPort.m_child_ports.erase port_alias }
      ((m_portList.insert parentPort.m_alias parentPort).erase port_alias, true)

/-- The calls.  A lookup does not change the list. -/
inductive Call where
  | addSubPort (port_alias : String) (adminUp : Bool) (mtu : UInt32)
  | removeSubPort (indeterminate : PortType) (port_alias : String)
  | getPort (id : sai_object_id_t)

def step (m_portList : PortList) : Call → PortList × Bool
  | .addSubPort port_alias adminUp mtu => SubPorts.addSubPort m_portList port_alias adminUp mtu
  | .removeSubPort indeterminate port_alias =>
    SubPorts.removeSubPort m_portList indeterminate port_alias
  | .getPort id => (m_portList, (SubPorts.getPort m_portList id).isSome)

/-! ### What should hold -/

/-- The sub interfaces of an alias. -/
def IsSubPort (m : PortList) (parentAlias port_alias : String) : Prop :=
  (∃ p, m[port_alias]? = some p ∧ p.m_type = .SUBPORT) ∧
    (splitAlias port_alias).map (·.1) = some parentAlias

/-- Every entry records exactly the sub interfaces of its alias. -/
def Forest (m : PortList) : Prop :=
  ∀ (a : String) (P : Port), m[a]? = some P → ∀ b, b ∈ P.m_child_ports ↔ IsSubPort m a b

/-- What a call should do: a sub interface that is added has the VLAN that its alias says; one
that is removed goes, and nothing else comes or goes. -/
def Sound (m : PortList) (e : Call) : Prop :=
  match e with
  | .addSubPort port_alias _ _ => (step m e).2 = true → ∃ parentAlias vlanId n,
      splitAlias port_alias = some (parentAlias, vlanId) ∧ stoul vlanId = some n ∧ n ≤ 4094
  | .removeSubPort _ port_alias => if (step m e).2 = true then
        port_alias ∈ m ∧ ∀ b, b ∈ (step m e).1 ↔ b ∈ m ∧ b ≠ port_alias
      else (step m e).1 = m
  | .getPort _ => (step m e).1 = m

/-- The VLAN of an alias is no number of more than sixteen bits, and what is removed is no sub
interface of an entry that is not a physical port. -/
def Calm (m : PortList) : Call → Prop
  | .addSubPort port_alias _ _ => ∀ parentAlias vlanId n,
      splitAlias port_alias = some (parentAlias, vlanId) → stoul vlanId = some n → n < 2 ^ 16
  | .removeSubPort _ port_alias =>
    ∀ a P, IsSubPort m a port_alias → m[a]? = some P → P.m_type = .PHY
  | .getPort _ => True

/-- The ports before there are sub interfaces: no two have one object. -/
structure Initial (m : PortList) : Prop where
  alias_eq : ∀ (a : String) (P : Port), m[a]? = some P → P.m_alias = a
  named : "" ∉ m
  single : ∀ (a : String) (P : Port), m[a]? = some P → P.m_type ≠ .SUBPORT
  childless : ∀ (a : String) (P : Port), m[a]? = some P → P.m_child_ports = ∅
  objects : ∀ (a b : String) (P Q : Port) (i : sai_object_id_t), m[a]? = some P →
    m[b]? = some Q → P.object = some i → Q.object = some i → a = b

/-! ### Aliases -/

variable {m m' m₀ : PortList} {a b c v : String} {p P Q : Port} {e : Call}

theorem splitAlias_fst (h : splitAlias b = some (a, v)) : splitAlias a = none := by
  unfold splitAlias at h
  split_ifs at h
  obtain ⟨rfl, -⟩ := Prod.mk.inj (Option.some.inj h)
  refine if_neg fun hdot => ?_
  rw [String.toList_ofList] at hdot
  have hne := List.mem_takeWhile_imp hdot
  exact of_decide_eq_true hne rfl

/-- Only what is no sub interface has sub interfaces. -/
theorem IsSubPort.split (h : IsSubPort m a b) : ∃ v, splitAlias b = some (a, v) := by
  obtain ⟨⟨a', v⟩, hsplit, rfl⟩ := Option.map_eq_some_iff.mp h.2
  exact ⟨v, hsplit⟩

theorem IsSubPort.parent (h : IsSubPort m a b) : splitAlias a = none := by
  obtain ⟨v, hsplit⟩ := h.split
  exact splitAlias_fst hsplit

theorem ne_of_split (h : splitAlias b = some (a, v)) : a ≠ b := by
  rintro rfl
  rw [splitAlias_fst h] at h
  cases h

theorem ne_of_split_none (h : splitAlias b = some (a, v)) (hc : splitAlias c = none) : c ≠ b := by
  rintro rfl
  rw [hc] at h
  cases h

theorem isSubPort_iff (h : splitAlias b = some (a, v)) (hp : m[b]? = some p) :
    IsSubPort m c b ↔ p.m_type = .SUBPORT ∧ a = c := by
  constructor
  · rintro ⟨⟨p', hp', htype⟩, hparent⟩
    rw [hp] at hp'
    rw [h] at hparent
    exact ⟨Option.some.inj hp' ▸ htype, Option.some.inj hparent⟩
  · rintro ⟨htype, rfl⟩
    exact ⟨⟨p, hp, htype⟩, by rw [h]; rfl⟩

/-- What is not listed is no sub interface. -/
theorem not_isSubPort (h : m[b]? = none) : ¬ IsSubPort m a b := by
  rintro ⟨⟨p, hp, -⟩, -⟩
  rw [h] at hp
  cases hp

theorem isSubPort_congr (h : m'[b]? = m[b]?) : IsSubPort m' a b ↔ IsSubPort m a b := by
  unfold IsSubPort
  rw [h]

/-! ### The list -/

/-- No two ports have one object. -/
def Objects (m : PortList) : Prop :=
  ∀ (a b : String) (P Q : Port) (i : sai_object_id_t), m[a]? = some P → m[b]? = some Q →
    P.object = some i → Q.object = some i → a = b

/-- A physical port is found by its object. -/
theorem getPort_phy (h : Objects m) (hP : m[a]? = some P) (htype : P.m_type = .PHY) :
    getPort m P.m_port_id = some P := by
  have hobject : P.object = some P.m_port_id := by
    unfold Port.object
    rw [htype]
  have hmem : (a, P) ∈ m.toList := Std.ExtTreeMap.mem_toList_iff_getElem?_eq_some.mpr hP
  unfold getPort
  cases hfind : m.toList.find? fun portIter => portIter.2.object = some P.m_port_id with
  | none => exact absurd (decide_eq_true hobject) (List.find?_eq_none.mp hfind _ hmem)
  | some e =>
    have he : e.2.object = some P.m_port_id := by
      have hfound := List.find?_some hfind
      exact of_decide_eq_true hfound
    have hlisted : m[e.1]? = some e.2 :=
      Std.ExtTreeMap.mem_toList_iff_getElem?_eq_some.mp (List.mem_of_find?_eq_some hfind)
    obtain rfl : e.1 = a := h _ _ _ _ _ hlisted hP he hobject
    rw [hlisted] at hP
    exact hP

/-! ### The invariant -/

/-- What holds of the list; the object that a sub interface remembers is that of its parent. -/
structure Inv (m : PortList) : Prop where
  alias_eq : ∀ (a : String) (P : Port), m[a]? = some P → P.m_alias = a
  named : m[""]? = none
  forest : Forest m
  parents : ∀ (b : String) (p : Port), m[b]? = some p → p.m_type = .SUBPORT →
    ∃ a v P, splitAlias b = some (a, v) ∧ m[a]? = some P ∧ p.m_parent_port_id = P.m_port_id
  objects : Objects m

theorem Initial.inv (h : Initial m) : Inv m := by
  refine ⟨h.alias_eq, not_mem_iff.mp h.named, fun a P hP b => ?_, fun b p hp htype => ?_,
    h.objects⟩
  · rw [h.childless a P hP]
    refine iff_of_false (Finset.notMem_empty b) ?_
    rintro ⟨⟨p, hp, htype⟩, -⟩
    exact h.single b p hp htype
  · exact absurd htype (h.single b p hp)

/-- What can be a parent is no sub interface. -/
theorem Inv.type_ne (h : Inv m) (hP : m[a]? = some P) (hsplit : splitAlias a = none) :
    P.m_type ≠ .SUBPORT := by
  intro htype
  obtain ⟨a', v, P', hsub, -, -⟩ := h.parents a P hP htype
  rw [hsplit] at hsub
  cases hsub

/-- The list after a sub interface `b` of `a` has come (`some p`) or gone (`none`), and its parent
records `t`. -/
structure Changed (m m' : PortList) (a b : String) (P : Port) (t : Finset String)
    (p : Option Port) : Prop where
  self : m'[b]? = p
  parent : m'[a]? = some { P with m_child_ports := t }
  others : ∀ x, x ≠ a → x ≠ b → m'[x]? = m[x]?

/-- **A sub interface comes or goes**, together with the record of its parent. -/
theorem Inv.changed {t : Finset String} {p : Option Port} (h : Inv m)
    (hc : Changed m m' a b P t p) (hsplit : splitAlias b = some (a, v))
    (hP : m[a]? = some P)
    (hp : ∀ q, p = some q → q.m_alias = b ∧ q.m_type = .SUBPORT ∧ q.m_child_ports = ∅ ∧
      q.m_parent_port_id = P.m_port_id)
    (ht : ∀ x, x ∈ t ↔ (x = b ∧ p ≠ none) ∨ (x ≠ b ∧ x ∈ P.m_child_ports)) :
    Inv m' := by
  have hab := ne_of_split hsplit
  have hsplita := splitAlias_fst hsplit
  have hPtype := h.type_ne hP hsplita
  -- the sub interfaces of an alias, afterwards
  have hsub : ∀ x y, IsSubPort m' x y ↔ (y = b ∧ x = a ∧ p ≠ none) ∨ (y ≠ b ∧ IsSubPort m x y) := by
    intro x y
    by_cases hy : y = b
    · subst hy
      cases p with
      | none =>
        refine iff_of_false (not_isSubPort hc.self) ?_
        rintro (⟨-, -, hne⟩ | ⟨hne, -⟩)
        · exact hne rfl
        · exact hne rfl
      | some q =>
        rw [isSubPort_iff hsplit hc.self]
        constructor
        · rintro ⟨-, rfl⟩
          exact .inl ⟨rfl, rfl, Option.some_ne_none q⟩
        · rintro (⟨-, rfl, -⟩ | ⟨hne, -⟩)
          · exact ⟨(hp q rfl).2.1, rfl⟩
          · exact absurd rfl hne
    · have hrest : IsSubPort m' x y ↔ IsSubPort m x y := by
        by_cases hya : y = a
        · subst hya
          refine iff_of_false ?_ ?_
          · intro hy'
            obtain ⟨w, hw⟩ := hy'.split
            rw [hsplita] at hw
            cases hw
          · intro hy'
            obtain ⟨w, hw⟩ := hy'.split
            rw [hsplita] at hw
            cases hw
        · exact isSubPort_congr (hc.others y hya hy)
      rw [hrest]
      constructor
      · exact fun hm => .inr ⟨hy, hm⟩
      · rintro (⟨rfl, -⟩ | ⟨-, hm⟩)
        · exact absurd rfl hy
        · exact hm
  refine ⟨?_, ?_, ?_, ?_, ?_⟩
  · intro x X hX
    by_cases hxb : x = b
    · subst hxb
      exact (hp X (hc.self.symm.trans hX)).1
    · by_cases hxa : x = a
      · subst hxa
        rw [hc.parent] at hX
        obtain rfl := Option.some.inj hX
        exact h.alias_eq x P hP
      · exact h.alias_eq x X ((hc.others x hxa hxb).symm.trans hX)
  · have hne : ("" : String) ≠ b := ne_of_split_none hsplit (by decide)
    have hna : ("" : String) ≠ a := by
      rintro rfl
      rw [h.named] at hP
      cases hP
    rw [hc.others _ hna hne]
    exact h.named
  · intro x X hX y
    rw [hsub]
    by_cases hxb : x = b
    · subst hxb
      have hempty := (hp X (hc.self.symm.trans hX)).2.2.1
      rw [hempty]
      refine iff_of_false (Finset.notMem_empty y) ?_
      rintro (⟨-, heq, -⟩ | ⟨-, hy⟩)
      · exact hab heq.symm
      · have hnone := hy.parent
        rw [hsplit] at hnone
        cases hnone
    · by_cases hxa : x = a
      · subst hxa
        rw [hc.parent] at hX
        obtain rfl := Option.some.inj hX
        show y ∈ t ↔ _
        rw [ht y, h.forest x P hP y]
        constructor
        · rintro (⟨hy, hne⟩ | hy)
          · exact .inl ⟨hy, rfl, hne⟩
          · exact .inr hy
        · rintro (⟨hy, -, hne⟩ | hy)
          · exact .inl ⟨hy, hne⟩
          · exact .inr hy
      · have hX' := (hc.others x hxa hxb).symm.trans hX
        rw [h.forest x X hX' y]
        constructor
        · intro hy
          refine .inr ⟨?_, hy⟩
          rintro rfl
          obtain ⟨w, hw⟩ := hy.split
          rw [hsplit] at hw
          exact hxa (Prod.mk.inj (Option.some.inj hw)).1.symm
        · rintro (⟨-, heq, -⟩ | ⟨-, hy⟩)
          · exact absurd heq hxa
          · exact hy
  · intro y q hq htype
    by_cases hyb : y = b
    · subst hyb
      have hport := (hp q (hc.self.symm.trans hq)).2.2.2
      exact ⟨a, v, _, hsplit, hc.parent, hport⟩
    · by_cases hya : y = a
      · subst hya
        rw [hc.parent] at hq
        obtain rfl := Option.some.inj hq
        exact absurd htype hPtype
      · obtain ⟨a', v', P', hsplit', hP', hport⟩ :=
          h.parents y q ((hc.others y hya hyb).symm.trans hq) htype
        have hab' : a' ≠ b := ne_of_split_none hsplit (splitAlias_fst hsplit')
        by_cases haa : a' = a
        · subst haa
          rw [hP] at hP'
          obtain rfl := Option.some.inj hP'
          exact ⟨a', v', _, hsplit', hc.parent, hport⟩
        · exact ⟨a', v', P', hsplit', (hc.others a' haa hab').trans hP', hport⟩
  · -- a sub interface has no object, and the parent keeps its own
    have hold : ∀ (x : String) (X : Port) (i : sai_object_id_t), m'[x]? = some X →
        X.object = some i → ∃ X' : Port, m[x]? = some X' ∧ X'.object = some i := by
      intro x X i hX hi
      by_cases hxb : x = b
      · subst hxb
        have htype := (hp X (hc.self.symm.trans hX)).2.1
        unfold Port.object at hi
        rw [htype] at hi
        cases hi
      · by_cases hxa : x = a
        · subst hxa
          rw [hc.parent] at hX
          obtain rfl := Option.some.inj hX
          exact ⟨P, hP, hi⟩
        · exact ⟨X, (hc.others x hxa hxb).symm.trans hX, hi⟩
    intro x y X Y i hX hY hi hj
    obtain ⟨X', hX', hi'⟩ := hold x X i hX hi
    obtain ⟨Y', hY', hj'⟩ := hold y Y i hY hj
    exact h.objects x y X' Y' i hX' hY' hi' hj'

/-! ### Calls -/

/-- A number of sixteen bits is not changed by the narrowing. -/
theorem le_of_narrowed {n : ℕ} (hn : n < 2 ^ 16) (h : ¬ UInt16.ofNat n > MAX_VALID_VLAN_ID) :
    n ≤ 4094 := by
  have hle : UInt16.ofNat n ≤ MAX_VALID_VLAN_ID := UInt16.not_lt.mp h
  rw [UInt16.le_iff_toNat_le, UInt16.toNat_ofNat_of_lt' hn] at hle
  exact hle

/-- What an addition can do. -/
theorem addSubPort_cases (m : PortList) (b : String) (adminUp : Bool) (mtu : UInt32) :
    addSubPort m b adminUp mtu = (m, false) ∨
      ∃ a v n P p, splitAlias b = some (a, v) ∧ stoul v = some n ∧
        ¬ UInt16.ofNat n > MAX_VALID_VLAN_ID ∧ m[a]? = some P ∧
        (p.m_alias = b ∧ p.m_type = .SUBPORT ∧ p.m_child_ports = ∅ ∧
          p.m_parent_port_id = P.m_port_id) ∧
        addSubPort m b adminUp mtu =
          ((m.insert a { P with m_child_ports := insert b P.m_child_ports }).insert b p, true) := by
  unfold addSubPort
  cases hsplit : splitAlias b with
  | none => exact .inl rfl
  | some av =>
    obtain ⟨a, v⟩ := av
    cases hn : stoul v with
    | none =>
      left
      simp only [hn]
    | some n =>
      simp only [hn]
      by_cases hbig : UInt16.ofNat n > MAX_VALID_VLAN_ID
      · rw [if_pos hbig]
        exact .inl rfl
      · rw [if_neg hbig]
        cases hP : m[a]? with
        | none => exact .inl rfl
        | some P => exact .inr ⟨a, v, n, P, _, rfl, hn, hbig, hP, ⟨rfl, rfl, rfl, rfl⟩, rfl⟩

/-- What a removal can do. -/
theorem removeSubPort_cases (m : PortList) (indeterminate : PortType) (b : String) :
    removeSubPort m indeterminate b = (m, false) ∨
      ∃ p, m[b]? = some p ∧ p.m_type = .SUBPORT ∧ ∀ P,
        getPort m p.m_parent_port_id = some P → removeSubPort m indeterminate b
          = ((m.insert P.m_alias { P with m_child_ports := P.m_child_ports.erase b }).erase b,
            true) := by
  unfold removeSubPort
  cases hp : m[b]? with
  | none => exact .inl rfl
  | some p =>
    by_cases htype : p.m_type = .SUBPORT
    · refine .inr ⟨p, rfl, htype, fun P hP => ?_⟩
      simp only [ne_eq, htype, not_true_eq_false, if_false, hP, Option.getD_some]
    · left
      exact if_pos htype

theorem Inv.addSubPort {adminUp : Bool} {mtu : UInt32} (h : Inv m)
    (hcalm : Calm m (.addSubPort b adminUp mtu)) :
    Inv (addSubPort m b adminUp mtu).1 ∧ Sound m (.addSubPort b adminUp mtu) := by
  rcases addSubPort_cases m b adminUp mtu with
    hsame | ⟨a, v, n, P, p, hsplit, hn, hbig, hP, hp, hadd⟩
  · rw [hsame]
    refine ⟨h, fun htrue => ?_⟩
    change (SubPorts.addSubPort m b adminUp mtu).2 = true at htrue
    rw [hsame] at htrue
    cases htrue
  · rw [hadd]
    refine ⟨?_, fun _ => ⟨a, v, n, hsplit, hn, le_of_narrowed (hcalm a v n hsplit hn) hbig⟩⟩
    have hab := ne_of_split hsplit
    refine h.changed (t := insert b P.m_child_ports) (p := some p) ⟨?_, ?_, ?_⟩ hsplit hP
      ?_ fun x => ?_
    · rw [getElem?_insert, if_pos rfl]
    · exact (getElem?_insert.trans (if_neg hab.symm)).trans (getElem?_insert.trans (if_pos rfl))
    · intro x hxa hxb
      rw [getElem?_insert, if_neg hxb.symm, getElem?_insert, if_neg hxa.symm]
    · rintro _ ⟨⟩
      exact hp
    · rw [Finset.mem_insert]
      constructor
      · intro hx
        by_cases hxb : x = b
        · exact .inl ⟨hxb, Option.some_ne_none _⟩
        · exact .inr ⟨hxb, hx.resolve_left hxb⟩
      · rintro (⟨hx, -⟩ | ⟨-, hx⟩)
        · exact .inl hx
        · exact .inr hx

theorem Inv.removeSubPort {indeterminate : PortType} (h : Inv m)
    (hcalm : Calm m (.removeSubPort indeterminate b)) :
    Inv (removeSubPort m indeterminate b).1 ∧ Sound m (.removeSubPort indeterminate b) := by
  rcases removeSubPort_cases m indeterminate b with hsame | ⟨p, hp, htype, hremove⟩
  · rw [hsame]
    refine ⟨h, ?_⟩
    show if (SubPorts.removeSubPort m indeterminate b).2 = true then _ else
      (SubPorts.removeSubPort m indeterminate b).1 = m
    rw [hsame]
    rfl
  · obtain ⟨a, v, P, hsplit, hP, hport⟩ := h.parents b p hp htype
    have hab := ne_of_split hsplit
    have hsub : IsSubPort m a b := (isSubPort_iff hsplit hp).mpr ⟨htype, rfl⟩
    have hget : getPort m p.m_parent_port_id = some P := by
      rw [hport]
      exact getPort_phy h.objects hP (hcalm a P hsub hP)
    have hresult := hremove P hget
    obtain rfl : P.m_alias = a := h.alias_eq a P hP
    constructor
    · rw [hresult]
      refine h.changed (t := P.m_child_ports.erase b) (p := none) ⟨?_, ?_, ?_⟩ hsplit hP
        nofun fun x => ?_
      · rw [getElem?_erase, if_pos rfl]
      · exact (getElem?_erase.trans (if_neg hab.symm)).trans (getElem?_insert.trans (if_pos rfl))
      · intro x hxa hxb
        rw [getElem?_erase, if_neg hxb.symm, getElem?_insert, if_neg hxa.symm]
      · rw [Finset.mem_erase]
        constructor
        · exact .inr
        · rintro (⟨-, hne⟩ | hx)
          · exact absurd rfl hne
          · exact hx
    · show if (SubPorts.removeSubPort m indeterminate b).2 = true then
        b ∈ m ∧ ∀ x, x ∈ (SubPorts.removeSubPort m indeterminate b).1 ↔ x ∈ m ∧ x ≠ b else _
      rw [hresult]
      rw [if_pos rfl]
      refine ⟨mem_iff.mpr ⟨p, hp⟩, fun x => ?_⟩
      rw [mem_iff, mem_iff, getElem?_erase]
      by_cases hxb : b = x
      · rw [if_pos hxb]
        refine iff_of_false ?_ fun hx => hx.2 hxb.symm
        rintro ⟨q, hq⟩
        cases hq
      · rw [if_neg hxb, getElem?_insert]
        by_cases hxa : P.m_alias = x
        · rw [if_pos hxa, ← hxa]
          exact iff_of_true ⟨_, rfl⟩ ⟨⟨P, hP⟩, hab⟩
        · rw [if_neg hxa]
          exact ⟨fun hx => ⟨hx, fun heq => hxb heq.symm⟩, fun hx => hx.1⟩

/-- **A call keeps the invariant**, and does what it should. -/
theorem Inv.step (h : Inv m) (hcalm : Calm m e) : Inv (step m e).1 ∧ Sound m e := by
  cases e with
  | addSubPort b adminUp mtu => exact h.addSubPort hcalm
  | removeSubPort indeterminate b => exact h.removeSubPort hcalm
  | getPort id => exact ⟨h, rfl⟩

/-- The calls that meet the condition. -/
abbrev CalmRun : PortList → List Call → PortList → Prop :=
  Run (Guarded Calm fun m e m' => (step m e).1 = m')

/-- **Sub interfaces are a forest**: after any calls that meet the condition every port records
exactly its sub interfaces, no entry has the empty alias, and another such call does what it
should. -/
theorem sub_ports_forest {es : List Call} (hinit : Initial m₀) (hrun : CalmRun m₀ es m) :
    Forest m ∧ "" ∉ m ∧ ∀ e, Calm m e → Sound m e := by
  have hinv : Inv m := by
    refine hrun.keeps hinit.inv fun {t e u} ht hstep => ?_
    obtain ⟨hcalm, rfl⟩ := hstep
    exact (ht.step hcalm).1
  exact ⟨hinv.forest, not_mem_iff.mpr hinv.named, fun e hcalm => (hinv.step hcalm).2⟩

/-- A physical port. -/
def ethernet0 : Port := { Port.new "Ethernet0" .PHY with m_port_id := 1 }

/-- A LAG. -/
def portChannel1 : Port := { Port.new "PortChannel1" .LAG with m_lag_id := 2 }

theorem initial_single (hname : a ≠ "") (halias : P.m_alias = a) (htype : P.m_type ≠ .SUBPORT)
    (hchildren : P.m_child_ports = ∅) : Initial ((∅ : PortList).insert a P) := by
  have honly : ∀ (b : String) (Q : Port), ((∅ : PortList).insert a P)[b]? = some Q →
      b = a ∧ Q = P := by
    intro b Q hQ
    rw [getElem?_insert] at hQ
    split_ifs at hQ with hab
    · exact ⟨hab.symm, (Option.some.inj hQ).symm⟩
    · cases hQ
  refine ⟨?_, ?_, ?_, ?_, ?_⟩
  · rintro b Q hQ
    obtain ⟨rfl, rfl⟩ := honly b Q hQ
    exact halias
  · rw [not_mem_iff, getElem?_insert, if_neg hname]
    rfl
  · intro b Q hQ
    exact (honly b Q hQ).2 ▸ htype
  · intro b Q hQ
    exact (honly b Q hQ).2 ▸ hchildren
  · intro b c Q R i hQ hR _ _
    exact (honly b Q hQ).1.trans (honly c R hR).1.symm

theorem sub_ports_forest_ethernet :
    Forest (step ((∅ : PortList).insert "Ethernet0" ethernet0)
        (.addSubPort "Ethernet0.10" true 0)).1 ∧
      "" ∉ (step ((∅ : PortList).insert "Ethernet0" ethernet0)
        (.addSubPort "Ethernet0.10" true 0)).1 ∧
      ∀ e, Calm (step ((∅ : PortList).insert "Ethernet0" ethernet0)
        (.addSubPort "Ethernet0.10" true 0)).1 e →
        Sound (step ((∅ : PortList).insert "Ethernet0" ethernet0)
          (.addSubPort "Ethernet0.10" true 0)).1 e := by
  have hsplit : splitAlias "Ethernet0.10" = some ("Ethernet0", "10") := by decide +kernel
  have hstoul : stoul "10" = some 10 := by decide +kernel
  refine sub_ports_forest
    (initial_single (a := "Ethernet0") (P := ethernet0) (by decide) rfl (by decide) rfl) (.single
      ⟨fun a v n ha hn => ?_, rfl⟩)
  rw [hsplit] at ha
  obtain ⟨-, rfl⟩ := Prod.mk.inj (Option.some.inj ha)
  rw [hstoul] at hn
  obtain rfl := Option.some.inj hn
  decide

/-- **A sub interface of a LAG that is removed** leaves an entry with the empty alias. -/
theorem not_sub_ports_forest :
    ¬ ∀ (m₀ m : PortList) (es : List Call), Initial m₀ →
      Run (fun m e m' => (step m e).1 = m') m₀ es m →
      Forest m ∧ "" ∉ m ∧ ∀ e, Sound m e := by
  intro hclaim
  have hinit : Initial ((∅ : PortList).insert "PortChannel1" portChannel1) :=
    initial_single (by decide) rfl (by decide) rfl
  refine (hclaim _ _ [.addSubPort "PortChannel1.10" true 0,
    .removeSubPort .UNKNOWN "PortChannel1.10"] hinit (.cons rfl (.single rfl))).2.1 ?_
  decide +kernel

end Orchagent.SubPorts
