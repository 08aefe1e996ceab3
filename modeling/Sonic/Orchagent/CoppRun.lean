/-
Orchagent/CoppRun.lean

Runs of `CoppOrch`.

What the maps of the orch should say of the ASIC is `Mirrors`: every recorded trap is the only
trap of its kind, in the group that listed it last, and every policer, host interface and table
entry has one owner.  A SET breaks it when it lists a trap that is recorded already, since the
trap is created again beside the old one; a DEL of any group but the default one breaks it,
since the recorded traps of all groups are removed.  Histories without these steps (`Safe`)
keep it.  Each way of changing the objects is one lemma about the invariant `Inv`, and a SET
or a DEL is a chain of them.
-/
import Sonic.Lib.Ownership
import Sonic.Lib.Transition
import Sonic.Lib.Table
import Sonic.Orchagent.CoppOrch

namespace Orchagent.Copp

open Swss Transition

/-! ### Histories -/

/-- The traps that a SET lists, when its fields are valid. -/
def St.listed (mlnx : Bool) (s : St) (fvs : List FieldValueTuple) : List TrapType :=
  match fvs.foldlM (parseField mlnx s.enable_sflow_trap) .empty with
  | .error _ => []
  | .ok p => (St.getTrapIdList p.trap_id_list).getD []

inductive Event where
  | set (trap_group_name : String) (fvs : List FieldValueTuple)
  | del (trap_group_name : String)
  /-- `coppProcessSflow` of an admin state that is up -/
  | sflow

structure World where
  orch : St
  /-- the group whose SET listed the trap last, or the default group once that is deleted -/
  owner : TrapType → Option String

def World.step (mlnx : Bool) (w : World) : Event → World
  | .set name fvs => {
      orch := (w.orch.setCoppRule mlnx name fvs).1
      owner := fun t => if t ∈ w.orch.listed mlnx fvs then some name else w.owner t }
  | .del name => {
      orch := (w.orch.delCoppRule name).1
      owner := fun t =>
        if name ≠ default_trap_group ∧ w.owner t = some name then some default_trap_group
        else w.owner t }
  | .sflow => { w with orch := { w.orch with enable_sflow_trap := true } }

def World.init (mlnx : Bool) : World :=
  ⟨Copp.init mlnx, fun t => if t ∈ default_trap_ids then some default_trap_group else none⟩

/-- What the orch keeps is what there is. -/
structure Mirrors (w : World) : Prop where
  /-- a recorded trap is there, in its group, and is the only one of its kind -/
  trap : ∀ {t objs}, w.orch.m_syncdTrapIds.lookup t = some objs →
    (∃ x, w.orch.asic.traps.lookup objs.trap_obj = some x ∧ x.trap_type = t ∧
      x.trap_group = objs.trap_group_obj) ∧
    ∀ i x, w.orch.asic.traps.lookup i = some x → x.trap_type = t → i = objs.trap_obj
  group : ∀ {t objs}, w.orch.m_syncdTrapIds.lookup t = some objs →
    ∃ name, w.owner t = some name ∧
      w.orch.m_trap_group_map.lookup name = some objs.trap_group_obj
  policers : Owned w.orch.m_trap_group_policer_map.lookup (· ∈ w.orch.asic.policers)
  policer_group : ∀ {g p}, w.orch.m_trap_group_policer_map.lookup g = some p →
    ∃ x, w.orch.asic.trap_groups.lookup g = some x ∧ x.policer = p
  hostifs : Owned w.orch.m_trap_group_hostif_map.lookup (· ∈ w.orch.asic.hostifs)
  hostif_group : ∀ {g i}, w.orch.m_trap_group_hostif_map.lookup g = some i →
    g ∈ w.orch.asic.trap_groups
  entries : Owned w.orch.m_trapid_hostif_table_map.lookup (· ∈ w.orch.asic.table_entries)
  entry_trap : ∀ {t e}, w.orch.m_trapid_hostif_table_map.lookup t = some e →
    ∃ objs x, w.orch.m_syncdTrapIds.lookup t = some objs ∧
      w.orch.asic.table_entries.lookup e = some x ∧ x.trap_id = objs.trap_obj

/-- The traps that are not in the group of a DEL are left. -/
def Spares (w : World) (name : String) : Prop :=
  ∀ {t objs x}, w.orch.m_syncdTrapIds.lookup t = some objs → w.owner t ≠ some name →
    w.orch.asic.traps.lookup objs.trap_obj = some x →
    (w.orch.delCoppRule name).1.asic.traps.lookup objs.trap_obj = some x

/-- A SET lists each trap once, and none that is recorded; a DEL is of the default group. -/
def Safe (mlnx : Bool) (w : World) : Event → Prop
  | .set _ fvs => (w.orch.listed mlnx fvs).Nodup ∧
      ∀ t ∈ w.orch.listed mlnx fvs, w.orch.m_syncdTrapIds.lookup t = none
  | .del name => name = default_trap_group
  | .sflow => True

/-! ### The invariant -/

/-- The objects of the orch, whichever SET they are from. -/
structure Inv (s : St) : Prop where
  groups : Owned s.m_trap_group_map.lookup (· ∈ s.asic.trap_groups)
  default : default_trap_group ∈ s.m_trap_group_map
  policers : Owned s.m_trap_group_policer_map.lookup (· ∈ s.asic.policers)
  policer_group : ∀ {g p}, s.m_trap_group_policer_map.lookup g = some p →
    ∃ x, s.asic.trap_groups.lookup g = some x ∧ x.policer = p
  hostifs : Owned s.m_trap_group_hostif_map.lookup (· ∈ s.asic.hostifs)
  hostif_group : ∀ {g i}, s.m_trap_group_hostif_map.lookup g = some i → g ∈ s.asic.trap_groups
  entries : Owned s.m_trapid_hostif_table_map.lookup (· ∈ s.asic.table_entries)
  entry_trap : ∀ {t e}, s.m_trapid_hostif_table_map.lookup t = some e →
    ∃ objs x, s.m_syncdTrapIds.lookup t = some objs ∧
      s.asic.table_entries.lookup e = some x ∧ x.trap_id = objs.trap_obj
  traps : Owned (fun t => (s.m_syncdTrapIds.lookup t).map (·.trap_obj)) (· ∈ s.asic.traps)
  trap_obj : ∀ {t objs}, s.m_syncdTrapIds.lookup t = some objs →
    ∃ x, s.asic.traps.lookup objs.trap_obj = some x ∧ x.trap_type = t ∧
      x.trap_group = objs.trap_group_obj
  trap_group : ∀ {t objs}, s.m_syncdTrapIds.lookup t = some objs →
    objs.trap_group_obj ∈ s.asic.trap_groups
  given_groups : s.asic.trap_groups.Given s.asic.next
  given_policers : s.asic.policers.Given s.asic.next
  given_hostifs : s.asic.hostifs.Given s.asic.next
  given_entries : s.asic.table_entries.Given s.asic.next
  given_traps : s.asic.traps.Given s.asic.next

namespace Inv

variable {s : St} {w : World} {name : String} {g : sai_object_id_t} {t : TrapType}

theorem next_pos (h : Inv s) : 0 < s.asic.next := by
  obtain ⟨g, hg⟩ := Option.isSome_iff_exists.mp (AList.lookup_isSome.mpr h.default)
  exact (Nat.zero_le g).trans_lt (h.given_groups g (h.groups.live_of hg)).2

theorem next_given (h : Inv s) : 0 < s.asic.next ∧ s.asic.next < s.asic.next + 1 :=
  ⟨h.next_pos, Nat.lt_succ_self _⟩

/-- The names and the traps may be stored anew, as they are. -/
theorem stored (h : Inv s) (names : Table String sai_object_id_t)
    (syncd : Table TrapType copp_trap_objects)
    (hnames : ∀ name, names.lookup name = s.m_trap_group_map.lookup name)
    (hsyncd : ∀ t, syncd.lookup t = s.m_syncdTrapIds.lookup t) :
    Inv { s with m_trap_group_map := names, m_syncdTrapIds := syncd } :=
  { h with
    groups := h.groups.congr hnames fun _ => Iff.rfl
    default := AList.lookup_isSome.mp (by rw [hnames]; exact AList.lookup_isSome.mpr h.default)
    entry_trap := fun he => by
      obtain ⟨objs, x, hobjs, hx⟩ := h.entry_trap he
      exact ⟨objs, x, (hsyncd _).trans hobjs, hx⟩
    traps := h.traps.congr (fun t => congrArg _ (hsyncd t)) fun _ => Iff.rfl
    trap_obj := fun ht => h.trap_obj ((hsyncd _).symm.trans ht)
    trap_group := fun ht => h.trap_group ((hsyncd _).symm.trans ht) }

/-- A trap that is not recorded is created in a group. -/
theorem applyTrap (h : Inv s) (ht : s.m_syncdTrapIds.lookup t = none)
    (hg : g ∈ s.asic.trap_groups) (attribs : List Attr) : Inv (s.applyTrap g attribs t) := by
  have hne : ∀ {t' objs}, s.m_syncdTrapIds.lookup t' = some objs → t' ≠ t := by
    rintro t' objs hobjs rfl
    rw [ht] at hobjs
    cases hobjs
  refine { h with
    entry_trap := fun he => ?_
    traps := h.traps.insert (k := t) (i := s.asic.next) ?_ h.given_traps.not_mem (fun t' => ?_)
      fun i => AList.mem_insert _
    trap_obj := fun {t' objs} hobjs => ?_
    trap_group := fun {t' objs} hobjs => ?_
    given_groups := h.given_groups.mono (Nat.le_succ _)
    given_policers := h.given_policers.mono (Nat.le_succ _)
    given_hostifs := h.given_hostifs.mono (Nat.le_succ _)
    given_entries := h.given_entries.mono (Nat.le_succ _)
    given_traps := h.given_traps.insert h.next_given (Nat.le_succ _) }
  · obtain ⟨objs, x, hobjs, hx⟩ := h.entry_trap he
    exact ⟨objs, x, Table.lookup_insert_iff.mpr (.inr ⟨hne hobjs, hobjs⟩), hx⟩
  · show (s.m_syncdTrapIds.lookup t).map _ = none
    rw [ht]
    rfl
  · show ((s.m_syncdTrapIds.insert t _).lookup t').map _ = _
    rw [Table.lookup_insert_eq]
    split <;> rfl
  · rcases Table.lookup_insert_iff.mp hobjs with ⟨rfl, rfl⟩ | ⟨-, hobjs⟩
    · exact ⟨_, AList.lookup_insert _, rfl, rfl⟩
    · obtain ⟨x, hx, htype⟩ := h.trap_obj hobjs
      exact ⟨x, Table.lookup_insert_iff.mpr (.inr ⟨h.given_traps.ne_of_lookup hx, hx⟩), htype⟩
  · rcases Table.lookup_insert_iff.mp hobjs with ⟨rfl, rfl⟩ | ⟨-, hobjs⟩
    · exact hg
    · exact h.trap_group hobjs

/-- A recorded trap that has no entry gets one, when its group has an interface. -/
theorem addTableEntry (h : Inv s) (ht : t ∈ s.m_syncdTrapIds) : Inv (s.addTableEntry t) := by
  obtain ⟨objs, hobjs⟩ := Option.isSome_iff_exists.mp (AList.lookup_isSome.mpr ht)
  unfold St.addTableEntry
  split
  · exact h
  · next hnone =>
      have hsyncd : s.syncdTrap t = objs := by rw [St.syncdTrap, hobjs]; rfl
      -- the trap is stored as it is
      have hstored := h.stored s.m_trap_group_map
        (s.m_syncdTrapIds.insert t objs) (fun _ => rfl) fun t' => by
          rw [Table.lookup_insert_eq]
          split
          · next heq => rw [heq, hobjs]
          · rfl
      rw [hsyncd]
      dsimp only
      split
      · exact hstored
      · refine { hstored with
          entries := h.entries.insert hnone h.given_entries.not_mem
            (fun t' => Table.lookup_insert_eq) fun i => AList.mem_insert _
          entry_trap := fun {t' e} he => ?_
          given_groups := h.given_groups.mono (Nat.le_succ _)
          given_policers := h.given_policers.mono (Nat.le_succ _)
          given_hostifs := h.given_hostifs.mono (Nat.le_succ _)
          given_entries := h.given_entries.insert h.next_given (Nat.le_succ _)
          given_traps := h.given_traps.mono (Nat.le_succ _) }
        rcases Table.lookup_insert_iff.mp he with ⟨rfl, rfl⟩ | ⟨-, he⟩
        · exact ⟨objs, _, AList.lookup_insert _, AList.lookup_insert _, rfl⟩
        · obtain ⟨objs', x, hobjs', hx, hid⟩ := hstored.entry_trap he
          exact ⟨objs', x, hobjs',
            Table.lookup_insert_iff.mpr (.inr ⟨h.given_entries.ne_of_lookup hx, hx⟩), hid⟩

theorem setGroup_eq {f : TrapGroup → TrapGroup} {x : TrapGroup}
    (hx : s.asic.trap_groups.lookup g = some x) : s.setGroup g f =
      { s with asic := { s.asic with trap_groups := s.asic.trap_groups.insert g (f x) } } := by
  rw [St.setGroup, hx]

/-- An attribute of a group other than its policer. -/
theorem setGroup (h : Inv s) {f : TrapGroup → TrapGroup} (hf : ∀ x, (f x).policer = x.policer) :
    Inv (s.setGroup g f) := by
  unfold St.setGroup
  split
  · exact h
  · next x hx =>
      have hmem : ∀ i, i ∈ s.asic.trap_groups.insert g (f x) ↔ i ∈ s.asic.trap_groups := fun i =>
        Table.mem_insert_of_mem (Table.mem_of_lookup hx)
      exact { h with
        groups := h.groups.congr (fun _ => rfl) hmem
        policer_group := fun {g' p} hp => by
          obtain ⟨y, hy, hyp⟩ := h.policer_group hp
          by_cases hg : g' = g
          · subst hg
            rw [hx] at hy
            obtain rfl := Option.some.inj hy
            exact ⟨f x, AList.lookup_insert _, (hf x).trans hyp⟩
          · exact ⟨y, Table.lookup_insert_iff.mpr (.inr ⟨hg, hy⟩), hyp⟩
        hostif_group := fun hi => (hmem _).mpr (h.hostif_group hi)
        trap_group := fun ht => (hmem _).mpr (h.trap_group ht)
        given_groups := fun i hi => h.given_groups i ((hmem i).mp hi) }

theorem setPolicer (h : Inv s) {policer_id : sai_object_id_t} {attr : Attr} :
    Inv (s.setPolicer policer_id attr) := by
  unfold St.setPolicer
  split
  · exact h
  · next attribs hp =>
      have hmem : ∀ i, i ∈ s.asic.policers.insert policer_id (attr :: attribs) ↔
          i ∈ s.asic.policers := fun i => Table.mem_insert_of_mem (Table.mem_of_lookup hp)
      exact { h with
        policers := h.policers.congr (fun _ => rfl) hmem
        given_policers := fun i hi => h.given_policers i ((hmem i).mp hi) }

/-- A group that is there, by its name. -/
theorem lookup_group (h : Inv s) (hname : name ∈ s.m_trap_group_map) :
    ∃ x, s.m_trap_group_map.lookup name = some (s.group name) ∧
      s.asic.trap_groups.lookup (s.group name) = some x := by
  obtain ⟨g, hg⟩ := Option.isSome_iff_exists.mp (AList.lookup_isSome.mpr hname)
  have hgroup : s.group name = g := by rw [St.group, hg]; rfl
  obtain ⟨x, hx⟩ := Option.isSome_iff_exists.mp (AList.lookup_isSome.mpr (h.groups.live_of hg))
  exact ⟨x, hgroup.symm ▸ hg, hgroup.symm ▸ hx⟩

/-- The first policer of a group. -/
theorem createPolicer (h : Inv s) (hname : name ∈ s.m_trap_group_map)
    (hnone : s.m_trap_group_policer_map.lookup (s.group name) = none) (attribs : List Attr) :
    Inv (s.createPolicer name attribs) := by
  obtain ⟨x, hg, hx⟩ := h.lookup_group hname
  have hmem : ∀ i, i ∈ s.asic.trap_groups.insert (s.group name) { x with policer := s.asic.next } ↔
      i ∈ s.asic.trap_groups := fun i => Table.mem_insert_of_mem (Table.mem_of_lookup hx)
  unfold St.createPolicer St.setGroup
  dsimp only [St.group] at hx ⊢
  rw [hx]
  refine { h with
    groups := h.groups.congr (fun _ => rfl) hmem
    policers := h.policers.insert hnone h.given_policers.not_mem
      (fun _ => Table.lookup_insert_eq) fun i => AList.mem_insert _
    policer_group := fun {g' p} hp => ?_
    hostif_group := fun hi => (hmem _).mpr (h.hostif_group hi)
    trap_group := fun ht => (hmem _).mpr (h.trap_group ht)
    given_groups := fun i hi => h.given_groups.mono (Nat.le_succ _) i ((hmem i).mp hi)
    given_policers := h.given_policers.insert h.next_given (Nat.le_succ _)
    given_hostifs := h.given_hostifs.mono (Nat.le_succ _)
    given_entries := h.given_entries.mono (Nat.le_succ _)
    given_traps := h.given_traps.mono (Nat.le_succ _) }
  rcases Table.lookup_insert_iff.mp hp with ⟨rfl, rfl⟩ | ⟨hne, hp⟩
  · exact ⟨_, AList.lookup_insert _, rfl⟩
  · obtain ⟨y, hy, hyp⟩ := h.policer_group hp
    exact ⟨y, Table.lookup_insert_iff.mpr (.inr ⟨hne, hy⟩), hyp⟩

/-- The policer of a group, if it has one, goes. -/
theorem removePolicer (h : Inv s) : Inv (s.removePolicer name) := by
  unfold St.removePolicer
  dsimp only
  split
  · exact h
  · next hne =>
      have hpolicer : s.m_trap_group_policer_map.lookup (s.group name) = some (s.getPolicer name) ∧
          name ∈ s.m_trap_group_map := by
        unfold St.getPolicer at hne ⊢
        cases hg : s.m_trap_group_map.lookup name with
        | none =>
          rw [hg] at hne
          exact absurd rfl hne
        | some g =>
          have hgroup : s.group name = g := by rw [St.group, hg]; rfl
          rw [hg] at hne
          rw [hgroup]
          dsimp only at hne ⊢
          cases hp : s.m_trap_group_policer_map.lookup g with
          | none =>
            rw [hp] at hne
            exact absurd rfl hne
          | some p => exact ⟨rfl, Table.mem_of_lookup hg⟩
      obtain ⟨hp, hname⟩ := hpolicer
      obtain ⟨x, hg, hx⟩ := h.lookup_group hname
      have hmem : ∀ i, i ∈ s.asic.trap_groups.insert (s.group name)
          { x with policer := SAI_NULL_OBJECT_ID } ↔ i ∈ s.asic.trap_groups := fun i =>
        Table.mem_insert_of_mem (Table.mem_of_lookup hx)
      rw [setGroup_eq hx]
      refine { h with
        groups := h.groups.congr (fun _ => rfl) hmem
        policers := h.policers.erase hp (fun _ => Table.lookup_erase_eq) fun i => AList.mem_erase
        policer_group := fun {g' p} hp' => ?_
        hostif_group := fun hi => (hmem _).mpr (h.hostif_group hi)
        trap_group := fun ht => (hmem _).mpr (h.trap_group ht)
        given_groups := fun i hi => h.given_groups i ((hmem i).mp hi)
        given_policers := h.given_policers.erase }
      obtain ⟨hne', hp'⟩ := Table.lookup_erase_iff.mp hp'
      obtain ⟨y, hy, hyp⟩ := h.policer_group hp'
      exact ⟨y, Table.lookup_insert_iff.mpr (.inr ⟨hne', hy⟩), hyp⟩

/-- The interface of a group that has none. -/
theorem createGenetlinkHostIf (h : Inv s) (hname : name ∈ s.m_trap_group_map)
    (hnone : s.m_trap_group_hostif_map.lookup (s.group name) = none) (attribs : List Attr) :
    Inv (s.createGenetlinkHostIf name attribs) := by
  refine { h with
    hostifs := h.hostifs.insert hnone h.given_hostifs.not_mem
      (fun _ => Table.lookup_insert_eq) fun i => AList.mem_insert _
    hostif_group := fun {g' i} hi => ?_
    given_groups := h.given_groups.mono (Nat.le_succ _)
    given_policers := h.given_policers.mono (Nat.le_succ _)
    given_hostifs := h.given_hostifs.insert h.next_given (Nat.le_succ _)
    given_entries := h.given_entries.mono (Nat.le_succ _)
    given_traps := h.given_traps.mono (Nat.le_succ _) }
  rcases Table.lookup_insert_iff.mp hi with ⟨rfl, -⟩ | ⟨-, hi⟩
  · obtain ⟨x, -, hx⟩ := h.lookup_group hname
    exact Table.mem_of_lookup hx
  · exact h.hostif_group hi

/-- A new group, under a name that has none. -/
theorem newGroup (h : Inv s) (hname : s.m_trap_group_map.lookup name = none)
    (attribs : List Attr) :
    Inv { s with
      asic := { s.asic with
        trap_groups := s.asic.trap_groups.insert s.asic.next ⟨SAI_NULL_OBJECT_ID, attribs⟩
        next := s.asic.next + 1 }
      m_trap_group_map := s.m_trap_group_map.insert name s.asic.next } where
  groups := h.groups.insert hname h.given_groups.not_mem
    (fun _ => Table.lookup_insert_eq) fun i => AList.mem_insert _
  default := (AList.mem_insert _).mpr (.inr h.default)
  policers := h.policers
  policer_group := fun hp => by
    obtain ⟨x, hx, hxp⟩ := h.policer_group hp
    exact ⟨x, Table.lookup_insert_iff.mpr (.inr ⟨h.given_groups.ne_of_lookup hx, hx⟩), hxp⟩
  hostifs := h.hostifs
  hostif_group := fun hi => (AList.mem_insert _).mpr (.inr (h.hostif_group hi))
  entries := h.entries
  entry_trap := h.entry_trap
  traps := h.traps
  trap_obj := h.trap_obj
  trap_group := fun ht => (AList.mem_insert _).mpr (.inr (h.trap_group ht))
  given_groups := h.given_groups.insert h.next_given (Nat.le_succ _)
  given_policers := h.given_policers.mono (Nat.le_succ _)
  given_hostifs := h.given_hostifs.mono (Nat.le_succ _)
  given_entries := h.given_entries.mono (Nat.le_succ _)
  given_traps := h.given_traps.mono (Nat.le_succ _)

end Inv

/-! ### What is left -/

/-- The names of the groups and the recorded traps are those of before. -/
structure Keeps (s s' : St) : Prop where
  names : ∀ name, s'.m_trap_group_map.lookup name = s.m_trap_group_map.lookup name
  syncd : ∀ t, s'.m_syncdTrapIds.lookup t = s.m_syncdTrapIds.lookup t
  traps : s'.asic.traps = s.asic.traps

namespace Keeps

variable {s s' s'' : St} {name : String} {t : TrapType} {g : sai_object_id_t}

theorem refl (s : St) : Keeps s s := ⟨fun _ => rfl, fun _ => rfl, rfl⟩

theorem trans (h : Keeps s s') (h' : Keeps s' s'') : Keeps s s'' :=
  ⟨fun name => (h'.names name).trans (h.names name), fun t => (h'.syncd t).trans (h.syncd t),
    h'.traps.trans h.traps⟩

theorem name_mem (h : Keeps s s') (hname : name ∈ s.m_trap_group_map) :
    name ∈ s'.m_trap_group_map := by
  rw [← AList.lookup_isSome, h.names]
  exact AList.lookup_isSome.mpr hname

theorem trap_mem (h : Keeps s s') (ht : t ∈ s.m_syncdTrapIds) : t ∈ s'.m_syncdTrapIds := by
  rw [← AList.lookup_isSome, h.syncd]
  exact AList.lookup_isSome.mpr ht

theorem setGroup {f : TrapGroup → TrapGroup} : Keeps s (s.setGroup g f) := by
  unfold St.setGroup
  split <;> exact ⟨fun _ => rfl, fun _ => rfl, rfl⟩

theorem setPolicer {policer_id : sai_object_id_t} {attr : Attr} :
    Keeps s (s.setPolicer policer_id attr) := by
  unfold St.setPolicer
  split <;> exact ⟨fun _ => rfl, fun _ => rfl, rfl⟩

theorem createPolicer {attribs : List Attr} : Keeps s (s.createPolicer name attribs) := by
  unfold St.createPolicer St.setGroup
  dsimp only
  split <;> exact ⟨fun _ => rfl, fun _ => rfl, rfl⟩

theorem removePolicer : Keeps s (s.removePolicer name) := by
  unfold St.removePolicer St.setGroup
  dsimp only
  split
  · exact refl s
  · split <;> exact ⟨fun _ => rfl, fun _ => rfl, rfl⟩

theorem addTableEntry (ht : t ∈ s.m_syncdTrapIds) : Keeps s (s.addTableEntry t) := by
  obtain ⟨objs, hobjs⟩ := Option.isSome_iff_exists.mp (AList.lookup_isSome.mpr ht)
  have hsyncd : ∀ t', (s.m_syncdTrapIds.insert t (s.syncdTrap t)).lookup t' =
      s.m_syncdTrapIds.lookup t' := by
    intro t'
    rw [Table.lookup_insert_eq, St.syncdTrap, hobjs]
    split
    · next heq => rw [heq, hobjs]; rfl
    · rfl
  unfold St.addTableEntry
  split
  · exact refl s
  · dsimp only
    split <;> exact ⟨fun _ => rfl, hsyncd, rfl⟩

theorem touchGroup (hname : name ∈ s.m_trap_group_map) : Keeps s (s.touchGroup name) := by
  obtain ⟨g, hg⟩ := Option.isSome_iff_exists.mp (AList.lookup_isSome.mpr hname)
  refine ⟨fun name' => ?_, fun _ => rfl, rfl⟩
  show (s.m_trap_group_map.insert name (s.group name)).lookup name' = _
  rw [Table.lookup_insert_eq, St.group, hg]
  split
  · next heq => rw [heq, hg]; rfl
  · rfl

theorem removeTableEntry {it : Sigma fun _ : TrapType => copp_trap_objects} :
    Keeps s (s.removeTableEntry g it) := by
  unfold St.removeTableEntry
  split
  · split <;> exact ⟨fun _ => rfl, fun _ => rfl, rfl⟩
  · exact refl s

end Keeps

/-! ### A SET and a DEL -/

namespace Inv

variable {s : St} {w : World} {name : String} {g : sai_object_id_t}

/-- Objects that keep the names and the traps, one after the other. -/
theorem foldl_keeps {α : Type} {f : St → α → St} {P : St → α → Prop} (h : Inv s) (l : List α)
    (hP : ∀ a ∈ l, P s a) (hkeep : ∀ {s s' a}, P s a → Keeps s s' → P s' a)
    (hf : ∀ {s a}, Inv s → P s a → Inv (f s a) ∧ Keeps s (f s a)) :
    Inv (l.foldl f s) ∧ Keeps s (l.foldl f s) := by
  induction l generalizing s with
  | nil => exact ⟨h, Keeps.refl s⟩
  | cons a l ih =>
    obtain ⟨hinv, hkeeps⟩ := hf h (hP a (List.mem_cons_self ..))
    obtain ⟨hinv', hkeeps'⟩ := ih hinv fun b hb =>
      hkeep (hP b (List.mem_cons_of_mem _ hb)) hkeeps
    exact ⟨hinv', hkeeps.trans hkeeps'⟩

/-- A group that is there gets its policer and its attributes. -/
theorem setTrapGroup (h : Inv s) (hname : name ∈ s.m_trap_group_map) (p : Parsed) :
    Inv (s.setTrapGroup name p) ∧ Keeps s (s.setTrapGroup name p) := by
  unfold St.setTrapGroup
  dsimp only
  obtain ⟨x, hg, hx⟩ := h.lookup_group hname
  have hpolicer : ∀ s', s' = (if p.policer_attribs = [] then s
      else if s.getPolicer name = SAI_NULL_OBJECT_ID then s.createPolicer name p.policer_attribs
      else p.policer_attribs.foldl (fun s => s.setPolicer (s.getPolicer name)) s) →
      Inv s' ∧ Keeps s s' := by
    rintro _ rfl
    split
    · exact ⟨h, Keeps.refl s⟩
    split
    · next hnull =>
        refine ⟨h.createPolicer hname ?_ _, Keeps.createPolicer⟩
        rw [St.getPolicer, hg] at hnull
        cases hp : s.m_trap_group_policer_map.lookup (s.group name) with
        | none => rfl
        | some policer =>
          dsimp only at hnull
          rw [hp] at hnull
          have hpos := (h.given_policers policer (h.policers.live_of hp)).1
          exact absurd hnull (Nat.pos_iff_ne_zero.mp hpos)
    · exact h.foldl_keeps (P := fun _ _ => True) _ (fun _ _ => trivial) (fun _ _ => trivial)
        fun hs _ => ⟨hs.setPolicer, Keeps.setPolicer⟩
  obtain ⟨hinv, hkeeps⟩ := hpolicer _ rfl
  obtain ⟨hinv', hkeeps'⟩ := hinv.foldl_keeps (P := fun _ _ => True) p.trap_gr_attribs
    (f := fun s attr => s.setGroup (s.group name) fun g => { g with attribs := attr :: g.attribs })
    (fun _ _ => trivial) (fun _ _ => trivial) fun hs _ => ⟨hs.setGroup fun _ => rfl, Keeps.setGroup⟩
  exact ⟨hinv', hkeeps.trans hkeeps'⟩

/-- What a SET does to the groups: its own group is there, and the others are kept. -/
structure Grouped (s s' : St) (name : String) : Prop where
  inv : Inv s'
  mem : name ∈ s'.m_trap_group_map
  names : ∀ {name' g}, s.m_trap_group_map.lookup name' = some g →
    s'.m_trap_group_map.lookup name' = some g
  syncd : ∀ t, s'.m_syncdTrapIds.lookup t = s.m_syncdTrapIds.lookup t

theorem createTrapGroup (h : Inv s) (hname : s.m_trap_group_map.lookup name = none) (p : Parsed) :
    Grouped s (s.createTrapGroup name p) name := by
  have hnew := h.newGroup hname p.trap_gr_attribs
  obtain ⟨s₀, hs₀⟩ : ∃ s₀ : St, s₀ = { s with
      asic := { s.asic with
        trap_groups :=
          s.asic.trap_groups.insert s.asic.next ⟨SAI_NULL_OBJECT_ID, p.trap_gr_attribs⟩
        next := s.asic.next + 1 }
      m_trap_group_map := s.m_trap_group_map.insert name s.asic.next } := ⟨_, rfl⟩
  rw [← hs₀] at hnew
  have hlook : s₀.m_trap_group_map.lookup name = some s.asic.next := by
    rw [hs₀]
    exact AList.lookup_insert _
  have hmem : name ∈ s₀.m_trap_group_map := Table.mem_of_lookup hlook
  have hgroup : s₀.group name = s.asic.next := by rw [St.group, hlook]; rfl
  -- nothing is kept yet for the new identifier
  have hpolicer : s₀.m_trap_group_policer_map.lookup (s₀.group name) = none := by
    rw [hgroup, hs₀]
    show s.m_trap_group_policer_map.lookup s.asic.next = none
    cases hp : s.m_trap_group_policer_map.lookup s.asic.next with
    | none => rfl
    | some policer =>
      obtain ⟨x, hx, -⟩ := h.policer_group hp
      exact absurd rfl (h.given_groups.ne_of_lookup hx)
  have hhostif : s₀.m_trap_group_hostif_map.lookup s.asic.next = none := by
    rw [hs₀]
    show s.m_trap_group_hostif_map.lookup s.asic.next = none
    cases hi : s.m_trap_group_hostif_map.lookup s.asic.next with
    | none => rfl
    | some i => exact absurd (h.hostif_group hi) h.given_groups.not_mem
  have hstart : ∀ {s'}, Keeps s₀ s' → Inv s' → Grouped s s' name := by
    intro s' hkeeps hinv
    refine ⟨hinv, hkeeps.name_mem hmem, fun {name' g} hg => ?_, fun t => ?_⟩
    · rw [hkeeps.names, hs₀]
      refine Table.lookup_insert_iff.mpr (.inr ⟨?_, hg⟩)
      rintro rfl
      rw [hname] at hg
      cases hg
    · rw [hkeeps.syncd, hs₀]
  unfold St.createTrapGroup
  dsimp only
  rw [← hs₀]
  have hsecond : ∀ s', s' = (if p.policer_attribs = [] then s₀
      else s₀.createPolicer name p.policer_attribs) →
      Inv s' ∧ Keeps s₀ s' ∧ s'.m_trap_group_hostif_map = s₀.m_trap_group_hostif_map := by
    rintro _ rfl
    split
    · exact ⟨hnew, Keeps.refl _, rfl⟩
    · refine ⟨hnew.createPolicer hmem hpolicer _, Keeps.createPolicer, ?_⟩
      unfold St.createPolicer St.setGroup
      dsimp only
      split <;> rfl
  obtain ⟨hinv, hkeeps, hhostifs⟩ := hsecond _ rfl
  split
  · exact hstart hkeeps hinv
  · refine hstart (hkeeps.trans ⟨fun _ => rfl, fun _ => rfl, rfl⟩)
      (hinv.createGenetlinkHostIf (hkeeps.name_mem hmem) ?_ _)
    rw [hhostifs, St.group, hkeeps.names, hlook]
    exact hhostif

/-- Traps that are not recorded, each created once in a group. -/
theorem applyTraps (h : Inv s) (hg : g ∈ s.asic.trap_groups) (attribs : List Attr)
    {l : List TrapType} (hnodup : l.Nodup) (hfresh : ∀ t ∈ l, s.m_syncdTrapIds.lookup t = none) :
    Inv (s.applyAttributesToTrapIds g l attribs) ∧
    (s.applyAttributesToTrapIds g l attribs).m_trap_group_map = s.m_trap_group_map ∧
    (∀ t ∉ l, (s.applyAttributesToTrapIds g l attribs).m_syncdTrapIds.lookup t =
      s.m_syncdTrapIds.lookup t) ∧
    ∀ t ∈ l, ∃ trap_obj, (s.applyAttributesToTrapIds g l attribs).m_syncdTrapIds.lookup t =
      some ⟨trap_obj, g⟩ := by
  induction l generalizing s with
  | nil => exact ⟨h, rfl, fun _ _ => rfl, nofun⟩
  | cons t l ih =>
    obtain ⟨hnot, hnodup⟩ := List.nodup_cons.mp hnodup
    have hinv := h.applyTrap (hfresh t (List.mem_cons_self ..)) hg attribs
    have hother : ∀ t' ≠ t, (s.applyTrap g attribs t).m_syncdTrapIds.lookup t' =
        s.m_syncdTrapIds.lookup t' := fun t' ht' => AList.lookup_insert_ne ht'
    obtain ⟨hinv', hnames, hleft, hlisted⟩ := ih hinv hg hnodup fun t' ht' => by
      rw [hother t' fun heq => hnot (heq ▸ ht')]
      exact hfresh t' (List.mem_cons_of_mem _ ht')
    refine ⟨hinv', hnames, fun t' ht' => ?_, fun t' ht' => ?_⟩
    · rw [List.mem_cons, not_or] at ht'
      exact (hleft t' ht'.2).trans (hother t' ht'.1)
    · rcases List.mem_cons.mp ht' with rfl | ht'
      · exact ⟨s.asic.next, (hleft t' hnot).trans (AList.lookup_insert _)⟩
      · exact hlisted t' ht'

/-- The group of every recorded trap is that of its owner. -/
def Placed (s : St) (owner : TrapType → Option String) : Prop :=
  ∀ {t objs}, s.m_syncdTrapIds.lookup t = some objs →
    ∃ name, owner t = some name ∧ s.m_trap_group_map.lookup name = some objs.trap_group_obj

variable {mlnx : Bool} {fvs : List FieldValueTuple} {owner : TrapType → Option String}

/-- A SET of traps that are not recorded. -/
theorem setCoppRule (h : Inv s) (hplaced : Placed s owner) (hnodup : (s.listed mlnx fvs).Nodup)
    (hfresh : ∀ t ∈ s.listed mlnx fvs, s.m_syncdTrapIds.lookup t = none) :
    Inv (s.setCoppRule mlnx name fvs).1 ∧
    Placed (s.setCoppRule mlnx name fvs).1
      fun t => if t ∈ s.listed mlnx fvs then some name else owner t := by
  unfold St.setCoppRule
  cases hparse : fvs.foldlM (parseField mlnx s.enable_sflow_trap) Parsed.empty with
  | error reject =>
    -- nothing is done, and nothing is listed
    have hlisted : s.listed mlnx fvs = [] := by rw [St.listed, hparse]
    rw [hlisted]
    cases reject <;> exact ⟨h, hplaced⟩
  | ok p =>
    dsimp only
    have hlisted : s.listed mlnx fvs = (St.getTrapIdList p.trap_id_list).getD [] := by
      rw [St.listed, hparse]
    have hgrouped : ∀ s', s' = (if (s.m_trap_group_map.lookup name).isSome then
        s.setTrapGroup name p else s.createTrapGroup name p) → Grouped s s' name := by
      rintro _ rfl
      split
      · next hsome =>
          have hmem := AList.lookup_isSome.mp hsome
          obtain ⟨hinv, hkeeps⟩ := h.setTrapGroup hmem p
          exact ⟨hinv, hkeeps.name_mem hmem, fun hg => (hkeeps.names _).trans hg, hkeeps.syncd⟩
      · next hnone => exact h.createTrapGroup (Option.not_isSome_iff_eq_none.mp hnone) p
    obtain ⟨s', hs'⟩ : ∃ s', s' = (if (s.m_trap_group_map.lookup name).isSome then
        s.setTrapGroup name p else s.createTrapGroup name p) := ⟨_, rfl⟩
    have hgroup := hgrouped s' hs'
    rw [← hs']
    have hplaced' : Placed s' owner := by
      intro t objs hobjs
      rw [hgroup.syncd] at hobjs
      obtain ⟨name', hname', hlook⟩ := hplaced hobjs
      exact ⟨name', hname', hgroup.names hlook⟩
    cases htraps : St.getTrapIdList p.trap_id_list with
    | none =>
      rw [htraps] at hlisted
      rw [hlisted]
      exact ⟨hgroup.inv, hplaced'⟩
    | some l =>
      rw [htraps, Option.getD_some] at hlisted
      rw [hlisted] at hnodup hfresh ⊢
      dsimp only
      obtain ⟨x, hlook, hx⟩ := hgroup.inv.lookup_group hgroup.mem
      obtain ⟨hinv, hnames, hleft, hnew⟩ := hgroup.inv.applyTraps (Table.mem_of_lookup hx)
        (p.trap_id_attribs ++ [(.TRAP_GROUP, .oid (s'.group name))]) hnodup fun t ht => by
          rw [hgroup.syncd]
          exact hfresh t ht
      have hentries : ∀ s'' s₂, s'' = s'.applyAttributesToTrapIds (s'.group name) l
          (p.trap_id_attribs ++ [(.TRAP_GROUP, .oid (s'.group name))]) →
          s₂ = (if p.genetlink_attribs = [] then s'' else l.foldl St.addTableEntry s'') →
          Inv s₂ ∧ Keeps s'' s₂ := by
        rintro _ _ rfl rfl
        split
        · exact ⟨hinv, Keeps.refl _⟩
        · refine hinv.foldl_keeps (P := fun s t => t ∈ s.m_syncdTrapIds) l (fun t ht => ?_)
            (fun hmem hkeeps => hkeeps.trap_mem hmem)
            fun hs ht => ⟨hs.addTableEntry ht, Keeps.addTableEntry ht⟩
          obtain ⟨trap_obj, ht⟩ := hnew t ht
          exact Table.mem_of_lookup ht
      obtain ⟨hinv', hkeeps⟩ := hentries _ _ rfl rfl
      refine ⟨hinv', fun {t objs} hobjs => ?_⟩
      rw [hkeeps.syncd] at hobjs
      by_cases ht : t ∈ l
      · obtain ⟨trap_obj, hnew⟩ := hnew t ht
        rw [hnew] at hobjs
        obtain rfl := Option.some.inj hobjs
        exact ⟨name, if_pos ht, by rw [hkeeps.names, hnames, hlook]⟩
      · rw [hleft t ht] at hobjs
        obtain ⟨name', hname', hlook'⟩ := hplaced' hobjs
        exact ⟨name', (if_neg ht).trans hname', by rw [hkeeps.names, hnames, hlook']⟩

theorem removeTableEntry (h : Inv s) {it : Sigma fun _ : TrapType => copp_trap_objects} :
    Inv (s.removeTableEntry g it) := by
  unfold St.removeTableEntry
  split
  · split
    · exact h
    · next entry hentry =>
        refine { h with
          entries := h.entries.erase hentry (fun _ => Table.lookup_erase_eq)
            fun _ => AList.mem_erase
          entry_trap := fun {t e} he => ?_
          given_entries := h.given_entries.erase }
        obtain ⟨hne, hold⟩ := Table.lookup_erase_iff.mp he
        obtain ⟨objs, x, hobjs, hx, hid⟩ := h.entry_trap hold
        refine ⟨objs, x, hobjs, Table.lookup_erase_iff.mpr ⟨?_, hx⟩, hid⟩
        rintro rfl
        exact hne (h.entries.inj hold hentry)
  · exact h

/-- The entries of the traps of a group go, and its interface. -/
theorem removeGenetlinkHostIf (h : Inv s) (hname : name ∈ s.m_trap_group_map) :
    Inv (s.removeGenetlinkHostIf name) ∧ Keeps s (s.removeGenetlinkHostIf name) := by
  have htouched : Inv (s.touchGroup name) :=
    h.stored _ _ (Keeps.touchGroup hname).names fun _ => rfl
  obtain ⟨hinv, hkeeps⟩ := htouched.foldl_keeps (P := fun _ _ => True)
    (f := St.removeTableEntry ((s.touchGroup name).group name))
    (s.touchGroup name).m_syncdTrapIds.entries
    (fun _ _ => trivial) (fun _ _ => trivial)
    fun hs _ => ⟨hs.removeTableEntry, Keeps.removeTableEntry⟩
  have hkeeps := (Keeps.touchGroup hname).trans hkeeps
  unfold St.removeGenetlinkHostIf
  dsimp only
  split
  · exact ⟨hinv, hkeeps⟩
  · next hostif hhostif =>
      refine ⟨{ hinv with
        hostifs := hinv.hostifs.erase hhostif (fun _ => Table.lookup_erase_eq)
          fun _ => AList.mem_erase
        hostif_group := fun hi => hinv.hostif_group (Table.lookup_erase_iff.mp hi).2
        given_hostifs := hinv.given_hostifs.erase }, ?_⟩
      exact hkeeps.trans ⟨fun _ => rfl, fun _ => rfl, rfl⟩

/-- A DEL of the default group. -/
theorem delCoppRule (h : Inv s) : Inv (s.delCoppRule default_trap_group).1 ∧
    Keeps s (s.delCoppRule default_trap_group).1 := by
  have hkeeps : Keeps s (s.removePolicer default_trap_group) := Keeps.removePolicer
  obtain ⟨hinv, hkeeps'⟩ :=
    h.removePolicer.removeGenetlinkHostIf (hkeeps.name_mem h.default)
  have hdel : (s.delCoppRule default_trap_group).1 =
      (s.removePolicer default_trap_group).removeGenetlinkHostIf default_trap_group := by
    rw [St.delCoppRule, if_pos rfl]
  rw [hdel]
  exact ⟨hinv, hkeeps.trans hkeeps'⟩

/-! ### Runs -/

theorem mirrors (h : Inv w.orch) (hplaced : Placed w.orch w.owner) : Mirrors w where
  trap := by
    intro t objs hobjs
    refine ⟨h.trap_obj hobjs, fun i x hx htype => ?_⟩
    -- the trap has an owner, which is of its kind
    obtain ⟨t', ht'⟩ := h.traps.owned (Table.mem_of_lookup hx)
    obtain ⟨objs', hobjs', rfl⟩ := Option.map_eq_some_iff.mp ht'
    obtain ⟨x', hx', htype', -⟩ := h.trap_obj hobjs'
    rw [hx] at hx'
    obtain rfl := Option.some.inj hx'
    obtain rfl : t = t' := htype.symm.trans htype'
    rw [hobjs] at hobjs'
    rw [Option.some.inj hobjs']
  group := hplaced
  policers := h.policers
  policer_group := h.policer_group
  hostifs := h.hostifs
  hostif_group := h.hostif_group
  entries := h.entries
  entry_trap := h.entry_trap

theorem init (mlnx : Bool) : Inv (Copp.init mlnx) ∧
    Placed (Copp.init mlnx) (World.init mlnx).owner := by
  have hstart : Inv ⟨(∅ : Table String sai_object_id_t).insert default_trap_group 1,
      ∅, ∅, ∅, ∅, false,
      ⟨(∅ : Table sai_object_id_t TrapGroup).insert 1 ⟨SAI_NULL_OBJECT_ID, []⟩,
        ∅, ∅, ∅, ∅, 2⟩⟩ :=
    { groups := Table.owned_empty.insert rfl (AList.notMem_empty 1)
        (fun _ => Table.lookup_insert_eq) fun i => AList.mem_insert _
      default := (AList.mem_insert _).mpr (.inl rfl)
      policers := Table.owned_empty
      policer_group := nofun
      hostifs := Table.owned_empty
      hostif_group := nofun
      entries := Table.owned_empty
      entry_trap := nofun
      traps := Table.owned_empty
      trap_obj := nofun
      trap_group := nofun
      given_groups := Table.Given.empty.insert (by decide) (Nat.le_refl 2)
      given_policers := Table.Given.empty
      given_hostifs := Table.Given.empty
      given_entries := Table.Given.empty
      given_traps := Table.Given.empty }
  obtain ⟨hinv, hnames, hleft, hnew⟩ := hstart.applyTraps (g := 1) ((AList.mem_insert _).mpr (.inl rfl))
    ([(.PACKET_ACTION, .s32 "trap"), (.TRAP_GROUP, .oid 1)] ++
      if mlnx then [] else [(.TRAP_PRIORITY, .number 0)]) (l := default_trap_ids)
    (List.nodup_singleton _) fun _ _ => rfl
  refine ⟨hinv, fun {t objs} hobjs => ?_⟩
  change (St.applyAttributesToTrapIds _ _ _ _).m_syncdTrapIds.lookup t = some objs at hobjs
  by_cases ht : t ∈ default_trap_ids
  · obtain ⟨trap_obj, hnew⟩ := hnew t ht
    rw [hnew] at hobjs
    obtain rfl := Option.some.inj hobjs
    refine ⟨default_trap_group, if_pos ht, ?_⟩
    exact (congrArg _ hnames).trans (AList.lookup_insert _)
  · rw [hleft t ht] at hobjs
    cases hobjs

theorem step (h : Inv w.orch) (hplaced : Placed w.orch w.owner) {e : Event}
    (hsafe : Safe mlnx w e) :
    Inv (w.step mlnx e).orch ∧ Placed (w.step mlnx e).orch (w.step mlnx e).owner := by
  cases e with
  | set name fvs => exact h.setCoppRule hplaced hsafe.1 hsafe.2
  | del name =>
    obtain rfl : name = default_trap_group := hsafe
    obtain ⟨hinv, hkeeps⟩ := h.delCoppRule
    refine ⟨hinv, fun {t objs} hobjs => ?_⟩
    rw [World.step, hkeeps.syncd] at hobjs
    obtain ⟨name, hname, hlook⟩ := hplaced hobjs
    refine ⟨name, ?_, (hkeeps.names name).trans hlook⟩
    show (if default_trap_group ≠ default_trap_group ∧ w.owner t = some default_trap_group
      then some default_trap_group else w.owner t) = some name
    rw [if_neg fun hne => hne.1 rfl, hname]
  | sflow => exact ⟨{ h with }, hplaced⟩

/-- **The maps are the ASIC.**  On runs of safe steps what the orch keeps is what there is, and
a DEL leaves the traps of the other groups. -/
theorem run_mirrors {mlnx : Bool} {es : List Event} {w : World}
    (h : Run (Guarded (Safe mlnx) (fun w e w' => w' = w.step mlnx e)) (.init mlnx) es w) :
    Mirrors w ∧ ∀ name, Safe mlnx w (.del name) → Spares w name := by
  have hinv : Inv w.orch ∧ Placed w.orch w.owner := by
    refine h.keeps (I := fun w => Inv w.orch ∧ Placed w.orch w.owner) (init mlnx) ?_
    rintro w e _ ⟨hinv, hplaced⟩ ⟨hsafe, rfl⟩
    exact hinv.step hplaced hsafe
  refine ⟨hinv.1.mirrors hinv.2, ?_⟩
  rintro name hname t objs x hobjs - hx
  obtain rfl : name = default_trap_group := hname
  rw [hinv.1.delCoppRule.2.traps]
  exact hx

end Inv

/-- A group of a genetlink trap and one of two traps with a policer, and a DEL of the default
group. -/
def groupEvents : List Event :=
  [.sflow,
    .set "trap.group.sflow" [("trap_ids", "sample_packet"), ("genetlink_name", "psample"),
      ("genetlink_mcgrp_name", "packets")],
    .set "trap.group.bgp" [("trap_ids", "bgp,bgpv6"), ("queue", "4"), ("cir", "600")],
    .del "default"]

theorem groups_mirror : Mirrors (groupEvents.foldl (World.step false) (.init false)) ∧
    ∀ name, Safe false (groupEvents.foldl (World.step false) (.init false)) (.del name) →
      Spares (groupEvents.foldl (World.step false) (.init false)) name := by
  refine Inv.run_mirrors (Run.guarded_foldl ?_)
  refine ⟨trivial, ⟨?_, ?_⟩, ⟨?_, ?_⟩, rfl, trivial⟩
  all_goals decide +kernel

/-- A DEL of one group removes the trap of the other, which stays recorded. -/
theorem not_run_mirrors : ¬ ∀ (es : List Event) (w : World),
    Run (fun w e w' => w' = w.step false e) (.init false) es w → Mirrors w := by
  intro h
  have hmirrors := h [.set "trap.group.lldp" [("trap_ids", "lldp")], .del "trap.group.lldp"] _
    (Run.foldl _ _)
  have hrun : let s := ([Event.set "trap.group.lldp" [("trap_ids", "lldp")],
      .del "trap.group.lldp"].foldl (World.step false) (.init false)).orch
      (s.m_syncdTrapIds.lookup .TTL_ERROR).map (fun objs =>
        (objs.trap_obj, (s.asic.traps.lookup objs.trap_obj).isSome)) = some (2, false) := by
    decide +kernel
  obtain ⟨objs, hobjs, hgone⟩ := Option.map_eq_some_iff.mp hrun
  obtain ⟨⟨x, hx, -⟩, -⟩ := hmirrors.trap hobjs
  rw [hx] at hgone
  cases (Prod.mk.inj hgone).2

end Orchagent.Copp
