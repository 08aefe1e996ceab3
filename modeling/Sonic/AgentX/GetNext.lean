/-
AgentX/GetNext.lean

The successor of an object identifier, as `MIBTable.get_next` finds it.

The answer should be the binding of the least identifier in the range that has a value
(`Correct`).  Three places answer: the entry of the start, for the start itself or for the
sub-identifier after it, and the first sub-identifier of a later entry (`Outcome`).  None of them
looks behind a sub-identifier without value, only the walk over the later entries looks at the end,
and it compares prefixes with it, so that nothing is before an end that is null.  The answer is
right when the range has no such place (`Regular`), and only then.
-/
import Sonic.AgentX.Mib

namespace AgentX

open ValueRepresentation MIBTable

/-! ### What is to be answered -/

/-- The identifier has a value. -/
def HasValue (t : MIBTable) (o : List ℕ) : Prop :=
  ∃ p e s, t.entries.lookup p = some e ∧ o = p ++ s ∧ s ∈ e.instances ∧ (e.call p s).isSome

/-- The end is null, or the identifier is before it. -/
def Before (stop o : List ℕ) : Prop := stop = [] ∨ o < stop

/-- The identifier is in the range, and has a value. -/
structure Candidate (t : MIBTable) (sr : SearchRange) (o : List ℕ) : Prop where
  hasValue : HasValue t o
  after : sr.start.to_tuple < o ∨ sr.start.include_ ≠ 0 ∧ o = sr.start.to_tuple
  before : Before sr.end_.to_tuple o

/-- The binding of an identifier. -/
def Binding (t : MIBTable) (o : List ℕ) (vr : ValueRepresentation) : Prop :=
  ∃ p e s v name data, t.entries.lookup p = some e ∧ o = p ++ s ∧ s ∈ e.instances ∧
    e.call p s = some v ∧ name.to_tuple = o ∧ name.include_ = 0 ∧
    castData e.value_type.shape v = .ok data ∧ vr = ⟨e.value_type, 0, name, data⟩

theorem endOfView_shape : ValueType.END_OF_MIB_VIEW.shape = .empty := rfl

/-- The end of the view, named by the start. -/
def endOfView (sr : SearchRange) : ValueRepresentation :=
  missing .END_OF_MIB_VIEW endOfView_shape sr.start

/-- The answer is the binding of the least candidate, or the end of the view if there is none. -/
def Correct (t : MIBTable) (sr : SearchRange) : Prop :=
  (∃ o vr, IsLeast {o | Candidate t sr o} o ∧ Binding t o vr ∧ t.get_next sr = .ok vr) ∨
    (∀ o, ¬ Candidate t sr o) ∧ t.get_next sr = .ok (endOfView sr)

/-! ### Where it is found -/

/-- `from_iterable` keeps the identifier: after the prefix of the internet there is one that is
not 0. -/
def Nameable (o : List ℕ) : Prop :=
  o.take 4 = INTERNET_PREFIX → ∃ n rest, o.drop 4 = n :: rest ∧ n ≠ 0

/-- The binding of the identifier can be made. -/
def Castable (t : MIBTable) (o : List ℕ) : Prop :=
  Nameable o ∧ ∀ p e s v, t.entries.lookup p = some e → o = p ++ s → e.call p s = some v →
    ∃ data, castData e.value_type.shape v = .ok data

/-- One of the places that are looked at. -/
inductive Reached (t : MIBTable) (sr : SearchRange) : List ℕ → Prop where
  | start : Reached t sr sr.start.to_tuple
  | next {p e s k} (hp : t.entries.lookup p = some e) (hs : sr.start.to_tuple = p ++ s)
      (hk : e.get_next s = some k) : Reached t sr (p ++ k)
  | walk {q e k} (hq : t.entries.lookup q = some e) (hstart : sr.start.to_tuple < q)
      (hstop : q < sr.end_.to_tuple) (hk : e.first = .ok (some k)) : Reached t sr (q ++ k)

/-- The entry is passed over: it has no first sub-identifier, or no value for it. -/
def Passed (e : MIBEntry) (q : List ℕ) : Prop :=
  e.first = .ok none ∨ ∃ k, e.first = .ok (some k) ∧ e.call q k = none

/-- The range is one whose successor is looked for in the right places. -/
structure Regular (t : MIBTable) (sr : SearchRange) : Prop where
  /-- no candidate is hidden -/
  reached : ∀ o, Candidate t sr o → ∃ o' ≤ o, Candidate t sr o' ∧ Reached t sr o'
  /-- an included start that an entry answers for is one -/
  start : ∀ p e s, t.entries.lookup p = some e → sr.start.to_tuple = p ++ s →
    sr.start.include_ ≠ 0 → (e.call p s).isSome → Candidate t sr sr.start.to_tuple
  /-- what is next to the start is not behind the end, or there is a candidate before it -/
  next : ∀ p e s k, t.entries.lookup p = some e → sr.start.to_tuple = p ++ s →
    e.get_next s = some k → (e.call p k).isSome → ∃ o ≤ p ++ k, Candidate t sr o
  /-- the first of an entry before the end is not behind the end, or there is a candidate before
  the entry -/
  walk : ∀ q e, t.entries.lookup q = some e → sr.start.to_tuple < q → q < sr.end_.to_tuple →
    Passed e q ∨ (∃ k, e.first = .ok (some k) ∧ q ++ k < sr.end_.to_tuple) ∨
      ∃ o < q, Candidate t sr o
  castable : ∀ o, IsLeast {o | Candidate t sr o} o → Castable t o

/-- Every identifier that an entry answers for keeps its name. -/
def Writable (t : MIBTable) : Prop :=
  ∀ p e s, t.entries.lookup p = some e → (e.call p s).isSome → Nameable (p ++ s)

/-! ### Entries and prefixes -/

theorem Handler.get_next_least {V : Type} {h : Handler V} {s k : SubId}
    (hk : h.get_next s = some k) : IsLeast {x | x ∈ h.instances ∧ s < x} k := by
  induction h with
  | scalar _ => cases hk
  | subtree iterator _ => exact iterator.least s k hk
  | oid _ => cases hk
  | overlay underlay _ ih _ => exact ih hk

theorem Handler.first_mem {V : Type} {h : Handler V} {k : SubId} (hk : h.first = .ok (some k)) :
    k ∈ h.instances := by
  induction h with
  | scalar _ =>
    obtain rfl := Option.some.inj (Except.ok.inj hk)
    exact rfl
  | subtree iterator _ => exact (iterator.least [] k (Except.ok.inj hk)).1.1
  | oid _ => cases hk
  | overlay underlay _ ih _ => exact ih hk

section Table

variable {t : MIBTable} {p q x : List ℕ} {e e' : MIBEntry} {s s' : SubId}

theorem mem_oids : p ∈ t.oids ↔ p ∈ t.entries := by
  unfold oids
  rw [List.mem_insertionSort, t.mem_prefixes]

theorem mem_oids_of_lookup (h : t.entries.lookup p = some e) : p ∈ t.oids :=
  mem_oids.mpr (Table.mem_of_lookup h)

theorem oids_free : LexPrefix.Free t.oids := fun p hp q hq =>
  t.free p ((List.mem_insertionSort _).mp hp) q ((List.mem_insertionSort _).mp hq)

theorem oids_sorted : t.oids.Pairwise (· < ·) := by
  have hsorted := List.pairwise_insertionSort (· ≤ ·) t.prefixes
  have hnodup : t.oids.Nodup := (List.perm_insertionSort _ _).nodup_iff.mpr t.nodup
  exact (hsorted.and hnodup).imp fun h => lt_of_le_of_ne h.1 h.2

/-- An identifier belongs to one entry only. -/
theorem parent_unique (h : t.entries.lookup p = some e) (h' : t.entries.lookup q = some e')
    (hpq : p ++ s = q ++ s') : p = q ∧ s = s' := by
  have heq : p = q := by
    rcases List.prefix_or_prefix_of_prefix ⟨s, rfl⟩ ⟨s', hpq.symm⟩ with hle | hle
    · exact oids_free p (mem_oids_of_lookup h) q (mem_oids_of_lookup h') hle
    · exact (oids_free q (mem_oids_of_lookup h') p (mem_oids_of_lookup h) hle).symm
  subst heq
  exact ⟨rfl, List.append_cancel_left hpq⟩

theorem not_isPrefix (h : t.entries.lookup p = some e) (h' : t.entries.lookup q = some e')
    (hne : p ≠ q) : ¬ p <+: q := fun hpre =>
  hne (oids_free p (mem_oids_of_lookup h) q (mem_oids_of_lookup h') hpre)

theorem findParentPrefix_eq (h : t.entries.lookup p = some e) :
    t.findParentPrefix (p ++ s) = some p := by
  unfold findParentPrefix
  rw [LexPrefix.getLast?_takeWhile_le oids_sorted oids_free (mem_oids_of_lookup h)
    (List.prefix_append p s)]
  exact if_pos (List.take_left' rfl).symm

theorem of_findParentPrefix (h : t.findParentPrefix x = some p) :
    ∃ e s, t.entries.lookup p = some e ∧ x = p ++ s := by
  unfold findParentPrefix at h
  cases hlast : (t.oids.takeWhile (· ≤ x)).getLast? with
  | none =>
    rw [hlast] at h
    cases h
  | some q =>
    rw [hlast] at h
    dsimp only at h
    split at h
    · next htake =>
        obtain rfl := Option.some.inj h
        have hmem := List.takeWhile_subset _ (List.mem_of_getLast? hlast)
        obtain ⟨e, he⟩ := Option.isSome_iff_exists.mp (AList.lookup_isSome.mpr (mem_oids.mp hmem))
        refine ⟨e, x.drop q.length, he, ?_⟩
        nth_rewrite 1 [htake]
        exact (List.take_append_drop _ _).symm
    · cases h

end Table

/-! ### What is answered -/

/-- The entry of the start answers nothing. -/
def Silent (t : MIBTable) (sr : SearchRange) : Prop :=
  ∀ p e s, t.entries.lookup p = some e → sr.start.to_tuple = p ++ s →
    (sr.start.include_ ≠ 0 → e.call p s = none) ∧
      ∀ k, e.get_next s = some k → e.call p k = none

/-- The entries between the start and `q` are passed over. -/
def PassedTo (t : MIBTable) (sr : SearchRange) (q : List ℕ) : Prop :=
  ∀ q' e, t.entries.lookup q' = some e → sr.start.to_tuple < q' → q' < q → Passed e q'

/-- The ways in which `get_next` ends. -/
inductive Outcome (t : MIBTable) (sr : SearchRange) :
    Except Raised ValueRepresentation → Prop where
  | start {p e s v} (hp : t.entries.lookup p = some e) (hs : sr.start.to_tuple = p ++ s)
      (hinclude : sr.start.include_ ≠ 0) (hv : e.call p s = some v) :
      Outcome t sr (from_typecast e.value_type (p ++ s) v)
  | next {p e s k v} (hp : t.entries.lookup p = some e) (hs : sr.start.to_tuple = p ++ s)
      (hno : sr.start.include_ ≠ 0 → e.call p s = none) (hk : e.get_next s = some k)
      (hv : e.call p k = some v) : Outcome t sr (from_typecast e.value_type (p ++ k) v)
  | walk {q e k v} (hno : Silent t sr) (hq : t.entries.lookup q = some e)
      (hstart : sr.start.to_tuple < q) (hstop : q < sr.end_.to_tuple) (hpassed : PassedTo t sr q)
      (hk : e.first = .ok (some k)) (hv : e.call q k = some v) :
      Outcome t sr (from_typecast e.value_type (q ++ k) v)
  | raised {q e err} (hno : Silent t sr) (hq : t.entries.lookup q = some e)
      (hstart : sr.start.to_tuple < q) (hstop : q < sr.end_.to_tuple) (hpassed : PassedTo t sr q)
      (hk : e.first = .error err) : Outcome t sr (.error err)
  | endOfView (hno : Silent t sr) (hpassed : PassedTo t sr sr.end_.to_tuple) :
      Outcome t sr (.ok (endOfView sr))

section Outcome

variable {t : MIBTable} {sr : SearchRange}

/-- What the walk does with the entries that are left. -/
theorem walk_outcome (hno : Silent t sr) (before rest : List (List ℕ))
    (hsplit : t.oids.dropWhile (· ≤ sr.start.to_tuple) = before ++ rest)
    (hbefore : ∀ q ∈ before, ∀ e, t.entries.lookup q = some e → Passed e q) :
    Outcome t sr (match t.walk sr.end_.to_tuple rest with
      | .error err => .error err
      | .ok (some vr) => .ok vr
      | .ok none => .ok (endOfView sr)) := by
  obtain ⟨-, hdrop⟩ := LexPrefix.takeWhile_le_append (oids_sorted (t := t)) sr.start.to_tuple
  have hsorted : (before ++ rest).Pairwise (· < ·) := by
    rw [← hsplit]
    exact oids_sorted.sublist (List.dropWhile_sublist _)
  -- an entry after the start is among those of the list
  have hmem : ∀ {q e}, t.entries.lookup q = some e → sr.start.to_tuple < q →
      q ∈ before ∨ q ∈ rest := by
    intro q e hq hlt
    rw [← List.mem_append, ← hsplit, hdrop]
    exact ⟨mem_oids_of_lookup hq, hlt⟩
  induction rest generalizing before with
  | nil =>
    refine .endOfView hno fun q e hq hstart _ => ?_
    exact hbefore q ((hmem hq hstart).resolve_right nofun) e hq
  | cons q rest ih =>
    have hq : q ∈ t.oids ∧ sr.start.to_tuple < q := by
      rw [← hdrop, hsplit]
      exact List.mem_append_right _ List.mem_cons_self
    obtain ⟨e, he⟩ := Option.isSome_iff_exists.mp (AList.lookup_isSome.mpr (mem_oids.mp hq.1))
    obtain ⟨-, hrest, -⟩ := List.pairwise_append.mp hsorted
    have hfirst : ∀ q' ∈ rest, q < q' := (List.pairwise_cons.mp hrest).1
    have hpassed : PassedTo t sr q := by
      intro q' e' hq' hstart hlt
      rcases hmem hq' hstart with h | h
      · exact hbefore q' h e' hq'
      · rcases List.mem_cons.mp h with rfl | h
        · exact absurd hlt (lt_irrefl _)
        · exact absurd hlt (hfirst q' h).asymm
    unfold MIBTable.walk
    by_cases hstop : q < sr.end_.to_tuple
    · rw [if_pos hstop, he]
      dsimp only
      -- the entry is passed over, and the walk goes on
      have hskip : Passed e q → Outcome t sr (match t.walk sr.end_.to_tuple rest with
          | .error err => .error err
          | .ok (some vr) => .ok vr
          | .ok none => .ok (endOfView sr)) := by
        intro hp
        have hsplit' : t.oids.dropWhile (· ≤ sr.start.to_tuple) = (before ++ [q]) ++ rest := by
          rw [hsplit, List.append_assoc, List.singleton_append]
        refine ih (before ++ [q]) hsplit' (fun q' hq' e' he' => ?_) ?_ ?_
        · rcases List.mem_append.mp hq' with h | h
          · exact hbefore q' h e' he'
          · obtain rfl := List.mem_singleton.mp h
            rw [he] at he'
            obtain rfl := Option.some.inj he'
            exact hp
        · rwa [List.append_assoc, List.singleton_append]
        · intro q' e' he' hlt
          rw [List.mem_append, List.mem_singleton, or_assoc, ← List.mem_cons]
          exact hmem he' hlt
      cases hk : e.first with
      | error err => exact .raised hno he hq.2 hstop hpassed hk
      | ok first =>
        cases first with
        | none => exact hskip (.inl hk)
        | some k =>
          dsimp only
          cases hv : e.call q k with
          | none => exact hskip (.inr ⟨k, hk, hv⟩)
          | some v =>
            have hout : Outcome t sr (from_typecast e.value_type (q ++ k) v) :=
              .walk hno he hq.2 hstop hpassed hk hv
            dsimp only
            cases hcast : from_typecast e.value_type (q ++ k) v with
            | error err =>
              rw [hcast] at hout
              exact hout
            | ok vr =>
              rw [hcast] at hout
              exact hout
    · rw [if_neg hstop]
      refine .endOfView hno fun q' e' hq' hstart hlt => ?_
      exact hpassed q' e' hq' hstart (hlt.trans_le (not_lt.mp hstop))

theorem get_next_outcome (t : MIBTable) (sr : SearchRange) : Outcome t sr (t.get_next sr) := by
  have hend : Silent t sr → t.parentValue sr = .ok none → Outcome t sr (t.get_next sr) := by
    intro hno hparent
    have hwalk := walk_outcome hno [] (t.oids.dropWhile (· ≤ sr.start.to_tuple)) rfl
      fun _ hq => absurd hq List.not_mem_nil
    unfold MIBTable.get_next
    rw [hparent]
    cases hres : t.walk sr.end_.to_tuple (t.oids.dropWhile (· ≤ sr.start.to_tuple)) with
    | error err =>
      rw [hres] at hwalk
      exact hwalk
    | ok found =>
      rw [hres] at hwalk
      cases found with
      | none => exact hwalk
      | some vr => exact hwalk
  have hanswer : ∀ {r : Except Raised ValueRepresentation}, Outcome t sr r →
      t.parentValue sr = r.map some → Outcome t sr (t.get_next sr) := by
    intro r hr hparent
    unfold MIBTable.get_next
    rw [hparent]
    cases r with
    | error err => exact hr
    | ok vr => exact hr
  cases hfind : t.findParentPrefix sr.start.to_tuple with
  | none =>
    refine hend (fun p e s hp hs => ?_) (by rw [MIBTable.parentValue, hfind])
    rw [hs, findParentPrefix_eq hp] at hfind
    cases hfind
  | some p =>
    obtain ⟨e, s, hp, hs⟩ := of_findParentPrefix hfind
    have hdrop : (p ++ s).drop p.length = s := List.drop_left' rfl
    have htake : (p ++ s).take p.length = p := List.take_left' rfl
    -- what is next to the start, when the start is not answered for
    have hnext : (sr.start.include_ ≠ 0 → e.call p s = none) →
        t.parentValue sr = getNextvalue e p (p ++ s) → Outcome t sr (t.get_next sr) := by
      intro hno hparent
      unfold getNextvalue at hparent
      rw [hdrop, htake] at hparent
      have hsilent : (∀ k, e.get_next s = some k → e.call p k = none) → Silent t sr := by
        intro hnone p' e' s' hp' hs'
        obtain ⟨rfl, rfl⟩ := parent_unique hp hp' (hs.symm.trans hs')
        rw [hp] at hp'
        obtain rfl := Option.some.inj hp'
        exact ⟨hno, hnone⟩
      cases hk : e.get_next s with
      | none =>
        rw [hk] at hparent
        refine hend (hsilent fun k hk' => ?_) hparent
        rw [hk] at hk'
        cases hk'
      | some k =>
        rw [hk] at hparent
        dsimp only at hparent
        cases hv : e.call p k with
        | none =>
          rw [hv] at hparent
          refine hend (hsilent fun k' hk' => ?_) hparent
          rw [hk] at hk'
          obtain rfl := Option.some.inj hk'
          exact hv
        | some v =>
          rw [hv] at hparent
          exact hanswer (.next hp hs hno hk hv) hparent
    have hparent : t.parentValue sr =
        if sr.start.include_ ≠ 0 then (getValue e p (p ++ s)).bind fun found =>
          found.elim (getNextvalue e p (p ++ s)) fun vr => .ok (some vr)
        else getNextvalue e p (p ++ s) := by
      unfold MIBTable.parentValue
      rw [hfind]
      dsimp only
      rw [hp, ← hs]
      dsimp only
      refine if_congr Iff.rfl ?_ rfl
      cases getValue e p sr.start.to_tuple with
      | error raised => rfl
      | ok found => cases found <;> rfl
    by_cases hinclude : sr.start.include_ ≠ 0
    · rw [if_pos hinclude] at hparent
      unfold getValue at hparent
      rw [hdrop] at hparent
      cases hv : e.call p s with
      | none =>
        rw [hv] at hparent
        exact hnext (fun _ => hv) hparent
      | some v =>
        rw [hv] at hparent
        dsimp only at hparent
        refine hanswer (.start hp hs hinclude hv) (hparent.trans ?_)
        cases from_typecast e.value_type (p ++ s) v <;> rfl
    · rw [if_neg hinclude] at hparent
      exact hnext (fun h => absurd h hinclude) hparent

end Outcome

/-! ### The answer is right -/

section Correct

variable {t : MIBTable} {sr : SearchRange} {o p q : List ℕ} {e : MIBEntry} {s k : SubId}

theorem nameable_from_iterable (h : Nameable o) :
    ∃ name, ObjectIdentifier.from_iterable o = .ok name ∧ name.to_tuple = o ∧
      name.include_ = 0 := by
  unfold ObjectIdentifier.from_iterable
  by_cases hinternet : o.take 4 = INTERNET_PREFIX
  · obtain ⟨n, rest, hdrop, hn⟩ := h hinternet
    rw [if_pos hinternet, hdrop]
    refine ⟨_, rfl, ?_, rfl⟩
    show (if n = 0 then [] else INTERNET_PREFIX ++ [n]) ++ rest = o
    rw [if_neg hn, ← hinternet, List.append_assoc, List.singleton_append, ← hdrop,
      List.take_append_drop]
  · rw [if_neg hinternet]
    exact ⟨_, rfl, rfl, rfl⟩

/-- The entry that an identifier with a value belongs to has it. -/
theorem HasValue.at (h : HasValue t (p ++ s)) (hp : t.entries.lookup p = some e) :
    s ∈ e.instances ∧ (e.call p s).isSome := by
  obtain ⟨p', e', s', hp', heq, hmem, hsome⟩ := h
  obtain ⟨rfl, rfl⟩ := parent_unique hp hp' heq
  rw [hp] at hp'
  obtain rfl := Option.some.inj hp'
  exact ⟨hmem, hsome⟩

theorem Candidate.le (h : Candidate t sr o) : sr.start.to_tuple ≤ o :=
  h.after.elim le_of_lt fun h => h.2.ge

/-- Where the entry of the start answers nothing, the candidates are after the start. -/
theorem Silent.lt (hno : Silent t sr) (h : Candidate t sr o) : sr.start.to_tuple < o := by
  refine h.after.resolve_right ?_
  rintro ⟨hinclude, rfl⟩
  obtain ⟨p, e, s, hp, hs, -, hsome⟩ := h.hasValue
  rw [(hno p e s hp hs).1 hinclude] at hsome
  cases hsome

/-- Where it answers nothing, only the first sub-identifiers of later entries are looked at. -/
theorem Silent.walk (hno : Silent t sr) (h : Candidate t sr o) (hr : Reached t sr o) :
    ∃ q e k, t.entries.lookup q = some e ∧ sr.start.to_tuple < q ∧ q < sr.end_.to_tuple ∧
      e.first = .ok (some k) ∧ o = q ++ k := by
  cases hr with
  | start => exact absurd (hno.lt h) (lt_irrefl _)
  | next hp hs hk =>
    have hsome := (h.hasValue.at hp).2
    rw [(hno _ _ _ hp hs).2 _ hk] at hsome
    cases hsome
  | walk hq hstart hstop hk => exact ⟨_, _, _, hq, hstart, hstop, hk, rfl⟩

/-- No candidate is before an entry to which all are passed over. -/
theorem Regular.not_lt (h : Regular t sr) (hno : Silent t sr) (hpassed : PassedTo t sr q)
    (ho : Candidate t sr o) : ¬ o < q := by
  intro hlt
  obtain ⟨o', hle, ho', hr⟩ := h.reached o ho
  obtain ⟨q', e', k, hq', hstart, -, hk, rfl⟩ := hno.walk ho' hr
  have hbefore : q' < q := ((LexPrefix.le_append q' k).trans hle).trans_lt hlt
  have hsome := (ho'.hasValue.at hq').2
  rcases hpassed q' e' hq' hstart hbefore with hnone | ⟨k', hk', hnone⟩
  · rw [hk] at hnone
    cases hnone
  · rw [hk] at hk'
    obtain rfl := Option.some.inj (Except.ok.inj hk')
    rw [hnone] at hsome
    cases hsome

/-- The binding of the least candidate is right. -/
theorem Regular.correct_of_least (h : Regular t sr) (hp : t.entries.lookup p = some e)
    {v : e.value_type.shape.Value} (hv : e.call p s = some v)
    (hleast : IsLeast {o | Candidate t sr o} (p ++ s))
    (hget : t.get_next sr = from_typecast e.value_type (p ++ s) v) : Correct t sr := by
  obtain ⟨hname, hcast⟩ := h.castable _ hleast
  obtain ⟨name, hiter, htuple, hzero⟩ := nameable_from_iterable hname
  obtain ⟨data, hdata⟩ := hcast p e s v hp rfl hv
  refine .inl ⟨p ++ s, ⟨e.value_type, 0, name, data⟩, hleast, ?_, ?_⟩
  · exact ⟨p, e, s, v, name, data, hp, rfl, (hleast.1.hasValue.at hp).1, hv, htuple, hzero, hdata,
      rfl⟩
  · rw [hget, from_typecast, hiter, hdata]
    rfl

/-- An identifier between the start and what is next to it is no candidate. -/
theorem next_le (hp : t.entries.lookup p = some e) (hs : sr.start.to_tuple = p ++ s)
    (hk : e.get_next s = some k) (ho : Candidate t sr o) (hlt : sr.start.to_tuple < o) :
    p ++ k ≤ o := by
  by_contra hge
  obtain ⟨⟨-, -⟩, hmin⟩ := Handler.get_next_least hk
  -- it would belong to the same entry
  obtain ⟨s', rfl⟩ : p <+: o := LexPrefix.isPrefix_of_le_of_le ⟨s, rfl⟩ (List.prefix_append p k)
    (hs ▸ hlt.le) (not_le.mp hge).le
  rw [hs, LexPrefix.append_lt_append_iff] at hlt
  have hle : k ≤ s' := hmin ⟨(ho.hasValue.at hp).1, hlt⟩
  exact hge ((LexPrefix.append_le_append_iff p).mpr hle)

theorem Regular.correct (h : Regular t sr) : Correct t sr := by
  have hout := get_next_outcome t sr
  generalize hget : t.get_next sr = r at hout
  cases hout with
  | @start p e s v hp hs hinclude hv =>
    refine h.correct_of_least hp hv ⟨?_, fun o ho => ?_⟩ hget
    · have hstart := h.start p e s hp hs hinclude (by rw [hv]; rfl)
      rwa [hs] at hstart
    · rw [← hs]
      exact ho.le
  | @next p e s k v hp hs hno hk hv =>
    -- the start is no candidate, so all are after it
    have hlt : ∀ o, Candidate t sr o → sr.start.to_tuple < o := by
      intro o ho
      refine ho.after.resolve_right ?_
      rintro ⟨hinclude, rfl⟩
      have hsome := ho.hasValue
      rw [hs] at hsome
      have hsome := (hsome.at hp).2
      rw [hno hinclude] at hsome
      cases hsome
    have hmin : ∀ o, Candidate t sr o → p ++ k ≤ o := fun o ho =>
      next_le hp hs hk ho (hlt o ho)
    obtain ⟨o, hle, ho⟩ := h.next p e s k hp hs hk (by rw [hv]; rfl)
    obtain rfl := le_antisymm hle (hmin o ho)
    exact h.correct_of_least hp hv ⟨ho, hmin⟩ hget
  | @walk q e k v hno hq hstart hstop hpassed hk hv =>
    have hsome : (e.call q k).isSome := by rw [hv]; rfl
    have hbefore : q ++ k < sr.end_.to_tuple := by
      rcases h.walk q e hq hstart hstop with hp | ⟨k', hk', hlt⟩ | ⟨o, hlt, ho⟩
      · rcases hp with hnone | ⟨k', hk', hnone⟩
        · rw [hk] at hnone
          cases hnone
        · rw [hk] at hk'
          obtain rfl := Option.some.inj (Except.ok.inj hk')
          rw [hnone] at hsome
          cases hsome
      · rw [hk] at hk'
        obtain rfl := Option.some.inj (Except.ok.inj hk')
        exact hlt
      · exact absurd hlt (h.not_lt hno hpassed ho)
    have hcand : Candidate t sr (q ++ k) :=
      ⟨⟨q, e, k, hq, rfl, Handler.first_mem hk, hsome⟩,
        .inl (hstart.trans_le (LexPrefix.le_append q k)), .inr hbefore⟩
    refine h.correct_of_least hq hv ⟨hcand, fun o ho => ?_⟩ hget
    obtain ⟨o', hle, ho', hr⟩ := h.reached o ho
    refine le_trans ?_ hle
    obtain ⟨q', e', k', hq', hstart', -, hk', rfl⟩ := hno.walk ho' hr
    rcases lt_trichotomy q q' with hlt | rfl | hlt
    · exact (LexPrefix.append_lt_append hlt (not_isPrefix hq hq' hlt.ne) k k').le
    · rw [hq] at hq'
      obtain rfl := Option.some.inj hq'
      rw [hk] at hk'
      obtain rfl := Option.some.inj (Except.ok.inj hk')
      exact le_refl _
    · exact absurd (LexPrefix.append_le_of_lt hlt (not_isPrefix hq' hq hlt.ne) k')
        (h.not_lt hno hpassed ho')
  | @raised q e err hno hq hstart hstop hpassed hk =>
    rcases h.walk q e hq hstart hstop with hp | ⟨k, hk', -⟩ | ⟨o, hlt, ho⟩
    · rcases hp with hnone | ⟨k, hk', -⟩
      · rw [hk] at hnone
        cases hnone
      · rw [hk] at hk'
        cases hk'
    · rw [hk] at hk'
      cases hk'
    · exact absurd hlt (h.not_lt hno hpassed ho)
  | endOfView hno hpassed =>
    refine .inr ⟨fun o ho => ?_, hget⟩
    obtain ⟨o', -, ho', hr⟩ := h.reached o ho
    obtain ⟨q, e, k, hq, hstart, hstop, hk, rfl⟩ := hno.walk ho' hr
    refine h.not_lt hno hpassed ho' (ho'.before.resolve_left ?_)
    intro hnull
    rw [hnull] at hstop
    exact LexPrefix.not_lt_nil hstop

/-! ### And only then -/

/-- What a place answers names its identifier. -/
theorem Writable.answer (hw : Writable t) (hp : t.entries.lookup p = some e)
    {v : e.value_type.shape.Value} (hv : e.call p s = some v) {vr : ValueRepresentation}
    (h : from_typecast e.value_type (p ++ s) v = .ok vr) :
    vr.name.to_tuple = p ++ s ∧ vr.name.include_ = 0 ∧
      ∃ data, castData e.value_type.shape v = .ok data := by
  obtain ⟨name, hiter, htuple, hinclude⟩ :=
    nameable_from_iterable (hw p e s hp (by rw [hv]; rfl))
  rw [from_typecast, hiter] at h
  cases hdata : castData e.value_type.shape v with
  | error err =>
    rw [hdata] at h
    cases h
  | ok data =>
    rw [hdata] at h
    obtain rfl := Except.ok.inj h
    exact ⟨htuple, hinclude, data, rfl⟩

/-- A right answer for a sub-identifier is the binding of the least candidate. -/
theorem Correct.least (h : Correct t sr) (hw : Writable t) (hp : t.entries.lookup p = some e)
    {v : e.value_type.shape.Value} (hv : e.call p s = some v)
    (hget : t.get_next sr = from_typecast e.value_type (p ++ s) v)
    (hne : p ++ s = sr.start.to_tuple → sr.start.include_ ≠ 0) :
    IsLeast {o | Candidate t sr o} (p ++ s) ∧ Castable t (p ++ s) := by
  rcases h with ⟨o, vr, hleast, ⟨_, _, _, _, name, _, -, -, -, -, hname, -, -, rfl⟩, hres⟩ |
    ⟨-, hres⟩
  · obtain ⟨htuple, -, data, hdata⟩ := hw.answer hp hv (hget.symm.trans hres)
    obtain rfl := hname.symm.trans htuple
    refine ⟨hleast, hw p e s hp (by rw [hv]; rfl), fun p' e' s' v' hp' heq hv' => ?_⟩
    obtain ⟨rfl, rfl⟩ := parent_unique hp hp' heq
    rw [hp] at hp'
    obtain rfl := Option.some.inj hp'
    rw [hv] at hv'
    obtain rfl := Option.some.inj hv'
    exact ⟨data, hdata⟩
  · -- the end of the view is named by the start, which is not what is answered
    obtain ⟨htuple, hzero, -⟩ := hw.answer hp hv (hget.symm.trans hres)
    exact absurd hzero (hne htuple.symm)

theorem Correct.regular (h : Correct t sr) (hw : Writable t) : Regular t sr := by
  have hout := get_next_outcome t sr
  generalize hget : t.get_next sr = r at hout
  cases hout with
  | @start p e s v hp hs hinclude hv =>
    obtain ⟨hleast, hcast⟩ := h.least hw hp hv hget fun _ => hinclude
    rw [← hs] at hleast hcast
    refine ⟨fun o ho => ⟨_, hleast.2 ho, hleast.1, .start⟩, fun _ _ _ _ _ _ _ => hleast.1,
      fun p' e' s' k hp' hs' hk _ => ⟨_, ?_, hleast.1⟩,
      fun q e' hq hlt hstop => .inr (.inr ⟨_, hlt, hleast.1⟩), fun o ho => ?_⟩
    · rw [hs', LexPrefix.append_le_append_iff]
      exact (Handler.get_next_least hk).1.2.le
    · rwa [ho.unique hleast]
  | @next p e s k v hp hs hno hk hv =>
    have hlt : s < k := (Handler.get_next_least hk).1.2
    have hstart : sr.start.to_tuple < p ++ k := by rwa [hs, LexPrefix.append_lt_append_iff]
    obtain ⟨hleast, hcast⟩ := h.least hw hp hv hget fun heq => absurd heq hstart.ne'
    refine ⟨fun o ho => ⟨_, hleast.2 ho, hleast.1, .next hp hs hk⟩,
      fun p' e' s' hp' hs' hinclude hsome => ?_, fun p' e' s' k' hp' hs' hk' _ => ?_,
      fun q e' hq hlt' hstop => .inr (.inr ⟨_, ?_, hleast.1⟩), fun o ho => ?_⟩
    · obtain ⟨rfl, rfl⟩ := parent_unique hp hp' (hs.symm.trans hs')
      rw [hp] at hp'
      obtain rfl := Option.some.inj hp'
      rw [hno hinclude] at hsome
      cases hsome
    · obtain ⟨rfl, rfl⟩ := parent_unique hp hp' (hs.symm.trans hs')
      rw [hp] at hp'
      obtain rfl := Option.some.inj hp'
      rw [hk] at hk'
      obtain rfl := Option.some.inj hk'
      exact ⟨_, le_refl _, hleast.1⟩
    · -- the entry is behind the whole subtree of the start
      have hpq : p < q := (hs ▸ LexPrefix.le_append p s).trans_lt hlt'
      exact LexPrefix.append_le_of_lt hpq (not_isPrefix hp hq hpq.ne) k
    · rwa [ho.unique hleast]
  | @walk q e k v hno hq hstart hstop hpassed hk hv =>
    have hlt : sr.start.to_tuple < q ++ k := hstart.trans_le (LexPrefix.le_append q k)
    obtain ⟨hleast, hcast⟩ := h.least hw hq hv hget fun heq => absurd heq hlt.ne'
    refine ⟨fun o ho => ⟨_, hleast.2 ho, hleast.1, .walk hq hstart hstop hk⟩,
      fun p' e' s' hp' hs' hinclude hsome => ?_, fun p' e' s' k' hp' hs' hk' hsome => ?_,
      fun q' e' hq' hstart' hstop' => ?_, fun o ho => ?_⟩
    · rw [(hno p' e' s' hp' hs').1 hinclude] at hsome
      cases hsome
    · rw [(hno p' e' s' hp' hs').2 k' hk'] at hsome
      cases hsome
    · rcases lt_trichotomy q' q with hlt' | rfl | hlt'
      · exact .inl (hpassed q' e' hq' hstart' hlt')
      · rw [hq] at hq'
        obtain rfl := Option.some.inj hq'
        refine .inr (.inl ⟨k, hk, hleast.1.before.resolve_left fun hnull => ?_⟩)
        rw [hnull] at hstop
        exact LexPrefix.not_lt_nil hstop
      · exact .inr (.inr ⟨_, LexPrefix.append_le_of_lt hlt' (not_isPrefix hq hq' hlt'.ne) k,
          hleast.1⟩)
    · rwa [ho.unique hleast]
  | raised hno hq hstart hstop hpassed hk =>
    rcases h with ⟨o, vr, -, -, hres⟩ | ⟨-, hres⟩
    · rw [hget] at hres
      cases hres
    · rw [hget] at hres
      cases hres
  | endOfView hno hpassed =>
    have hnone : ∀ o, ¬ Candidate t sr o := by
      rcases h with ⟨o, vr, hleast, ⟨_, _, _, _, name, _, -, -, -, -, hname, -, -, rfl⟩, hres⟩ |
        ⟨hnone, -⟩
      · -- the end of the view would be the binding of the start
        have heq := Except.ok.inj (hget.symm.trans hres)
        have hstart : sr.start.to_tuple = o := by
          rw [← hname]
          exact congrArg (fun vr => vr.name.to_tuple) heq
        exact absurd (hno.lt hleast.1) (hstart ▸ lt_irrefl _)
      · exact hnone
    refine ⟨fun o ho => absurd ho (hnone o), fun p e s hp hs hinclude hsome => ?_,
      fun p e s k hp hs hk hsome => ?_, fun q e hq hlt hstop => .inl (hpassed q e hq hlt hstop),
      fun o ho => absurd ho.1 (hnone o)⟩
    · rw [(hno p e s hp hs).1 hinclude] at hsome
      cases hsome
    · rw [(hno p e s hp hs).2 k hk] at hsome
      cases hsome

/-! ### One answer after the other -/

/-- The answers to the successor of the start, of that of the answer, and so on up to the end of
the view. -/
inductive Asked (t : MIBTable) : SearchRange → List ValueRepresentation → Prop where
  | done {sr : SearchRange} (h : t.get_next sr = .ok (endOfView sr)) : Asked t sr []
  | more {sr : SearchRange} {vr : ValueRepresentation} {vrs : List ValueRepresentation}
      (h : t.get_next sr = .ok vr) (hne : vr ≠ endOfView sr)
      (h' : Asked t ⟨vr.name, sr.end_⟩ vrs) : Asked t sr (vr :: vrs)

/-- The candidates in their order. -/
def Lists (t : MIBTable) (sr : SearchRange) (L : List (List ℕ)) : Prop :=
  L.Pairwise (· < ·) ∧ ∀ o, o ∈ L ↔ Candidate t sr o

/-- The candidates are visited one after the other. -/
theorem visits {L : List (List ℕ)} (hL : Lists t sr L) (h : Regular t sr)
    (hnext : ∀ o ∈ L, ∀ name : ObjectIdentifier, name.to_tuple = o → name.include_ = 0 →
      Regular t ⟨name, sr.end_⟩) :
    ∃ vrs, Asked t sr vrs ∧ L.Forall₂ (Binding t) vrs := by
  induction L generalizing sr with
  | nil =>
    rcases h.correct with ⟨o, -, hleast, -⟩ | ⟨-, hget⟩
    · exact nomatch (hL.2 o).mpr hleast.1
    · exact ⟨[], .done hget, .nil⟩
  | cons o L ih =>
    obtain ⟨hsorted, hmem⟩ := hL
    obtain ⟨hfirst, htail⟩ := List.pairwise_cons.mp hsorted
    have ho := (hmem o).mp List.mem_cons_self
    have hleast : IsLeast {o | Candidate t sr o} o := by
      refine ⟨ho, fun x hx => ?_⟩
      rcases List.mem_cons.mp ((hmem x).mpr hx) with rfl | hx
      · exact le_refl _
      · exact (hfirst x hx).le
    rcases h.correct with ⟨o', vr, hleast', hbinding, hget⟩ | ⟨hnone, -⟩
    swap
    · exact absurd ho (hnone o)
    obtain rfl := hleast'.unique hleast
    have ⟨_, _, _, _, name, _, _, _, _, _, htuple, hzero, _, hvr⟩ := hbinding
    subst hvr
    -- what is left are the candidates after the answer
    have hrest : Lists t ⟨name, sr.end_⟩ L := by
      refine ⟨htail, fun x => ⟨fun hx => ?_, fun hx => ?_⟩⟩
      · have hcand := (hmem x).mp (List.mem_cons_of_mem _ hx)
        refine ⟨hcand.hasValue, .inl ?_, hcand.before⟩
        show name.to_tuple < x
        rw [htuple]
        exact hfirst x hx
      · have hlt : name.to_tuple < x := hx.after.resolve_right fun hand => hand.1 hzero
        rw [htuple] at hlt
        have hcand : Candidate t sr x := ⟨hx.hasValue, .inl (ho.le.trans_lt hlt), hx.before⟩
        exact (List.mem_cons.mp ((hmem x).mpr hcand)).resolve_left hlt.ne'
    obtain ⟨vrs, hasked, hall⟩ := ih hrest
      (hnext _ List.mem_cons_self name htuple hzero)
      fun x hx => hnext x (List.mem_cons_of_mem _ hx)
    refine ⟨_ :: vrs, .more hget (fun heq => ?_) hasked, .cons hbinding hall⟩
    have hname : name = sr.start := congrArg ValueRepresentation.name heq
    rcases ho.after with hlt | ⟨hinclude, -⟩
    · rw [← hname, htuple] at hlt
      exact lt_irrefl _ hlt
    · rw [← hname] at hinclude
      exact hinclude hzero

end Correct

/-- **GetNext returns the successor in regular ranges.**  There the answer is the binding of the
least identifier in the range that has a value, or the end of the view; where the identifiers keep
their names it is so in no other range.  Where also the ranges after the answers are regular, the
answers, one after the other, are the bindings of all identifiers in the range, in their order. -/
theorem get_next_successor (t : MIBTable) (sr : SearchRange) :
    (Regular t sr → Correct t sr) ∧ (Writable t → Correct t sr → Regular t sr) ∧
    ∀ L, Lists t sr L → Regular t sr →
      (∀ o ∈ L, ∀ name : ObjectIdentifier, name.to_tuple = o → name.include_ = 0 →
        Regular t ⟨name, sr.end_⟩) →
      ∃ vrs, Asked t sr vrs ∧ L.Forall₂ (Binding t) vrs :=
  ⟨Regular.correct, fun hw h => h.regular hw, fun _ hL h hnext => visits hL h hnext⟩

/-- A scalar with a number. -/
def scalarEntry (n : ℤ) : MIBEntry := ⟨.INTEGER, .scalar (some n)⟩

/-- Two scalars. -/
def scalars : MIBTable where
  entries := ((∅ : Table (List ℕ) MIBEntry).insert [1, 3, 6, 1, 2, 1, 1] (scalarEntry 7)).insert
    [1, 3, 6, 1, 2, 1, 2] (scalarEntry 8)
  prefixes := [[1, 3, 6, 1, 2, 1, 1], [1, 3, 6, 1, 2, 1, 2]]
  mem_prefixes p := by
    rw [AList.mem_insert, AList.mem_insert, List.mem_pair,
      or_iff_left (AList.notMem_empty p)]
    exact or_comm
  nodup := by decide
  free := by
    show ∀ p ∈ [_, _], ∀ q ∈ [_, _], p <+: q → p = q
    decide

/-- From the first of two scalars, with a null end, the second one is not found. -/
theorem not_get_next_successor : ¬ ∀ (t : MIBTable) (sr : SearchRange), Correct t sr := by
  intro h
  have hget : scalars.get_next ⟨⟨2, 2, 0, 0, [1, 1]⟩, .null_oid⟩ =
      .ok (endOfView ⟨⟨2, 2, 0, 0, [1, 1]⟩, .null_oid⟩) := by rfl
  have hsecond : Candidate scalars ⟨⟨2, 2, 0, 0, [1, 1]⟩, .null_oid⟩ [1, 3, 6, 1, 2, 1, 2] :=
    ⟨⟨[1, 3, 6, 1, 2, 1, 2], scalarEntry 8, [], rfl, rfl, rfl, rfl⟩, .inl (by decide), .inl rfl⟩
  rcases h scalars ⟨⟨2, 2, 0, 0, [1, 1]⟩, .null_oid⟩ with
    ⟨o, vr, hleast, ⟨_, _, _, _, name, _, -, -, -, -, hname, -, -, rfl⟩, hres⟩ | ⟨hnone, -⟩
  · -- the end of the view is named by the start
    have hstart := congrArg (fun vr => vr.name.to_tuple) (Except.ok.inj (hget.symm.trans hres))
    have hlt := hleast.1.after.resolve_right fun hand => hand.1 rfl
    rw [← hname] at hlt
    exact absurd hlt (hstart ▸ lt_irrefl _)
  · exact hnone _ hsecond

end AgentX
