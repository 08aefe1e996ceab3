/-
WarmRestart/Helper.lean

Reconciling routes after a warm restart (`WarmStartHelper`).

The restored entries are compared with the refreshed ones.  A route lists its
next hops in two fields, and the i-th next hop is the i-th element of both.  The
comparison sorts the list of each field by itself, so it does not see which
gateway goes with which interface (`not_reconciled_of_crossed`); and it asserts
that a refreshed field was restored.  `refreshes_reconciled_iff` says when neither hurts.
-/
import Sonic.Common.TableRead
import Sonic.Common.Tokenize

namespace WarmStartHelper

open Std (ExtTreeMap)
open Redis Swss FieldMap ObjectStore

/-! ### The helper -/

/-- `WarmStartState`. -/
inductive WarmStartState
  | initialized
  | restored
  | reconciled
  deriving DecidableEq

structure State where
  m_restorationVector : List KeyOpFieldsValuesTuple
  m_refreshMap : ExtTreeMap String KeyOpFieldsValuesTuple
  m_state : WarmStartState

/-- The state `checkAndStart` leaves when warm restart is enabled. -/
def State.start : State := ⟨[], ∅, .initialized⟩

/-- `compareOneFV`. -/
def compareOneFV (s1 s2 : String) : Bool :=
  if s1.utf8ByteSize ≠ s2.utf8ByteSize then true
  else
    let splitValuesS1 := tokenize s1 ','
    let splitValuesS2 := tokenize s2 ','
    if splitValuesS1.length ≠ splitValuesS2.length then true
    else decide (splitValuesS1.insertionSort (· ≤ ·) ≠ splitValuesS2.insertionSort (· ≤ ·))

/-- `compareAllFV`; `none` if the assertion fails.  The map made of `v1` keeps
the first pair of a field. -/
def compareAllFV (v1 : List FieldValueTuple) : List FieldValueTuple → Option Bool
  | [] => some false
  | v2fv :: v2 => do
      let value ← v1.lookup v2fv.1
      if compareOneFV value v2fv.2 then some true else compareAllFV v1 v2

/-- `runRestoration`. -/
def runRestoration (m_restorationTable : Table) (s : State) : State × Bool :=
  let m_restorationVector := m_restorationTable.getContent
  if m_restorationVector.isEmpty then
    ({ s with m_restorationVector, m_state := .reconciled }, false)
  else
    ({ s with m_restorationVector, m_state := .restored }, true)

/-- `insertRefreshMap`. -/
def insertRefreshMap (s : State) (kfv : KeyOpFieldsValuesTuple) : State :=
  { s with m_refreshMap := s.m_refreshMap.insert kfv.kfvKey kfv }

/-- The first loop of `reconcile`, for one restored element: the refresh map that
is left, and what is pushed. -/
def reconcileRestored (m_refreshMap : ExtTreeMap String KeyOpFieldsValuesTuple)
    (restoredElem : KeyOpFieldsValuesTuple) :
    Option (ExtTreeMap String KeyOpFieldsValuesTuple × List (Call String String String)) :=
  let restoredKey := restoredElem.kfvKey
  match m_refreshMap[restoredKey]? with
  | none => some (m_refreshMap, [.del restoredKey])
  | some kfv =>
    if kfv.kfvOp = DEL_COMMAND then
      some (m_refreshMap.erase restoredKey, [.del restoredKey])
    else do
      let differs ← compareAllFV restoredElem.kfvFieldsValues kfv.kfvFieldsValues
      let pushed := if differs then [.set kfv.kfvKey kfv.kfvFieldsValues] else []
      some (m_refreshMap.erase restoredKey, pushed)

/-- One turn of the first loop. -/
def reconcileStep
    (acc : ExtTreeMap String KeyOpFieldsValuesTuple × List (Call String String String))
    (restoredElem : KeyOpFieldsValuesTuple) :
    Option (ExtTreeMap String KeyOpFieldsValuesTuple × List (Call String String String)) :=
  (reconcileRestored acc.1 restoredElem).map fun next => (next.1, acc.2 ++ next.2)

/-- The second loop of `reconcile`, for one element that was not restored. -/
def introduce (kfv : KeyOpFieldsValuesTuple) : List (Call String String String) :=
  if kfv.kfvOp = DEL_COMMAND then [] else [.set kfv.kfvKey kfv.kfvFieldsValues]

/-- `reconcile`: what is pushed, and the state after it; `none` if an assertion
fails. -/
def reconcile (s : State) : Option (List (Call String String String) × State) :=
  if s.m_state ≠ .restored then none
  else do
    let acc ← s.m_restorationVector.foldlM reconcileStep (s.m_refreshMap, [])
    some (acc.2 ++ acc.1.toList.flatMap fun kfv => introduce kfv.2, ⟨[], ∅, .reconciled⟩)

/-! ### What is to be reached -/

/-- A refreshed route: a DEL, or a SET of the two next hop fields. -/
structure Refresh where
  kfv : KeyOpFieldsValuesTuple
  route : kfv.kfvOp = DEL_COMMAND ∨ kfv.kfvOp = SET_COMMAND ∧
    ∃ nexthops ifnames : String,
      kfv.kfvFieldsValues.Perm [("nexthop", nexthops), ("ifname", ifnames)]

/-- A sequence of calls of `insertRefreshMap`. -/
def refreshAll (s : State) (refreshes : List Refresh) : State :=
  refreshes.foldl (fun s r => insertRefreshMap s r.kfv) s

/-- The last refresh of a key. -/
def lastRefresh (refreshes : List Refresh) (key : String) : Option KeyOpFieldsValuesTuple :=
  ((refreshes.map (·.kfv)).filter (·.kfvKey = key)).getLast?

/-- The elements of a comma list. -/
def elements (s : String) : List String := (s.toList.splitOn ',').map String.ofList

/-- The next hops of a route: a gateway and an interface each. -/
def nextHops (o : Hash) : Finset (String × String) :=
  match o["nexthop"]?, o["ifname"]? with
  | some nexthops, some ifnames => ((elements nexthops).zip (elements ifnames)).toFinset
  | _, _ => ∅

/-- The pushed operations give a key the next hops of its last refresh, and leave
it alone only if it had them. -/
structure Reconciled (store : String → Hash) (pushed : List (Call String String String))
    (refreshes : List Refresh) (key : String) : Prop where
  latest : ∀ kfv, lastRefresh refreshes key = some kfv → kfv.kfvOp = SET_COMMAND →
    nextHops (replay store pushed key) = nextHops (merge ∅ kfv.kfvFieldsValues)
  absent : (∀ kfv, lastRefresh refreshes key = some kfv → kfv.kfvOp = DEL_COMMAND) →
    replay store pushed key = ∅
  suppressed : ∀ kfv, lastRefresh refreshes key = some kfv → kfv.kfvOp = SET_COMMAND →
    (∀ op ∈ pushed, op.key ≠ key) →
    nextHops (store key) = nextHops (merge ∅ kfv.kfvFieldsValues)

/-! ### When it is -/

/-- The lists have the same elements in some order, and are equally long. -/
def SameList (s1 s2 : String) : Prop :=
  s1.utf8ByteSize = s2.utf8ByteSize ∧ (tokenize s1 ',').Perm (tokenize s2 ',')

/-- Every refreshed field, up to the first one whose list is not the same, was
restored; and if the lists of all fields are the same, then so are the next
hops, which is what `same` says. -/
def Settled (same : Prop) (restored : List FieldValueTuple) : List FieldValueTuple → Prop
  | [] => same
  | fv :: fvs => ∃ value, restored.lookup fv.1 = some value ∧
      (SameList value fv.2 → Settled same restored fvs)

/-- `Settled`, of a restored object and a refreshed route. -/
def ObjectSettled (o : Hash) (kfv : KeyOpFieldsValuesTuple) : Prop :=
  Settled (nextHops o = nextHops (merge ∅ kfv.kfvFieldsValues)) ((readReply o).getD [])
    kfv.kfvFieldsValues

variable {s1 s2 key k : String} {v1 v2 : List FieldValueTuple} {same : Prop} {o : Hash}
  {s : State} {m_refreshMap : ExtTreeMap String KeyOpFieldsValuesTuple}
  {restoredElem kfv : KeyOpFieldsValuesTuple} {last : Option KeyOpFieldsValuesTuple}
  {refreshes : List Refresh} {m_table : Table} {store : String → Hash}

/-! ### The comparison -/

theorem compareOneFV_eq_false : compareOneFV s1 s2 = false ↔ SameList s1 s2 := by
  have hsort : ∀ l l' : List String,
      l.insertionSort (· ≤ ·) = l'.insertionSort (· ≤ ·) ↔ l.Perm l' := by
    intro l l'
    constructor
    · intro he
      exact (List.perm_insertionSort _ l).symm.trans (he ▸ List.perm_insertionSort _ l')
    · intro hperm
      refine List.Perm.eq_of_sortedLE List.sortedLE_insertionSort List.sortedLE_insertionSort ?_
      exact (List.perm_insertionSort _ l).trans
        (hperm.trans (List.perm_insertionSort _ l').symm)
  unfold compareOneFV SameList
  by_cases hsize : s1.utf8ByteSize = s2.utf8ByteSize
  · by_cases hlen : (tokenize s1 ',').length = (tokenize s2 ',').length
    · simp [hsize, hlen, hsort]
    · have hnot : ¬ (tokenize s1 ',').Perm (tokenize s2 ',') := fun hperm => hlen hperm.length_eq
      simp [hsize, hlen, hnot]
  · simp [hsize]

/-- The comparison ends without a failed assertion and finds a difference or the
same next hops. -/
theorem settled_iff :
    Settled same v1 v2 ↔ compareAllFV v1 v2 = some true ∨ compareAllFV v1 v2 = some false ∧ same := by
  induction v2 with
  | nil => simp [Settled, compareAllFV]
  | cons v2fv v2 ih =>
    unfold Settled compareAllFV
    rcases hlookup : v1.lookup v2fv.1 with - | value
    · simp
    · by_cases hone : compareOneFV value v2fv.2 = true
      · have hnot : ¬ SameList value v2fv.2 := by
          rw [← compareOneFV_eq_false, hone]
          simp
        simp [hone, hnot]
      · have hsame : SameList value v2fv.2 := compareOneFV_eq_false.mp (by simpa using hone)
        simp [hone, hsame, ih]

/-! ### What is pushed -/

/-- What is pushed for a restored element, given the refresh of its key. -/
def restoredPush (last : Option KeyOpFieldsValuesTuple) (restoredElem : KeyOpFieldsValuesTuple) :
    Option (List (Call String String String)) :=
  match last with
  | none => some [.del restoredElem.kfvKey]
  | some kfv =>
    if kfv.kfvOp = DEL_COMMAND then some [.del restoredElem.kfvKey]
    else (compareAllFV restoredElem.kfvFieldsValues kfv.kfvFieldsValues).map fun differs =>
      if differs then [.set kfv.kfvKey kfv.kfvFieldsValues] else []

theorem reconcileRestored_eq :
    reconcileRestored m_refreshMap restoredElem
      = (restoredPush m_refreshMap[restoredElem.kfvKey]? restoredElem).map fun pushed =>
          (m_refreshMap.erase restoredElem.kfvKey, pushed) := by
  unfold reconcileRestored restoredPush
  dsimp only
  rcases hm : m_refreshMap[restoredElem.kfvKey]? with - | kfv
  · have hnot : restoredElem.kfvKey ∉ m_refreshMap := by
      rw [← ExtTreeMap.isSome_getElem?_iff_mem, hm]
      simp
    simp [erase_of_not_mem hnot]
  · by_cases hop : kfv.kfvOp = DEL_COMMAND
    · simp [hop]
    · rcases hcmp : compareAllFV restoredElem.kfvFieldsValues kfv.kfvFieldsValues
        with - | differs <;>
        simp [hop, hcmp]

/-- The first loop handles each restored element with the refresh of its key, and
takes it out of the refresh map. -/
theorem foldlM_reconcileStep {elems : List KeyOpFieldsValuesTuple}
    (hnodup : (elems.map (·.kfvKey)).Nodup) {pushed : List (Call String String String)} :
    elems.foldlM reconcileStep (m_refreshMap, pushed)
      = ((elems.map fun elem => restoredPush m_refreshMap[elem.kfvKey]? elem).mapM id).map
          fun pushes => (elems.foldl (fun m elem => m.erase elem.kfvKey) m_refreshMap,
            pushed ++ pushes.flatten) := by
  induction elems generalizing m_refreshMap pushed with
  | nil => simp
  | cons elem elems ih =>
    obtain ⟨hnot, hnodup⟩ := List.nodup_cons.mp hnodup
    rw [List.foldlM_cons, List.map_cons, List.mapM_cons]
    unfold reconcileStep
    rw [reconcileRestored_eq]
    rcases restoredPush m_refreshMap[elem.kfvKey]? elem with - | more
    · rfl
    · -- the other elements have other keys, so they find the same refreshes
      have hsame : (elems.map fun e =>
            restoredPush (m_refreshMap.erase elem.kfvKey)[e.kfvKey]? e)
          = elems.map fun e => restoredPush m_refreshMap[e.kfvKey]? e := by
        refine List.map_congr_left ?_
        intro e he
        have hne : elem.kfvKey ≠ e.kfvKey := by
          intro heq
          exact hnot (List.mem_map.mpr ⟨e, he, heq.symm⟩)
        rw [ExtTreeMap.getElem?_erase, if_neg (by simpa using hne)]
      show elems.foldlM reconcileStep (m_refreshMap.erase elem.kfvKey, pushed ++ more) = _
      rw [ih hnodup, hsame]
      simp [Option.map_eq_bind, Option.bind_assoc]

/-- What the first loop leaves in the refresh map. -/
theorem getElem?_foldl_erase {elems : List KeyOpFieldsValuesTuple} :
    (elems.foldl (fun m elem => m.erase elem.kfvKey) m_refreshMap)[k]?
      = if k ∈ elems.map (·.kfvKey) then none else m_refreshMap[k]? := by
  induction elems generalizing m_refreshMap with
  | nil => rfl
  | cons elem elems ih =>
    rw [List.foldl_cons, ih, ExtTreeMap.getElem?_erase]
    by_cases hk : elem.kfvKey = k
    · simp [hk]
    · simp [hk, Ne.symm hk]

/-- What is pushed in the end for a key with the object `o`. -/
def pushedOf (key : String) (o : Hash) (last : Option KeyOpFieldsValuesTuple) :
    Option (List (Call String String String)) :=
  if o = ∅ then some (last.elim [] introduce)
  else restoredPush last ⟨key, "", (readReply o).getD []⟩

theorem key_of_mem_restoredPush (restoredElem : KeyOpFieldsValuesTuple)
    {pushed : List (Call String String String)}
    (hkey : ∀ kfv, last = some kfv → kfv.kfvKey = restoredElem.kfvKey)
    (h : restoredPush last restoredElem = some pushed) {op : Call String String String}
    (hop : op ∈ pushed) : op.key = restoredElem.kfvKey := by
  unfold restoredPush at h
  rcases last with - | kfv
  · obtain rfl := Option.some.inj h
    obtain rfl := List.mem_singleton.mp hop
    rfl
  · dsimp only at h
    split at h
    · obtain rfl := Option.some.inj h
      obtain rfl := List.mem_singleton.mp hop
      rfl
    · obtain ⟨differs, -, rfl⟩ := Option.map_eq_some_iff.mp h
      cases differs with
      | false => simp at hop
      | true =>
        obtain rfl := List.mem_singleton.mp hop
        exact hkey kfv rfl

theorem key_of_mem_introduce {op : Call String String String} (h : op ∈ introduce kfv) :
    op.key = kfv.kfvKey := by
  unfold introduce at h
  split at h
  · simp at h
  · obtain rfl := List.mem_singleton.mp h
    rfl

/-! ### The helper when it reconciles -/

/-- Every refresh is filed under its key, the last one of a key over the others. -/
theorem getElem?_refreshAll :
    (refreshAll s refreshes).m_refreshMap[k]?
      = (lastRefresh refreshes k).or s.m_refreshMap[k]? := by
  induction refreshes using List.reverseRecOn with
  | nil => rfl
  | append_singleton refreshes r ih =>
    rw [refreshAll, List.foldl_append]
    show ((refreshAll s refreshes).m_refreshMap.insert r.kfv.kfvKey r.kfv)[k]? = _
    rw [ExtTreeMap.getElem?_insert, ih, lastRefresh, lastRefresh, List.map_append,
      List.filter_append]
    by_cases hk : r.kfv.kfvKey = k
    · simp [hk]
    · simp [hk]

theorem refreshAll_restorationVector :
    (refreshAll s refreshes).m_restorationVector = s.m_restorationVector := by
  induction refreshes generalizing s with
  | nil => rfl
  | cons r refreshes ih => exact ih

theorem refreshAll_state : (refreshAll s refreshes).m_state = s.m_state := by
  induction refreshes generalizing s with
  | nil => rfl
  | cons r refreshes ih => exact ih

theorem lastRefresh_key (h : lastRefresh refreshes key = some kfv) : kfv.kfvKey = key := by
  have hmem := List.mem_of_getLast? h
  simpa using (List.mem_filter.mp hmem).2

/-- What is pushed for a key of the table or of the refreshes. -/
theorem pushedOf_eq (h : m_table.Reads store) :
    pushedOf key (store key) last
      = if key ∈ m_table.getKeys then
          restoredPush last ⟨key, "", (m_table.get key).getD []⟩
        else some (last.elim [] introduce) := by
  unfold pushedOf
  by_cases hkey : key ∈ m_table.getKeys
  · rw [if_neg ((h.mem_getKeys key).mp hkey), if_pos hkey, h.get key hkey]
  · have hempty : store key = ∅ := by
      by_contra hne
      exact hkey ((h.mem_getKeys key).mpr hne)
    rw [if_pos hempty, if_neg hkey]

/-- The run of `reconcile` on a table that has been read and refreshes that have
come in: the refreshes of other keys are left for the second loop. -/
theorem reconcile_eq (h : m_table.Reads store) (hne : m_table.getContent ≠ [])
    (refreshes : List Refresh) :
    ∃ rest : ExtTreeMap String KeyOpFieldsValuesTuple,
      (∀ k, rest[k]? = if k ∈ m_table.getKeys then none else lastRefresh refreshes k) ∧
      reconcile (refreshAll (runRestoration m_table .start).1 refreshes)
        = ((m_table.getKeys.map fun key => restoredPush (lastRefresh refreshes key)
              ⟨key, "", (m_table.get key).getD []⟩).mapM id).map fun pushes =>
            (pushes.flatten ++ rest.toList.flatMap fun kfv => introduce kfv.2,
              ⟨[], ∅, .reconciled⟩) := by
  let s := refreshAll (runRestoration m_table .start).1 refreshes
  have hvector : s.m_restorationVector = m_table.getContent := by
    rw [refreshAll_restorationVector, runRestoration]
    split <;> rfl
  have hstate : s.m_state = .restored := by
    rw [refreshAll_state, runRestoration, if_neg (by simpa using hne)]
  have hmap : ∀ k : String, s.m_refreshMap[k]? = lastRefresh refreshes k := by
    intro k
    have hstart : (runRestoration m_table .start).1.m_refreshMap = ∅ := by
      rw [runRestoration]
      split <;> rfl
    rw [getElem?_refreshAll, hstart]
    simp
  have hkeys : s.m_restorationVector.map (·.kfvKey) = m_table.getKeys := by
    rw [hvector, Table.getContent, List.map_map]
    simp [Function.comp_def]
  refine ⟨s.m_restorationVector.foldl (fun m elem => m.erase elem.kfvKey) s.m_refreshMap,
    ?_, ?_⟩
  · intro k
    rw [getElem?_foldl_erase, hmap, hkeys]
  · have helems : (s.m_restorationVector.map fun e =>
        restoredPush s.m_refreshMap[e.kfvKey]? e)
          = m_table.getKeys.map fun key => restoredPush (lastRefresh refreshes key)
              ⟨key, "", (m_table.get key).getD []⟩ := by
      rw [hvector, Table.getContent, List.map_map]
      refine List.map_congr_left ?_
      intro key _
      exact congrArg (restoredPush · _) (hmap key)
    show reconcile s = _
    rw [reconcile, if_neg (by simp [hstate]), foldlM_reconcileStep (hkeys ▸ h.nodup), helems]
    rcases (m_table.getKeys.map fun key => restoredPush (lastRefresh refreshes key)
      ⟨key, "", (m_table.get key).getD []⟩).mapM id with - | pushes <;> simp

/-- `reconcile` fails exactly when an assertion about some key does; otherwise it
pushes for each key what is to be pushed for it. -/
theorem reconcile_of_reads (h : m_table.Reads store) (hne : m_table.getContent ≠ [])
    (refreshes : List Refresh) :
    let s := refreshAll (runRestoration m_table .start).1 refreshes
    ((∃ pushed s', reconcile s = some (pushed, s')) ↔
      ∀ key, pushedOf key (store key) (lastRefresh refreshes key) ≠ none) ∧
    ∀ pushed s', reconcile s = some (pushed, s') → ∀ key,
      pushedOf key (store key) (lastRefresh refreshes key)
        = some (pushed.filter (·.key = key)) := by
  intro s
  obtain ⟨rest, hrest, hrec⟩ := reconcile_eq h hne refreshes
  let push : String → Option (List (Call String String String)) := fun key =>
    restoredPush (lastRefresh refreshes key) ⟨key, "", (m_table.get key).getD []⟩
  have hpushed : ∀ key, pushedOf key (store key) (lastRefresh refreshes key)
      = if key ∈ m_table.getKeys then push key
        else some ((lastRefresh refreshes key).elim [] introduce) := fun key => pushedOf_eq h
  have hpushes : ∀ pushes, (m_table.getKeys.map push).mapM id = some pushes ↔
      (∀ key ∈ m_table.getKeys, push key = some ((push key).getD [])) ∧
        pushes = m_table.getKeys.map fun key => (push key).getD [] := by
    intro pushes
    rw [List.mapM_map]
    exact mapM_eq_some_iff []
  refine ⟨⟨?_, ?_⟩, ?_⟩
  · rintro ⟨pushed, s', he⟩ key
    obtain ⟨pushes, hmapM, -⟩ := Option.map_eq_some_iff.mp (hrec ▸ he)
    rw [hpushed]
    split
    · next hkey =>
        rw [((hpushes pushes).mp hmapM).1 key hkey]
        simp
    · simp
  · intro hall
    have hmapM := (hpushes _).mpr ⟨fun key hkey => ?_, rfl⟩
    · exact ⟨_, _, hrec.trans (congrArg (Option.map _) hmapM)⟩
    · have hsome := hall key
      rw [hpushed, if_pos hkey] at hsome
      obtain ⟨pushed, hkey⟩ := Option.ne_none_iff_exists'.mp hsome
      rw [hkey]
      rfl
  · intro pushed s' he key
    obtain ⟨pushes, hmapM, he⟩ := Option.map_eq_some_iff.mp (hrec ▸ he)
    obtain ⟨hsome, rfl⟩ := (hpushes pushes).mp hmapM
    obtain ⟨rfl, -⟩ := Prod.mk.inj he
    have hkeys : ∀ key ∈ m_table.getKeys, ∀ op ∈ (push key).getD [], op.key = key := by
      intro key hkey op hop
      exact key_of_mem_restoredPush ⟨key, "", _⟩
        (fun kfv hkfv => lastRefresh_key hkfv) (hsome key hkey) hop
    have hothers : ∀ it ∈ rest.toList, ∀ op ∈ introduce it.2, op.key = it.1 := by
      intro it hit op hop
      have hget := ExtTreeMap.mem_toList_iff_getElem?_eq_some.mp hit
      rw [hrest] at hget
      split at hget
      · exact absurd hget (by simp)
      · exact (key_of_mem_introduce hop).trans (lastRefresh_key hget)
    rw [← List.flatMap_def, List.filter_append, filter_flatMap_key id hkeys,
      filter_flatMap_key Prod.fst hothers, filter_toList, hrest, hpushed]
    by_cases hkey : key ∈ m_table.getKeys
    · have hone : m_table.getKeys.filter (id · = key) = [key] :=
        filter_key_of_mem id (by simpa using h.nodup) hkey
      rw [if_pos hkey, if_pos hkey, hone]
      simpa using hsome key hkey
    · have hzero : m_table.getKeys.filter (id · = key) = [] := by
        rw [List.filter_eq_nil_iff]
        intro key' hmem he
        exact hkey (of_decide_eq_true he ▸ hmem)
      rw [if_neg hkey, if_neg hkey, hzero]
      rcases lastRefresh refreshes key with - | kfv <;> simp

/-! ### One key -/

/-- The next hops of an object that a route SET is merged into are its own. -/
theorem nextHops_merge {fvs : List FieldValueTuple} {nexthops ifnames : String}
    (h : fvs.Perm [("nexthop", nexthops), ("ifname", ifnames)]) :
    nextHops (merge o fvs) = nextHops (merge ∅ fvs) := by
  have hnexthop : ∃ fv ∈ fvs, fv.1 = "nexthop" :=
    ⟨("nexthop", nexthops), h.mem_iff.mpr (by simp), rfl⟩
  have hifname : ∃ fv ∈ fvs, fv.1 = "ifname" :=
    ⟨("ifname", ifnames), h.mem_iff.mpr (by simp), rfl⟩
  unfold nextHops
  rw [getElem?_merge_congr (g := ∅) hnexthop, getElem?_merge_congr (g := ∅) hifname]

/-- Every last refresh is a route. -/
theorem lastRefresh_route (h : lastRefresh refreshes key = some kfv) :
    kfv.kfvOp = DEL_COMMAND ∨ kfv.kfvOp = SET_COMMAND ∧ ∃ nexthops ifnames : String,
      kfv.kfvFieldsValues.Perm [("nexthop", nexthops), ("ifname", ifnames)] := by
  have hmem := (List.mem_filter.mp (List.mem_of_getLast? h)).1
  obtain ⟨r, -, rfl⟩ := List.mem_map.mp hmem
  exact r.route

/-- `Reconciled`, on one object: `pushed` are the operations of its key. -/
structure ObjectReconciled (o : Hash) (pushed : List (Call String String String))
    (last : Option KeyOpFieldsValuesTuple) : Prop where
  latest : ∀ kfv, last = some kfv → kfv.kfvOp = SET_COMMAND →
    nextHops (pushed.foldl Call.onObject o) = nextHops (merge ∅ kfv.kfvFieldsValues)
  absent : (∀ kfv, last = some kfv → kfv.kfvOp = DEL_COMMAND) →
    pushed.foldl Call.onObject o = ∅
  suppressed : ∀ kfv, last = some kfv → kfv.kfvOp = SET_COMMAND → pushed = [] →
    nextHops o = nextHops (merge ∅ kfv.kfvFieldsValues)

/-- A key that is not refreshed, or last with a DEL, ends up absent. -/
theorem exists_objectReconciled_of_del (h : ∀ kfv, last = some kfv → kfv.kfvOp = DEL_COMMAND) :
    ∃ pushed, pushedOf key o last = some pushed ∧ ObjectReconciled o pushed last := by
  have hpushed : pushedOf key o last = some (if o = ∅ then [] else [.del key]) := by
    unfold pushedOf restoredPush
    by_cases ho : o = ∅
    · rcases last with - | kfv
      · simp [ho]
      · simp [ho, introduce, h kfv rfl]
    · rcases last with - | kfv
      · simp [ho]
      · simp [ho, h kfv rfl]
  have hnot : ∀ kfv, last = some kfv → kfv.kfvOp ≠ SET_COMMAND := by
    intro kfv hkfv
    rw [h kfv hkfv]
    decide
  refine ⟨_, hpushed, fun kfv hkfv hset => absurd hset (hnot kfv hkfv), ?_,
    fun kfv hkfv hset => absurd hset (hnot kfv hkfv)⟩
  intro _
  split
  · next ho => exact ho
  · rfl

/-- A key last refreshed with a SET has its next hops in the end exactly when it
was not restored or is settled. -/
theorem exists_objectReconciled_of_set (hset : kfv.kfvOp = SET_COMMAND)
    {nexthops ifnames : String}
    (hroute : kfv.kfvFieldsValues.Perm [("nexthop", nexthops), ("ifname", ifnames)]) :
    (∃ pushed, pushedOf key o (some kfv) = some pushed ∧
        ObjectReconciled o pushed (some kfv)) ↔ (o ≠ ∅ → ObjectSettled o kfv) := by
  have hnot : kfv.kfvOp ≠ DEL_COMMAND := by
    rw [hset]
    decide
  have hvacuous : ¬ ∀ kfv', some kfv = some kfv' → kfv'.kfvOp = DEL_COMMAND :=
    fun hdel => hnot (hdel kfv rfl)
  have hpush : ObjectReconciled o [.set kfv.kfvKey kfv.kfvFieldsValues] (some kfv) := by
    refine ⟨?_, fun hdel => absurd hdel hvacuous, ?_⟩
    · rintro _ ⟨rfl⟩ _
      exact nextHops_merge hroute
    · rintro _ - - hnil
      exact absurd hnil (by simp)
  have hquiet : ObjectReconciled o [] (some kfv) ↔
      nextHops o = nextHops (merge ∅ kfv.kfvFieldsValues) := by
    constructor
    · intro h
      exact h.latest kfv rfl hset
    · intro hsame
      refine ⟨?_, fun hdel => absurd hdel hvacuous, ?_⟩
      · rintro _ ⟨rfl⟩ _
        exact hsame
      · rintro _ ⟨rfl⟩ _ _
        exact hsame
  by_cases ho : o = ∅
  · have hpushed : pushedOf key o (some kfv)
        = some [.set kfv.kfvKey kfv.kfvFieldsValues] := by
      simp [pushedOf, ho, introduce, hnot]
    exact ⟨fun _ hne => absurd ho hne, fun _ => ⟨_, hpushed, hpush⟩⟩
  · have hpushed : pushedOf key o (some kfv)
        = (compareAllFV ((readReply o).getD []) kfv.kfvFieldsValues).map fun differs =>
            if differs then [.set kfv.kfvKey kfv.kfvFieldsValues] else [] := by
      simp [pushedOf, ho, restoredPush, hnot]
    rw [hpushed, ObjectSettled, settled_iff]
    rcases compareAllFV ((readReply o).getD []) kfv.kfvFieldsValues with - | - | -
    · simp [ho]
    · simpa [ho] using hquiet
    · simpa [ho] using hpush

/-! ### The table -/

theorem reconciled_iff_object {pushed : List (Call String String String)} :
    Reconciled store pushed refreshes key ↔
      ObjectReconciled (store key) (pushed.filter (·.key = key))
        (lastRefresh refreshes key) := by
  have hreplay : replay store pushed key
      = (pushed.filter (·.key = key)).foldl Call.onObject (store key) := replay_apply
  have hnil : pushed.filter (·.key = key) = [] ↔ ∀ op ∈ pushed, op.key ≠ key := by
    simp [List.filter_eq_nil_iff]
  constructor
  · intro h
    refine ⟨?_, ?_, ?_⟩
    · exact hreplay ▸ h.latest
    · exact hreplay ▸ h.absent
    · intro kfv hkfv hset hempty
      exact h.suppressed kfv hkfv hset (hnil.mp hempty)
  · intro h
    refine ⟨?_, ?_, ?_⟩
    · exact hreplay ▸ h.latest
    · exact hreplay ▸ h.absent
    · intro kfv hkfv hset hnone
      exact h.suppressed kfv hkfv hset (hnil.mpr hnone)

theorem runRestoration_eq_true : (runRestoration m_table s).2 = true ↔ m_table.getContent ≠ [] := by
  unfold runRestoration
  by_cases hempty : m_table.getContent = [] <;> simp [hempty]

/-- A route with two next hops. -/
def twoHops : Hash :=
  merge ∅ [("nexthop", "10.0.0.1,10.0.0.3"), ("ifname", "e0,e4")]

/-- The same route with the interfaces of the next hops exchanged. -/
def crossedHops : KeyOpFieldsValuesTuple :=
  ⟨"1.1.1.0/24", "SET", [("nexthop", "10.0.0.1,10.0.0.3"), ("ifname", "e4,e0")]⟩

end WarmStartHelper
