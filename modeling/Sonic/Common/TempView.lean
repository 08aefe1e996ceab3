/-
Common/TempView.lean

The view switch of a producer: `create_temp_view` and `apply_temp_view`.

Between the two, `set` and `del` edit a view kept in the producer.  Applying it
drops everything pending, dumps the table, and compares dump and view object by
object: an object that is new or differs is to be set, one that is gone or has a
field the view lacks is to be removed first, and one that is equal is left out.
The result travels as one positional argument list in which every group of
arguments is preceded by its length.

`diff` is the comparison as the C++ loops compute it; `diff_tempView`,
`mem_keysToSet` and `mem_keysToDel` say what it finds.  `evalApplyView_eq` reads
the argument list back.
-/
import Sonic.Common.TableDump

namespace Swss

open Redis FieldMap
open Std (ExtTreeMap)

namespace ProducerStateTable

/-- `ProducerStateTable::create_temp_view`. -/
def createTempView (p : ProducerStateTable) : ProducerStateTable :=
  { p with tempViewActive := true, tempViewState := ∅ }

/-! ### The comparison -/

/-- The loop over the fields of an old object; it stops at a field that the new
object does not have. -/
def compareFields (newFieldValueMap : TableMap) :
    List FieldValueTuple → Bool × Bool → Bool × Bool
  | [], acc => acc
  | fvPair :: rest, (needDel, needSet) =>
    match newFieldValueMap[fvPair.1]? with
    | none => (true, true)
    | some value =>
      compareFields newFieldValueMap rest (needDel, needSet || value ≠ fvPair.2)

/-- `needDel` and `needSet` of an object that is in both views. -/
def needs (fieldValueMap newFieldValueMap : TableMap) : Bool × Bool :=
  let (needDel, needSet) := compareFields newFieldValueMap fieldValueMap.toList (false, false)
  (needDel, needSet || newFieldValueMap.size > fieldValueMap.size)

/-- What the comparison has found so far. -/
structure Diff where
  tempView : TableDump
  keysToSet : List String
  keysToDel : List String

/-- The body of the loop over the current objects. -/
def diffKey (d : Diff) (kfvPair : String × TableMap) : Diff :=
  match d.tempView[kfvPair.1]? with
  | none =>
    { d with
      keysToDel := d.keysToDel ++ [kfvPair.1]
      keysToSet := d.keysToSet ++ [kfvPair.1] }
  | some newFieldValueMap =>
    let (needDel, needSet) := needs kfvPair.2 newFieldValueMap
    { keysToDel := if needDel then d.keysToDel ++ [kfvPair.1] else d.keysToDel
      keysToSet := if needSet then d.keysToSet ++ [kfvPair.1] else d.keysToSet
      -- if exactly match, no need to sync new state
      tempView := if needSet then d.tempView else d.tempView.erase kfvPair.1 }

/-- The comparison of the current objects with a view. -/
def diff (currentState tempViewState : TableDump) : Diff :=
  let d := currentState.toList.foldl diffKey ⟨tempViewState, [], []⟩
  -- objects that do not exist currently need to be created
  { d with
    keysToSet := d.tempView.toList.foldl
      (fun keysToSet kfvPair =>
        if kfvPair.1 ∈ currentState then keysToSet else keysToSet ++ [kfvPair.1]) d.keysToSet }

end ProducerStateTable

/-! ### The script -/

/-- The body of the loop of `producer_state_table_apply_view.lua` over the objects; the
accumulator has the database and `arg_start`. -/
def luaApplyObject (KEYS ARGV : List String) (acc : Db × ℕ) (j : ℕ) : Option (Db × ℕ) := do
  let (db, arg_start) := acc
  let n ← (Lua.index ARGV arg_start).bind Lua.tonumber
  let db ← Lua.forLoop 1 n (fun db i => do
    let hash ← Lua.index KEYS j
    let field ← Lua.index ARGV (arg_start + i * 2 - 1)
    let value ← Lua.index ARGV (arg_start + i * 2)
    some (db.hset hash field value)) db
  some (db, arg_start + 2 * n + 1)

/-- `producer_state_table_apply_view.lua`. -/
def luaApplyView : Script Db := fun KEYS ARGV db => do
  let arg_start := 2
  let n ← (Lua.index ARGV arg_start).bind Lua.tonumber
  let db ← Lua.forLoop 1 n (fun db i => do
    let keySet ← Lua.index KEYS 2
    let key ← Lua.index ARGV (arg_start + i)
    some (db.sadd keySet key).1) db
  let arg_start := arg_start + n + 1
  let n ← (Lua.index ARGV arg_start).bind Lua.tonumber
  let db ← Lua.forLoop 1 n (fun db i => do
    let delSet ← Lua.index KEYS 3
    let key ← Lua.index ARGV (arg_start + i)
    some (db.sadd delSet key).1) db
  let arg_start := arg_start + n + 1
  let (db, _) ← Lua.forLoop 4 KEYS.length (luaApplyObject KEYS ARGV) (db, arg_start)
  let channel ← Lua.index KEYS 1
  let _ ← Lua.index ARGV 1
  some (db.publish channel)

/-- The arguments for the objects of a view: each is preceded by its number of fields. -/
def viewArgs (view : List (String × TableMap)) : List String :=
  view.flatMap fun kfvPair => toString kfvPair.2.size :: flatten kfvPair.2.toList

/-- The call of the script in `apply_temp_view`. -/
def evalApplyView (t : TableBase) (d : ProducerStateTable.Diff) (db : Db) : Option Db :=
  let args := [t.getChannelName, t.getKeySetName, t.getDelKeySetName]
    ++ d.tempView.toList.map (fun kfvPair => t.getStateHashPrefix ++ t.getKeyName kfvPair.1)
  let argvs := ["G", toString d.keysToSet.length] ++ d.keysToSet
    ++ [toString d.keysToDel.length] ++ d.keysToDel ++ viewArgs d.tempView.toList
  evalsha luaApplyView (toString (d.tempView.size + 3)) (args ++ argvs) db

/-- The effect of the script. -/
def applyViewEffect (t : TableBase) (d : ProducerStateTable.Diff) (db : Db) : Db :=
  let db := (db.saddAll t.getKeySetName d.keysToSet).saddAll t.getDelKeySetName d.keysToDel
  (d.tempView.toList.foldl (fun db kfvPair =>
    db.hsetAll (t.getStateHashPrefix ++ t.getKeyName kfvPair.1) kfvPair.2.toList) db).publish
      t.getChannelName

/-- `ProducerStateTable::apply_temp_view`. -/
def ProducerStateTable.applyTempView (p : ProducerStateTable) (db : Db) :
    Option (ProducerStateTable × Db) :=
  if p.tempViewActive then do
    -- drop all pending operations first
    let db ← evalClear p.table db
    let currentState ← p.table.dump db
    let db ← evalApplyView p.table (diff currentState p.tempViewState) db
    some ({ p with tempViewActive := false, tempViewState := ∅ }, db)
  else none

/-! ### What the comparison finds -/

namespace ProducerStateTable

variable {old new : TableMap} {l : List FieldValueTuple} {acc : Bool × Bool}
  {current view : TableDump} {d : Diff} {k : String}

theorem compareFields_fst :
    (compareFields new l acc).1 = true ↔ acc.1 = true ∨ ∃ fvPair ∈ l, fvPair.1 ∉ new := by
  induction l generalizing acc with
  | nil => simp [compareFields]
  | cons fvPair l ih =>
    rcases hv : new[fvPair.1]? with - | value
    · have hnot : fvPair.1 ∉ new := by
        rw [← ExtTreeMap.isSome_getElem?_iff_mem, hv]
        simp
      simp [compareFields, hnot]
    · have hmem : fvPair.1 ∈ new := ExtTreeMap.isSome_getElem?_iff_mem.mp (by simp [hv])
      simp [compareFields, ih, hmem]

theorem compareFields_snd :
    (compareFields new l acc).2 = true ↔
      acc.2 = true ∨ ∃ fvPair ∈ l, new[fvPair.1]? ≠ some fvPair.2 := by
  induction l generalizing acc with
  | nil => simp [compareFields]
  | cons fvPair l ih =>
    rcases hv : new[fvPair.1]? with - | value
    · simp [compareFields, hv]
    · simp [compareFields, hv, ih, or_assoc]

/-- A removal is needed when a field is gone. -/
theorem needs_fst : (needs old new).1 = true ↔ ∃ f ∈ old, f ∉ new := by
  simp only [needs, compareFields_fst, Bool.false_eq_true, false_or]
  constructor
  · rintro ⟨fvPair, hmem, hnot⟩
    have hold := ExtTreeMap.mem_toList_iff_getElem?_eq_some.mp hmem
    exact ⟨fvPair.1, ExtTreeMap.isSome_getElem?_iff_mem.mp (by simp [hold]), hnot⟩
  · rintro ⟨f, hmem, hnot⟩
    obtain ⟨v, hv⟩ := Option.isSome_iff_exists.mp (ExtTreeMap.isSome_getElem?_iff_mem.mpr hmem)
    exact ⟨(f, v), ExtTreeMap.mem_toList_iff_getElem?_eq_some.mpr hv, hnot⟩

/-- A SET is needed unless the objects are equal. -/
theorem needs_snd : (needs old new).2 = true ↔ new ≠ old := by
  have hset : (needs old new).2 = true ↔
      (∃ fvPair ∈ old.toList, new[fvPair.1]? ≠ some fvPair.2) ∨ old.size < new.size := by
    simp [needs, compareFields_snd]
  rw [hset]
  constructor
  · rintro (⟨fvPair, hmem, hne⟩ | hsize) rfl
    · exact hne (ExtTreeMap.mem_toList_iff_getElem?_eq_some.mp hmem)
    · exact absurd hsize (lt_irrefl _)
  · intro hne
    by_contra hnot
    push Not at hnot
    refine hne (eq_of_contains_of_size_le ?_ hnot.2)
    intro f v hv
    exact hnot.1 (f, v) (ExtTreeMap.mem_toList_iff_getElem?_eq_some.mpr hv)

/-- An old object is to be removed: the view does not have it, or not all of its fields. -/
def Lacks (old : TableMap) (new : Option TableMap) : Prop :=
  ∀ m, new = some m → ∃ f ∈ old, f ∉ m

/-- One turn of the loop looks at its own key only. -/
theorem diffKey_spec (d : Diff) (k : String) (old : TableMap) :
    ((diffKey d (k, old)).tempView =
        if d.tempView[k]? = some old then d.tempView.erase k else d.tempView) ∧
      ((diffKey d (k, old)).keysToSet =
        if d.tempView[k]? = some old then d.keysToSet else d.keysToSet ++ [k]) ∧
      (∀ k', k' ∈ (diffKey d (k, old)).keysToDel ↔
        k' ∈ d.keysToDel ∨ k' = k ∧ Lacks old d.tempView[k]?) := by
  rcases hnew : d.tempView[k]? with - | new
  · simp [diffKey, hnew, Lacks]
  · have hset : (needs old new).2 = true ↔ ¬ new = old := needs_snd
    have hdel : (needs old new).1 = true ↔ Lacks old (some new) := by
      rw [needs_fst, Lacks]
      simp
    have hsame : (needs new new).2 = false := by
      rw [← Bool.not_eq_true, needs_snd]
      exact not_not_intro rfl
    refine ⟨?_, ?_, ?_⟩
    · rcases eq_or_ne new old with rfl | heq
      · simp [diffKey, hnew, hsame]
      · simp [diffKey, hnew, hset.mpr heq, heq]
    · rcases eq_or_ne new old with rfl | heq
      · simp [diffKey, hnew, hsame]
      · simp [diffKey, hnew, hset.mpr heq, heq]
    · intro k'
      by_cases hlacks : Lacks old (some new)
      · simp [diffKey, hnew, hdel, hlacks]
      · simp [diffKey, hnew, hdel, hlacks]

theorem tempView_diffKey_ne {k' : String} (h : k' ≠ k) :
    (diffKey d (k, old)).tempView[k']? = d.tempView[k']? := by
  rw [(diffKey_spec d k old).1]
  split
  · simp [ExtTreeMap.getElem?_erase, Ne.symm h]
  · rfl

/-- The loop over current objects with different keys. -/
theorem foldl_diffKey {l : List (String × TableMap)} (hl : (l.map Prod.fst).Nodup) :
    (∀ k m, (l.foldl diffKey d).tempView[k]? = some m ↔
        d.tempView[k]? = some m ∧ (k, m) ∉ l) ∧
      (∀ k, k ∈ (l.foldl diffKey d).keysToSet ↔
        k ∈ d.keysToSet ∨ ∃ old, (k, old) ∈ l ∧ d.tempView[k]? ≠ some old) ∧
      (∀ k, k ∈ (l.foldl diffKey d).keysToDel ↔
        k ∈ d.keysToDel ∨ ∃ old, (k, old) ∈ l ∧ Lacks old d.tempView[k]?) := by
  induction l generalizing d with
  | nil => simp
  | cons kfvPair l ih =>
    obtain ⟨k₀, old₀⟩ := kfvPair
    rw [List.map_cons, List.nodup_cons] at hl
    obtain ⟨hview, hset, hdel⟩ := ih (d := diffKey d (k₀, old₀)) hl.2
    -- the rest of the list does not have the key `k₀`
    have hout : ∀ old, (k₀, old) ∉ l := fun old hmem =>
      hl.1 (List.mem_map.mpr ⟨(k₀, old), hmem, rfl⟩)
    obtain ⟨hview₀, hset₀, hdel₀⟩ := diffKey_spec d k₀ old₀
    rw [List.foldl_cons]
    refine ⟨?_, ?_, ?_⟩
    · intro k m
      rw [hview]
      rcases eq_or_ne k k₀ with rfl | hk
      · rw [hview₀]
        by_cases heq : d.tempView[k]? = some old₀
        · simp [heq, hout, eq_comm]
        · by_cases hm : m = old₀
          · simp [hm, heq]
          · simp [heq, hm]
      · simp [tempView_diffKey_ne hk, hk]
    · intro k
      rw [hset, hset₀]
      rcases eq_or_ne k k₀ with rfl | hk
      · by_cases heq : d.tempView[k]? = some old₀ <;> simp [hout, heq]
      · by_cases heq : d.tempView[k₀]? = some old₀ <;>
          simp [tempView_diffKey_ne hk, hk, heq]
    · intro k
      rw [hdel, hdel₀]
      rcases eq_or_ne k k₀ with rfl | hk
      · simp [hout]
      · simp [tempView_diffKey_ne hk, hk]

theorem nodup_fst_toList {d : TableDump} : (d.toList.map Prod.fst).Nodup := by
  rw [ExtTreeMap.map_fst_toList_eq_keys]
  exact ExtTreeMap.nodup_keys

/-- **The view that is sent**: the objects that differ from the current ones. -/
theorem diff_tempView :
    (diff current view).tempView[k]? = if view[k]? = current[k]? then none else view[k]? := by
  have hview := (foldl_diffKey (d := ⟨view, [], []⟩) (nodup_fst_toList (d := current))).1
  apply Option.ext
  intro m
  refine (hview k m).trans ?_
  rw [ExtTreeMap.mem_toList_iff_getElem?_eq_some]
  split
  · next he => simp [he]
  · next hne =>
      refine and_iff_left_of_imp fun hm => ?_
      rintro hm'
      exact hne (hm.trans hm'.symm)

/-- The loop over the objects that do not exist currently. -/
theorem mem_foldl_new {l : List (String × TableMap)} {keysToSet : List String} :
    k ∈ l.foldl (fun keysToSet kfvPair =>
        if kfvPair.1 ∈ current then keysToSet else keysToSet ++ [kfvPair.1]) keysToSet ↔
      k ∈ keysToSet ∨ k ∉ current ∧ ∃ m, (k, m) ∈ l := by
  induction l generalizing keysToSet with
  | nil => simp
  | cons kfvPair l ih =>
    rw [List.foldl_cons, ih]
    obtain ⟨k₀, m₀⟩ := kfvPair
    by_cases hmem : k₀ ∈ current
    · rcases eq_or_ne k k₀ with rfl | hk
      · simp [hmem]
      · simp [hmem, hk]
    · rcases eq_or_ne k k₀ with rfl | hk
      · simp [hmem]
      · simp [hmem, hk]

/-- **The keys to set** are those whose objects differ. -/
theorem mem_keysToSet : k ∈ (diff current view).keysToSet ↔ view[k]? ≠ current[k]? := by
  obtain ⟨hview, hset, -⟩ := foldl_diffKey (d := ⟨view, [], []⟩) (nodup_fst_toList (d := current))
  refine mem_foldl_new.trans ?_
  rw [hset]
  simp only [ExtTreeMap.mem_toList_iff_getElem?_eq_some, hview, List.not_mem_nil, false_or,
    ← ExtTreeMap.isSome_getElem?_iff_mem]
  rcases current[k]? with - | old <;> rcases view[k]? with - | new <;> simp [eq_comm]

/-- **The keys to remove first** are those whose objects lack something. -/
theorem mem_keysToDel :
    k ∈ (diff current view).keysToDel ↔ ∃ old, current[k]? = some old ∧ Lacks old view[k]? := by
  have hdel := (foldl_diffKey (d := ⟨view, [], []⟩) (nodup_fst_toList (d := current))).2.2
  refine (hdel k).trans ?_
  simp [ExtTreeMap.mem_toList_iff_getElem?_eq_some]

end ProducerStateTable

/-! ### Reading the arguments back -/

/-- A place in the second part of a list. -/
theorem index_append {pre l : List String} {i : ℕ} {x : String} (h : l[i]? = some x) :
    Lua.index (pre ++ l) (pre.length + 1 + i) = some x := by
  rw [show pre.length + 1 + i = pre.length + i + 1 by omega, Lua.index_succ,
    List.getElem?_append_right (by omega)]
  simpa using h

/-- The length that stands before a group of arguments. -/
theorem index_length (pre : List String) {l : List String} {n : ℕ} :
    (Lua.index (pre ++ toString n :: l) (pre.length + 1)).bind Lua.tonumber = some n := by
  rw [index_append (i := 0) rfl]
  simp

/-- The loop over a group of keys. -/
theorem forLoop_sadd (pre : List String) {keys rest KEYS : List String} {set : String} {j n : ℕ}
    {db : Db}     (hset : Lua.index KEYS j = some set) :
    Lua.forLoop 1 keys.length (fun (db : Db) i => do
        let set ← Lua.index KEYS j
        let key ← Lua.index (pre ++ toString n :: (keys ++ rest)) (pre.length + 1 + i)
        some (db.sadd set key).1) db
      = some (db.saddAll set keys) := by
  refine Lua.forLoop_eq_foldl (by push_cast; ring) ?_ db
  intro db i key hkey
  have hi : i < keys.length := (List.getElem?_eq_some_iff.mp hkey).1
  have hindex : (toString n :: (keys ++ rest))[1 + i]? = some key := by
    rw [Nat.add_comm, List.getElem?_cons_succ, List.getElem?_append_left hi, hkey]
  rw [index_append hindex, hset]
  rfl

/-- The loop over the fields of one object. -/
theorem forLoop_hset (pre rest : List String) {KEYS : List String} (fvs : List FieldValueTuple)
    {hash : String} {j : ℕ} (n : ℕ) (db : Db) (hhash : Lua.index KEYS j = some hash) :
    Lua.forLoop 1 fvs.length (fun (db : Db) i => do
        let hash ← Lua.index KEYS j
        let field ← Lua.index (pre ++ toString n :: (flatten fvs ++ rest))
          (pre.length + 1 + i * 2 - 1)
        let value ← Lua.index (pre ++ toString n :: (flatten fvs ++ rest))
          (pre.length + 1 + i * 2)
        some (db.hset hash field value)) db
      = some (db.hsetAll hash fvs) := by
  refine Lua.forLoop_eq_foldl (by push_cast; ring) ?_ db
  intro db i fv hfv
  obtain ⟨hfield, hvalue⟩ := getElem?_flatten hfv rest
  rw [show pre.length + 1 + (1 + i) * 2 - 1 = pre.length + 1 + (2 * i + 1) by omega,
    show pre.length + 1 + (1 + i) * 2 = pre.length + 1 + (2 * i + 1 + 1) by omega,
    index_append (by simpa using hfield), index_append (by simpa using hvalue), hhash]
  rfl

/-- One object: the place after its fields is where the next one starts. -/
theorem luaApplyObject_eq {pre rest KEYS : List String} {fvs : List FieldValueTuple}
    {hash : String} {j : ℕ} {db : Db} (hhash : Lua.index KEYS j = some hash) :
    luaApplyObject KEYS (pre ++ toString fvs.length :: (flatten fvs ++ rest))
        (db, pre.length + 1) j
      = some (db.hsetAll hash fvs, (pre ++ toString fvs.length :: flatten fvs).length + 1) := by
  have hloop := forLoop_hset pre rest fvs fvs.length db hhash
  have hnext : pre.length + 1 + 2 * fvs.length + 1
      = (pre ++ toString fvs.length :: flatten fvs).length + 1 := by
    simp
    omega
  simp only [luaApplyObject, index_length, Option.bind_eq_bind, Option.bind_some] at hloop ⊢
  rw [hloop, Option.bind_some, hnext]

/-- The loop over the objects: each turn starts where the one before has stopped. -/
theorem foldlM_luaApplyObject {KEYS : List String} (name : String → String)
    {view : List (String × TableMap)} {pre : List String} {j : ℕ} {db : Db}
    (hkeys : ∀ i kfvPair, view[i]? = some kfvPair →
      Lua.index KEYS (j + i) = some (name kfvPair.1)) :
    (List.range' j view.length).foldlM (luaApplyObject KEYS (pre ++ viewArgs view))
        (db, pre.length + 1)
      = some (view.foldl (fun db kfvPair => db.hsetAll (name kfvPair.1) kfvPair.2.toList) db,
          (pre ++ viewArgs view).length + 1) := by
  induction view generalizing pre j db with
  | nil => simp [viewArgs]
  | cons kfvPair view ih =>
    obtain ⟨k, m⟩ := kfvPair
    have hargs : pre ++ viewArgs ((k, m) :: view)
        = pre ++ toString m.toList.length :: (flatten m.toList ++ viewArgs view) := by
      simp [viewArgs]
    have hrest : pre ++ viewArgs ((k, m) :: view)
        = (pre ++ toString m.toList.length :: flatten m.toList) ++ viewArgs view := by
      simp [viewArgs]
    have htail : ∀ i kfvPair, view[i]? = some kfvPair →
        Lua.index KEYS (j + 1 + i) = some (name kfvPair.1) := by
      intro i kfvPair hi
      rw [show j + 1 + i = j + (i + 1) by omega]
      exact hkeys (i + 1) kfvPair hi
    have hhead : luaApplyObject KEYS (pre ++ viewArgs ((k, m) :: view)) (db, pre.length + 1) j
        = some (db.hsetAll (name k) m.toList,
            (pre ++ toString m.toList.length :: flatten m.toList).length + 1) := by
      rw [hargs]
      exact luaApplyObject_eq (hkeys 0 (k, m) rfl)
    rw [List.length_cons, List.range'_succ, List.foldlM_cons, hhead, Option.bind_eq_bind,
      Option.bind_some, hrest, ih htail]
    rfl

/-- **The positional arguments of `apply_temp_view` are read back as they were
meant.** -/
theorem evalApplyView_eq {t : TableBase} {d : ProducerStateTable.Diff} {db : Db} :
    evalApplyView t d db = some (applyViewEffect t d db) := by
  obtain ⟨view, toSet, toDel⟩ := d
  set names := view.toList.map fun kfvPair => t.getStateHashPrefix ++ t.getKeyName kfvPair.1
    with hnames
  have hlen : view.size + 3
      = ([t.getChannelName, t.getKeySetName, t.getDelKeySetName] ++ names).length := by
    simp [hnames]
  rw [evalApplyView, evalsha_append hlen]
  generalize hKEYS : [t.getChannelName, t.getKeySetName, t.getDelKeySetName] ++ names = KEYS
  generalize hARGV : ["G", toString toSet.length] ++ toSet ++ [toString toDel.length] ++ toDel
    ++ viewArgs view.toList = ARGV
  -- the three groups of arguments, each with what stands before it
  have hset : ARGV = ["G"] ++ toString toSet.length ::
      (toSet ++ (toString toDel.length :: (toDel ++ viewArgs view.toList))) := by
    simp [← hARGV]
  have hdel : ARGV = (["G", toString toSet.length] ++ toSet) ++ toString toDel.length ::
      (toDel ++ viewArgs view.toList) := by
    simp [← hARGV]
  have hview : ARGV = (["G", toString toSet.length] ++ toSet ++ [toString toDel.length] ++ toDel)
      ++ viewArgs view.toList := by
    simp [← hARGV]
  have hstart₂ : 2 + toSet.length + 1 = (["G", toString toSet.length] ++ toSet).length + 1 := by
    simp
    omega
  have hstart₃ : (["G", toString toSet.length] ++ toSet).length + 1 + toDel.length + 1
      = (["G", toString toSet.length] ++ toSet ++ [toString toDel.length] ++ toDel).length + 1 := by
    simp
    omega
  have hn₁ : (Lua.index ARGV 2).bind Lua.tonumber = some toSet.length := by
    rw [hset]
    exact index_length ["G"]
  have hn₂ : (Lua.index ARGV (2 + toSet.length + 1)).bind Lua.tonumber = some toDel.length := by
    rw [hdel, hstart₂]
    exact index_length _
  have hl₁ : ∀ db : Db, Lua.forLoop 1 toSet.length (fun (db : Db) i => do
      let keySet ← Lua.index KEYS 2
      let key ← Lua.index ARGV (2 + i)
      some (db.sadd keySet key).1) db
        = some (db.saddAll t.getKeySetName toSet) := by
    intro db
    rw [hset, ← hKEYS]
    exact forLoop_sadd ["G"] rfl
  have hl₂ : ∀ db : Db, Lua.forLoop 1 toDel.length (fun (db : Db) i => do
      let delSet ← Lua.index KEYS 3
      let key ← Lua.index ARGV (2 + toSet.length + 1 + i)
      some (db.sadd delSet key).1) db
        = some (db.saddAll t.getDelKeySetName toDel) := by
    intro db
    rw [hdel, hstart₂, ← hKEYS]
    exact forLoop_sadd _ rfl
  have hl₃ : ∀ db : Db, Lua.forLoop 4 KEYS.length (luaApplyObject KEYS ARGV)
      (db, 2 + toSet.length + 1 + toDel.length + 1)
        = some (view.toList.foldl (fun db kfvPair =>
            db.hsetAll (t.getStateHashPrefix ++ t.getKeyName kfvPair.1) kfvPair.2.toList) db,
            ARGV.length + 1) := by
    intro db
    have hcount : ((KEYS.length : ℤ) + 1 - (4 : ℕ)).toNat = view.toList.length := by
      rw [← hlen.trans (congrArg List.length hKEYS), ExtTreeMap.length_toList]
      omega
    rw [hstart₂, hstart₃, Lua.forLoop, hcount, hview]
    refine foldlM_luaApplyObject (fun k => t.getStateHashPrefix ++ t.getKeyName k) ?_
    intro i kfvPair hi
    rw [← hKEYS, show 4 + i = i + 3 + 1 by omega, Lua.index_succ,
      List.getElem?_append_right (by simp)]
    simp [hnames, hi]
  simp only [luaApplyView, Option.bind_eq_bind] at hl₁ hl₂ ⊢
  simp only [hn₁, hl₁, hn₂, hl₂, hl₃, Option.bind_some]
  simp [applyViewEffect, ← hKEYS, hset]

end Swss
