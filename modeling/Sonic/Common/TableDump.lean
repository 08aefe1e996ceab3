/-
Common/TableDump.lean

`Table::dump`: the content of a table in one call.

The script collects the hashes under `T:` and replies them as one JSON object;
the C++ parses it, cuts the table name off the keys and leaves out the fields
named NULL.  The JSON text is not modelled: the object that is parsed is the map
that was encoded.  A name under `T:` that is not a hash makes HGETALL fail, and
with it the script (`dump_eq_none`); otherwise the dump is the table without its
NULL fields (`dump_eq_some`).
-/
import Sonic.Common.ProducerStateTable

namespace Redis

open Std (ExtTreeMap)

/-- HGETALL of a name that holds a set is an error. -/
def Db.hgetallReply (db : Db) (key : String) : Option Hash :=
  if db.smembers key = ∅ then some (db.hgetall key) else none

end Redis

namespace Swss

open Redis FieldMap
open Std (ExtTreeMap)

/-- `table_dump.lua`. -/
def luaDump : Script (ExtTreeMap String Hash) := fun KEYS _ db => do
  let tablename ← Lua.index KEYS 1
  (db.keys (tablename ++ ":")).foldlM (fun res k => do
    let flat_map ← db.hgetallReply k
    some (res.insert k flat_map)) ∅

namespace TableBase

/-- The field map of one element of the reply: NULL fields are skipped. -/
def dumpMap (jj : Hash) : TableMap :=
  jj.toList.foldl (fun map itt => if itt.1 = "NULL" then map else map.insert itt.1 itt.2) ∅

/-- The key of one element of the reply. -/
def dumpKey (t : TableBase) (name : String) : String :=
  String.ofList (name.toList.drop (t.tableName.length + 1))

/-- `Table::dump`. -/
def dump (t : TableBase) (db : Db) : Option TableDump := do
  let j ← evalsha luaDump "1" ([t.tableName] ++ ["''"]) db
  some (j.toList.foldl
    (fun tableDump it => tableDump.insert (t.dumpKey it.1) (dumpMap it.2)) ∅)

variable {t : TableBase} {db : Db} {name k : String} {h : Hash}

/-! ### Keys and field maps -/

/-- The names under `T:` are the names of the table's hashes. -/
theorem startsWith_tableName_iff :
    Db.startsWith (t.tableName ++ ":") name = true ↔ name = t.hashName (t.dumpKey name) := by
  rw [Db.startsWith, List.isPrefixOf_iff_prefix]
  have hlen : (t.tableName ++ ":").toList.length = t.tableName.length + 1 := by
    simp [String.length_toList]
  constructor
  · rintro ⟨rest, hrest⟩
    have hdrop : name.toList.drop (t.tableName.length + 1) = rest := by
      rw [← hrest, ← hlen, List.drop_left]
    rw [← String.toList_inj, hashName, dumpKey, String.toList_append, String.toList_ofList,
      hdrop, hrest]
  · intro hname
    rw [hname]
    exact ⟨_, (String.toList_append (s := t.tableName ++ ":")).symm⟩

@[simp] theorem dumpKey_hashName : t.dumpKey (t.hashName k) = k := by
  have hlen : (t.tableName ++ ":").toList.length = t.tableName.length + 1 := by
    simp [String.length_toList]
  rw [dumpKey, hashName, String.toList_append, ← hlen, List.drop_left, String.ofList_toList]

/-- A dumped field map is the hash without its NULL field. -/
theorem dumpMap_eq : dumpMap h = h.erase "NULL" := by
  have hfilter : dumpMap h = merge ∅ (h.toList.filter fun itt => itt.1 ≠ "NULL") := by
    rw [dumpMap, merge, List.foldl_filter]
    congr 1
    funext map itt
    by_cases hnull : itt.1 = "NULL" <;> simp [hnull]
  rw [hfilter]
  apply ExtTreeMap.ext_getElem?
  intro f
  rw [ExtTreeMap.getElem?_erase]
  by_cases hf : f = "NULL"
  · rw [if_pos (by simp [hf])]
    refine (getElem?_merge_of_not_mem ?_).trans ExtTreeMap.getElem?_empty
    intro fv hfv he
    simp [he, hf] at hfv
  · rw [if_neg (by simpa using Ne.symm hf)]
    rcases hv : h[f]? with - | v
    · refine (getElem?_merge_of_not_mem ?_).trans ExtTreeMap.getElem?_empty
      rintro ⟨f', v⟩ hfv rfl
      have hmem := ExtTreeMap.mem_toList_iff_getElem?_eq_some.mp (List.mem_filter.mp hfv).1
      rw [hmem] at hv
      exact absurd hv (by simp)
    · refine getElem?_merge_of_forall ⟨(f, v), ?_, rfl⟩ ?_
      · exact List.mem_filter.mpr
          ⟨ExtTreeMap.mem_toList_iff_getElem?_eq_some.mpr hv, by simpa using hf⟩
      · rintro ⟨f', w⟩ hfv rfl
        have hmem := ExtTreeMap.mem_toList_iff_getElem?_eq_some.mp (List.mem_filter.mp hfv).1
        exact Option.some.inj (hmem.symm.trans hv)

/-! ### The dump -/

/-- The names under `T:` hold hashes only. -/
def HashesOnly (t : TableBase) (db : Db) : Prop :=
  ∀ k, db.smembers (t.hashName k) = ∅

/-- The script replies the hashes under `T:`. -/
theorem luaDump_eq_some (h : t.HashesOnly db) :
    ∃ j, evalsha luaDump "1" ([t.tableName] ++ ["''"]) db = some j ∧
      ∀ name, j[name]? = if name = t.hashName (t.dumpKey name) ∧ db.hgetall name ≠ ∅
        then some (db.hgetall name) else none := by
  have hloop : ∀ (l : List String) (res : ExtTreeMap String Hash),
      (∀ k ∈ l, db.smembers k = ∅) →
      l.foldlM (fun res k => do
        let flat_map ← db.hgetallReply k
        some (res.insert k flat_map)) res
        = some (merge res (l.map fun k => (k, db.hgetall k))) := by
    intro l
    induction l with
    | nil => exact fun res _ => rfl
    | cons k l ih =>
      intro res hl
      have hk : db.smembers k = ∅ := hl k (by simp)
      rw [List.foldlM_cons]
      simpa [Db.hgetallReply, hk] using ih _ fun k' hk' => hl k' (by simp [hk'])
  have hkeys : ∀ name, name ∈ db.keys (t.tableName ++ ":") ↔
      name = t.hashName (t.dumpKey name) ∧ db.hgetall name ≠ ∅ := by
    intro name
    rw [Db.mem_keys, startsWith_tableName_iff]
    constructor
    · rintro ⟨hsome, hname⟩
      rw [hname, h] at hsome
      rw [← hname] at hsome
      exact ⟨hname, hsome.resolve_right (not_not_intro rfl)⟩
    · rintro ⟨hname, hsome⟩
      exact ⟨Or.inl hsome, hname⟩
  refine ⟨merge ∅ ((db.keys (t.tableName ++ ":")).map fun k => (k, db.hgetall k)), ?_, ?_⟩
  · rw [show ("1" : String) = toString 1 from rfl, evalsha_append (n := 1) rfl, luaDump]
    refine hloop _ ∅ ?_
    intro k hk
    rw [((hkeys k).mp hk).1]
    exact h _
  · intro name
    rw [getElem?_merge_map]
    simp only [hkeys]

/-- **A dump is the table without its NULL fields.** -/
theorem dump_eq_some (h : t.HashesOnly db) :
    ∃ tableDump, t.dump db = some tableDump ∧ ∀ k, tableDump[k]? =
      if db.hgetall (t.hashName k) = ∅ then none
      else some ((db.hgetall (t.hashName k)).erase "NULL") := by
  obtain ⟨j, hj, hlookup⟩ := luaDump_eq_some h
  refine ⟨merge ∅ (j.toList.map fun it => (t.dumpKey it.1, dumpMap it.2)), ?_, ?_⟩
  · rw [dump, hj, merge, List.foldl_map]
    rfl
  · intro k
    -- the elements of the reply with the key `k` are the hash `T:k`
    have hentry : ∀ name m, (name, m) ∈ j.toList → t.dumpKey name = k →
        db.hgetall (t.hashName k) = m ∧ m ≠ ∅ := by
      intro name m hm hk
      rw [ExtTreeMap.mem_toList_iff_getElem?_eq_some, hlookup, hk] at hm
      split at hm
      · next hname =>
          obtain rfl := Option.some.inj hm
          exact ⟨by rw [← hname.1], hname.2⟩
      · exact absurd hm (by simp)
    by_cases hempty : db.hgetall (t.hashName k) = ∅
    · rw [if_pos hempty]
      refine (getElem?_merge_of_not_mem ?_).trans ExtTreeMap.getElem?_empty
      intro fv hfv hk
      obtain ⟨⟨name, m⟩, hm, rfl⟩ := List.mem_map.mp hfv
      obtain ⟨rfl, hne⟩ := hentry name m hm hk
      exact hne hempty
    · rw [if_neg hempty, ← dumpMap_eq]
      refine getElem?_merge_of_forall ⟨(k, dumpMap (db.hgetall (t.hashName k))), ?_, rfl⟩ ?_
      · refine List.mem_map.mpr ⟨(t.hashName k, db.hgetall (t.hashName k)), ?_, by simp⟩
        rw [ExtTreeMap.mem_toList_iff_getElem?_eq_some, hlookup, dumpKey_hashName]
        exact if_pos ⟨rfl, hempty⟩
      · intro fv hfv hk
        obtain ⟨⟨name, m⟩, hm, rfl⟩ := List.mem_map.mp hfv
        rw [(hentry name m hm hk).1]

/-- A name under `T:` that is not a hash makes the dump fail. -/
theorem dump_eq_none (h : ¬ t.HashesOnly db) : t.dump db = none := by
  have hloop : ∀ (l : List String) (res : ExtTreeMap String Hash),
      (∃ k ∈ l, db.smembers k ≠ ∅) →
      l.foldlM (fun res k => do
        let flat_map ← db.hgetallReply k
        some (res.insert k flat_map)) res = none := by
    intro l
    induction l with
    | nil => simp
    | cons k l ih =>
      rintro res ⟨k', hk', hne⟩
      rw [List.foldlM_cons]
      by_cases hk : db.smembers k = ∅
      · have hrest : ∃ k ∈ l, db.smembers k ≠ ∅ := by
          rcases List.mem_cons.mp hk' with rfl | hk'
          · exact absurd hk hne
          · exact ⟨k', hk', hne⟩
        simpa [Db.hgetallReply, hk] using ih _ hrest
      · simp [Db.hgetallReply, hk]
  obtain ⟨k, hk⟩ := not_forall.mp h
  have hmem : t.hashName k ∈ db.keys (t.tableName ++ ":") := by
    rw [Db.mem_keys, startsWith_tableName_iff, dumpKey_hashName]
    exact ⟨Or.inr hk, rfl⟩
  have hscript : evalsha luaDump "1" ([t.tableName] ++ ["''"]) db = none := by
    rw [show ("1" : String) = toString 1 from rfl, evalsha_append (n := 1) rfl, luaDump]
    exact hloop _ ∅ ⟨_, hmem, hk⟩
  rw [dump, hscript]
  rfl

end TableBase

end Swss
