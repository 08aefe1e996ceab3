/-
Common/ClearTable.lean

`ProducerStateTable::clear` and the other tables of the database.

The script removes what KEYS finds for `_T*`.  The name of the table is part of the pattern as
it is, and no separator follows it, so more names may match than the pending hashes of the
table, and fewer.  What is cleared, and that another table is left alone, holds for every
content of the database exactly if the names allow it (`clear_frame_iff`): the pattern matches
the pending hashes of the table (`MatchesOwn`), and no name of the other table is matched or
is that of a set of this one (`Apart`).  Where the name of the table has no glob characters,
this is a matter of prefixes (`names_iff_of_plain`).
-/
import Sonic.Common.ProducerStateTable
import Sonic.Redis.Glob

namespace Swss

open Redis

/-- The name of a pending hash. -/
def TableBase.pendingName (t : TableBase) (key : String) : String :=
  t.getStateHashPrefix ++ t.getKeyName key

/-- What KEYS is called with: `KEYS[2] .. '*'`. -/
def TableBase.clearPattern (t : TableBase) : String := t.getStateHashPrefix ++ t.tableName ++ "*"

/-- `luaClear`, for names with any characters. -/
def luaClearMatching : Script Db := fun KEYS _ db => do
  let keySet ← Lua.index KEYS 1
  let db := db.del keySet
  let statePrefix ← Lua.index KEYS 2
  let db := db.delAll (db.keysMatching (statePrefix ++ "*"))
  let delSet ← Lua.index KEYS 3
  some (db.del delSet)

/-- `ProducerStateTable::clear`, for a table with any name. -/
def evalClearMatching (t : TableBase) (db : Db) : Option Db :=
  let args := [t.getKeySetName, t.getStateHashPrefix ++ t.tableName, t.getDelKeySetName]
  evalsha luaClearMatching "3" args db

/-- The name is removed by the script. -/
def Touched (t : TableBase) (name : String) : Prop :=
  name = t.getKeySetName ∨ name = t.getDelKeySetName ∨ stringmatch t.clearPattern name = true

instance (t : TableBase) (name : String) : Decidable (Touched t name) :=
  inferInstanceAs (Decidable (_ ∨ _ ∨ _))

variable {t t₁ t₂ : TableBase} {db db' : Db} {key name : String}

/-! ### The script -/

theorem evalClearMatching_eq :
    evalClearMatching t db =
      some (((db.del t.getKeySetName).delAll
        ((db.del t.getKeySetName).keysMatching t.clearPattern)).del t.getDelKeySetName) := by
  rw [evalClearMatching, show ("3" : String) = toString 3 from rfl, ← List.append_nil (_ :: _),
    evalsha_append (n := 3) rfl, luaClearMatching]
  rfl

/-- What is left of a value that the script may remove on three ways. -/
theorem ite_touched {α : Type*} (empty value : α) :
    (if t.getDelKeySetName = name then empty
      else if stringmatch t.clearPattern name = true then empty
      else if t.getKeySetName = name then empty else value) =
      if Touched t name then empty else value := by
  by_cases hdel : t.getDelKeySetName = name
  · rw [if_pos hdel, if_pos (.inr (.inl hdel.symm))]
  · rw [if_neg hdel]
    by_cases hmatch : stringmatch t.clearPattern name = true
    · rw [if_pos hmatch, if_pos (.inr (.inr hmatch))]
    · rw [if_neg hmatch]
      by_cases hkey : t.getKeySetName = name
      · rw [if_pos hkey, if_pos (.inl hkey.symm)]
      · rw [if_neg hkey, if_neg]
        rintro (h | h | h)
        · exact hkey h.symm
        · exact hdel h.symm
        · exact hmatch h

theorem hgetall_evalClearMatching (heval : evalClearMatching t db = some db') :
    db'.hgetall name = if Touched t name then ∅ else db.hgetall name := by
  rw [evalClearMatching_eq] at heval
  obtain rfl := Option.some.inj heval
  rw [Db.hgetall_del, Db.hgetall_delAll_keysMatching, Db.hgetall_del]
  exact ite_touched ∅ _

theorem smembers_evalClearMatching (heval : evalClearMatching t db = some db') :
    db'.smembers name = if Touched t name then ∅ else db.smembers name := by
  rw [evalClearMatching_eq] at heval
  obtain rfl := Option.some.inj heval
  rw [Db.smembers_del, Db.smembers_delAll_keysMatching, Db.smembers_del]
  exact ite_touched ∅ _

theorem toList_getStateHashPrefix : t.getStateHashPrefix.toList = ['_'] := by
  show "_".toList = ['_']
  decide

theorem plain_statePrefix (hplain : ∀ c ∈ t.tableName.toList, Plain c) :
    ∀ c ∈ (t.getStateHashPrefix ++ t.tableName).toList, Plain c := by
  intro c hc
  rw [String.toList_append] at hc
  rcases List.mem_append.mp hc with hc | hc
  · rw [toList_getStateHashPrefix] at hc
    obtain rfl : c = '_' := List.mem_singleton.mp hc
    exact ⟨by decide, by decide, by decide, by decide⟩
  · exact hplain c hc

/-- **For a name without glob characters this is the script of the other modules.** -/
theorem evalClearMatching_of_plain (hplain : ∀ c ∈ t.tableName.toList, Plain c) :
    evalClearMatching t db = evalClear t db := by
  have hkeys : ∀ db : Db, db.keysMatching t.clearPattern =
      db.keys (t.getStateHashPrefix ++ t.tableName) :=
    fun db => List.filter_congr fun name _ => matches_star_of_plain (plain_statePrefix hplain)
  rw [evalClearMatching_eq, evalClear_eq, clearEffect, hkeys]

/-! ### The names of two tables -/

/-- The table is cleared, and the other one is as it was. -/
structure ClearsOnly (t₁ t₂ : TableBase) (db db' : Db) : Prop where
  keySet : db'.smembers t₁.getKeySetName = ∅
  delKeySet : db'.smembers t₁.getDelKeySetName = ∅
  pending : ∀ key, db'.hgetall (t₁.pendingName key) = ∅
  otherKeySet : db'.smembers t₂.getKeySetName = db.smembers t₂.getKeySetName
  otherDelKeySet : db'.smembers t₂.getDelKeySetName = db.smembers t₂.getDelKeySetName
  otherPending : ∀ key, db'.hgetall (t₂.pendingName key) = db.hgetall (t₂.pendingName key)

/-- The pattern finds every pending hash of the table. -/
def MatchesOwn (t : TableBase) : Prop := ∀ key, Touched t (t.pendingName key)

/-- The script for `t₁` removes no name of `t₂`. -/
structure Apart (t₁ t₂ : TableBase) : Prop where
  keySet : ¬ Touched t₁ t₂.getKeySetName
  delKeySet : ¬ Touched t₁ t₂.getDelKeySetName
  pending : ∀ key, ¬ Touched t₁ (t₂.pendingName key)

theorem clearsOnly_of_names (hown : MatchesOwn t₁) (hapart : Apart t₁ t₂)
    (heval : evalClearMatching t₁ db = some db') : ClearsOnly t₁ t₂ db db' where
  keySet := by rw [smembers_evalClearMatching heval, if_pos (.inl rfl)]
  delKeySet := by rw [smembers_evalClearMatching heval, if_pos (.inr (.inl rfl))]
  pending key := by rw [hgetall_evalClearMatching heval, if_pos (hown key)]
  otherKeySet := by rw [smembers_evalClearMatching heval, if_neg hapart.keySet]
  otherDelKeySet := by rw [smembers_evalClearMatching heval, if_neg hapart.delKeySet]
  otherPending key := by rw [hgetall_evalClearMatching heval, if_neg (hapart.pending key)]

/-- Some hash and some set are stored under the name. -/
def dbWith (name : String) : Db := (Db.empty.putHash name {("f", "v")}).putSet name {"k"}

theorem hgetall_dbWith_ne : (dbWith name).hgetall name ≠ ∅ := by
  rw [dbWith, Db.hgetall_putSet, Db.hgetall_putHash, if_pos rfl]
  decide

theorem smembers_dbWith_ne : (dbWith name).smembers name ≠ ∅ := by
  rw [dbWith, Db.smembers_putSet, if_pos rfl]
  exact Finset.singleton_ne_empty _

/-- Names that are in the way show up in some content. -/
theorem names_of_clearsOnly (h : ∀ db, ∃ db', evalClearMatching t₁ db = some db' ∧
    ClearsOnly t₁ t₂ db db') : MatchesOwn t₁ ∧ Apart t₁ t₂ := by
  refine ⟨fun key => ?_, fun htouched => ?_, fun htouched => ?_, fun key htouched => ?_⟩
  · obtain ⟨db', heval, hclear⟩ := h (dbWith (t₁.pendingName key))
    by_contra hnot
    have hgone := hclear.pending key
    rw [hgetall_evalClearMatching heval, if_neg hnot] at hgone
    exact hgetall_dbWith_ne hgone
  · obtain ⟨db', heval, hclear⟩ := h (dbWith t₂.getKeySetName)
    have hkept := hclear.otherKeySet
    rw [smembers_evalClearMatching heval, if_pos htouched] at hkept
    exact smembers_dbWith_ne hkept.symm
  · obtain ⟨db', heval, hclear⟩ := h (dbWith t₂.getDelKeySetName)
    have hkept := hclear.otherDelKeySet
    rw [smembers_evalClearMatching heval, if_pos htouched] at hkept
    exact smembers_dbWith_ne hkept.symm
  · obtain ⟨db', heval, hclear⟩ := h (dbWith (t₂.pendingName key))
    have hkept := hclear.otherPending key
    rw [hgetall_evalClearMatching heval, if_pos htouched] at hkept
    exact hgetall_dbWith_ne hkept.symm

/-- **Clearing one table leaves another one as it was, whatever the database holds, exactly if
their names allow it.** -/
theorem clear_frame_iff (dbId : ℕ) (T₁ T₂ : String) :
    (∀ db, ∃ db', evalClearMatching ⟨dbId, T₁⟩ db = some db' ∧
        ClearsOnly ⟨dbId, T₁⟩ ⟨dbId, T₂⟩ db db') ↔
      MatchesOwn ⟨dbId, T₁⟩ ∧ Apart ⟨dbId, T₁⟩ ⟨dbId, T₂⟩ := by
  constructor
  · exact names_of_clearsOnly
  · rintro ⟨hown, hapart⟩ db
    exact ⟨_, evalClearMatching_eq, clearsOnly_of_names hown hapart evalClearMatching_eq⟩

/-- The table `ROUTE` is cleared with the routes of `ROUTE_TABLE`. -/
theorem not_clear_frame :
    ¬ ∀ (dbId : ℕ) (T₁ T₂ : String) (db : Db), T₁ ≠ T₂ →
      ∃ db', evalClearMatching ⟨dbId, T₁⟩ db = some db' ∧
        ClearsOnly ⟨dbId, T₁⟩ ⟨dbId, T₂⟩ db db' := by
  intro h
  have hall : ∀ db, ∃ db', evalClearMatching ⟨APPL_DB, "ROUTE"⟩ db = some db' ∧
      ClearsOnly ⟨APPL_DB, "ROUTE"⟩ ⟨APPL_DB, "ROUTE_TABLE"⟩ db db' :=
    fun db => h APPL_DB "ROUTE" "ROUTE_TABLE" db (by decide)
  apply (names_of_clearsOnly hall).2.pending "1.1.1.0/24"
  show Touched ⟨APPL_DB, "ROUTE"⟩ "_ROUTE_TABLE:1.1.1.0/24"
  decide

/-! ### Names without glob characters -/

/-- No name of the other table begins with `_T₁`, and none is that of a set of `T₁`. -/
structure NamesApart (t₁ t₂ : TableBase) : Prop where
  notLonger : ¬ t₁.tableName.toList <+: (t₂.tableName ++ t₂.tableSeparator).toList
  notShorter : ¬ (t₂.tableName ++ t₂.tableSeparator).toList <+: t₁.tableName.toList
  keySet : ¬ (t₁.getStateHashPrefix ++ t₁.tableName).toList <+: t₂.getKeySetName.toList
  delKeySet : ¬ (t₁.getStateHashPrefix ++ t₁.tableName).toList <+: t₂.getDelKeySetName.toList
  ownSets : ∀ key, t₂.pendingName key ≠ t₁.getKeySetName ∧ t₂.pendingName key ≠ t₁.getDelKeySetName

theorem touched_iff_of_plain (hplain : ∀ c ∈ t.tableName.toList, Plain c) :
    Touched t name ↔ name = t.getKeySetName ∨ name = t.getDelKeySetName ∨
      (t.getStateHashPrefix ++ t.tableName).toList <+: name.toList := by
  rw [Touched, TableBase.clearPattern, matches_star_of_plain (plain_statePrefix hplain),
    Db.startsWith, List.isPrefixOf_iff_prefix]

/-- The name of a pending hash begins with the prefix of a table, by the names of the tables. -/
theorem statePrefix_prefix_pendingName_iff :
    (t₁.getStateHashPrefix ++ t₁.tableName).toList <+: (t₂.pendingName key).toList ↔
      t₁.tableName.toList <+: (t₂.getKeyName key).toList := by
  rw [TableBase.pendingName, String.toList_append, String.toList_append, toList_getStateHashPrefix,
    toList_getStateHashPrefix]
  exact List.prefix_cons_inj _

/-- A table has a pending hash under some name that begins with the text. -/
theorem exists_prefix_getKeyName_iff {text : List Char} :
    (∃ key, text <+: (t.getKeyName key).toList) ↔
      text <+: (t.tableName ++ t.tableSeparator).toList ∨
        (t.tableName ++ t.tableSeparator).toList <+: text := by
  constructor
  · rintro ⟨key, hpre⟩
    rw [TableBase.getKeyName] at hpre
    split at hpre
    · left
      rw [String.toList_append]
      exact hpre.trans (List.prefix_append _ _)
    · rw [String.toList_append] at hpre
      exact List.prefix_or_prefix_of_prefix hpre (List.prefix_append _ _)
  · rintro (hpre | ⟨rest, hrest⟩)
    · refine ⟨"k", ?_⟩
      rw [TableBase.getKeyName, if_neg (by decide), String.toList_append]
      exact hpre.trans (List.prefix_append _ _)
    · refine ⟨String.ofList (rest ++ ['k']), ?_⟩
      rw [TableBase.getKeyName, if_neg, String.toList_append, String.toList_ofList, ← hrest,
        ← List.append_assoc]
      · exact List.prefix_append _ _
      · intro hempty
        have := congrArg String.toList hempty
        simp at this

/-- Two names of sets differ as their tables or their suffixes do. -/
theorem setName_inj {T₁ T₂ suffix₁ suffix₂ : String}
    (hlength : suffix₁.toList.length = suffix₂.toList.length)
    (heq : T₁ ++ suffix₁ = T₂ ++ suffix₂) : T₁ = T₂ ∧ suffix₁ = suffix₂ := by
  have hlist := congrArg String.toList heq
  rw [String.toList_append, String.toList_append] at hlist
  obtain ⟨hname, hsuffix⟩ := List.append_inj' hlist hlength
  exact ⟨String.toList_inj.mp hname, String.toList_inj.mp hsuffix⟩

/-- **Without glob characters in the name of the table that is cleared, the names allow it
exactly if no prefix is in the way.** -/
theorem names_iff_of_plain (hplain : ∀ c ∈ t₁.tableName.toList, Plain c)
    (hne : t₁.tableName ≠ t₂.tableName) :
    MatchesOwn t₁ ∧ Apart t₁ t₂ ↔ NamesApart t₁ t₂ := by
  constructor
  · rintro ⟨-, hapart⟩
    have hkeys : ¬ ∃ key, t₁.tableName.toList <+: (t₂.getKeyName key).toList := by
      rintro ⟨key, hpre⟩
      refine hapart.pending key ((touched_iff_of_plain hplain).mpr (.inr (.inr ?_)))
      exact statePrefix_prefix_pendingName_iff.mpr hpre
    rw [exists_prefix_getKeyName_iff, not_or] at hkeys
    refine ⟨hkeys.1, hkeys.2, fun hpre => ?_, fun hpre => ?_, fun key => ⟨?_, ?_⟩⟩
    · exact hapart.keySet ((touched_iff_of_plain hplain).mpr (.inr (.inr hpre)))
    · exact hapart.delKeySet ((touched_iff_of_plain hplain).mpr (.inr (.inr hpre)))
    · exact fun heq => hapart.pending key (.inl heq)
    · exact fun heq => hapart.pending key (.inr (.inl heq))
  · intro hnames
    refine ⟨fun key => ?_, fun htouched => ?_, fun htouched => ?_, fun key htouched => ?_⟩
    · refine (touched_iff_of_plain hplain).mpr (.inr (.inr ?_))
      rw [statePrefix_prefix_pendingName_iff, TableBase.getKeyName]
      split
      · exact List.prefix_rfl
      · rw [String.toList_append, String.toList_append, List.append_assoc]
        exact List.prefix_append _ _
    · rcases (touched_iff_of_plain hplain).mp htouched with heq | heq | hpre
      · exact hne (setName_inj rfl heq).1.symm
      · exact absurd (setName_inj (by decide) heq).2 (by decide)
      · exact hnames.keySet hpre
    · rcases (touched_iff_of_plain hplain).mp htouched with heq | heq | hpre
      · exact absurd (setName_inj (by decide) heq).2 (by decide)
      · exact hne (setName_inj rfl heq).1.symm
      · exact hnames.delKeySet hpre
    · rcases (touched_iff_of_plain hplain).mp htouched with heq | heq | hpre
      · exact (hnames.ownSets key).1 heq
      · exact (hnames.ownSets key).2 heq
      · have hkeys := exists_prefix_getKeyName_iff.mp
          ⟨key, statePrefix_prefix_pendingName_iff.mp hpre⟩
        exact hkeys.elim hnames.notLonger hnames.notShorter

theorem names_iff_of_plain_route :
    MatchesOwn ⟨APPL_DB, "ROUTE"⟩ ∧ Apart ⟨APPL_DB, "ROUTE"⟩ ⟨APPL_DB, "PORT"⟩ ↔
      NamesApart ⟨APPL_DB, "ROUTE"⟩ ⟨APPL_DB, "PORT"⟩ :=
  names_iff_of_plain (by simp [Plain]) (by decide)

end Swss
