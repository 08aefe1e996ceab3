/-
Common/Table.lean

Tables and the names they have in the database.

A table is a database id and a name.  The separator between the table name and
the key depends on the database (`tableNameSeparatorMap`), and the empty key
denotes the bare table name (`getKeyName`).  A state table uses four families of
names: `T_KEY_SET`, `T_DEL_SET`, the hashes `T:key` and the pending hashes
`_T:key`.  For one table no two of these names ever coincide; the proofs compare
the names as character lists.
-/
import Sonic.Lib.ObjectStore
import Sonic.Redis.Lua

namespace Swss

open ObjectStore

/-- `FieldValueTuple`: `fvField` and `fvValue`. -/
abbrev FieldValueTuple := String × String

/-- `KeyOpFieldsValuesTuple`. -/
structure KeyOpFieldsValuesTuple where
  kfvKey : String
  kfvOp : String
  kfvFieldsValues : List FieldValueTuple
  deriving DecidableEq

def SET_COMMAND : String := "SET"
def DEL_COMMAND : String := "DEL"

/-- The call a tuple stands for: DEL removes the object, any other operation
merges the fields. -/
def KeyOpFieldsValuesTuple.call (kco : KeyOpFieldsValuesTuple) : Call String String String :=
  if kco.kfvOp = DEL_COMMAND then .del kco.kfvKey else .set kco.kfvKey kco.kfvFieldsValues

/-! ### Databases and their separators -/

def APPL_DB : ℕ := 0
def ASIC_DB : ℕ := 1
def COUNTERS_DB : ℕ := 2
def LOGLEVEL_DB : ℕ := 3
def CONFIG_DB : ℕ := 4
def PFC_WD_DB : ℕ := 5
def FLEX_COUNTER_DB : ℕ := 5
def STATE_DB : ℕ := 6

def TABLE_NAME_SEPARATOR_COLON : String := ":"
def TABLE_NAME_SEPARATOR_VBAR : String := "|"

/-- `tableNameSeparatorMap`, in the order of its initializer: of two entries
with one key the first is kept. -/
def tableNameSeparatorMap : List (ℕ × String) :=
  [(APPL_DB, TABLE_NAME_SEPARATOR_COLON),
   (ASIC_DB, TABLE_NAME_SEPARATOR_COLON),
   (COUNTERS_DB, TABLE_NAME_SEPARATOR_COLON),
   (LOGLEVEL_DB, TABLE_NAME_SEPARATOR_COLON),
   (CONFIG_DB, TABLE_NAME_SEPARATOR_VBAR),
   (PFC_WD_DB, TABLE_NAME_SEPARATOR_COLON),
   (FLEX_COUNTER_DB, TABLE_NAME_SEPARATOR_COLON),
   (STATE_DB, TABLE_NAME_SEPARATOR_VBAR)]

/-- `TableBase`. -/
structure TableBase where
  dbId : ℕ
  tableName : String
  deriving DecidableEq

namespace TableBase

/-- The separator of the database; an unknown database gets the default one. -/
def tableSeparator (t : TableBase) : String :=
  (tableNameSeparatorMap.lookup t.dbId).getD TABLE_NAME_SEPARATOR_VBAR

/-- `getKeyName`: the empty key is the table name itself. -/
def getKeyName (t : TableBase) (key : String) : String :=
  if key = "" then t.tableName else t.tableName ++ t.tableSeparator ++ key

def getChannelName (t : TableBase) : String := t.tableName ++ "_CHANNEL"

/-! `TableName_KeySet` -/

def getKeySetName (t : TableBase) : String := t.tableName ++ "_KEY_SET"
def getDelKeySetName (t : TableBase) : String := t.tableName ++ "_DEL_SET"
def getStateHashPrefix (_ : TableBase) : String := "_"

/-- The name `T:key`, as the consumer's script builds it. -/
def hashName (t : TableBase) (key : String) : String := t.tableName ++ ":" ++ key

/-- The name `_T:key`, as the consumer's script builds it. -/
def stateHashName (t : TableBase) (key : String) : String :=
  t.getStateHashPrefix ++ (t.tableName ++ ":") ++ key

variable {t : TableBase} {k k' : String}

/-! ### The names of one table are pairwise different -/

/-- A list that a shift by one leaves a prefix of itself is constant. -/
theorem cons_append_eq {α : Type*} {c : α} {l x y : List α}
    (h : c :: (l ++ x) = l ++ y) : y = c :: x := by
  induction l with
  | nil => exact h.symm
  | cons a l ih =>
    rw [List.cons_append, List.cons_append] at h
    obtain ⟨rfl, htail⟩ := List.cons.inj h
    exact ih htail

@[simp] theorem keySetName_ne_delKeySetName : t.getKeySetName ≠ t.getDelKeySetName := by
  intro h
  have hl := congrArg String.toList h
  simp [getKeySetName, getDelKeySetName] at hl

@[simp] theorem delKeySetName_ne_keySetName : t.getDelKeySetName ≠ t.getKeySetName :=
  keySetName_ne_delKeySetName.symm

@[simp] theorem hashName_ne_keySetName : t.hashName k ≠ t.getKeySetName := by
  intro h
  have hl := congrArg String.toList h
  simp [getKeySetName, hashName] at hl

@[simp] theorem hashName_ne_delKeySetName : t.hashName k ≠ t.getDelKeySetName := by
  intro h
  have hl := congrArg String.toList h
  simp [getDelKeySetName, hashName] at hl

@[simp] theorem stateHashName_ne_keySetName : t.stateHashName k ≠ t.getKeySetName := by
  intro h
  have hl := congrArg String.toList h
  simp only [stateHashName, getStateHashPrefix, getKeySetName, String.toList_append] at hl
  have := cons_append_eq (c := '_') (l := t.tableName.toList) (by simpa using hl)
  simp at this

@[simp] theorem stateHashName_ne_delKeySetName : t.stateHashName k ≠ t.getDelKeySetName := by
  intro h
  have hl := congrArg String.toList h
  simp only [stateHashName, getStateHashPrefix, getDelKeySetName, String.toList_append] at hl
  have := cons_append_eq (c := '_') (l := t.tableName.toList) (by simpa using hl)
  simp at this

@[simp] theorem stateHashName_ne_hashName : t.stateHashName k ≠ t.hashName k' := by
  intro h
  have hl := congrArg String.toList h
  simp only [stateHashName, getStateHashPrefix, hashName, String.toList_append] at hl
  have := cons_append_eq (c := '_') (l := t.tableName.toList) (by simpa using hl)
  simp at this

@[simp] theorem hashName_ne_stateHashName : t.hashName k ≠ t.stateHashName k' :=
  stateHashName_ne_hashName.symm

@[simp] theorem hashName_inj : t.hashName k = t.hashName k' ↔ k = k' := by
  rw [← String.toList_inj, ← String.toList_inj]
  simp [hashName]

@[simp] theorem stateHashName_inj : t.stateHashName k = t.stateHashName k' ↔ k = k' := by
  rw [← String.toList_inj, ← String.toList_inj]
  simp [stateHashName]

/-- With the colon as separator, the producer writes a non-empty key where the
consumer reads it. -/
theorem stateHash_getKeyName (ht : t.tableSeparator = ":") (hk : k ≠ "") :
    t.getStateHashPrefix ++ t.getKeyName k = t.stateHashName k := by
  rw [← String.toList_inj]
  simp [getKeyName, stateHashName, hk, ht]

/-! ### Names the consumer never reads -/

/-- A separator is the colon or the vertical bar. -/
theorem tableSeparator_eq : t.tableSeparator = ":" ∨ t.tableSeparator = "|" := by
  unfold tableSeparator
  rcases hsep : tableNameSeparatorMap.lookup t.dbId with - | sep
  · exact Or.inr rfl
  · have hmem : (t.dbId, sep) ∈ tableNameSeparatorMap := by
      rw [List.lookup_eq_some_iff] at hsep
      obtain ⟨l₁, l₂, hmap, -⟩ := hsep
      simp [hmap]
    have hall : ∀ e ∈ tableNameSeparatorMap, e.2 = ":" ∨ e.2 = "|" := by decide
    exact hall _ hmem

/-- A name none of the four families has. -/
structure Stray (t : TableBase) (name : String) : Prop where
  hashName : ∀ k, name ≠ t.hashName k
  stateHashName : ∀ k, name ≠ t.stateHashName k
  keySetName : name ≠ t.getKeySetName
  delKeySetName : name ≠ t.getDelKeySetName

/-- `_T` followed by neither a colon nor a letter is in none of the families. -/
theorem stray_of_toList {name : String} (rest : List Char)
    (hname : name.toList = '_' :: (t.tableName.toList ++ rest))
    (hrest : rest.head? ≠ some ':' ∧ rest.head? ≠ some 'K' ∧ rest.head? ≠ some 'D') :
    t.Stray name := by
  obtain ⟨hcolon, hK, hD⟩ := hrest
  refine ⟨?_, ?_, ?_, ?_⟩
  · rintro k rfl
    have := cons_append_eq (by simpa [hashName] using hname.symm)
    simp at this
  · rintro k rfl
    refine hcolon ?_
    rw [show rest = ':' :: k.toList by simpa [stateHashName, getStateHashPrefix] using hname.symm]
    rfl
  · rintro rfl
    have := cons_append_eq (by simpa [getKeySetName] using hname.symm)
    rw [List.cons.injEq] at this
    exact hK (by rw [← this.2]; rfl)
  · rintro rfl
    have := cons_append_eq (by simpa [getDelKeySetName] using hname.symm)
    rw [List.cons.injEq] at this
    exact hD (by rw [← this.2]; rfl)

/-- The producer writes the empty key, and any key under another separator than
the colon, to a hash nobody reads. -/
theorem stray_stateHash (h : ¬ (t.tableSeparator = ":" ∧ k ≠ "")) :
    t.Stray (t.getStateHashPrefix ++ t.getKeyName k) := by
  by_cases hk : k = ""
  · exact stray_of_toList [] (by simp [hk, getStateHashPrefix, getKeyName]) (by simp)
  · have hsep : t.tableSeparator = "|" := by
      rcases tableSeparator_eq (t := t) with hcolon | hbar
      · exact absurd ⟨hcolon, hk⟩ h
      · exact hbar
    exact stray_of_toList ('|' :: k.toList)
      (by simp [hk, hsep, getStateHashPrefix, getKeyName]) (by simp)

end TableBase

end Swss
