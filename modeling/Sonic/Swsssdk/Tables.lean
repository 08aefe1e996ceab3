/-
Swsssdk/Tables.lean

`get_table` and `get_config`: which rows they show, and under which keys.

Both go through the names that KEYS finds, read each hash and put the row under the key that
the name is cut to.  A key is shown with a row, in whatever order the server replies, exactly if
some name is cut to it and every name that is cut to it holds that row (`shows_key_iff`).
-/
import Sonic.Swsssdk.Entry

namespace Swsssdk

open Redis PyText LastWins Outcome
open Std (ExtTreeMap)

variable {c : ConfigDBConnector} {o : Orders} {db db' : Db} {table name other : String} {key : Key}
  {row : Row} {data : Dict String FieldValue}

/-! ### Keys -/

theorem serializeKey_eq : serializeKey key = join KEY_SEPARATOR key.parts := by
  cases key with
  | str key => exact join_singleton.symm
  | tuple first second rest => rfl

theorem parts_deserializeKey : (deserializeKey name).parts = split KEY_SEPARATOR name := by
  rw [deserializeKey]
  rcases hsplit : split KEY_SEPARATOR name with - | ⟨first, - | ⟨second, rest⟩⟩
  · exact absurd hsplit split_ne_nil
  · -- a text with no separator is its only part
    have hjoin : join KEY_SEPARATOR (split KEY_SEPARATOR name) = name := join_split
    rw [hsplit, join_singleton] at hjoin
    rw [hjoin]
    rfl
  · rfl

theorem parts_ne_nil : key.parts ≠ [] := by
  cases key <;> exact List.cons_ne_nil _ _

/-- A name is the key it is read as. -/
theorem serializeKey_deserializeKey : serializeKey (deserializeKey name) = name := by
  rw [serializeKey_eq, parts_deserializeKey, join_split]

/-- **A key is read as it was written exactly if its parts are without the separator of the
class.** -/
theorem deserializeKey_serializeKey_iff :
    deserializeKey (serializeKey key) = key ↔
      ∀ part ∈ key.parts, KEY_SEPARATOR ∉ part.toList := by
  rw [← split_join_iff parts_ne_nil, ← serializeKey_eq, ← parts_deserializeKey]
  exact Key.parts_injective.eq_iff.symm

theorem deserializeKey_eq_iff :
    deserializeKey name = key ↔
      name = serializeKey key ∧ ∀ part ∈ key.parts, KEY_SEPARATOR ∉ part.toList := by
  constructor
  · rintro rfl
    refine ⟨serializeKey_deserializeKey.symm, deserializeKey_serializeKey_iff.mp ?_⟩
    rw [serializeKey_deserializeKey]
  · rintro ⟨rfl, hparts⟩
    exact deserializeKey_serializeKey_iff.mpr hparts

/-! ### Reading the names that were found -/

/-- The row that a call reads under a name. -/
def readRow (o : Orders) (db : Db) (name : String) : Row :=
  rawToTyped (o.hgetall (db.hgetall name).toList)

/-- What a call puts for a name: its row under the key that `cutKey` gives. -/
def shown {K : Type*} (o : Orders) (db : Db) (cutKey : String → Option K) (name : String) :
    Option (K × Row) :=
  (cutKey name).map fun key => (key, readRow o db name)

/-- Orders in which one list of fields and one list of names come as wanted. -/
def Orders.giving {fields fields' : List (String × String)} {names names' : List String}
    (hfields : fields'.Perm fields) (hnames : names'.Perm names) : Orders where
  hgetall l := if l = fields then fields' else l
  keys l := if l = names then names' else l
  hgetall_perm l := by
    split
    · next h => exact h ▸ hfields
    · exact List.Perm.refl l
  keys_perm l := by
    split
    · next h => exact h ▸ hnames
    · exact List.Perm.refl l

/-- The orders of the names. -/
def Orders.sorted : Orders := ⟨id, id, List.Perm.refl, List.Perm.refl⟩

theorem mem_shown_iff {K : Type*} {names : List String} {cutKey : String → Option K} {k : K} :
    (∃ p ∈ names.filterMap (shown o db cutKey), p.1 = k) ↔ ∃ n ∈ names, cutKey n = some k := by
  constructor
  · rintro ⟨p, hp, rfl⟩
    obtain ⟨n, hn, hshown⟩ := List.mem_filterMap.mp hp
    obtain ⟨k, hk, rfl⟩ := Option.map_eq_some_iff.mp hshown
    exact ⟨n, hn, hk⟩
  · rintro ⟨n, hn, hk⟩
    refine ⟨(k, readRow o db n), List.mem_filterMap.mpr ⟨n, hn, ?_⟩, rfl⟩
    rw [shown, hk]
    rfl

/-- **A key is shown with the row in every order exactly if all names that are cut to it hold the
row.** -/
theorem shows_key_iff {D K : Type*} {s : Access D K Row} {d : D} {names : List String}
    {cutKey : String → Option K} {k : K} (hd : s.get d k = none) :
    (∀ o : Orders, s.get (s.putAll d ((o.keys names).filterMap (shown o db cutKey))) k = some row) ↔
      (∃ n ∈ names, cutKey n = some k) ∧
        ∀ n ∈ names, cutKey n = some k → ReadsAs (db.hgetall n) row := by
  constructor
  · intro h
    refine ⟨?_, fun n hn hcut raw hraw => ?_⟩
    · by_contra hnot
      have hnone := (Access.get_putAll_eq_none_iff (s := s)).mpr
        ⟨hd, fun p hp hpk => hnot ((@mem_shown_iff Orders.sorted db _ _ _ _).mp ⟨p, hp, hpk⟩)⟩
      rw [show names = Orders.sorted.keys names from rfl, h Orders.sorted] at hnone
      cases hnone
    · -- this hash is given in the order of `raw`, and the names in any order
      have hagree : Access.Agree (names.filterMap
          (shown (Orders.giving hraw (List.Perm.refl names)) db cutKey)) k row := by
        refine (Access.get_putAll_perm_iff hd).mp fun names' hnames => ?_
        have hget := h (Orders.giving hraw hnames)
        rw [show (Orders.giving hraw hnames).keys names = names' from if_pos rfl] at hget
        exact hget
      have hmem : (k, readRow (Orders.giving hraw (List.Perm.refl names)) db n) ∈
          names.filterMap (shown (Orders.giving hraw (List.Perm.refl names)) db cutKey) := by
        refine List.mem_filterMap.mpr ⟨n, hn, ?_⟩
        rw [shown, hcut]
        rfl
      have hrow := hagree.2 _ hmem rfl
      rw [readRow, show (Orders.giving hraw (List.Perm.refl names)).hgetall
        (db.hgetall n).toList = raw from if_pos rfl] at hrow
      exact hrow
  · rintro ⟨hfound, hall⟩ o
    refine Access.get_putAll_of_agree (Access.Agree.perm (l := names.filterMap (shown o db cutKey))
      ⟨mem_shown_iff.mpr hfound, ?_⟩ ((o.keys_perm names).filterMap _))
    rintro p hp rfl
    obtain ⟨n, hn, hshown⟩ := List.mem_filterMap.mp hp
    obtain ⟨k, hcut, rfl⟩ := Option.map_eq_some_iff.mp hshown
    exact hall n hn hcut _ (o.hgetall_perm _)

/-- The keys that are shown do not depend on the orders. -/
theorem isSome_get_shown_iff {D K : Type*} {s : Access D K Row} {d : D} {names : List String}
    {cutKey : String → Option K} {k : K} (hd : s.get d k = none) :
    (s.get (s.putAll d ((o.keys names).filterMap (shown o db cutKey))) k).isSome ↔
      ∃ n ∈ names, cutKey n = some k := by
  rw [← not_iff_not, Bool.not_eq_true, Option.isSome_eq_false_iff, Option.isNone_iff_eq_none,
    Access.get_putAll_eq_none_iff]
  have hkeys := @mem_shown_iff o db _ (o.keys names) cutKey k
  have hnames : (∃ n ∈ o.keys names, cutKey n = some k) ↔ ∃ n ∈ names, cutKey n = some k := by
    refine exists_congr fun n => ?_
    rw [(o.keys_perm names).mem_iff]
  rw [← hnames, ← hkeys]
  constructor
  · rintro ⟨-, hnot⟩ ⟨p, hp, hpk⟩
    exact hnot p hp hpk
  · exact fun hnot => ⟨hd, fun p hp hpk => hnot ⟨p, hp, hpk⟩⟩

/-! ### The calls -/

theorem hgetall_of_hash (h : db.smembers name = ∅) :
    hgetall o name db = .ok (o.hgetall (db.hgetall name).toList) := if_pos h

theorem hgetall_of_other (h : db.smembers name ≠ ∅) : hgetall o name db = .error .wrongType :=
  if_neg h

theorem getEntry_eq (h : db.smembers (c.hashName table key) = ∅) :
    c.getEntry o table key db = .ok (readRow o db (c.hashName table key)) := by
  rw [ConfigDBConnector.getEntry, hgetall_of_hash h]
  rfl

/-- The key of a name in its table. -/
def rowKey (c : ConfigDBConnector) (name : String) : Option Key :=
  (splitOnce c.TABLE_NAME_SEPARATOR name).map fun p => deserializeKey p.2

/-- The table and the key of a name. -/
def configKey (c : ConfigDBConnector) (name : String) : Option (String × Key) :=
  (splitOnce c.TABLE_NAME_SEPARATOR name).map fun p => (p.1, deserializeKey p.2)

theorem getTable_eq (h : ∀ name ∈ db.keysMatching (c.tablePattern table), db.smembers name = ∅) :
    c.getTable o table db = .ok (tree.putAll ∅
      ((o.keys (db.keysMatching (c.tablePattern table))).filterMap (shown o db (rowKey c)))) := by
  rw [ConfigDBConnector.getTable, foldlM_eq_ok
    (g := fun data name => (shown o db (rowKey c) name).elim data fun p => data.insert p.1 p.2)]
  · refine congrArg Except.ok (Access.foldl_eq_putAll fun data name => ?_)
    cases shown o db (rowKey c) name <;> rfl
  · intro name hname data
    have hhash := h name ((o.keys_perm _).mem_iff.mp hname)
    show (hgetall o name db >>= _) = _
    rw [hgetall_of_hash hhash, shown, rowKey]
    refine bind_eq_ok.mpr ⟨_, rfl, ?_⟩
    cases splitOnce c.TABLE_NAME_SEPARATOR name <;> rfl

theorem getTable_ne_ok {d : TableData} (hmem : name ∈ db.keysMatching (c.tablePattern table))
    (h : db.smembers name ≠ ∅) : c.getTable o table db ≠ .ok d := by
  refine foldlM_ne_ok ((o.keys_perm _).mem_iff.mpr hmem) fun data data' hturn => ?_
  obtain ⟨raw, hraw, -⟩ := bind_eq_ok.mp hturn
  rw [hgetall_of_other h] at hraw
  cases hraw

theorem getConfig_eq (h : ∀ name ∈ db.keysMatching "*",
      splitOnce c.TABLE_NAME_SEPARATOR name ≠ none → db.smembers name = ∅) :
    c.getConfig o db = .ok (nested.putAll ∅
      ((o.keys (db.keysMatching "*")).filterMap (shown o db (configKey c)))) := by
  rw [ConfigDBConnector.getConfig, foldlM_eq_ok
    (g := fun data name => match shown o db (configKey c) name with
      | none => data
      | some p => nested.put data p.1 p.2)]
  · refine congrArg Except.ok (Access.foldl_eq_putAll fun data name => ?_)
    cases shown o db (configKey c) name <;> rfl
  · intro name hname data
    have hhash := h name ((o.keys_perm _).mem_iff.mp hname)
    rw [shown, configKey]
    cases hcut : splitOnce c.TABLE_NAME_SEPARATOR name with
    | none => rfl
    | some p =>
      show (hgetall o name db >>= _) = _
      rw [hgetall_of_hash (hhash (by rw [hcut]; exact Option.some_ne_none p))]
      rfl

theorem getConfig_ne_ok {d : ExtTreeMap String TableData} (hmem : name ∈ db.keysMatching "*")
    (hcut : splitOnce c.TABLE_NAME_SEPARATOR name ≠ none) (h : db.smembers name ≠ ∅) :
    c.getConfig o db ≠ .ok d := by
  refine foldlM_ne_ok ((o.keys_perm _).mem_iff.mpr hmem) fun data data' hturn => ?_
  obtain ⟨p, hp⟩ := Option.ne_none_iff_exists'.mp hcut
  rw [hp] at hturn
  obtain ⟨raw, hraw, -⟩ := bind_eq_ok.mp hturn
  rw [hgetall_of_other h] at hraw
  cases hraw

end Swsssdk
