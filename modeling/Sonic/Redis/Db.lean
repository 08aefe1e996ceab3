/-
Redis/Db.lean

The part of a Redis database the state tables live in: hashes, sets and the
channels of PUBLISH, addressed by key names.

Redis keeps no empty hash and no empty set: the key disappears with its last
element.  The keyspace therefore stores non-empty values only (the subtypes of
`Db`), and a missing key reads as the empty value.  `putHash` and `putSet` are
the two places where a value is written; every command is one of them, and the
lemmas of this file say what each command does to `hgetall`, `smembers` and
`published`, which is all that is ever observed.

Strings stand for the C strings that reach the server.  HGETALL and KEYS give
their replies in an unspecified order; here it is the order of the names.
-/
import Sonic.Lib.FieldMap

namespace Redis

open Std (ExtTreeMap)
open FieldMap (merge merge_cons merge_nil)

/-- A hash: field to value. -/
abbrev Hash := ExtTreeMap String String

structure Db where
  hashes : ExtTreeMap String {h : Hash // h ≠ ∅}
  sets : ExtTreeMap String {s : Finset String // s ≠ ∅}
  /-- Number of messages published so far on each channel. -/
  published : String → ℕ

/-- The empty database. -/
def Db.empty : Db := ⟨∅, ∅, fun _ => 0⟩

namespace Db

/-! ### Reading -/

/-- HGETALL: a missing key is the empty hash. -/
def hgetall (db : Db) (key : String) : Hash :=
  match db.hashes[key]? with
  | some h => h.val
  | none => ∅

/-- SMEMBERS: a missing key is the empty set. -/
def smembers (db : Db) (key : String) : Finset String :=
  match db.sets[key]? with
  | some s => s.val
  | none => ∅

/-- SCARD. -/
def scard (db : Db) (key : String) : ℕ := (db.smembers key).card

/-! ### Writing -/

/-- Store the hash of a key; the empty hash removes the key. -/
def putHash (db : Db) (key : String) (h : Hash) : Db :=
  if hne : h = ∅ then { db with hashes := db.hashes.erase key }
  else { db with hashes := db.hashes.insert key ⟨h, hne⟩ }

/-- Store the set of a key; the empty set removes the key. -/
def putSet (db : Db) (key : String) (s : Finset String) : Db :=
  if hne : s = ∅ then { db with sets := db.sets.erase key }
  else { db with sets := db.sets.insert key ⟨s, hne⟩ }

/-- HSET of one field. -/
def hset (db : Db) (key field value : String) : Db :=
  db.putHash key ((db.hgetall key).insert field value)

/-- One HSET for each pair of a field list, in order. -/
def hsetAll (db : Db) (key : String) (fvs : List (String × String)) : Db :=
  fvs.foldl (fun db fv => db.hset key fv.1 fv.2) db

/-- HDEL of many fields. -/
def hdelAll (db : Db) (key : String) (fields : List String) : Db :=
  db.putHash key (fields.foldl (fun h field => h.erase field) (db.hgetall key))

/-- DEL of one key, of whatever type it is. -/
def del (db : Db) (key : String) : Db :=
  (db.putHash key ∅).putSet key ∅

/-- SADD of one member; the reply is the number of members added. -/
def sadd (db : Db) (key member : String) : Db × ℕ :=
  (db.putSet key (insert member (db.smembers key)),
    if member ∈ db.smembers key then 0 else 1)

/-- One SADD for each member of a list. -/
def saddAll (db : Db) (key : String) (members : List String) : Db :=
  members.foldl (fun db m => (db.sadd key m).1) db

/-- SREM of one member; the reply is the number of members removed. -/
def srem (db : Db) (key member : String) : Db × ℕ :=
  (db.putSet key ((db.smembers key).erase member),
    if member ∈ db.smembers key then 1 else 0)

/-- PUBLISH: one more message for the subscribers of the channel. -/
def publish (db : Db) (channel : String) : Db :=
  { db with published := Function.update db.published channel (db.published channel + 1) }

/-- `IsSpop db key n popped`: SPOP of at most `n` members of `key` may reply
`popped`.  The members are picked at random, so every choice is admitted. -/
structure IsSpop (db : Db) (key : String) (n : ℕ) (popped : List String) : Prop where
  nodup : popped.Nodup
  subset : ∀ m ∈ popped, m ∈ db.smembers key
  length : popped.length = min n (db.scard key)

/-- SPOP with the reply `popped`. -/
def spop (db : Db) (key : String) (popped : List String) : Db :=
  db.putSet key (db.smembers key \ popped.toFinset)

/-! ### KEYS -/

/-- The text `s` begins with `p`. -/
def startsWith (p s : String) : Bool := p.toList.isPrefixOf s.toList

/-- KEYS `p*`, for a `p` without glob characters. -/
def keys (db : Db) (p : String) : List String :=
  (db.hashes.keys ++ db.sets.keys).filter (startsWith p)

/-- DEL of every key of a list. -/
def delAll (db : Db) (names : List String) : Db := names.foldl del db

variable {db : Db} {key key' f v m p ch : String} {h : Hash} {s : Finset String}
  {names popped : List String} {n : ℕ}

@[simp] theorem hgetall_empty : empty.hgetall key = ∅ := rfl

@[simp] theorem smembers_empty : empty.smembers key = ∅ := rfl

/-! ### What a write does to the observations -/

@[simp] theorem hgetall_putHash :
    (db.putHash key h).hgetall key' = if key = key' then h else db.hgetall key' := by
  unfold putHash hgetall
  by_cases hne : h = ∅
  · by_cases hk : key = key' <;>
      simp [hne, hk, ExtTreeMap.getElem?_erase]
  · by_cases hk : key = key' <;>
      simp [hne, hk, ExtTreeMap.getElem?_insert]

@[simp] theorem smembers_putHash : (db.putHash key h).smembers key' = db.smembers key' := by
  unfold putHash smembers
  by_cases hne : h = ∅ <;> simp [hne]

@[simp] theorem published_putHash : (db.putHash key h).published = db.published := by
  unfold putHash
  split <;> rfl

@[simp] theorem hgetall_putSet : (db.putSet key s).hgetall key' = db.hgetall key' := by
  unfold putSet hgetall
  by_cases hne : s = ∅ <;> simp [hne]

@[simp] theorem smembers_putSet :
    (db.putSet key s).smembers key' = if key = key' then s else db.smembers key' := by
  unfold putSet smembers
  by_cases hne : s = ∅
  · by_cases hk : key = key' <;>
      simp [hne, hk, ExtTreeMap.getElem?_erase]
  · by_cases hk : key = key' <;>
      simp [hne, hk, ExtTreeMap.getElem?_insert]

@[simp] theorem published_putSet : (db.putSet key s).published = db.published := by
  unfold putSet
  split <;> rfl

@[simp] theorem hgetall_hset :
    (db.hset key f v).hgetall key' =
      if key = key' then (db.hgetall key).insert f v else db.hgetall key' := by
  simp [hset]

@[simp] theorem smembers_hset : (db.hset key f v).smembers key' = db.smembers key' := by
  simp [hset]

@[simp] theorem published_hset : (db.hset key f v).published = db.published := by
  simp [hset]

@[simp] theorem hgetall_hsetAll {fvs : List (String × String)} :
    (db.hsetAll key fvs).hgetall key' =
      if key = key' then merge (db.hgetall key) fvs else db.hgetall key' := by
  unfold hsetAll
  induction fvs generalizing db with
  | nil => by_cases hk : key = key' <;> simp [hk]
  | cons fv fvs ih =>
    rw [List.foldl_cons, ih]
    by_cases hk : key = key' <;> simp [hk]

@[simp] theorem smembers_hsetAll {fvs : List (String × String)} :
    (db.hsetAll key fvs).smembers key' = db.smembers key' := by
  unfold hsetAll
  induction fvs generalizing db with
  | nil => rfl
  | cons fv fvs ih => rw [List.foldl_cons, ih, smembers_hset]

@[simp] theorem published_hsetAll {fvs : List (String × String)} :
    (db.hsetAll key fvs).published = db.published := by
  unfold hsetAll
  induction fvs generalizing db with
  | nil => rfl
  | cons fv fvs ih => rw [List.foldl_cons, ih, published_hset]

@[simp] theorem hgetall_hdelAll {fields : List String} :
    (db.hdelAll key fields).hgetall key' =
      if key = key' then fields.foldl (fun h field => h.erase field) (db.hgetall key)
      else db.hgetall key' := by
  simp [hdelAll]

@[simp] theorem hgetall_del :
    (db.del key).hgetall key' = if key = key' then ∅ else db.hgetall key' := by
  simp [del]

@[simp] theorem smembers_del :
    (db.del key).smembers key' = if key = key' then ∅ else db.smembers key' := by
  simp [del]

@[simp] theorem published_del : (db.del key).published = db.published := by
  simp [del]

@[simp] theorem hgetall_sadd : (db.sadd key m).1.hgetall key' = db.hgetall key' := by
  simp [sadd]

@[simp] theorem smembers_sadd :
    (db.sadd key m).1.smembers key' =
      if key = key' then insert m (db.smembers key) else db.smembers key' := by
  simp [sadd]

@[simp] theorem published_sadd : (db.sadd key m).1.published = db.published := by
  simp [sadd]

@[simp] theorem hgetall_saddAll :
    (db.saddAll key names).hgetall key' = db.hgetall key' := by
  unfold saddAll
  induction names generalizing db with
  | nil => rfl
  | cons name names ih => rw [List.foldl_cons, ih, hgetall_sadd]

@[simp] theorem smembers_saddAll :
    (db.saddAll key names).smembers key' =
      if key = key' then db.smembers key ∪ names.toFinset else db.smembers key' := by
  unfold saddAll
  induction names generalizing db with
  | nil => by_cases hk : key = key' <;> simp [hk]
  | cons name names ih =>
    rw [List.foldl_cons, ih]
    by_cases hk : key = key' <;> simp [hk]

@[simp] theorem published_saddAll : (db.saddAll key names).published = db.published := by
  unfold saddAll
  induction names generalizing db with
  | nil => rfl
  | cons name names ih => rw [List.foldl_cons, ih, published_sadd]

@[simp] theorem hgetall_srem : (db.srem key m).1.hgetall key' = db.hgetall key' := by
  simp [srem]

@[simp] theorem smembers_srem :
    (db.srem key m).1.smembers key' =
      if key = key' then (db.smembers key).erase m else db.smembers key' := by
  simp [srem]

@[simp] theorem published_srem : (db.srem key m).1.published = db.published := by
  simp [srem]

@[simp] theorem hgetall_spop : (db.spop key popped).hgetall key' = db.hgetall key' := by
  simp [spop]

@[simp] theorem smembers_spop :
    (db.spop key popped).smembers key' =
      if key = key' then db.smembers key \ popped.toFinset else db.smembers key' := by
  simp [spop]

@[simp] theorem published_spop : (db.spop key popped).published = db.published := by
  simp [spop]

@[simp] theorem hgetall_publish : (db.publish ch).hgetall key' = db.hgetall key' := rfl

@[simp] theorem smembers_publish : (db.publish ch).smembers key' = db.smembers key' := rfl

@[simp] theorem published_publish :
    (db.publish ch).published = Function.update db.published ch (db.published ch + 1) := rfl

/-! ### SPOP -/

/-- SPOP always has a reply. -/
theorem exists_isSpop (db : Db) (key : String) (n : ℕ) : ∃ popped, IsSpop db key n popped := by
  refine ⟨(db.smembers key).toList.take n, ?_, ?_, ?_⟩
  · exact (Finset.nodup_toList _).sublist (List.take_sublist _ _)
  · exact fun m hm => Finset.mem_toList.mp (List.mem_of_mem_take hm)
  · simp [scard]

/-- The number of members a SPOP leaves. -/
theorem IsSpop.card_sdiff (h : IsSpop db key n popped) :
    (db.smembers key \ popped.toFinset).card = db.scard key - n := by
  have hsub : popped.toFinset ⊆ db.smembers key := fun m hm =>
    h.subset m (List.mem_toFinset.mp hm)
  rw [Finset.card_sdiff_of_subset hsub, List.toFinset_card_of_nodup h.nodup, h.length]
  unfold scard
  omega

/-! ### KEYS and DEL of many keys -/

@[simp] theorem hgetall_delAll :
    (db.delAll names).hgetall key = if key ∈ names then ∅ else db.hgetall key := by
  unfold delAll
  induction names generalizing db with
  | nil => simp
  | cons name names ih =>
    rw [List.foldl_cons, ih]
    by_cases hk : name = key
    · simp [hk]
    · simp [hk, Ne.symm hk]

@[simp] theorem smembers_delAll :
    (db.delAll names).smembers key = if key ∈ names then ∅ else db.smembers key := by
  unfold delAll
  induction names generalizing db with
  | nil => simp
  | cons name names ih =>
    rw [List.foldl_cons, ih]
    by_cases hk : name = key
    · simp [hk]
    · simp [hk, Ne.symm hk]

@[simp] theorem published_delAll : (db.delAll names).published = db.published := by
  unfold delAll
  induction names generalizing db with
  | nil => rfl
  | cons name names ih => rw [List.foldl_cons, ih, published_del]

theorem hgetall_eq_empty_iff : db.hgetall key = ∅ ↔ key ∉ db.hashes := by
  unfold hgetall
  rcases hk : db.hashes[key]? with - | h
  · simpa using hk
  · have hmem : key ∈ db.hashes := ExtTreeMap.isSome_getElem?_iff_mem.mp (by simp [hk])
    simp [h.property, hmem]

theorem smembers_eq_empty_iff : db.smembers key = ∅ ↔ key ∉ db.sets := by
  unfold smembers
  rcases hk : db.sets[key]? with - | s
  · simpa using hk
  · have hmem : key ∈ db.sets := ExtTreeMap.isSome_getElem?_iff_mem.mp (by simp [hk])
    simp [s.property, hmem]

/-- KEYS lists the names that hold something and begin with the text. -/
theorem mem_keys :
    key ∈ db.keys p ↔
      (db.hgetall key ≠ ∅ ∨ db.smembers key ≠ ∅) ∧ startsWith p key = true := by
  simp [keys, hgetall_eq_empty_iff, smembers_eq_empty_iff, or_and_right]

/-- DEL of KEYS `p*` clears the hashes whose names begin with the text. -/
theorem hgetall_delAll_keys :
    (db.delAll (db.keys p)).hgetall key =
      if startsWith p key = true then ∅ else db.hgetall key := by
  rw [hgetall_delAll]
  by_cases hp : startsWith p key = true <;> by_cases he : db.hgetall key = ∅ <;>
    simp [mem_keys, hp, he]

/-- DEL of KEYS `p*` clears the sets whose names begin with the text. -/
theorem smembers_delAll_keys :
    (db.delAll (db.keys p)).smembers key =
      if startsWith p key = true then ∅ else db.smembers key := by
  rw [smembers_delAll]
  by_cases hp : startsWith p key = true <;> by_cases he : db.smembers key = ∅ <;>
    simp [mem_keys, hp, he]

end Db

end Redis
