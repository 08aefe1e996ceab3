/-
Common/StateTable.lean

A state table is a coalescing change queue.

`TableBase.queue` reads the change queue of `Lib/ChangeQueue.lean` off the
database: the contents are the hashes `T:key`, the pending fields the hashes
`_T:key`, and the two sets are `T_KEY_SET` and `T_DEL_SET`.  The theorems of
this file say that each script acts on the queue as the operation of its name
does.  This is where the names of the keys matter: the producer builds the name
of a pending hash with the separator of its database and maps the empty key to
the bare table name, while the consumer always reads `_T:key`.
-/
import Sonic.Lib.ChangeQueue
import Sonic.Common.ConsumerStateTable

namespace Swss

open Redis
open FieldMap

/-- The change queue of a table. -/
def TableBase.queue (t : TableBase) (db : Db) : ChangeQueue String String String where
  content k := db.hgetall (t.hashName k)
  pending k := db.hgetall (t.stateHashName k)
  keySet := db.smembers t.getKeySetName
  delSet := db.smembers t.getDelKeySetName

/-- The keys a producer writes where the consumer reads them: with the colon as
separator, all but the empty one. -/
structure TableBase.Serves (t : TableBase) (key : String) : Prop where
  colon : t.tableSeparator = ":"
  nonempty : key ≠ ""

variable {t : TableBase} {key k : String} {values : List FieldValueTuple} {db : Db}

theorem TableBase.Serves.stateHash (h : t.Serves key) :
    t.getStateHashPrefix ++ t.getKeyName key = t.stateHashName key :=
  TableBase.stateHash_getKeyName h.colon h.nonempty

theorem TableBase.stray_of_not_serves (h : ¬ t.Serves key) :
    t.Stray (t.getStateHashPrefix ++ t.getKeyName key) :=
  TableBase.stray_stateHash fun hand => h ⟨hand.1, hand.2⟩

theorem idle_empty : (t.queue Db.empty).Idle :=
  ⟨fun _ => rfl, rfl, rfl⟩

/-! ### Producer calls -/

/-- An announcement changes neither hashes nor sets. -/
theorem queue_announce {added : ℕ} : t.queue (announce t added db) = t.queue db := by
  unfold announce
  split <;> rfl

/-- `set` on the queue: of a served key, or without fields. -/
theorem queue_setEffect (h : t.Serves key ∨ values = []) :
    t.queue (setEffect t key values db) = (t.queue db).set key values := by
  rw [setEffect, queue_announce]
  simp only [TableBase.queue, ChangeQueue.set, ChangeQueue.mk.injEq]
  rcases h with h | rfl
  · rw [h.stateHash]
    refine ⟨?_, ?_, ?_, ?_⟩
    · funext k
      simp
    · funext k
      rcases eq_or_ne k key with rfl | hk
      · simp
      · simp [hk, Ne.symm hk]
    · simp
    · simp
  · simp [Db.hsetAll]

/-- `del` on the queue: of a served key, or of one without pending fields. -/
theorem queue_delEffect (h : t.Serves key ∨ (t.queue db).pending key = ∅) :
    t.queue (delEffect t key db) = (t.queue db).del key := by
  rw [delEffect, queue_announce]
  simp only [TableBase.queue, ChangeQueue.del, ChangeQueue.mk.injEq]
  by_cases hserves : t.Serves key
  · rw [hserves.stateHash]
    refine ⟨?_, ?_, ?_, ?_⟩
    · funext k
      simp
    · funext k
      rcases eq_or_ne k key with rfl | hk
      · simp
      · simp [hk, Ne.symm hk]
    · simp
    · simp
  · -- the hash that is deleted is none of the queue
    have hpending : db.hgetall (t.stateHashName key) = ∅ := h.resolve_left hserves
    have hstray := TableBase.stray_of_not_serves hserves
    refine ⟨?_, ?_, ?_, ?_⟩
    · funext k
      simp [hstray.hashName k]
    · funext k
      rcases eq_or_ne k key with rfl | hk
      · simp [hpending]
      · simp [hk, hstray.stateHashName k]
    · simp [hstray.keySetName]
    · simp [hstray.delKeySetName]

/-- A name `T:key` does not begin with `_T`. -/
theorem startsWith_hashName :
    Db.startsWith (t.getStateHashPrefix ++ t.tableName) (t.hashName k) = false := by
  rw [Bool.eq_false_iff]
  intro h
  obtain ⟨rest, hrest⟩ := List.isPrefixOf_iff_prefix.mp h
  have := TableBase.cons_append_eq (c := '_') (l := t.tableName.toList) (x := rest)
    (by simpa [TableBase.getStateHashPrefix, TableBase.hashName] using hrest)
  simp at this

theorem startsWith_stateHashName :
    Db.startsWith (t.getStateHashPrefix ++ t.tableName) (t.stateHashName k) = true := by
  refine List.isPrefixOf_iff_prefix.mpr ⟨':' :: k.toList, ?_⟩
  simp [TableBase.getStateHashPrefix, TableBase.stateHashName]

theorem queue_clearEffect : t.queue (clearEffect t db) = (t.queue db).clear := by
  simp only [TableBase.queue, ChangeQueue.clear, clearEffect, ChangeQueue.mk.injEq]
  refine ⟨?_, ?_, ?_, ?_⟩
  · funext k
    rw [Db.hgetall_del, if_neg (Ne.symm TableBase.hashName_ne_delKeySetName),
      Db.hgetall_delAll_keys, startsWith_hashName]
    simp [Ne.symm TableBase.hashName_ne_keySetName]
  · funext k
    rw [Db.hgetall_del, if_neg (Ne.symm TableBase.stateHashName_ne_delKeySetName),
      Db.hgetall_delAll_keys, startsWith_stateHashName]
    rfl
  · rw [Db.smembers_del, if_neg TableBase.delKeySetName_ne_keySetName,
      Db.smembers_delAll_keys]
    simp
  · simp

/-! ### Announcements -/

/-- No pending hash has the name of the key set. -/
theorem stateHash_ne_keySetName : t.getStateHashPrefix ++ t.getKeyName key ≠ t.getKeySetName := by
  by_cases h : t.Serves key
  · rw [h.stateHash]
    exact TableBase.stateHashName_ne_keySetName
  · exact (TableBase.stray_of_not_serves h).keySetName

theorem keySet_announce {added : ℕ} {name : String} :
    (announce t added db).smembers name = db.smembers name := by
  unfold announce
  split <;> rfl

theorem published_announce {added : ℕ} :
    (announce t added db).published t.getChannelName
      = db.published t.getChannelName + if added > 0 then 1 else 0 := by
  unfold announce
  split <;> simp

theorem keySet_setEffect :
    (setEffect t key values db).smembers t.getKeySetName
      = insert key (db.smembers t.getKeySetName) := by
  simp [setEffect, keySet_announce]

/-- `set` announces a key exactly when it has queued it. -/
theorem published_setEffect :
    (setEffect t key values db).published t.getChannelName
      = db.published t.getChannelName + if key ∈ db.smembers t.getKeySetName then 0 else 1 := by
  by_cases h : key ∈ db.smembers t.getKeySetName <;>
    simp [setEffect, published_announce, Db.sadd, h]

theorem keySet_delEffect :
    (delEffect t key db).smembers t.getKeySetName
      = insert key (db.smembers t.getKeySetName) := by
  simp [delEffect, keySet_announce, stateHash_ne_keySetName]

/-- `del` announces a key exactly when it has queued it. -/
theorem published_delEffect :
    (delEffect t key db).published t.getChannelName
      = db.published t.getChannelName + if key ∈ db.smembers t.getKeySetName then 0 else 1 := by
  by_cases h : key ∈ db.smembers t.getKeySetName <;>
    simp [delEffect, published_announce, Db.sadd, h]

theorem keySet_clearEffect : (clearEffect t db).smembers t.getKeySetName = ∅ :=
  congrArg ChangeQueue.keySet queue_clearEffect

theorem published_clearEffect : (clearEffect t db).published = db.published := by
  simp [clearEffect]

/-! ### Consumer calls -/

/-- The body of the loop pops one key and replies its pending fields. -/
theorem queue_luaPopKey {acc : Db × List (String × List FieldValueTuple)} :
    t.queue (luaPopKey (t.tableName ++ ":") t.getStateHashPrefix t.getDelKeySetName acc key).1
        = (t.queue acc.1).pop key ∧
      (luaPopKey (t.tableName ++ ":") t.getStateHashPrefix t.getDelKeySetName acc key).2
        = acc.2 ++ [(key, ((t.queue acc.1).pending key).toList)] := by
  have hhash : t.tableName ++ ":" ++ key = t.hashName key := rfl
  have hstate : t.getStateHashPrefix ++ (t.tableName ++ ":") ++ key = t.stateHashName key := rfl
  have hnum : ((acc.1.srem t.getDelKeySetName key).2 = 1)
      = (key ∈ acc.1.smembers t.getDelKeySetName) := by
    simp [Db.srem]
  simp only [luaPopKey, hhash, hstate, hnum]
  refine ⟨?_, ?_⟩
  · simp only [TableBase.queue, ChangeQueue.pop, ChangeQueue.overlay, ChangeQueue.mk.injEq]
    refine ⟨?_, ?_, ?_, ?_⟩
    · funext k
      rcases eq_or_ne k key with rfl | hk
      · split <;> simp [*, merge_toList]
      · split <;> simp [hk, Ne.symm hk]
    · funext k
      rcases eq_or_ne k key with rfl | hk
      · simp
      · split <;> simp [hk, Ne.symm hk]
    · split <;> simp
    · split <;> simp
  · simp only [TableBase.queue]
    split <;> simp

/-- **The script pops the keys of the reply.** -/
theorem queue_popsEffect {popped : List String} :
    t.queue (popsEffect t popped db).1 = (t.queue db).popAll popped := by
  have hfold : ∀ acc : Db × List (String × List FieldValueTuple),
      t.queue (popped.foldl (luaPopKey (t.tableName ++ ":") t.getStateHashPrefix
        t.getDelKeySetName) acc).1 = popped.foldl ChangeQueue.pop (t.queue acc.1) := by
    induction popped with
    | nil => exact fun acc => rfl
    | cons key popped ih =>
      intro acc
      rw [List.foldl_cons, List.foldl_cons, ih, queue_luaPopKey.1]
  have hspop : t.queue (db.spop t.getKeySetName popped)
      = { t.queue db with keySet := (t.queue db).keySet \ popped.toFinset } := by
    simp [TableBase.queue]
  rw [popsEffect, hfold, hspop, ChangeQueue.foldl_pop]
  rfl

/-- Each key of the reply comes with its pending fields. -/
theorem reply_popsEffect {popped : List String} (hnodup : popped.Nodup) :
    (popsEffect t popped db).2 =
      popped.map fun k => (k, ((t.queue db).pending k).toList) := by
  have hfold : ∀ acc : Db × List (String × List FieldValueTuple),
      (popped.foldl (luaPopKey (t.tableName ++ ":") t.getStateHashPrefix
        t.getDelKeySetName) acc).2
        = acc.2 ++ popped.map fun k => (k, ((t.queue acc.1).pending k).toList) := by
    induction popped with
    | nil => exact fun acc => by simp
    | cons key popped ih =>
      intro acc
      obtain ⟨hnot, hnodup⟩ := List.nodup_cons.mp hnodup
      -- popping one key leaves the pending fields of the others
      have hrest : ∀ k ∈ popped, ((t.queue acc.1).pop key).pending k
          = (t.queue acc.1).pending k := by
        intro k hk
        have hne : k ≠ key := by
          rintro rfl
          exact hnot hk
        exact Function.update_of_ne hne _ _
      rw [List.foldl_cons, ih hnodup, queue_luaPopKey.1, queue_luaPopKey.2,
        List.map_congr_left fun k hk => by rw [hrest k hk], List.map_cons]
      simp
  rw [popsEffect, hfold]
  simp [TableBase.queue]

end Swss
