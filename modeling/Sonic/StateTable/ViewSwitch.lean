/-
StateTable/ViewSwitch.lean

What a view switch does to the table.

The calls made between `create_temp_view` and `apply_temp_view` are replayed on
the empty table; that is the target.  After the switch the queue holds, for each
key whose dumped object differs from the target, the target as pending fields
and, where the target lacks a field of the dump, a mark for removal.

Since a dump leaves out the fields named NULL, a NULL field that the target does
not have is not missed in the comparison and stays in the table.  `Switchable`
is the exact condition on the old and new object of a key under which the switch
does what it is for (`switched_iff`).
-/
import Sonic.Common.TempView
import Sonic.StateTable.Runs

namespace Swss

open Redis ObjectStore FieldMap
open Std (ExtTreeMap)
open Transition (Run Guarded)

/-! ### The calls of a temporary view -/

namespace ProducerStateTable

/-- The calls made on a producer, in order. -/
def runCalls (p : ProducerStateTable) (calls : List (Call String String String)) (db : Db) :
    Option (ProducerStateTable × Db) :=
  calls.foldlM (fun (s : ProducerStateTable × Db) c =>
    match c with
    | .set key values => s.1.set key values s.2
    | .del key => s.1.del key s.2) (p, db)

/-- A view holds the objects of a store; there are no empty objects. -/
def Represents (view : TableDump) (store : String → Hash) : Prop :=
  ∀ k, view[k]? = if store k = ∅ then none else some (store k)

variable {p : ProducerStateTable} {view : TableDump} {store : String → Hash} {key : String}
  {values : List FieldValueTuple} {db : Db} {calls : List (Call String String String)}

theorem Represents.getD (h : Represents view store) (k : String) : view.getD k ∅ = store k := by
  rw [ExtTreeMap.getD_eq_getD_getElem?, h k]
  split
  · next he => exact he.symm
  · rfl

theorem Represents.set (h : Represents view store) :
    Represents (tempViewSet view key values) ((Call.set key values).apply store) := by
  unfold tempViewSet
  induction values generalizing view store with
  | nil =>
    intro k
    simpa [Call.apply, Call.key, Call.onObject] using h k
  | cons iv values ih =>
    have hhead : Represents (view.insert key ((view.getD key ∅).insert iv.1 iv.2))
        (Function.update store key ((store key).insert iv.1 iv.2)) := by
      intro k
      rw [h.getD, ExtTreeMap.getElem?_insert]
      rcases eq_or_ne k key with rfl | hk
      · simp [ExtTreeMap.insert_ne_empty]
      · simpa [hk, Ne.symm hk] using h k
    have hsame : (Call.set key (iv :: values)).apply store
        = (Call.set key values).apply
            (Function.update store key ((store key).insert iv.1 iv.2)) := by
      simp [Call.apply, Call.key, Call.onObject]
    rw [List.foldl_cons, hsame]
    exact ih hhead

theorem Represents.del (h : Represents view store) :
    Represents (view.erase key) ((Call.del key).apply store) := by
  intro k
  rw [ExtTreeMap.getElem?_erase]
  rcases eq_or_ne k key with rfl | hk
  · simp [Call.apply, Call.key, Call.onObject]
  · simpa [Call.apply, Call.key, hk, Ne.symm hk] using h k

/-- Calls under an active view edit the view and do not touch the database. -/
theorem runCalls_active (hactive : p.tempViewActive = true)
    (h : Represents p.tempViewState store) :
    ∃ view, p.runCalls calls db = some ({ p with tempViewState := view }, db) ∧
      Represents view (replay store calls) := by
  induction calls generalizing p store with
  | nil => exact ⟨p.tempViewState, rfl, h⟩
  | cons c calls ih =>
    cases c with
    | set key values =>
      obtain ⟨view, hrun, hview⟩ := ih
        (p := { p with tempViewState := tempViewSet p.tempViewState key values })
        hactive (Represents.set h)
      refine ⟨view, ?_, hview⟩
      rw [runCalls, List.foldlM_cons]
      simpa [set, hactive, runCalls] using hrun
    | del key =>
      obtain ⟨view, hrun, hview⟩ := ih
        (p := { p with tempViewState := p.tempViewState.erase key })
        hactive (Represents.del h)
      refine ⟨view, ?_, hview⟩
      rw [runCalls, List.foldlM_cons]
      simpa [del, hactive, runCalls] using hrun

/-- **The calls made after `create_temp_view` build the view that replaying them on
an empty table gives.** -/
theorem runCalls_createTempView (p : ProducerStateTable)
    (calls : List (Call String String String)) (db : Db) :
    ∃ view, p.createTempView.runCalls calls db
        = some ({ p with tempViewActive := true, tempViewState := view }, db) ∧
      Represents view (replay (fun _ => ∅) calls) :=
  runCalls_active (p := p.createTempView) rfl fun _ => by simp [createTempView]

end ProducerStateTable

/-! ### The queue after a switch -/

section Queue

open ProducerStateTable (Diff diff Lacks Represents)

variable {t : TableBase} {d : Diff} {db : Db} {k name : String}
  {l : List (String × TableMap)} {old new : Hash}

instance : Decidable (t.Serves k) :=
  decidable_of_iff (t.tableSeparator = ":" ∧ k ≠ "")
    ⟨fun h => ⟨h.1, h.2⟩, fun h => ⟨h.colon, h.nonempty⟩⟩

/-- The objects of a view that are not stored under `name` leave it alone. -/
theorem hgetall_foldl_of_forall_ne {f : String → String} (h : ∀ x ∈ l, f x.1 ≠ name) :
    (l.foldl (fun db kfvPair => db.hsetAll (f kfvPair.1) kfvPair.2.toList) db).hgetall name
      = db.hgetall name := by
  induction l generalizing db with
  | nil => rfl
  | cons x l ih =>
    rw [List.foldl_cons, ih fun y hy => h y (by simp [hy]), Db.hgetall_hsetAll,
      if_neg (h x (by simp))]

theorem smembers_foldl {f : String → String} :
    (l.foldl (fun db kfvPair => db.hsetAll (f kfvPair.1) kfvPair.2.toList) db).smembers name
      = db.smembers name := by
  induction l generalizing db with
  | nil => rfl
  | cons x l ih => rw [List.foldl_cons, ih, Db.smembers_hsetAll]

/-- No other key is written to the pending hash of `k`. -/
theorem stateHash_ne {k' : String} (hne : k' ≠ k) :
    t.getStateHashPrefix ++ t.getKeyName k' ≠ t.stateHashName k := by
  by_cases hserves : t.Serves k'
  · rw [hserves.stateHash]
    simpa using hne
  · exact (TableBase.stray_of_not_serves hserves).stateHashName k

/-- A served object of the view is merged into its pending hash. -/
theorem hgetall_foldl_of_mem {m : TableMap} (hl : (l.map Prod.fst).Nodup) (hm : (k, m) ∈ l)
    (hk : t.Serves k) :
    (l.foldl (fun db kfvPair => db.hsetAll (t.getStateHashPrefix ++ t.getKeyName kfvPair.1)
      kfvPair.2.toList) db).hgetall (t.stateHashName k) = db.hgetall (t.stateHashName k) ∪ m := by
  obtain ⟨before, after, rfl⟩ := List.append_of_mem hm
  rw [List.map_append, List.map_cons, List.nodup_append] at hl
  obtain ⟨-, hafter, hdisjoint⟩ := hl
  have hbefore : ∀ x ∈ before, t.getStateHashPrefix ++ t.getKeyName x.1 ≠ t.stateHashName k :=
    fun x hx => stateHash_ne (hdisjoint _ (List.mem_map_of_mem hx) k (by simp))
  have hrest : ∀ x ∈ after, t.getStateHashPrefix ++ t.getKeyName x.1 ≠ t.stateHashName k := by
    intro x hx
    refine stateHash_ne ?_
    rintro rfl
    exact (List.nodup_cons.mp hafter).1 (List.mem_map.mpr ⟨x, hx, rfl⟩)
  rw [List.foldl_append, List.foldl_cons,
    hgetall_foldl_of_forall_ne (f := fun k => t.getStateHashPrefix ++ t.getKeyName k) hrest,
    hk.stateHash, Db.hgetall_hsetAll, if_pos rfl,
    hgetall_foldl_of_forall_ne (f := fun k => t.getStateHashPrefix ++ t.getKeyName k) hbefore,
    merge_toList]

/-- The objects sent are pending under their keys if these are served; the keys to
set and to remove join the two sets. -/
theorem queue_applyViewEffect :
    t.queue (applyViewEffect t d db) =
      { content := (t.queue db).content
        pending := fun k => (t.queue db).pending k
          ∪ if t.Serves k then d.tempView[k]?.getD ∅ else ∅
        keySet := (t.queue db).keySet ∪ d.keysToSet.toFinset
        delSet := (t.queue db).delSet ∪ d.keysToDel.toFinset } := by
  have hother : ∀ name : String, (∀ k, t.getStateHashPrefix ++ t.getKeyName k ≠ name) →
      (applyViewEffect t d db).hgetall name = db.hgetall name := by
    intro name hname
    rw [applyViewEffect, Db.hgetall_publish,
      hgetall_foldl_of_forall_ne (f := fun k => t.getStateHashPrefix ++ t.getKeyName k)
        fun x _ => hname x.1]
    simp
  simp only [TableBase.queue, ChangeQueue.mk.injEq]
  refine ⟨?_, ?_, ?_, ?_⟩
  · funext k
    refine hother _ fun k' => ?_
    by_cases hserves : t.Serves k'
    · rw [hserves.stateHash]
      exact TableBase.stateHashName_ne_hashName
    · exact (TableBase.stray_of_not_serves hserves).hashName k
  · funext k
    by_cases hk : t.Serves k
    · rw [if_pos hk]
      rcases hm : d.tempView[k]? with - | m
      · rw [applyViewEffect, Db.hgetall_publish,
          hgetall_foldl_of_forall_ne (f := fun k => t.getStateHashPrefix ++ t.getKeyName k)]
        · simp [union_empty]
        · rintro ⟨k', m⟩ hx
          refine stateHash_ne ?_
          rintro rfl
          rw [ExtTreeMap.mem_toList_iff_getElem?_eq_some.mp hx] at hm
          exact absurd hm (by simp)
      · rw [applyViewEffect, Db.hgetall_publish, hgetall_foldl_of_mem
          ProducerStateTable.nodup_fst_toList
          (ExtTreeMap.mem_toList_iff_getElem?_eq_some.mpr hm) hk]
        simp
    · rw [if_neg hk, union_empty]
      refine hother _ fun k' => ?_
      rcases eq_or_ne k' k with rfl | hne
      · exact (TableBase.stray_of_not_serves hk).stateHashName k'
      · exact stateHash_ne hne
  · rw [applyViewEffect, Db.smembers_publish,
      smembers_foldl (f := fun k => t.getStateHashPrefix ++ t.getKeyName k)]
    simp
  · rw [applyViewEffect, Db.smembers_publish,
      smembers_foldl (f := fun k => t.getStateHashPrefix ++ t.getKeyName k)]
    simp

end Queue

/-! ### The switch, key by key -/

section Switch

open ProducerStateTable (Diff diff Lacks Represents mem_keysToSet mem_keysToDel diff_tempView)

variable {t : TableBase} {p : ProducerStateTable} {db : Db} {k : String} {old new : Hash}
  {current view : TableDump} {store target : String → Hash}

/-- The condition on a served or unserved key with the object `old` in the table and
the object `new` in the view. -/
def Switchable (t : TableBase) (k : String) (old new : Hash) : Prop :=
  new = ∅ ∨
  ("NULL" ∉ old ∧ (t.Serves k ∨ old = new)) ∨
  ("NULL" ∈ old ∧ t.Serves k ∧
    ("NULL" ∈ new ∧ old ≠ new ∨ ∃ f ∈ old, f ≠ "NULL" ∧ f ∉ new))

/-- What a dump has for the object `old`. -/
def dumped (old : Hash) : Option TableMap := if old = ∅ then none else some (old.erase "NULL")

/-- What a view has for the object `new`. -/
def viewed (new : Hash) : Option TableMap := if new = ∅ then none else some new

theorem getD_viewed : (viewed new).getD ∅ = new := by
  unfold viewed
  split
  · next he => exact he.symm
  · rfl

/-- A dumped object lacks a field in the view. -/
theorem lacks_iff {gone : Prop} (hnew : new ≠ ∅) (hold : old ≠ ∅)
    (hgone : gone ↔ ∃ o, dumped old = some o ∧ Lacks o (viewed new)) :
    gone ↔ ∃ f ∈ old, f ≠ "NULL" ∧ f ∉ new := by
  rw [hgone]
  simp only [dumped, viewed, hold, hnew, if_false, Option.some.injEq, exists_eq_left', Lacks,
    forall_eq', ExtTreeMap.mem_erase, ne_eq, Std.compare_eq_iff_eq]
  constructor
  · rintro ⟨f, ⟨hne, hf⟩, hnot⟩
    exact ⟨f, hf, Ne.symm hne, hnot⟩
  · rintro ⟨f, hf, hne, hnot⟩
    exact ⟨f, ⟨Ne.symm hne, hf⟩, hnot⟩

theorem viewed_eq_dumped_iff (hnew : new ≠ ∅) (hold : old ≠ ∅) :
    viewed new = dumped old ↔ new = old.erase "NULL" := by
  simp [viewed, dumped, hnew, hold]

/-- Without a NULL field the comparison is exact, and only an unserved key fails. -/
theorem switched_of_not_mem {gone : Prop} [Decidable gone] (hnew : new ≠ ∅)
    (hnull : "NULL" ∉ old) (hg : gone ↔ ∃ f ∈ old, f ≠ "NULL" ∧ f ∉ new) :
    (if gone then ∅ else old) ∪ (if t.Serves k ∧ new ≠ old then new else ∅) = new ↔
      t.Serves k ∨ old = new := by
  rcases eq_or_ne new old with rfl | hne
  · have hnot : ¬ gone := by
      rw [hg]
      rintro ⟨f, hf, -, hnot⟩
      exact hnot hf
    simp [hnot, union_empty]
  by_cases hgone : gone
  · by_cases hk : t.Serves k
    · simp [hgone, hk, hne, empty_union]
    · simp [hgone, hk, hne, union_empty, Ne.symm hnew, Ne.symm hne]
  · have hsub : ∀ f ∈ old, f ∈ new := by
      intro f hf
      by_contra hnot
      refine hgone (hg.mpr ⟨f, hf, ?_, hnot⟩)
      rintro rfl
      exact hnull hf
    by_cases hk : t.Serves k
    · simp [hgone, hk, hne, union_eq_right_iff.mpr hsub]
    · simp [hgone, hk, union_empty]

/-- A NULL field is not compared: it must be in the new object too, or go with
another field. -/
theorem switched_of_mem {gone : Prop} [Decidable gone] (hnew : new ≠ ∅)
    (hnull : "NULL" ∈ old) (hg : gone ↔ ∃ f ∈ old, f ≠ "NULL" ∧ f ∉ new) :
    ((if gone then ∅ else old)
        ∪ (if t.Serves k ∧ new ≠ old.erase "NULL" then new else ∅) = new
        ∧ (old = new → new = old.erase "NULL")) ↔
      t.Serves k ∧ ("NULL" ∈ new ∧ old ≠ new ∨ gone) := by
  have herase : "NULL" ∉ old.erase "NULL" := by simp
  by_cases hgone : gone
  · have hne : new ≠ old.erase "NULL" := by
      obtain ⟨f, hf, hfnull, hnot⟩ := hg.mp hgone
      rintro rfl
      exact hnot (by simpa [Std.compare_eq_iff_eq, Ne.symm hfnull] using hf)
    have hold : old ≠ new := by
      obtain ⟨f, hf, -, hnot⟩ := hg.mp hgone
      rintro rfl
      exact hnot hf
    by_cases hk : t.Serves k
    · simp [hgone, hk, hne, hold, empty_union]
    · simp [hgone, hk, union_empty, Ne.symm hnew]
  · have hsub : (∀ f ∈ old, f ∈ new) ↔ "NULL" ∈ new := by
      refine ⟨fun h => h _ hnull, ?_⟩
      intro hnew f hf
      by_contra hnot
      refine hgone (hg.mpr ⟨f, hf, ?_, hnot⟩)
      rintro rfl
      exact hnot hnew
    by_cases hsame : new = old.erase "NULL"
    · have hnot : "NULL" ∉ new := hsame ▸ herase
      have hold : old ≠ new := by
        rintro rfl
        exact hnot hnull
      constructor
      · rintro ⟨h, -⟩
        rw [if_neg hgone, if_neg fun hand => hand.2 hsame, union_empty] at h
        exact absurd h hold
      · rintro ⟨-, hand | hgone'⟩
        · exact absurd hand.1 hnot
        · exact absurd hgone' hgone
    · by_cases hk : t.Serves k
      · simp [hgone, hk, hsame, union_eq_right_iff, hsub]
      · simp only [hgone, hk, hsame, if_false, false_and, union_empty, imp_false]
        tauto

/-- **The exact condition**: the key gets the new object, and is left alone if it has
that already. -/
theorem switched_key_iff {gone : Prop} [Decidable gone]
    (hgone : gone ↔ ∃ o, dumped old = some o ∧ Lacks o (viewed new)) :
    ((if gone then ∅ else old) ∪ (if t.Serves k ∧ viewed new ≠ dumped old then new else ∅) = new
        ∧ (old = new → viewed new = dumped old)) ↔ Switchable t k old new := by
  by_cases hnew : new = ∅
  · subst hnew
    by_cases hold : old = ∅
    · simp [Switchable, hold, viewed, dumped, union_empty]
    · have hg : gone := hgone.mpr ⟨old.erase "NULL", by simp [dumped, hold], by simp [Lacks, viewed]⟩
      simp [Switchable, hold, hg, union_empty]
  by_cases hold : old = ∅
  · subst hold
    have hg : ¬ gone := by
      rw [hgone]
      simp [dumped]
    by_cases hk : t.Serves k
    · simp [Switchable, hg, hk, viewed, dumped, hnew, empty_union, Ne.symm hnew]
    · simp [Switchable, hg, hk, hnew, empty_union, Ne.symm hnew]
  have hg := lacks_iff hnew hold hgone
  simp only [ne_eq, viewed_eq_dumped_iff hnew hold]
  by_cases hnull : "NULL" ∈ old
  · refine (switched_of_mem hnew hnull hg).trans ?_
    rw [hg]
    simp [Switchable, hnew, hnull]
  · rw [erase_of_not_mem hnull, and_iff_left fun h => h.symm, switched_of_not_mem hnew hnull hg]
    simp [Switchable, hnew, hnull]

/-! ### The switch and the draining -/

/-- The hashes of a table under `T:` are untouched by `clear`. -/
theorem hashesOnly_clearEffect : t.HashesOnly (clearEffect t db) ↔ t.HashesOnly db := by
  refine forall_congr' fun k => ?_
  rw [clearEffect, Db.smembers_del, if_neg (Ne.symm TableBase.hashName_ne_delKeySetName),
    Db.smembers_delAll_keys, startsWith_hashName]
  simp [Ne.symm TableBase.hashName_ne_keySetName]

/-- **What a switch leaves in the queue.** -/
theorem applyTempView_queue (hactive : p.tempViewActive = true)
    (hview : Represents p.tempViewState target) (hhashes : p.table.HashesOnly db) :
    ∃ p' db', p.applyTempView db = some (p', db') ∧
      (∀ k, (p.table.queue db').content k = (p.table.queue db).content k) ∧
      (∀ k, (p.table.queue db').pending k = if p.table.Serves k ∧
        viewed (target k) ≠ dumped ((p.table.queue db).content k) then target k else ∅) ∧
      (∀ k, k ∈ (p.table.queue db').keySet ↔
        viewed (target k) ≠ dumped ((p.table.queue db).content k)) ∧
      (∀ k, k ∈ (p.table.queue db').delSet ↔
        ∃ o, dumped ((p.table.queue db).content k) = some o ∧ Lacks o (viewed (target k))) := by
  obtain ⟨current, hdump, hcurrent⟩ :=
    TableBase.dump_eq_some (hashesOnly_clearEffect.mpr hhashes)
  have hclear : p.table.queue (clearEffect p.table db) = (p.table.queue db).clear :=
    queue_clearEffect
  have hcontent : ∀ k, (clearEffect p.table db).hgetall (p.table.hashName k)
      = (p.table.queue db).content k := fun k => congrFun (congrArg ChangeQueue.content hclear) k
  have hcur : ∀ k, current[k]? = dumped ((p.table.queue db).content k) := by
    intro k
    rw [hcurrent, hcontent, dumped]
  refine ⟨{ p with tempViewActive := false, tempViewState := ∅ },
    applyViewEffect p.table (diff current p.tempViewState) (clearEffect p.table db), ?_, ?_⟩
  · rw [ProducerStateTable.applyTempView, if_pos hactive, evalClear_eq]
    simp only [Option.bind_eq_bind, Option.bind_some, hdump, evalApplyView_eq]
  rw [queue_applyViewEffect, hclear]
  refine ⟨fun _ => rfl, ?_, ?_, ?_⟩
  · intro k
    have hv : p.tempViewState[k]? = viewed (target k) := hview k
    simp only [ChangeQueue.clear, empty_union, diff_tempView, hv, hcur]
    by_cases hk : p.table.Serves k
    · by_cases hsame : viewed (target k) = dumped ((p.table.queue db).content k)
      · simp [hsame]
      · simp [hk, hsame, getD_viewed]
    · simp [hk]
  · intro k
    simp [ChangeQueue.clear, mem_keysToSet, hcur, hview k, viewed]
  · intro k
    simp [ChangeQueue.clear, mem_keysToDel, hcur, hview k, viewed]

/-- Only the consumer acts. -/
def Event.IsPops : Event → Prop
  | .pops _ _ => True
  | _ => False

/-- Popping until the key set is empty carries out everything pending. -/
theorem content_of_drained {told : List Delivery} {es : List Event} {s : System}
    (htidy : (t.queue db).Tidy)
    (h : Run (Guarded (fun _ e => e.IsPops) (Step t)) ⟨db, told⟩ es s)
    (hempty : s.db.smembers t.getKeySetName = ∅) :
    s.db.hgetall (t.hashName k) = (t.queue db).overlay k := by
  have hinv : (t.queue s.db).Tidy ∧ (t.queue s.db).overlay = (t.queue db).overlay := by
    refine h.keeps (I := fun s => (t.queue s.db).Tidy ∧
      (t.queue s.db).overlay = (t.queue db).overlay) ?_ ?_
    · exact ⟨htidy, rfl⟩
    rintro s₁ e s₂ ⟨htidy, hoverlay⟩ ⟨hpops, hstep⟩
    cases e with
    | pops n popped =>
      rw [hstep.of_pops.2.2.1]
      exact ⟨htidy.popAll, ChangeQueue.overlay_popAll.trans hoverlay⟩
    | set key values => exact absurd hpops id
    | del key => exact absurd hpops id
  rw [← hinv.2, (hinv.1.idle hempty).overlay]
  rfl

/-- The key set can be drained. -/
theorem exists_drain (db : Db) :
    ∃ es s, Run (Guarded (fun _ e => e.IsPops) (Step t)) ⟨db, []⟩ es s ∧
      s.db.smembers t.getKeySetName = ∅ := by
  by_cases hempty : db.smembers t.getKeySetName = ∅
  · exact ⟨[], _, .nil, hempty⟩
  · obtain ⟨s, hstep⟩ : ∃ s, Step t ⟨db, []⟩ (.pops (db.scard t.getKeySetName)
        (db.smembers t.getKeySetName).toList) s :=
      ⟨_, .pops (Finset.card_pos.mpr (Finset.nonempty_iff_ne_empty.mpr hempty))
        ⟨Finset.nodup_toList _, fun m hm => Finset.mem_toList.mp hm, by simp [Db.scard]⟩
        evalPops_eq⟩
    have hkeys : s.db.smembers t.getKeySetName = db.smembers t.getKeySetName
        \ (db.smembers t.getKeySetName).toList.toFinset :=
      congrArg ChangeQueue.keySet hstep.of_pops.2.2.1
    have hrun : Run (Guarded (fun _ e => e.IsPops) (Step t)) ⟨db, []⟩
        [.pops (db.scard t.getKeySetName) (db.smembers t.getKeySetName).toList] s :=
      Run.single ⟨trivial, hstep⟩
    exact ⟨_, s, hrun, by simpa using hkeys⟩

/-- The view is switched: however the key set is drained, the table then holds the
target, and a key that has its target object already is not queued. -/
structure Switched (t : TableBase) (old target : String → Hash) (db : Db) : Prop where
  drained : ∀ es s, Run (Guarded (fun _ e => e.IsPops) (Step t)) ⟨db, []⟩ es s →
    s.db.smembers t.getKeySetName = ∅ → ∀ k, s.db.hgetall (t.hashName k) = target k
  quiet : ∀ k, old k = target k → k ∉ db.smembers t.getKeySetName

theorem switched_iff_overlay (htidy : (t.queue db).Tidy) :
    Switched t store target db ↔ ∀ k, (t.queue db).overlay k = target k ∧
      (store k = target k → k ∉ (t.queue db).keySet) := by
  constructor
  · rintro ⟨hdrained, hquiet⟩ k
    obtain ⟨es, s, hrun, hempty⟩ := exists_drain (t := t) db
    refine ⟨?_, hquiet k⟩
    rw [← content_of_drained htidy hrun hempty]
    exact hdrained es s hrun hempty k
  · intro h
    refine ⟨?_, fun k => (h k).2⟩
    intro es s hrun hempty k
    rw [content_of_drained htidy hrun hempty]
    exact (h k).1

/-- The switch of one producer, read off the queue. -/
theorem switched_iff_switchable (hactive : p.tempViewActive = true)
    (hview : Represents p.tempViewState target) (hhashes : p.table.HashesOnly db) :
    ∃ p' db', p.applyTempView db = some (p', db') ∧
      (Switched p.table (p.table.queue db).content target db' ↔
        ∀ k, Switchable p.table k ((p.table.queue db).content k) (target k)) := by
  obtain ⟨p', db', happly, hcontent, hpending, hkeySet, hdelSet⟩ :=
    applyTempView_queue hactive hview hhashes
  have htidy : (p.table.queue db').Tidy := by
    refine ⟨?_, ?_⟩
    · intro k hk
      obtain ⟨o, hold, hlacks⟩ := (hdelSet k).mp hk
      refine (hkeySet k).mpr fun hsame => ?_
      obtain ⟨f, hf, hnot⟩ := hlacks o (hsame.trans hold)
      exact hnot hf
    · intro k hk
      rw [hpending] at hk
      by_cases hand : p.table.Serves k ∧
          viewed (target k) ≠ dumped ((p.table.queue db).content k)
      · exact (hkeySet k).mpr hand.2
      · exact absurd (if_neg hand) hk
  refine ⟨p', db', happly, (switched_iff_overlay htidy).trans (forall_congr' fun k => ?_)⟩
  rw [← switched_key_iff (hdelSet k), ChangeQueue.overlay, hcontent, hpending, hkeySet]
  simp

end Switch

end Swss
