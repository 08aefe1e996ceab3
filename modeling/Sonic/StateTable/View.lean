/-
StateTable/View.lean

What the consumer knows about the table.

The consumer is told a sequence of tuples, and replays them on a map of its own:
SET merges fields, DEL removes the object.  A removal that is coalesced with
fields set after it arrives as one SET tuple, so the consumer's map keeps the
fields that the removal took out of the table (`view_not_exact`).  By design the
SET tuple of such a key carries the whole object.  `ViewMatches` states what the
consumer can rely on: its map contains the table, it equals the table at every
key without such a coalesced tuple since the key's last DEL, a DEL tuple means
that the key is gone, and a coalesced SET tuple is the whole object.
-/
import Sonic.StateTable.Runs

namespace Swss

open Redis ObjectStore FieldMap
open Transition (Run Guarded)

/-- The consumer's map: the tuples replayed on what the table held at first. -/
def view (store : String → Hash) (told : List Delivery) : String → Hash :=
  replay store (told.map (·.tuple.call))

/-- The tuples of one key. -/
def deliveriesOf (told : List Delivery) (k : String) : List Delivery :=
  told.filter (·.tuple.kfvKey = k)

/-- Among the tuples of a key is a coalesced one, and no DEL after it. -/
def drifted (deliveries : List Delivery) : Bool :=
  deliveries.foldl
    (fun drifted d => if d.tuple.kfvOp = DEL_COMMAND then false else drifted || d.coalesced) false

/-- What holds of one key: `content` is its hash in the table, `seen` its object
in the consumer's map, and `deliveries` are the tuples the consumer has got. -/
structure KeyMatches (content seen : Hash) (deliveries : List Delivery) : Prop where
  contains : ∀ f v : String, content[f]? = some v → seen[f]? = some v
  exact : drifted deliveries = false → seen = content
  last_del : ∀ d, deliveries.getLast? = some d → d.tuple.kfvOp = DEL_COMMAND → content = ∅
  last_coalesced : ∀ d, deliveries.getLast? = some d → d.coalesced = true →
    d.tuple.kfvOp = SET_COMMAND ∧ content = merge ∅ d.tuple.kfvFieldsValues

def ViewMatches (t : TableBase) (store : String → Hash) (s : System) : Prop :=
  ∀ k, KeyMatches (s.db.hgetall (t.hashName k)) (view store s.told k) (deliveriesOf s.told k)

/-- The calls of a step are served, and a `set` names at least one field. -/
def TableBase.ServesFields (t : TableBase) : Event → Prop
  | .set key values => t.Serves key ∧ values ≠ []
  | .del _ => True
  | .pops _ _ => True

variable {t : TableBase} {store : String → Hash} {s s' : System} {e : Event} {es : List Event}
  {told : List Delivery} {popped : List String} {k : String}
  {q : ChangeQueue String String String} {seen : Hash} {deliveries : List Delivery}

theorem TableBase.ServesFields.serves (h : t.ServesFields e) : t.ServesEvent e := by
  cases e with
  | set key values => exact Or.inl h.1
  | del key => trivial
  | pops n popped => trivial

/-! ### One tuple -/

/-- What the consumer is told when `k` is popped from the queue `q`. -/
def deliveryOf (q : ChangeQueue String String String) (k : String) : Delivery where
  tuple := readTuple (k, (q.pending k).toList)
  coalesced := k ∈ q.delSet ∧ (q.pending k).toList ≠ []

/-- The tuple of a key says what the queue delivers. -/
theorem call_deliveryOf : (deliveryOf q k).tuple.call = q.deliver k := by
  by_cases hp : q.pending k = ∅ <;>
    simp [deliveryOf, readTuple, KeyOpFieldsValuesTuple.call, ChangeQueue.deliver, hp,
      SET_COMMAND, DEL_COMMAND]

theorem drifted_concat {d : Delivery} :
    drifted (deliveries ++ [d])
      = if d.tuple.kfvOp = DEL_COMMAND then false else drifted deliveries || d.coalesced := by
  simp [drifted]

/-- A key that is popped without fields was marked for removal. -/
theorem KeyMatches.pop_of_eq (hp : q.pending k = ∅) (hdel : k ∈ q.delSet) :
    KeyMatches (q.overlay k) ((q.deliver k).onObject seen) (deliveries ++ [deliveryOf q k]) := by
  have hgone : q.overlay k = ∅ := by
    simp [ChangeQueue.overlay, hdel, hp, union_empty]
  rw [hgone, ChangeQueue.deliver_onObject_of_eq hp]
  refine ⟨by simp, fun _ => rfl, fun _ _ _ => rfl, ?_⟩
  intro d hd hc
  obtain rfl : deliveryOf q k = d := by simpa using hd
  simp [deliveryOf, hp] at hc

/-- A key that is popped with fields: they are merged on both sides, into nothing
in the table if the key was marked for removal. -/
theorem KeyMatches.pop_of_ne (h : KeyMatches (q.content k) seen deliveries)
    (hp : q.pending k ≠ ∅) :
    KeyMatches (q.overlay k) ((q.deliver k).onObject seen) (deliveries ++ [deliveryOf q k]) := by
  have hset : (deliveryOf q k).tuple.kfvOp = SET_COMMAND := by
    simp [deliveryOf, readTuple, hp]
  rw [ChangeQueue.deliver_onObject_of_ne hp]
  refine ⟨?_, ?_, ?_, ?_⟩
  · intro f v
    have hold := h.contains f v
    by_cases hdel : k ∈ q.delSet
    · simp only [ChangeQueue.overlay, hdel, if_true, Std.ExtTreeMap.getElem?_union]
      rcases (q.pending k)[f]? with - | w <;> simp
    · simp only [ChangeQueue.overlay, hdel, if_false, Std.ExtTreeMap.getElem?_union]
      rcases (q.pending k)[f]? with - | w
      · simpa using hold
      · simp
  · intro hdrift
    rw [drifted_concat, hset, if_neg (by decide), Bool.or_eq_false_iff] at hdrift
    have hdel : k ∉ q.delSet := by
      intro hdel
      simp [deliveryOf, hdel, hp] at hdrift
    rw [h.exact hdrift.1, ChangeQueue.overlay, if_neg hdel]
  · intro d hd hop
    obtain rfl : deliveryOf q k = d := by simpa using hd
    rw [hset] at hop
    exact absurd hop (by decide)
  · intro d hd hc
    obtain rfl : deliveryOf q k = d := by simpa using hd
    have hdel : k ∈ q.delSet := by
      simp only [deliveryOf, decide_eq_true_eq] at hc
      exact hc.1
    refine ⟨hset, ?_⟩
    simp [ChangeQueue.overlay, hdel, deliveryOf, readTuple, merge_toList]

/-! ### One pop -/

theorem deliveriesOf_pops (hnodup : popped.Nodup) :
    deliveriesOf (told ++ popped.map (deliveryOf q)) k
      = deliveriesOf told k ++ if k ∈ popped then [deliveryOf q k] else [] := by
  have hkey : (fun d : Delivery => decide (d.tuple.kfvKey = k)) ∘ deliveryOf q
      = fun k' => decide (k' = k) := rfl
  rw [deliveriesOf, List.filter_append, List.filter_map, hkey, List.filter_eq, hnodup.count]
  by_cases hk : k ∈ popped <;> simp [deliveriesOf, hk]

theorem view_pops (hnodup : popped.Nodup) :
    view store (told ++ popped.map (deliveryOf q)) k
      = if k ∈ popped then (q.deliver k).onObject (view store told k) else view store told k := by
  have hcalls : (popped.map (deliveryOf q)).map (·.tuple.call) = popped.map q.deliver := by
    simp [call_deliveryOf]
  rw [view, List.map_append, hcalls, replay_append, replay_apply,
    replayAt_map (fun k => ChangeQueue.key_deliver) hnodup]
  rfl

/-! ### Runs -/

/-- A step keeps every queued key justified. -/
theorem Step.justified (h : Step t s e s') (hserves : t.ServesFields e)
    (hunread : t.Unread s.db) (hjust : (t.queue s.db).Justified) :
    (t.queue s'.db).Justified := by
  cases e with
  | set key values =>
    rw [(h.of_call hserves.serves hunread rfl).1]
    exact hjust.set hserves.2
  | del key =>
    rw [(h.of_call hserves.serves hunread rfl).1]
    exact hjust.del
  | pops n popped =>
    rw [h.of_pops.2.2.1]
    exact hjust.popAll

/-- A step keeps the consumer's map in line with the table. -/
theorem Step.viewMatches (h : Step t s e s') (hserves : t.ServesFields e)
    (hunread : t.Unread s.db) (hjust : (t.queue s.db).Justified)
    (hview : ViewMatches t store s) : ViewMatches t store s' := by
  have hcall : ∀ {c}, t.queue s'.db = (t.queue s.db).issue c ∧ s'.told = s.told →
      ViewMatches t store s' := by
    intro c hc k
    -- a producer call leaves the table as it is
    have hcontent : s'.db.hgetall (t.hashName k) = s.db.hgetall (t.hashName k) := by
      have hk := congrFun (congrArg ChangeQueue.content hc.1) k
      rwa [ChangeQueue.content_issue] at hk
    rw [hcontent, hc.2]
    exact hview k
  cases e with
  | set key values => exact hcall (h.of_call hserves.serves hunread rfl)
  | del key => exact hcall (h.of_call hserves.serves hunread rfl)
  | pops n popped =>
    obtain ⟨hnodup, hqueued, hq, htold⟩ := h.of_pops
    intro k
    have hcontent : s'.db.hgetall (t.hashName k)
        = if k ∈ popped then (t.queue s.db).overlay k else (t.queue s.db).content k :=
      congrFun (congrArg ChangeQueue.content hq) k
    rw [hcontent, htold]
    change KeyMatches _ (view store (s.told ++ popped.map (deliveryOf (t.queue s.db))) k)
      (deliveriesOf (s.told ++ popped.map (deliveryOf (t.queue s.db))) k)
    rw [view_pops hnodup, deliveriesOf_pops hnodup]
    by_cases hk : k ∈ popped
    · simp only [hk, if_true]
      by_cases hp : (t.queue s.db).pending k = ∅
      · exact .pop_of_eq hp ((hjust k (hqueued k hk)).resolve_right (not_not_intro hp))
      · exact (hview k).pop_of_ne hp
    · simp only [hk, if_false, List.append_nil]
      exact hview k

/-- **What the consumer can rely on**, in every state of a run that is served. -/
theorem viewMatches_of_run (hidle : (t.queue s.db).Idle) (htold : s.told = [])
    (h : Run (Guarded (fun _ e => t.ServesFields e) (Step t)) s es s') :
    ViewMatches t (fun key => s.db.hgetall (t.hashName key)) s' := by
  have hstart : ViewMatches t (fun key => s.db.hgetall (t.hashName key)) s := by
    intro k
    rw [htold]
    exact ⟨fun _ _ hv => hv, fun _ => rfl, by simp [deliveriesOf], by simp [deliveriesOf]⟩
  have hinv : ((t.queue s'.db).Tidy ∧ t.Unread s'.db) ∧ (t.queue s'.db).Justified ∧
      ViewMatches t (fun key => s.db.hgetall (t.hashName key)) s' := by
    refine h.keeps (I := fun s' => ((t.queue s'.db).Tidy ∧ t.Unread s'.db) ∧
      (t.queue s'.db).Justified ∧ ViewMatches t (fun key => s.db.hgetall (t.hashName key)) s')
      ?_ ?_
    · exact ⟨⟨hidle.tidy, fun key _ => hidle.pending key⟩, hidle.justified, hstart⟩
    intro s₁ e s₂ hI hstep
    obtain ⟨htidy, hjust, hview⟩ := hI
    exact ⟨hstep.2.tidy hstep.1.serves htidy, hstep.2.justified hstep.1 htidy.2 hjust,
      hstep.2.viewMatches hstep.1 htidy.2 hjust hview⟩
  exact hinv.2.2

/-- The run of the theorem at work: a key is removed, set again and popped. -/
theorem viewMatches_of_run_del_set_pop :
    ViewMatches ⟨APPL_DB, "T"⟩ (fun _ => ∅)
      (System.receive
        ⟨setEffect ⟨APPL_DB, "T"⟩ "k" [("b", "2")] (delEffect ⟨APPL_DB, "T"⟩ "k" Db.empty), []⟩
        ⟨APPL_DB, "T"⟩
        (popsEffect ⟨APPL_DB, "T"⟩ ["k"] (setEffect ⟨APPL_DB, "T"⟩ "k" [("b", "2")]
          (delEffect ⟨APPL_DB, "T"⟩ "k" Db.empty))).1
        [⟨"k", SET_COMMAND, [("b", "2")]⟩]) := by
  have hdel : Step ⟨APPL_DB, "T"⟩ ⟨Db.empty, []⟩ (.del "k")
      ⟨delEffect ⟨APPL_DB, "T"⟩ "k" Db.empty, []⟩ := .del evalDel_eq
  have hset : Step ⟨APPL_DB, "T"⟩ ⟨delEffect ⟨APPL_DB, "T"⟩ "k" Db.empty, []⟩
      (.set "k" [("b", "2")])
      ⟨setEffect ⟨APPL_DB, "T"⟩ "k" [("b", "2")] (delEffect ⟨APPL_DB, "T"⟩ "k" Db.empty), []⟩ :=
    .set evalSet_eq
  have hspop : (setEffect ⟨APPL_DB, "T"⟩ "k" [("b", "2")]
      (delEffect ⟨APPL_DB, "T"⟩ "k" Db.empty)).IsSpop
        (TableBase.getKeySetName ⟨APPL_DB, "T"⟩) 1 ["k"] := ⟨by decide, by decide, by decide⟩
  have hrun : Run (Guarded (fun _ e => TableBase.ServesFields ⟨APPL_DB, "T"⟩ e)
      (Step ⟨APPL_DB, "T"⟩)) ⟨Db.empty, []⟩
      ([.del "k"] ++ [.set "k" [("b", "2")]] ++ [.pops 1 ["k"]]) _ :=
    ((Run.single ⟨trivial, hdel⟩).snoc ⟨⟨⟨by decide, by decide⟩, by decide⟩, hset⟩).snoc
      ⟨trivial, .pops Nat.one_pos hspop
        (evalPops_eq.trans (congrArg some (Prod.ext rfl (by decide))))⟩
  exact viewMatches_of_run idle_empty rfl hrun

/-- **The consumer's map is not the table**: the table holds `a`, the key is
removed and set again with `b` before it is popped, and the one tuple the consumer
gets, SET with `b`, leaves `a` in its map. -/
theorem view_not_exact :
    (TableBase.queue ⟨APPL_DB, "T"⟩ (Db.empty.hset "T:k" "a" "1")).Idle ∧
      ∃ s, Run (Step ⟨APPL_DB, "T"⟩) ⟨Db.empty.hset "T:k" "a" "1", []⟩
          [.del "k", .set "k" [("b", "2")], .pops 1 ["k"]] s ∧
        view (fun key => (Db.empty.hset "T:k" "a" "1").hgetall ("T:" ++ key)) s.told "k"
          ≠ s.db.hgetall "T:k" := by
  refine ⟨⟨?_, rfl, rfl⟩, _,
    ((Run.single (.pops Nat.one_pos ⟨by decide, by decide, by decide⟩ evalPops_eq)).cons
      (.set evalSet_eq)).cons (.del evalDel_eq), by decide⟩
  intro k
  have hne : TableBase.hashName ⟨APPL_DB, "T"⟩ "k" ≠ TableBase.stateHashName ⟨APPL_DB, "T"⟩ k :=
    TableBase.hashName_ne_stateHashName
  exact Db.hgetall_hset.trans (if_neg hne)

end Swss
