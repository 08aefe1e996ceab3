/-
StateTable/Runs.lean

Producers and the consumer of one state table, run against each other.

The calls of the producers and the pops of the consumer are atomic scripts, so a
run is any interleaving of them.  The state is the database together with
everything the consumer has been told so far.

A key is *served* when the producer writes it where the consumer reads it
(`TableBase.Serves`).  In runs whose calls are all served the database converges:
the overlay of table and pending fields is the history of calls replayed
(`converged_of_run`).  The empty key is not served; its fields are written to
`_T` and never read (`not_converged_of_empty_key`).
-/
import Sonic.Lib.Transition
import Sonic.Common.StateTable

namespace Swss

open Redis ObjectStore
open Transition (Run Guarded)

/-! ### The system -/

/-- One step of a run: a call of some producer, or a pop with its batch size and
the keys the server picks. -/
inductive Event
  | set (key : String) (values : List FieldValueTuple)
  | del (key : String)
  | pops (popBatchSize : ℕ) (popped : List String)

/-- A tuple handed to the consumer.  `coalesced` is for the specification only: the
key was marked for removal and came with fields set after that. -/
structure Delivery where
  tuple : KeyOpFieldsValuesTuple
  coalesced : Bool

structure System where
  db : Db
  told : List Delivery

/-- The consumer receives the tuples of a pop. -/
def System.receive (s : System) (t : TableBase) (db : Db)
    (tuples : List KeyOpFieldsValuesTuple) : System where
  db := db
  told := s.told ++ tuples.map fun tuple =>
    { tuple
      coalesced := tuple.kfvKey ∈ s.db.smembers t.getDelKeySetName
        ∧ tuple.kfvFieldsValues ≠ [] }

inductive Step (t : TableBase) : System → Event → System → Prop
  | set {s : System} {key : String} {values : List FieldValueTuple} {db : Db} :
      evalSet t key values s.db = some db →
      Step t s (.set key values) { s with db }
  | del {s : System} {key : String} {db : Db} :
      evalDel t key s.db = some db →
      Step t s (.del key) { s with db }
  | pops {s : System} {popBatchSize : ℕ} {popped : List String} {db : Db}
      {tuples : List KeyOpFieldsValuesTuple} :
      0 < popBatchSize →
      s.db.IsSpop t.getKeySetName popBatchSize popped →
      evalPops t popBatchSize popped s.db = some (db, tuples) →
      Step t s (.pops popBatchSize popped) (s.receive t db tuples)

/-- The call on the table an event issues. -/
def Event.call? : Event → Option (Call String String String)
  | .set key values => some (.set key values)
  | .del key => some (.del key)
  | .pops _ _ => none

/-- The calls issued in a run, in order. -/
def issued (es : List Event) : List (Call String String String) :=
  es.filterMap Event.call?

/-- The fields of a call, if any, reach a hash the consumer reads. -/
def TableBase.ServesEvent (t : TableBase) : Event → Prop
  | .set key values => t.Serves key ∨ values = []
  | .del _ => True
  | .pops _ _ => True

/-- Nothing is pending for a key that is not served. -/
def TableBase.Unread (t : TableBase) (db : Db) : Prop :=
  ∀ key, ¬ t.Serves key → (t.queue db).pending key = ∅

variable {t : TableBase} {s s' : System} {e : Event} {es : List Event}

/-! ### What a step does to the queue -/

/-- A producer call acts on the queue and tells the consumer nothing. -/
theorem Step.of_call {c : Call String String String} (h : Step t s e s')
    (hserves : t.ServesEvent e) (hunread : t.Unread s.db) (hc : e.call? = some c) :
    t.queue s'.db = (t.queue s.db).issue c ∧ s'.told = s.told := by
  cases h with
  | set heval =>
    obtain rfl := Option.some.inj hc
    rw [evalSet_eq] at heval
    obtain rfl := Option.some.inj heval
    exact ⟨queue_setEffect hserves, rfl⟩
  | del heval =>
    obtain rfl := Option.some.inj hc
    rw [evalDel_eq] at heval
    obtain rfl := Option.some.inj heval
    exact ⟨queue_delEffect (or_iff_not_imp_left.mpr (hunread _)), rfl⟩
  | pops => exact absurd hc (by simp [Event.call?])

/-- A pop carries out the requests of the popped keys and tells the consumer the
pending fields of each. -/
theorem Step.of_pops {n : ℕ} {popped : List String} (h : Step t s (.pops n popped) s') :
    popped.Nodup ∧ (∀ k ∈ popped, k ∈ (t.queue s.db).keySet) ∧
      t.queue s'.db = (t.queue s.db).popAll popped ∧
      s'.told = s.told ++ popped.map fun k =>
        { tuple := readTuple (k, ((t.queue s.db).pending k).toList)
          coalesced := k ∈ (t.queue s.db).delSet
            ∧ ((t.queue s.db).pending k).toList ≠ [] } := by
  cases h with
  | pops _ hspop heval =>
    rw [evalPops_eq, reply_popsEffect hspop.nodup] at heval
    obtain ⟨rfl, rfl⟩ := Prod.mk.inj (Option.some.inj heval)
    refine ⟨hspop.nodup, hspop.subset, queue_popsEffect, ?_⟩
    simp only [System.receive, List.map_map]
    rfl

/-! ### Convergence -/

/-- The table overlaid with what is pending is the history replayed, marks for
removal are queued, and an empty key set means that nothing is pending. -/
structure Converged (t : TableBase) (store : String → Hash)
    (calls : List (Call String String String)) (db : Db) : Prop where
  overlay : ∀ key,
    (if key ∈ db.smembers t.getDelKeySetName then ∅ else db.hgetall (t.hashName key))
        ∪ db.hgetall (t.stateHashName key)
      = replay store calls key
  delSet_subset : db.smembers t.getDelKeySetName ⊆ db.smembers t.getKeySetName
  drained : db.smembers t.getKeySetName = ∅ → ∀ key, db.hgetall (t.stateHashName key) = ∅

/-- Convergence, read off the queue. -/
theorem converged_of_queue {store : String → Hash} {calls : List (Call String String String)}
    {db : Db} (htidy : (t.queue db).Tidy) (hoverlay : (t.queue db).overlay = replay store calls) :
    Converged t store calls db where
  overlay key := congrFun hoverlay key
  delSet_subset := htidy.delSet_subset
  drained hempty := (htidy.idle hempty).pending

/-- A step keeps the queue tidy and leaves nothing pending that is not served. -/
theorem Step.tidy (h : Step t s e s') (hserves : t.ServesEvent e)
    (hinv : (t.queue s.db).Tidy ∧ t.Unread s.db) :
    (t.queue s'.db).Tidy ∧ t.Unread s'.db := by
  obtain ⟨htidy, hunread⟩ := hinv
  cases e with
  | set key values =>
    have hq := (h.of_call hserves hunread rfl).1
    refine ⟨hq ▸ htidy.issue, ?_⟩
    intro k hk
    rw [hq]
    rcases eq_or_ne k key with rfl | hne
    · obtain rfl := hserves.resolve_left hk
      simpa [ChangeQueue.issue, ChangeQueue.set] using hunread k hk
    · simpa [ChangeQueue.issue, ChangeQueue.set, hne] using hunread k hk
  | del key =>
    have hq := (h.of_call hserves hunread rfl).1
    refine ⟨hq ▸ htidy.issue, ?_⟩
    intro k hk
    rw [hq]
    rcases eq_or_ne k key with rfl | hne
    · simp [ChangeQueue.issue, ChangeQueue.del]
    · simpa [ChangeQueue.issue, ChangeQueue.del, hne] using hunread k hk
  | pops n popped =>
    have hq := h.of_pops.2.2.1
    refine ⟨hq ▸ htidy.popAll, ?_⟩
    intro k hk
    rw [hq]
    by_cases hmem : k ∈ popped
    · exact if_pos hmem
    · exact (if_neg hmem).trans (hunread k hk)

/-- A step issues its call on the overlay. -/
theorem Step.overlay {store : String → Hash} (h : Step t s e s')
    (hserves : t.ServesEvent e) (hunread : t.Unread s.db)
    (hoverlay : (t.queue s.db).overlay = replay store (issued es)) :
    (t.queue s'.db).overlay = replay store (issued (es ++ [e])) := by
  rw [issued, List.filterMap_append, replay_append]
  rcases hc : e.call? with - | c
  · cases e with
    | set key values => simp [Event.call?] at hc
    | del key => simp [Event.call?] at hc
    | pops n popped =>
      rw [h.of_pops.2.2.1, ChangeQueue.overlay_popAll, hoverlay]
      rfl
  · rw [(h.of_call hserves hunread hc).1, ChangeQueue.overlay_issue, hoverlay,
      List.filterMap_cons_some hc]
    rfl

/-- **A state table converges in every run whose calls it serves.** -/
theorem converged_of_run (hidle : (t.queue s.db).Idle)
    (h : Run (Guarded (fun _ e => t.ServesEvent e) (Step t)) s es s') :
    Converged t (fun key => s.db.hgetall (t.hashName key)) (issued es) s'.db := by
  have hstart : (t.queue s.db).overlay
      = replay (fun key => s.db.hgetall (t.hashName key)) (issued []) := by
    rw [hidle.overlay]
    rfl
  have hinv : ((t.queue s'.db).Tidy ∧ t.Unread s'.db) ∧ (t.queue s'.db).overlay
      = replay (fun key => s.db.hgetall (t.hashName key)) (issued es) := by
    refine h.invariant (I := fun es s' => ((t.queue s'.db).Tidy ∧ t.Unread s'.db) ∧
      (t.queue s'.db).overlay
        = replay (fun key => s.db.hgetall (t.hashName key)) (issued es)) ?_ ?_
    · refine ⟨⟨hidle.tidy, fun key _ => hidle.pending key⟩, ?_⟩
      exact hstart
    intro es s₁ e s₂ hI hstep
    exact ⟨hstep.2.tidy hstep.1 hI.1, hstep.2.overlay hstep.1 hI.1.2 hI.2⟩
  exact converged_of_queue hinv.1.1 hinv.2

/-- The run of the theorem at work: a key is set and popped. -/
theorem converged_of_run_set_pop :
    Converged ⟨APPL_DB, "T"⟩ (fun _ => ∅) [.set "k" [("f", "v")]]
      (popsEffect ⟨APPL_DB, "T"⟩ ["k"]
        (setEffect ⟨APPL_DB, "T"⟩ "k" [("f", "v")] Db.empty)).1 := by
  have hset : Step ⟨APPL_DB, "T"⟩ ⟨Db.empty, []⟩ (.set "k" [("f", "v")])
      ⟨setEffect ⟨APPL_DB, "T"⟩ "k" [("f", "v")] Db.empty, []⟩ := .set evalSet_eq
  have hspop : (setEffect ⟨APPL_DB, "T"⟩ "k" [("f", "v")] Db.empty).IsSpop
      (TableBase.getKeySetName ⟨APPL_DB, "T"⟩) 1 ["k"] := ⟨by decide, by decide, by decide⟩
  have hrun : Run (Guarded (fun _ e => TableBase.ServesEvent ⟨APPL_DB, "T"⟩ e)
      (Step ⟨APPL_DB, "T"⟩)) ⟨Db.empty, []⟩ ([.set "k" [("f", "v")]] ++ [.pops 1 ["k"]]) _ :=
    (Run.single ⟨Or.inl ⟨by decide, by decide⟩, hset⟩).snoc
      ⟨trivial, .pops Nat.one_pos hspop evalPops_eq⟩
  exact converged_of_run idle_empty hrun

/-- **The empty key is lost**: its fields reach neither the table nor a pending
hash the consumer reads, although the key is queued. -/
theorem not_converged_of_empty_key :
    (TableBase.queue ⟨APPL_DB, "T"⟩ Db.empty).Idle ∧
      ∃ s, Run (Step ⟨APPL_DB, "T"⟩) ⟨Db.empty, []⟩ [.set "" [("f", "v")]] s ∧
        ¬ Converged ⟨APPL_DB, "T"⟩ (fun _ => ∅) (issued [.set "" [("f", "v")]]) s.db := by
  refine ⟨idle_empty, ⟨setEffect ⟨APPL_DB, "T"⟩ "" [("f", "v")] Db.empty, []⟩,
    Run.single (.set evalSet_eq), ?_⟩
  intro h
  exact absurd (h.overlay "") (by decide)

end Swss
