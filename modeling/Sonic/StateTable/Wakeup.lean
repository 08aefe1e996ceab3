/-
StateTable/Wakeup.lean

Does the consumer hear of every queued key?

The producers publish a message when a call has added a key to the key set; the
consumer counts messages and pops one batch for each.  Counter and key set are
not tied to each other: `apply_temp_view` adds any number of keys and publishes
once.  What has to hold is that the wake-ups still to come (messages not yet
delivered, messages counted, and the event the consumer is just serving) are
worth at least as many keys as are queued, a batch each (`Covered`).  `set`,
`del`, `clear` and the whole consumer side keep this; `apply_temp_view` keeps it
if the keys it leaves queued fit into the batches (`FitsBatches`), and strands
keys if they do not (`stranded_key`).

The three scripts of `apply_temp_view` are separate steps: `clear`, the dump,
which changes nothing, and the script that writes the view, whose arguments were
computed from a dump taken earlier.
-/
import Sonic.Lib.Transition
import Sonic.Common.Select
import Sonic.StateTable.ViewSwitch

namespace Swss

open Redis
open Transition (Run Guarded)

namespace Wakeup

/-- Where the consumer stands.  In the constructor: before WATCH, after WATCH, and
after SUBSCRIBE, with a flag that is set when the watched key set is touched.
Then: constructed, in `select`, and between `select` and `pops`. -/
inductive Phase
  | starting
  | watching (dirty : Bool)
  | subscribed (dirty : Bool)
  | constructed
  | selecting
  | serving
  deriving DecidableEq

structure State where
  db : Db
  phase : Phase
  /-- messages published to the current subscription and not read yet -/
  undelivered : ℕ
  select : Select

/-- The consumer before its constructor has run. -/
def start (db : Db) : State :=
  { db, phase := .starting, undelivered := 0, select := ⟨.init, false⟩ }

/-- The consumer has a subscription. -/
def Phase.listens : Phase → Bool
  | .starting | .watching _ => false
  | _ => true

/-- The constructor has returned. -/
def Phase.isConstructed : Phase → Bool
  | .constructed | .selecting | .serving => true
  | _ => false

/-- WATCH notices that a script has touched the key set. -/
def Phase.touch (touched : Bool) : Phase → Phase
  | .watching dirty => .watching (dirty || touched)
  | .subscribed dirty => .subscribed (dirty || touched)
  | phase => phase

/-- A script of a producer has run. -/
def State.afterScript (s : State) (t : TableBase) (db : Db) : State :=
  { s with
    db
    undelivered := if s.phase.listens then
        s.undelivered + (db.published t.getChannelName - s.db.published t.getChannelName)
      else s.undelivered
    phase := s.phase.touch (db.smembers t.getKeySetName ≠ s.db.smembers t.getKeySetName) }

/-- The consumer is registered with `select`. -/
def State.addSelectable (s : State) : State :=
  { s with phase := .selecting, select := s.select.addSelectable }

/-- The consumer has read messages. -/
def State.read (s : State) (messages : ℕ) : State :=
  { s with
    undelivered := s.undelivered - messages
    select := s.select.readData messages }

/-- `select` has looked at the consumer. -/
def State.take (s : State) : State :=
  { s with
    phase := if s.select.take.2 then .serving else .selecting
    select := s.select.take.1 }

inductive Action
  | set (key : String) (values : List FieldValueTuple)
  | del (key : String)
  | clear
  | applyView (currentState tempViewState : TableDump)
  | watch
  | subscribe
  | exec
  | addSelectable
  | read (messages : ℕ)
  | take
  | pops (popped : List String)

/-- The steps of producers and consumer on the table `t`. -/
inductive Step (t : TableBase) (popBatchSize : ℕ) : State → Action → State → Prop
  | set {s : State} {key : String} {values : List FieldValueTuple} {db : Db} :
      evalSet t key values s.db = some db →
      Step t popBatchSize s (.set key values) (s.afterScript t db)
  | del {s : State} {key : String} {db : Db} :
      evalDel t key s.db = some db →
      Step t popBatchSize s (.del key) (s.afterScript t db)
  | clear {s : State} {db : Db} :
      evalClear t s.db = some db →
      Step t popBatchSize s .clear (s.afterScript t db)
  | applyView {s : State} {currentState tempViewState : TableDump} {db : Db} :
      evalApplyView t (ProducerStateTable.diff currentState tempViewState) s.db = some db →
      Step t popBatchSize s (.applyView currentState tempViewState) (s.afterScript t db)
  | watch {s : State} :
      s.phase = .starting →
      Step t popBatchSize s .watch { s with phase := .watching false }
  | subscribe {s : State} {dirty : Bool} :
      s.phase = .watching dirty →
      -- a new connection: what was sent to an old one is gone
      Step t popBatchSize s .subscribe { s with phase := .subscribed dirty, undelivered := 0 }
  | exec {s : State} {dirty : Bool} :
      s.phase = .subscribed dirty →
      Step t popBatchSize s .exec
        (if dirty then { s with phase := .starting }
        else { s with
          phase := .constructed
          select := { s.select with
            object := s.select.object.setQueueLength (s.db.scard t.getKeySetName) } })
  | addSelectable {s : State} :
      s.phase = .constructed →
      Step t popBatchSize s .addSelectable s.addSelectable
  | read {s : State} {messages : ℕ} :
      s.phase = .selecting → 0 < messages → messages ≤ s.undelivered →
      Step t popBatchSize s (.read messages) (s.read messages)
  | take {s : State} :
      s.phase = .selecting → s.select.ready = true →
      Step t popBatchSize s .take s.take
  | pops {s : State} {popped : List String} {db : Db} {tuples : List KeyOpFieldsValuesTuple} :
      s.phase = .serving →
      s.db.IsSpop t.getKeySetName popBatchSize popped →
      evalPops t popBatchSize popped s.db = some (db, tuples) →
      Step t popBatchSize s (.pops popped) { s with db, phase := .selecting }

/-! ### What the consumer still has to come -/

/-- The wake-ups to come: messages not read, messages counted, and the event that is
being served. -/
def State.wakeups (s : State) : ℤ :=
  s.undelivered + s.select.object.queueLength + if s.phase = .serving then 1 else 0

/-- The keys whose objects differ between a dump and a view. -/
def changedKeys (currentState tempViewState : TableDump) : Finset String :=
  (currentState.keys ++ tempViewState.keys).toFinset.filter
    fun k => tempViewState[k]? ≠ currentState[k]?

/-- The keys that are queued after a view is applied are worth no more than the
wake-ups to come and the one of the view. -/
def FitsBatches (t : TableBase) (popBatchSize : ℕ) (s : State) : Action → Prop
  | .applyView currentState tempViewState =>
    s.phase.isConstructed = true →
      ((s.db.smembers t.getKeySetName ∪ changedKeys currentState tempViewState).card : ℤ)
        ≤ popBatchSize * (s.wakeups + 1)
  | _ => True

/-- The queued keys are worth no more than the wake-ups to come. -/
structure Covered (t : TableBase) (popBatchSize : ℕ) (s : State) : Prop where
  nonneg : 0 ≤ s.select.object.queueLength
  sound : s.phase ≠ .constructed → s.select.Sound
  covered : (s.db.scard t.getKeySetName : ℤ) ≤ popBatchSize * s.wakeups

variable {t : TableBase} {popBatchSize : ℕ} {s s' : State} {a : Action}
  {current view : TableDump} {db : Db} {k : String}

theorem mem_changedKeys : k ∈ changedKeys current view ↔ view[k]? ≠ current[k]? := by
  simp only [changedKeys, Finset.mem_filter, List.mem_toFinset, List.mem_append,
    Std.ExtTreeMap.mem_keys, and_iff_right_iff_imp]
  intro hne
  by_contra hnot
  rw [not_or] at hnot
  rw [Std.ExtTreeMap.getElem?_eq_none hnot.1, Std.ExtTreeMap.getElem?_eq_none hnot.2] at hne
  exact hne rfl

theorem keysToSet_toFinset :
    (ProducerStateTable.diff current view).keysToSet.toFinset = changedKeys current view := by
  ext k
  rw [List.mem_toFinset, ProducerStateTable.mem_keysToSet, mem_changedKeys]

theorem keySet_applyViewEffect :
    (applyViewEffect t (ProducerStateTable.diff current view) db).smembers t.getKeySetName
      = db.smembers t.getKeySetName ∪ changedKeys current view := by
  rw [← keysToSet_toFinset]
  exact congrArg ChangeQueue.keySet queue_applyViewEffect

/-- A view is announced once. -/
theorem published_applyViewEffect {d : ProducerStateTable.Diff} :
    (applyViewEffect t d db).published t.getChannelName
      = db.published t.getChannelName + 1 := by
  have hfold : ∀ (l : List (String × TableMap)) (db : Db),
      (l.foldl (fun db kfvPair => db.hsetAll (t.getStateHashPrefix ++ t.getKeyName kfvPair.1)
        kfvPair.2.toList) db).published = db.published := by
    intro l
    induction l with
    | nil => exact fun db => rfl
    | cons x l ih => exact fun db => by rw [List.foldl_cons, ih, Db.published_hsetAll]
  simp [applyViewEffect, hfold]

theorem Covered.wakeups_nonneg (h : Covered t popBatchSize s) : 0 ≤ s.wakeups := by
  have hnonneg := h.nonneg
  unfold State.wakeups
  split <;> omega

/-! ### Scripts of the producers -/

/-- Each published message is one wake-up more. -/
theorem wakeups_afterScript (hphase : s.phase.isConstructed = true) {n : ℕ}
    (hpublished : db.published t.getChannelName = s.db.published t.getChannelName + n) :
    (s.afterScript t db).wakeups = s.wakeups + n := by
  have hlistens : s.phase.listens = true := by
    revert hphase
    cases s.phase <;> simp [Phase.isConstructed, Phase.listens]
  have htouch : ∀ touched, s.phase.touch touched = s.phase := by
    revert hphase
    cases s.phase <;> simp [Phase.isConstructed, Phase.touch]
  simp only [State.wakeups, State.afterScript, htouch, hlistens, hpublished, if_true,
    Nat.add_sub_cancel_left, Nat.cast_add]
  ring

/-- A script that queues keys and publishes accordingly keeps them covered. -/
theorem Covered.afterScript (h : Covered t popBatchSize s) (hphase : s.phase.isConstructed = true)
    {n : ℕ} (hpublished : db.published t.getChannelName = s.db.published t.getChannelName + n)
    (hcard : (db.scard t.getKeySetName : ℤ) ≤ popBatchSize * (s.wakeups + n)) :
    Covered t popBatchSize (s.afterScript t db) := by
  have hsame : (s.afterScript t db).phase = s.phase := by
    revert hphase
    simp only [State.afterScript]
    cases s.phase <;> simp [Phase.isConstructed, Phase.touch]
  refine ⟨h.nonneg, fun hne => h.sound (by rwa [hsame] at hne), ?_⟩
  rw [wakeups_afterScript hphase hpublished]
  exact hcard

/-- A call that queues one key at most, and publishes exactly if it does. -/
theorem Covered.of_call (h : Covered t popBatchSize s) (hphase : s.phase.isConstructed = true)
    (hbatch : 0 < popBatchSize)
    (hkeys : db.smembers t.getKeySetName = insert k (s.db.smembers t.getKeySetName))
    (hpublished : db.published t.getChannelName = s.db.published t.getChannelName
      + if k ∈ s.db.smembers t.getKeySetName then 0 else 1) :
    Covered t popBatchSize (s.afterScript t db) := by
  have hcovered := h.covered
  refine h.afterScript hphase hpublished ?_
  rw [Db.scard, hkeys]
  by_cases hmem : k ∈ s.db.smembers t.getKeySetName
  · rw [Finset.insert_eq_of_mem hmem, if_pos hmem]
    simpa [Db.scard] using hcovered
  · rw [Finset.card_insert_of_notMem hmem, if_neg hmem]
    have hone : (1 : ℤ) ≤ popBatchSize := by exact_mod_cast hbatch
    rw [Db.scard] at hcovered
    push_cast
    linarith

/-! ### Steps of the consumer -/

/-- The consumer has popped a batch. -/
def State.pops (s : State) (t : TableBase) (popped : List String) : State :=
  { s with db := (popsEffect t popped s.db).1, phase := .selecting }

theorem wakeups_addSelectable (hphase : s.phase = .constructed) :
    s.addSelectable.wakeups = s.wakeups := by
  simp [State.wakeups, State.addSelectable, hphase, Select.addSelectable]

/-- A message that is read moves from the subscription to the counter. -/
theorem wakeups_read (hphase : s.phase = .selecting) {messages : ℕ}
    (hle : messages ≤ s.undelivered) : (s.read messages).wakeups = s.wakeups := by
  simp only [State.wakeups, State.read, Select.readData, RedisSelect.readData, hphase]
  omega

/-- A message that is served moves from the counter to the event. -/
theorem wakeups_take (hphase : s.phase = .selecting) (hsound : s.select.Sound) :
    s.take.wakeups = s.wakeups := by
  simp only [State.wakeups, State.take, hphase, hsound.take.2]
  by_cases htaken : s.select.take.2 = true
  · simp only [htaken, if_true, reduceCtorEq, if_false]
    ring
  · simp [htaken]

/-- The event that was served is gone. -/
theorem wakeups_pops (t : TableBase) (popped : List String) (hphase : s.phase = .serving) :
    s.wakeups = (s.pops t popped).wakeups + 1 := by
  simp [State.wakeups, State.pops, hphase]

/-- A batch of keys is taken out of the key set. -/
theorem scard_pops {popped : List String}
    (hspop : s.db.IsSpop t.getKeySetName popBatchSize popped) :
    (s.pops t popped).db.scard t.getKeySetName
      = s.db.scard t.getKeySetName - popBatchSize := by
  have hqueue : t.queue (popsEffect t popped s.db).1 = (t.queue s.db).popAll popped :=
    queue_popsEffect
  rw [← hspop.card_sdiff]
  exact congrArg Finset.card (congrArg ChangeQueue.keySet hqueue)

/-- The constructor counts every queued key. -/
theorem covered_exec (hbatch : 0 < popBatchSize) :
    Covered t popBatchSize { s with
      phase := .constructed
      select := { s.select with
        object := s.select.object.setQueueLength (s.db.scard t.getKeySetName) } } := by
  refine ⟨by simp [RedisSelect.setQueueLength], fun hne => absurd rfl hne, ?_⟩
  have hone : (1 : ℤ) ≤ popBatchSize := by exact_mod_cast hbatch
  simp only [State.wakeups, RedisSelect.setQueueLength, reduceCtorEq, if_false, add_zero]
  nlinarith

theorem Covered.addSelectable (h : Covered t popBatchSize s) (hphase : s.phase = .constructed) :
    Covered t popBatchSize s.addSelectable := by
  refine ⟨h.nonneg, fun _ => Select.sound_addSelectable h.nonneg, ?_⟩
  rw [wakeups_addSelectable hphase]
  exact h.covered

theorem Covered.read (h : Covered t popBatchSize s) (hphase : s.phase = .selecting)
    {messages : ℕ} (hle : messages ≤ s.undelivered) :
    Covered t popBatchSize (s.read messages) := by
  have hsound : (s.select.readData messages).Sound := (h.sound (by simp [hphase])).readData
  refine ⟨hsound.nonneg, fun _ => hsound, ?_⟩
  rw [wakeups_read hphase hle]
  exact h.covered

theorem Covered.take (h : Covered t popBatchSize s) (hphase : s.phase = .selecting) :
    Covered t popBatchSize s.take := by
  have hsound := h.sound (by simp [hphase])
  refine ⟨hsound.take.1.nonneg, fun _ => hsound.take.1, ?_⟩
  rw [wakeups_take hphase hsound]
  exact h.covered

theorem Covered.pops (h : Covered t popBatchSize s) (hphase : s.phase = .serving)
    {popped : List String} (hspop : s.db.IsSpop t.getKeySetName popBatchSize popped) :
    Covered t popBatchSize (s.pops t popped) := by
  refine ⟨h.nonneg, fun _ => h.sound (by simp [hphase]), ?_⟩
  have hcovered := h.covered
  rw [wakeups_pops t popped hphase, mul_add, mul_one] at hcovered
  have hrest : 0 ≤ (s.pops t popped).wakeups := by
    have hnonneg := h.nonneg
    simp only [State.wakeups, State.pops, reduceCtorEq, if_false]
    omega
  have hprod : 0 ≤ (popBatchSize : ℤ) * (s.pops t popped).wakeups :=
    mul_nonneg (Int.natCast_nonneg _) hrest
  rw [scard_pops hspop]
  omega

/-! ### The invariant -/

/-- **Every step keeps the queued keys covered**, once the consumer is constructed. -/
theorem Step.covered (hstep : Step t popBatchSize s a s') (hbatch : 0 < popBatchSize)
    (hfits : FitsBatches t popBatchSize s a)
    (h : s.phase.isConstructed = true → Covered t popBatchSize s)
    (hphase : s'.phase.isConstructed = true) : Covered t popBatchSize s' := by
  have hscript : ∀ {db}, (s.afterScript t db).phase.isConstructed = true →
      s.phase.isConstructed = true := by
    intro db
    simp only [State.afterScript]
    cases s.phase <;> simp [Phase.isConstructed, Phase.touch]
  cases hstep with
  | set heval =>
    rw [evalSet_eq] at heval
    obtain rfl := Option.some.inj heval
    exact (h (hscript hphase)).of_call (hscript hphase) hbatch keySet_setEffect
      published_setEffect
  | del heval =>
    rw [evalDel_eq] at heval
    obtain rfl := Option.some.inj heval
    exact (h (hscript hphase)).of_call (hscript hphase) hbatch keySet_delEffect
      published_delEffect
  | clear heval =>
    rw [evalClear_eq] at heval
    obtain rfl := Option.some.inj heval
    refine (h (hscript hphase)).afterScript (hscript hphase) (n := 0) ?_ ?_
    · rw [published_clearEffect, Nat.add_zero]
    · have hwakeups := (h (hscript hphase)).wakeups_nonneg
      rw [Db.scard, keySet_clearEffect]
      simp only [Finset.card_empty, Nat.cast_zero, add_zero]
      positivity
  | applyView heval =>
    rw [evalApplyView_eq] at heval
    obtain rfl := Option.some.inj heval
    refine (h (hscript hphase)).afterScript (hscript hphase) published_applyViewEffect ?_
    rw [Db.scard, keySet_applyViewEffect]
    exact_mod_cast hfits (hscript hphase)
  | watch => exact absurd hphase (by simp [Phase.isConstructed])
  | subscribe => exact absurd hphase (by simp [Phase.isConstructed])
  | @exec dirty _ =>
    cases dirty with
    | true => exact absurd hphase (by simp [Phase.isConstructed])
    | false => exact covered_exec hbatch
  | addSelectable hcons => exact (h (by simp [hcons, Phase.isConstructed])).addSelectable hcons
  | read hsel _ hle => exact (h (by simp [hsel, Phase.isConstructed])).read hsel hle
  | take hsel _ => exact (h (by simp [hsel, Phase.isConstructed])).take hsel
  | pops hserving hspop heval =>
    rw [evalPops_eq] at heval
    obtain ⟨rfl, -⟩ := Prod.mk.inj (Option.some.inj heval)
    exact (h (by simp [hserving, Phase.isConstructed])).pops hserving hspop

/-- What the consumer can count on: the counter is not negative; if keys are queued, a
message is under way or counted, unless the event that serves them has just been
returned; and `select` returns a consumer that has counted a message. -/
structure Heard (t : TableBase) (s : State) : Prop where
  nonneg : 0 ≤ s.select.object.queueLength
  heard : (s.db.smembers t.getKeySetName).Nonempty →
    0 < s.undelivered ∨ 0 < s.select.object.queueLength ∨ s.phase = .serving
  returned : s.phase ≠ .constructed → 0 < s.select.object.queueLength → s.select.ready = true

theorem Covered.heard (h : Covered t popBatchSize s) : Heard t s := by
  refine ⟨h.nonneg, ?_, fun hne => (h.sound hne).ready⟩
  intro hkeys
  by_contra hnone
  push Not at hnone
  obtain ⟨hundelivered, hqueue, hserving⟩ := hnone
  have hcard : 0 < s.db.scard t.getKeySetName := Finset.card_pos.mpr hkeys
  have hzero : s.wakeups = 0 := by
    have hnonneg := h.nonneg
    simp only [State.wakeups, hserving, if_false]
    omega
  have hcovered := h.covered
  rw [hzero, mul_zero] at hcovered
  omega

/-- **No wake-up is lost in a run whose view switches fit the batches.** -/
theorem heard_of_run {as : List Action} (hbatch : 0 < popBatchSize)
    (h : Run (Guarded (FitsBatches t popBatchSize) (Step t popBatchSize)) (start db) as s)
    (hphase : s.phase.isConstructed = true) : Heard t s := by
  have hinv : s.phase.isConstructed = true → Covered t popBatchSize s := by
    refine h.keeps (I := fun s => s.phase.isConstructed = true → Covered t popBatchSize s) ?_ ?_
    · exact fun hstart => absurd hstart (by simp [start, Phase.isConstructed])
    intro s₁ a s₂ hI hstep
    exact hstep.2.covered hbatch hstep.1 hI
  exact (hinv hphase).heard

/-! ### Stranded keys -/

def Action.IsConsumer : Action → Prop
  | .addSelectable | .read _ | .take | .pops _ => True
  | _ => False

/-- A key is queued, and nothing will make the consumer look for it. -/
structure Stranded (t : TableBase) (s : State) : Prop where
  phase : s.phase = .selecting
  undelivered : s.undelivered = 0
  queueLength : s.select.object.queueLength = 0
  queued : (s.db.smembers t.getKeySetName).Nonempty

/-- The consumer serves its counter down to nothing, a batch for each message. -/
theorem exists_stranded {n : ℕ} (hphase : s.phase = .selecting) (hsound : s.select.Sound)
    (hundelivered : s.undelivered = 0) (hqueue : s.select.object.queueLength = n)
    (hmore : popBatchSize * n < s.db.scard t.getKeySetName) :
    ∃ as s', Run (Guarded (fun _ a => a.IsConsumer) (Step t popBatchSize)) s as s' ∧
      Stranded t s' := by
  induction n generalizing s with
  | zero =>
    refine ⟨[], s, .nil, hphase, hundelivered, by simpa using hqueue, ?_⟩
    exact Finset.card_pos.mp (by simpa [Db.scard] using hmore)
  | succ n ih =>
    have hdata : s.select.object.hasData = true := by
      simp [RedisSelect.hasData, hqueue]
    have htaken : s.select.take.2 = true := by
      simp [Select.take, hdata]
    have hserving : s.take.phase = .serving := by
      simp [State.take, htaken]
    obtain ⟨popped, hspop⟩ := s.take.db.exists_isSpop t.getKeySetName popBatchSize
    have hqueue' : (s.take.pops t popped).select.object.queueLength = n := by
      have hcount := hsound.take.2
      rw [htaken, hqueue, if_pos rfl] at hcount
      have : s.select.take.1.object.queueLength = n := by
        push_cast at hcount
        omega
      exact this
    have hcard : popBatchSize * n < (s.take.pops t popped).db.scard t.getKeySetName := by
      rw [scard_pops hspop]
      have hlt : popBatchSize * n + popBatchSize < s.take.db.scard t.getKeySetName := by
        rw [← Nat.mul_succ]
        exact hmore
      omega
    obtain ⟨as, s', hrun, hstranded⟩ := ih (s := s.take.pops t popped) rfl hsound.take.1
      hundelivered hqueue' hcard
    have htake : Guarded (fun _ a => a.IsConsumer) (Step t popBatchSize) s .take s.take :=
      ⟨trivial, .take hphase (hsound.ready (by rw [hqueue]; omega))⟩
    have hpops : Guarded (fun _ a => a.IsConsumer) (Step t popBatchSize) s.take (.pops popped)
        (s.take.pops t popped) :=
      ⟨trivial, .pops hserving hspop evalPops_eq⟩
    exact ⟨_, s', (hrun.cons hpops).cons htake, hstranded⟩

/-- The same, with messages still to be read. -/
theorem exists_stranded_of_selecting (hphase : s.phase = .selecting) (hsound : s.select.Sound)
    (hmore : popBatchSize * s.wakeups < s.db.scard t.getKeySetName) :
    ∃ as s', Run (Guarded (fun _ a => a.IsConsumer) (Step t popBatchSize)) s as s' ∧
      Stranded t s' := by
  have hwakeups : s.wakeups = s.undelivered + s.select.object.queueLength := by
    simp [State.wakeups, hphase]
  obtain ⟨n, hn⟩ := Int.eq_ofNat_of_zero_le hsound.nonneg
  rcases Nat.eq_zero_or_pos s.undelivered with hzero | hpos
  · refine exists_stranded (n := n) hphase hsound hzero hn ?_
    rw [hwakeups, hzero, hn, Nat.cast_zero, zero_add] at hmore
    exact_mod_cast hmore
  · have hread : Guarded (fun _ a => a.IsConsumer) (Step t popBatchSize) s
        (.read s.undelivered) (s.read s.undelivered) :=
      ⟨trivial, .read hphase hpos le_rfl⟩
    have hqueue : (s.read s.undelivered).select.object.queueLength
        = ((n + s.undelivered : ℕ) : ℤ) := by
      simp [State.read, Select.readData, RedisSelect.readData, hn]
    have hcard : popBatchSize * (n + s.undelivered)
        < (s.read s.undelivered).db.scard t.getKeySetName := by
      rw [hwakeups, hn, add_comm] at hmore
      exact_mod_cast hmore
    obtain ⟨as, s', hrun, hstranded⟩ :=
      exists_stranded (s := s.read s.undelivered) hphase hsound.readData (Nat.sub_self _) hqueue
        hcard
    exact ⟨_, s', hrun.cons hread, hstranded⟩

/-- **A view that does not fit strands a key**: if a constructed consumer has fewer
wake-ups to come than the queued keys are worth, it ends up waiting while keys are
queued, unless a producer acts again. -/
theorem exists_stranded_of_lt (hphase : s.phase.isConstructed = true)
    (hnonneg : 0 ≤ s.select.object.queueLength)
    (hsound : s.phase ≠ .constructed → s.select.Sound)
    (hmore : popBatchSize * s.wakeups < s.db.scard t.getKeySetName) :
    ∃ as s', Run (Guarded (fun _ a => a.IsConsumer) (Step t popBatchSize)) s as s' ∧
      Stranded t s' := by
  rcases hs : s.phase with - | dirty | dirty | - | - | -
  · simp [hs, Phase.isConstructed] at hphase
  · simp [hs, Phase.isConstructed] at hphase
  · simp [hs, Phase.isConstructed] at hphase
  · have hadd : Guarded (fun _ a => a.IsConsumer) (Step t popBatchSize) s .addSelectable
        s.addSelectable := ⟨trivial, .addSelectable hs⟩
    have hless : popBatchSize * s.addSelectable.wakeups
        < s.addSelectable.db.scard t.getKeySetName := by
      rw [wakeups_addSelectable hs]
      exact hmore
    obtain ⟨as, s', hrun, hstranded⟩ :=
      exists_stranded_of_selecting (s := s.addSelectable) rfl
        (Select.sound_addSelectable hnonneg) hless
    exact ⟨_, s', hrun.cons hadd, hstranded⟩
  · exact exists_stranded_of_selecting hs (hsound (by simp [hs])) hmore
  · obtain ⟨popped, hspop⟩ := s.db.exists_isSpop t.getKeySetName popBatchSize
    have hpops : Guarded (fun _ a => a.IsConsumer) (Step t popBatchSize) s (.pops popped)
        (s.pops t popped) := ⟨trivial, .pops hs hspop evalPops_eq⟩
    have hless : popBatchSize * (s.pops t popped).wakeups
        < (s.pops t popped).db.scard t.getKeySetName := by
      rw [wakeups_pops t popped hs, mul_add, mul_one] at hmore
      rw [scard_pops hspop]
      omega
    obtain ⟨as, s', hrun, hstranded⟩ :=
      exists_stranded_of_selecting (s := s.pops t popped) rfl (hsound (by simp [hs])) hless
    exact ⟨_, s', hrun.cons hpops, hstranded⟩

/-- The consumer of an empty table after an undisturbed constructor. -/
def ready : State := ⟨Db.empty, .selecting, 0, ⟨⟨0⟩, false⟩⟩

theorem run_ready : Run (Guarded (FitsBatches t popBatchSize) (Step t popBatchSize))
    (start Db.empty) [.watch, .subscribe, .exec, .addSelectable] ready := by
  have hwatch : Step t popBatchSize (start Db.empty) .watch
      ⟨Db.empty, .watching false, 0, ⟨.init, false⟩⟩ := .watch rfl
  have hsubscribe : Step t popBatchSize ⟨Db.empty, .watching false, 0, ⟨.init, false⟩⟩ .subscribe
      ⟨Db.empty, .subscribed false, 0, ⟨.init, false⟩⟩ := .subscribe rfl
  have hexec : Step t popBatchSize ⟨Db.empty, .subscribed false, 0, ⟨.init, false⟩⟩ .exec
      ⟨Db.empty, .constructed, 0, ⟨⟨0⟩, false⟩⟩ :=
    Step.exec (s := ⟨Db.empty, .subscribed false, 0, ⟨.init, false⟩⟩) rfl
  have hadd : Step t popBatchSize ⟨Db.empty, .constructed, 0, ⟨⟨0⟩, false⟩⟩ .addSelectable
      ready := .addSelectable rfl
  exact Run.cons ⟨trivial, hwatch⟩ (Run.cons ⟨trivial, hsubscribe⟩
    (Run.cons ⟨trivial, hexec⟩ (Run.single ⟨trivial, hadd⟩)))

/-- The run of `heard_of_run` at work: a view with one new key, and batches of one. -/
theorem heard_of_run_one_key :
    Heard ⟨APPL_DB, "T"⟩ (ready.afterScript ⟨APPL_DB, "T"⟩
      (applyViewEffect ⟨APPL_DB, "T"⟩ (ProducerStateTable.diff ∅
        ((∅ : TableDump).insert "a" ((∅ : TableMap).insert "f" "v"))) Db.empty)) := by
  have hready : Run (Guarded (FitsBatches ⟨APPL_DB, "T"⟩ 1) (Step ⟨APPL_DB, "T"⟩ 1))
      (start Db.empty) [.watch, .subscribe, .exec, .addSelectable] ready := run_ready
  have hview : Step ⟨APPL_DB, "T"⟩ 1 ready
      (.applyView ∅ ((∅ : TableDump).insert "a" ((∅ : TableMap).insert "f" "v"))) _ :=
    .applyView evalApplyView_eq
  have hfits : FitsBatches ⟨APPL_DB, "T"⟩ 1 ready
      (.applyView ∅ ((∅ : TableDump).insert "a" ((∅ : TableMap).insert "f" "v"))) :=
    fun _ => by decide
  exact heard_of_run Nat.one_pos (hready.snoc ⟨hfits, hview⟩) rfl

/-- **A wake-up is lost**: a view with two new keys is announced once, the consumer pops
a batch of one, and the second key stays queued with no message under way and the
counter at zero. -/
theorem not_heard_of_two_keys :
    ∃ s, Run (Step ⟨APPL_DB, "T"⟩ 1) (start Db.empty) [.watch, .subscribe, .exec, .addSelectable,
        .clear, .applyView ∅ (((∅ : TableDump).insert "a" ((∅ : TableMap).insert "f" "v")).insert
          "b" ((∅ : TableMap).insert "f" "v")), .read 1, .take, .pops ["a"]] s ∧
      s.phase.isConstructed = true ∧ ¬ Heard ⟨APPL_DB, "T"⟩ s := by
  have hready : Run (Guarded (FitsBatches ⟨APPL_DB, "T"⟩ 1) (Step ⟨APPL_DB, "T"⟩ 1))
      (start Db.empty) [.watch, .subscribe, .exec, .addSelectable] ready := run_ready
  have hclear := hready.unguard.snoc (.clear evalClear_eq)
  have hview := hclear.snoc (e := .applyView ∅ (((∅ : TableDump).insert "a"
    ((∅ : TableMap).insert "f" "v")).insert "b" ((∅ : TableMap).insert "f" "v")))
    (.applyView evalApplyView_eq)
  have hread := hview.snoc (e := .read 1) (.read rfl Nat.one_pos (by decide))
  have htake := hread.snoc (e := .take) (.take rfl (by decide))
  have hpops := htake.snoc (e := .pops ["a"])
    (.pops (by decide) ⟨by decide, by decide, by decide⟩ evalPops_eq)
  refine ⟨_, hpops, rfl, fun h => ?_⟩
  exact absurd (h.heard (by decide)) (by decide)

end Wakeup

end Swss
