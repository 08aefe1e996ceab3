/-
Common/MultiSelect.lean

`Select` with all its selectables.

`m_ready` is a set ordered by priority and then by the time of last use
(`Select::cmp`).  Two selectables with the same priority and time are the same
to that set, so one of them is not inserted.  And `getPri` is virtual: an
`Executor` decorates a selectable but keeps the default priority, so the order
of the set need not be the order of the configured priorities.

`Tracked` carries along what ought to be ready, and the choices that were made;
`Safe` says of a step that neither of the two matters, and `sound_of_run` that
in runs of safe steps nothing is dropped and every choice is right.
-/
import Sonic.Lib.Transition
import Sonic.Lib.OrderedSet
import Sonic.Common.Select

namespace Swss

open Transition (Run Guarded)

variable {σ : Type*}

/-! ### Selectables -/

/-- The virtual functions of `Selectable`, on objects of the state `σ`. -/
structure Selectable (σ : Type*) where
  getPri : ℤ
  /-- The number is the number of messages found. -/
  readData : σ → ℕ → σ
  hasData : σ → Bool
  hasCachedData : σ → Bool
  initializedWithData : σ → Bool
  updateAfterRead : σ → σ

/-- A `RedisSelect` constructed with a priority. -/
def RedisSelect.selectable (pri : ℤ) : Selectable RedisSelect where
  getPri := pri
  readData := RedisSelect.readData
  hasData := RedisSelect.hasData
  hasCachedData := RedisSelect.hasCachedData
  initializedWithData := RedisSelect.initializedWithData
  updateAfterRead := RedisSelect.updateAfterRead

/-- `Executor`: the functions of the selectable it decorates, except `getPri` and
`hasData`, which are those of `Selectable` itself. -/
def Selectable.executor (m_selectable : Selectable σ) : Selectable σ where
  getPri := 0
  readData := m_selectable.readData
  hasData _ := true
  hasCachedData := m_selectable.hasCachedData
  initializedWithData := m_selectable.initializedWithData
  updateAfterRead := m_selectable.updateAfterRead

/-- An object that is registered: a selectable, perhaps in an `Executor`. -/
structure Object (σ : Type*) where
  m_selectable : Selectable σ
  decorated : Bool
  state : σ
  m_last_used_time : ℕ

namespace Object

/-- The functions `Select` calls. -/
def virtuals (o : Object σ) : Selectable σ :=
  if o.decorated then o.m_selectable.executor else o.m_selectable

def getPri (o : Object σ) : ℤ := o.virtuals.getPri

/-- The priority that was given to the selectable. -/
def configured (o : Object σ) : ℤ := o.m_selectable.getPri

def hasData (o : Object σ) : Bool := o.virtuals.hasData o.state

def hasCachedData (o : Object σ) : Bool := o.virtuals.hasCachedData o.state

def initializedWithData (o : Object σ) : Bool := o.virtuals.initializedWithData o.state

def readData (o : Object σ) (messages : ℕ) : Object σ :=
  { o with state := o.virtuals.readData o.state messages }

def updateAfterRead (o : Object σ) : Object σ :=
  { o with state := o.virtuals.updateAfterRead o.state }

def updateLastUsedTime (o : Object σ) (now : ℕ) : Object σ :=
  { o with m_last_used_time := now }

end Object

/-! ### `Select` -/

/-- The key by which `Select::cmp` orders: high priorities first, then early
times. -/
abbrev Key := ℤᵒᵈ ×ₗ ℕ

def Object.key (o : Object σ) : Key := toLex (OrderDual.toDual o.getPri, o.m_last_used_time)

/-- `Select`, its objects addressed by their file descriptors. -/
structure MultiSelect (σ : Type*) where
  m_objects : ℕ → Option (Object σ)
  m_ready : List ℕ

/-- What one call of `epoll_wait` reports, with the number of messages that are
read from each descriptor, and the clock when a descriptor is taken. -/
structure Poll where
  reported : List (ℕ × ℕ)
  now : ℕ → ℕ

/-- The descriptors reported. -/
def Poll.fds (p : Poll) : Finset ℕ := (p.reported.map Prod.fst).toFinset

namespace MultiSelect

/-- The key of a descriptor. -/
def key (m_objects : ℕ → Option (Object σ)) (fd : ℕ) : Key :=
  (m_objects fd).elim (toLex (OrderDual.toDual 0, 0)) Object.key

/-- `addSelectable`. -/
def addSelectable (s : MultiSelect σ) (fd : ℕ) (o : Object σ) : MultiSelect σ :=
  if (s.m_objects fd).isSome then s
  else
    let m_objects := Function.update s.m_objects fd (some o)
    { m_objects
      m_ready :=
        if o.initializedWithData then OrderedSet.insert (key m_objects) fd s.m_ready
        else s.m_ready }

/-- `removeSelectable`. -/
def removeSelectable (s : MultiSelect σ) (fd : ℕ) : MultiSelect σ where
  m_objects := Function.update s.m_objects fd none
  m_ready := OrderedSet.erase (key s.m_objects) fd s.m_ready

/-- One turn of the first loop of `poll_descriptors`. -/
def read (s : MultiSelect σ) (event : ℕ × ℕ) : MultiSelect σ :=
  match s.m_objects event.1 with
  | none => s
  | some sel =>
    let m_objects := Function.update s.m_objects event.1 (some (sel.readData event.2))
    { m_objects, m_ready := OrderedSet.insert (key m_objects) event.1 s.m_ready }

/-- The second loop of `poll_descriptors`, which takes the first element of
`m_ready` in each turn, and what it returns. -/
def take (now : ℕ → ℕ) (m_objects : ℕ → Option (Object σ)) :
    List ℕ → MultiSelect σ × Option ℕ
  | [] => (⟨m_objects, []⟩, none)
  | fd :: m_ready =>
    match m_objects fd with
    | none => take now m_objects m_ready
    | some o =>
      let sel := o.updateLastUsedTime (now fd)
      let m_objects := Function.update m_objects fd (some sel)
      if ¬ sel.hasData then take now m_objects m_ready
      else
        let m_ready :=
          if sel.hasCachedData then OrderedSet.insert (key m_objects) fd m_ready
          else m_ready
        (⟨Function.update m_objects fd (some sel.updateAfterRead), m_ready⟩, some fd)

/-- `poll_descriptors`; `none` stands for `TIMEOUT`. -/
def pollDescriptors (s : MultiSelect σ) (p : Poll) : MultiSelect σ × Option ℕ :=
  let s := p.reported.foldl read s
  take p.now s.m_objects s.m_ready

/-- `Select::select`, when epoll reports `first` and then `second`. -/
def select (s : MultiSelect σ) (timeout : ℤ) (first second : Poll) : MultiSelect σ × Option ℕ :=
  let (s, ret) := s.pollDescriptors first
  if ret ≠ none ∨ timeout = 0 then (s, ret) else s.pollDescriptors second

/-- The application changes the state of an object. -/
def handle (s : MultiSelect σ) (fd : ℕ) (state : σ) : MultiSelect σ :=
  { s with
    m_objects := Function.update s.m_objects fd
      ((s.m_objects fd).map fun o => { o with state }) }

end MultiSelect

/-! ### What ought to be ready, and what ought to be chosen -/

/-- What there was to choose from when `poll_descriptors` returned `chosen`. -/
structure Choice where
  chosen : Option ℕ
  ready : Finset ℕ
  configured : ℕ → ℤ
  lastUsed : ℕ → ℕ

/-- The chosen one is ready, has the maximal configured priority, and is the
least recently used among those with that priority; nothing is chosen only if
nothing is ready. -/
def Choice.Right (c : Choice) : Prop :=
  match c.chosen with
  | none => c.ready = ∅
  | some a => a ∈ c.ready ∧ ∀ b ∈ c.ready,
      c.configured b < c.configured a ∨
        c.configured b = c.configured a ∧ c.lastUsed a ≤ c.lastUsed b

/-- A `Select` with the descriptors that were reported, or had data cached, since
they were last returned, and the choices so far. -/
structure Tracked (σ : Type*) where
  select : MultiSelect σ
  pending : Finset ℕ
  choices : List Choice

inductive SelectEvent (σ : Type*)
  | add (fd : ℕ) (o : Object σ)
  | remove (fd : ℕ)
  | handle (fd : ℕ) (state : σ)
  | select (timeout : ℤ) (first second : Poll)

namespace Tracked

def configured (m_objects : ℕ → Option (Object σ)) (fd : ℕ) : ℤ :=
  (m_objects fd).elim 0 Object.configured

def lastUsed (m_objects : ℕ → Option (Object σ)) (fd : ℕ) : ℕ :=
  (m_objects fd).elim 0 Object.m_last_used_time

/-- What is pending after a descriptor has been returned. -/
def returned (m_objects : ℕ → Option (Object σ)) (ready : Finset ℕ) : Option ℕ → Finset ℕ
  | none => ready
  | some fd =>
    if (m_objects fd).elim false Object.hasCachedData then ready else ready.erase fd

/-- `poll_descriptors`, tracked. -/
def poll (t : Tracked σ) (p : Poll) : Tracked σ × Option ℕ :=
  let m_objects := (p.reported.foldl MultiSelect.read t.select).m_objects
  let ready := t.pending ∪ p.fds
  let r := t.select.pollDescriptors p
  ({ select := r.1
     pending := returned m_objects ready r.2
     choices := t.choices ++
       [⟨r.2, ready, configured t.select.m_objects, lastUsed t.select.m_objects⟩] }, r.2)

/-- One step. -/
def next (t : Tracked σ) : SelectEvent σ → Tracked σ
  | .add fd o =>
    { t with
      select := t.select.addSelectable fd o
      pending :=
        if t.select.m_objects fd = none ∧ o.initializedWithData then insert fd t.pending
        else t.pending }
  | .remove fd =>
    { t with select := t.select.removeSelectable fd, pending := t.pending.erase fd }
  | .handle fd state => { t with select := t.select.handle fd state }
  | .select timeout first second =>
    let (t, ret) := t.poll first
    if ret ≠ none ∨ timeout = 0 then t else (t.poll second).1

/-- What the calls and the server can do: the descriptors of a step are
registered, and epoll reports each at most once. -/
def Possible (t : Tracked σ) : SelectEvent σ → Prop
  | .add _ _ => True
  | .remove fd => t.select.m_objects fd ≠ none
  | .handle fd _ => t.select.m_objects fd ≠ none
  | .select _ first second => ∀ p ∈ [first, second],
      (p.reported.map Prod.fst).Nodup ∧ ∀ fd ∈ p.fds, t.select.m_objects fd ≠ none

inductive Step : Tracked σ → SelectEvent σ → Tracked σ → Prop
  | step {t : Tracked σ} {e : SelectEvent σ} : Possible t e → Step t e (t.next e)

/-- Nothing is dropped and every choice was right. -/
structure Sound (t : Tracked σ) : Prop where
  ready : ∀ fd, fd ∈ t.select.m_ready ↔ fd ∈ t.pending
  choices : ∀ c ∈ t.choices, c.Right

/-- `a` ought to be served before `b`. -/
def Before (m_objects : ℕ → Option (Object σ)) (a b : ℕ) : Prop :=
  configured m_objects b < configured m_objects a ∨
    configured m_objects b = configured m_objects a ∧ lastUsed m_objects a < lastUsed m_objects b

/-- The pending and the reported descriptors differ in priority or time, the
order of `m_ready` serves them as they ought to be served, they all have data,
and the one that is served first and has more cached is not put back beside one
with its priority and its new time. -/
structure PollSafe (s : MultiSelect σ) (pending : Finset ℕ) (p : Poll) : Prop where
  apart : ∀ a ∈ pending ∪ p.fds, ∀ b ∈ pending ∪ p.fds,
    MultiSelect.key s.m_objects a = MultiSelect.key s.m_objects b → a = b
  agrees : ∀ a ∈ pending ∪ p.fds, ∀ b ∈ pending ∪ p.fds,
    Before s.m_objects a b → MultiSelect.key s.m_objects a < MultiSelect.key s.m_objects b
  data : ∀ a ∈ pending ∪ p.fds, ∀ o, (p.reported.foldl MultiSelect.read s).m_objects a = some o →
    o.hasData = true
  requeued : ∀ a ∈ pending ∪ p.fds,
    (∀ b ∈ pending ∪ p.fds, b ≠ a →
      MultiSelect.key s.m_objects a < MultiSelect.key s.m_objects b) →
    ∀ o, (p.reported.foldl MultiSelect.read s).m_objects a = some o → o.hasCachedData = true →
      ∀ b ∈ pending ∪ p.fds, b ≠ a →
        MultiSelect.key s.m_objects b ≠ (o.updateLastUsedTime (p.now a)).key

/-- A step that neither drops a descriptor nor serves it out of turn. -/
def Safe (t : Tracked σ) : SelectEvent σ → Prop
  | .add fd o => t.select.m_objects fd = none → o.initializedWithData = true →
      ∀ b ∈ t.pending, MultiSelect.key t.select.m_objects b ≠ o.key
  | .remove fd => fd ∉ t.pending → ∀ b ∈ t.pending,
      MultiSelect.key t.select.m_objects b ≠ MultiSelect.key t.select.m_objects fd
  | .handle _ _ => True
  | .select _ first second => PollSafe t.select t.pending first ∧
      (t.pending ∪ first.fds = ∅ → PollSafe t.select t.pending second)

variable {t t' : Tracked σ} {e : SelectEvent σ} {es : List (SelectEvent σ)} {p : Poll}
  {s : MultiSelect σ} {m_objects : ℕ → Option (Object σ)} {fd : ℕ} {o o' : Object σ}
  {l : List (ℕ × ℕ)}

/-! ### Keys -/

/-- A new state of an object does not move it in the order. -/
theorem key_update (ho : m_objects fd = some o) (hkey : o'.key = o.key) :
    MultiSelect.key (Function.update m_objects fd (some o')) = MultiSelect.key m_objects := by
  funext a
  by_cases ha : a = fd
  · subst ha
    simp [MultiSelect.key, ho, hkey]
  · simp [MultiSelect.key, ha]

theorem key_readData {messages : ℕ} : (o.readData messages).key = o.key := rfl

theorem key_updateAfterRead : o.updateAfterRead.key = o.key := rfl

theorem hasData_updateLastUsedTime {now : ℕ} :
    (o.updateLastUsedTime now).hasData = o.hasData := rfl

theorem key_of_ne {a : ℕ} {x : Option (Object σ)} (ha : a ≠ fd) :
    MultiSelect.key (Function.update m_objects fd x) a = MultiSelect.key m_objects a := by
  simp [MultiSelect.key, ha]

theorem key_update_self :
    MultiSelect.key (Function.update m_objects fd (some o)) fd = o.key := by
  simp [MultiSelect.key]

/-! ### Reading what is reported -/

/-- What reading an event keeps, and the descriptor it makes ready. -/
theorem read_spec {event : ℕ × ℕ} (ho : s.m_objects event.1 = some o)
    (hord : OrderedSet.Ordered (MultiSelect.key s.m_objects) s.m_ready)
    (hapart : ∀ b ∈ s.m_ready, MultiSelect.key s.m_objects b = MultiSelect.key s.m_objects event.1 →
      b = event.1) :
    MultiSelect.key (s.read event).m_objects = MultiSelect.key s.m_objects ∧
      OrderedSet.Ordered (MultiSelect.key s.m_objects) (s.read event).m_ready ∧
      (∀ a, a ∈ (s.read event).m_ready ↔ a = event.1 ∨ a ∈ s.m_ready) ∧
      ∀ a, (s.read event).m_objects a = none ↔ s.m_objects a = none := by
  have hread : s.read event =
      ⟨Function.update s.m_objects event.1 (some (o.readData event.2)),
        OrderedSet.insert (MultiSelect.key s.m_objects) event.1 s.m_ready⟩ := by
    unfold MultiSelect.read
    rw [ho]
    dsimp only
    rw [key_update ho key_readData]
  rw [hread]
  refine ⟨key_update ho key_readData, hord.insert, ?_, ?_⟩
  · intro a
    constructor
    · exact OrderedSet.mem_insert_subset
    · rintro (rfl | ha)
      · exact OrderedSet.mem_insert_self hapart
      · exact OrderedSet.mem_insert_of_mem ha
  · intro a
    by_cases ha : a = event.1
    · subst ha
      simp [ho]
    · simp [ha]

/-- After the first loop every reported descriptor is ready. -/
theorem foldl_read_spec (hreg : ∀ event ∈ l, s.m_objects event.1 ≠ none)
    (hord : OrderedSet.Ordered (MultiSelect.key s.m_objects) s.m_ready)
    (hapart : ∀ a b, a ∈ s.m_ready ∨ a ∈ l.map Prod.fst → b ∈ s.m_ready ∨ b ∈ l.map Prod.fst →
      MultiSelect.key s.m_objects a = MultiSelect.key s.m_objects b → a = b) :
    MultiSelect.key (l.foldl MultiSelect.read s).m_objects = MultiSelect.key s.m_objects ∧
      OrderedSet.Ordered (MultiSelect.key s.m_objects) (l.foldl MultiSelect.read s).m_ready ∧
      (∀ a, a ∈ (l.foldl MultiSelect.read s).m_ready ↔ a ∈ s.m_ready ∨ a ∈ l.map Prod.fst) ∧
      ∀ a, (l.foldl MultiSelect.read s).m_objects a = none ↔ s.m_objects a = none := by
  induction l generalizing s with
  | nil => exact ⟨rfl, hord, by simp, by simp⟩
  | cons event l ih =>
    obtain ⟨o, ho⟩ := Option.ne_none_iff_exists'.mp (hreg event (by simp))
    obtain ⟨hkey, hord', hmem, hnone⟩ := read_spec ho hord
      fun b hb => hapart b event.1 (Or.inl hb) (Or.inr (by simp))
    have hready : ∀ a, a ∈ (s.read event).m_ready ∨ a ∈ l.map Prod.fst →
        a ∈ s.m_ready ∨ a ∈ (event :: l).map Prod.fst := by
      intro a ha
      rw [hmem] at ha
      simp only [List.map_cons, List.mem_cons]
      tauto
    obtain ⟨hkey', hord'', hmem', hnone'⟩ := ih (s := s.read event)
      (fun event' he => by
        rw [Ne, hnone]
        exact hreg event' (by simp [he]))
      (hkey ▸ hord')
      (fun a b ha hb => by
        rw [hkey]
        exact hapart a b (hready a ha) (hready b hb))
    rw [List.foldl_cons]
    refine ⟨hkey'.trans hkey, hkey ▸ hord'', ?_, fun a => (hnone' a).trans (hnone a)⟩
    intro a
    rw [hmem', hmem]
    simp only [List.map_cons, List.mem_cons]
    tauto

/-! ### Taking the first -/

/-- The second loop on a set whose first element has data. -/
theorem take_cons {now : ℕ → ℕ} {m_ready : List ℕ} (ho : m_objects fd = some o)
    (hdata : o.hasData = true) :
    MultiSelect.take now m_objects (fd :: m_ready) =
      (⟨Function.update (Function.update m_objects fd (some (o.updateLastUsedTime (now fd)))) fd
          (some (o.updateLastUsedTime (now fd)).updateAfterRead),
        if o.hasCachedData then
          OrderedSet.insert
            (MultiSelect.key
              (Function.update m_objects fd (some (o.updateLastUsedTime (now fd))))) fd m_ready
        else m_ready⟩, some fd) := by
  unfold MultiSelect.take
  rw [ho]
  dsimp only
  rw [if_neg (by simp [hasData_updateLastUsedTime, hdata])]
  rfl

/-- What is true of a `Select` in which nothing has been dropped. -/
structure Kept (t : Tracked σ) : Prop extends Sound t where
  ordered : OrderedSet.Ordered (MultiSelect.key t.select.m_objects) t.select.m_ready
  registered : ∀ fd ∈ t.pending, t.select.m_objects fd ≠ none

theorem mem_fds : fd ∈ p.fds ↔ fd ∈ p.reported.map Prod.fst := List.mem_toFinset

/-- The set after the first loop: what is pending and what is reported, ordered. -/
theorem Kept.read (h : Kept t) (hreg : ∀ fd ∈ p.fds, t.select.m_objects fd ≠ none)
    (hsafe : PollSafe t.select t.pending p) :
    let s := p.reported.foldl MultiSelect.read t.select
    MultiSelect.key s.m_objects = MultiSelect.key t.select.m_objects ∧
      OrderedSet.Ordered (MultiSelect.key t.select.m_objects) s.m_ready ∧
      (∀ fd, fd ∈ s.m_ready ↔ fd ∈ t.pending ∪ p.fds) ∧
      ∀ fd ∈ t.pending ∪ p.fds, s.m_objects fd ≠ none := by
  intro s
  have hready : ∀ fd, fd ∈ t.select.m_ready ∨ fd ∈ p.reported.map Prod.fst ↔
      fd ∈ t.pending ∪ p.fds := by
    intro fd
    rw [h.ready, Finset.mem_union, mem_fds]
  obtain ⟨hkey, hord, hmem, hnone⟩ := foldl_read_spec (l := p.reported) (s := t.select)
    (fun event he => hreg event.1 (mem_fds.mpr (List.mem_map_of_mem he))) h.ordered
    fun a b ha hb => hsafe.apart a ((hready a).mp ha) b ((hready b).mp hb)
  refine ⟨hkey, hord, fun fd => (hmem fd).trans (hready fd), ?_⟩
  intro fd hfd
  rw [Ne, hnone]
  rcases Finset.mem_union.mp hfd with hpend | hrep
  · exact h.registered fd hpend
  · exact hreg fd hrep

/-- **A safe poll keeps everything that is ready and chooses right.** -/
theorem Kept.poll (h : Kept t) (hreg : ∀ fd ∈ p.fds, t.select.m_objects fd ≠ none)
    (hsafe : PollSafe t.select t.pending p) :
    Kept (t.poll p).1 ∧
      ((t.poll p).2 = none → t.pending ∪ p.fds = ∅ ∧
        (t.poll p).1.select = t.select ∧ (t.poll p).1.pending = t.pending) := by
  obtain ⟨hkey, hord, hmem, hobj⟩ := h.read hreg hsafe
  rcases hs : p.reported.foldl MultiSelect.read t.select with ⟨m_objects, m_ready⟩
  rw [hs] at hkey hord hmem hobj
  dsimp only at hkey hord hmem hobj
  rcases m_ready with - | ⟨fd, m_ready⟩
  · -- nothing is ready, so nothing was reported
    have hempty : t.pending ∪ p.fds = ∅ := by
      rw [Finset.eq_empty_iff_forall_notMem]
      intro fd hfd
      exact absurd ((hmem fd).mpr hfd) (by simp)
    have hreported : p.reported = [] := by
      have hfds : p.fds = ∅ := (Finset.union_eq_empty.mp hempty).2
      simpa [Poll.fds] using hfds
    have hpoll : t.select.pollDescriptors p = (t.select, none) := by
      rw [hreported] at hs
      have hselect : t.select = ⟨m_objects, []⟩ := hs
      simp [MultiSelect.pollDescriptors, hreported, MultiSelect.take, hselect]
    have hpending : t.pending ∪ p.fds = t.pending := by
      rw [hempty, (Finset.union_eq_empty.mp hempty).1]
    simp only [Tracked.poll, hpoll, returned]
    refine ⟨⟨⟨fun fd => ?_, ?_⟩, h.ordered, fun fd hfd => ?_⟩,
      fun _ => ⟨hempty, trivial, hpending⟩⟩
    · rw [hpending]
      exact h.ready fd
    · intro c hc
      rcases List.mem_append.mp hc with hc | hc
      · exact h.choices c hc
      · obtain rfl := List.mem_singleton.mp hc
        exact hempty
    · rw [hpending] at hfd
      exact h.registered fd hfd
  · have hfd : fd ∈ t.pending ∪ p.fds := (hmem fd).mp (by simp)
    obtain ⟨o, ho⟩ := Option.ne_none_iff_exists'.mp (hobj fd hfd)
    have hobjects : (p.reported.foldl MultiSelect.read t.select).m_objects fd = some o := by
      rw [hs]
      exact ho
    have hdata := hsafe.data fd hfd o hobjects
    have hpoll : t.select.pollDescriptors p = MultiSelect.take p.now m_objects (fd :: m_ready) := by
      rw [MultiSelect.pollDescriptors, hs]
    rw [take_cons ho hdata] at hpoll
    obtain ⟨hfirst, hrest⟩ := List.pairwise_cons.mp hord
    have hnot : fd ∉ m_ready := (List.nodup_cons.mp hord.nodup).1
    have hothers : ∀ b ∈ t.pending ∪ p.fds, b ≠ fd →
        MultiSelect.key t.select.m_objects fd < MultiSelect.key t.select.m_objects b := by
      intro b hb hne
      rcases List.mem_cons.mp ((hmem b).mpr hb) with rfl | hb
      · exact absurd rfl hne
      · exact hfirst b hb
    -- the object that is returned gets a new time, all others keep their keys
    let m_objects' := Function.update m_objects fd (some (o.updateLastUsedTime (p.now fd)))
    let m_objects'' := Function.update m_objects' fd
      (some (o.updateLastUsedTime (p.now fd)).updateAfterRead)
    have hkey'' : MultiSelect.key m_objects'' = MultiSelect.key m_objects' :=
      key_update (by simp [m_objects']) key_updateAfterRead
    have hkey_ne : ∀ b, b ≠ fd →
        MultiSelect.key m_objects' b = MultiSelect.key t.select.m_objects b := by
      intro b hb
      rw [← hkey]
      exact key_of_ne hb
    have hord' : OrderedSet.Ordered (MultiSelect.key m_objects') m_ready := by
      refine OrderedSet.Ordered.congr hrest ?_
      intro b hb
      exact hkey_ne b (fun he => hnot (he ▸ hb))
    have hchoice : Choice.Right ⟨some fd, t.pending ∪ p.fds, configured t.select.m_objects,
        lastUsed t.select.m_objects⟩ := by
      refine ⟨hfd, ?_⟩
      intro b hb
      by_contra hnotright
      push Not at hnotright
      have hbefore : Before t.select.m_objects b fd := by
        rcases lt_or_eq_of_le hnotright.1 with hlt | heq
        · exact Or.inl hlt
        · exact Or.inr ⟨heq, hnotright.2 heq.symm⟩
      have hlt := hsafe.agrees b hb fd hfd hbefore
      have hne : b ≠ fd := by
        rintro rfl
        exact lt_irrefl _ hlt
      exact lt_asymm hlt (hothers b hb hne)
    simp only [Tracked.poll, hs, hpoll]
    refine ⟨⟨⟨?_, ?_⟩, ?_, ?_⟩, fun hnone => absurd hnone (by simp)⟩
    · intro b
      simp only [returned, ho, Option.elim_some]
      split
      · next hcached =>
          rw [← hmem]
          constructor
          · intro hb
            rcases OrderedSet.mem_insert_subset hb with rfl | hb
            · simp
            · exact List.mem_cons_of_mem _ hb
          · intro hb
            rcases List.mem_cons.mp hb with rfl | hb
            · refine OrderedSet.mem_insert_self ?_
              intro c hc hkeyc
              by_contra hne
              have hc' : c ∈ t.pending ∪ p.fds := (hmem c).mp (List.mem_cons_of_mem _ hc)
              refine hsafe.requeued b hfd hothers o hobjects hcached c hc' hne ?_
              rw [← hkey_ne c hne]
              exact hkeyc.trans key_update_self
            · exact OrderedSet.mem_insert_of_mem hb
      · rw [Finset.mem_erase, ← hmem, List.mem_cons]
        constructor
        · intro hb
          exact ⟨fun he => hnot (he ▸ hb), Or.inr hb⟩
        · rintro ⟨hne, rfl | hb⟩
          · exact absurd rfl hne
          · exact hb
    · intro c hc
      rcases List.mem_append.mp hc with hc | hc
      · exact h.choices c hc
      · obtain rfl := List.mem_singleton.mp hc
        exact hchoice
    · show OrderedSet.Ordered (MultiSelect.key m_objects'') _
      rw [hkey'']
      split
      · exact hord'.insert
      · exact hord'
    · intro b hb
      show m_objects'' b ≠ none
      by_cases hne : b = fd
      · simp [m_objects'', hne]
      · have hb' : b ∈ t.pending ∪ p.fds := by
          simp only [returned, ho, Option.elim_some] at hb
          split at hb
          · exact hb
          · exact Finset.mem_of_mem_erase hb
        simpa [m_objects'', m_objects', hne] using hobj b hb'

/-! ### Runs -/

/-- A safe step keeps everything that is ready and chooses right. -/
theorem Kept.step (h : Kept t) (hstep : Step t e t') (hsafe : Safe t e) : Kept t' := by
  cases hstep with
  | step hposs =>
    cases e with
    | add fd o =>
      rcases hreg : t.select.m_objects fd with - | old
      · have hselect : t.select.addSelectable fd o =
            ⟨Function.update t.select.m_objects fd (some o),
              if o.initializedWithData then
                OrderedSet.insert
                  (MultiSelect.key (Function.update t.select.m_objects fd (some o))) fd
                  t.select.m_ready
              else t.select.m_ready⟩ := by
          simp [MultiSelect.addSelectable, hreg]
        have hfd : fd ∉ t.pending := fun hmem => h.registered fd hmem hreg
        have hne : ∀ b ∈ t.pending, b ≠ fd := fun b hb he => hfd (he ▸ hb)
        have hord : OrderedSet.Ordered
            (MultiSelect.key (Function.update t.select.m_objects fd (some o)))
            t.select.m_ready := by
          refine h.ordered.congr ?_
          intro b hb
          exact key_of_ne (hne b ((h.ready b).mp hb))
        have hobj : ∀ b, (b = fd ∨ b ∈ t.pending) →
            Function.update t.select.m_objects fd (some o) b ≠ none := by
          rintro b hb
          by_cases he : b = fd
          · simp [he]
          · simpa [he] using h.registered b (hb.resolve_left he)
        simp only [Tracked.next, hselect, hreg, true_and]
        by_cases hinit : o.initializedWithData = true
        · rw [if_pos hinit, if_pos hinit]
          refine ⟨⟨?_, h.choices⟩, hord.insert, ?_⟩
          · intro b
            rw [Finset.mem_insert, ← h.ready]
            constructor
            · exact OrderedSet.mem_insert_subset
            · rintro (rfl | hb)
              · refine OrderedSet.mem_insert_self ?_
                intro c hc hkeyc
                have hc' := (h.ready c).mp hc
                rw [key_of_ne (hne c hc'), key_update_self] at hkeyc
                exact absurd hkeyc (hsafe hreg hinit c hc')
              · exact OrderedSet.mem_insert_of_mem hb
          · intro b hb
            exact hobj b (Finset.mem_insert.mp hb)
        · rw [if_neg hinit, if_neg hinit]
          exact ⟨⟨h.ready, h.choices⟩, hord, fun b hb => hobj b (Or.inr hb)⟩
      · -- the descriptor is registered already, and nothing happens
        have hselect : t.select.addSelectable fd o = t.select := by
          simp [MultiSelect.addSelectable, hreg]
        simp only [Tracked.next, hselect, hreg, reduceCtorEq, false_and, if_false]
        exact h
    | remove fd =>
      refine ⟨⟨?_, h.choices⟩, ?_, ?_⟩
      · intro b
        show b ∈ OrderedSet.erase (MultiSelect.key t.select.m_objects) fd t.select.m_ready ↔
          b ∈ t.pending.erase fd
        rw [OrderedSet.mem_erase h.ordered, Finset.mem_erase, h.ready, and_comm]
        refine and_congr_left ?_
        intro hb
        constructor
        · rintro hne rfl
          exact hne rfl
        · intro hne hkey
          by_cases hfd : fd ∈ t.pending
          · exact hne (h.ordered.eq_of_key ((h.ready b).mpr hb) ((h.ready fd).mpr hfd) hkey)
          · exact hsafe hfd b hb hkey
      · refine h.ordered.erase.congr ?_
        intro b hb
        refine key_of_ne ?_
        rintro rfl
        exact ((OrderedSet.mem_erase h.ordered).mp hb).2 rfl
      · intro b hb
        obtain ⟨hne, hb⟩ := Finset.mem_erase.mp hb
        simpa [Tracked.next, MultiSelect.removeSelectable, hne] using h.registered b hb
    | handle fd state =>
      obtain ⟨o, ho⟩ := Option.ne_none_iff_exists'.mp hposs
      have hselect : t.select.handle fd state =
          ⟨Function.update t.select.m_objects fd (some { o with state }),
            t.select.m_ready⟩ := by
        simp [MultiSelect.handle, ho]
      simp only [Tracked.next, hselect]
      refine ⟨⟨h.ready, h.choices⟩, ?_, ?_⟩
      · have hkey : MultiSelect.key (Function.update t.select.m_objects fd
            (some { o with state })) = MultiSelect.key t.select.m_objects :=
          key_update ho rfl
        rw [hkey]
        exact h.ordered
      · intro b hb
        by_cases he : b = fd
        · simp [he]
        · simpa [he] using h.registered b hb
    | select timeout first second =>
      obtain ⟨hkept, hnone⟩ := h.poll (hposs first (by simp)).2 hsafe.1
      show Kept (if (t.poll first).2 ≠ none ∨ timeout = 0 then (t.poll first).1
        else ((t.poll first).1.poll second).1)
      split
      · exact hkept
      · next hagain =>
          have htimeout : (t.poll first).2 = none := by
            by_contra hne
            exact hagain (Or.inl hne)
          obtain ⟨hempty, hselect, hpending⟩ := hnone htimeout
          refine (hkept.poll ?_ ?_).1
          · rw [hselect]
            exact (hposs second (by simp)).2
          · rw [hselect, hpending]
            exact hsafe.2 hempty

/-- A `Select` without objects. -/
def start : Tracked σ := ⟨⟨fun _ => none, []⟩, ∅, []⟩

/-- A `RedisSelect` without messages. -/
def idleSelect (pri : ℤ) (decorated : Bool) (now : ℕ) : Object RedisSelect :=
  ⟨RedisSelect.selectable pri, decorated, ⟨0⟩, now⟩

/-- Every reported descriptor has a message, and is taken at the time 2. -/
def reportOf (fds : List ℕ) : Poll := ⟨fds.map fun fd => (fd, 1), fun _ => 2⟩

example : ¬ Sound ((start.next (.add 1 (idleSelect 0 false 0))).next
    (.add 2 (idleSelect 0 false 0)) |>.next (.select 0 (reportOf [1, 2]) (reportOf []))) :=
  fun h => absurd ((h.ready 2).mpr (by decide)) (by decide)

end Tracked

end Swss
