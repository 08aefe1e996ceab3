/-
Common/Select.lean

`RedisSelect` and its place in `Select`.

A `RedisSelect` counts the messages that were read from its subscription and not
served yet.  `Select` keeps the selectables that may have something to serve in
`m_ready`; here it is reduced to the part that concerns one selectable, whether
it is in that set.  `take` is one turn of the loop of `poll_descriptors` that
picks this selectable: it is returned, and put back if more messages are cached.
-/
import Mathlib

namespace Swss

/-- `RedisSelect`. -/
structure RedisSelect where
  queueLength : ℤ
  deriving DecidableEq

namespace RedisSelect

/-- The constructor. -/
def init : RedisSelect := ⟨-1⟩

def setQueueLength (_ : RedisSelect) (queueLength : ℤ) : RedisSelect := ⟨queueLength⟩

/-- `readData`, when the reader finds so many messages: one, and those that have
arrived with it. -/
def readData (s : RedisSelect) (messages : ℕ) : RedisSelect := ⟨s.queueLength + messages⟩

def hasData (s : RedisSelect) : Bool := s.queueLength > 0

def hasCachedData (s : RedisSelect) : Bool := s.queueLength > 1

def initializedWithData (s : RedisSelect) : Bool := s.queueLength > 0

def updateAfterRead (s : RedisSelect) : RedisSelect := ⟨s.queueLength - 1⟩

end RedisSelect

/-- `Select`, for one selectable: the object, and whether it is in `m_ready`. -/
structure Select where
  object : RedisSelect
  ready : Bool
  deriving DecidableEq

namespace Select

/-- `addSelectable`. -/
def addSelectable (s : Select) : Select :=
  { s with ready := s.ready || s.object.initializedWithData }

/-- The first loop of `poll_descriptors`, when epoll reports the selectable. -/
def readData (s : Select) (messages : ℕ) : Select where
  object := s.object.readData messages
  ready := true

/-- One turn of the second loop of `poll_descriptors` on the selectable, and
whether it is returned. -/
def take (s : Select) : Select × Bool :=
  if s.object.hasData then
    ({ object := s.object.updateAfterRead, ready := s.object.hasCachedData }, true)
  else ({ s with ready := false }, false)

variable {s : Select} {messages : ℕ}

/-- A selectable with data is in `m_ready`, and its counter is not negative. -/
structure Sound (s : Select) : Prop where
  nonneg : 0 ≤ s.object.queueLength
  ready : 0 < s.object.queueLength → s.ready = true

theorem sound_addSelectable (h : 0 ≤ s.object.queueLength) : s.addSelectable.Sound := by
  refine ⟨h, fun hpos => ?_⟩
  simpa [addSelectable, RedisSelect.initializedWithData] using Or.inr hpos

theorem Sound.readData (h : s.Sound) : (s.readData messages).Sound := by
  refine ⟨?_, fun _ => rfl⟩
  have := h.nonneg
  simp only [Select.readData, RedisSelect.readData]
  omega

/-- A turn keeps the counter sound, and counts one served message if the selectable
is returned. -/
theorem Sound.take (h : s.Sound) :
    s.take.1.Sound ∧
      s.object.queueLength = s.take.1.object.queueLength + if s.take.2 then 1 else 0 := by
  unfold Select.take
  split
  · next hdata =>
      have hpos : 0 < s.object.queueLength := by simpa [RedisSelect.hasData] using hdata
      refine ⟨⟨?_, ?_⟩, ?_⟩
      · simp only [RedisSelect.updateAfterRead]
        omega
      · simp only [RedisSelect.updateAfterRead, RedisSelect.hasCachedData, decide_eq_true_eq]
        omega
      · simp [RedisSelect.updateAfterRead]
  · next hdata =>
      have hzero : ¬ 0 < s.object.queueLength := by simpa [RedisSelect.hasData] using hdata
      exact ⟨⟨h.nonneg, fun hpos => absurd hpos hzero⟩, by simp⟩

end Select

end Swss
