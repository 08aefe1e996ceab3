/-
AgentX/Mib.lean

The table of the MIB entries: `MIBTable.get` and `MIBTable.get_next`.

An entry is for a subtree, by its prefix.  A subtree has an iterator, which gives the least
sub-identifier after another one, and a callable, which may have no value for some of them; what
either throws is caught and is no value.  A scalar answers for every sub-identifier.
-/
import Mathlib.Order.Bounds.Basic
import Sonic.AgentX.Encodings
import Sonic.Lib.LexPrefix
import Sonic.Lib.Table

namespace AgentX

abbrev SubId := List ℕ

/-! ### Entries -/

/-- The iterator of a subtree: it gives the least of its sub-identifiers that is after another. -/
structure SubtreeIterator where
  get_next : SubId → Option SubId
  instances : Set SubId
  least : ∀ s k, get_next s = some k → IsLeast {x | x ∈ instances ∧ s < x} k
  all : ∀ s, get_next s = none → ∀ x ∈ instances, ¬ s < x

/-- The classes of entries, with the callable of each. -/
inductive Handler (V : Type) where
  /-- `MIBEntry`, whose callable is not given the sub-identifier -/
  | scalar (callable_ : Option V)
  /-- `SubtreeMIBEntry` -/
  | subtree (iterator : SubtreeIterator) (callable_ : SubId → Option V)
  /-- `OidMIBEntry`, whose callable is given the whole identifier -/
  | oid (callable_ : List ℕ → Option V)
  /-- `OverlayAdpaterMIBEntry` -/
  | overlay (underlay_mibentry overlay_mibentry : Handler V)

namespace Handler

variable {V : Type}

/-- `__call__`, for an entry of a prefix. -/
def call (pfx : List ℕ) : Handler V → SubId → Option V
  | .scalar callable_, _ => callable_
  | .subtree _ callable_, sub_id => callable_ sub_id
  | .oid callable_, sub_id => callable_ (pfx ++ sub_id)
  | .overlay underlay_mibentry overlay_mibentry, sub_id =>
    (overlay_mibentry.call pfx sub_id).or (underlay_mibentry.call pfx sub_id)

def get_next : Handler V → SubId → Option SubId
  | .scalar _, _ => none
  | .subtree iterator _, sub_id => iterator.get_next sub_id
  | .oid _, _ => none
  | .overlay underlay_mibentry _, sub_id => underlay_mibentry.get_next sub_id

/-- `next(iter(_))`. -/
def first : Handler V → Except Raised (Option SubId)
  | .scalar _ => .ok (some [])
  | .subtree iterator _ => .ok (iterator.get_next [])
  | .oid _ => .error .NotImplementedError
  | .overlay underlay_mibentry _ => underlay_mibentry.first

/-- The sub-identifiers that an entry has. -/
def instances : Handler V → Set SubId
  | .scalar _ => {[]}
  | .subtree iterator _ => iterator.instances
  | .oid _ => Set.univ
  | .overlay underlay_mibentry _ => underlay_mibentry.instances

end Handler

structure MIBEntry where
  value_type : ValueType
  handler : Handler value_type.shape.Value

namespace MIBEntry

def call (e : MIBEntry) (pfx : List ℕ) (sub_id : SubId) : Option e.value_type.shape.Value :=
  e.handler.call pfx sub_id

def get_next (e : MIBEntry) (sub_id : SubId) : Option SubId := e.handler.get_next sub_id

def first (e : MIBEntry) : Except Raised (Option SubId) := e.handler.first

def instances (e : MIBEntry) : Set SubId := e.handler.instances

end MIBEntry

/-! ### The table -/

/-- The dictionary of the entries, and the list of their prefixes: of two prefixes neither starts
with the other. -/
structure MIBTable where
  entries : Table (List ℕ) MIBEntry
  prefixes : List (List ℕ)
  mem_prefixes : ∀ p, p ∈ prefixes ↔ p ∈ entries
  nodup : prefixes.Nodup
  free : LexPrefix.Free prefixes

namespace MIBTable

variable (t : MIBTable)

/-- `sorted(self.prefixes)`. -/
def oids : List (List ℕ) := t.prefixes.insertionSort (· ≤ ·)

/-- `_find_parent_prefix`. -/
def findParentPrefix (item : List ℕ) : Option (List ℕ) :=
  match (t.oids.takeWhile (· ≤ item)).getLast? with
  | none => none
  | some p => if p = item.take p.length then some p else none

/-- `_get_value`, for the entry of a prefix. -/
def getValue (e : MIBEntry) (pfx oid_key : List ℕ) :
    Except Raised (Option ValueRepresentation) :=
  match e.call pfx (oid_key.drop pfx.length) with
  | none => .ok none
  | some oid_value => (ValueRepresentation.from_typecast e.value_type oid_key oid_value).map some

/-- `_get_nextvalue`. -/
def getNextvalue (e : MIBEntry) (pfx oid_key : List ℕ) :
    Except Raised (Option ValueRepresentation) :=
  match e.get_next (oid_key.drop pfx.length) with
  | none => .ok none
  | some key1 =>
    match e.call pfx key1 with
    | none => .ok none
    | some val1 =>
      (ValueRepresentation.from_typecast e.value_type (oid_key.take pfx.length ++ key1)
        val1).map some

/-- What is answered when there is no value. -/
def missing (type_ : ValueType) (h : type_.shape = .empty) (name : ObjectIdentifier) :
    ValueRepresentation :=
  ⟨type_, 0, name, h ▸ ()⟩

def get (sr : SearchRange) : Except Raised ValueRepresentation :=
  match t.findParentPrefix sr.start.to_tuple with
  | none => .ok (missing .NO_SUCH_OBJECT rfl sr.start)
  | some p =>
    match t.entries.lookup p with
    | none => .ok (missing .NO_SUCH_INSTANCE rfl sr.start)
    | some parent_mib_entry =>
      (getValue parent_mib_entry p sr.start.to_tuple).map fun vr =>
        vr.getD (missing .NO_SUCH_INSTANCE rfl sr.start)

/-- The walk over the remaining prefixes, while they are before the end. -/
def walk (end_key : List ℕ) : List (List ℕ) → Except Raised (Option ValueRepresentation)
  | [] => .ok none
  | oid_key :: remaining_oids =>
    if oid_key < end_key then
      match t.entries.lookup oid_key with
      | none => .ok none
      | some mib_entry =>
        match mib_entry.first with
        | .error e => .error e
        | .ok none => walk end_key remaining_oids
        | .ok (some key1) =>
          match mib_entry.call oid_key key1 with
          | none => walk end_key remaining_oids
          | some val1 =>
            (ValueRepresentation.from_typecast mib_entry.value_type (oid_key ++ key1)
              val1).map some
    else .ok none

/-- What the entry that the start belongs to answers. -/
def parentValue (sr : SearchRange) : Except Raised (Option ValueRepresentation) :=
  match t.findParentPrefix sr.start.to_tuple with
  | none => .ok none
  | some p =>
    match t.entries.lookup p with
    | none => .ok none
    | some parent_mib_entry =>
      if sr.start.include_ ≠ 0 then do
        match ← getValue parent_mib_entry p sr.start.to_tuple with
        | some vr => return some vr
        | none => getNextvalue parent_mib_entry p sr.start.to_tuple
      else getNextvalue parent_mib_entry p sr.start.to_tuple

def get_next (sr : SearchRange) : Except Raised ValueRepresentation := do
  match ← t.parentValue sr with
  | some vr => return vr
  | none =>
    match ← t.walk sr.end_.to_tuple (t.oids.dropWhile (· ≤ sr.start.to_tuple)) with
    | some vr => return vr
    | none => return missing .END_OF_MIB_VIEW rfl sr.start

end MIBTable

end AgentX
