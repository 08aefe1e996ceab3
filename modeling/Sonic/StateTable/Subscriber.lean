/-
StateTable/Subscriber.lean

`SubscriberStateTable`: following a table by its keyspace events.

The constructor subscribes first and reads the table afterwards, key by key.
From then on the server sends an event for every change of a name of the table;
an event carries the name and the kind of change only, so the consumer reads the
content when it handles the event.  Writers may run between any two of these
commands.

The invariant speaks of the events of a key that are still to be handled
(`undelivered`).  While there are some, the last one tells whether the key is
gone; when there are none, the tuples delivered show the key as it is
(`KeySettled`).  The content of a key is what `Table::get` reads: the names of
the fields end at the first '@'.
-/
import Sonic.Lib.Transition
import Sonic.Common.TableRead

namespace Swss

open Redis FieldMap
open Transition (Run)
open Std (ExtTreeMap)

/-! ### Events -/

/-- A `pmessage`: the channel and the event. -/
structure KeyspaceEvent where
  channel : String
  event : String
  deriving DecidableEq

/-- The channel on which the changes of a name are published. -/
def keyspaceChannel (dbId : ℕ) (name : String) : String :=
  "__keyspace@" ++ toString dbId ++ "__:" ++ name

/-- `str.substr(str.find(sep) + 1)`; `none` if `sep` does not occur. -/
def substrAfter (sep : List Char) : List Char → Option (List Char)
  | [] => if sep.isPrefixOf [] then some [] else none
  | c :: str => if sep.isPrefixOf (c :: str) then some str else substrAfter sep str

namespace TableBase

/-- The channel matches the pattern `m_keyspace`. -/
def matchesKeyspace (t : TableBase) (e : KeyspaceEvent) : Bool :=
  Db.startsWith (keyspaceChannel t.dbId (t.tableName ++ t.tableSeparator)) e.channel

/-- The key of an event. -/
def eventKey (t : TableBase) (e : KeyspaceEvent) : Option String := do
  let table_entry ← substrAfter [':'] e.channel.toList
  let key ← substrAfter t.tableSeparator.toList table_entry
  some (String.ofList key)

/-- One turn of the loop of `pops`: the tuple of an event, if there is one. -/
def handleEvent (t : TableBase) (db : Db) (e : KeyspaceEvent) : List KeyOpFieldsValuesTuple :=
  match t.eventKey e with
  | none => []
  | some key =>
    if e.event = "del" then [⟨key, DEL_COMMAND, []⟩]
    else
      match (t.read db).get key with
      | none => []
      | some fvs => [⟨key, SET_COMMAND, fvs⟩]

end TableBase

/-! ### The system -/

/-- How far the constructor has got. -/
inductive SubscriberPhase
  | initial
  | subscribed
  | restoring (keys : List String)
  | ready
  deriving DecidableEq

structure Subscriber where
  db : Db
  phase : SubscriberPhase
  /-- What the server has sent and `readData` has not read. -/
  socket : List KeyspaceEvent
  m_keyspace_event_buffer : List KeyspaceEvent
  m_buffer : List KeyOpFieldsValuesTuple
  /-- The tuples that `pops` has handed out. -/
  told : List KeyOpFieldsValuesTuple

/-- A step of a writer, or of the consumer: in the constructor, in `readData` and
in `pops`. -/
inductive SubscriberEvent
  | hset (name : String) (fvs : List (String × String))
  | hdel (name : String) (fields : List String)
  | del (name : String)
  | psubscribe
  | getKeys
  | get
  | readData (messages : ℕ)
  | popBuffer
  | popEvent

namespace Subscriber

/-- A name has changed: the server sends the events the subscription matches. -/
def changed (t : TableBase) (s : Subscriber) (db : Db) (name : String) (events : List String) :
    Subscriber :=
  { s with
    db
    socket :=
      if s.phase = .initial then s.socket
      else s.socket ++ (events.map fun event =>
        ⟨keyspaceChannel t.dbId name, event⟩).filter t.matchesKeyspace }

/-- HDEL of fields some of which are there; a hash that loses its last field is
deleted. -/
def hdelEvents (db : Db) (name : String) : List String :=
  "hdel" :: if db.hgetall name = ∅ then ["del"] else []

inductive Step (t : TableBase) : Subscriber → SubscriberEvent → Subscriber → Prop
  | hset {s : Subscriber} {name : String} {fvs : List (String × String)} :
      fvs ≠ [] →
      Step t s (.hset name fvs) (s.changed t (s.db.hsetAll name fvs) name ["hset"])
  | hdel {s : Subscriber} {name : String} {fields : List String} :
      (∃ field ∈ fields, field ∈ s.db.hgetall name) →
      Step t s (.hdel name fields)
        (s.changed t (s.db.hdelAll name fields) name
          (hdelEvents (s.db.hdelAll name fields) name))
  | del {s : Subscriber} {name : String} :
      s.db.hgetall name ≠ ∅ →
      Step t s (.del name) (s.changed t (s.db.del name) name ["del"])
  | psubscribe {s : Subscriber} :
      s.phase = .initial →
      Step t s .psubscribe { s with phase := .subscribed }
  | getKeys {s : Subscriber} :
      s.phase = .subscribed →
      Step t s .getKeys { s with phase := .restoring (t.read s.db).getKeys }
  | get {s : Subscriber} {key : String} {keys : List String} :
      s.phase = .restoring (key :: keys) →
      Step t s .get
        { s with
          phase := .restoring keys
          m_buffer := s.m_buffer ++
            (((t.read s.db).get key).elim [] fun fvs => [⟨key, SET_COMMAND, fvs⟩]) }
  | restored {s : Subscriber} :
      s.phase = .restoring [] →
      Step t s .get { s with phase := .ready }
  | readData {s : Subscriber} {messages : ℕ} :
      s.phase = .ready → 0 < messages → messages ≤ s.socket.length →
      Step t s (.readData messages)
        { s with
          socket := s.socket.drop messages
          m_keyspace_event_buffer := s.m_keyspace_event_buffer ++ s.socket.take messages }
  | popBuffer {s : Subscriber} :
      s.phase = .ready → s.m_buffer ≠ [] →
      Step t s .popBuffer { s with m_buffer := [], told := s.told ++ s.m_buffer }
  | popEvent {s : Subscriber} {e : KeyspaceEvent} {events : List KeyspaceEvent} :
      s.phase = .ready → s.m_buffer = [] → s.m_keyspace_event_buffer = e :: events →
      Step t s .popEvent
        { s with
          m_keyspace_event_buffer := events
          told := s.told ++ t.handleEvent s.db e }

/-- A consumer before its constructor. -/
def start (db : Db) : Subscriber := ⟨db, .initial, [], [], [], []⟩

end Subscriber

/-! ### What the consumer knows -/

/-- The tuples replayed: SET replaces the fields of a key, DEL removes the key. -/
def mirror (told : List KeyOpFieldsValuesTuple) : String → Hash :=
  told.foldl
    (fun seen kco => Function.update seen kco.kfvKey
      (if kco.kfvOp = DEL_COMMAND then ∅ else merge ∅ kco.kfvFieldsValues))
    fun _ => ∅

/-- The object of a key as `Table::get` reads it. -/
def readObject (h : Hash) : Hash := merge ∅ ((readReply h).getD [])

/-- The events of a key that are still to be handled. -/
def undelivered (t : TableBase) (s : Subscriber) (key : String) : List KeyspaceEvent :=
  (s.m_keyspace_event_buffer ++ s.socket).filter (t.eventKey · = some key)

/-- Nothing is left to be read or handled. -/
structure Subscriber.Drained (s : Subscriber) : Prop where
  phase : s.phase = .ready
  m_buffer : s.m_buffer = []
  events : s.m_keyspace_event_buffer = []
  socket : s.socket = []

variable {t : TableBase} {s s' : Subscriber} {e : KeyspaceEvent} {key key' name : String}
  {h : Hash} {events : List String} {db : Db} {told : List KeyOpFieldsValuesTuple}
  {kco : KeyOpFieldsValuesTuple}

/-! ### Names and channels -/

/-- The name of the hash of a key, as `getKeys` and the events find it. -/
def TableBase.nameOf (t : TableBase) (key : String) : String :=
  t.tableName ++ t.tableSeparator ++ key

/-- The table name does not contain the separator. -/
def TableBase.Plain (t : TableBase) : Prop :=
  ∀ c ∈ t.tableSeparator.toList, c ∉ t.tableName.toList

theorem substrAfter_append {c : Char} {l r : List Char} (hc : c ∉ l) :
    substrAfter [c] (l ++ c :: r) = some r := by
  induction l with
  | nil => simp [substrAfter]
  | cons a l ih =>
    have hne : c ≠ a := fun he => hc (he ▸ List.mem_cons_self)
    have hl : c ∉ l := fun hmem => hc (List.mem_cons_of_mem _ hmem)
    rw [List.cons_append, substrAfter, if_neg (by simpa [List.isPrefixOf] using hne), ih hl]

theorem colon_not_mem_keyspace {dbId : ℕ} :
    ':' ∉ ("__keyspace@" ++ toString dbId ++ "__").toList := by
  have hdigit : ':' ∉ (toString dbId).toList := by
    intro hmem
    have hdigits : ':' ∈ Nat.toDigits 10 dbId := by simpa using hmem
    exact absurd (Nat.isDigit_of_mem_toDigits (by decide) (by decide) hdigits) (by decide)
  simp only [String.toList_append, List.mem_append, not_or]
  exact ⟨⟨by decide, hdigit⟩, by decide⟩

/-- The key of an event on a name of the table. -/
theorem eventKey_nameOf (hplain : t.Plain) {event : String} :
    t.eventKey ⟨keyspaceChannel t.dbId (t.nameOf key), event⟩ = some key := by
  have hchannel : (keyspaceChannel t.dbId (t.nameOf key)).toList
      = ("__keyspace@" ++ toString t.dbId ++ "__").toList ++ ':' :: (t.nameOf key).toList := by
    simp [keyspaceChannel]
  obtain ⟨c, hsep⟩ : ∃ c, t.tableSeparator = String.singleton c := by
    rcases t.tableSeparator_eq with hsep | hsep
    · exact ⟨':', hsep⟩
    · exact ⟨'|', hsep⟩
  have hname : (t.nameOf key).toList = t.tableName.toList ++ c :: key.toList := by
    simp [TableBase.nameOf, hsep]
  have hc : c ∉ t.tableName.toList := hplain c (by simp [hsep])
  have hseplist : t.tableSeparator.toList = [c] := by simp [hsep]
  simp only [TableBase.eventKey, hchannel, substrAfter_append colon_not_mem_keyspace, hname,
    hseplist, Option.bind_eq_bind, Option.bind_some, substrAfter_append hc, String.ofList_toList]

/-- The server sends the events of the names of the table. -/
theorem matchesKeyspace_iff {event : String} :
    t.matchesKeyspace ⟨keyspaceChannel t.dbId name, event⟩ = true ↔
      ∃ key, name = t.nameOf key := by
  rw [TableBase.matchesKeyspace, Db.startsWith, List.isPrefixOf_iff_prefix]
  have hchannel : ∀ name : String, (keyspaceChannel t.dbId name).toList
      = ("__keyspace@" ++ toString t.dbId ++ "__:").toList ++ name.toList := by
    intro name
    simp [keyspaceChannel]
  show (keyspaceChannel t.dbId (t.tableName ++ t.tableSeparator)).toList
    <+: (keyspaceChannel t.dbId name).toList ↔ _
  rw [hchannel, hchannel, List.prefix_append_right_inj]
  constructor
  · rintro ⟨rest, hrest⟩
    refine ⟨String.ofList rest, ?_⟩
    rw [← String.toList_inj, ← hrest]
    simp [TableBase.nameOf]
  · rintro ⟨key, rfl⟩
    exact ⟨key.toList, by simp [TableBase.nameOf]⟩

/-- A change of a name is sent to the consumer as events of its key. -/
theorem undelivered_changed (hplain : t.Plain) (s : Subscriber) (db : Db) (name key : String)
    (events : List String) :
    undelivered t (s.changed t db name events) key = undelivered t s key ++
      if s.phase ≠ .initial ∧ name = t.nameOf key then
        events.map fun event => ⟨keyspaceChannel t.dbId name, event⟩
      else [] := by
  by_cases hphase : s.phase = .initial
  · simp [undelivered, Subscriber.changed, hphase]
  · have hsent : ((events.map fun event => (⟨keyspaceChannel t.dbId name, event⟩ :
          KeyspaceEvent)).filter t.matchesKeyspace).filter (t.eventKey · = some key)
        = if name = t.nameOf key then
            events.map fun event => ⟨keyspaceChannel t.dbId name, event⟩
          else [] := by
      rw [List.filter_filter]
      by_cases hname : name = t.nameOf key
      · rw [if_pos hname, List.filter_eq_self]
        intro e he
        obtain ⟨event, -, rfl⟩ := List.mem_map.mp he
        rw [matchesKeyspace_iff.mpr ⟨key, hname⟩, hname, eventKey_nameOf hplain]
        simp
      · rw [if_neg hname, List.filter_eq_nil_iff]
        intro e he hboth
        obtain ⟨event, -, rfl⟩ := List.mem_map.mp he
        obtain ⟨hkey, hmatch⟩ := Bool.and_eq_true_iff.mp hboth
        obtain ⟨key', hname'⟩ := matchesKeyspace_iff.mp hmatch
        rw [hname', eventKey_nameOf hplain] at hkey
        have he : key' = key := by simpa using hkey
        exact hname (he ▸ hname')
    simp only [undelivered, Subscriber.changed, hphase, if_false, ne_eq, not_false_eq_true,
      true_and]
    rw [← List.append_assoc, List.filter_append, hsent]

/-! ### Reading and replaying -/

theorem readObject_eq_empty : readObject h = ∅ ↔ h = ∅ := by
  constructor
  · intro hread
    have hnil := (merge_eq_empty.mp hread).2
    by_contra hne
    obtain ⟨fvs, hfvs⟩ := Option.ne_none_iff_exists'.mp fun hnone => hne (readReply_eq_none.mp hnone)
    have hfields : (h.toList.map fun fv => (stripSpecialSym fv.1, fv.2)) = [] := by
      have hsome := hfvs
      rw [readReply, if_neg (by simpa using hne)] at hsome
      rw [hfvs] at hnil
      rw [Option.some.inj hsome]
      exact hnil
    have hlist : h.toList = [] := List.map_eq_nil_iff.mp hfields
    exact hne (by rw [← merge_empty_toList (g := h), hlist, merge_nil])
  · rintro rfl
    rw [readObject, readReply_eq_none.mpr rfl]
    rfl

theorem mirror_concat :
    mirror (told ++ [kco]) key
      = if kco.kfvKey = key then
          (if kco.kfvOp = DEL_COMMAND then ∅ else merge ∅ kco.kfvFieldsValues)
        else mirror told key := by
  rw [mirror, List.foldl_append]
  by_cases hkey : kco.kfvKey = key
  · subst hkey
    simp
  · simp [hkey, Ne.symm hkey, mirror]

/-- `get` of a key with a name reads the hash that `getKeys` has found. -/
theorem get_read (hkey : key ≠ "") :
    (t.read db).get key = readReply (db.hgetall (t.nameOf key)) := by
  show readReply (db.hgetall (t.getKeyName key)) = _
  rw [TableBase.getKeyName, if_neg hkey, TableBase.nameOf]

/-- A key with an object is listed by `getKeys`. -/
theorem mem_getKeys_read (hne : db.hgetall (t.nameOf key) ≠ ∅) : key ∈ (t.read db).getKeys := by
  refine List.mem_map.mpr ⟨t.nameOf key, Db.mem_keys.mpr ⟨Or.inl hne, ?_⟩, ?_⟩
  · rw [Db.startsWith, List.isPrefixOf_iff_prefix]
    exact ⟨key.toList, by simp [TableBase.nameOf]⟩
  · have hlen : t.tableSeparator.toList.length = 1 := by
      rcases t.tableSeparator_eq with hsep | hsep <;> simp [hsep]
    have hdrop : (t.nameOf key).toList
        = (t.tableName.toList ++ t.tableSeparator.toList) ++ key.toList := by
      simp [TableBase.nameOf]
    have hprefix : t.tableName.length + 1
        = (t.tableName.toList ++ t.tableSeparator.toList).length := by
      rw [List.length_append, hlen, String.length_toList]
    rw [TableBase.dumpKey, hdrop, hprefix, List.drop_left, String.ofList_toList]

/-! ### The invariant -/

/-- The constructor has still to read the key. -/
def SubscriberPhase.ToRead (key : String) : SubscriberPhase → Prop
  | .initial => True
  | .subscribed => True
  | .restoring keys => key ∈ keys
  | .ready => False

/-- What holds of one key.  The last event to be handled says whether the key is
there; without one, the tuples show the key as it is, or the constructor has it
still to read. -/
structure KeySettled (t : TableBase) (s : Subscriber) (key : String) : Prop where
  last : ∀ e, (undelivered t s key).getLast? = some e →
    (e.event = "del" ↔ s.db.hgetall (t.nameOf key) = ∅)
  quiet : undelivered t s key = [] →
    mirror (s.told ++ s.m_buffer) key = readObject (s.db.hgetall (t.nameOf key)) ∨
      s.phase.ToRead key ∧ mirror (s.told ++ s.m_buffer) key = ∅
  initial : s.phase = .initial →
    undelivered t s key = [] ∧ mirror (s.told ++ s.m_buffer) key = ∅

/-- A write settles the keys it is not about, and leaves events for the one it is
about: the last one says whether the key is there. -/
theorem KeySettled.changed (hplain : t.Plain) (h : KeySettled t s key)
    (hothers : ∀ name', name ≠ name' → db.hgetall name' = s.db.hgetall name')
    (hevents : ∃ event, events.getLast? = some event ∧
      (event = "del" ↔ db.hgetall name = ∅)) :
    KeySettled t (s.changed t db name events) key := by
  have hsent := undelivered_changed hplain s db name key events
  by_cases hphase : s.phase = .initial
  · rw [if_neg (by simp [hphase]), List.append_nil] at hsent
    obtain ⟨hnone, hmirror⟩ := h.initial hphase
    refine ⟨?_, fun _ => Or.inr ⟨?_, hmirror⟩, fun _ => ⟨hsent.trans hnone, hmirror⟩⟩
    · intro e he
      rw [hsent, hnone] at he
      exact absurd he (by simp)
    · show s.phase.ToRead key
      simp [hphase, SubscriberPhase.ToRead]
  · have hinitial : (s.changed t db name events).phase ≠ .initial := hphase
    by_cases hname : name = t.nameOf key
    · obtain ⟨event, hlast, hdel⟩ := hevents
      rw [if_pos ⟨hphase, hname⟩] at hsent
      have hlast' : (undelivered t (s.changed t db name events) key).getLast?
          = some ⟨keyspaceChannel t.dbId name, event⟩ := by
        rw [hsent, List.getLast?_append, List.getLast?_map, hlast]
        rfl
      refine ⟨?_, ?_, fun hne => absurd hne hinitial⟩
      · intro e he
        obtain rfl := Option.some.inj (hlast'.symm.trans he)
        rw [← hname]
        exact hdel
      · intro hnil
        rw [hnil] at hlast'
        exact absurd hlast' (by simp)
    · rw [if_neg (by simp [hname]), List.append_nil] at hsent
      have hsame : db.hgetall (t.nameOf key) = s.db.hgetall (t.nameOf key) := hothers _ hname
      refine ⟨?_, ?_, fun hne => absurd hne hinitial⟩
      · intro e he
        rw [hsent] at he
        show e.event = "del" ↔ db.hgetall (t.nameOf key) = ∅
        rw [hsame]
        exact h.last e he
      · intro hnil
        rw [hsent] at hnil
        show mirror (s.told ++ s.m_buffer) key = readObject (db.hgetall (t.nameOf key)) ∨ _
        rw [hsame]
        exact h.quiet hnil

/-- Handling the last event of a key shows the key as it is. -/
theorem mirror_handleEvent (hkey : key ≠ "") (hevent : t.eventKey e = some key)
    (hlast : e.event = "del" ↔ s.db.hgetall (t.nameOf key) = ∅) :
    mirror (told ++ t.handleEvent s.db e) key = readObject (s.db.hgetall (t.nameOf key)) := by
  unfold TableBase.handleEvent
  rw [hevent]
  dsimp only
  split
  · next hdel =>
      rw [mirror_concat, if_pos rfl, if_pos rfl, hlast.mp hdel]
      exact (readObject_eq_empty.mpr rfl).symm
  · next hdel =>
      have hne : s.db.hgetall (t.nameOf key) ≠ ∅ := fun hempty => hdel (hlast.mpr hempty)
      obtain ⟨fvs, hfvs⟩ := Option.ne_none_iff_exists'.mp
        fun hnone => hne (readReply_eq_none.mp hnone)
      rw [get_read hkey, hfvs]
      dsimp only
      have hop : SET_COMMAND ≠ DEL_COMMAND := by decide
      rw [mirror_concat, if_pos rfl, if_neg hop, readObject, hfvs]
      rfl

/-- Handling an event of another key, or of none, does not show in the mirror. -/
theorem mirror_handleEvent_of_ne (hevent : t.eventKey e ≠ some key) :
    mirror (told ++ t.handleEvent db e) key = mirror told key := by
  unfold TableBase.handleEvent
  rcases hkey : t.eventKey e with - | key'
  · simp
  · have hne : key' ≠ key := fun he => hevent (he ▸ hkey)
    dsimp only
    split
    · rw [mirror_concat, if_neg hne]
    · rcases (t.read db).get key' with - | fvs
      · simp
      · dsimp only
        rw [mirror_concat, if_neg hne]

/-- Every step keeps every key settled. -/
theorem KeySettled.step (hplain : t.Plain) (hkey : key ≠ "") {event : SubscriberEvent}
    (h : KeySettled t s key) (hstep : Subscriber.Step t s event s') : KeySettled t s' key := by
  cases hstep with
  | @hset name fvs hfvs =>
    refine h.changed hplain ?_ ⟨"hset", rfl, ?_⟩
    · intro name' hne
      simp [hne]
    · simpa using fun hempty => hfvs (merge_eq_empty.mp hempty).2
  | @hdel name fields hfields =>
    refine h.changed hplain ?_ ?_
    · intro name' hne
      simp [hne]
    · unfold Subscriber.hdelEvents
      split
      · next hempty => exact ⟨"del", rfl, by simpa using hempty⟩
      · next hempty => exact ⟨"hdel", rfl, by simpa using hempty⟩
  | @del name hname =>
    refine h.changed hplain ?_ ⟨"del", rfl, by simp⟩
    intro name' hne
    simp [hne]
  | psubscribe hphase =>
    obtain ⟨hnone, hmirror⟩ := h.initial hphase
    exact ⟨h.last, fun _ => Or.inr ⟨trivial, hmirror⟩, fun hne => absurd hne (by simp)⟩
  | getKeys hphase =>
    refine ⟨h.last, ?_, fun hne => absurd hne (by simp)⟩
    intro hnil
    rcases h.quiet hnil with hsame | ⟨-, hmirror⟩
    · exact Or.inl hsame
    · by_cases hempty : s.db.hgetall (t.nameOf key) = ∅
      · refine Or.inl ?_
        show mirror (s.told ++ s.m_buffer) key = _
        rw [hmirror, hempty, readObject_eq_empty.mpr rfl]
      · exact Or.inr ⟨mem_getKeys_read hempty, hmirror⟩
  | @get key' keys hphase =>
    refine ⟨h.last, ?_, fun hne => absurd hne (by simp)⟩
    intro hnil
    show mirror (s.told ++ (s.m_buffer ++ _)) key = _ ∨ _
    rw [← List.append_assoc]
    by_cases he : key' = key
    · -- the key is read now, or it is not there
      subst he
      rw [get_read hkey]
      rcases hread : readReply (s.db.hgetall (t.nameOf key')) with - | fvs
      · have hempty := readReply_eq_none.mp hread
        have hobject : readObject (s.db.hgetall (t.nameOf key')) = ∅ :=
          readObject_eq_empty.mpr hempty
        simp only [Option.elim_none, List.append_nil]
        rcases h.quiet hnil with hsame | ⟨-, hmirror⟩
        · exact Or.inl hsame
        · exact Or.inl (hmirror.trans hobject.symm)
      · refine Or.inl ?_
        have hop : SET_COMMAND ≠ DEL_COMMAND := by decide
        rw [Option.elim_some, mirror_concat, if_pos rfl, if_neg hop, readObject, hread]
        rfl
    · have hmirror : mirror (s.told ++ s.m_buffer ++
          ((t.read s.db).get key').elim [] fun fvs => [⟨key', SET_COMMAND, fvs⟩]) key
            = mirror (s.told ++ s.m_buffer) key := by
        rcases (t.read s.db).get key' with - | fvs
        · simp
        · rw [Option.elim_some, mirror_concat, if_neg he]
      rw [hmirror]
      rcases h.quiet hnil with hsame | ⟨hread, hempty⟩
      · exact Or.inl hsame
      · rw [hphase] at hread
        exact Or.inr ⟨(List.mem_cons.mp hread).resolve_left (Ne.symm he), hempty⟩
  | restored hphase =>
    refine ⟨h.last, ?_, fun hne => absurd hne (by simp)⟩
    intro hnil
    rcases h.quiet hnil with hsame | ⟨hread, -⟩
    · exact Or.inl hsame
    · rw [hphase] at hread
      exact absurd hread (by simp [SubscriberPhase.ToRead])
  | @readData messages hphase hpos hle =>
    -- events move from the socket to the buffer
    have hsame : undelivered t
        { s with
          socket := s.socket.drop messages
          m_keyspace_event_buffer := s.m_keyspace_event_buffer ++ s.socket.take messages } key
        = undelivered t s key := by
      simp [undelivered, List.append_assoc, List.take_append_drop]
    refine ⟨?_, ?_, fun hne => absurd (hphase.symm.trans hne) (by simp)⟩
    · rw [hsame]
      exact h.last
    · rw [hsame]
      exact h.quiet
  | popBuffer hphase hbuffer =>
    refine ⟨h.last, ?_, fun hne => absurd (hphase.symm.trans hne) (by simp)⟩
    intro hnil
    show mirror (s.told ++ s.m_buffer ++ []) key = _ ∨ _
    rw [List.append_nil]
    exact h.quiet hnil
  | @popEvent e events hphase hbuffer hevents =>
    have hquiet : ¬ s.phase.ToRead key := by simp [hphase, SubscriberPhase.ToRead]
    have hready : s.phase ≠ .initial := by simp [hphase]
    have hsplit : undelivered t s key
        = (if t.eventKey e = some key then [e] else []) ++
          (events ++ s.socket).filter (t.eventKey · = some key) := by
      rw [undelivered, hevents, List.cons_append, List.filter_cons]
      by_cases he : t.eventKey e = some key <;> simp [he]
    refine ⟨?_, ?_, fun hne => absurd hne hready⟩
    · intro e' he'
      refine h.last e' ?_
      rw [hsplit, List.getLast?_append]
      have hlast : ((events ++ s.socket).filter (t.eventKey · = some key)).getLast?
          = some e' := he'
      rw [hlast]
      rfl
    · intro hnil
      have hrest : (events ++ s.socket).filter (t.eventKey · = some key) = [] := hnil
      rw [hrest, List.append_nil] at hsplit
      refine Or.inl ?_
      show mirror (s.told ++ t.handleEvent s.db e ++ s.m_buffer) key = _
      rw [hbuffer, List.append_nil]
      by_cases he : t.eventKey e = some key
      · rw [if_pos he] at hsplit
        exact mirror_handleEvent hkey he (h.last e (by simp [hsplit]))
      · rw [if_neg he] at hsplit
        rw [mirror_handleEvent_of_ne he]
        have hold := (h.quiet hsplit).resolve_right fun hread => hquiet hread.1
        rwa [hbuffer, List.append_nil] at hold

/-! ### Convergence -/

theorem keySettled_start : KeySettled t (Subscriber.start db) key where
  last e he := absurd he (by simp [undelivered, Subscriber.start])
  quiet _ := Or.inr ⟨trivial, rfl⟩
  initial _ := ⟨rfl, rfl⟩

/-- The table of the runs below. -/
def vlanTable : TableBase := ⟨CONFIG_DB, "VLAN"⟩

/-- A consumer that finds `VLAN|k` with one field, once its constructor is through
and the snapshot has been popped. -/
def restoredVlan (field : String) : Subscriber where
  db := Db.empty.hset "VLAN|k" field "e0"
  phase := .ready
  socket := []
  m_keyspace_event_buffer := []
  m_buffer := []
  told := [⟨"k", "SET", [(stripSpecialSym field, "e0")]⟩]

theorem run_restoredVlan (field : String)
    (hkeys : (vlanTable.read (Db.empty.hset "VLAN|k" field "e0")).getKeys = ["k"])
    (hget : (vlanTable.read (Db.empty.hset "VLAN|k" field "e0")).get "k"
      = some [(stripSpecialSym field, "e0")]) :
    Run (Subscriber.Step vlanTable) (Subscriber.start (Db.empty.hset "VLAN|k" field "e0"))
      [.psubscribe, .getKeys, .get, .get, .popBuffer] (restoredVlan field) := by
  let s₀ := Subscriber.start (Db.empty.hset "VLAN|k" field "e0")
  let told : List KeyOpFieldsValuesTuple := [⟨"k", "SET", [(stripSpecialSym field, "e0")]⟩]
  have h₁ : Subscriber.Step vlanTable s₀ .psubscribe { s₀ with phase := .subscribed } :=
    .psubscribe rfl
  have h₂ : Subscriber.Step vlanTable { s₀ with phase := .subscribed } .getKeys
      { s₀ with phase := .restoring ["k"] } := by
    rw [← hkeys]
    exact .getKeys rfl
  have h₃ : Subscriber.Step vlanTable { s₀ with phase := .restoring ["k"] } .get
      { s₀ with phase := .restoring [], m_buffer := told } := by
    have hstep := Subscriber.Step.get (t := vlanTable)
      (s := { s₀ with phase := .restoring ["k"] }) rfl
    rw [show (vlanTable.read s₀.db).get "k" = some [(stripSpecialSym field, "e0")] from hget]
      at hstep
    exact hstep
  have h₄ : Subscriber.Step vlanTable { s₀ with phase := .restoring [], m_buffer := told } .get
      { s₀ with phase := .ready, m_buffer := told } := .restored rfl
  have h₅ : Subscriber.Step vlanTable { s₀ with phase := .ready, m_buffer := told } .popBuffer
      (restoredVlan field) := .popBuffer rfl (by simp [told])
  exact ((((Run.single h₁).snoc h₂).snoc h₃).snoc h₄).snoc h₅

theorem drained_restoredVlan {field : String} : (restoredVlan field).Drained :=
  ⟨rfl, rfl, rfl, rfl⟩

end Swss
