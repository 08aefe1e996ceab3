/-
Syncd/FdbEvent.lean

FDB notifications of the vendor (`process_on_fdb_event`).

The events of a notification are checked, translated and stored one after the other.  From the
first event with an unknown RID on nothing is stored, and the notification is not sent; what is
before it is stored already.  So a notification is taken as a whole or not at all exactly if
all its events can be stored, or those before the first that cannot leave the database as it
was (`process_on_fdb_event_iff`).
-/
import Sonic.Redis.Db
import Sonic.Sai.Address

namespace Syncd

open Std (ExtTreeMap)
open Redis Sai

/-! ### Events -/

/-- The attributes of an FDB entry by their number: the name, and whether it is an object id. -/
def fdbAttrMetadata : ℕ → Option (String × Bool)
  | 0 => some ("SAI_FDB_ENTRY_ATTR_TYPE", false)
  | 1 => some ("SAI_FDB_ENTRY_ATTR_PACKET_ACTION", false)
  | 2 => some ("SAI_FDB_ENTRY_ATTR_USER_TRAP_ID", true)
  | 3 => some ("SAI_FDB_ENTRY_ATTR_BRIDGE_PORT_ID", true)
  | 4 => some ("SAI_FDB_ENTRY_ATTR_META_DATA", false)
  | 5 => some ("SAI_FDB_ENTRY_ATTR_ENDPOINT_IP", false)
  | 6 => some ("SAI_FDB_ENTRY_ATTR_COUNTER_ID", true)
  | _ => none

def SAI_FDB_ENTRY_ATTR_BRIDGE_PORT_ID : ℕ := 3

/-- An attribute: its value as an object id, and the text of a value of another type. -/
structure FdbAttr where
  id : ℕ
  oid : sai_object_id_t
  text : String
deriving DecidableEq

inductive sai_fdb_event_t
  | LEARNED | AGED | MOVE | FLUSHED
deriving DecidableEq

/-- `sai_fdb_event_notification_data_t` -/
structure FdbEvent where
  event_type : sai_fdb_event_t
  switch_id : sai_object_id_t
  mac_address : sai_mac_t
  bv_id : sai_object_id_t
  attr : List FdbAttr
deriving DecidableEq

/-- `sai_serialize_object_id` as a text. -/
def oidText (oid : sai_object_id_t) : String := String.ofList (sai_serialize_object_id oid)

/-- `sai_serialize_fdb_entry`: a JSON object with its keys in order. -/
def sai_serialize_fdb_entry (e : FdbEvent) : String :=
  "\x7b\"bvid\":\"" ++ oidText e.bv_id ++ "\",\"mac\":\"" ++
    String.ofList (sai_serialize_mac e.mac_address) ++ "\",\"switch_id\":\"" ++
    oidText e.switch_id ++ "\"\x7d"

/-! ### The database -/

def RIDTOVID : String := "RIDTOVID"

def VIDTORID : String := "VIDTORID"

/-- The keys of FDB entries begin so. -/
def fdbPrefix : String := "ASIC_STATE:SAI_OBJECT_TYPE_FDB_ENTRY:"

/-- The database, the local copies of its RID maps, and the notifications that were sent. -/
structure NtfState where
  db : Db
  local_rid_to_vid : ExtTreeMap sai_object_id_t sai_object_id_t
  local_vid_to_rid : ExtTreeMap sai_object_id_t sai_object_id_t
  sent : List (List FdbEvent)

/-- `check_rid_exists` -/
def check_rid_exists (s : NtfState) (rid : sai_object_id_t) : Bool :=
  rid = 0 || s.local_rid_to_vid.contains rid || (s.db.hgetall RIDTOVID).contains (oidText rid)

/-- The new VID of a RID that is not known yet: `sai_object_type_query` of the vendor and
`redis_create_virtual_object_id`; `none` is an exception. -/
abbrev NewVid := Db → sai_object_id_t → sai_object_id_t → Option (sai_object_id_t × Db)

/-- `translate_rid_to_vid`; `none` is an exception. -/
def translate_rid_to_vid (newVid : NewVid) (s : NtfState) (rid switch_vid : sai_object_id_t) :
    Option (sai_object_id_t × NtfState) :=
  if rid = 0 then some (0, s)
  else
    match s.local_rid_to_vid[rid]? with
    | some vid => some (vid, s)
    | none =>
      match (s.db.hgetall RIDTOVID)[oidText rid]? with
      | some str_vid => (sai_deserialize_object_id str_vid.toList).map fun vid => (vid, s)
      | none =>
        (newVid s.db rid switch_vid).map fun (vid, db) =>
          (vid, { s with
            db := (db.hset RIDTOVID (oidText rid) (oidText vid)).hset VIDTORID (oidText vid)
              (oidText rid)
            local_rid_to_vid := s.local_rid_to_vid.insert rid vid
            local_vid_to_rid := s.local_vid_to_rid.insert vid rid })

/-- `translate_rid_to_vid_list`, for the attributes of an FDB entry; `none` is an exception. -/
def translate_rid_to_vid_list (newVid : NewVid) (switch_id : sai_object_id_t) :
    NtfState → List FdbAttr → Option (List FdbAttr × NtfState)
  | s, [] => some ([], s)
  | s, a :: rest =>
    match fdbAttrMetadata a.id with
    | none => none
    | some (_, isOid) =>
      if isOid then do
        let (vid, s) ← translate_rid_to_vid newVid s a.oid switch_id
        let (rest, s) ← translate_rid_to_vid_list newVid switch_id s rest
        some ({ a with oid := vid } :: rest, s)
      else do
        let (rest, s) ← translate_rid_to_vid_list newVid switch_id s rest
        some (a :: rest, s)

/-- The translation of an event in `process_on_fdb_event`; `none` is an exception. -/
def translateEvent (newVid : NewVid) (s : NtfState) (e : FdbEvent) :
    Option (FdbEvent × NtfState) := do
  let (switch_id, s) ← translate_rid_to_vid newVid s e.switch_id 0
  let (bv_id, s) ← translate_rid_to_vid newVid s e.bv_id switch_id
  let (attr, s) ← translate_rid_to_vid_list newVid switch_id s e.attr
  some ({ e with switch_id := switch_id, bv_id := bv_id, attr := attr }, s)

/-- `check_fdb_event_notification_data` -/
def check_fdb_event_notification_data (s : NtfState) (e : FdbEvent) : Bool :=
  check_rid_exists s e.bv_id &&
    (check_rid_exists s e.switch_id && !decide (e.switch_id = 0)) &&
    e.attr.all fun a =>
      match fdbAttrMetadata a.id with
      | some (_, true) => check_rid_exists s a.oid
      | _ => true

/-! ### Storing an event -/

/-- `serialize_attr_list`, of attributes with metadata. -/
def serialize_attr_list (attr : List FdbAttr) : List (String × String) :=
  attr.filterMap fun a => (fdbAttrMetadata a.id).map fun (name, isOid) =>
    (name, if isOid then oidText a.oid else a.text)

/-- The bridge port of a flush event: the last one that is given. -/
def flushPort (attr : List FdbAttr) : sai_object_id_t :=
  attr.foldl (fun port_oid a => if a.id = SAI_FDB_ENTRY_ATTR_BRIDGE_PORT_ID then a.oid else port_oid) 0

/-- Delete the dynamic entries among some keys. -/
def delDynamic (db : Db) (keys : List String) : Db :=
  keys.foldl (fun db key =>
    if (db.hgetall key)["SAI_FDB_ENTRY_ATTR_TYPE"]? = some "SAI_FDB_ENTRY_TYPE_DYNAMIC" then
      db.del key
    else db) db

/-- `redisPutFdbEntryToAsicView` -/
def redisPutFdbEntryToAsicView (db : Db) (fdb : FdbEvent) : Db :=
  let key := fdbPrefix ++ sai_serialize_fdb_entry fdb
  if (fdb.switch_id = 0 ∨ fdb.bv_id = 0) ∧ fdb.event_type ≠ .FLUSHED then db
  else if fdb.event_type = .AGED then db.del key
  else if fdb.event_type = .FLUSHED then
    -- flushes of a port or of a VLAN are not supported
    if flushPort fdb.attr = 0 ∧ fdb.bv_id = 0 then delDynamic db (db.keys fdbPrefix) else db
  else
    (db.hsetAll key (serialize_attr_list fdb.attr)).hset key "SAI_FDB_ENTRY_ATTR_TYPE"
      "SAI_FDB_ENTRY_TYPE_DYNAMIC"

/-! ### The notification -/

/-- The loop of `process_on_fdb_event`: the state, `sendntf` and the events so far, which are
translated in place.  The flag is not there after an exception. -/
def fdbLoop (newVid : NewVid) : NtfState → Bool → List FdbEvent → List FdbEvent →
    NtfState × Option (Bool × List FdbEvent)
  | s, sendntf, before, [] => (s, some (sendntf, before))
  | s, sendntf, before, e :: rest =>
    if (sendntf && check_fdb_event_notification_data s e) = false then
      fdbLoop newVid s false (before ++ [e]) rest
    else
      match translateEvent newVid s e with
      | none => (s, none)
      | some (fdb, s) =>
        fdbLoop newVid { s with db := redisPutFdbEntryToAsicView s.db fdb } true
          (before ++ [fdb]) rest

/-- `process_on_fdb_event` -/
def process_on_fdb_event (newVid : NewVid) (s : NtfState) (data : List FdbEvent) : NtfState :=
  match fdbLoop newVid s true [] data with
  | (s, some (true, data)) => { s with sent := s.sent ++ [data] }
  | (s, _) => s

/-! ### What can be stored -/

variable {newVid : NewVid} {s t : NtfState} {e fdb : FdbEvent} {rid vid switch_id : sai_object_id_t}
  {attr : List FdbAttr} {data before fdbs : List FdbEvent} {db : Db}

/-- The VID of a RID that is known. -/
def knownVid (s : NtfState) (rid : sai_object_id_t) : Option sai_object_id_t :=
  if rid = 0 then some 0
  else
    match s.local_rid_to_vid[rid]? with
    | some vid => some vid
    | none => (s.db.hgetall RIDTOVID)[oidText rid]?.bind fun str_vid =>
      sai_deserialize_object_id str_vid.toList

/-- An attribute with known RIDs, translated. -/
def knownAttr (s : NtfState) (a : FdbAttr) : Option FdbAttr :=
  match fdbAttrMetadata a.id with
  | none => none
  | some (_, isOid) =>
    if isOid then (knownVid s a.oid).map fun vid => { a with oid := vid } else some a

/-- An event with known RIDs, translated. -/
def knownEvent (s : NtfState) (e : FdbEvent) : Option FdbEvent :=
  (knownVid s e.switch_id).bind fun switch_id => (knownVid s e.bv_id).bind fun bv_id =>
    (e.attr.mapM (knownAttr s)).map fun attr =>
      { e with switch_id := switch_id, bv_id := bv_id, attr := attr }

/-- The event that is stored, if the event can be stored: its RIDs are known, its switch is
given, and its attributes are those of an FDB entry. -/
def taken (s : NtfState) (e : FdbEvent) : Option FdbEvent :=
  if check_fdb_event_notification_data s e then knownEvent s e else none

/-- The events that are stored: those before the first that cannot be. -/
def takenPrefix (s : NtfState) : List FdbEvent → List FdbEvent
  | [] => []
  | e :: rest =>
    match taken s e with
    | none => []
    | some fdb => fdb :: takenPrefix s rest

/-- The events put into the database, one after the other. -/
def putAll (db : Db) (fdbs : List FdbEvent) : Db := fdbs.foldl redisPutFdbEntryToAsicView db

/-- **All or nothing**: if all events can be stored, they are, and the notification is sent; and
else the state is as before. -/
def AllOrNothing (s : NtfState) (data : List FdbEvent) (t : NtfState) : Prop :=
  match data.mapM (taken s) with
  | some fdbs => t = { s with db := putAll s.db fdbs, sent := s.sent ++ [fdbs] }
  | none => t = s

/-! ### Translating known RIDs -/

theorem translate_of_exists (h : check_rid_exists s rid = true) :
    translate_rid_to_vid newVid s rid switch_id = (knownVid s rid).map fun vid => (vid, s) := by
  unfold translate_rid_to_vid knownVid
  by_cases hzero : rid = 0
  · rw [if_pos hzero, if_pos hzero]
    rfl
  · rw [if_neg hzero, if_neg hzero]
    cases hlocal : s.local_rid_to_vid[rid]? with
    | some vid => rfl
    | none =>
      cases hredis : (s.db.hgetall RIDTOVID)[oidText rid]? with
      | some str_vid => rfl
      | none =>
        -- the RID is in neither map
        have hnot : check_rid_exists s rid = false := by
          rw [check_rid_exists, decide_eq_false hzero, Bool.false_or, Bool.or_eq_false_iff]
          constructor
          · rw [ExtTreeMap.contains_eq_isSome_getElem?, hlocal]
            rfl
          · rw [ExtTreeMap.contains_eq_isSome_getElem?, hredis]
            rfl
        exact absurd (hnot.symm.trans h) Bool.false_ne_true

/-- The attributes of an event that is checked. -/
def CheckedAttrs (s : NtfState) (attr : List FdbAttr) : Prop :=
  ∀ a ∈ attr, ∀ name, fdbAttrMetadata a.id = some (name, true) → check_rid_exists s a.oid = true

theorem translate_list_of_checked (h : CheckedAttrs s attr) :
    translate_rid_to_vid_list newVid switch_id s attr =
      (attr.mapM (knownAttr s)).map fun attr => (attr, s) := by
  induction attr with
  | nil => rfl
  | cons a rest ih =>
    have hrest := ih fun b hb => h b (List.mem_cons_of_mem _ hb)
    rw [translate_rid_to_vid_list, List.mapM_cons, knownAttr]
    cases hmeta : fdbAttrMetadata a.id with
    | none => rfl
    | some m =>
      obtain ⟨name, isOid⟩ := m
      cases isOid with
      | true =>
        have hexists := h a List.mem_cons_self name hmeta
        simp only [if_true, translate_of_exists hexists]
        cases knownVid s a.oid with
        | none => rfl
        | some vid =>
          show (translate_rid_to_vid_list newVid switch_id s rest >>= _) = _
          rw [hrest]
          cases rest.mapM (knownAttr s) <;> rfl
      | false =>
        simp only [hrest]
        cases rest.mapM (knownAttr s) <;> rfl

/-- An event that is checked is translated, or raises an exception, in the same state. -/
theorem translateEvent_of_check (h : check_fdb_event_notification_data s e = true) :
    translateEvent newVid s e = (taken s e).map fun fdb => (fdb, s) := by
  rw [taken, if_pos h, translateEvent, knownEvent]
  unfold check_fdb_event_notification_data at h
  rw [Bool.and_eq_true, Bool.and_eq_true, Bool.and_eq_true] at h
  obtain ⟨⟨hbv, hswitch, -⟩, hattrs⟩ := h
  have hchecked : CheckedAttrs s e.attr := by
    intro a ha name hmeta
    have hall := List.all_eq_true.mp hattrs a ha
    rw [hmeta] at hall
    exact hall
  rw [translate_of_exists hswitch]
  cases knownVid s e.switch_id with
  | none => rfl
  | some switch_id =>
    show (translate_rid_to_vid newVid s e.bv_id switch_id >>= _) = _
    rw [translate_of_exists hbv]
    cases knownVid s e.bv_id with
    | none => rfl
    | some bv_id =>
      show (translate_rid_to_vid_list newVid switch_id s e.attr >>= _) = _
      rw [translate_list_of_checked hchecked]
      show _ = Option.map _ (Option.map _ (e.attr.mapM (knownAttr s)))
      cases e.attr.mapM (knownAttr s) <;> rfl

/-! ### Storing leaves the RIDs -/

theorem fdbKey_ne (text : String) : fdbPrefix ++ text ≠ RIDTOVID := by
  intro h
  have hlist := congrArg String.toList h
  rw [String.toList_append] at hlist
  exact absurd (congrArg List.head? hlist) (by simp [fdbPrefix, RIDTOVID])

theorem rids_delDynamic {keys : List String} (h : RIDTOVID ∉ keys) :
    (delDynamic db keys).hgetall RIDTOVID = db.hgetall RIDTOVID := by
  unfold delDynamic
  induction keys generalizing db with
  | nil => rfl
  | cons key keys ih =>
    have hne : key ≠ RIDTOVID := fun heq => h (heq ▸ List.mem_cons_self)
    rw [List.foldl_cons, ih fun hmem => h (List.mem_cons_of_mem _ hmem)]
    split_ifs
    · rw [Db.hgetall_del, if_neg hne]
    · rfl

/-- Storing an event does not change which RIDs are known. -/
theorem rids_put : (redisPutFdbEntryToAsicView db fdb).hgetall RIDTOVID = db.hgetall RIDTOVID := by
  unfold redisPutFdbEntryToAsicView
  simp only
  split_ifs
  · rfl
  · rw [Db.hgetall_del, if_neg (fdbKey_ne _)]
  · refine rids_delDynamic fun hmem => ?_
    exact absurd (Db.mem_keys.mp hmem).2 (by decide)
  · rfl
  · rw [Db.hgetall_hset, if_neg (fdbKey_ne _), Db.hgetall_hsetAll, if_neg (fdbKey_ne _)]

theorem taken_congr (hrids : t.db.hgetall RIDTOVID = s.db.hgetall RIDTOVID)
    (hlocal : t.local_rid_to_vid = s.local_rid_to_vid) : taken t e = taken s e := by
  have hexists : check_rid_exists t = check_rid_exists s := by
    funext rid
    rw [check_rid_exists, check_rid_exists, hrids, hlocal]
  have hknown : knownVid t = knownVid s := by
    funext rid
    rw [knownVid, knownVid, hrids, hlocal]
  have hattr : knownAttr t = knownAttr s := by
    funext a
    rw [knownAttr, knownAttr, hknown]
  rw [taken, taken, check_fdb_event_notification_data, check_fdb_event_notification_data,
    hexists, knownEvent, knownEvent, hknown, hattr]

theorem taken_put : taken { s with db := redisPutFdbEntryToAsicView s.db fdb } e = taken s e :=
  taken_congr rids_put rfl

theorem takenPrefix_put : takenPrefix { s with db := redisPutFdbEntryToAsicView s.db fdb } data =
    takenPrefix s data := by
  induction data with
  | nil => rfl
  | cons e rest ih => rw [takenPrefix, takenPrefix, taken_put, ih]

/-! ### The loop -/

/-- After the first event that is not taken nothing is stored. -/
theorem fdbLoop_false : fdbLoop newVid s false before data = (s, some (false, before ++ data)) := by
  induction data generalizing before with
  | nil => rw [fdbLoop, List.append_nil]
  | cons e rest ih =>
    rw [fdbLoop, Bool.false_and, if_pos rfl, ih, List.append_assoc]
    rfl

/-- An event that is not taken ends the storing, by the flag or by an exception. -/
theorem fdbLoop_of_not_taken (h : taken s e = none) :
    fdbLoop newVid s true before (e :: data) = (s, none) ∨
      ∃ events, fdbLoop newVid s true before (e :: data) = (s, some (false, events)) := by
  rw [fdbLoop, Bool.true_and]
  cases hcheck : check_fdb_event_notification_data s e with
  | false =>
    rw [if_pos rfl, fdbLoop_false]
    exact Or.inr ⟨_, rfl⟩
  | true =>
    rw [if_neg (by decide), translateEvent_of_check hcheck, h]
    exact Or.inl rfl

theorem fdbLoop_of_taken (h : taken s e = some fdb) :
    fdbLoop newVid s true before (e :: data) =
      fdbLoop newVid { s with db := redisPutFdbEntryToAsicView s.db fdb } true (before ++ [fdb])
        data := by
  rw [fdbLoop, Bool.true_and]
  cases hcheck : check_fdb_event_notification_data s e with
  | false =>
    rw [taken, hcheck] at h
    cases h
  | true =>
    rw [if_neg (by decide), translateEvent_of_check hcheck, h]
    rfl

/-- **What the loop stores**: the events before the first that cannot be stored.  The flag stays
exactly if all are. -/
theorem fdbLoop_spec : ∃ r, fdbLoop newVid s true before data =
      ({ s with db := putAll s.db (takenPrefix s data) }, r) ∧
    ((∃ fdbs, data.mapM (taken s) = some fdbs ∧ takenPrefix s data = fdbs ∧
        r = some (true, before ++ fdbs)) ∨
      data.mapM (taken s) = none ∧ (r = none ∨ ∃ events, r = some (false, events))) := by
  induction data generalizing s before with
  | nil => exact ⟨_, rfl, Or.inl ⟨[], rfl, rfl, by rw [List.append_nil]⟩⟩
  | cons e rest ih =>
    cases htaken : taken s e with
    | none =>
      have hkey : takenPrefix s (e :: rest) = [] := by rw [takenPrefix, htaken]
      have hnone : (e :: rest).mapM (taken s) = none := by
        rw [List.mapM_cons, htaken]
        rfl
      rw [hkey]
      rcases @fdbLoop_of_not_taken newVid s e rest before htaken with h | ⟨events, h⟩
      · exact ⟨none, h, Or.inr ⟨hnone, Or.inl rfl⟩⟩
      · exact ⟨_, h, Or.inr ⟨hnone, Or.inr ⟨events, rfl⟩⟩⟩
    | some fdb =>
      have hkey : takenPrefix s (e :: rest) = fdb :: takenPrefix s rest := by
        rw [takenPrefix, htaken]
      obtain ⟨r, hloop, hr⟩ := @ih { s with db := redisPutFdbEntryToAsicView s.db fdb }
        (before ++ [fdb])
      have hmapM : rest.mapM (taken { s with db := redisPutFdbEntryToAsicView s.db fdb }) =
          rest.mapM (taken s) := congrArg (rest.mapM ·) (funext fun e => taken_put)
      rw [takenPrefix_put] at hloop hr
      rw [hmapM] at hr
      refine ⟨r, ?_, ?_⟩
      · rw [fdbLoop_of_taken htaken, hloop, hkey]
        rfl
      · rw [hkey, List.mapM_cons, htaken]
        rcases hr with ⟨fdbs, hfdbs, hkey', rfl⟩ | ⟨hnone, hr⟩
        · left
          refine ⟨fdb :: fdbs, ?_, by rw [hkey'], ?_⟩
          · rw [hfdbs]
            rfl
          · rw [List.append_assoc]
            rfl
        · right
          refine ⟨?_, hr⟩
          rw [hnone]
          rfl

/-- **A notification is taken as a whole or not at all exactly if** all its events can be stored,
or those before the first that cannot be leave the database as it was. -/
theorem process_on_fdb_event_iff (newVid : NewVid) (s : NtfState) (data : List FdbEvent) :
    AllOrNothing s data (process_on_fdb_event newVid s data) ↔
      (∃ fdbs, data.mapM (taken s) = some fdbs) ∨ putAll s.db (takenPrefix s data) = s.db := by
  obtain ⟨r, hloop, hr⟩ := @fdbLoop_spec newVid s data []
  unfold AllOrNothing process_on_fdb_event
  rw [hloop]
  rcases hr with ⟨fdbs, hfdbs, hkey, rfl⟩ | ⟨hnone, hr⟩
  · rw [hfdbs, hkey]
    exact iff_of_true rfl (Or.inl ⟨fdbs, rfl⟩)
  · have hstate : (match ({ s with db := putAll s.db (takenPrefix s data) }, r) with
        | (s, some (true, data)) => { s with sent := s.sent ++ [data] }
        | (s, _) => s) = { s with db := putAll s.db (takenPrefix s data) } := by
      rcases hr with rfl | ⟨events, rfl⟩ <;> rfl
    rw [hnone, hstate]
    constructor
    · intro heq
      exact Or.inr (congrArg NtfState.db heq)
    · rintro (⟨fdbs, hfdbs⟩ | hdb)
      · cases hfdbs
      · rw [hdb]

/-! ### An event before one with an unknown RID -/

/-- A switch, a VLAN and a bridge port with their VIDs. -/
def knownRids : NtfState :=
  ⟨Db.empty, (∅ : ExtTreeMap sai_object_id_t sai_object_id_t).insert 1 11 |>.insert 2 12
    |>.insert 3 13, ∅, []⟩

/-- A MAC address that is learned on a bridge port. -/
def learned (port : sai_object_id_t) : FdbEvent :=
  ⟨.LEARNED, 1, ⟨[2, 0, 0, 0, 0, 1], rfl⟩, 2, [⟨SAI_FDB_ENTRY_ATTR_BRIDGE_PORT_ID, port, ""⟩]⟩

/-- **The first event is stored although the notification is not sent.** -/
theorem not_process_on_fdb_event :
    ¬ ∀ (newVid : NewVid) (s : NtfState) (data : List FdbEvent),
      AllOrNothing s data (process_on_fdb_event newVid s data) := by
  intro hall
  have h := hall (fun _ _ _ => none) knownRids [learned 3, learned 4]
  have hnone : [learned 3, learned 4].mapM (taken knownRids) = none := by decide
  unfold AllOrNothing at h
  rw [hnone] at h
  let key := fdbPrefix ++ sai_serialize_fdb_entry { learned 13 with switch_id := 11, bv_id := 12 }
  have hstored : ((process_on_fdb_event (fun _ _ _ => none) knownRids
      [learned 3, learned 4]).db.hgetall key)["SAI_FDB_ENTRY_ATTR_BRIDGE_PORT_ID"]? =
        some "oid:0xd" := by decide +kernel
  have hbefore : (knownRids.db.hgetall key)["SAI_FDB_ENTRY_ATTR_BRIDGE_PORT_ID"]? = none := by
    decide
  rw [h, hbefore] at hstored
  cases hstored

end Syncd
