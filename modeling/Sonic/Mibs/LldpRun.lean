/-
Mibs/LldpRun.lean

Runs of the updater of the neighbours' management addresses.

The daemon of LLDP writes and deletes rows at any time; each write of a subscribed key leaves
an event.  The updater reads all rows anew in `reinit_data`, one interface after the other, and
takes the events one by one in `update_data`.  The first run of `update_data` subscribes.

The table is the recomputed one in every run that is `Clean` (`lldpRemManAddr_table`): an event
adds the entry of the row and takes none away, so the table must have no entry of the interface
when its event is taken, and after a `del` the time marks, which are compared with the index of
the interface, must differ from it.
-/
import Sonic.Lib.Transition
import Sonic.Mibs.LldpRemManAddr

namespace Lldp

open PyText Numeral Transition
open Std (ExtTreeMap)

/-! ### The updater -/

/-- The data of a message: the number of subscriptions, or the name of the command. -/
inductive Data
  | subscriptions
  | hset
  | del
deriving DecidableEq

/-- A message of the subscription: the end of its channel, and its data. -/
structure Message where
  channel : String
  data : Data
deriving DecidableEq

/-- `msg["channel"].split(b":")[-1]` -/
def Message.interface (msg : Message) : String := (split ':' msg.channel).getLast?.getD ""

/-- The rows of the database, the messages that wait, and the updater. -/
structure State where
  rows : ExtTreeMap String Row
  subscribed : Bool
  messages : List Message
  oid_name_map : NameMap
  /-- the interfaces that the loop of `reinit_data` has still to visit -/
  rest : List (ℤ × String)
  table : Table
  /-- an exception has left `update_data` -/
  raised : Bool

/-- What happens. -/
inductive Op
  | hset (if_name : String) (kvs : Row)
  | del (if_name : String)
  | reinit (if_names : List String) (mgmt_ports : List MgmtPort)
  | visit
  | subscribe
  | poll

namespace State

def initial : State := ⟨∅, false, [], ∅, [], .empty, false⟩

/-- A command on a row tells the subscribers. -/
def publish (s : State) (if_name : String) (data : Data) : State :=
  if s.subscribed then { s with messages := s.messages ++ [⟨if_name, data⟩] } else s

/-- The start of `reinit_data`: no interface at all is a `RuntimeError`. -/
def reinit_data (s : State) (if_names : List String) (mgmt_ports : List MgmtPort) : State :=
  let oid_name_map := init_sync_d_interface_tables if_names
  if oid_name_map.isEmpty then s
  else
    let oid_name_map := addMgmtPorts oid_name_map mgmt_ports
    { s with oid_name_map := oid_name_map, rest := oid_name_map.toList, table := .empty }

/-- One turn of the loop of `reinit_data`; an exception leaves the loop. -/
def visit (s : State) : State :=
  match s.rest with
  | [] => s
  | (if_oid, if_name) :: rest =>
    match s.table.update_rem_if_mgmt s.rows[if_name]? if_oid if_name with
    | .ok table => { s with table := table, rest := rest }
    | .error _ => { s with rest := [] }

/-- `update_rem_if_mgmt` in `update_data`. -/
def update (s : State) (table : Table) (if_index : ℤ) (interface : String) : State :=
  match table.update_rem_if_mgmt s.rows[interface]? if_index interface with
  | .ok table => { s with table := table }
  | .error _ => { s with table := table, raised := true }

/-- One turn of the loop of `update_data`, with the message that `get_message` returns. -/
def handle (s : State) (msg : Message) : State :=
  match get_index_from_str msg.interface with
  | none => s
  | some if_index =>
    match msg.data with
    | .hset => s.update s.table if_index msg.interface
    | .del => s.update (s.table.dropEntries if_index) if_index msg.interface
    | .subscriptions => s

/-- One thread runs the updater: the loop of `reinit_data` ends before `update_data` begins. -/
def step (s : State) : Op → State
  | .hset if_name kvs => { s with rows := s.rows.insert if_name kvs }.publish if_name .hset
  | .del if_name =>
    if if_name ∈ s.rows then { s with rows := s.rows.erase if_name }.publish if_name .del else s
  | .reinit if_names mgmt_ports =>
    if s.rest = [] then s.reinit_data if_names mgmt_ports else s
  | .visit => s.visit
  | .subscribe =>
    if s.rest = [] ∧ ¬ s.subscribed then
      { s with subscribed := true, messages := [⟨"*", .subscriptions⟩] }
    else s
  | .poll =>
    if s.rest = [] then
      match s.messages with
      | [] => s
      | msg :: messages => { s with messages := messages }.handle msg
    else s

/-! ### The property -/

/-- The interface is known to the updater. -/
def Known (s : State) (if_oid : ℤ) (if_name : String) : Prop :=
  s.oid_name_map[if_oid]? = some if_name

/-- `update_data` has taken all messages. -/
def Drained (s : State) : Prop := s.subscribed = true ∧ s.rest = [] ∧ s.messages = []

/-- The table has of the interface what its row says. -/
def Agrees (s : State) (if_oid : ℤ) (if_name : String) : Prop :=
  s.table.Agrees s.rows[if_name]? if_oid if_name

/-- **The table is the one computed from the rows.** -/
structure Correct (s : State) : Prop where
  sorted : s.table.if_range.Pairwise (· < ·)
  agrees : ∀ if_oid if_name, s.Known if_oid if_name → s.Agrees if_oid if_name
  entry_known : ∀ e ∈ s.table.if_range, ∃ if_oid if_name,
    s.Known if_oid if_name ∧ e[1]? = some if_oid
  ip_known : ∀ if_name ∈ s.table.mgmt_ips, ∃ if_oid, s.Known if_oid if_name
  /-- different addresses have different indices -/
  injective : ∀ {i j a b text text' subtype subtype' bytes bytes'}, s.Known i a → s.Known j b →
    address s.rows[a]? = some (text, subtype, bytes) →
    address s.rows[b]? = some (text', subtype', bytes') →
    ∀ e ∈ s.table.entries i, ∀ e' ∈ s.table.entries j, e.drop 3 = e'.drop 3 →
      (subtype, bytes) = (subtype', bytes')
  not_raised : s.raised = false

/-! ### The condition -/

/-- The row of an interface, if there is one, is read rightly. -/
def ReadableRow (s : State) (if_name : String) : Prop :=
  ∀ kvs, s.rows[if_name]? = some kvs → Readable kvs

/-- A message about an interface can be taken: its row is read rightly; the interface is known
if the row has an address, and has no address in `mgmt_ips` if not; no entry is its own; and on
a `del` no time mark is the index of the interface. -/
structure Takes (s : State) (msg : Message) (if_index : ℤ) : Prop where
  readable : s.ReadableRow msg.interface
  known : address s.rows[msg.interface]? ≠ none → s.Known if_index msg.interface
  no_ip : address s.rows[msg.interface]? = none → s.table.mgmt_ips[msg.interface]? = none
  no_entry : s.table.entries if_index = []
  time_marks : msg.data = .del → ∀ e ∈ s.table.if_range, e[0]? ≠ some if_index

/-- The steps after which the table can still be the recomputed one. -/
def Clean (s : State) : Op → Prop
  | .visit => ∀ if_oid if_name, s.rest.head? = some (if_oid, if_name) → s.ReadableRow if_name
  | .subscribe => s.rest = [] → s.subscribed = false →
      ∀ if_oid if_name, s.Known if_oid if_name → s.Agrees if_oid if_name
  | .poll => s.rest = [] → ∀ msg if_index, s.messages.head? = some msg →
      get_index_from_str msg.interface = some if_index → s.Takes msg if_index
  | _ => True

/-! ### The invariant -/

variable {s t : State} {if_oid i : ℤ} {if_name : String} {msg : Message} {ops : List Op}

/-- What every step keeps.  An interface that is known, that the loop of `reinit_data` has
visited and about which no message waits is recorded as its row says. -/
structure Inv (s : State) : Prop where
  sorted : s.table.if_range.Pairwise (· < ·)
  known_index : ∀ if_oid if_name, s.Known if_oid if_name →
    get_index_from_str if_name = some if_oid
  rest_known : ∀ p ∈ s.rest, s.Known p.1 p.2
  rest_nodup : (s.rest.map Prod.fst).Nodup
  entry_known : ∀ e ∈ s.table.if_range, ∃ if_oid if_name,
    s.Known if_oid if_name ∧ e[1]? = some if_oid ∧ (if_oid, if_name) ∉ s.rest
  ip_known : ∀ if_name ∈ s.table.mgmt_ips, ∃ if_oid,
    s.Known if_oid if_name ∧ (if_oid, if_name) ∉ s.rest
  agrees : s.subscribed = true → ∀ if_oid if_name, s.Known if_oid if_name →
    (if_oid, if_name) ∉ s.rest → (∀ msg ∈ s.messages, msg.interface ≠ if_name) →
      s.Agrees if_oid if_name
  events : ∀ msg ∈ s.messages, msg.data = .subscriptions → msg.channel = "*"
  not_raised : s.raised = false

theorem inv_initial : initial.Inv where
  sorted := List.Pairwise.nil
  known_index if_oid if_name h := by
    rw [Known, initial, ExtTreeMap.getElem?_empty] at h
    cases h
  rest_known := nofun
  rest_nodup := List.nodup_nil
  entry_known := nofun
  ip_known if_name h := absurd h ExtTreeMap.not_mem_empty
  agrees h := by cases h
  events := nofun
  not_raised := rfl

/-- The index of a name decides the name of a channel. -/
theorem interface_eq {data : Data} (h : get_index_from_str if_name = some i) :
    Message.interface ⟨if_name, data⟩ = if_name := by
  have hno : ':' ∉ if_name.toList := by
    obtain ⟨p, hp, hmatch⟩ := List.exists_of_findSome?_eq_some h
    obtain ⟨n, hn, -⟩ := Option.map_eq_some_iff.mp hmatch
    unfold matchNumber at hn
    simp only at hn
    split_ifs at hn with hcond
    obtain ⟨hpre, -, hdigits⟩ := hcond
    rw [← List.take_append_drop p.1.toList.length if_name.toList,
      ← List.prefix_iff_eq_take.mp hpre, List.mem_append]
    rintro (hmem | hmem)
    · have hkinds : ∀ p ∈ patterns, ':' ∉ p.1.toList := by decide
      exact hkinds p hp hmem
    · exact absurd (List.all_eq_true.mp hdigits ':' hmem) (by decide)
  have hsplit : split ':' if_name = [if_name] := by
    have := (@split_join_iff ':' [if_name] (List.cons_ne_nil _ _)).mpr fun part hpart => by
      rwa [List.mem_singleton.mp hpart]
    rwa [join_singleton] at this
  rw [Message.interface, hsplit]
  rfl

/-! ### Steps -/

/-- A command on a row keeps the invariant: a message about the row waits, if anyone listens. -/
theorem Inv.write (h : s.Inv) {rows : ExtTreeMap String Row} {data : Data}
    (hrows : ∀ name ≠ if_name, rows[name]? = s.rows[name]?) (hdata : data ≠ .subscriptions) :
    (publish { s with rows := rows } if_name data).Inv := by
  unfold publish
  split_ifs with hsub
  · exact
      { sorted := h.sorted
        known_index := h.known_index
        rest_known := h.rest_known
        rest_nodup := h.rest_nodup
        entry_known := h.entry_known
        ip_known := h.ip_known
        agrees := by
          intro _ oid name hknown hrest hmsgs
          have hne : name ≠ if_name := by
            rintro rfl
            exact hmsgs _ (List.mem_append_right _ List.mem_cons_self)
              (interface_eq (h.known_index _ _ hknown))
          have hold := h.agrees hsub oid name hknown hrest fun msg hmsg =>
            hmsgs msg (List.mem_append_left _ hmsg)
          show Table.Agrees _ rows[name]? _ _
          rw [hrows name hne]
          exact hold
        events := by
          intro msg hmsg hd
          rcases List.mem_append.mp hmsg with hmsg | hmsg
          · exact h.events msg hmsg hd
          · rw [List.mem_singleton.mp hmsg] at hd
            exact absurd hd hdata
        not_raised := h.not_raised }
  · exact
      { sorted := h.sorted
        known_index := h.known_index
        rest_known := h.rest_known
        rest_nodup := h.rest_nodup
        entry_known := h.entry_known
        ip_known := h.ip_known
        agrees := fun hs => absurd hs hsub
        events := h.events
        not_raised := h.not_raised }

/-- The names of the map have the indices they are under. -/
theorem known_index_of_reinit {if_names : List String} {mgmt_ports : List MgmtPort}
    (h : (addMgmtPorts (init_sync_d_interface_tables if_names) mgmt_ports)[i]? = some if_name) :
    get_index_from_str if_name = some i := by
  rcases FieldMap.getElem?_merge_cases h with hold | hnew
  · obtain ⟨name, -, heq⟩ := List.mem_filterMap.mp (FieldMap.mem_of_getElem?_merge_empty hold)
    obtain ⟨oid, hoid, heq⟩ := Option.map_eq_some_iff.mp heq
    obtain ⟨rfl, rfl⟩ := Prod.mk.inj heq
    exact hoid
  · obtain ⟨port, -, heq⟩ := List.mem_map.mp hnew
    obtain ⟨rfl, rfl⟩ := Prod.mk.inj heq
    exact port.get_index

theorem Inv.reinit_data (h : s.Inv) {if_names : List String} {mgmt_ports : List MgmtPort} :
    (s.reinit_data if_names mgmt_ports).Inv := by
  unfold State.reinit_data
  simp only
  split_ifs
  · exact h
  · exact
      { sorted := List.Pairwise.nil
        known_index := fun _ _ => known_index_of_reinit
        rest_known := fun p hp => ExtTreeMap.mem_toList_iff_getElem?_eq_some.mp hp
        rest_nodup := by
          have hd := ExtTreeMap.distinct_keys_toList (t :=
            addMgmtPorts (init_sync_d_interface_tables if_names) mgmt_ports)
          rw [List.Nodup, List.pairwise_map]
          exact hd.imp fun hne heq => hne (Std.compare_eq_iff_eq.mpr heq)
        entry_known := nofun
        ip_known := fun name hname => absurd hname ExtTreeMap.not_mem_empty
        agrees := by
          intro _ oid name hknown hrest
          exact absurd (ExtTreeMap.mem_toList_iff_getElem?_eq_some.mpr hknown) hrest
        events := h.events
        not_raised := h.not_raised }

/-- Only names with an index are of interest: a message about another one may go. -/
theorem Inv.drop {messages : List Message} (h : s.Inv) (hs : s.messages = msg :: messages)
    (hmsg : get_index_from_str msg.interface = none) : Inv { s with messages := messages } where
  sorted := h.sorted
  known_index := h.known_index
  rest_known := h.rest_known
  rest_nodup := h.rest_nodup
  entry_known := h.entry_known
  ip_known := h.ip_known
  agrees := by
    intro hsub oid name hknown hrest hmsgs
    refine h.agrees hsub oid name hknown hrest fun msg' hmsg' => ?_
    rw [hs] at hmsg'
    rcases List.mem_cons.mp hmsg' with rfl | hmsg'
    · rintro rfl
      exact Option.some_ne_none _ ((h.known_index _ _ hknown).symm.trans hmsg)
    · exact hmsgs msg' hmsg'
  events := fun msg' hmsg' => h.events msg' (hs ▸ List.mem_cons_of_mem _ hmsg')
  not_raised := h.not_raised

/-- **Recording an interface keeps the invariant**, if the table has nothing of it before. -/
theorem Inv.record (h : s.Inv) {rest : List (ℤ × String)} {messages : List Message}
    (hidx : get_index_from_str if_name = some i)
    (hread : s.ReadableRow if_name)
    (hknown : address s.rows[if_name]? ≠ none → s.Known i if_name)
    (hno : s.table.entries i = [])
    (hip : address s.rows[if_name]? = none → s.table.mgmt_ips[if_name]? = none)
    (hrest : rest.Sublist s.rest) (hout : (i, if_name) ∉ rest)
    (hin : ∀ p ∈ s.rest, p ∉ rest → p = (i, if_name))
    (hmsgs : messages ⊆ s.messages)
    (hgone : ∀ msg ∈ s.messages, msg ∉ messages → msg.interface = if_name) :
    ∃ table, s.table.update_rem_if_mgmt s.rows[if_name]? i if_name = .ok table ∧
      Inv { s with table := table, rest := rest, messages := messages } := by
  obtain ⟨table, hupdate, hagrees, hcases⟩ := Table.update_rem_if_mgmt_spec hread hno hip
  refine ⟨table, hupdate, ?_⟩
  -- what the table has of the others is as before
  have hothers : ∀ {oid name}, s.Known oid name → name ≠ if_name → s.Agrees oid name →
      table.Agrees s.rows[name]? oid name := by
    intro oid name hk hne hold
    rcases hcases with ⟨rfl, -⟩ | ⟨e, ip, rfl, he, haddr⟩
    · exact hold
    · have hoid : oid ≠ i := by
        rintro rfl
        exact hne (Option.some.inj (hk.symm.trans (hknown haddr)))
      refine Table.Agrees.congr hold (Table.entries_add_ne he hoid) ?_
      exact ExtTreeMap.getElem?_insert.trans
        (if_neg fun heq => hne (Std.compare_eq_iff_eq.mp heq).symm)
  exact
    { sorted := by
        rcases hcases with ⟨rfl, -⟩ | ⟨e, ip, rfl, he, -⟩
        · exact h.sorted
        · exact Table.sorted_add h.sorted hno he
      known_index := h.known_index
      rest_known := fun p hp => h.rest_known p (hrest.subset hp)
      rest_nodup := (hrest.map Prod.fst).nodup h.rest_nodup
      entry_known := by
        have hold : ∀ e ∈ s.table.if_range, ∃ oid name,
            s.Known oid name ∧ e[1]? = some oid ∧ (oid, name) ∉ rest := by
          intro e he
          obtain ⟨oid, name, hk, hoid, hnot⟩ := h.entry_known e he
          exact ⟨oid, name, hk, hoid, fun hmem => hnot (hrest.subset hmem)⟩
        rcases hcases with ⟨rfl, -⟩ | ⟨e, ip, rfl, he, haddr⟩
        · exact hold
        · intro e' he'
          rcases Table.mem_add.mp he' with he' | rfl
          · exact hold e' he'
          · exact ⟨i, if_name, hknown haddr, he, hout⟩
      ip_known := by
        have hold : ∀ name ∈ s.table.mgmt_ips, ∃ oid, s.Known oid name ∧ (oid, name) ∉ rest := by
          intro name hname
          obtain ⟨oid, hk, hnot⟩ := h.ip_known name hname
          exact ⟨oid, hk, fun hmem => hnot (hrest.subset hmem)⟩
        rcases hcases with ⟨rfl, -⟩ | ⟨e, ip, rfl, he, haddr⟩
        · exact hold
        · intro name hname
          rcases ExtTreeMap.mem_insert.mp hname with heq | hname
          · obtain rfl := Std.compare_eq_iff_eq.mp heq
            exact ⟨i, hknown haddr, hout⟩
          · exact hold name hname
      agrees := by
        intro hsub oid name hk hnot hquiet
        by_cases hname : name = if_name
        · subst hname
          obtain rfl := Option.some.inj ((h.known_index _ _ hk).symm.trans hidx)
          exact hagrees
        · refine hothers hk hname (h.agrees hsub oid name hk ?_ ?_)
          · intro hmem
            exact hname (Prod.mk.inj (hin _ hmem hnot)).2
          · intro msg hmsg
            by_cases hm : msg ∈ messages
            · exact hquiet msg hm
            · rw [hgone msg hmsg hm]
              exact fun heq => hname heq.symm
      events := fun msg hmsg => h.events msg (hmsgs hmsg)
      not_raised := h.not_raised }

theorem Inv.visit (h : s.Inv) (hc : s.Clean .visit) : s.visit.Inv := by
  unfold State.visit
  cases hrest : s.rest with
  | nil => exact h
  | cons p rest =>
    obtain ⟨oid, name⟩ := p
    have hmem : (oid, name) ∈ s.rest := hrest ▸ List.mem_cons_self
    have hk : s.Known oid name := h.rest_known _ hmem
    have hnodup := h.rest_nodup
    rw [hrest, List.map_cons, List.nodup_cons] at hnodup
    have hout : (oid, name) ∉ rest := fun hin => hnodup.1 (List.mem_map_of_mem (f := Prod.fst) hin)
    have hno : s.table.entries oid = [] := by
      refine List.eq_nil_iff_forall_not_mem.mpr fun e he => ?_
      obtain ⟨hin, hoid⟩ := Table.mem_entries.mp he
      obtain ⟨oid', name', hk', hoid', hnot⟩ := h.entry_known e hin
      obtain rfl := Option.some.inj (hoid.symm.trans hoid')
      obtain rfl := Option.some.inj (hk.symm.trans hk')
      exact hnot hmem
    have hip : s.table.mgmt_ips[name]? = none := by
      refine ExtTreeMap.getElem?_eq_none fun hin => ?_
      obtain ⟨oid', hk', hnot⟩ := h.ip_known name hin
      obtain rfl := Option.some.inj
        ((h.known_index _ _ hk).symm.trans (h.known_index _ _ hk'))
      exact hnot hmem
    obtain ⟨table, hupdate, hinv⟩ := @Inv.record s oid name h rest s.messages
      (h.known_index _ _ hk) (hc oid name (by rw [hrest]; rfl)) (fun _ => hk) hno (fun _ => hip)
      (hrest ▸ List.sublist_cons_self _ _) hout
      (by
        intro p hp hnot
        rw [hrest] at hp
        exact (List.mem_cons.mp hp).resolve_right hnot)
      (fun _ hm => hm) (fun msg hm hnot => absurd hm hnot)
    simp only [hupdate]
    exact hinv

/-- A `del` takes no entry away if no time mark is the index of the interface. -/
theorem dropEntries_eq (h : ∀ e ∈ s.table.if_range, e[0]? ≠ some i) :
    s.table.dropEntries i = s.table := by
  have hfilter : (s.table.if_range.filter fun sub_oid => sub_oid[0]? ≠ some i) =
      s.table.if_range :=
    List.filter_eq_self.mpr fun e he => decide_eq_true (h e he)
  rw [Table.dropEntries, hfilter]

/-- The message about the subscription names no interface. -/
theorem star_without_index (data : Data) :
    get_index_from_str (Message.interface ⟨"*", data⟩) = none := by
  cases data <;> decide

theorem Inv.poll (h : s.Inv) (hc : s.Clean .poll) (hrest : s.rest = []) {messages : List Message}
    (hs : s.messages = msg :: messages) : (handle { s with messages := messages } msg).Inv := by
  unfold handle
  cases hidx : get_index_from_str msg.interface with
  | none => exact h.drop hs hidx
  | some i =>
    have htakes := hc hrest msg i (by rw [hs]; rfl) hidx
    obtain ⟨table, hupdate, hinv⟩ := @Inv.record s i msg.interface h s.rest messages
      hidx htakes.readable htakes.known htakes.no_entry htakes.no_ip (List.Sublist.refl _)
      (by rw [hrest]; exact List.not_mem_nil) (fun p hp hnot => absurd hp hnot)
      (by rw [hs]; exact List.subset_cons_self _ _)
      (by
        intro msg' hmsg' hnot
        rw [hs] at hmsg'
        rw [(List.mem_cons.mp hmsg').resolve_right hnot])
    have hupd : State.update { s with messages := messages } s.table i msg.interface =
        { s with table := table, messages := messages } := by
      rw [State.update]
      simp only [hupdate]
    cases hdata : msg.data with
    | subscriptions =>
      -- the channel of this message has no index
      have hstar := h.events msg (hs ▸ List.mem_cons_self) hdata
      obtain ⟨channel, data⟩ := msg
      obtain rfl : channel = "*" := hstar
      exact absurd ((star_without_index data).symm.trans hidx) nofun
    | hset =>
      show (State.update _ _ _ _).Inv
      rw [hupd]
      exact hinv
    | del =>
      show (State.update _ (Table.dropEntries _ _) _ _).Inv
      rw [show Table.dropEntries _ i = s.table from dropEntries_eq (htakes.time_marks hdata),
        hupd]
      exact hinv

/-- A clean step keeps the invariant. -/
theorem Inv.step (h : s.Inv) {op : Op} (hc : s.Clean op) : (s.step op).Inv := by
  cases op with
  | hset name kvs =>
    exact h.write (fun name' hne => ExtTreeMap.getElem?_insert.trans
      (if_neg fun heq => hne (Std.compare_eq_iff_eq.mp heq).symm)) nofun
  | del name =>
    rw [State.step]
    split_ifs
    · exact h.write (fun name' hne => ExtTreeMap.getElem?_erase.trans
        (if_neg fun heq => hne (Std.compare_eq_iff_eq.mp heq).symm)) nofun
    · exact h
  | reinit if_names mgmt_ports =>
    rw [State.step]
    split_ifs
    · exact h.reinit_data
    · exact h
  | visit => exact h.visit hc
  | subscribe =>
    rw [State.step]
    split_ifs with hcond
    · obtain ⟨hrest, hsub⟩ := hcond
      exact
        { sorted := h.sorted
          known_index := h.known_index
          rest_known := h.rest_known
          rest_nodup := h.rest_nodup
          entry_known := h.entry_known
          ip_known := h.ip_known
          agrees := fun _ oid name hk _ _ => hc hrest (Bool.eq_false_of_not_eq_true hsub) oid name hk
          events := fun msg hmsg _ => by rw [List.mem_singleton.mp hmsg]
          not_raised := h.not_raised }
    · exact h
  | poll =>
    rw [State.step]
    split_ifs with hrest
    · cases hs : s.messages with
      | nil => exact h
      | cons msg messages => exact h.poll hc hrest hs
    · exact h

/-- Entries with the same address part have the same address. -/
theorem eq_of_drop {kvs kvs' : Row} {subtype subtype' : ℤ} {bytes bytes' : List ℤ} {e e' : Oid}
    {i j : ℤ} (h : IsEntry i kvs subtype bytes e) (h' : IsEntry j kvs' subtype' bytes' e')
    (heq : e.drop 3 = e'.drop 3) : (subtype, bytes) = (subtype', bytes') := by
  obtain ⟨_, _, version, parts, -, -, rfl, rfl⟩ := h.exists_eq
  obtain ⟨_, _, version', parts', -, -, rfl, rfl⟩ := h'.exists_eq
  obtain ⟨rfl, rest⟩ := List.cons.inj (heq : subtype :: version :: parts = subtype' :: _ :: _)
  rw [(List.cons.inj rest).2]

/-- With no message waiting the table is the recomputed one. -/
theorem Inv.correct (h : s.Inv) (hd : s.Drained) : s.Correct := by
  obtain ⟨hsub, hrest, hmsgs⟩ := hd
  have hagrees : ∀ oid name, s.Known oid name → s.Agrees oid name := by
    intro oid name hk
    apply h.agrees hsub oid name hk
    · rw [hrest]
      exact List.not_mem_nil
    · rw [hmsgs]
      exact nofun
  refine ⟨h.sorted, hagrees, ?_, ?_, ?_, h.not_raised⟩
  · intro e he
    obtain ⟨oid, name, hk, hoid, -⟩ := h.entry_known e he
    exact ⟨oid, name, hk, hoid⟩
  · intro name hname
    obtain ⟨oid, hk, -⟩ := h.ip_known name hname
    exact ⟨oid, hk⟩
  · intro i j a b text text' subtype subtype' bytes bytes' ha hb haddr haddr' e he e' he' heq
    have hentry : ∀ {i a text subtype bytes}, s.Known i a →
        address s.rows[a]? = some (text, subtype, bytes) → ∀ e ∈ s.table.entries i,
          ∃ kvs, IsEntry i kvs subtype bytes e := by
      intro i a text subtype bytes hk haddr e he
      cases hrow : s.rows[a]? with
      | none =>
        rw [hrow] at haddr
        cases haddr
      | some kvs =>
        obtain ⟨e₀, heq, hise⟩ := (hagrees i a hk).entry kvs text subtype bytes hrow haddr
        rw [heq] at he
        rw [List.mem_singleton.mp he]
        exact ⟨kvs, hise⟩
    obtain ⟨kvs, hise⟩ := hentry ha haddr e he
    obtain ⟨kvs', hise'⟩ := hentry hb haddr' e' he'
    exact eq_of_drop hise hise' heq

/-- The steps of the updater and of the database. -/
def Step (s : State) (op : Op) (t : State) : Prop := t = s.step op

/-- **In every clean run, the table is the recomputed one whenever no message waits.** -/
theorem lldpRemManAddr_table (h : Run (Guarded Clean Step) initial ops t) (hd : t.Drained) :
    t.Correct := by
  have hinv : t.Inv := h.keeps inv_initial fun hs hstep => by
    rw [hstep.2]
    exact hs.step hstep.1
  exact hinv.correct hd

/-! ### A clean run, and one that is not -/

/-- A row with an address. -/
def exampleRow (time_mark : String) : Row := ⟨some "10.0.0.1", some time_mark, some "1"⟩

/-- A row is written after the updater has subscribed, and taken from its message. -/
def exampleOps : List Op :=
  [.reinit ["Ethernet0"] [], .visit, .subscribe, .poll, .hset "Ethernet0" (exampleRow "7"), .poll]

theorem readable_exampleRow : Readable (exampleRow "7") where
  time_mark s hs := by
    obtain rfl := Option.some.inj hs
    decide
  index s hs := by
    obtain rfl := Option.some.inj hs
    decide
  given _ := ⟨nofun, nofun⟩
  eight text ht h4 := by
    obtain rfl := Option.some.inj ht
    exact absurd h4 (by decide)

/-- An interface without a row has nothing in a table that is empty. -/
theorem agrees_of_empty (hrow : s.rows[if_name]? = none) (hrange : s.table.if_range = [])
    (hips : s.table.mgmt_ips[if_name]? = none) : s.Agrees if_oid if_name where
  entry kvs text subtype bytes hkvs := by
    rw [hrow] at hkvs
    cases hkvs
  ip text subtype bytes ha := by
    rw [hrow] at ha
    cases ha
  no_entry _ := by
    rw [Table.entries, hrange]
    rfl
  no_ip _ := hips

theorem meets_exampleOps : Meets Clean step initial exampleOps := by
  refine ⟨trivial, ?_, ?_, ?_, trivial, ?_, trivial⟩
  · intro oid name _ kvs hkvs
    rw [show (step initial (.reinit ["Ethernet0"] [])).rows = ∅ from rfl,
      ExtTreeMap.getElem?_empty] at hkvs
    cases hkvs
  · intro _ _ oid name _
    apply agrees_of_empty
    · exact ExtTreeMap.getElem?_empty
    · decide
    · exact ExtTreeMap.getElem?_empty
  · intro _ msg i hmsg hidx
    obtain rfl : ⟨"*", .subscriptions⟩ = msg := Option.some.inj hmsg
    exact absurd ((star_without_index _).symm.trans hidx) nofun
  · intro _ msg i hmsg hidx
    obtain rfl : ⟨"Ethernet0", .hset⟩ = msg := Option.some.inj hmsg
    obtain rfl : 1 = i := Option.some.inj
      ((by decide : get_index_from_str (Message.interface ⟨"Ethernet0", .hset⟩) = some 1).symm.trans
        hidx)
    refine ⟨?_, ?_, ?_, by decide, nofun⟩
    · intro kvs hkvs
      obtain rfl : exampleRow "7" = kvs := Option.some.inj hkvs
      exact readable_exampleRow
    · intro _
      rfl
    · intro hnone
      exact absurd hnone (by decide)

/-- The entry of the row is in the table, which is the recomputed one. -/
theorem lldpRemManAddr_table_ethernet0 :
    (exampleOps.foldl step initial).table.if_range = [[7, 1, 1, 1, 4, 10, 0, 0, 1]] ∧
      (exampleOps.foldl step initial).Correct :=
  ⟨by decide, lldpRemManAddr_table (Run.guarded_foldl meets_exampleOps)
    ⟨by decide, by decide, by decide⟩⟩

/-- The row is written again, with another time mark. -/
def twiceOps : List Op := exampleOps ++ [.hset "Ethernet0" (exampleRow "8"), .poll]

/-- **A row that is written twice has two entries.** -/
theorem not_lldpRemManAddr_table :
    ¬ ∀ (ops : List Op) (t : State), Run Step initial ops t → t.Drained → t.Correct := by
  intro hall
  have hc := hall twiceOps _ (Run.foldl initial twiceOps)
    ⟨by decide, by decide, by decide⟩
  obtain ⟨e, he, -⟩ := (hc.agrees 1 "Ethernet0" rfl).entry (exampleRow "8") "10.0.0.1" 1
    [10, 0, 0, 1] rfl (by decide)
  have htwo : (twiceOps.foldl step initial).table.entries 1 =
      [[7, 1, 1, 1, 4, 10, 0, 0, 1], [8, 1, 1, 1, 4, 10, 0, 0, 1]] := by decide
  cases he.symm.trans htwo

end State

end Lldp
