/-
Orchagent/VNetObservers.lean

The next hop observers of `VNetRouteOrch`.

An observer waits for the routes that cover an address.  The entry of the address keeps a
copy of these routes, and the last of them in the order of the prefixes is what its
observers should have been told of.

A route that is removed is announced as removed to every observer that it covers, whether
or not it was the best one, and the one that is best then is not announced; with the last
route of an entry the entry goes, and with it its observers.  Detaching one observer drops
all that wait for the same address.  On runs without these steps (`Safe`) every observer
stays attached and has been told of the longest prefix (`run_follows`).
-/
import Sonic.Lib.LastEntry
import Sonic.Lib.Transition
import Sonic.Orchagent.IpPrefix

namespace Orchagent.VNetRoute

open Std (ExtTreeMap)
open Transition (Run Guarded)

/-! ### The data -/

abbrev Observer := ℕ

structure NextHop where
  ips : List IpAddress
  ifname : String
  deriving DecidableEq

/-- The next hops of a prefix, by VNET. -/
abbrev VNetEntry := ExtTreeMap String NextHop

abbrev VNetRouteTable := Table IpPrefix VNetEntry

inductive Op where
  | SET_COMMAND | DEL_COMMAND
  deriving DecidableEq

structure VNetNextHopUpdate where
  op : Op
  vnet : String
  destination : IpAddress
  ip_prefix : IpPrefix
  nexthop : NextHop
  deriving DecidableEq

structure VNetNextHopObserverEntry where
  routeTable : VNetRouteTable
  observers : List Observer

/-- `VNetRouteOrch`, and the updates that it has given, the last one at the end. -/
structure St where
  syncd_routes_ : VNetRouteTable
  next_hop_observers_ : Table IpAddress VNetNextHopObserverEntry
  updates : List (Observer × VNetNextHopUpdate)

def init : St := ⟨∅, ∅, []⟩

/-- A call that does not return. -/
inductive Stuck where
  | assertFailed | loops
  deriving DecidableEq

/-- `routeTable.rbegin()`. -/
def rbegin (t : VNetRouteTable) : Option (IpPrefix × VNetEntry) := t.last IpPrefix.rank

/-! ### Observers -/

/-- The updates of an observer for all next hops of a route. -/
def updatesOf (op : Op) (observer : Observer) (dstAddr : IpAddress) :
    Option (IpPrefix × VNetEntry) → List (Observer × VNetNextHopUpdate)
  | none => []
  | some bestRoute => bestRoute.2.toList.map fun vnetEntry =>
    (observer, ⟨op, vnetEntry.1, dstAddr, bestRoute.1, vnetEntry.2⟩)

namespace St

def attach (s : St) (observer : Observer) (dstAddr : IpAddress) : St :=
  let observerEntry :=
    match s.next_hop_observers_.lookup dstAddr with
    | some observerEntry => observerEntry
    | none =>
      -- the prefixes that cover the destination
      ⟨s.syncd_routes_.restrict (·.isAddressInSubnet dstAddr), []⟩
  { s with
    next_hop_observers_ := s.next_hop_observers_.insert dstAddr
      { observerEntry with observers := observerEntry.observers ++ [observer] }
    updates := s.updates ++
      updatesOf .SET_COMMAND observer dstAddr (rbegin observerEntry.routeTable) }

def detach (s : St) (observer : Observer) (dstAddr : IpAddress) : Except Stuck St :=
  match s.next_hop_observers_.lookup dstAddr with
  | none => .error .assertFailed
  | some observerEntry =>
    if observer ∉ observerEntry.observers then .error .assertFailed
    else .ok { s with
      next_hop_observers_ := s.next_hop_observers_.erase dstAddr
      updates := s.updates ++
        updatesOf .DEL_COMMAND observer dstAddr (rbegin observerEntry.routeTable) }

end St

/-! ### Routes -/

/-- What `addRoute` makes of the entry of a destination, and the update for its observers. -/
def addRouteEntry (vnet : String) (ipPrefix : IpPrefix) (nh : NextHop) (dstAddr : IpAddress)
    (entry : VNetNextHopObserverEntry) : VNetNextHopObserverEntry × Option VNetNextHopUpdate :=
  if ipPrefix.isAddressInSubnet dstAddr then
    let vnets := (entry.routeTable.lookup ipPrefix).getD ∅
    if vnets[vnet]? = some nh then (entry, none)
    else
      let routeTable : VNetRouteTable := entry.routeTable.insert ipPrefix (vnets.insert vnet nh)
      -- the inserted route is the best route
      ({ entry with routeTable := routeTable },
        if (rbegin routeTable).map (·.1) = some ipPrefix then
          some ⟨.SET_COMMAND, vnet, dstAddr, ipPrefix, nh⟩
        else none)
  else (entry, none)

/-- What `delRoute` makes of the entry of a destination, if anything is left of it, and the
update for its observers. -/
def delRouteEntry (ipPrefix : IpPrefix) (dstAddr : IpAddress) (entry : VNetNextHopObserverEntry) :
    Except Stuck (Option VNetNextHopObserverEntry × Option VNetNextHopUpdate) :=
  if ipPrefix.isAddressInSubnet dstAddr then
    match entry.routeTable.lookup ipPrefix with
    | none => .error .assertFailed
    | some vnets =>
      match vnets.toList.getLast? with
      | none => .error .loops
      | some vnetEntry =>
        let routeTable : VNetRouteTable := entry.routeTable.erase ipPrefix
        .ok (if routeTable.entries = [] then none else some { entry with routeTable := routeTable },
          some ⟨.DEL_COMMAND, vnetEntry.1, dstAddr, ipPrefix, vnetEntry.2⟩)
  else .ok (some entry, none)

/-- All observers of an entry are given an update. -/
def notify (entry : VNetNextHopObserverEntry) :
    Option VNetNextHopUpdate → List (Observer × VNetNextHopUpdate)
  | none => []
  | some update => entry.observers.map (·, update)

namespace St

def addRoute (s : St) (vnet : String) (ipPrefix : IpPrefix) (nh : NextHop) : St :=
  { syncd_routes_ :=
      s.syncd_routes_.insert ipPrefix (((s.syncd_routes_.lookup ipPrefix).getD ∅).insert vnet nh)
    next_hop_observers_ := s.next_hop_observers_.map fun dstAddr entry =>
      (addRouteEntry vnet ipPrefix nh dstAddr entry).1
    updates := s.updates ++ s.next_hop_observers_.entries.flatMap fun e =>
      notify e.2 (addRouteEntry vnet ipPrefix nh e.1 e.2).2 }

/-- One entry in the loop of `delRoute`. -/
def delRouteStep (ipPrefix : IpPrefix) (s : St)
    (e : Sigma fun _ : IpAddress => VNetNextHopObserverEntry) : Except Stuck St := do
  let (left, update) ← delRouteEntry ipPrefix e.1 e.2
  pure { s with
    next_hop_observers_ :=
      match left with
      | none => s.next_hop_observers_.erase e.1
      | some entry => s.next_hop_observers_.insert e.1 entry
    updates := s.updates ++ notify e.2 update }

def delRoute (s : St) (ipPrefix : IpPrefix) : Except Stuck St :=
  match s.syncd_routes_.lookup ipPrefix with
  | none => .error .assertFailed
  | some _ => do
      let s ← s.next_hop_observers_.entries.foldlM (delRouteStep ipPrefix) s
      pure { s with syncd_routes_ := s.syncd_routes_.erase ipPrefix }

end St

/-! ### Runs -/

inductive Event where
  | attach (observer : Observer) (dstAddr : IpAddress)
  | detach (observer : Observer) (dstAddr : IpAddress)
  | addRoute (vnet : String) (ipPrefix : IpPrefix) (nh : NextHop)
  | delRoute (ipPrefix : IpPrefix)

/-- The orch, and the observers that were attached and not detached since. -/
structure World where
  orch : St
  attached : List (Observer × IpAddress)

namespace World

def init : World := ⟨VNetRoute.init, []⟩

def step (w : World) : Event → Except Stuck World
  | .attach observer dstAddr =>
    .ok ⟨w.orch.attach observer dstAddr, (observer, dstAddr) :: w.attached⟩
  | .detach observer dstAddr =>
    (w.orch.detach observer dstAddr).map (⟨·, w.attached.erase (observer, dstAddr)⟩)
  | .addRoute vnet ipPrefix nh => .ok { w with orch := w.orch.addRoute vnet ipPrefix nh }
  | .delRoute ipPrefix => (w.orch.delRoute ipPrefix).map ({ w with orch := · })

/-- The steps of the orch, until a call does not return. -/
def next (w : Except Stuck World) (e : Event) : Except Stuck World := w.bind (step · e)

end World

/-- The last update that an observer was given for a destination. -/
def lastUpdate (updates : List (Observer × VNetNextHopUpdate)) (observer : Observer)
    (dstAddr : IpAddress) : Option VNetNextHopUpdate :=
  ((updates.filter fun u => u.1 = observer ∧ u.2.destination = dstAddr).getLast?).map (·.2)

/-- A prefix that covers an address, and none that does is longer. -/
def Longest (t : VNetRouteTable) (dstAddr : IpAddress) (p : IpPrefix) (vnets : VNetEntry) : Prop :=
  t.lookup p = some vnets ∧ p.isAddressInSubnet dstAddr = true ∧
    ∀ q, (t.lookup q).isSome → q.isAddressInSubnet dstAddr = true → q.m_mask ≤ p.m_mask

/-- Every observer is attached until it is detached, and was last told of a longest prefix
with a next hop that the prefix has, or of a removal when no prefix covers its address. -/
structure Follows (w : World) : Prop where
  kept : ∀ {observer dstAddr}, (observer, dstAddr) ∈ w.attached →
    ∃ entry, w.orch.next_hop_observers_.lookup dstAddr = some entry ∧ observer ∈ entry.observers
  told : ∀ {observer dstAddr}, (observer, dstAddr) ∈ w.attached →
    (∃ p, (w.orch.syncd_routes_.lookup p).isSome ∧ p.isAddressInSubnet dstAddr = true) →
    ∃ p vnets vnet nh, Longest w.orch.syncd_routes_ dstAddr p vnets ∧ vnets[vnet]? = some nh ∧
      lastUpdate w.orch.updates observer dstAddr = some ⟨.SET_COMMAND, vnet, dstAddr, p, nh⟩
  untold : ∀ {observer dstAddr}, (observer, dstAddr) ∈ w.attached →
    (∀ p, (w.orch.syncd_routes_.lookup p).isSome → p.isAddressInSubnet dstAddr = false) →
    ∀ update, lastUpdate w.orch.updates observer dstAddr = some update →
      update.op = .DEL_COMMAND

/-- The steps that tell the observers what they should know: an observer is detached only when
no other waits for its address, and a route is removed only when it is there and covers no
address that an observer waits for. -/
def Safe (w : World) : Event → Prop
  | .detach observer dstAddr => ∃ entry,
      w.orch.next_hop_observers_.lookup dstAddr = some entry ∧ entry.observers = [observer]
  | .delRoute ipPrefix => (w.orch.syncd_routes_.lookup ipPrefix).isSome ∧
      ∀ dstAddr, (w.orch.next_hop_observers_.lookup dstAddr).isSome →
        ipPrefix.isAddressInSubnet dstAddr = false
  | _ => True

/-! ### The last update -/

section Updates

variable {updates updates' : List (Observer × VNetNextHopUpdate)} {observer observer' : Observer}
  {dstAddr dstAddr' : IpAddress}

theorem lastUpdate_append :
    lastUpdate (updates ++ updates') observer dstAddr =
      (lastUpdate updates' observer dstAddr).or (lastUpdate updates observer dstAddr) := by
  unfold lastUpdate
  rw [List.filter_append, List.getLast?_append, Option.map_or]

theorem lastUpdate_eq_none
    (h : ∀ u ∈ updates, u.1 = observer → u.2.destination ≠ dstAddr) :
    lastUpdate updates observer dstAddr = none := by
  unfold lastUpdate
  rw [List.filter_eq_nil_iff.mpr]
  · rfl
  · intro u hu
    simp only [decide_eq_true_eq, not_and]
    exact h u hu

/-- The updates for a route are for one observer and destination. -/
theorem lastUpdate_updatesOf_ne {op : Op} {route : Option (IpPrefix × VNetEntry)}
    (h : (observer', dstAddr') ≠ (observer, dstAddr)) :
    lastUpdate (updatesOf op observer dstAddr route) observer' dstAddr' = none := by
  apply lastUpdate_eq_none
  cases route with
  | none => exact fun _ hu => (nomatch hu)
  | some route =>
    rintro u hu rfl rfl
    obtain ⟨vnetEntry, -, rfl⟩ := List.mem_map.mp hu
    exact h rfl

/-- A route with a next hop is announced with one. -/
theorem lastUpdate_updatesOf (op : Op) (observer : Observer) (dstAddr : IpAddress)
    {route : IpPrefix × VNetEntry}
    (h : ∃ (vnet : String) (nh : NextHop), route.2[vnet]? = some nh) :
    ∃ vnet nh, route.2[vnet]? = some nh ∧
      lastUpdate (updatesOf op observer dstAddr (some route)) observer dstAddr =
        some ⟨op, vnet, dstAddr, route.1, nh⟩ := by
  obtain ⟨vnet, nh, hnh⟩ := h
  have hmem : (vnet, nh) ∈ route.2.toList :=
    Std.ExtTreeMap.mem_toList_iff_getElem?_eq_some.mpr hnh
  obtain ⟨last, hlast⟩ := Option.ne_none_iff_exists'.mp
    (fun hnil : route.2.toList.getLast? = none =>
      List.ne_nil_of_mem hmem (List.getLast?_eq_none_iff.mp hnil))
  refine ⟨last.1, last.2, ?_, ?_⟩
  · exact Std.ExtTreeMap.mem_toList_iff_getElem?_eq_some.mp (List.mem_of_getLast? hlast)
  · unfold lastUpdate updatesOf
    rw [List.filter_eq_self.mpr, List.getLast?_map, hlast]
    · rfl
    · intro u hu
      obtain ⟨vnetEntry, -, rfl⟩ := List.mem_map.mp hu
      simp

theorem lastUpdate_notify {entry : VNetNextHopObserverEntry} {update : Option VNetNextHopUpdate}
    (h : ∀ u, update = some u → u.destination = dstAddr) :
    lastUpdate (notify entry update) observer dstAddr =
      if observer ∈ entry.observers then update else none := by
  cases update with
  | none =>
    rw [ite_self]
    rfl
  | some u =>
    have hdst := h u rfl
    show lastUpdate (entry.observers.map (·, u)) observer dstAddr = _
    generalize entry.observers = observers
    induction observers using List.reverseRecOn with
    | nil => rfl
    | append_singleton observers o ih =>
      rw [List.map_append, lastUpdate_append, ih]
      by_cases ho : o = observer
      · subst ho
        have hone : lastUpdate [(o, u)] o dstAddr = some u := by
          unfold lastUpdate
          rw [List.filter_cons_of_pos (by simpa using hdst)]
          rfl
        have hmem : o ∈ observers ++ [o] := List.mem_append_right _ (List.mem_singleton_self o)
        rw [List.map_singleton, hone, if_pos hmem]
        rfl
      · have hone : lastUpdate [(o, u)] observer dstAddr = none :=
          lastUpdate_eq_none fun u' hu' ho' => by
            rw [List.mem_singleton.mp hu'] at ho'
            exact absurd ho' ho
        rw [List.map_singleton, hone, Option.none_or]
        have hmem : observer ∈ observers ++ [o] ↔ observer ∈ observers := by
          rw [List.mem_append, List.mem_singleton, or_iff_left (Ne.symm ho)]
        simp only [hmem]

/-- Of the updates of all entries, an observer is given those of its own. -/
theorem lastUpdate_flatMap {t : Table IpAddress VNetNextHopObserverEntry}
    {g : IpAddress → VNetNextHopObserverEntry → Option VNetNextHopUpdate}
    (hg : ∀ dstAddr entry u, g dstAddr entry = some u → u.destination = dstAddr) :
    lastUpdate (t.entries.flatMap fun e => notify e.2 (g e.1 e.2)) observer dstAddr =
      (t.lookup dstAddr).bind fun entry =>
        if observer ∈ entry.observers then g dstAddr entry else none := by
  have hother : ∀ e : Sigma fun _ : IpAddress => VNetNextHopObserverEntry, e.1 ≠ dstAddr →
      lastUpdate (notify e.2 (g e.1 e.2)) observer dstAddr = none := by
    intro e he
    apply lastUpdate_eq_none
    intro u hu _
    cases hupdate : g e.1 e.2 with
    | none =>
      rw [hupdate] at hu
      cases hu
    | some update =>
      rw [hupdate] at hu
      obtain ⟨o, -, rfl⟩ := List.mem_map.mp hu
      rw [show update.destination = e.1 from hg e.1 e.2 update hupdate]
      exact he
  obtain ⟨entries, hnodup⟩ := t
  show lastUpdate (entries.flatMap fun e => notify e.2 (g e.1 e.2)) observer dstAddr =
    (entries.dlookup dstAddr).bind _
  induction entries with
  | nil => rfl
  | cons e entries ih =>
    have hrest := ih (List.nodupKeys_cons.mp hnodup).2
    rw [List.flatMap_cons, lastUpdate_append, hrest]
    by_cases he : e.1 = dstAddr
    · subst he
      have hnone : entries.dlookup e.1 = none :=
        List.dlookup_eq_none.mpr (List.nodupKeys_cons.mp hnodup).1
      rw [hnone, List.dlookup_cons_eq, Option.bind_none, Option.none_or,
        lastUpdate_notify (hg e.1 e.2)]
      rfl
    · rw [hother e he, Option.or_none, List.dlookup_cons_ne entries e (Ne.symm he)]

end Updates

/-! ### The invariant -/

/-- The last update is for the best route, or a removal when there is none. -/
def Told (dstAddr : IpAddress) (last : Option VNetNextHopUpdate) :
    Option (IpPrefix × VNetEntry) → Prop
  | none => ∀ update, last = some update → update.op = .DEL_COMMAND
  | some route => ∃ vnet nh, route.2[vnet]? = some nh ∧
      last = some ⟨.SET_COMMAND, vnet, dstAddr, route.1, nh⟩

structure Inv (w : World) : Prop where
  synced : ∀ {p vnets}, w.orch.syncd_routes_.lookup p = some vnets →
    ∃ (vnet : String) (nh : NextHop), vnets[vnet]? = some nh
  count : ∀ observer dstAddr, w.attached.count (observer, dstAddr) =
    ((w.orch.next_hop_observers_.lookup dstAddr).map (·.observers.count observer)).getD 0
  table : ∀ {dstAddr entry}, w.orch.next_hop_observers_.lookup dstAddr = some entry →
    ∀ p, entry.routeTable.lookup p =
      if p.isAddressInSubnet dstAddr then w.orch.syncd_routes_.lookup p else none
  told : ∀ {dstAddr entry observer}, w.orch.next_hop_observers_.lookup dstAddr = some entry →
    observer ∈ entry.observers →
    Told dstAddr (lastUpdate w.orch.updates observer dstAddr) (rbegin entry.routeTable)
  gone : ∀ {observer dstAddr}, (observer, dstAddr) ∉ w.attached → ∀ update,
    lastUpdate w.orch.updates observer dstAddr = some update → update.op = .DEL_COMMAND

section Inv

variable {w : World} {observer : Observer} {dstAddr : IpAddress}

theorem Inv.mem_attached (h : Inv w) {entry : VNetNextHopObserverEntry}
    (hentry : w.orch.next_hop_observers_.lookup dstAddr = some entry) :
    (observer, dstAddr) ∈ w.attached ↔ observer ∈ entry.observers := by
  have hcount := h.count observer dstAddr
  rw [hentry, Option.map_some, Option.getD_some] at hcount
  rw [← List.count_pos_iff, hcount, List.count_pos_iff]

theorem Inv.exists_entry (h : Inv w) (hmem : (observer, dstAddr) ∈ w.attached) :
    ∃ entry, w.orch.next_hop_observers_.lookup dstAddr = some entry ∧
      observer ∈ entry.observers := by
  cases hentry : w.orch.next_hop_observers_.lookup dstAddr with
  | none =>
    have hcount := h.count observer dstAddr
    rw [hentry, Option.map_none, Option.getD_none] at hcount
    exact absurd hmem (List.count_eq_zero.mp hcount)
  | some entry => exact ⟨entry, rfl, (h.mem_attached hentry).mp hmem⟩

theorem Inv.follows (h : Inv w) : Follows w where
  kept := h.exists_entry
  told {observer dstAddr} hmem hcovered := by
    obtain ⟨entry, hentry, hobserver⟩ := h.exists_entry hmem
    have htold := h.told hentry hobserver
    obtain ⟨p, hp, hin⟩ := hcovered
    cases hbest : rbegin entry.routeTable with
    | none =>
      have hnone := Table.last_eq_none_iff.mp hbest p
      rw [h.table hentry, if_pos hin] at hnone
      rw [hnone] at hp
      cases hp
    | some best =>
      rw [hbest] at htold
      obtain ⟨hlook, hmax⟩ := Table.of_last_eq_some hbest
      obtain ⟨vnet, nh, hnh, hlast⟩ := htold
      rw [h.table hentry] at hlook
      split at hlook
      · next hbestIn =>
          refine ⟨best.1, best.2, vnet, nh, ⟨hlook, hbestIn, fun q hq hqin => ?_⟩, hnh, hlast⟩
          obtain ⟨vnets, hvnets⟩ := Option.isSome_iff_exists.mp hq
          have hle := hmax q vnets (by rw [h.table hentry, if_pos hqin, hvnets])
          rcases lt_or_eq_of_le hle with hlt | heq
          · exact IpPrefix.mask_le_of_lt hlt
          · rw [IpPrefix.rank_injective heq]
      · cases hlook
  untold {observer dstAddr} hmem huncovered := by
    obtain ⟨entry, hentry, hobserver⟩ := h.exists_entry hmem
    have htold := h.told hentry hobserver
    have hnone : rbegin entry.routeTable = none := by
      refine Table.last_eq_none_iff.mpr fun p => ?_
      rw [h.table hentry]
      split
      · next hin =>
          cases hp : w.orch.syncd_routes_.lookup p with
          | none => rfl
          | some vnets =>
            have hout := huncovered p (by rw [hp]; rfl)
            rw [hin] at hout
            cases hout
      · rfl
    rw [hnone] at htold
    exact htold

/-! ### Attaching and detaching -/

/-- The entry that an observer is attached to. -/
def entryFor (s : St) (dstAddr : IpAddress) : VNetNextHopObserverEntry :=
  match s.next_hop_observers_.lookup dstAddr with
  | some entry => entry
  | none => ⟨s.syncd_routes_.restrict (·.isAddressInSubnet dstAddr), []⟩

theorem Inv.table_entryFor (h : Inv w) (p : IpPrefix) :
    (entryFor w.orch dstAddr).routeTable.lookup p =
      if p.isAddressInSubnet dstAddr then w.orch.syncd_routes_.lookup p else none := by
  unfold entryFor
  split
  · next hentry => exact h.table hentry p
  · exact Table.lookup_restrict

theorem count_entryFor (h : Inv w) (observer : Observer) (dstAddr : IpAddress) :
    (entryFor w.orch dstAddr).observers.count observer = w.attached.count (observer, dstAddr) := by
  rw [h.count]
  unfold entryFor
  cases hentry : w.orch.next_hop_observers_.lookup dstAddr with
  | none => rfl
  | some entry => rfl

/-- The best route of an entry has a next hop. -/
theorem Inv.exists_nexthop (h : Inv w) {t : VNetRouteTable} {best : IpPrefix × VNetEntry}
    (ht : ∀ p, t.lookup p =
      if p.isAddressInSubnet dstAddr then w.orch.syncd_routes_.lookup p else none)
    (hbest : rbegin t = some best) :
    ∃ (vnet : String) (nh : NextHop), best.2[vnet]? = some nh := by
  have hlook := (Table.of_last_eq_some hbest).1
  rw [ht] at hlook
  split at hlook
  · exact h.synced hlook
  · cases hlook

/-- What the observers of an entry know is enough for one that is attached to it. -/
theorem Inv.told_entryFor (h : Inv w) (observer : Observer) (dstAddr : IpAddress) :
    rbegin (entryFor w.orch dstAddr).routeTable = none →
      Told dstAddr (lastUpdate w.orch.updates observer dstAddr) none := by
  intro hnone
  by_cases hmem : (observer, dstAddr) ∈ w.attached
  · obtain ⟨entry, hentry, hobserver⟩ := h.exists_entry hmem
    have hsame : entryFor w.orch dstAddr = entry := by
      unfold entryFor
      rw [hentry]
    rw [hsame] at hnone
    have htold := h.told hentry hobserver
    rw [hnone] at htold
    exact htold
  · exact h.gone hmem

theorem Inv.attach (h : Inv w) (observer : Observer) (dstAddr : IpAddress) :
    Inv ⟨w.orch.attach observer dstAddr, (observer, dstAddr) :: w.attached⟩ := by
  have hupdates : (w.orch.attach observer dstAddr).updates = w.orch.updates ++
      updatesOf .SET_COMMAND observer dstAddr (rbegin (entryFor w.orch dstAddr).routeTable) := rfl
  have hlook : ∀ dst, (w.orch.attach observer dstAddr).next_hop_observers_.lookup dst =
      if dst = dstAddr then some { entryFor w.orch dstAddr with
        observers := (entryFor w.orch dstAddr).observers ++ [observer] }
      else w.orch.next_hop_observers_.lookup dst := fun dst => Table.lookup_insert_eq
  -- the updates are for the observer that is attached only
  have hother : ∀ {o dst}, (o, dst) ≠ (observer, dstAddr) →
      lastUpdate (w.orch.attach observer dstAddr).updates o dst =
        lastUpdate w.orch.updates o dst := by
    intro o dst hne
    rw [hupdates, lastUpdate_append, lastUpdate_updatesOf_ne hne, Option.none_or]
  have hself : Told dstAddr (lastUpdate (w.orch.attach observer dstAddr).updates observer dstAddr)
      (rbegin (entryFor w.orch dstAddr).routeTable) := by
    rw [hupdates, lastUpdate_append]
    cases hbest : rbegin (entryFor w.orch dstAddr).routeTable with
    | none => exact h.told_entryFor observer dstAddr hbest
    | some best =>
      obtain ⟨vnet, nh, hnh, hlast⟩ :=
        lastUpdate_updatesOf .SET_COMMAND observer dstAddr
          (h.exists_nexthop h.table_entryFor hbest)
      refine ⟨vnet, nh, hnh, ?_⟩
      rw [hlast]
      rfl
  refine ⟨h.synced, fun o dst => ?_, fun {dst entry} hentry p => ?_,
    fun {dst entry o} hentry ho => ?_, fun {o dst} hmem update hupdate => ?_⟩
  · show ((observer, dstAddr) :: w.attached).count (o, dst) = _
    rw [hlook, List.count_cons]
    by_cases hdst : dst = dstAddr
    · subst hdst
      rw [if_pos rfl, Option.map_some, Option.getD_some, List.count_append, count_entryFor h,
        List.count_singleton]
      by_cases ho : observer = o
      · simp [ho]
      · simp [ho]
    · rw [if_neg hdst, ← h.count o dst]
      simp [Ne.symm hdst]
  · rw [hlook] at hentry
    split at hentry
    · next hdst =>
        obtain rfl := Option.some.inj hentry
        subst hdst
        exact h.table_entryFor p
    · exact h.table hentry p
  · rw [hlook] at hentry
    split at hentry
    · next hdst =>
        obtain rfl := Option.some.inj hentry
        subst hdst
        by_cases hobserver : o = observer
        · subst hobserver
          exact hself
        · have hmem : (o, dst) ∈ w.attached := by
            rw [← List.count_pos_iff, ← count_entryFor h, List.count_pos_iff]
            exact (List.mem_append.mp ho).resolve_right fun hone =>
              hobserver (List.mem_singleton.mp hone)
          obtain ⟨entry, hentry, hin⟩ := h.exists_entry hmem
          have hsame : entryFor w.orch dst = entry := by
            unfold entryFor
            rw [hentry]
          show Told dst (lastUpdate _ o dst) (rbegin (entryFor w.orch dst).routeTable)
          rw [hother fun heq => hobserver (Prod.mk.inj heq).1, hsame]
          exact h.told hentry hin
    · next hdst =>
        show Told dst (lastUpdate _ o dst) _
        rw [hother fun heq => hdst (Prod.mk.inj heq).2]
        exact h.told hentry ho
  · have hne : (o, dst) ≠ (observer, dstAddr) := fun heq => hmem (heq ▸ List.mem_cons_self)
    rw [hother hne] at hupdate
    exact h.gone (fun hin => hmem (List.mem_cons_of_mem _ hin)) update hupdate

/-- The only observer of an address is detached. -/
theorem Inv.detach (h : Inv w) {entry : VNetNextHopObserverEntry}
    (hentry : w.orch.next_hop_observers_.lookup dstAddr = some entry)
    (honly : entry.observers = [observer]) :
    ∃ s, w.orch.detach observer dstAddr = .ok s ∧
      Inv ⟨s, w.attached.erase (observer, dstAddr)⟩ := by
  have hmem : observer ∈ entry.observers := by rw [honly]; exact List.mem_singleton_self observer
  refine ⟨{ w.orch with
    next_hop_observers_ := w.orch.next_hop_observers_.erase dstAddr
    updates := w.orch.updates ++
      updatesOf .DEL_COMMAND observer dstAddr (rbegin entry.routeTable) }, ?_, ?_⟩
  · unfold St.detach
    rw [hentry]
    dsimp only
    rw [if_neg (not_not.mpr hmem)]
  · have hlook : ∀ {dst e}, (w.orch.next_hop_observers_.erase dstAddr).lookup dst = some e →
        dst ≠ dstAddr ∧ w.orch.next_hop_observers_.lookup dst = some e :=
      fun h => Table.lookup_erase_iff.mp h
    have hother : ∀ {o dst}, (o, dst) ≠ (observer, dstAddr) →
        lastUpdate (w.orch.updates ++ updatesOf .DEL_COMMAND observer dstAddr
          (rbegin entry.routeTable)) o dst = lastUpdate w.orch.updates o dst := by
      intro o dst hne
      rw [lastUpdate_append, lastUpdate_updatesOf_ne hne, Option.none_or]
    have hself : ∀ update, lastUpdate (w.orch.updates ++ updatesOf .DEL_COMMAND observer dstAddr
        (rbegin entry.routeTable)) observer dstAddr = some update → update.op = .DEL_COMMAND := by
      have htold := h.told hentry hmem
      intro update hupdate
      rw [lastUpdate_append] at hupdate
      cases hbest : rbegin entry.routeTable with
      | none =>
        rw [hbest] at htold hupdate
        exact htold update hupdate
      | some best =>
        obtain ⟨vnet, nh, -, hlast⟩ :=
          lastUpdate_updatesOf .DEL_COMMAND observer dstAddr
            (h.exists_nexthop (h.table hentry) hbest)
        rw [hbest, hlast] at hupdate
        obtain rfl := Option.some.inj hupdate
        rfl
    refine ⟨h.synced, fun o dst => ?_, fun {dst e} he p => h.table (hlook he).2 p,
      fun {dst e o} he ho => ?_, fun {o dst} hnot update hupdate => ?_⟩
    · show (w.attached.erase (observer, dstAddr)).count (o, dst) =
        (((w.orch.next_hop_observers_.erase dstAddr).lookup dst).map _).getD 0
      rw [Table.lookup_erase_eq]
      by_cases hdst : dst = dstAddr
      · subst hdst
        have hcount := h.count o dst
        rw [hentry, Option.map_some, Option.getD_some, honly] at hcount
        rw [if_pos rfl, Option.map_none, Option.getD_none, List.count_erase, hcount,
          List.count_singleton]
        by_cases ho : observer = o
        · simp [ho]
        · simp [ho]
      · rw [if_neg hdst, ← h.count o dst, List.count_erase_of_ne]
        exact fun heq => hdst (Prod.mk.inj heq).2
    · obtain ⟨hdst, he⟩ := hlook he
      show Told dst (lastUpdate (w.orch.updates ++ _) o dst) _
      rw [hother fun heq => hdst (Prod.mk.inj heq).2]
      exact h.told he ho
    · by_cases heq : (o, dst) = (observer, dstAddr)
      · obtain ⟨rfl, rfl⟩ := Prod.mk.inj heq
        exact hself update hupdate
      · change lastUpdate (w.orch.updates ++ _) o dst = some update at hupdate
        rw [hother heq] at hupdate
        refine h.gone (fun hin => hnot ?_) update hupdate
        exact (List.mem_erase_of_ne heq).mpr hin

/-! ### Routes -/

variable {vnet : String} {ipPrefix : IpPrefix} {nh : NextHop}

theorem addRouteEntry_observers {entry : VNetNextHopObserverEntry} :
    (addRouteEntry vnet ipPrefix nh dstAddr entry).1.observers = entry.observers := by
  unfold addRouteEntry
  split
  · dsimp only
    split <;> rfl
  · rfl

theorem addRouteEntry_destination {entry : VNetNextHopObserverEntry} {update : VNetNextHopUpdate}
    (h : (addRouteEntry vnet ipPrefix nh dstAddr entry).2 = some update) :
    update.destination = dstAddr := by
  unfold addRouteEntry at h
  split at h
  · dsimp only at h
    split at h
    · cases h
    · split at h
      · cases h
        rfl
      · cases h
  · cases h

/-- The routes after `addRoute`. -/
theorem lookup_addRoute (p : IpPrefix) :
    (w.orch.addRoute vnet ipPrefix nh).syncd_routes_.lookup p =
      if p = ipPrefix then
        some (((w.orch.syncd_routes_.lookup ipPrefix).getD ∅).insert vnet nh)
      else w.orch.syncd_routes_.lookup p :=
  Table.lookup_insert_eq

/-- The copy of the routes is kept up, and the observers are told when the best route changes. -/
theorem Inv.addRouteEntry (h : Inv w) (vnet : String) (ipPrefix : IpPrefix) (nh : NextHop)
    {entry : VNetNextHopObserverEntry}
    (hentry : w.orch.next_hop_observers_.lookup dstAddr = some entry) :
    (∀ p, (addRouteEntry vnet ipPrefix nh dstAddr entry).1.routeTable.lookup p =
      if p.isAddressInSubnet dstAddr then
        (w.orch.addRoute vnet ipPrefix nh).syncd_routes_.lookup p else none) ∧
    ((∃ route, rbegin (addRouteEntry vnet ipPrefix nh dstAddr entry).1.routeTable = some route ∧
        route.2[vnet]? = some nh ∧
        (addRouteEntry vnet ipPrefix nh dstAddr entry).2 =
          some ⟨.SET_COMMAND, vnet, dstAddr, route.1, nh⟩) ∨
      (rbegin (addRouteEntry vnet ipPrefix nh dstAddr entry).1.routeTable =
          rbegin entry.routeTable ∧
        (addRouteEntry vnet ipPrefix nh dstAddr entry).2 = none)) := by
  have htable := h.table hentry
  unfold VNetRoute.addRouteEntry
  by_cases hin : ipPrefix.isAddressInSubnet dstAddr = true
  · rw [if_pos hin]
    dsimp only
    have hold : entry.routeTable.lookup ipPrefix = w.orch.syncd_routes_.lookup ipPrefix := by
      rw [htable, if_pos hin]
    by_cases hsame : ((entry.routeTable.lookup ipPrefix).getD ∅)[vnet]? = some nh
    · -- the next hop is there already
      rw [if_pos hsame]
      refine ⟨fun p => ?_, Or.inr ⟨rfl, rfl⟩⟩
      rw [htable, lookup_addRoute]
      by_cases hp : p = ipPrefix
      · subst hp
        rw [if_pos rfl, if_pos hin, if_pos hin, ← hold]
        cases hvnets : entry.routeTable.lookup p with
        | none =>
          rw [hvnets] at hsame
          exact absurd hsame (by simp)
        | some vnets =>
          rw [hvnets, Option.getD_some] at hsame
          rw [Option.getD_some]
          congr 1
          refine Std.ExtTreeMap.ext_getElem? fun k => ?_
          rw [Std.ExtTreeMap.getElem?_insert]
          split
          · next hk =>
              rw [← hsame, Std.LawfulEqCmp.eq_of_compare hk]
          · rfl
      · rw [if_neg hp]
    · rw [if_neg hsame]
      dsimp only
      set routeTable : VNetRouteTable := entry.routeTable.insert ipPrefix
        (((entry.routeTable.lookup ipPrefix).getD ∅).insert vnet nh) with hrouteTable
      have hnew : ∀ p, routeTable.lookup p =
          if p = ipPrefix then some (((entry.routeTable.lookup ipPrefix).getD ∅).insert vnet nh)
          else entry.routeTable.lookup p := fun p => Table.lookup_insert_eq
      refine ⟨fun p => ?_, ?_⟩
      · rw [hnew, lookup_addRoute, hold]
        by_cases hp : p = ipPrefix
        · rw [if_pos hp, if_pos hp, hp, if_pos hin]
        · rw [if_neg hp, if_neg hp, htable]
      · by_cases hbest : (rbegin routeTable).map (·.1) = some ipPrefix
        · -- the route is the best one
          rw [if_pos hbest]
          obtain ⟨route, hroute, hkey⟩ := Option.map_eq_some_iff.mp hbest
          have hlook := (Table.of_last_eq_some hroute).1
          rw [hnew, if_pos hkey] at hlook
          refine Or.inl ⟨route, hroute, ?_, by rw [hkey]⟩
          rw [← Option.some.inj hlook, Std.ExtTreeMap.getElem?_insert_self]
        · rw [if_neg hbest]
          refine Or.inr ⟨?_, rfl⟩
          cases hroute : rbegin routeTable with
          | none =>
            have hnone := Table.last_eq_none_iff.mp hroute ipPrefix
            rw [hnew, if_pos rfl] at hnone
            cases hnone
          | some route =>
            rw [hroute] at hbest
            have hkey : route.1 ≠ ipPrefix := fun heq => hbest (by rw [← heq]; rfl)
            obtain ⟨hlook, hmax⟩ := Table.of_last_eq_some hroute
            rw [hnew, if_neg hkey] at hlook
            refine ((Table.last_eq_some IpPrefix.rank_injective).mpr ⟨hlook, ?_⟩).symm
            intro k v hk
            by_cases hkp : k = ipPrefix
            · exact hmax k _ (by rw [hnew, if_pos hkp])
            · exact hmax k v (by rw [hnew, if_neg hkp, hk])
  · rw [if_neg hin]
    refine ⟨fun p => ?_, Or.inr ⟨rfl, rfl⟩⟩
    rw [htable, lookup_addRoute]
    by_cases hp : p = ipPrefix
    · rw [hp, if_neg hin, if_neg hin]
    · rw [if_neg hp]

theorem Inv.addRoute (h : Inv w) :
    Inv { w with orch := w.orch.addRoute vnet ipPrefix nh } := by
  have hlook : ∀ dst, (w.orch.addRoute vnet ipPrefix nh).next_hop_observers_.lookup dst =
      (w.orch.next_hop_observers_.lookup dst).map
        fun entry => (VNetRoute.addRouteEntry vnet ipPrefix nh dst entry).1 :=
    fun dst => Table.lookup_map
  have hlast : ∀ o dst, lastUpdate (w.orch.addRoute vnet ipPrefix nh).updates o dst =
      ((w.orch.next_hop_observers_.lookup dst).bind fun entry =>
        if o ∈ entry.observers then (VNetRoute.addRouteEntry vnet ipPrefix nh dst entry).2
        else none).or (lastUpdate w.orch.updates o dst) := by
    intro o dst
    rw [← lastUpdate_flatMap
      (g := fun dst entry => (VNetRoute.addRouteEntry vnet ipPrefix nh dst entry).2)
      fun dst entry u hu => addRouteEntry_destination hu]
    exact lastUpdate_append
  refine ⟨fun {p vnets} hp => ?_, fun o dst => ?_, fun {dst entry} hentry p => ?_,
    fun {dst entry o} hentry ho => ?_, fun {o dst} hmem update hupdate => ?_⟩
  · change (w.orch.addRoute vnet ipPrefix nh).syncd_routes_.lookup p = _ at hp
    rw [lookup_addRoute] at hp
    split at hp
    · obtain rfl := Option.some.inj hp
      exact ⟨vnet, nh, Std.ExtTreeMap.getElem?_insert_self⟩
    · exact h.synced hp
  · rw [hlook]
    cases hentry : w.orch.next_hop_observers_.lookup dst with
    | none =>
      have hcount := h.count o dst
      rw [hentry] at hcount
      exact hcount
    | some entry =>
      have hcount := h.count o dst
      rw [hentry] at hcount
      rw [Option.map_some, Option.map_some, Option.getD_some, addRouteEntry_observers]
      exact hcount
  · rw [hlook] at hentry
    obtain ⟨old, hold, rfl⟩ := Option.map_eq_some_iff.mp hentry
    exact (h.addRouteEntry vnet ipPrefix nh hold).1 p
  · rw [hlook] at hentry
    obtain ⟨old, hold, rfl⟩ := Option.map_eq_some_iff.mp hentry
    rw [addRouteEntry_observers] at ho
    show Told dst (lastUpdate (w.orch.addRoute vnet ipPrefix nh).updates o dst) _
    rw [hlast, hold, Option.bind_some, if_pos ho]
    rcases (h.addRouteEntry vnet ipPrefix nh hold).2 with
      ⟨route, hroute, hnh, hupdate⟩ | ⟨hroute, hupdate⟩
    · rw [hroute, hupdate]
      exact ⟨vnet, nh, hnh, rfl⟩
    · rw [hroute, hupdate]
      exact h.told hold ho
  · change lastUpdate (w.orch.addRoute vnet ipPrefix nh).updates o dst = some update at hupdate
    rw [hlast] at hupdate
    cases hentry : w.orch.next_hop_observers_.lookup dst with
    | none =>
      rw [hentry] at hupdate
      exact h.gone hmem update hupdate
    | some entry =>
      rw [hentry, Option.bind_some,
        if_neg fun ho => hmem ((h.mem_attached hentry).mpr ho)] at hupdate
      exact h.gone hmem update hupdate

/-- A route that covers no address is removed without a word. -/
theorem foldlM_delRouteStep (ipPrefix : IpPrefix) (s : St)
    (entries : List (Sigma fun _ : IpAddress => VNetNextHopObserverEntry))
    (hentries : ∀ e ∈ entries, s.next_hop_observers_.lookup e.1 = some e.2 ∧
      ipPrefix.isAddressInSubnet e.1 = false) :
    ∃ s', entries.foldlM (St.delRouteStep ipPrefix) s = .ok s' ∧ s'.updates = s.updates ∧
      s'.syncd_routes_ = s.syncd_routes_ ∧
      ∀ dst, s'.next_hop_observers_.lookup dst = s.next_hop_observers_.lookup dst := by
  induction entries generalizing s with
  | nil => exact ⟨s, rfl, rfl, rfl, fun _ => rfl⟩
  | cons e entries ih =>
    obtain ⟨hlook, hout⟩ := hentries e List.mem_cons_self
    have hstep : St.delRouteStep ipPrefix s e = .ok { s with
        next_hop_observers_ := s.next_hop_observers_.insert e.1 e.2
        updates := s.updates ++ [] } := by
      unfold St.delRouteStep delRouteEntry
      rw [if_neg (by rw [hout]; decide)]
      rfl
    have hsame : ∀ dst, (s.next_hop_observers_.insert e.1 e.2).lookup dst =
        s.next_hop_observers_.lookup dst := by
      intro dst
      rw [Table.lookup_insert_eq]
      split
      · next hdst => rw [hdst, hlook]
      · rfl
    obtain ⟨s', hs', hupdates, hroutes, hobservers⟩ := ih { s with
        next_hop_observers_ := s.next_hop_observers_.insert e.1 e.2
        updates := s.updates ++ [] } fun e' he' => by
      obtain ⟨hlook', hout'⟩ := hentries e' (List.mem_cons_of_mem e he')
      exact ⟨(hsame e'.1).trans hlook', hout'⟩
    refine ⟨s', ?_, hupdates.trans (List.append_nil _), hroutes,
      fun dst => (hobservers dst).trans (hsame dst)⟩
    rw [List.foldlM_cons, hstep]
    exact hs'

theorem Inv.delRoute (h : Inv w) (hroute : (w.orch.syncd_routes_.lookup ipPrefix).isSome)
    (hout : ∀ dstAddr, (w.orch.next_hop_observers_.lookup dstAddr).isSome →
      ipPrefix.isAddressInSubnet dstAddr = false) :
    ∃ s, w.orch.delRoute ipPrefix = .ok s ∧ s.updates = w.orch.updates ∧
      Inv { w with orch := s } := by
  obtain ⟨s, hs, hupdates, hroutes, hobservers⟩ := foldlM_delRouteStep ipPrefix w.orch
    w.orch.next_hop_observers_.entries fun e he => by
      have hlook := Table.mem_entries.mp he
      exact ⟨hlook, hout e.1 (by rw [hlook]; rfl)⟩
  refine ⟨{ s with syncd_routes_ := s.syncd_routes_.erase ipPrefix }, ?_, hupdates, ?_⟩
  · obtain ⟨vnets, hvnets⟩ := Option.isSome_iff_exists.mp hroute
    unfold St.delRoute
    rw [hvnets]
    dsimp only
    rw [hs]
    rfl
  · refine ⟨fun {p vnets} hp => ?_, fun o dst => ?_, fun {dst entry} hentry p => ?_,
      fun {dst entry o} hentry ho => ?_, fun {o dst} hmem update hupdate => ?_⟩
    · have hp := (Table.lookup_erase_iff.mp hp).2
      rw [hroutes] at hp
      exact h.synced hp
    · show _ = ((s.next_hop_observers_.lookup dst).map _).getD 0
      rw [hobservers]
      exact h.count o dst
    · change s.next_hop_observers_.lookup dst = some entry at hentry
      rw [hobservers] at hentry
      rw [h.table hentry]
      show _ = if _ then (s.syncd_routes_.erase ipPrefix).lookup p else none
      rw [Table.lookup_erase_eq, hroutes]
      by_cases hp : p = ipPrefix
      · -- the route covers no observed address
        have hnot := hout dst (by rw [hentry]; rfl)
        rw [hp, if_neg (by rw [hnot]; decide), if_neg (by rw [hnot]; decide)]
      · rw [if_neg hp]
    · change s.next_hop_observers_.lookup dst = some entry at hentry
      rw [hobservers] at hentry
      show Told dst (lastUpdate s.updates o dst) _
      rw [hupdates]
      exact h.told hentry ho
    · change lastUpdate s.updates o dst = some update at hupdate
      rw [hupdates] at hupdate
      exact h.gone hmem update hupdate

/-! ### Runs -/

theorem inv_init : Inv .init where
  synced hp := nomatch hp
  count _ _ := rfl
  table hentry := nomatch hentry
  told hentry := nomatch hentry
  gone _ _ hupdate := nomatch hupdate

theorem Inv.step (h : Inv w) {e : Event} (hsafe : Safe w e) :
    ∃ w', w.step e = .ok w' ∧ Inv w' := by
  cases e with
  | attach observer dstAddr => exact ⟨_, rfl, h.attach observer dstAddr⟩
  | detach observer dstAddr =>
    obtain ⟨entry, hentry, honly⟩ := hsafe
    obtain ⟨s, hs, hinv⟩ := h.detach hentry honly
    refine ⟨⟨s, w.attached.erase (observer, dstAddr)⟩, ?_, hinv⟩
    show (w.orch.detach observer dstAddr).map _ = _
    rw [hs]
    rfl
  | addRoute vnet ipPrefix nh => exact ⟨_, rfl, h.addRoute⟩
  | delRoute ipPrefix =>
    obtain ⟨s, hs, -, hinv⟩ := h.delRoute hsafe.1 hsafe.2
    refine ⟨{ w with orch := s }, ?_, hinv⟩
    show (w.orch.delRoute ipPrefix).map _ = _
    rw [hs]
    rfl

/-- **Observers follow the longest prefix.**  On runs of safe steps every call returns, every
observer that was attached still is and was last told of a longest prefix, and the removal of a
route tells nobody anything. -/
theorem run_follows {es : List Event} {t : Except Stuck World}
    (h : Run (Guarded (fun t e => ∀ w, t = .ok w → Safe w e) (fun t e t' => t' = World.next t e))
      (.ok .init) es t) :
    ∃ w, t = .ok w ∧ Follows w ∧ ∀ ipPrefix, Safe w (.delRoute ipPrefix) →
      ∃ w', w.step (.delRoute ipPrefix) = .ok w' ∧ w'.orch.updates = w.orch.updates := by
  have hinv : ∃ w, t = .ok w ∧ Inv w := by
    refine h.keeps (I := fun t => ∃ w, t = .ok w ∧ Inv w) ⟨.init, rfl, inv_init⟩ ?_
    rintro _ e _ ⟨w, rfl, hinv⟩ ⟨hsafe, rfl⟩
    exact hinv.step (hsafe w rfl)
  obtain ⟨w, rfl, hinv⟩ := hinv
  refine ⟨w, rfl, hinv.follows, fun ipPrefix hsafe => ?_⟩
  obtain ⟨s, hs, hupdates, -⟩ := hinv.delRoute hsafe.1 hsafe.2
  refine ⟨{ w with orch := s }, ?_, hupdates⟩
  show (w.orch.delRoute ipPrefix).map _ = _
  rw [hs]
  rfl

end Inv

theorem tenMask_le : 8 ≤ 32 := by decide

/-- The address 10.0.0.`n`. -/
def ten (n : UInt8) : IpAddress := .v4 (10 ::ᵥ 0 ::ᵥ 0 ::ᵥ n ::ᵥ .nil)

def tenNet : IpPrefix := ⟨ten 0, 8, tenMask_le⟩
def tenHost : IpAddress := ten 1
def tenVia : NextHop := ⟨[ten 2], "Ethernet0"⟩

/-- An observer is attached, and a route that covers its address is added. -/
theorem follows_ten :
    ∃ w, [Event.attach 7 tenHost, .addRoute "Vnet1" tenNet tenVia].foldl World.next
        (.ok .init) = .ok w ∧ Follows w ∧ ∀ ipPrefix, Safe w (.delRoute ipPrefix) →
      ∃ w', w.step (.delRoute ipPrefix) = .ok w' ∧ w'.orch.updates = w.orch.updates :=
  run_follows (Run.guarded_foldl ⟨fun _ _ => trivial, fun _ _ => trivial, trivial⟩)

/-- The observer of an address is dropped with the last route that covers it. -/
theorem not_run_follows :
    ¬ ∀ (es : List Event) (t : Except Stuck World),
      Run (fun t e t' => t' = World.next t e) (.ok .init) es t → ∃ w, t = .ok w ∧ Follows w := by
  intro h
  obtain ⟨w, hw, hfollows⟩ := h
    [.attach 7 tenHost, .addRoute "Vnet1" tenNet tenVia, .delRoute tenNet] _ (Run.foldl _ _)
  have hrun : (([.attach 7 tenHost, .addRoute "Vnet1" tenNet tenVia, .delRoute tenNet].foldl
      World.next (.ok .init)).map fun w =>
        ((w.orch.next_hop_observers_.lookup tenHost).isSome, w.attached)) =
      .ok (false, [(7, tenHost)]) := by
    decide +kernel
  rw [hw] at hrun
  obtain ⟨hnone, hattached⟩ := Prod.mk.inj (Except.ok.inj hrun)
  have hmem : ((7, tenHost) : Observer × IpAddress) ∈ w.attached := by
    rw [hattached]
    exact List.mem_singleton_self _
  obtain ⟨entry, hentry, -⟩ := hfollows.kept hmem
  rw [hentry] at hnone
  cases hnone

end Orchagent.VNetRoute
