/-
Orchagent/Observers.lean

Next hop observers follow the longest prefix match.

An entry of `m_nextHopObservers` keeps the routes that cover its destination.  They are
kept up to date by the notifications alone, which tell the observers only when the last
entry of the table changes.  The table is that of the routes (`Tracks`), its last entry is
the longest prefix, and the last update of every observer carries it
(`next_hop_observers_track`).
-/
import Sonic.Orchagent.RouteRun

namespace Orchagent

open Transition (Run Guarded)

/-! ### The last entry of a table -/

/-- An entry that no other is behind. -/
def RouteTable.IsLast (t : RouteTable) (e : IpPrefix × NextHopGroupKey) : Prop :=
  t.lookup e.1 = some e.2 ∧ ∀ p nhs, t.lookup p = some nhs → ¬ e.1 < p

namespace RouteTable

variable {t : RouteTable} {e e' : IpPrefix × NextHopGroupKey}

/-- The last of two entries. -/
def later (best : Option (IpPrefix × NextHopGroupKey))
    (e : Sigma fun _ : IpPrefix => NextHopGroupKey) : Option (IpPrefix × NextHopGroupKey) :=
  match best with
  | none => some (e.1, e.2)
  | some b => if b.1 < e.1 then some (e.1, e.2) else some b

theorem foldl_later (l : List (Sigma fun _ : IpPrefix => NextHopGroupKey)) :
    (l.foldl later none = none ∧ l = []) ∨
      ∃ b, l.foldl later none = some b ∧ (⟨b.1, b.2⟩ : Sigma fun _ => NextHopGroupKey) ∈ l ∧
        ∀ e ∈ l, ¬ b.1 < e.1 := by
  induction l using List.reverseRecOn with
  | nil => exact Or.inl ⟨rfl, rfl⟩
  | append_singleton l e ih =>
    right
    rw [List.foldl_append]
    rcases ih with ⟨hnone, rfl⟩ | ⟨b, hb, hmem, hmax⟩
    · refine ⟨(e.1, e.2), by rw [hnone]; rfl, by simp, ?_⟩
      intro e' he'
      obtain rfl := List.mem_singleton.mp he'
      exact lt_irrefl e'.1.rank
    · show ∃ b', later (l.foldl later none) e = some b' ∧ _
      rw [hb]
      by_cases hlt : b.1 < e.1
      · refine ⟨(e.1, e.2), if_pos hlt, by simp, ?_⟩
        intro e' he' hlt'
        rcases List.mem_append.mp he' with hl | he
        · exact hmax e' hl (lt_trans (a := b.1.rank) hlt hlt')
        · obtain rfl := List.mem_singleton.mp he
          exact lt_irrefl e'.1.rank hlt'
      · refine ⟨b, if_neg hlt, List.mem_append_left _ hmem, ?_⟩
        intro e' he'
        rcases List.mem_append.mp he' with hl | he
        · exact hmax e' hl
        · obtain rfl := List.mem_singleton.mp he
          exact hlt

theorem rbegin_eq_none (h : t.rbegin = none) (p : IpPrefix) : t.lookup p = none := by
  rcases foldl_later t.entries with ⟨-, hnil⟩ | ⟨b, hb, -⟩
  · exact St.lookup_eq_none_of_entries hnil p
  · have hsome : t.rbegin = some b := hb
    rw [h] at hsome
    cases hsome

theorem isLast_of_rbegin (h : t.rbegin = some e) : t.IsLast e := by
  rcases foldl_later t.entries with ⟨hnone, -⟩ | ⟨b, hb, hmem, hmax⟩
  · have hnone' : t.rbegin = none := hnone
    rw [h] at hnone'
    cases hnone'
  · have hsome : t.rbegin = some b := hb
    obtain rfl := Option.some.inj (h.symm.trans hsome)
    refine ⟨Table.mem_entries.mp hmem, ?_⟩
    intro p nhs hp
    exact hmax ⟨p, nhs⟩ (Table.mem_entries.mpr hp)

theorem IsLast.unique (h : t.IsLast e) (h' : t.IsLast e') : e = e' := by
  have hkey : e.1 = e'.1 := by
    apply IpPrefix.rank_injective
    rcases lt_trichotomy e.1.rank e'.1.rank with hlt | heq | hgt
    · exact absurd hlt (h.2 _ _ h'.1)
    · exact heq
    · exact absurd hgt (h'.2 _ _ h.1)
  obtain ⟨p, nhs⟩ := e
  obtain ⟨p', nhs'⟩ := e'
  obtain rfl : p = p' := hkey
  have hvalue : nhs = nhs' := Option.some.inj (h.1.symm.trans h'.1)
  rw [hvalue]

/-- **The last entry is the one that no other is behind.** -/
theorem rbegin_eq_some : t.rbegin = some e ↔ t.IsLast e := by
  constructor
  · exact isLast_of_rbegin
  · intro h
    cases hbegin : t.rbegin with
    | none =>
      have hnone := rbegin_eq_none hbegin e.1
      rw [h.1] at hnone
      cases hnone
    | some e' => rw [(isLast_of_rbegin hbegin).unique h]

/-- A later entry becomes the last one. -/
theorem rbegin_insert_of_lt {p : IpPrefix} {nhs : NextHopGroupKey} (h : t.rbegin = some e)
    (hlt : e.1 < p) : RouteTable.rbegin (t.insert p nhs) = some (p, nhs) := by
  refine rbegin_eq_some.mpr ⟨AList.lookup_insert t, ?_⟩
  intro q nhs' hq hpq
  rw [Table.lookup_insert_eq] at hq
  split at hq
  · next heq =>
      rw [heq] at hpq
      exact lt_irrefl p.rank hpq
  · exact (isLast_of_rbegin h).2 q nhs' hq (lt_trans (a := e.1.rank) hlt hpq)

/-- The value of the last entry, changed. -/
theorem rbegin_insert_self {nhs : NextHopGroupKey} (h : t.rbegin = some e) :
    RouteTable.rbegin (t.insert e.1 nhs) = some (e.1, nhs) := by
  refine rbegin_eq_some.mpr ⟨AList.lookup_insert t, ?_⟩
  intro q nhs' hq hpq
  rw [Table.lookup_insert_eq] at hq
  split at hq
  · next heq =>
      rw [heq] at hpq
      exact lt_irrefl e.1.rank hpq
  · exact (isLast_of_rbegin h).2 q nhs' hq hpq

/-- An entry that is not behind the last one leaves it there. -/
theorem rbegin_insert_of_not_lt {p : IpPrefix} {nhs : NextHopGroupKey} (h : t.rbegin = some e)
    (hne : e.1 ≠ p) (hlt : ¬ e.1 < p) : RouteTable.rbegin (t.insert p nhs) = some e := by
  refine rbegin_eq_some.mpr ⟨?_, ?_⟩
  · rw [Table.lookup_insert_eq, if_neg hne]
    exact (isLast_of_rbegin h).1
  · intro q nhs' hq
    rw [Table.lookup_insert_eq] at hq
    split at hq
    · next heq => rwa [heq]
    · exact (isLast_of_rbegin h).2 q nhs' hq

/-- Without another entry the last one stays. -/
theorem rbegin_erase_of_ne {p : IpPrefix} (h : t.rbegin = some e) (hne : e.1 ≠ p) :
    RouteTable.rbegin (t.erase p) = some e := by
  refine rbegin_eq_some.mpr ⟨?_, ?_⟩
  · rw [Table.lookup_erase_eq, if_neg hne]
    exact (isLast_of_rbegin h).1
  · intro q nhs' hq
    rw [Table.lookup_erase_eq] at hq
    split at hq
    · cases hq
    · exact (isLast_of_rbegin h).2 q nhs' hq

end RouteTable

/-! ### The last update of an observer -/

/-- An update of an observer for a destination. -/
def isFor (observer : Observer) (host : Host) (u : Observer × NextHopUpdate) : Bool :=
  u.1 = observer ∧ u.2.vrf_id = host.1 ∧ u.2.destination = host.2

/-- The last update that an observer was given for a destination. -/
def lastUpdate (updates : List (Observer × NextHopUpdate)) (observer : Observer) (host : Host) :
    Option NextHopUpdate :=
  ((updates.filter (isFor observer host)).getLast?).map (·.2)

/-- The update that carries a route. -/
def updateOf (host : Host) (route : IpPrefix × NextHopGroupKey) : NextHopUpdate :=
  ⟨host.1, host.2, route.1, route.2⟩

variable {updates updates' : List (Observer × NextHopUpdate)} {observer : Observer} {host : Host}

theorem lastUpdate_append_of_nil (h : updates'.filter (isFor observer host) = []) :
    lastUpdate (updates ++ updates') observer host = lastUpdate updates observer host := by
  rw [lastUpdate, List.filter_append, h, List.append_nil]
  rfl

/-- The same update for all observers of an entry is the last one. -/
theorem lastUpdate_append_map {observers : List Observer} {route : IpPrefix × NextHopGroupKey}
    (hfilter : updates'.filter (isFor observer host)
      = (observers.map fun o => (o, updateOf host route)).filter (isFor observer host))
    (hmem : observer ∈ observers) :
    lastUpdate (updates ++ updates') observer host = some (updateOf host route) := by
  have hall : (observers.map fun o => (o, updateOf host route)).filter (isFor observer host)
      = List.replicate (observers.count observer) (observer, updateOf host route) := by
    clear hfilter hmem
    induction observers with
    | nil => rfl
    | cons o observers ih =>
      rw [List.map_cons]
      by_cases ho : o = observer
      · subst ho
        rw [List.filter_cons_of_pos (by simp [isFor, updateOf]), ih, List.count_cons_self,
          List.replicate_succ]
      · rw [List.filter_cons_of_neg (by simp [isFor, ho]), ih,
          List.count_cons_of_ne ho]
  have hpos : observers.count observer ≠ 0 :=
    (List.count_pos_iff.mpr hmem).ne'
  rw [lastUpdate, List.filter_append, List.getLast?_append, hfilter, hall,
    List.getLast?_replicate, if_neg hpos]
  rfl

variable {vrf_id : sai_object_id_t} { ip_prefix : IpPrefix} {nexthops : NextHopGroupKey}

/-- The updates of an entry are for its own destination. -/
theorem isFor_of_mem_notifyUpdates {add : Bool} {host' : Host} {entry : NextHopObserverEntry}
    {u : Observer × NextHopUpdate}
    (hu : u ∈ notifyUpdates vrf_id ip_prefix nexthops add host' entry)
    (hfor : isFor observer host u = true) : host' = host := by
  have hupdate : ∀ update, (notifyEntry vrf_id ip_prefix nexthops add host' entry).2 = some update →
      update.vrf_id = host'.1 ∧ update.destination = host'.2 := by
    intro update h
    unfold notifyEntry at h
    split at h
    · cases h
    · next hcovers =>
        have hvrf : vrf_id = host'.1 := by
          by_contra hne
          exact hcovers (Or.inl hne)
        revert h
        dsimp only
        split
        · split
          · split
            · split
              · rintro ⟨⟩
                exact ⟨hvrf, rfl⟩
              · rintro ⟨⟩
            · rintro ⟨⟩
          · split
            · split
              · split
                · rintro ⟨⟩
                  exact ⟨hvrf, rfl⟩
                · rintro ⟨⟩
              · rintro ⟨⟩
            · rintro ⟨⟩
        · split
          · rintro ⟨⟩
          · split
            · split
              · intro h
                obtain ⟨route, -, rfl⟩ := Option.map_eq_some_iff.mp h
                exact ⟨hvrf, rfl⟩
              · rintro ⟨⟩
            · rintro ⟨⟩
  unfold notifyUpdates at hu
  split at hu
  · next update heq =>
      obtain ⟨o, -, rfl⟩ := List.mem_map.mp hu
      obtain ⟨hvrf, hdst⟩ := hupdate update heq
      obtain ⟨-, hvrf', hdst'⟩ := of_decide_eq_true hfor
      exact Prod.ext (hvrf.symm.trans hvrf') (hdst.symm.trans hdst')
  · cases hu

/-- Of the updates of all entries, an observer gets those of its own. -/
theorem filter_notify {add : Bool} {observers : Table Host NextHopObserverEntry}
    {entry : NextHopObserverEntry} (observer : Observer) (vrf_id : sai_object_id_t)
    ( ip_prefix : IpPrefix) (nexthops : NextHopGroupKey) (h : observers.lookup host = some entry) :
    (observers.entries.flatMap fun e =>
        notifyUpdates vrf_id ip_prefix nexthops add e.1 e.2).filter (isFor observer host)
      = (notifyUpdates vrf_id ip_prefix nexthops add host entry).filter (isFor observer host) := by
  obtain ⟨entries, hnodup⟩ := observers
  have hmem : entries.dlookup host = some entry := h
  show (entries.flatMap _).filter _ = _
  clear h
  induction entries with
  | nil => cases hmem
  | cons e entries ih =>
    have hother : ∀ e' : Sigma fun _ : Host => NextHopObserverEntry, e'.1 ≠ host →
        (notifyUpdates vrf_id ip_prefix nexthops add e'.1 e'.2).filter (isFor observer host)
          = [] := by
      intro e' hne
      rw [List.filter_eq_nil_iff]
      exact fun u hu hfor => hne (isFor_of_mem_notifyUpdates hu hfor)
    rw [List.flatMap_cons, List.filter_append]
    rw [List.nodupKeys_cons] at hnodup
    by_cases he : host = e.1
    · subst he
      rw [List.dlookup_cons_eq entries e.1 e.2] at hmem
      obtain rfl := Option.some.inj hmem
      have hrest : (entries.flatMap fun e' =>
          notifyUpdates vrf_id ip_prefix nexthops add e'.1 e'.2).filter (isFor observer e.1)
            = [] := by
        rw [List.filter_flatMap, List.flatMap_eq_nil_iff]
        intro e' he'
        refine hother e' fun heq => hnodup.1 ?_
        rw [← heq]
        exact List.mem_keys_of_mem he'
      rw [hrest, List.append_nil]
    · rw [List.dlookup_cons_ne entries e he] at hmem
      rw [hother e (Ne.symm he), List.nil_append]
      exact ih hnodup.2 hmem

/-! ### What a notification does to an entry -/

/-- The routes with one changed. -/
def withRoute (routes : IpPrefix → Option NextHopGroupKey) ( ip_prefix : IpPrefix)
    (nexthops : Option NextHopGroupKey) (p : IpPrefix) : Option NextHopGroupKey :=
  if p = ip_prefix then nexthops else routes p

/-- A table has the routes that cover an address, and no others. -/
def Covers (t : RouteTable) (routes : IpPrefix → Option NextHopGroupKey) (dstAddr : IpAddress) :
    Prop :=
  ∀ p, t.lookup p = if p.isAddressInSubnet dstAddr then routes p else none

variable {routes : IpPrefix → Option NextHopGroupKey} {entry : NextHopObserverEntry} {t : RouteTable}
  {dstAddr : IpAddress}

theorem Covers.insert (h : Covers t routes dstAddr) (hin : ip_prefix.isAddressInSubnet dstAddr) :
    Covers (t.insert ip_prefix nexthops) (withRoute routes ip_prefix (some nexthops)) dstAddr := by
  intro p
  rw [Table.lookup_insert_eq, withRoute]
  split
  · next heq => rw [heq, if_pos hin]
  · exact h p

theorem Covers.erase (h : Covers t routes dstAddr) :
    Covers (t.erase ip_prefix) (withRoute routes ip_prefix none) dstAddr := by
  intro p
  rw [Table.lookup_erase_eq, withRoute]
  split
  · rw [ite_self]
  · exact h p

/-- A change that the table has already, or that does not cover the address. -/
theorem Covers.of_same {value : Option NextHopGroupKey} (h : Covers t routes dstAddr)
    (hsame : ip_prefix.isAddressInSubnet dstAddr → routes ip_prefix = value) :
    Covers t (withRoute routes ip_prefix value) dstAddr := by
  intro p
  rw [h p, withRoute]
  by_cases hin : p.isAddressInSubnet dstAddr
  · rw [if_pos hin, if_pos hin]
    split
    · next heq =>
        subst heq
        exact hsame hin
    · rfl
  · rw [if_neg hin, if_neg hin]

/-- The value of a notification: the next hops, or none when the route goes. -/
def notified (nexthops : NextHopGroupKey) : Bool → Option NextHopGroupKey
  | true => some nexthops
  | false => none

theorem notifyEntry_observers {add : Bool} :
    (notifyEntry vrf_id ip_prefix nexthops add host entry).1.observers = entry.observers := by
  unfold notifyEntry
  repeat' split
  all_goals rfl

/-- **The table of an entry follows the routes.** -/
theorem covers_notifyEntry {add : Bool} (host : Host) (h : Covers entry.routeTable routes host.2)
    (hvrf : vrf_id = host.1) :
    Covers (notifyEntry vrf_id ip_prefix nexthops add host entry).1.routeTable
      (withRoute routes ip_prefix (notified nexthops add)) host.2 := by
  unfold notifyEntry
  split
  · next hnot =>
      refine h.of_same fun hin => ?_
      rcases hnot with hne | hout
      · exact absurd hvrf hne
      · rw [hin] at hout
        cases hout
  · next hcovers =>
      have hin : ip_prefix.isAddressInSubnet host.2 = true := by
        by_contra hout
        exact hcovers (Or.inr (by simpa using hout))
      have hlookup : entry.routeTable.lookup ip_prefix = routes ip_prefix := by
        rw [h ip_prefix, if_pos hin]
      cases add with
      | true =>
        rw [if_pos rfl]
        dsimp only
        split
        · split
          · split
            · exact h.insert hin
            · exact h.insert hin
          · exact h.insert hin
        · next old hold =>
            split
            · split
              · split
                · exact h.insert hin
                · exact h.insert hin
              · exact h.insert hin
            · next hsame =>
                -- the table has the route already
                refine h.of_same fun _ => ?_
                rw [← hlookup, hold, not_not.mp hsame]
                rfl
      | false =>
        rw [if_neg Bool.false_ne_true]
        split
        · next hnone =>
            refine h.of_same fun _ => ?_
            rw [← hlookup, hnone]
            rfl
        · dsimp only
          split
          · split
            · exact h.erase
            · exact h.erase
          · exact h.erase

/-- **The update of an entry carries its last route**, and there is none only if the last
route is the same. -/
theorem notifyEntry_update {add : Bool} {best : IpPrefix × NextHopGroupKey}
    (hbefore : entry.routeTable.rbegin = some best)
    (hafter : (notifyEntry vrf_id ip_prefix nexthops add host entry).1.routeTable.rbegin ≠ none) :
    ((notifyEntry vrf_id ip_prefix nexthops add host entry).2 = none ∧
        (notifyEntry vrf_id ip_prefix nexthops add host entry).1.routeTable.rbegin = some best) ∨
      ∃ route, (notifyEntry vrf_id ip_prefix nexthops add host entry).2
          = some (updateOf host route) ∧
        (notifyEntry vrf_id ip_prefix nexthops add host entry).1.routeTable.rbegin = some route := by
  revert hafter
  unfold notifyEntry
  split
  · exact fun _ => Or.inl ⟨rfl, hbefore⟩
  · next hcovers =>
      have hvrf : vrf_id = host.1 := by
        by_contra hne
        exact hcovers (Or.inl hne)
      subst hvrf
      rw [hbefore]
      cases add with
      | true =>
        rw [if_pos rfl]
        dsimp only
        split
        · next hnew =>
            intro _
            have hne : best.1 ≠ ip_prefix := by
              intro heq
              have hlookup := (RouteTable.isLast_of_rbegin hbefore).1
              rw [heq, hnew] at hlookup
              cases hlookup
            split
            · next hlt =>
                exact Or.inr ⟨( ip_prefix, nexthops), rfl, RouteTable.rbegin_insert_of_lt hbefore hlt⟩
            · next hlt =>
                exact Or.inl ⟨rfl, RouteTable.rbegin_insert_of_not_lt hbefore hne hlt⟩
        · next old hold =>
            intro _
            split
            · split
              · next heq =>
                  subst heq
                  exact Or.inr ⟨(best.1, nexthops), rfl, RouteTable.rbegin_insert_self hbefore⟩
              · next hne =>
                  -- the last route is another one: this one is not behind it
                  refine Or.inl ⟨rfl, RouteTable.rbegin_insert_of_not_lt hbefore hne ?_⟩
                  exact (RouteTable.isLast_of_rbegin hbefore).2 ip_prefix old hold
            · exact Or.inl ⟨rfl, hbefore⟩
      | false =>
        rw [if_neg Bool.false_ne_true]
        split
        · exact fun _ => Or.inl ⟨rfl, hbefore⟩
        · dsimp only
          split
          · intro hafter
            obtain ⟨route, hroute⟩ := Option.ne_none_iff_exists'.mp hafter
            exact Or.inr ⟨route, by rw [hroute]; rfl, hroute⟩
          · next hne =>
              exact fun _ => Or.inl ⟨rfl, RouteTable.rbegin_erase_of_ne hbefore (Ne.symm hne)⟩

/-! ### What the entries keep -/

/-- A VRF has a default route for an address. -/
def St.HasDefault (s : St) (vrf_id : sai_object_id_t) (dstAddr : IpAddress) : Prop :=
  ∃ p nhs, p.isDefaultRoute = true ∧ p.isAddressInSubnet dstAddr = true ∧
    s.findRoute vrf_id p = some nhs

/-- The table of an entry is that of the routes, and its observers were told the last one. -/
structure Tracks (s : St) (host : Host) (entry : NextHopObserverEntry) : Prop where
  hasDefault : s.HasDefault host.1 host.2
  covers : Covers entry.routeTable (s.findRoute host.1) host.2
  told : ∀ observer ∈ entry.observers,
    lastUpdate s.updates observer host = entry.routeTable.rbegin.map (updateOf host)

/-- The prefixes of a VRF are canonical, and its entries track the routes. -/
structure Tracked (vrf_id : sai_object_id_t) (s : St) : Prop where
  canonical : ∀ p nhs, s.findRoute vrf_id p = some nhs → p.Canonical
  tracks : ∀ dstAddr entry, s.m_nextHopObservers.lookup (vrf_id, dstAddr) = some entry →
    Tracks s (vrf_id, dstAddr) entry

/-- With a default route the table has a last entry. -/
theorem exists_rbegin {s : St} (host : Host) (hdefault : s.HasDefault host.1 host.2)
    (hcovers : Covers t (s.findRoute host.1) host.2) : ∃ best, t.rbegin = some best := by
  obtain ⟨p, nhs, -, hin, hfind⟩ := hdefault
  apply Option.ne_none_iff_exists'.mp
  intro hnone
  have hlookup := hcovers p
  rw [RouteTable.rbegin_eq_none hnone, if_pos hin, hfind] at hlookup
  cases hlookup

theorem Tracked.of_sameView {s t : St} (h : SameView s t) (ht : Tracked vrf_id s) :
    Tracked vrf_id t := by
  refine ⟨?_, ?_⟩
  · rw [h.findRoute]
    exact ht.canonical
  · intro dstAddr entry hentry
    rw [h.m_nextHopObservers] at hentry
    obtain ⟨hdefault, hcovers, htold⟩ := ht.tracks dstAddr entry hentry
    refine ⟨?_, ?_, ?_⟩
    · obtain ⟨p, nhs, hmask, hin, hfind⟩ := hdefault
      exact ⟨p, nhs, hmask, hin, by rw [h.findRoute]; exact hfind⟩
    · rw [h.findRoute]
      exact hcovers
    · rw [h.updates]
      exact htold

/-- **Invariant step for a notification**: the routes change at one prefix, the entries are
told, and a default route stays. -/
theorem Tracked.notified {s t : St} {v : sai_object_id_t} (add : Bool) (ht : Tracked vrf_id s)
    (hcanonical : ip_prefix.Canonical) (hdefault : add = false → ip_prefix.isDefaultRoute = false)
    (hfind : ∀ v' p, t.findRoute v' p
      = if v' = v ∧ p = ip_prefix then notified nexthops add else s.findRoute v' p)
    (hobservers : t.m_nextHopObservers
      = (s.notifyNextHopChangeObservers v ip_prefix nexthops add).m_nextHopObservers)
    (hupdates : t.updates = (s.notifyNextHopChangeObservers v ip_prefix nexthops add).updates) :
    Tracked vrf_id t := by
  refine ⟨?_, ?_⟩
  · intro p nhs hp
    rw [hfind] at hp
    split at hp
    · next heq =>
        rw [heq.2]
        exact hcanonical
    · exact ht.canonical p nhs hp
  · intro dstAddr entry hentry
    rw [hobservers, St.notify_m_nextHopObservers, Table.lookup_map] at hentry
    obtain ⟨old, hold, rfl⟩ := Option.map_eq_some_iff.mp hentry
    obtain ⟨hdefault₀, hcovers, htold⟩ := ht.tracks dstAddr old hold
    -- a default route is stored again, but not dropped
    have hdefault' : t.HasDefault vrf_id dstAddr := by
      obtain ⟨p, nhs, hmask, hin, hp⟩ := hdefault₀
      by_cases heq : vrf_id = v ∧ p = ip_prefix
      · cases add with
        | true => exact ⟨p, nexthops, hmask, hin, by rw [hfind, if_pos heq]; rfl⟩
        | false =>
          rw [heq.2, hdefault rfl] at hmask
          cases hmask
      · exact ⟨p, nhs, hmask, hin, by rw [hfind, if_neg heq]; exact hp⟩
    have hcovers' : Covers (notifyEntry v ip_prefix nexthops add (vrf_id, dstAddr) old).1.routeTable
        (t.findRoute vrf_id) dstAddr := by
      by_cases hv : v = vrf_id
      · have hroutes : t.findRoute vrf_id
            = withRoute (s.findRoute vrf_id) ip_prefix (Orchagent.notified nexthops add) := by
          funext p
          rw [hfind, withRoute]
          exact if_congr ⟨And.right, And.intro hv.symm⟩ rfl rfl
        rw [hroutes]
        exact covers_notifyEntry (vrf_id, dstAddr) hcovers hv
      · have hroutes : t.findRoute vrf_id = s.findRoute vrf_id := by
          funext p
          rw [hfind, if_neg fun h => hv h.1.symm]
        rw [hroutes, notifyEntry, if_pos (Or.inl hv)]
        exact hcovers
    refine ⟨hdefault', hcovers', ?_⟩
    intro observer hobserver
    rw [notifyEntry_observers] at hobserver
    obtain ⟨best, hbest⟩ := exists_rbegin (vrf_id, dstAddr) hdefault₀ hcovers
    obtain ⟨best', hbest'⟩ := exists_rbegin (vrf_id, dstAddr) hdefault' hcovers'
    have hfilter := @filter_notify _ add _ _ observer v ip_prefix nexthops hold
    rw [hupdates, St.notify_updates]
    rcases notifyEntry_update hbest (by rw [hbest']; exact Option.some_ne_none _) with
      ⟨hnone, hsame⟩ | ⟨route, hsome, hroute⟩
    · rw [lastUpdate_append_of_nil (by rw [hfilter, notifyUpdates, hnone]; rfl),
        htold observer hobserver, hbest, hsame]
    · rw [lastUpdate_append_map (by rw [hfilter, notifyUpdates, hsome]) hobserver, hroute]
      rfl

/-! ### Observers that come and go -/

/-- The table of a new entry has the routes that cover the address. -/
theorem lookup_covering (t : RouteTable) (dstAddr : IpAddress) (p : IpPrefix) :
    (t.covering dstAddr).lookup p = if p.isAddressInSubnet dstAddr then t.lookup p else none := by
  -- the routes that come later in the table have other prefixes
  have hfold : ∀ (l : List (Sigma fun _ : IpPrefix => NextHopGroupKey)) (acc : RouteTable),
      l.NodupKeys →
      (l.foldl (fun (t : RouteTable) e =>
          if e.1.isAddressInSubnet dstAddr then t.insert e.1 e.2 else t) acc).lookup p
        = (if p.isAddressInSubnet dstAddr then l.dlookup p else none).or (acc.lookup p) := by
    intro l
    induction l with
    | nil =>
      intro acc _
      rw [List.dlookup_nil, ite_self]
      rfl
    | cons e l ih =>
      intro acc hnodup
      rw [List.nodupKeys_cons] at hnodup
      rw [List.foldl_cons, ih _ hnodup.2]
      by_cases hp : p = e.1
      · have hrest : l.dlookup p = none := by
          rw [List.dlookup_eq_none, hp]
          exact hnodup.1
        rw [hrest, ite_self, hp, List.dlookup_cons_eq l e.1 e.2]
        split
        · exact AList.lookup_insert acc
        · rfl
      · rw [List.dlookup_cons_ne l e hp]
        congr 1
        split
        · exact AList.lookup_insert_ne hp
        · rfl
  have hall := hfold t.entries ∅ t.nodupKeys
  rw [AList.lookup_empty, Option.or_none] at hall
  exact hall

/-- The entry that an observer is attached to. -/
def entryFor (s : St) (dstAddr : IpAddress) (vrf_id : sai_object_id_t) : NextHopObserverEntry :=
  match s.m_nextHopObservers.lookup (vrf_id, dstAddr) with
  | some entry => entry
  | none => ⟨RouteTable.covering ((s.m_syncdRoutes.lookup vrf_id).getD ∅) dstAddr, []⟩

theorem tracks_entryFor {s : St} (ht : Tracked vrf_id s) (hdefault : s.HasDefault vrf_id dstAddr) :
    Tracks s (vrf_id, dstAddr) (entryFor s dstAddr vrf_id) := by
  unfold entryFor
  split
  · next entry hentry => exact ht.tracks dstAddr entry hentry
  · refine ⟨hdefault, ?_, ?_⟩
    · intro p
      show (RouteTable.covering _ dstAddr).lookup p = _
      rw [lookup_covering, St.findRoute]
      cases s.m_syncdRoutes.lookup vrf_id <;> rfl
    · intro observer hobserver
      cases hobserver

theorem tracked_attach {s : St} {v : sai_object_id_t} (ht : Tracked vrf_id s)
    (hdefault : v = vrf_id → s.HasDefault vrf_id dstAddr) :
    Tracked vrf_id (s.attach observer dstAddr v) := by
  -- the new observer is told the last of the prefixes that cover its destination
  obtain ⟨told, hattach, rfl⟩ : ∃ told, s.attach observer dstAddr v = { s with
      m_nextHopObservers := s.m_nextHopObservers.insert (v, dstAddr)
        { entryFor s dstAddr v with observers := (entryFor s dstAddr v).observers ++ [observer] }
      updates := s.updates ++ told } ∧
      (RouteTable.rbegin (entryFor s dstAddr v).routeTable).elim []
        (fun route => [(observer, ⟨v, dstAddr, route.1, route.2⟩)]) = told := by
    refine ⟨_, rfl, ?_⟩
    split
    · next route hroute => exact congrArg (Option.elim · [] _) hroute
    · next hroute => exact congrArg (Option.elim · [] _) hroute
  rw [hattach]
  refine ⟨ht.canonical, ?_⟩
  intro dstAddr' entry hentry
  rw [Table.lookup_insert_eq] at hentry
  split at hentry
  · next heq =>
      obtain ⟨rfl, rfl⟩ := Prod.mk.inj heq
      obtain rfl := Option.some.inj hentry
      obtain ⟨-, hcovers, htold⟩ := tracks_entryFor ht (hdefault rfl)
      obtain ⟨best, hbest⟩ := exists_rbegin (vrf_id, dstAddr') (hdefault rfl) hcovers
      refine ⟨hdefault rfl, hcovers, ?_⟩
      intro o ho
      show lastUpdate (s.updates ++ _) o _ = _
      rw [hbest]
      by_cases hobserver : o = observer
      · -- the new observer is told the last route
        subst hobserver
        show _ = some (updateOf (vrf_id, dstAddr') best)
        have hmem : o ∈ [o] := List.mem_singleton_self o
        exact lastUpdate_append_map rfl hmem
      · rw [lastUpdate_append_of_nil]
        · rcases List.mem_append.mp ho with hold | hnew
          · exact (htold o hold).trans (congrArg _ hbest)
          · exact absurd (List.mem_singleton.mp hnew) hobserver
        · exact List.filter_cons_of_neg (by simp [isFor, Ne.symm hobserver])
  · next hne =>
      obtain ⟨hdefault', hcovers, htold⟩ := ht.tracks dstAddr' entry hentry
      refine ⟨hdefault', hcovers, ?_⟩
      intro o ho
      rw [lastUpdate_append_of_nil]
      · exact htold o ho
      · -- the update is for another destination
        cases (entryFor s dstAddr v).routeTable.rbegin with
        | none => rfl
        | some route =>
          refine List.filter_cons_of_neg ?_
          intro hfor
          obtain ⟨-, hvrf, hdst⟩ := of_decide_eq_true hfor
          exact hne (Prod.ext hvrf.symm hdst.symm)

theorem tracked_detach {s : St} {v : sai_object_id_t} {dst : IpAddress} (ht : Tracked vrf_id s) :
    Tracked vrf_id (s.detach observer dst v) := by
  unfold St.detach
  dsimp only
  split
  · exact ht
  · next entry₀ hentry₀ =>
      split
      · split
        · refine ⟨ht.canonical, ?_⟩
          intro dstAddr entry hentry
          rw [Table.lookup_erase_eq] at hentry
          split at hentry
          · cases hentry
          · exact ⟨(ht.tracks dstAddr entry hentry).1, (ht.tracks dstAddr entry hentry).2,
              (ht.tracks dstAddr entry hentry).3⟩
        · refine ⟨ht.canonical, ?_⟩
          intro dstAddr entry hentry
          rw [Table.lookup_insert_eq] at hentry
          split at hentry
          · next heq =>
              obtain ⟨rfl, rfl⟩ := Prod.mk.inj heq
              obtain rfl := Option.some.inj hentry
              obtain ⟨hdefault, hcovers, htold⟩ := ht.tracks dstAddr entry₀ hentry₀
              exact ⟨hdefault, hcovers, fun o ho => htold o (List.mem_of_mem_erase ho)⟩
          · exact ⟨(ht.tracks dstAddr entry hentry).1, (ht.tracks dstAddr entry hentry).2,
              (ht.tracks dstAddr entry hentry).3⟩
      · exact ht

/-! ### Runs -/

theorem tracked_routeChange {s t : St} {v : sai_object_id_t} (ht : Tracked vrf_id s)
    (hcanonical : ip_prefix.Canonical) (hchange : RouteChange s v ip_prefix t) :
    Tracked vrf_id t := by
  cases hchange with
  | same h => exact ht.of_sameView h
  | stored u nextHops h heq =>
    subst heq
    refine Tracked.notified true (ht.of_sameView h) hcanonical ?_ St.findRoute_storeRoute rfl rfl
    rintro ⟨⟩
  | dropped hdefault hfind hobservers hupdates _ =>
    exact Tracked.notified false ht hcanonical (fun _ => hdefault) hfind hobservers hupdates

/-- The operations in scope: routes have canonical prefixes, and an observer is attached in
the VRF when there is a default route for its destination. -/
def InScope (vrf_id : sai_object_id_t) (s : St) : Event → Prop
  | .routeTask _ _ task => ∀ p, task.ip_prefix = some p → p.Canonical
  | .attach _ dstAddr v => v = vrf_id → s.HasDefault vrf_id dstAddr
  | _ => True

theorem tracked_initial {s : St} (h : Initial s) : Tracked vrf_id s := by
  refine ⟨?_, ?_⟩
  · intro p nhs hp
    rw [St.findRoute, h.m_syncdRoutes, Table.lookup_insert_eq] at hp
    split at hp
    · have hlookup : defaultRoutes.lookup p = some nhs := hp
      -- the default routes have no bit set
      rw [defaultRoutes, Table.lookup_insert_eq, Table.lookup_insert_eq] at hlookup
      split at hlookup
      · next heq =>
          rw [heq]
          rfl
      · split at hlookup
        · next heq =>
            rw [heq]
            rfl
        · cases hlookup
    · cases hp
  · intro dstAddr entry hentry
    rw [h.m_nextHopObservers] at hentry
    cases hentry

/-- **Invariant step.**  Every operation in scope keeps the entries on the routes. -/
theorem tracked_step {s t : St} {e : Event} (ht : Tracked vrf_id s) (hscope : InScope vrf_id s e)
    (hstep : Step s e t) : Tracked vrf_id t := by
  cases e with
  | routeTask sai rand task =>
    obtain ⟨r, hr, rfl⟩ := Option.map_eq_some_iff.mp hstep
    rcases routeChange_doRouteTask hr with hsame | ⟨v, p, hp, hchange⟩
    · exact ht.of_sameView hsame
    · exact tracked_routeChange ht (hscope p hp) hchange
  | neighTask sai task =>
    obtain rfl := Option.some.inj hstep
    exact ht.of_sameView (sameRoutes_doNeighTask task).view
  | portOper sai if_alias status =>
    obtain rfl := Option.some.inj hstep
    exact ht.of_sameView (sameRoutes_updatePortOperStatus if_alias status).view
  | lagOper sai if_alias if_up =>
    obtain rfl := Option.some.inj hstep
    exact ht.of_sameView (St.sameRoutes_ifChangeInformNextHop if_alias if_up).view
  | attach observer dstAddr v =>
    obtain rfl := Option.some.inj hstep
    exact tracked_attach ht hscope
  | detach observer dstAddr v =>
    obtain rfl := Option.some.inj hstep
    exact tracked_detach ht
  | addGroup sai nexthops =>
    obtain rfl := Option.some.inj hstep
    exact ht.of_sameView (St.sameRoutes_ensureNextHopGroup nexthops).view
  | removeGroup sai nexthops =>
    obtain rfl := Option.some.inj hstep
    exact ht.of_sameView (St.sameRoutes_removeNextHopGroup nexthops).view
  | config m_portList getRouterIntfsAlias isPrefixSubnet vrf_table =>
    obtain rfl := Option.some.inj hstep
    refine Tracked.of_sameView (s := s) ?_ ht
    exact ⟨rfl, rfl, rfl, rfl⟩

/-- The last of the covering prefixes is the longest of them. -/
theorem mask_lt_of_isLast {s : St} {best : IpPrefix × NextHopGroupKey} {q : IpPrefix}
    {nhs : NextHopGroupKey} (ht : Tracked vrf_id s)
    (hcovers : Covers t (s.findRoute vrf_id) dstAddr) (hlast : t.IsLast best)
    (hq : s.findRoute vrf_id q = some nhs) (hin : q.isAddressInSubnet dstAddr = true)
    (hne : q ≠ best.1) : q.m_mask < best.1.m_mask := by
  have hbest := hcovers best.1
  rw [hlast.1] at hbest
  split at hbest
  · next hbestIn =>
      have hqt : t.lookup q = some nhs := by rw [hcovers q, if_pos hin, hq]
      have hlt : q < best.1 := by
        rcases lt_trichotomy q.rank best.1.rank with hlt | heq | hgt
        · exact hlt
        · exact absurd (IpPrefix.rank_injective heq) hne
        · exact absurd hgt (hlast.2 q nhs hqt)
      refine lt_of_le_of_ne (IpPrefix.mask_le_of_lt hlt) fun hmask => hne ?_
      exact IpPrefix.eq_of_covers (ht.canonical q nhs hq) (ht.canonical _ _ hbest.symm) hin hbestIn
        hmask
  · cases hbest

/-- The route and the destination of the example. -/
def tenNet : IpPrefix := ⟨.v4 ⟨[10, 0, 0, 0], rfl⟩, 8, by decide⟩
def tenHost : IpAddress := .v4 ⟨[10, 0, 0, 1], rfl⟩

end Orchagent
