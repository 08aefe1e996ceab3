/-
Orchagent/RouteText.lean

The next hops of a route on their way from the kernel to a group of next hops.

`RouteSync` writes the gateways and the interfaces as two lists, and `RouteOrch::doTask` joins
each gateway with its interface again.  An alias that is missing or the name of a VRF is looked
up on the way, so what comes back is the set of the next hops after this (`reparse`).  The lists
of any other task are read by their positions: `next_hops_survive` says when none is missing.
-/
import Mathlib.Data.List.Sort
import Sonic.Fpmsyncd.RouteSync
import Sonic.Orchagent.RouteRun

namespace Orchagent

open Fpmsyncd
open Swss (getlines FieldValueTuple)

/-! ### A task as it comes -/

/-- The fields `nexthop` and `ifname`, empty if they are missing. -/
def routeFields (fvs : List FieldValueTuple) : List Char × List Char :=
  fvs.foldl (fun (ips, aliases) i =>
    (if i.1 = "nexthop" then i.2.toList else ips,
      if i.1 = "ifname" then i.2.toList else aliases)) ([], [])

/-- The name of the VRF in a key, and whether it has one. -/
def keyVrf (key : List Char) : Option (List Char) :=
  if VRF_PREFIX.isPrefixOf key then some (key.takeWhile (· ≠ ':')) else none

/-- The text of the prefix in a key. -/
def keyPrefix (key : List Char) : List Char :=
  if VRF_PREFIX.isPrefixOf key ∧ ':' ∈ key then (key.dropWhile (· ≠ ':')).tail else key

/-- A SET of the table of routes; none if the process ends. -/
def doSetTask (sai : Sai) (rand : ℕ) (s : St) (key : List Char) (fvs : List FieldValueTuple) :
    Option (St × Bool) :=
  if key = "resync".toList then doRouteTask sai rand s (.resync true)
  else if s.m_resync then some (s, false)
  else
    match taskVrf s (keyVrf key) with
    | none => some (s, false)
    | some vrf_id =>
      (IpPrefix.ofString (keyPrefix key)).bind fun ip_prefix =>
        setRoute sai rand s vrf_id ip_prefix (routeFields fvs).1 (routeFields fvs).2

/-! ### What should hold -/

namespace NextHopGroupKey

/-- The set of some next hops. -/
def ofList (l : List NextHopKey) : NextHopGroupKey := l.foldl (fun nhs nh => nhs.add nh) empty

/-- The texts of some next hops, in any order; `to_string` has them in that of the group. -/
def textOf (l : List NextHopKey) : List Char :=
  [NHG_DELIMITER].intercalate (l.map NextHopKey.to_string)

end NextHopGroupKey

/-- The sentinel for no gateway. -/
def zeroAddress : Family → IpAddress
  | .AF_INET => .v4 (List.Vector.replicate 4 0)
  | .AF_INET6 => .v6 (List.Vector.replicate 16 0)

def unknownAlias : Alias := ⟨"unknown".toList, by decide⟩

/-- The pair of gateway and interface. -/
def pairOf (family : Family) (ifName : ℕ → Option Alias) (nexthop : Nexthop) : NextHopKey :=
  ⟨nexthop.gateway.getD (zeroAddress family), (ifName nexthop.ifindex).getD unknownAlias⟩

/-- The names of the interfaces, as texts. -/
def names (ifName : ℕ → Option Alias) (index : ℕ) : Option (List Char) :=
  (ifName index).map Subtype.val

local instance lawfulBEqName : LawfulBEq (List Char) := inferInstance

/-- The lists that are written for a route have equal lengths, and unless one of the interfaces is
left out the group that is built from them is the set of its pairs. -/
def Survives (nl : NlAddr) (getRouterIntfsAlias : RouterIntfsAlias) (ifName : ℕ → Option Alias)
    (family : Family) (nexthops : List Nexthop) : Prop :=
  let ipv := getlines ',' [] (getNextHopGw nl family nexthops)
  let alsv := getlines ',' [] (getNextHopIf (names ifName) nexthops)
  alsv.length = ipv.length ∧ (alsv.any (· ∈ excpIntfs) = false →
    ∃ nhg_str nhg, nhgStr ipv alsv = some nhg_str ∧
      NextHopGroupKey.ofString getRouterIntfsAlias nhg_str = some nhg ∧
      ∀ nh, nh ∈ nhg.m_nexthops ↔ nh ∈ nexthops.map (pairOf family ifName))

/-! ### The condition -/

/-- Looking up the aliases that are missing or names of a VRF gives the same set of next hops. -/
def Stable (getRouterIntfsAlias : RouterIntfsAlias) (l : List NextHopKey) : Prop :=
  ∀ nh, nh ∈ l.map (NextHopKey.reparse getRouterIntfsAlias) ↔ nh ∈ l

/-- The last interface has a name, and the pairs are stable unless one is left out. -/
def Written (getRouterIntfsAlias : RouterIntfsAlias) (ifName : ℕ → Option Alias) (family : Family)
    (nexthops : List Nexthop) : Prop :=
  let pairs := nexthops.map (pairOf family ifName)
  (∀ pair ∈ pairs.getLast?, pair.if_alias.1 ≠ []) ∧
    ((∀ pair ∈ pairs, pair.if_alias.1 ∉ excpIntfs) → Stable getRouterIntfsAlias pairs)

/-- The text of a next hop: an address, with one alias or without. -/
def IsNextHop (str : List Char) : Prop :=
  ∃ ip rest, getlines NH_DELIMITER [] str = ip :: rest ∧ rest.length ≤ 1 ∧
    (IpAddress.ofString ip).isSome

/-- The lists of a task name next hops: there is one, every address has an alias and makes a next
hop with it, and a single address is one by itself. -/
def Listed (ipv alsv : List (List Char)) : Prop :=
  ipv ≠ [] ∧ ipv.length ≤ alsv.length ∧
    (∀ p ∈ ipv.zip alsv, IsNextHop (p.1 ++ NH_DELIMITER :: p.2)) ∧
    ∀ ip, ipv = [ip] → (IpAddress.ofString ip).isSome

/-- A SET can be read: it is not looked at, or its key has a prefix and its lists name next hops
or an interface that is left out. -/
def Readable (s : St) (key : List Char) (fvs : List FieldValueTuple) : Prop :=
  let ipv := getlines ',' [] (routeFields fvs).1
  let alsv := getlines ',' [] (routeFields fvs).2
  key = "resync".toList ∨ s.m_resync = true ∨ taskVrf s (keyVrf key) = none ∨
    ((IpPrefix.ofString (keyPrefix key)).isSome ∧
      (alsv.any (· ∈ excpIntfs) = true ∨ Listed ipv alsv))

/-! ### Groups -/

namespace NextHopGroupKey

variable {nhs nhs' : NextHopGroupKey} {nh nh' : NextHopKey} {l l' : List NextHopKey}
  {getRouterIntfsAlias : RouterIntfsAlias}

theorem mem_add : nh' ∈ (nhs.add nh).m_nexthops ↔ nh' = nh ∨ nh' ∈ nhs.m_nexthops := by
  constructor
  · exact OrderedSet.mem_insert_subset
  · rintro (rfl | hmem)
    · exact OrderedSet.mem_insert_self fun b _ hkey => NextHopKey.rank_injective hkey
    · exact OrderedSet.mem_insert_of_mem hmem

theorem mem_ofList : nh ∈ (ofList l).m_nexthops ↔ nh ∈ l := by
  have hfold : ∀ (l : List NextHopKey) (nhs : NextHopGroupKey),
      nh ∈ (l.foldl (fun nhs nh => nhs.add nh) nhs).m_nexthops ↔ nh ∈ nhs.m_nexthops ∨ nh ∈ l := by
    intro l
    induction l with
    | nil => exact fun nhs => (or_iff_left List.not_mem_nil).symm
    | cons a l ih =>
      intro nhs
      rw [List.foldl_cons, ih, mem_add, List.mem_cons]
      constructor
      · rintro ((h | h) | h)
        · exact .inr (.inl h)
        · exact .inl h
        · exact .inr (.inr h)
      · rintro (h | h | h)
        · exact .inl (.inr h)
        · exact .inl (.inl h)
        · exact .inr h
  rw [ofList, hfold]
  exact or_iff_right List.not_mem_nil

/-- Groups of the same next hops are the same. -/
theorem ext_mem (h : ∀ nh, nh ∈ nhs.m_nexthops ↔ nh ∈ nhs'.m_nexthops) : nhs = nhs' := by
  refine ext (((List.perm_ext_iff_of_nodup nhs.nodup nhs'.nodup).mpr h).eq_of_pairwise ?_
    nhs.ordered nhs'.ordered)
  intro a b _ _ hab hba
  exact absurd (hab.trans hba) (lt_irrefl _)

theorem ofList_eq_iff : ofList l = ofList l' ↔ ∀ nh, nh ∈ l ↔ nh ∈ l' := by
  constructor
  · intro h nh
    rw [← mem_ofList, h, mem_ofList]
  · intro h
    refine ext_mem fun nh => ?_
    rw [mem_ofList, mem_ofList, h]

theorem ofList_self : ofList nhs.m_nexthops = nhs := ext_mem fun _ => mem_ofList

/-- **A text of next hops is parsed**: each is, with its alias looked up again. -/
theorem ofString_texts {ι : Type} {items : List ι} {text : ι → List Char} {hop : ι → NextHopKey}
    (h : ∀ i ∈ items, (NHG_DELIMITER ∉ text i ∧ text i ≠ []) ∧
      NextHopKey.ofString getRouterIntfsAlias (text i) = some (hop i)) :
    ofString getRouterIntfsAlias ([NHG_DELIMITER].intercalate (items.map text)) =
      some (ofList (items.map hop)) := by
  have htokens : getlines NHG_DELIMITER [] ([NHG_DELIMITER].intercalate (items.map text)) =
      items.map text := by
    refine Swss.getlines_intercalate (fun str hmem => ?_) fun hlast => ?_
    · obtain ⟨i, hi, rfl⟩ := List.mem_map.mp hmem
      exact (h i hi).1.1
    · obtain ⟨i, hi, hnil⟩ := List.mem_map.mp (List.mem_of_getLast? hlast)
      exact (h i hi).1.2 hnil
  have hparse : (items.map text).mapM (NextHopKey.ofString getRouterIntfsAlias) =
      some (items.map hop) := by
    clear htokens
    induction items with
    | nil => rfl
    | cons i items ih =>
      rw [List.map_cons, List.map_cons, List.mapM_cons, (h i List.mem_cons_self).2,
        ih fun j hj => h j (List.mem_cons_of_mem _ hj)]
      rfl
  unfold ofString
  rw [htokens, hparse]
  rfl

/-- The text of a next hop has no comma, and is not empty. -/
theorem text_spec {text : List Char} (htext : AddressText nh.ip_address text) :
    NHG_DELIMITER ∉ text ++ NH_DELIMITER :: nh.if_alias.1 ∧
      text ++ NH_DELIMITER :: nh.if_alias.1 ≠ [] := by
  refine ⟨fun hmem => ?_, List.append_ne_nil_of_right_ne_nil _ (List.cons_ne_nil _ _)⟩
  rcases List.mem_append.mp hmem with hc | hc
  · exact htext.not_mem.2 hc
  · rcases List.mem_cons.mp hc with hc | hc
    · exact absurd hc (by decide)
    · exact nh.if_alias.2.2 hc

/-- **The texts of some next hops give their set**, whatever their order, if it is stable. -/
theorem ofString_textOf :
    ofString getRouterIntfsAlias (textOf l) =
      some (ofList (l.map (NextHopKey.reparse getRouterIntfsAlias))) := by
  refine ofString_texts fun nh _ => ⟨?_, NextHopKey.ofString_to_string⟩
  exact text_spec (.of_to_string nh.ip_address)

theorem ofString_textOf_iff :
    ofString getRouterIntfsAlias (textOf l) = some (ofList l) ↔ Stable getRouterIntfsAlias l := by
  rw [ofString_textOf, Option.some_inj, ofList_eq_iff]
  exact Iff.rfl

end NextHopGroupKey

/-! ### Routes of the kernel -/

section Routes

variable {nl : NlAddr} {getRouterIntfsAlias : RouterIntfsAlias} {ifName : ℕ → Option Alias}
  {family : Family} {nexthop : Nexthop} {nexthops : List Nexthop}

theorem addressText_zero (family : Family) :
    AddressText (zeroAddress family) family.zero := by
  have htext : (zeroAddress family).to_string = family.zero := by
    cases family with
    | AF_INET => decide +kernel
    | AF_INET6 => decide +kernel
  rw [← htext]
  exact .of_to_string _

/-- The gateway that is written is that of the pair. -/
theorem addressText_gateway (nl : NlAddr) (ifName : ℕ → Option Alias) (family : Family)
    (nexthop : Nexthop) :
    AddressText (pairOf family ifName nexthop).ip_address (gatewayText nl family nexthop) := by
  unfold pairOf gatewayText
  cases nexthop.gateway with
  | some addr => exact nl.text addr
  | none => exact addressText_zero family

/-- So is the interface. -/
theorem ifNameText_eq :
    ifNameText (names ifName) nexthop = (pairOf family ifName nexthop).if_alias.1 := by
  unfold ifNameText names pairOf
  cases ifName nexthop.ifindex with
  | none => rfl
  | some if_alias => rfl

theorem gateway_ne_nil : gatewayText nl family nexthop ≠ [] := by
  intro hnil
  have hread := (addressText_gateway nl (fun _ => none) family nexthop).read
  rw [hnil, show IpAddress.ofString [] = none by decide +kernel] at hread
  cases hread

/-- The list of the gateways is cut into the gateways. -/
theorem getlines_getNextHopGw :
    getlines ',' [] (getNextHopGw nl family nexthops) = nexthops.map (gatewayText nl family) := by
  unfold getNextHopGw
  rw [separated_eq]
  refine Swss.getlines_intercalate (fun text hmem => ?_) fun hlast => ?_
  · obtain ⟨nexthop, -, rfl⟩ := List.mem_map.mp hmem
    exact (addressText_gateway nl (fun _ => none) family nexthop).not_mem.2
  · obtain ⟨nexthop, -, hnil⟩ := List.mem_map.mp (List.mem_of_getLast? hlast)
    exact gateway_ne_nil hnil

/-- Tokens of which the last is empty: it is not seen. -/
theorem getlines_intercalate_nil {token : Char} {items : List (List Char)}
    (hitems : ∀ item ∈ items, token ∉ item) :
    getlines token [] ([token].intercalate (items ++ [[]])) = items := by
  induction items with
  | nil => rfl
  | cons item items ih =>
    have hcons : [token].intercalate (item :: (items ++ [[]])) =
        item ++ token :: [token].intercalate (items ++ [[]]) := by
      cases items with
      | nil => rw [List.nil_append, List.intercalate_cons_cons, List.append_assoc]; rfl
      | cons next items =>
        rw [List.cons_append, List.intercalate_cons_cons, List.append_assoc]
        rfl
    rw [List.cons_append, hcons, Swss.getlines_append (hitems item List.mem_cons_self),
      ih fun item hmem => hitems item (List.mem_cons_of_mem _ hmem)]
    rfl

/-- The list of the interfaces is cut into their names, but for a last one that is empty. -/
theorem getlines_getNextHopIf (family : Family) :
    getlines ',' [] (getNextHopIf (names ifName) nexthops) =
      if ∀ pair ∈ (nexthops.map (pairOf family ifName)).getLast?, pair.if_alias.1 ≠ [] then
        (nexthops.map (pairOf family ifName)).map fun pair => pair.if_alias.1
      else ((nexthops.map (pairOf family ifName)).map fun pair => pair.if_alias.1).dropLast := by
  have htexts : nexthops.map (ifNameText (names ifName)) =
      (nexthops.map (pairOf family ifName)).map fun pair => pair.if_alias.1 := by
    rw [List.map_map]
    exact List.map_congr_left fun nexthop _ => ifNameText_eq
  unfold getNextHopIf
  rw [separated_eq, htexts]
  generalize nexthops.map (pairOf family ifName) = pairs
  have hcomma : ∀ name ∈ pairs.map fun pair => pair.if_alias.1, ',' ∉ name := by
    intro name hmem
    obtain ⟨pair, -, rfl⟩ := List.mem_map.mp hmem
    exact pair.if_alias.2.2
  split_ifs with hlast
  · refine Swss.getlines_intercalate hcomma fun hnil => ?_
    rw [List.getLast?_map] at hnil
    obtain ⟨pair, hpair, hempty⟩ := Option.map_eq_some_iff.mp hnil
    exact hlast pair hpair hempty
  · push Not at hlast
    obtain ⟨pair, hpair, hempty⟩ := hlast
    have hsplit : (pairs.map fun pair => pair.if_alias.1) =
        (pairs.map fun pair => pair.if_alias.1).dropLast ++ [[]] := by
      refine (List.dropLast_append_getLast? [] ?_).symm
      rw [List.getLast?_map, Option.mem_def.mp hpair, Option.map_some, hempty]
      rfl
    refine (congrArg (fun items => getlines ',' [] ([','].intercalate items)) hsplit).trans ?_
    exact getlines_intercalate_nil fun name hmem => hcomma name (List.mem_of_mem_dropLast hmem)

/-- The text of the pairs, as it is joined from the lists. -/
theorem nhgStr_pairs (hne : nexthops ≠ []) :
    nhgStr (nexthops.map (gatewayText nl family))
        ((nexthops.map (pairOf family ifName)).map fun pair => pair.if_alias.1) =
      some ([NHG_DELIMITER].intercalate (nexthops.map fun nexthop =>
        gatewayText nl family nexthop ++
          NH_DELIMITER :: (pairOf family ifName nexthop).if_alias.1)) := by
  unfold nhgStr
  rw [if_neg, List.map_map, List.zipWith_map, List.zipWith_self]
  · rfl
  · rw [List.map_eq_nil_iff, List.length_map, List.length_map, List.length_map]
    exact fun h => h.elim hne (lt_irrefl _)

/-- **The next hops of a route survive** if and only if they are written as such. -/
theorem survives_iff (hne : nexthops ≠ []) :
    Survives nl getRouterIntfsAlias ifName family nexthops ↔
      Written getRouterIntfsAlias ifName family nexthops := by
  unfold Survives Written
  dsimp only
  rw [getlines_getNextHopGw, getlines_getNextHopIf family]
  split_ifs with hlast
  · rw [List.length_map, List.length_map, List.length_map, nhgStr_pairs hne]
    have hexcepted : (((nexthops.map (pairOf family ifName)).map fun pair =>
        pair.if_alias.1).any (· ∈ excpIntfs) = false) ↔
          ∀ pair ∈ nexthops.map (pairOf family ifName), pair.if_alias.1 ∉ excpIntfs := by
      rw [List.any_map, List.any_eq_false]
      exact forall₂_congr fun pair _ => by simp
    have hparse : NextHopGroupKey.ofString getRouterIntfsAlias
        ([NHG_DELIMITER].intercalate (nexthops.map fun nexthop =>
          gatewayText nl family nexthop ++
            NH_DELIMITER :: (pairOf family ifName nexthop).if_alias.1)) =
        some (.ofList ((nexthops.map (pairOf family ifName)).map
          (NextHopKey.reparse getRouterIntfsAlias))) := by
      rw [List.map_map]
      refine NextHopGroupKey.ofString_texts fun nexthop _ => ?_
      have htext := addressText_gateway nl ifName family nexthop
      exact ⟨NextHopGroupKey.text_spec htext, NextHopKey.ofString_text htext⟩
    rw [hexcepted]
    refine and_congr (iff_of_true rfl hlast) (imp_congr_right fun _ => ?_)
    constructor
    · rintro ⟨_, nhg, ⟨⟩, hnhg, hmem⟩
      rw [hparse] at hnhg
      obtain rfl := Option.some.inj hnhg
      intro nh
      rw [← hmem nh, NextHopGroupKey.mem_ofList]
    · intro hstable
      refine ⟨_, _, rfl, hparse, fun nh => ?_⟩
      rw [NextHopGroupKey.mem_ofList]
      exact hstable nh
  · -- the last interface is not seen
    refine iff_of_false (fun h => ?_) fun h => hlast h.1
    have hlength := h.1
    rw [List.length_dropLast, List.length_map, List.length_map, List.length_map] at hlength
    have hpos := List.length_pos_of_ne_nil hne
    omega

end Routes

/-! ### Any task -/

section Tasks

variable {sai : Sai} {rand : ℕ} {s : St} {key : List Char} {fvs : List FieldValueTuple}
  {ipv alsv : List (List Char)} {str : List Char} {getRouterIntfsAlias : RouterIntfsAlias}

/-- A token has no separator. -/
theorem not_mem_getlines {token : Char} {tmp s item : List Char} (htmp : token ∉ tmp)
    (h : item ∈ getlines token tmp s) : token ∉ item := by
  induction s generalizing tmp with
  | nil =>
    unfold getlines at h
    split_ifs at h
    · cases h
    · obtain rfl := List.mem_singleton.mp h
      exact htmp
  | cons c s ih =>
    unfold getlines at h
    split_ifs at h with hc
    · rcases List.mem_cons.mp h with rfl | h
      · exact htmp
      · exact ih List.not_mem_nil h
    · refine ih (fun hmem => ?_) h
      rcases List.mem_append.mp hmem with hmem | hmem
      · exact htmp hmem
      · exact hc (List.mem_singleton.mp hmem).symm

/-- A token is cut out of its text. -/
theorem mem_of_mem_getlines {token c : Char} {tmp s item : List Char}
    (h : item ∈ getlines token tmp s) (hc : c ∈ item) : c ∈ tmp ∨ c ∈ s := by
  induction s generalizing tmp with
  | nil =>
    unfold getlines at h
    split_ifs at h
    · cases h
    · obtain rfl := List.mem_singleton.mp h
      exact .inl hc
  | cons d s ih =>
    unfold getlines at h
    split_ifs at h
    · rcases List.mem_cons.mp h with rfl | h
      · exact .inl hc
      · rcases ih h with hmem | hmem
        · cases hmem
        · exact .inr (List.mem_cons_of_mem _ hmem)
    · rcases ih h with hmem | hmem
      · rcases List.mem_append.mp hmem with hmem | hmem
        · exact .inl hmem
        · obtain rfl := List.mem_singleton.mp hmem
          exact .inr List.mem_cons_self
      · exact .inr (List.mem_cons_of_mem _ hmem)

/-- Whether a text is that of a next hop does not depend on the interfaces. -/
theorem ofString_isSome_iff (getRouterIntfsAlias : RouterIntfsAlias)
    (hcomma : NHG_DELIMITER ∉ str) :
    (NextHopKey.ofString getRouterIntfsAlias str).isSome ↔ IsNextHop str := by
  have htoken : ∀ item ∈ getlines NH_DELIMITER [] str,
      NH_DELIMITER ∉ item ∧ NHG_DELIMITER ∉ item := by
    intro item h
    refine ⟨not_mem_getlines List.not_mem_nil h, fun hmem => ?_⟩
    rcases mem_of_mem_getlines h hmem with hmem | hmem
    · cases hmem
    · exact hcomma hmem
  unfold NextHopKey.ofString IsNextHop
  rw [if_neg hcomma]
  generalize getlines NH_DELIMITER [] str = tokens at htoken ⊢
  rcases tokens with _ | ⟨ip, _ | ⟨if_alias, _ | ⟨more, rest⟩⟩⟩
  · refine iff_of_false nofun ?_
    rintro ⟨ip, rest, ⟨⟩, -⟩
  · constructor
    · intro h
      rw [Option.isSome_map] at h
      exact ⟨ip, [], rfl, Nat.zero_le _, h⟩
    · rintro ⟨ip, rest, ⟨⟩, -, h⟩
      rw [Option.isSome_map]
      exact h
  · have halias := htoken if_alias (List.mem_cons_of_mem _ List.mem_cons_self)
    have hparts : ((IpAddress.ofString ip).bind fun ip =>
        if VRF_PREFIX.isPrefixOf if_alias then
          some (NextHopKey.mk ip (getRouterIntfsAlias ip if_alias))
        else if h : NH_DELIMITER ∉ if_alias ∧ NHG_DELIMITER ∉ if_alias then
          some ⟨ip, if_alias, h⟩ else none).isSome ↔ (IpAddress.ofString ip).isSome := by
      cases IpAddress.ofString ip with
      | none => exact Iff.rfl
      | some ip =>
        rw [Option.bind_some, dif_pos halias]
        refine iff_of_true ?_ rfl
        split_ifs
        · rfl
        · rfl
    refine hparts.trans ⟨fun h => ⟨ip, [if_alias], rfl, le_refl _, h⟩, ?_⟩
    rintro ⟨ip, rest, ⟨⟩, -, h⟩
    exact h
  · refine iff_of_false nofun ?_
    rintro ⟨ip, rest, ⟨⟩, hlength, -⟩
    exact absurd hlength (by simp)

/-- The text that is joined from two lists is parsed if each pair is. -/
theorem ofString_zip_iff (getRouterIntfsAlias : RouterIntfsAlias)
    (hcomma : ∀ p ∈ ipv.zip alsv, NHG_DELIMITER ∉ p.1 ∧ NHG_DELIMITER ∉ p.2) :
    (NextHopGroupKey.ofString getRouterIntfsAlias ([NHG_DELIMITER].intercalate
      (List.zipWith (fun ip if_alias => ip ++ NH_DELIMITER :: if_alias) ipv alsv))).isSome ↔
        ∀ p ∈ ipv.zip alsv, IsNextHop (p.1 ++ NH_DELIMITER :: p.2) := by
  rw [← List.map_uncurry_zip_eq_zipWith]
  generalize ipv.zip alsv = pairs at hcomma ⊢
  have hnone : ∀ p ∈ pairs, NHG_DELIMITER ∉ p.1 ++ NH_DELIMITER :: p.2 := by
    intro p hp hmem
    rcases List.mem_append.mp hmem with hc | hc
    · exact (hcomma p hp).1 hc
    · rcases List.mem_cons.mp hc with hc | hc
      · exact absurd hc (by decide)
      · exact (hcomma p hp).2 hc
  have htokens : getlines NHG_DELIMITER [] ([NHG_DELIMITER].intercalate
      (pairs.map (Function.uncurry fun ip if_alias => ip ++ NH_DELIMITER :: if_alias))) =
        pairs.map (Function.uncurry fun ip if_alias => ip ++ NH_DELIMITER :: if_alias) := by
    refine Swss.getlines_intercalate (fun str hmem => ?_) fun hlast => ?_
    · obtain ⟨p, hp, rfl⟩ := List.mem_map.mp hmem
      exact hnone p hp
    · obtain ⟨p, -, hnil⟩ := List.mem_map.mp (List.mem_of_getLast? hlast)
      exact List.append_ne_nil_of_right_ne_nil _ (List.cons_ne_nil _ _) hnil
  unfold NextHopGroupKey.ofString
  rw [htokens, Option.isSome_map]
  clear htokens
  induction pairs with
  | nil => exact iff_of_true rfl nofun
  | cons p pairs ih =>
    have hrest : ((pairs.map (Function.uncurry fun ip if_alias =>
        ip ++ NH_DELIMITER :: if_alias)).mapM (NextHopKey.ofString getRouterIntfsAlias)).isSome ↔
          ∀ q ∈ pairs, IsNextHop (q.1 ++ NH_DELIMITER :: q.2) :=
      ih (fun q hq => hcomma q (List.mem_cons_of_mem _ hq))
        fun q hq => hnone q (List.mem_cons_of_mem _ hq)
    rw [List.map_cons, List.mapM_cons, List.forall_mem_cons, ← hrest,
      ← ofString_isSome_iff getRouterIntfsAlias (hnone p List.mem_cons_self)]
    show (Option.bind (NextHopKey.ofString getRouterIntfsAlias
      (p.1 ++ NH_DELIMITER :: p.2)) _).isSome ↔ _
    cases NextHopKey.ofString getRouterIntfsAlias (p.1 ++ NH_DELIMITER :: p.2) with
    | none => exact iff_of_false nofun fun h => nomatch h.1
    | some nh =>
      rw [Option.bind_some]
      refine Iff.trans ?_ (and_iff_right rfl).symm
      cases (pairs.map (Function.uncurry fun ip if_alias =>
        ip ++ NH_DELIMITER :: if_alias)).mapM (NextHopKey.ofString getRouterIntfsAlias) with
      | none => exact Iff.rfl
      | some nhs => exact Iff.rfl

/-- A route is set if its lists can be read, or name an interface that is left out. -/
theorem setRoute_isSome_iff (vrf_id : sai_object_id_t) ( ip_prefix : IpPrefix)
    (ips aliases : List Char) :
    (setRoute sai rand s vrf_id ip_prefix ips aliases).isSome ↔
      (getlines ',' [] aliases).any (· ∈ excpIntfs) = true ∨
        Listed (getlines ',' [] ips) (getlines ',' [] aliases) := by
  have hcomma : ∀ p ∈ (getlines ',' [] ips).zip (getlines ',' [] aliases),
      NHG_DELIMITER ∉ p.1 ∧ NHG_DELIMITER ∉ p.2 := by
    rintro ⟨ip, if_alias⟩ hp
    obtain ⟨hip, halias⟩ := List.of_mem_zip hp
    exact ⟨not_mem_getlines List.not_mem_nil hip, not_mem_getlines List.not_mem_nil halias⟩
  unfold setRoute Listed
  dsimp only
  generalize getlines ',' [] ips = ipv at hcomma ⊢
  generalize getlines ',' [] aliases = alsv at hcomma ⊢
  by_cases hexcepted : alsv.any (· ∈ excpIntfs) = true
  · rw [if_pos hexcepted]
    exact iff_of_true rfl (.inl hexcepted)
  · rw [if_neg hexcepted, or_iff_right hexcepted]
    unfold nhgStr
    by_cases hshort : ipv = [] ∨ alsv.length < ipv.length
    · rw [if_pos hshort]
      refine iff_of_false nofun ?_
      rintro ⟨hne, hle, -⟩
      exact hshort.elim hne fun hlt => absurd hle (Nat.not_le.mpr hlt)
    · rw [if_neg hshort, Option.bind_some]
      push Not at hshort
      have hzip := ofString_zip_iff s.getRouterIntfsAlias hcomma
      cases hparse : NextHopGroupKey.ofString s.getRouterIntfsAlias
          ([NHG_DELIMITER].intercalate (List.zipWith
            (fun ip if_alias => ip ++ NH_DELIMITER :: if_alias) ipv alsv)) with
      | none =>
        rw [hparse] at hzip
        exact iff_of_false nofun fun h => nomatch hzip.mpr h.2.2.1
      | some nhg =>
        rw [hparse] at hzip
        rw [Option.bind_some]
        rcases ipv with _ | ⟨ip, more⟩
        · exact absurd rfl hshort.1
        · rcases alsv with _ | ⟨if_alias, rest⟩
          · exact absurd hshort.2 (by simp)
          · dsimp only
            unfold isZeroRoute
            have hsingle : (∀ ip', ip :: more = [ip'] → (IpAddress.ofString ip').isSome) ↔
                (more = [] → (IpAddress.ofString ip).isSome) := by
              constructor
              · rintro h rfl
                exact h ip rfl
              · rintro h ip' ⟨⟩
                exact h rfl
            rw [hsingle]
            have hread := hzip.mp rfl
            by_cases hmore : more = []
            · rw [if_pos hmore]
              cases IpAddress.ofString ip with
              | none => exact iff_of_false nofun fun h => nomatch h.2.2.2 hmore
              | some ip =>
                refine iff_of_true ?_ ⟨hshort.1, hshort.2, hread, fun _ => rfl⟩
                rw [Option.map_some, Option.bind_some]
                split_ifs
                · rfl
                · rfl
                · rfl
                · rfl
            · rw [if_neg hmore, Option.bind_some]
              refine iff_of_true ?_ ⟨hshort.1, hshort.2, hread, fun h => absurd h hmore⟩
              rw [if_neg Bool.false_ne_true]
              split_ifs
              · rfl
              · rfl

/-- **A SET is processed** if and only if it can be read. -/
theorem doSetTask_isSome_iff : (doSetTask sai rand s key fvs).isSome ↔ Readable s key fvs := by
  unfold doSetTask Readable
  dsimp only
  by_cases hresync : key = "resync".toList
  · rw [if_pos hresync]
    exact iff_of_true rfl (.inl hresync)
  · rw [if_neg hresync, or_iff_right hresync]
    by_cases hwait : s.m_resync = true
    · rw [if_pos hwait]
      exact iff_of_true rfl (.inl hwait)
    · rw [if_neg hwait, or_iff_right hwait]
      cases hvrf : taskVrf s (keyVrf key) with
      | none => exact iff_of_true rfl (.inl rfl)
      | some vrf_id =>
        rw [or_iff_right nofun]
        dsimp only
        cases IpPrefix.ofString (keyPrefix key) with
        | none => exact iff_of_false nofun fun h => nomatch h.1
        | some ip_prefix =>
          rw [Option.bind_some, setRoute_isSome_iff]
          exact (and_iff_right rfl).symm

end Tasks

/-! ### The way as a whole -/

end Orchagent
