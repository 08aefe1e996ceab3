/-
Orchagent/AclRule.lean

ACL rules and what they hold: `AclRule`, `AclRange`, `AclTable` and the mirror sessions.

A rule that is created takes a counter, its ranges and an entry from the ASIC, in this
order, and each way out of `create` gives some of it back.  What is read of other orchs
and of the platform is an `Env` that may be another one at every task.  An operation that
throws, or reads past the end of an array, has no result.
-/
import Sonic.Lib.Table
import Sonic.Orchagent.RouteOrch

namespace Orchagent.Acl

/-! ### The data -/

abbrev Text := List Char

inductive acl_table_type_t where
  | ACL_TABLE_UNKNOWN | ACL_TABLE_L3 | ACL_TABLE_L3V6 | ACL_TABLE_MIRROR | ACL_TABLE_MIRRORV6
  | ACL_TABLE_MIRROR_DSCP | ACL_TABLE_PFCWD | ACL_TABLE_CTRLPLANE
  | ACL_TABLE_DTEL_FLOW_WATCHLIST | ACL_TABLE_DTEL_DROP_WATCHLIST
  deriving DecidableEq

inductive sai_acl_range_type_t where
  | L4_SRC_PORT_RANGE | L4_DST_PORT_RANGE
  deriving DecidableEq

structure acl_range_properties_t where
  type : sai_acl_range_type_t
  min : ℕ
  max : ℕ
  deriving DecidableEq

structure AclRange where
  m_oid : sai_object_id_t
  m_refCnt : ℤ

/-- The calls of SAI for a rule. -/
inductive SaiCall where
  | create_acl_counter | create_acl_range (type : sai_acl_range_type_t) | create_acl_entry
  | remove_acl_entry | remove_acl_range (type : sai_acl_range_type_t) | remove_acl_counter

/-- A rule: the ids of its table and its own. -/
abbrev RuleKey := Text × Text

/-- The statuses of the calls of an operation, for each rule. -/
abbrev Sai := RuleKey → SaiCall → sai_status_t

inductive MatchValue where
  | range (min max : ℕ)
  | value (text : Text)

/-- What an action is given: a value, an object, or the mirror session that is set later. -/
inductive ActionParam where
  | value (text : Text)
  | oid (id : sai_object_id_t)
  | session

/-- The classes of rules that tasks make. -/
inductive RuleClass where
  | AclRuleL3 | AclRuleL3V6 | AclRuleMirror
  | AclRuleDTelFlowWatchListEntry | AclRuleDTelDropWatchListEntry
  deriving DecidableEq

structure AclRule where
  ruleClass : RuleClass
  m_tableType : acl_table_type_t
  m_createCounter : Bool
  m_ruleOid : sai_object_id_t
  m_counterOid : sai_object_id_t
  /-- `m_matches` and `m_actions`, by the names of their attributes -/
  m_matches : Table Text MatchValue
  m_actions : Table Text ActionParam
  m_redirect_target_next_hop : Text
  m_redirect_target_next_hop_group : Text
  /-- the session of a mirror rule, and whether the rule is in the ASIC -/
  m_state : Bool
  m_sessionName : Text
  /-- the INT session of a flow watchlist -/
  INT_enabled : Bool
  INT_session_valid : Bool
  m_intSessionId : Text

structure MirrorEntry where
  status : Bool
  refCount : ℤ

/-- An entry of the ASIC: its table, and the ranges that it uses. -/
structure AsicEntry where
  table_id : Text
  ranges : List acl_range_properties_t

/-- What is read of other orchs and of the platform. -/
structure Env where
  /-- the port of a name, with its id if it is a physical port or a LAG -/
  getPort : Text → Option (Option sai_object_id_t)
  hasNextHop : NextHopKey → Bool
  getNextHopId : NextHopKey → sai_object_id_t
  /-- the group is there, or is added -/
  ensureNextHopGroup : NextHopGroupKey → Bool
  getNextHopGroupId : NextHopGroupKey → sai_object_id_t
  /-- the values that are parsed: a priority, a match of a name, a range, a percentage -/
  validPriority : Text → Bool
  validMatch : Text → Text → Bool
  parseRange : Text → Option (ℕ × ℕ)
  validSamplePercent : Text → Bool
  /-- what the ASIC supports in the stage of a table -/
  isActionSupported : Text → Text → ActionParam → Bool
  /-- `m_dTelOrch`, and its sessions -/
  m_dTelOrch : Bool
  getINTSessionOid : Text → Option sai_object_id_t
  decreaseINTSessionRefCount : Text → Bool
  /-- the platform has `MLNX_PLATFORM_SUBSTRING` in its name -/
  mlnx : Bool

structure St where
  m_AclTables : Table Text acl_table_type_t
  m_ctrlAclTables : List Text
  m_mirrorTableId : Text
  /-- `IntfsOrch` -/
  getRouterIntfsAlias : RouterIntfsAlias
  /-- the rules of all tables -/
  rules : Table RuleKey AclRule
  m_ranges : Table acl_range_properties_t AclRange
  m_syncdMirrors : Table Text MirrorEntry
  /-- the references that rules hold on next hops and on next hop groups -/
  nextHopRefs : NextHopKey → ℤ
  groupRefs : NextHopGroupKey → ℤ
  /-- `CrmOrch`: the used counters of the tables -/
  crm_acl_entry : Text → ℤ
  crm_acl_counter : Text → ℤ
  /-- The ASIC: entries, counters with their tables, and the next id. -/
  asicEntries : Table sai_object_id_t AsicEntry
  asicCounters : Table sai_object_id_t Text
  nextOid : sai_object_id_t

/-! ### Ranges -/

def MLNX_MAX_RANGES_COUNT : ℕ := 16

namespace St

/-- `AclRange::create`: a reference on a range, which is made if there is none. -/
def createRange (env : Env) (sai : Sai) (key : RuleKey) (s : St) (properties : acl_range_properties_t) :
    St × Option sai_object_id_t :=
  match s.m_ranges.lookup properties with
  | none =>
    if env.mlnx ∧ MLNX_MAX_RANGES_COUNT ≤ s.m_ranges.entries.length then (s, none)
    else if sai key (.create_acl_range properties.type) ≠ .SUCCESS then (s, none)
    else
      ({ s with
        m_ranges := s.m_ranges.insert properties ⟨s.nextOid, 1⟩
        nextOid := s.nextOid + 1 }, some s.nextOid)
  | some range =>
    ({ s with m_ranges := s.m_ranges.insert properties ⟨range.m_oid, range.m_refCnt + 1⟩ },
      some range.m_oid)

/-- `AclRange::remove` of a range: false if it is not there or cannot be removed.  It throws
for a reference too few. -/
def removeRange (sai : Sai) (key : RuleKey) (s : St) (properties : acl_range_properties_t) :
    Option (St × Bool) :=
  match s.m_ranges.lookup properties with
  | none => some (s, false)
  | some range =>
    if range.m_refCnt - 1 < 0 then none
    else
      let s' := { s with
        m_ranges := s.m_ranges.insert properties ⟨range.m_oid, range.m_refCnt - 1⟩ }
      if range.m_refCnt - 1 = 0 then
        if sai key (.remove_acl_range properties.type) ≠ .SUCCESS then some (s', false)
        else some ({ s with m_ranges := s.m_ranges.erase properties }, true)
      else some (s', true)

/-- `AclRange::remove` of the ranges of an array.  The loop counts the length up and reads
what is behind the array; only for an empty one it ends. -/
def removeRangeOids (s : St) : List sai_object_id_t → Option (St × Bool)
  | [] => some (s, false)
  | _ :: _ => none

end St

def MATCH_L4_SRC_PORT_RANGE : Text := "L4_SRC_PORT_RANGE".toList
def MATCH_L4_DST_PORT_RANGE : Text := "L4_DST_PORT_RANGE".toList

/-- The range of a match. -/
def MatchValue.properties (type : sai_acl_range_type_t) : MatchValue → List acl_range_properties_t
  | .range min max => [⟨type, min, max⟩]
  | .value _ => []

/-- The ranges of a rule, in the order of `m_matches`. -/
def AclRule.ranges (r : AclRule) : List acl_range_properties_t :=
  ((r.m_matches.lookup MATCH_L4_SRC_PORT_RANGE).map
      (MatchValue.properties .L4_SRC_PORT_RANGE)).getD [] ++
    ((r.m_matches.lookup MATCH_L4_DST_PORT_RANGE).map
      (MatchValue.properties .L4_DST_PORT_RANGE)).getD []

namespace St

/-- The ranges of a rule that is created: none if one of them cannot be had. -/
def createRanges (env : Env) (sai : Sai) (key : RuleKey) :
    List acl_range_properties_t → List sai_object_id_t → St →
      Option (St × Option (List sai_object_id_t))
  | [], oids, s => some (s, some oids)
  | properties :: rest, oids, s =>
    match s.createRange env sai key properties with
    | (s', none) => (s'.removeRangeOids oids).map fun r => (r.1, none)
    | (s', some oid) => createRanges env sai key rest (oids ++ [oid]) s'

/-- `removeRanges`, which returns with the first range. -/
def removeRanges (sai : Sai) (key : RuleKey) (s : St) (r : AclRule) : Option (St × Bool) :=
  match r.ranges with
  | [] => some (s, true)
  | properties :: _ => s.removeRange sai key properties

/-! ### Counters and references -/

/-- `createCounter`. -/
def createCounter (sai : Sai) (key : RuleKey) (s : St) (r : AclRule) : St × AclRule × Bool :=
  if sai key .create_acl_counter ≠ .SUCCESS then (s, r, false)
  else
    ({ s with
      asicCounters := s.asicCounters.insert s.nextOid key.1
      nextOid := s.nextOid + 1
      crm_acl_counter := Function.update s.crm_acl_counter key.1 (s.crm_acl_counter key.1 + 1) },
      { r with m_counterOid := s.nextOid }, true)

/-- `removeCounter`. -/
def removeCounter (sai : Sai) (key : RuleKey) (s : St) (r : AclRule) : St × AclRule × Bool :=
  if r.m_counterOid = SAI_NULL_OBJECT_ID then (s, r, true)
  else if sai key .remove_acl_counter ≠ .SUCCESS then (s, r, false)
  else
    ({ s with
      asicCounters := s.asicCounters.erase r.m_counterOid
      crm_acl_counter := Function.update s.crm_acl_counter key.1 (s.crm_acl_counter key.1 - 1) },
      { r with m_counterOid := SAI_NULL_OBJECT_ID }, true)

def addNextHopRef (s : St) (nexthop : NextHopKey) (n : ℤ) : St :=
  { s with nextHopRefs := Function.update s.nextHopRefs nexthop (s.nextHopRefs nexthop + n) }

def addGroupRef (s : St) (nexthops : NextHopGroupKey) (n : ℤ) : St :=
  { s with groupRefs := Function.update s.groupRefs nexthops (s.groupRefs nexthops + n) }

/-- The first part of `decreaseNextHopRefCount`. -/
def releaseNextHop (s : St) (r : AclRule) : Option (St × AclRule) :=
  if r.m_redirect_target_next_hop = [] then some (s, r)
  else
    (NextHopKey.ofString s.getRouterIntfsAlias r.m_redirect_target_next_hop).map fun nexthop =>
      (s.addNextHopRef nexthop (-1), { r with m_redirect_target_next_hop := [] })

/-- The second part of `decreaseNextHopRefCount`. -/
def releaseGroup (s : St) (r : AclRule) : Option (St × AclRule) :=
  if r.m_redirect_target_next_hop_group = [] then some (s, r)
  else
    (NextHopGroupKey.ofString s.getRouterIntfsAlias r.m_redirect_target_next_hop_group).map
      fun nexthops => (s.addGroupRef nexthops (-1), { r with m_redirect_target_next_hop_group := [] })

/-- `decreaseNextHopRefCount`, which throws for a target that is not parsed. -/
def decreaseNextHopRefCount (s : St) (r : AclRule) : Option (St × AclRule) :=
  (s.releaseNextHop r).bind fun x => x.1.releaseGroup x.2

/-! ### Rules -/

def addCrmEntry (s : St) (table_id : Text) (n : ℤ) : St :=
  { s with crm_acl_entry := Function.update s.crm_acl_entry table_id (s.crm_acl_entry table_id + n) }

/-- The last part of `AclRule::create`: the entry. -/
def createEntry (sai : Sai) (key : RuleKey) (s : St) (r : AclRule)
    (range_objects : List sai_object_id_t) : Option (St × AclRule × Bool) :=
  if sai key .create_acl_entry ≠ .SUCCESS then
    (s.removeRangeOids range_objects).bind fun x =>
      (x.1.decreaseNextHopRefCount r).map fun y => (y.1.addCrmEntry key.1 1, y.2, false)
  else
    some ({ s with
      asicEntries := s.asicEntries.insert s.nextOid ⟨key.1, r.ranges⟩
      nextOid := s.nextOid + 1 }.addCrmEntry key.1 1, { r with m_ruleOid := s.nextOid }, true)

/-- The part of `AclRule::create` after the counter. -/
def createWithCounter (env : Env) (sai : Sai) (key : RuleKey) (s : St) (r : AclRule) :
    Option (St × AclRule × Bool) :=
  (createRanges env sai key r.ranges [] s).bind fun x =>
    match x.2 with
    | none => some (x.1, r, false)
    | some range_objects => x.1.createEntry sai key r range_objects

/-- `AclRule::create`. -/
def createRule (env : Env) (sai : Sai) (key : RuleKey) (s : St) (r : AclRule) :
    Option (St × AclRule × Bool) :=
  if r.m_createCounter then
    match s.createCounter sai key r with
    | (s', r', false) => some (s', r', false)
    | (s', r', true) => s'.createWithCounter env sai key r'
  else s.createWithCounter env sai key r

/-- The last part of `AclRule::remove`: the counter, with the result of the ranges. -/
def removeRuleCounter (sai : Sai) (key : RuleKey) (s : St) (r : AclRule) (res : Bool) :
    St × AclRule × Bool :=
  if r.m_createCounter then
    match s.removeCounter sai key r with
    | (s', r', rc) => (s', r', res && rc)
  else (s, r, res)

/-- The entry of a rule is gone. -/
def eraseEntry (s : St) (key : RuleKey) (r : AclRule) : St :=
  { s with asicEntries := s.asicEntries.erase r.m_ruleOid }.addCrmEntry key.1 (-1)

/-- `AclRule::remove`.  The ASIC does not remove an entry that it does not have. -/
def removeRule (sai : Sai) (key : RuleKey) (s : St) (r : AclRule) : Option (St × AclRule × Bool) :=
  if s.asicEntries.lookup r.m_ruleOid = none ∨ sai key .remove_acl_entry ≠ .SUCCESS then
    some (s, r, false)
  else
    ((s.eraseEntry key r).decreaseNextHopRefCount { r with m_ruleOid := SAI_NULL_OBJECT_ID }).bind
      fun x => (x.1.removeRanges sai key x.2).map fun y => y.1.removeRuleCounter sai key x.2 y.2

/-! ### Mirror rules -/

/-- `AclRuleMirror::create`, which throws for a session that is not there. -/
def createMirrorRule (env : Env) (sai : Sai) (key : RuleKey) (s : St) (r : AclRule) :
    Option (St × AclRule × Bool) :=
  match s.m_syncdMirrors.lookup r.m_sessionName with
  | none => none
  | some session =>
    let s' := { s with
      m_syncdMirrors :=
        s.m_syncdMirrors.insert r.m_sessionName ⟨session.status, session.refCount + 1⟩ }
    if !session.status then some (s', r, true)
    else
      (s'.createRule env sai key r).map fun x =>
        if x.2.2 then (x.1, { x.2.1 with m_state := true }, true) else x

/-- `MirrorOrch::decreaseRefCount`, which throws for a count that is not positive, as the
caller does for a session that is not there. -/
def decreaseRefCount (s : St) (name : Text) : Option St :=
  match s.m_syncdMirrors.lookup name with
  | none => none
  | some session =>
    if session.refCount ≤ 0 then none
    else
      some { s with
        m_syncdMirrors := s.m_syncdMirrors.insert name ⟨session.status, session.refCount - 1⟩ }

/-- `AclRuleMirror::remove`. -/
def removeMirrorRule (sai : Sai) (key : RuleKey) (s : St) (r : AclRule) :
    Option (St × AclRule × Bool) :=
  if !r.m_state then some (s, r, true)
  else
    (s.removeRule sai key r).bind fun x =>
      if !x.2.2 then some x
      else
        (x.1.decreaseRefCount x.2.1.m_sessionName).map fun s' =>
          (s', { x.2.1 with m_state := false }, true)

/-! ### Watchlists -/

/-- `AclRuleDTelFlowWatchListEntry::create`.  A watchlist is only made with a `DTelOrch`. -/
def createFlowWatchList (env : Env) (sai : Sai) (key : RuleKey) (s : St) (r : AclRule) :
    Option (St × AclRule × Bool) :=
  if r.INT_enabled && !r.INT_session_valid then some (s, r, true) else s.createRule env sai key r

/-- `AclRuleDTelFlowWatchListEntry::remove`. -/
def removeFlowWatchList (env : Env) (sai : Sai) (key : RuleKey) (s : St) (r : AclRule) :
    Option (St × AclRule × Bool) :=
  if r.INT_enabled && !r.INT_session_valid then some (s, r, true)
  else
    (s.removeRule sai key r).map fun x =>
      if x.2.2 && x.2.1.INT_enabled then
        (x.1, x.2.1, env.decreaseINTSessionRefCount x.2.1.m_intSessionId)
      else x

/-! ### Rules of all classes -/

/-- `create` of a rule of any class. -/
def create (env : Env) (sai : Sai) (key : RuleKey) (s : St) (r : AclRule) :
    Option (St × AclRule × Bool) :=
  match r.ruleClass with
  | .AclRuleMirror => s.createMirrorRule env sai key r
  | .AclRuleDTelFlowWatchListEntry => s.createFlowWatchList env sai key r
  | .AclRuleL3 | .AclRuleL3V6 | .AclRuleDTelDropWatchListEntry => s.createRule env sai key r

/-- `remove` of a rule of any class. -/
def remove (env : Env) (sai : Sai) (key : RuleKey) (s : St) (r : AclRule) :
    Option (St × AclRule × Bool) :=
  match r.ruleClass with
  | .AclRuleMirror => s.removeMirrorRule sai key r
  | .AclRuleDTelFlowWatchListEntry => s.removeFlowWatchList env sai key r
  | .AclRuleL3 | .AclRuleL3V6 | .AclRuleDTelDropWatchListEntry => s.removeRule sai key r

/-! ### Tables of rules -/

def storeRule (s : St) (key : RuleKey) (r : AclRule) : St :=
  { s with rules := s.rules.insert key r }

def eraseRule (s : St) (key : RuleKey) : St := { s with rules := s.rules.erase key }

/-- The removal of a rule that is stored; it stays if it is not removed. -/
def removeStored (env : Env) (sai : Sai) (key : RuleKey) (s : St) (r : AclRule) :
    Option (St × Bool) :=
  (s.remove env sai key r).map fun x =>
    if x.2.2 then (x.1.eraseRule key, true) else (x.1.storeRule key x.2.1, false)

/-- The new rule of `AclTable::add`. -/
def addNew (env : Env) (sai : Sai) (key : RuleKey) (s : St) (newRule : AclRule) :
    Option (St × Bool) :=
  (s.create env sai key newRule).map fun x =>
    if x.2.2 then (x.1.storeRule key x.2.1, true) else (x.1, false)

/-- `AclTable::add`: a rule that is there is removed first. -/
def addRule (env : Env) (sai : Sai) (key : RuleKey) (s : St) (newRule : AclRule) :
    Option (St × Bool) :=
  match s.rules.lookup key with
  | none => s.addNew env sai key newRule
  | some r => (s.removeStored env sai key r).bind fun x => x.1.addNew env sai key newRule

/-- `AclTable::remove`. -/
def delRule (env : Env) (sai : Sai) (key : RuleKey) (s : St) : Option (St × Bool) :=
  match s.rules.lookup key with
  | none => some (s, true)
  | some r => s.removeStored env sai key r

end St

end Orchagent.Acl
