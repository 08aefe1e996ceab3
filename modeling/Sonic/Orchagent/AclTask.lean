/-
Orchagent/AclTask.lean

The tasks of ACL rules: `AclRule::makeShared`, the validation of the attributes of each
class of rules, and `AclOrch::doAclRuleTask`.

A redirect takes a reference on its target while its attribute is validated, which is
before the other attributes are.  A `Draft` is a rule that is being made with the
references that were taken for it so far; the task adds them to those of the other orchs.
-/
import Sonic.Orchagent.AclRule

namespace Orchagent.Acl

def to_upper (str : Text) : Text := str.map Char.toUpper

/-! ### The names of attributes -/

def RULE_PRIORITY : Text := "PRIORITY".toList
def MATCH_SRC_IP : Text := "SRC_IP".toList
def MATCH_DST_IP : Text := "DST_IP".toList
def MATCH_SRC_IPV6 : Text := "SRC_IPV6".toList
def MATCH_DST_IPV6 : Text := "DST_IPV6".toList
def MATCH_ETHER_TYPE : Text := "ETHER_TYPE".toList
def MATCH_DSCP : Text := "DSCP".toList
def MATCH_ICMP_TYPE : Text := "ICMP_TYPE".toList
def MATCH_ICMP_CODE : Text := "ICMP_CODE".toList
def MATCH_ICMPV6_TYPE : Text := "ICMPV6_TYPE".toList
def MATCH_ICMPV6_CODE : Text := "ICMPV6_CODE".toList

/-- The keys of `aclMatchLookup`. -/
def aclMatchLookup : List Text :=
  ["IN_PORTS".toList, "OUT_PORTS".toList, MATCH_SRC_IP, MATCH_DST_IP, MATCH_SRC_IPV6,
    MATCH_DST_IPV6, "L4_SRC_PORT".toList, "L4_DST_PORT".toList, MATCH_ETHER_TYPE,
    "IP_PROTOCOL".toList, "TCP_FLAGS".toList, "IP_TYPE".toList, MATCH_DSCP, "TC".toList,
    MATCH_ICMP_TYPE, MATCH_ICMP_CODE, MATCH_ICMPV6_TYPE, MATCH_ICMPV6_CODE,
    MATCH_L4_SRC_PORT_RANGE, MATCH_L4_DST_PORT_RANGE, "TUNNEL_VNI".toList,
    "INNER_ETHER_TYPE".toList, "INNER_IP_PROTOCOL".toList, "INNER_L4_SRC_PORT".toList,
    "INNER_L4_DST_PORT".toList]

def ACTION_PACKET_ACTION : Text := "PACKET_ACTION".toList
def ACTION_REDIRECT_ACTION : Text := "REDIRECT_ACTION".toList
def ACTION_MIRROR_ACTION : Text := "MIRROR_ACTION".toList
def ACTION_MIRROR_INGRESS_ACTION : Text := "MIRROR_INGRESS_ACTION".toList
def ACTION_MIRROR_EGRESS_ACTION : Text := "MIRROR_EGRESS_ACTION".toList
def ACTION_DTEL_FLOW_OP : Text := "FLOW_OP".toList
def ACTION_DTEL_INT_SESSION : Text := "INT_SESSION".toList
def ACTION_DTEL_FLOW_SAMPLE_PERCENT : Text := "FLOW_SAMPLE_PERCENT".toList
def PACKET_ACTION_REDIRECT : Text := "REDIRECT".toList
def DTEL_FLOW_OP_INT : Text := "INT".toList

/-- The keys of the lookups of actions. -/
def aclL3ActionLookup : List Text := [ACTION_PACKET_ACTION, ACTION_REDIRECT_ACTION]
def aclMirrorStageLookup : List Text := [ACTION_MIRROR_INGRESS_ACTION, ACTION_MIRROR_EGRESS_ACTION]
def dropWatchListActions : List Text :=
  ["DROP_REPORT_ENABLE".toList, "TAIL_DROP_REPORT_ENABLE".toList, "REPORT_ALL_PACKETS".toList]
def aclDTelActionLookup : List Text :=
  ACTION_DTEL_FLOW_OP :: ACTION_DTEL_INT_SESSION :: ACTION_DTEL_FLOW_SAMPLE_PERCENT ::
    dropWatchListActions
def aclPacketActionLookup : List Text := ["FORWARD".toList, "DROP".toList]
def aclDTelFlowOpTypeLookup : List Text :=
  ["NOP".toList, "POSTCARD".toList, DTEL_FLOW_OP_INT, "IOAM".toList]

/-! ### Rules that are being made -/

/-- A rule that is being made, and the references that were taken for it. -/
structure Draft where
  rule : AclRule
  nextHops : List NextHopKey
  groups : List NextHopGroupKey

/-- The constructor of a rule. -/
def AclRule.new (ruleClass : RuleClass) (type : acl_table_type_t) : AclRule :=
  { ruleClass := ruleClass
    m_tableType := type
    m_createCounter := true
    m_ruleOid := SAI_NULL_OBJECT_ID
    m_counterOid := SAI_NULL_OBJECT_ID
    m_matches := ∅
    m_actions := ∅
    m_redirect_target_next_hop := []
    m_redirect_target_next_hop_group := []
    m_state := false
    m_sessionName := []
    INT_enabled := false
    INT_session_valid := false
    m_intSessionId := [] }

local instance lawfulBEqText : LawfulBEq Text := inferInstance

/-- The attribute is an action. -/
def isAction (attr_name : Text) : Bool :=
  attr_name ∈ aclL3ActionLookup ∨ attr_name ∈ aclMirrorStageLookup ∨
    attr_name = ACTION_MIRROR_ACTION ∨ attr_name ∈ aclDTelActionLookup

/-- The class of the rules of a table with an action. -/
def ruleClassOf (env : Env) (type : acl_table_type_t) (action : Text) : Option RuleClass :=
  if type ∈ [.ACL_TABLE_UNKNOWN, .ACL_TABLE_PFCWD, .ACL_TABLE_CTRLPLANE] then none
  else if action ∈ aclMirrorStageLookup ∨ action = ACTION_MIRROR_ACTION then some .AclRuleMirror
  else
    match type with
    | .ACL_TABLE_L3 => some .AclRuleL3
    | .ACL_TABLE_L3V6 => some .AclRuleL3V6
    | .ACL_TABLE_DTEL_FLOW_WATCHLIST =>
      if env.m_dTelOrch then some .AclRuleDTelFlowWatchListEntry else none
    | .ACL_TABLE_DTEL_DROP_WATCHLIST =>
      if env.m_dTelOrch then some .AclRuleDTelDropWatchListEntry else none
    | _ => none

/-- `AclRule::makeShared`: by the first action.  It throws without one, and for an action
that does not fit the table. -/
def makeShared (env : Env) (type : acl_table_type_t) (attrs : List (Text × Text)) : Option AclRule :=
  ((attrs.map fun attr => to_upper attr.1).find? isAction).bind fun action =>
    (ruleClassOf env type action).map fun ruleClass => AclRule.new ruleClass type

/-! ### Matches -/

/-- `AclRule::validateAddMatch`. -/
def AclRule.validateAddMatch (env : Env) (r : AclRule) (attr_name attr_value : Text) :
    AclRule × Bool :=
  if attr_name ∉ aclMatchLookup then (r, false)
  else if attr_name = MATCH_L4_SRC_PORT_RANGE ∨ attr_name = MATCH_L4_DST_PORT_RANGE then
    match env.parseRange attr_value with
    | none => (r, false)
    | some (min, max) =>
      if 65535 < min ∨ 65535 < max ∨ max < min then (r, false)
      else ({ r with m_matches := r.m_matches.insert attr_name (.range min max) }, true)
  else if env.validMatch attr_name attr_value then
    ({ r with m_matches := r.m_matches.insert attr_name (.value attr_value) }, true)
  else (r, false)

/-- The matches that a class of rules does not take, in a table of a type. -/
def unsupportedMatch (r : AclRule) (attr_name : Text) : Bool :=
  match r.ruleClass with
  | .AclRuleL3 =>
    attr_name ∈
      [MATCH_DSCP, MATCH_SRC_IPV6, MATCH_DST_IPV6, MATCH_ICMPV6_TYPE, MATCH_ICMPV6_CODE]
  | .AclRuleL3V6 =>
    attr_name ∈ [MATCH_DSCP, MATCH_SRC_IP, MATCH_DST_IP, MATCH_ICMP_TYPE, MATCH_ICMP_CODE]
  | .AclRuleMirror =>
    match r.m_tableType with
    | .ACL_TABLE_L3 | .ACL_TABLE_L3V6 => attr_name = MATCH_DSCP
    | .ACL_TABLE_MIRROR_DSCP => attr_name ∈ aclMatchLookup ∧ attr_name ≠ MATCH_DSCP
    | .ACL_TABLE_MIRROR =>
      attr_name ∈ [MATCH_SRC_IPV6, MATCH_DST_IPV6, MATCH_ICMPV6_TYPE, MATCH_ICMPV6_CODE]
    | .ACL_TABLE_MIRRORV6 =>
      attr_name ∈
        [MATCH_SRC_IP, MATCH_DST_IP, MATCH_ICMP_TYPE, MATCH_ICMP_CODE, MATCH_ETHER_TYPE]
    | _ => false
  | _ => false

/-- `validateAddMatch` of a rule of any class. -/
def validateAddMatch (env : Env) (r : AclRule) (attr_name attr_value : Text) : AclRule × Bool :=
  if unsupportedMatch r attr_name then (r, false)
  else r.validateAddMatch env attr_name attr_value

/-! ### Actions -/

/-- An action of a rule, and `AclRule::validateAddAction`: all its actions are supported. -/
def Draft.addAction (env : Env) (table_id : Text) (d : Draft) (action : Text) (param : ActionParam) :
    Draft × Bool :=
  ({ d with rule := { d.rule with m_actions := d.rule.m_actions.insert action param } },
    (d.rule.m_actions.insert action param).entries.all fun e =>
      env.isActionSupported table_id e.1 e.2)

/-- `getRedirectObjectId`: a port, else a next hop, else a group of next hops.  In a text
that is too short there is no colon. -/
def Draft.getRedirectObjectId (env : Env) (getRouterIntfsAlias : RouterIntfsAlias) (d : Draft)
    (redirect_value : Text) : Draft × sai_object_id_t :=
  if redirect_value[PACKET_ACTION_REDIRECT.length]? ≠ some ':' then (d, SAI_NULL_OBJECT_ID)
  else if PACKET_ACTION_REDIRECT.length + 1 = redirect_value.length then (d, SAI_NULL_OBJECT_ID)
  else
    let target := redirect_value.drop (PACKET_ACTION_REDIRECT.length + 1)
    match env.getPort target with
    | some (some id) => (d, id)
    | some none => (d, SAI_NULL_OBJECT_ID)
    | none =>
      match NextHopKey.ofString getRouterIntfsAlias target with
      | some nh =>
        if !env.hasNextHop nh then (d, SAI_NULL_OBJECT_ID)
        else
          ({ d with
            rule := { d.rule with m_redirect_target_next_hop := target }
            nextHops := d.nextHops ++ [nh] }, env.getNextHopId nh)
      | none =>
        match NextHopGroupKey.ofString getRouterIntfsAlias target with
        | none => (d, SAI_NULL_OBJECT_ID)
        | some nhg =>
          if !env.ensureNextHopGroup nhg then (d, SAI_NULL_OBJECT_ID)
          else
            ({ d with
              rule := { d.rule with m_redirect_target_next_hop_group := target }
              groups := d.groups ++ [nhg] }, env.getNextHopGroupId nhg)

/-- A redirect, whose target has to have an id. -/
def Draft.addRedirect (env : Env) (getRouterIntfsAlias : RouterIntfsAlias) (table_id : Text)
    (d : Draft) (attr_value : Text) : Draft × Bool :=
  match d.getRedirectObjectId env getRouterIntfsAlias attr_value with
  | (d', param_id) =>
    if param_id = SAI_NULL_OBJECT_ID then (d', false)
    else d'.addAction env table_id ACTION_REDIRECT_ACTION (.oid param_id)

/-- `AclRuleL3::validateAddAction`.  A redirect may also be a packet action. -/
def Draft.addActionL3 (env : Env) (getRouterIntfsAlias : RouterIntfsAlias) (table_id : Text)
    (d : Draft) (attr_name attr_value : Text) : Draft × Bool :=
  if attr_name = ACTION_PACKET_ACTION then
    if to_upper attr_value ∈ aclPacketActionLookup then
      d.addAction env table_id ACTION_PACKET_ACTION (.value (to_upper attr_value))
    else if PACKET_ACTION_REDIRECT <:+: to_upper attr_value then
      d.addRedirect env getRouterIntfsAlias table_id attr_value
    else (d, false)
  else if attr_name = ACTION_REDIRECT_ACTION then
    d.addRedirect env getRouterIntfsAlias table_id attr_value
  else (d, false)

/-- `AclRuleMirror::validateAddAction`. -/
def Draft.addActionMirror (env : Env) (sessionExists : Text → Bool) (table_id : Text) (d : Draft)
    (attr_name attr_value : Text) : Draft × Bool :=
  if attr_name ∉ aclMirrorStageLookup ∧ attr_name ≠ ACTION_MIRROR_ACTION then (d, false)
  else
    let d' := { d with rule := { d.rule with m_sessionName := attr_value } }
    if !sessionExists attr_value then (d', false)
    else if attr_name = ACTION_MIRROR_ACTION then
      d'.addAction env table_id ACTION_MIRROR_INGRESS_ACTION .session
    else d'.addAction env table_id attr_name .session

/-- `AclRuleDTelFlowWatchListEntry::validateAddAction`, which throws for a percentage that
is not one. -/
def Draft.addActionFlowWatchList (env : Env) (table_id : Text) (d : Draft)
    (attr_name attr_value : Text) : Option (Draft × Bool) :=
  if attr_name ∉ aclDTelActionLookup then some (d, false)
  else if attr_name = ACTION_DTEL_FLOW_OP then
    if to_upper attr_value ∉ aclDTelFlowOpTypeLookup then some (d, false)
    else
      some ({ d with
        rule := { d.rule with INT_enabled := to_upper attr_value = DTEL_FLOW_OP_INT } }.addAction
          env table_id attr_name (.value (to_upper attr_value)))
  else if attr_name = ACTION_DTEL_INT_SESSION then
    match env.getINTSessionOid (to_upper attr_value) with
    | some session_oid =>
      some ({ d with
        rule := { d.rule with
          m_intSessionId := to_upper attr_value
          INT_session_valid := true } }.addAction env table_id attr_name (.oid session_oid))
    | none =>
      some ({ d with
        rule := { d.rule with
          m_intSessionId := to_upper attr_value
          INT_session_valid := false } }.addAction env table_id attr_name (.value []))
  else if attr_name = ACTION_DTEL_FLOW_SAMPLE_PERCENT ∧ !env.validSamplePercent attr_value then none
  else some (d.addAction env table_id attr_name (.value (to_upper attr_value)))

/-- `AclRuleDTelDropWatchListEntry::validateAddAction`. -/
def Draft.addActionDropWatchList (env : Env) (table_id : Text) (d : Draft)
    (attr_name attr_value : Text) : Draft × Bool :=
  if attr_name ∉ dropWatchListActions then (d, false)
  else d.addAction env table_id attr_name (.value (to_upper attr_value))

/-! ### Tasks -/

namespace St

def sessionExists (s : St) (name : Text) : Bool := (s.m_syncdMirrors.lookup name).isSome

/-- `validateAddAction` of a rule of any class. -/
def validateAddAction (env : Env) (s : St) (table_id : Text) (d : Draft)
    (attr_name attr_value : Text) : Option (Draft × Bool) :=
  match d.rule.ruleClass with
  | .AclRuleL3 | .AclRuleL3V6 =>
    some (d.addActionL3 env s.getRouterIntfsAlias table_id attr_name attr_value)
  | .AclRuleMirror => some (d.addActionMirror env s.sessionExists table_id attr_name attr_value)
  | .AclRuleDTelFlowWatchListEntry => d.addActionFlowWatchList env table_id attr_name attr_value
  | .AclRuleDTelDropWatchListEntry =>
    some (d.addActionDropWatchList env table_id attr_name attr_value)

/-- One attribute: a priority, else a match, else an action. -/
def validateAttr (env : Env) (s : St) (table_id : Text) (d : Draft) (attr_name attr_value : Text) :
    Option (Draft × Bool) :=
  if attr_name = RULE_PRIORITY ∧ env.validPriority attr_value then some (d, true)
  else
    match validateAddMatch env d.rule attr_name attr_value with
    | (r, true) => some ({ d with rule := r }, true)
    | (r, false) => s.validateAddAction env table_id { d with rule := r } attr_name attr_value

/-- The attributes up to the first that is not valid. -/
def validateAttrs (env : Env) (s : St) (table_id : Text) :
    List (Text × Text) → Draft → Option (Draft × Bool)
  | [], d => some (d, true)
  | (field, value) :: attrs, d =>
    (s.validateAttr env table_id d (to_upper field) value).bind fun x =>
      if x.2 then validateAttrs env s table_id attrs x.1 else some x

end St

/-- `validate` of a rule of any class. -/
def AclRule.validate (r : AclRule) : Bool :=
  match r.ruleClass with
  | .AclRuleL3 | .AclRuleL3V6 => r.m_matches.entries ≠ [] ∧ r.m_actions.entries.length = 1
  | .AclRuleMirror => r.m_matches.entries ≠ [] ∧ r.m_sessionName ≠ []
  | .AclRuleDTelFlowWatchListEntry | .AclRuleDTelDropWatchListEntry =>
    r.m_matches.entries ≠ [] ∧ r.m_actions.entries ≠ []

inductive AclRuleTask where
  | SET (attrs : List (Text × Text))
  | DEL

namespace St

/-- The type of a table, for the rules in it. -/
def ruleTableType (s : St) (table_id : Text) : acl_table_type_t → acl_table_type_t
  | .ACL_TABLE_MIRROR | .ACL_TABLE_MIRRORV6 =>
    if table_id = s.m_mirrorTableId then .ACL_TABLE_MIRROR else .ACL_TABLE_MIRRORV6
  | type => type

/-- The rule that the attributes make, with the references that were taken for it, and
whether it is valid. -/
def draftRule (env : Env) (s : St) (table_id : Text) (type : acl_table_type_t)
    (attrs : List (Text × Text)) : Option (Draft × Bool) :=
  (makeShared env (s.ruleTableType table_id type) attrs).bind fun r =>
    (s.validateAttrs env table_id attrs ⟨r, [], []⟩).map fun x => (x.1, x.2 && x.1.rule.validate)

/-- The references of a draft. -/
def takeRefs (s : St) (d : Draft) : St :=
  { s with
    nextHopRefs := fun nh => s.nextHopRefs nh + d.nextHops.count nh
    groupRefs := fun nhg => s.groupRefs nhg + d.groups.count nhg }

/-- The rule of a task that is made: it is added if it is valid.  The task is done unless
the rule is valid and cannot be added. -/
def addDraft (env : Env) (sai : Sai) (key : RuleKey) (s : St) (d : Draft) (valid : Bool) :
    Option (St × Bool) :=
  if valid then (s.takeRefs d).addRule env sai key d.rule else some (s.takeRefs d, true)

/-- A task of `doAclRuleTask`, with the result that it is done.  Others are left for a
retry. -/
def doAclRuleTask (env : Env) (sai : Sai) (key : RuleKey) (s : St) : AclRuleTask → Option (St × Bool)
  | .SET attrs =>
    match s.m_AclTables.lookup key.1 with
    | none | some .ACL_TABLE_UNKNOWN => some (s, key.1 ∈ s.m_ctrlAclTables)
    | some type =>
      (s.draftRule env key.1 type attrs).bind fun x => s.addDraft env sai key x.1 x.2
  | .DEL =>
    if s.m_AclTables.lookup key.1 = none then some (s, true) else s.delRule env sai key

/-! ### Mirror sessions -/

/-- `AclRuleMirror::update` of a stored rule; other rules do nothing. -/
def updateRule (env : Env) (sai : Sai) (name : Text) (active : Bool) (s : St) (key : RuleKey) :
    Option St :=
  match s.rules.lookup key with
  | none => some s
  | some r =>
    if r.ruleClass ≠ .AclRuleMirror ∨ r.m_sessionName ≠ name then some s
    else if active then (s.createMirrorRule env sai key r).map fun x => x.1.storeRule key x.2.1
    else (s.removeMirrorRule sai key r).map fun x => x.1.storeRule key x.2.1

/-- `AclOrch::update`: all rules are told. -/
def updateRules (env : Env) (sai : Sai) (name : Text) (active : Bool) :
    List RuleKey → St → Option St
  | [], s => some s
  | key :: keys, s => (s.updateRule env sai name active key).bind (updateRules env sai name active keys)

def setSession (s : St) (name : Text) (session : MirrorEntry) : St :=
  { s with m_syncdMirrors := s.m_syncdMirrors.insert name session }

/-- `activateSession` when the session is made in the ASIC.  It asserts that the session is
not active. -/
def activateSession (env : Env) (sai : Sai) (s : St) (name : Text) : Option St :=
  match s.m_syncdMirrors.lookup name with
  | none => none
  | some session =>
    if session.status then none
    else
      updateRules env sai name true s.rules.keys (s.setSession name ⟨true, session.refCount⟩)

/-- The end of `deactivateSession`. -/
def setInactive (s : St) (name : Text) : St :=
  match s.m_syncdMirrors.lookup name with
  | none => s
  | some session => s.setSession name ⟨false, session.refCount⟩

/-- `deactivateSession` when the session is removed from the ASIC. -/
def deactivateSession (env : Env) (sai : Sai) (s : St) (name : Text) : Option St :=
  match s.m_syncdMirrors.lookup name with
  | none => none
  | some session =>
    if !session.status then none
    else (updateRules env sai name false s.rules.keys s).map fun s' => s'.setInactive name

/-- `MirrorOrch::createEntry` with attributes that are valid. -/
def createSession (s : St) (name : Text) : St :=
  if s.sessionExists name then s else s.setSession name ⟨false, 0⟩

end St

inductive task_process_status where
  | task_success | task_invalid_entry | task_need_retry
  deriving DecidableEq

/-- `MirrorOrch::deleteEntry`. -/
def St.deleteSession (env : Env) (sai : Sai) (s : St) (name : Text) :
    Option (St × task_process_status) :=
  match s.m_syncdMirrors.lookup name with
  | none => some (s, .task_invalid_entry)
  | some session =>
    if session.refCount ≠ 0 then some (s, .task_need_retry)
    else
      (if session.status then s.deactivateSession env sai name else some s).map fun s' =>
        ({ s' with m_syncdMirrors := s'.m_syncdMirrors.erase name }, .task_success)

end Orchagent.Acl
