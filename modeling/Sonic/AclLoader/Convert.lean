/-
AclLoader/Convert.lean

`acl_loader`: from the rules of a file to the rows of ACL_RULE.

`convert_rules` goes through the rule sets of the file, skips those of unknown tables and of
tables other than the current one, and collects a row for every rule that can be converted; a
table that is not for mirroring gets the default deny rule as well.  A rule that fails with
`AclLoaderException` is skipped, any other exception ends the conversion, before anything is
written.  The priority of a rule is the maximum less its sequence id (`convertRule_priority`).
-/
import Sonic.Swsssdk.ModConfig

namespace Swsssdk

/-! ### Dicts that are built -/

variable {K V : Type*} [DecidableEq K] {d : Dict K V} {k k' : K} {v v' : V}

/-- The empty dict. -/
def Dict.empty : Dict K V := ⟨[], List.nodup_nil⟩

/-- `d[k] = v`; the order of a dict is none of its insertions. -/
def Dict.set (d : Dict K V) (k : K) (v : V) : Dict K V where
  items := d.items.filter (fun p => p.1 ≠ k) ++ [(k, v)]
  nodup := by
    rw [List.map_append, List.nodup_append']
    refine ⟨(List.filter_sublist.map _).nodup d.nodup, List.nodup_singleton _, ?_⟩
    intro k' hk' hk
    obtain ⟨p, hp, rfl⟩ := List.mem_map.mp hk'
    have hne := of_decide_eq_true (List.mem_filter.mp hp).2
    exact hne (List.mem_singleton.mp hk)

/-- `d.get(k)`. -/
def Dict.get? (d : Dict K V) (k : K) : Option V := (d.items.find? fun p => p.1 = k).map Prod.snd

/-- Set the items of another dict. -/
def Dict.update (d : Dict K V) (src : List (K × V)) : Dict K V :=
  src.foldl (fun d p => d.set p.1 p.2) d

theorem Dict.mem_set_iff :
    (k', v') ∈ (d.set k v).items ↔ (k' = k ∧ v' = v) ∨ (k' ≠ k ∧ (k', v') ∈ d.items) := by
  show (k', v') ∈ d.items.filter (fun p => p.1 ≠ k) ++ [(k, v)] ↔ _
  rw [List.mem_append, List.mem_filter, List.mem_singleton, Prod.mk.injEq, decide_eq_true_iff]
  tauto

theorem Dict.get?_eq_some_iff : d.get? k = some v ↔ (k, v) ∈ d.items := by
  rw [Dict.get?, Option.map_eq_some_iff]
  constructor
  · rintro ⟨p, hfind, rfl⟩
    have hkey : p.1 = k := by simpa using List.find?_some hfind
    rw [← hkey]
    exact List.mem_of_find?_eq_some hfind
  · intro hmem
    cases hfind : d.items.find? fun p => p.1 = k with
    | none =>
      have := List.find?_eq_none.mp hfind (k, v) hmem
      simp at this
    | some p =>
      have hkey : p.1 = k := by simpa using List.find?_some hfind
      refine ⟨p, rfl, ?_⟩
      have hp := List.mem_of_find?_eq_some hfind
      rw [show p = (k, p.2) from Prod.ext hkey rfl] at hp
      exact d.eq_of_mem hp hmem

omit [DecidableEq K] in
theorem Dict.not_mem_empty : (k, v) ∉ (Dict.empty : Dict K V).items := List.not_mem_nil

/-- What an update leaves comes from the dict or from the update. -/
theorem Dict.mem_of_mem_update {src : List (K × V)} (h : (k, v) ∈ (d.update src).items) :
    (k, v) ∈ d.items ∨ (k, v) ∈ src := by
  induction src generalizing d with
  | nil => exact .inl h
  | cons p src ih =>
    rcases ih h with h | h
    · rcases Dict.mem_set_iff.mp h with ⟨rfl, rfl⟩ | ⟨-, h⟩
      · exact .inr List.mem_cons_self
      · exact .inl h
    · exact .inr (List.mem_cons_of_mem _ h)

/-- A key that the update does not have keeps its value. -/
theorem Dict.mem_update_of_not_mem {src : List (K × V)} (hk : ∀ p ∈ src, p.1 ≠ k) :
    (k, v) ∈ (d.update src).items ↔ (k, v) ∈ d.items := by
  induction src generalizing d with
  | nil => exact Iff.rfl
  | cons p src ih =>
    obtain ⟨hp, hsrc⟩ := List.forall_mem_cons.mp hk
    rw [Dict.update, List.foldl_cons]
    show (k, v) ∈ ((d.set p.1 p.2).update src).items ↔ _
    rw [ih hsrc, Dict.mem_set_iff]
    constructor
    · rintro (⟨hkp, -⟩ | ⟨-, h⟩)
      · exact absurd hkp.symm hp
      · exact h
    · exact fun h => .inr ⟨hp.symm, h⟩

end Swsssdk

namespace SonicUtilities

open Redis PyText Swsssdk
open Std (ExtTreeMap)

/-! ### Data -/

/-- What is raised. -/
inductive PyError where
  | keyError | indexError | typeError | valueError | attributeError | unicodeError
  | aclLoaderException (message : String)
  /-- A reply of the database. -/
  | response
  deriving DecidableEq

/-- The value of a property of a rule. -/
inductive PropValue where
  | str (value : String)
  | int (value : ℤ)
  deriving DecidableEq

/-- `str(value)`. -/
def PropValue.text : PropValue → String
  | .str value => value
  | .int value => toString value

/-- The properties of a rule. -/
abbrev RuleProps := Dict String PropValue

/-- A rule of the file; what is not given is empty or zero. -/
structure AclEntry where
  sequence_id : ℕ
  forwarding_action : String
  ethertype : String
  protocol : String
  source_ip_address : String
  destination_ip_address : String
  dscp : ℕ
  source_port : String
  destination_port : String
  tcp_flags : List String
  interface : String

/-- A rule set of the file, with its rules by name. -/
structure AclSet where
  name : String
  acl_entry : List (String × AclEntry)

structure AclLoader where
  tables_db_info : TableData
  rules_db_info : TableData
  /-- The names in `sessions_db_info`, in some order. -/
  sessions : List String
  requested_session : Option String
  mirror_stage : Option String
  current_table : Option String
  max_priority : ℤ
  /-- `SWITCH_CAPABILITY|switch` of the state database. -/
  capability : Option (Dict String String)
  /-- `ipaddr.IPNetwork(text).version`, if it is an address. -/
  ipVersion : String → Option ℕ

def ACL_TABLE : String := "ACL_TABLE"
def ACL_RULE : String := "ACL_RULE"
def ACL_TABLE_TYPE_MIRROR : String := "MIRROR"
def ACL_TABLE_TYPE_CTRLPLANE : String := "CTRLPLANE"
def SESSION_PREFIX : String := "everflow"

def min_priority : ℤ := 1

def ethertype_map : List (String × ℤ) :=
  [("ETHERTYPE_LLDP", 0x88CC), ("ETHERTYPE_VLAN", 0x8100), ("ETHERTYPE_ROCE", 0x8915),
    ("ETHERTYPE_ARP", 0x0806), ("ETHERTYPE_IPV4", 0x0800), ("ETHERTYPE_IPV6", 0x86DD),
    ("ETHERTYPE_MPLS", 0x8847)]

def ip_protocol_map : List (String × ℤ) :=
  [("IP_TCP", 6), ("IP_ICMP", 1), ("IP_UDP", 17), ("IP_IGMP", 2), ("IP_PIM", 103),
    ("IP_RSVP", 46), ("IP_GRE", 47), ("IP_AUTH", 51), ("IP_L2TP", 115)]

/-- `int(text)`: blanks around, a sign, and digits. -/
def pyInt (text : String) : Option ℤ :=
  let blank := fun c : Char => c ∈ [' ', '\t', '\n', '\r', '\x0b', '\x0c']
  let digits := fun (cs : List Char) =>
    if cs = [] ∨ ¬ cs.all Char.isDigit then none
    else some (cs.foldl (fun n c => 10 * n + (c.toNat - '0'.toNat)) 0)
  match ((text.toList.dropWhile blank).reverse.dropWhile blank).reverse with
  | '-' :: cs => (digits cs).map fun n => -(n : ℤ)
  | '+' :: cs => (digits cs).map fun n => (n : ℤ)
  | cs => (digits cs).map fun n => (n : ℤ)

namespace AclLoader

variable (L : AclLoader)

/-! ### Tables -/

/-- `is_table_valid`. -/
def isTableValid (tname : String) : Bool :=
  match L.tables_db_info[Key.str tname]? with
  | none => false
  | some row => row ≠ ∅

/-- `tables_db_info[tname]['type'].upper()`. -/
def tableType (tname : String) : Except PyError String :=
  match L.tables_db_info[Key.str tname]? with
  | none => .error .keyError
  | some row =>
    match row["type"]? with
    | none => .error .keyError
    | some (.list _) => .error .attributeError
    | some (.str type) => .ok (upper type)

/-- `is_table_mirror`. -/
def isTableMirror (tname : String) : Except PyError Bool := do
  let type ← L.tableType tname
  .ok (ACL_TABLE_TYPE_MIRROR.toList.isPrefixOf type.toList)

/-- `is_table_control_plane`. -/
def isTableControlPlane (tname : String) : Except PyError Bool := do
  let type ← L.tableType tname
  .ok (type = ACL_TABLE_TYPE_CTRLPLANE)

/-- `get_session_name`. -/
def getSessionName : Option String :=
  match L.requested_session with
  | some name => some name
  | none => L.sessions.find? fun key => SESSION_PREFIX.toList.isPrefixOf key.toList

/-! ### The parts of a rule -/

/-- The action is one that the switch can do: a turn of the loop of `validate_actions` that
keeps it. -/
def actionSupported (capability : Dict String String) (stage : String) (action : String × String) :
    Bool :=
  match capability.get? ("ACL_ACTIONS|" ++ upper stage) with
  | none => false
  | some values =>
    if upper action.1 ∉ split ',' values then false
    else if action.1 = "PACKET_ACTION" then
      match capability.get? ("ACL_ACTION|" ++ upper action.1) with
      | none => false
      | some supported => action.2.toList <:+: supported.toList
    else true

/-- `validate_actions`. -/
def validateActions (table_name : String) (action_props : List (String × String)) :
    Except PyError Bool := do
  if ← L.isTableControlPlane table_name then
    .ok true
  else
    match L.tables_db_info[Key.str table_name]? with
    | none => .error (.aclLoaderException ("Table " ++ table_name ++ " does not exist"))
    | some row =>
      let stage ← match row["stage"]? with
        | none => .ok "INGRESS"
        | some (.str stage) => .ok stage
        | some (.list _) => .error .attributeError
      match L.capability with
      | none => if action_props = [] then .ok true else .error .typeError
      | some capability => .ok (action_props.all (actionSupported capability stage))

/-- The action that `convert_action` puts for the forwarding action of a rule. -/
def forwardingProps (table_name : String) (rule_idx : ℕ) (rule : AclEntry) :
    Except PyError (List (String × String)) :=
  if rule.forwarding_action = "ACCEPT" then do
    if ← L.isTableControlPlane table_name then
      .ok [("PACKET_ACTION", "ACCEPT")]
    else if ← L.isTableMirror table_name then
      match L.getSessionName with
      | none | some "" => .error (.aclLoaderException "Mirroring session does not exist")
      | some session_name =>
        if L.mirror_stage = some "INGRESS" then
          .ok [("MIRROR_INGRESS_ACTION", session_name)]
        else if L.mirror_stage = some "EGRESS" then
          .ok [("MIRROR_EGRESS_ACTION", session_name)]
        else .error (.aclLoaderException
          ("Invalid mirror stage passed " ++ L.mirror_stage.getD "None"))
    else .ok [("PACKET_ACTION", "FORWARD")]
  else if rule.forwarding_action = "DROP" ∨ rule.forwarding_action = "REJECT" then
    .ok [("PACKET_ACTION", "DROP")]
  else .error (.aclLoaderException ("Unknown rule action " ++ rule.forwarding_action ++
    " in table " ++ table_name ++ ", rule " ++ toString rule_idx))

/-- `convert_action`. -/
def convertAction (table_name : String) (rule_idx : ℕ) (rule : AclEntry) :
    Except PyError (List (String × PropValue)) := do
  let props ← L.forwardingProps table_name rule_idx rule
  let valid ← L.validateActions table_name props
  if valid then
    .ok (props.map fun p => (p.1, .str p.2))
  else .error (.aclLoaderException ("Rule action " ++ rule.forwarding_action ++
    " is not supported in table " ++ table_name ++ ", rule " ++ toString rule_idx))

/-- `convert_l2`. -/
def convertL2 (table_name : String) (rule_idx : ℕ) (rule : AclEntry) :
    Except PyError (List (String × PropValue)) :=
  if rule.ethertype = "" then .ok []
  else match ethertype_map.lookup rule.ethertype with
    | some number => .ok [("ETHER_TYPE", .int number)]
    | none =>
      match pyInt rule.ethertype with
      | some number => .ok [("ETHER_TYPE", .int number)]
      | none => .error (.aclLoaderException ("Failed to convert ethertype " ++ rule.ethertype ++
          " table " ++ table_name ++ " rule " ++ toString rule_idx))

/-- The name of an address property, by the version of the address. -/
def convertAddress (v4 v6 address : String) : Except PyError (List (String × PropValue)) :=
  if address = "" then .ok []
  else if ¬ address.toList.all (·.toNat < 128) then .error .unicodeError
  else match L.ipVersion address with
    | none => .error .valueError
    | some version => .ok [(if version = 4 then v4 else v6, .str address)]

/-- The protocol that `convert_ip` puts. -/
def convertProtocol (table_name : String) (rule_idx : ℕ) (rule : AclEntry) :
    Except PyError (List (String × PropValue)) :=
  if rule.protocol = "" then .ok []
  else match ip_protocol_map.lookup rule.protocol with
    | some number => .ok [("IP_PROTOCOL", .int number)]
    | none =>
      match pyInt rule.protocol with
      | some _ => .ok [("IP_PROTOCOL", .str rule.protocol)]
      | none => .error (.aclLoaderException ("Unknown rule protocol " ++ rule.protocol ++
          " in table " ++ table_name ++ ", rule " ++ toString rule_idx ++ "!"))

/-- `convert_ip`. -/
def convertIp (table_name : String) (rule_idx : ℕ) (rule : AclEntry) :
    Except PyError (List (String × PropValue)) := do
  let protocol ← convertProtocol table_name rule_idx rule
  let source ← L.convertAddress "SRC_IP" "SRC_IPV6" rule.source_ip_address
  let destination ← L.convertAddress "DST_IP" "DST_IPV6" rule.destination_ip_address
  let mirror ← L.isTableMirror table_name
  .ok (protocol ++ source ++ destination ++
    if mirror ∧ rule.dscp ≠ 0 then [("DSCP", .int rule.dscp)] else [])

/-- Replace `..` by `-`. -/
def replaceDots : List Char → List Char
  | '.' :: '.' :: cs => '-' :: replaceDots cs
  | c :: cs => c :: replaceDots cs
  | [] => []

/-- `convert_port`, and the property that the port is put under. -/
def convertPort (single range port : String) : List (String × PropValue) :=
  if port = "" then []
  else if ['.', '.'] <:+: port.toList then
    [(range, .str (String.ofList (replaceDots port.toList)))]
  else [(single, .str port)]

def tcpFlag : String → ℕ
  | "TCP_FIN" => 0x01
  | "TCP_SYN" => 0x02
  | "TCP_RST" => 0x04
  | "TCP_PSH" => 0x08
  | "TCP_ACK" => 0x10
  | "TCP_URG" => 0x20
  | "TCP_ECE" => 0x40
  | "TCP_CWR" => 0x80
  | _ => 0

/-- `'0x{:02x}/0x{:02x}'.format(flags, flags)`. -/
def flagsText (flags : ℕ) : String :=
  let hex := (if flags < 16 then "0" else "") ++ String.ofList (Nat.toDigits 16 flags)
  "0x" ++ hex ++ "/0x" ++ hex

/-- `convert_transport`. -/
def convertTransport (rule : AclEntry) : List (String × PropValue) :=
  let flags := rule.tcp_flags.foldl (fun flags flag => flags ||| tcpFlag flag) 0
  convertPort "L4_SRC_PORT" "L4_SRC_PORT_RANGE" rule.source_port ++
    convertPort "L4_DST_PORT" "L4_DST_PORT_RANGE" rule.destination_port ++
    if flags = 0 then [] else [("TCP_FLAGS", .str (flagsText flags))]

/-- `convert_input_interface`. -/
def convertInputInterface (rule : AclEntry) : List (String × PropValue) :=
  if rule.interface = "" then [] else [("IN_PORTS", .str rule.interface)]

/-! ### Rules -/

/-- The key of a rule. -/
def ruleKey (table_name : String) (rule_idx : ℕ) : Key :=
  .tuple table_name ("RULE_" ++ toString rule_idx) []

/-- The key of the default deny rule. -/
def defaultKey (table_name : String) : Key := .tuple table_name "DEFAULT_RULE" []

/-- `convert_rule_to_db_schema`: the properties, under `ruleKey`. -/
def convertRuleToDbSchema (table_name : String) (rule : AclEntry) : Except PyError RuleProps := do
  let rule_idx := rule.sequence_id
  let rule_props := Dict.empty.set "PRIORITY" (.str (toString (L.max_priority - (rule_idx : ℤ))))
  let action ← L.convertAction table_name rule_idx rule
  let l2 ← convertL2 table_name rule_idx rule
  let ip ← L.convertIp table_name rule_idx rule
  .ok (((((rule_props.update action).update l2).update ip).update (convertTransport rule)).update
    (convertInputInterface rule))

/-- `deny_rule`. -/
def denyRule : RuleProps :=
  ((Dict.empty.set "PRIORITY" (.str (toString min_priority))).set "ETHER_TYPE"
    (.str (toString (0x0800 : ℤ)))).set "PACKET_ACTION" (.str "DROP")

/-- The converted rules. -/
abbrev Rules := Dict Key RuleProps

/-- `deep_update` of the rules by one rule. -/
def addRule (rules : Rules) (key : Key) (props : RuleProps) : Rules :=
  rules.set key (((rules.get? key).getD Dict.empty).update props.items)

/-- One turn of the loop over the entries. -/
def convertEntry (table_name : String) (rules : Rules) (entry : String × AclEntry) :
    Except PyError Rules :=
  match L.convertRuleToDbSchema table_name entry.2 with
  | .ok props => .ok (addRule rules (ruleKey table_name entry.2.sequence_id) props)
  -- the rule is skipped
  | .error (.aclLoaderException _) => .ok rules
  | .error e => .error e

/-- The name of the table of a rule set. -/
def tableName (acl_set_name : String) : Except PyError String :=
  let name := upper (String.ofList (acl_set_name.toList.map
    fun c => if c = ' ' ∨ c = '-' then '_' else c))
  if name.toList.all (·.toNat < 128) then .ok name else .error .unicodeError

/-- One turn of the loop over the rule sets. -/
def convertSet (rules : Rules) (acl_set : AclSet) : Except PyError Rules := do
  let table_name ← tableName acl_set.name
  if ¬ L.isTableValid table_name then
    .ok rules
  else if L.current_table.isSome ∧ L.current_table ≠ some table_name then
    .ok rules
  else
    let rules ← acl_set.acl_entry.foldlM (L.convertEntry table_name) rules
    if ← L.isTableMirror table_name then
      .ok rules
    else .ok (addRule rules (defaultKey table_name) denyRule)

/-- `convert_rules`. -/
def convertRules (acl_sets : List AclSet) : Except PyError Rules :=
  acl_sets.foldlM L.convertSet Dict.empty

end AclLoader

end SonicUtilities
