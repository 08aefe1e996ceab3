/-
Orchagent/CrmOrch.lean

The counters of the resources that are in use (`CrmOrch`).

The used counter of a resource is counted up and down by the orchs, the available one is read
from the ASIC, and `checkCrmThresholds` makes a percentage of the two.  All of it is in 32
bits: a counter at zero is counted down to the greatest number, the product and the sum of the
percentage wrap, and the sum can wrap to the divisor zero.
-/
import Sonic.Lib.FieldMap

namespace Orchagent.Crm

open Std (ExtTreeMap)

/-! ### The state -/

inductive CrmResourceType
  | CRM_IPV4_ROUTE | CRM_IPV6_ROUTE | CRM_IPV4_NEXTHOP | CRM_IPV6_NEXTHOP
  | CRM_IPV4_NEIGHBOR | CRM_IPV6_NEIGHBOR | CRM_NEXTHOP_GROUP_MEMBER | CRM_NEXTHOP_GROUP
  | CRM_ACL_TABLE | CRM_ACL_GROUP | CRM_ACL_ENTRY | CRM_ACL_COUNTER | CRM_FDB_ENTRY
deriving DecidableEq

inductive CrmThresholdType
  | CRM_PERCENTAGE | CRM_USED | CRM_FREE
deriving DecidableEq

open CrmResourceType CrmThresholdType

/-- The keys of `m_resourcesMap`, in their order. -/
def resources : List CrmResourceType :=
  [CRM_IPV4_ROUTE, CRM_IPV6_ROUTE, CRM_IPV4_NEXTHOP, CRM_IPV6_NEXTHOP, CRM_IPV4_NEIGHBOR,
    CRM_IPV6_NEIGHBOR, CRM_NEXTHOP_GROUP_MEMBER, CRM_NEXTHOP_GROUP, CRM_ACL_TABLE, CRM_ACL_GROUP,
    CRM_ACL_ENTRY, CRM_ACL_COUNTER, CRM_FDB_ENTRY]

def crmResTypeNameMap : CrmResourceType → String
  | CRM_IPV4_ROUTE => "IPV4_ROUTE"
  | CRM_IPV6_ROUTE => "IPV6_ROUTE"
  | CRM_IPV4_NEXTHOP => "IPV4_NEXTHOP"
  | CRM_IPV6_NEXTHOP => "IPV6_NEXTHOP"
  | CRM_IPV4_NEIGHBOR => "IPV4_NEIGHBOR"
  | CRM_IPV6_NEIGHBOR => "IPV6_NEIGHBOR"
  | CRM_NEXTHOP_GROUP_MEMBER => "NEXTHOP_GROUP_MEMBER"
  | CRM_NEXTHOP_GROUP => "NEXTHOP_GROUP"
  | CRM_ACL_TABLE => "ACL_TABLE"
  | CRM_ACL_GROUP => "ACL_GROUP"
  | CRM_ACL_ENTRY => "ACL_ENTRY"
  | CRM_ACL_COUNTER => "ACL_COUNTER"
  | CRM_FDB_ENTRY => "FDB_ENTRY"

structure CrmResourceCounter where
  id : UInt64
  availableCounter : UInt32
  usedCounter : UInt32
deriving DecidableEq

/-- A counter that `operator[]` makes. -/
def CrmResourceCounter.fresh : CrmResourceCounter := ⟨0, 0, 0⟩

structure CrmResourceEntry where
  name : String
  thresholdType : CrmThresholdType
  lowThreshold : UInt32
  highThreshold : UInt32
  countersMap : ExtTreeMap String CrmResourceCounter
  exceededLogCounter : UInt32

/-- `m_resourcesMap`, which has an entry for each resource from the start. -/
abbrev CrmOrch := CrmResourceType → CrmResourceEntry

def CRM_COUNTERS_TABLE_KEY : String := "STATS"

def CRM_EXCEEDED_MSG_MAX : UInt32 := 10

/-- The constructor `CrmOrch::CrmOrch`. -/
def CrmOrch.initial : CrmOrch := fun resource =>
  ⟨crmResTypeNameMap resource, CRM_PERCENTAGE, 70, 85, ∅, 0⟩

inductive sai_acl_stage_t
  | INGRESS | EGRESS | other
deriving DecidableEq

inductive sai_acl_bind_point_type_t
  | PORT | LAG | VLAN | ROUTER_INTERFACE | SWITCH | other
deriving DecidableEq

/-- The part of `getCrmAclKey` for the bind point. -/
def bindPointName : sai_acl_bind_point_type_t → Option String
  | .PORT => some ":PORT"
  | .LAG => some ":LAG"
  | .VLAN => some ":VLAN"
  | .ROUTER_INTERFACE => some ":RIF"
  | .SWITCH => some ":SWITCH"
  | .other => none

/-- The part of `getCrmAclKey` for the stage. -/
def stageName : sai_acl_stage_t → Option String
  | .INGRESS => some ":INGRESS"
  | .EGRESS => some ":EGRESS"
  | .other => none

def getCrmAclKey (stage : sai_acl_stage_t) (bindPoint : sai_acl_bind_point_type_t) : String :=
  match stageName stage, bindPointName bindPoint with
  | some s, some b => "ACL_STATS" ++ s ++ b
  | _, _ => ""

def getCrmAclTableKey (id : UInt64) : String :=
  "ACL_TABLE_STATS:0x" ++ String.ofList (Nat.toDigits 16 id.toNat)

/-! ### Counting -/

namespace CrmOrch

/-- Change a counter of a resource; `countersMap[key]` makes it first. -/
def modify (o : CrmOrch) (resource : CrmResourceType) (key : String)
    (f : CrmResourceCounter → CrmResourceCounter) : CrmOrch :=
  Function.update o resource
    { o resource with
      countersMap := (o resource).countersMap.insert key
        (f ((o resource).countersMap[key]?.getD .fresh)) }

/-- `usedCounter++` -/
def inc (c : CrmResourceCounter) : CrmResourceCounter :=
  { c with usedCounter := c.usedCounter + 1 }

/-- `usedCounter--` -/
def dec (c : CrmResourceCounter) : CrmResourceCounter :=
  { c with usedCounter := c.usedCounter - 1 }

def incCrmResUsedCounter (o : CrmOrch) (resource : CrmResourceType) : CrmOrch :=
  o.modify resource CRM_COUNTERS_TABLE_KEY inc

def decCrmResUsedCounter (o : CrmOrch) (resource : CrmResourceType) : CrmOrch :=
  o.modify resource CRM_COUNTERS_TABLE_KEY dec

def incCrmAclUsedCounter (o : CrmOrch) (resource : CrmResourceType) (stage : sai_acl_stage_t)
    (point : sai_acl_bind_point_type_t) : CrmOrch :=
  o.modify resource (getCrmAclKey stage point) inc

/-- The first counter of the table, in the order of the keys. -/
def keyOf (counters : ExtTreeMap String CrmResourceCounter) (oid : UInt64) : Option String :=
  (counters.toList.find? fun it => it.2.id = oid).map Prod.fst

/-- The loop of `decCrmAclUsedCounter`: erase the counters of an ACL table. -/
def eraseTable (o : CrmOrch) (oid : UInt64) : CrmOrch := fun resource =>
  if resource = CRM_ACL_ENTRY ∨ resource = CRM_ACL_COUNTER then
    match keyOf (o resource).countersMap oid with
    | none => o resource
    | some key => { o resource with countersMap := (o resource).countersMap.erase key }
  else o resource

def decCrmAclUsedCounter (o : CrmOrch) (resource : CrmResourceType) (stage : sai_acl_stage_t)
    (point : sai_acl_bind_point_type_t) (oid : UInt64) : CrmOrch :=
  let o := o.modify resource (getCrmAclKey stage point) dec
  if resource = CRM_ACL_TABLE then o.eraseTable oid else o

def incCrmAclTableUsedCounter (o : CrmOrch) (resource : CrmResourceType) (tableId : UInt64) :
    CrmOrch :=
  (o.modify resource (getCrmAclTableKey tableId) inc).modify resource (getCrmAclTableKey tableId)
    fun c => { c with id := tableId }

def decCrmAclTableUsedCounter (o : CrmOrch) (resource : CrmResourceType) (tableId : UInt64) :
    CrmOrch :=
  o.modify resource (getCrmAclTableKey tableId) dec

/-! ### Polling the ASIC -/

/-- The answers of the ASIC; `none` is a failure. -/
structure Answers where
  /-- the available entries of a resource of the switch -/
  switch : CrmResourceType → Option UInt32
  /-- the available ACL tables or groups -/
  acl : CrmResourceType →
    Option (List (sai_acl_stage_t × sai_acl_bind_point_type_t × UInt32))
  /-- the available entries or counters of an ACL table -/
  table : CrmResourceType → UInt64 → Option UInt32

/-- The loop over the counters of the ACL tables, which ends at the first failure. -/
def pollTables (answer : UInt64 → Option UInt32) :
    List (String × CrmResourceCounter) → ExtTreeMap String CrmResourceCounter →
      ExtTreeMap String CrmResourceCounter
  | [], counters => counters
  | (key, cnt) :: rest, counters =>
    match answer cnt.id with
    | none => counters
    | some u32 => pollTables answer rest (counters.insert key { cnt with availableCounter := u32 })

/-- The turn of a resource in `getResAvailableCounters`. -/
def pollResource (o : CrmOrch) (answers : Answers) (resource : CrmResourceType) : CrmOrch :=
  match resource with
  | CRM_ACL_TABLE | CRM_ACL_GROUP =>
    match answers.acl resource with
    | none => o
    | some list => list.foldl (fun o r => o.modify resource (getCrmAclKey r.1 r.2.1)
        fun c => { c with availableCounter := r.2.2 }) o
  | CRM_ACL_ENTRY | CRM_ACL_COUNTER =>
    Function.update o resource
      { o resource with
        countersMap := pollTables (answers.table resource) (o resource).countersMap.toList
          (o resource).countersMap }
  | _ =>
    match answers.switch resource with
    | none => o
    | some u32 => o.modify resource CRM_COUNTERS_TABLE_KEY
        fun c => { c with availableCounter := u32 }

def getResAvailableCounters (o : CrmOrch) (answers : Answers) : CrmOrch :=
  resources.foldl (fun o resource => o.pollResource answers resource) o

/-! ### The thresholds -/

/-- The division by zero. -/
inductive Crash
  | dividedByZero
deriving DecidableEq

/-- `percentageUtil`: the product and the sum are of 32 bits. -/
def percentageUtil (cnt : CrmResourceCounter) : Except Crash UInt32 :=
  if cnt.usedCounter ≠ 0 then
    if cnt.usedCounter + cnt.availableCounter = 0 then .error .dividedByZero
    else .ok ((cnt.usedCounter * 100) / (cnt.usedCounter + cnt.availableCounter))
  else .ok 0

/-- What is compared with the thresholds, and its name in the log. -/
def utilization (type : CrmThresholdType) (cnt : CrmResourceCounter) (percentageUtil : UInt32) :
    UInt32 × String :=
  match type with
  | CRM_PERCENTAGE => (percentageUtil, "TH_PERCENTAGE")
  | CRM_USED => (cnt.usedCounter, "TH_USED")
  | CRM_FREE => (cnt.availableCounter, "TH_FREE")

/-- A warning in the log. -/
structure Warning where
  name : String
  exceeded : Bool
  threshType : String
  percentageUtil : UInt32
  usedCounter : UInt32
  availableCounter : UInt32
deriving DecidableEq

/-- The turn of a counter in `checkCrmThresholds`: the entry of its resource, and the log. -/
def checkCounter (p : CrmResourceEntry × List Warning) (cnt : CrmResourceCounter) :
    Except Crash (CrmResourceEntry × List Warning) := do
  let (res, log) := p
  let percent ← percentageUtil cnt
  let (util, threshType) := utilization res.thresholdType cnt percent
  if res.highThreshold ≤ util ∧ res.exceededLogCounter < CRM_EXCEEDED_MSG_MAX then
    return ({ res with exceededLogCounter := res.exceededLogCounter + 1 },
      log ++ [⟨res.name, true, threshType, percent, cnt.usedCounter, cnt.availableCounter⟩])
  else if util ≤ res.lowThreshold ∧ 0 < res.exceededLogCounter then
    return ({ res with exceededLogCounter := 0 },
      log ++ [⟨res.name, false, threshType, percent, cnt.usedCounter, cnt.availableCounter⟩])
  else return (res, log)

/-- The turn of a resource in `checkCrmThresholds`. -/
def checkResource (p : CrmOrch × List Warning) (resource : CrmResourceType) :
    Except Crash (CrmOrch × List Warning) := do
  let counters := (p.1 resource).countersMap.toList.map Prod.snd
  let (res, log) ← counters.foldlM checkCounter (p.1 resource, p.2)
  return (Function.update p.1 resource res, log)

def checkCrmThresholds (o : CrmOrch) : Except Crash (CrmOrch × List Warning) :=
  resources.foldlM checkResource (o, [])

end CrmOrch

end Orchagent.Crm
