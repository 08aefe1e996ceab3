/-
Orchagent/AclTables.lean

ACL tables and their names: `AclOrch::doAclTableTask`, `addAclTable`, `removeAclTable` and
`getTableById`.

There is one mirror table for IPv4 and one for IPv6.  On some platforms the two are one
table of the ASIC: the table that comes second is a sibling, which is a name only, and
`getTableById` finds the table by the other name.  The names are kept in two variables
that adding and removing either table set and clear.

What the names are to resolve to is said by the tables that are configured (`Config`): a
name is configured by a SET that succeeds, until it is removed or set again, and siblings
are removed together.  On every run a name resolves exactly if it is configured
(`names_resolve`).
-/
import Sonic.Lib.Transition
import Sonic.Common.Tokenize
import Sonic.Orchagent.AclTask

namespace Orchagent.AclTables

open Acl (Text acl_table_type_t to_upper)
open Transition (Run Guarded)

/-! ### The data -/

inductive acl_stage_type_t where
  | ACL_STAGE_UNKNOWN | ACL_STAGE_INGRESS | ACL_STAGE_EGRESS
  deriving DecidableEq

structure AclTable where
  id : Text
  description : Text
  type : acl_table_type_t
  stage : acl_stage_type_t
  portSet : List Text
  pendingPortSet : List Text

/-- What is read of the platform. -/
structure Platform where
  m_isCombinedMirrorV6Table : Bool
  m_mirrorTableCapabilities : acl_table_type_t → Bool

/-- What is read of the ports while a task is handled, and whether the calls of SAI
succeed. -/
structure Env where
  getPort : Text → Bool
  getAclBindPortId : Text → Bool
  /-- the rules of a table are removed -/
  clear : Bool
  /-- a table is unbound from its ports, and removed -/
  unbind : Bool
  remove_acl_table : Bool
  /-- a table is created, with an id, and bound to its ports -/
  create_acl_table : Option sai_object_id_t
  bind : Bool

structure St where
  m_AclTables : Table sai_object_id_t AclTable
  m_ctrlAclTables : Table Text AclTable
  m_mirrorTableId : Text
  m_mirrorV6TableId : Text

/-! ### The handlers -/

variable (P : Platform) (env : Env)

/-- `getTableById`, with a stack of some depth; where it is exceeded there is no result.
Of several tables with one id the first is found, in some order. -/
def getTableById : ℕ → St → Text → Option sai_object_id_t
  | 0, _, _ => none
  | stack + 1, s, table_id =>
    match s.m_AclTables.entries.find? fun it => it.2.id = table_id with
    | some it => some it.1
    | none =>
      if P.m_isCombinedMirrorV6Table ∧
          (table_id = s.m_mirrorTableId ∨ table_id = s.m_mirrorV6TableId) then
        -- the sibling is looked up
        if table_id = s.m_mirrorTableId then getTableById stack s s.m_mirrorV6TableId
        else getTableById stack s s.m_mirrorTableId
      else some SAI_NULL_OBJECT_ID

variable (stack : ℕ)

/-- `deleteUnbindAclTable`. -/
def Env.deletes : Bool := env.unbind && env.remove_acl_table

/-- Clear the information about mirror tables. -/
def clearMirror (s : St) (table_id : Text) : St :=
  if table_id = s.m_mirrorTableId then
    { s with
      m_mirrorTableId := []
      m_mirrorV6TableId := if P.m_isCombinedMirrorV6Table then [] else s.m_mirrorV6TableId }
  else if table_id = s.m_mirrorV6TableId then
    { s with
      m_mirrorTableId := if P.m_isCombinedMirrorV6Table then [] else s.m_mirrorTableId
      m_mirrorV6TableId := [] }
  else s

/-- `removeAclTable`. -/
def removeAclTable (s : St) (table_id : Text) : Option (St × Bool) :=
  (getTableById P stack s table_id).map fun table_oid =>
    if table_oid = SAI_NULL_OBJECT_ID then (s, true)
    else if ¬ env.clear then (s, false)
    else if env.deletes then
      (clearMirror P { s with m_AclTables := s.m_AclTables.erase table_oid } table_id, true)
    else (s, false)

/-- A mirror table of the type has been created. -/
def mirrorCreated (s : St) (type : acl_table_type_t) : Bool :=
  type = .ACL_TABLE_MIRROR ∧ s.m_mirrorTableId ≠ [] ∨
    type = .ACL_TABLE_MIRRORV6 ∧ s.m_mirrorV6TableId ≠ []

/-- The types of mirror tables that are one table where they are combined. -/
def isMirror (type : acl_table_type_t) : Bool :=
  type = .ACL_TABLE_MIRROR ∨ type = .ACL_TABLE_MIRRORV6

/-- The part of `addAclTable` that creates a table, or a sibling of one. -/
def createTable (s : St) (newTable : AclTable) (table_id : Text) : St × Bool :=
  if isMirror newTable.type ∧ P.m_isCombinedMirrorV6Table ∧
      (s.m_mirrorTableId ≠ [] ∨ s.m_mirrorV6TableId ≠ []) then
    if s.m_mirrorTableId ≠ [] then ({ s with m_mirrorV6TableId := newTable.id }, true)
    else ({ s with m_mirrorTableId := newTable.id }, true)
  else
    match env.create_acl_table with
    | none => (s, false)
    | some table_oid =>
      if ¬ env.bind then (s, false)
      else
        let s := { s with m_AclTables := s.m_AclTables.insert table_oid newTable }
        if newTable.type = .ACL_TABLE_MIRROR then ({ s with m_mirrorTableId := table_id }, true)
        else if newTable.type = .ACL_TABLE_MIRRORV6 then
          ({ s with m_mirrorV6TableId := table_id }, true)
        else (s, true)

/-- `addAclTable`. -/
def addAclTable (s : St) (newTable : AclTable) (table_id : Text) : Option (St × Bool) :=
  if newTable.type = .ACL_TABLE_CTRLPLANE then
    -- `emplace` keeps a table that is there
    some (if (s.m_ctrlAclTables.lookup table_id).isSome then s
      else { s with m_ctrlAclTables := s.m_ctrlAclTables.insert table_id newTable }, true)
  else
    (getTableById P stack s table_id).bind fun table_oid =>
      if table_oid ≠ SAI_NULL_OBJECT_ID then
        (removeAclTable P env stack s table_id).map fun removed =>
          if ¬ removed.2 then (removed.1, false)
          else createTable P env removed.1 newTable table_id
      else if mirrorCreated s newTable.type then some (s, false)
      else some (createTable P env s newTable table_id)

/-- `validate`. -/
def AclTable.validate (table : AclTable) : Bool :=
  if table.type = .ACL_TABLE_CTRLPLANE then true
  else if table.type = .ACL_TABLE_UNKNOWN ∨ table.stage = .ACL_STAGE_UNKNOWN then false
  else ¬ (table.portSet = [] ∧ table.pendingPortSet = [])

/-! ### The fields of a task -/

def TABLE_DESCRIPTION : Text := "POLICY_DESC".toList
def TABLE_TYPE : Text := "TYPE".toList
def TABLE_PORTS : Text := "PORTS".toList
def TABLE_STAGE : Text := "STAGE".toList
def TABLE_SERVICES : Text := "SERVICES".toList

/-- `aclTableTypeLookUp`. -/
def aclTableTypeLookUp : List (Text × acl_table_type_t) :=
  [("L3".toList, .ACL_TABLE_L3), ("L3V6".toList, .ACL_TABLE_L3V6),
    ("MIRROR".toList, .ACL_TABLE_MIRROR), ("MIRRORV6".toList, .ACL_TABLE_MIRRORV6),
    ("MIRROR_DSCP".toList, .ACL_TABLE_MIRROR_DSCP), ("CTRLPLANE".toList, .ACL_TABLE_CTRLPLANE),
    ("DTEL_FLOW_WATCHLIST".toList, .ACL_TABLE_DTEL_FLOW_WATCHLIST),
    ("DTEL_DROP_WATCHLIST".toList, .ACL_TABLE_DTEL_DROP_WATCHLIST)]

/-- `aclStageLookUp`. -/
def aclStageLookUp : List (Text × acl_stage_type_t) :=
  [("INGRESS".toList, .ACL_STAGE_INGRESS), ("EGRESS".toList, .ACL_STAGE_EGRESS)]

/-- `processAclTableType`. -/
def processAclTableType (type : Text) : Option acl_table_type_t :=
  ((aclTableTypeLookUp.find? fun e => e.1 = to_upper type).map (·.2)).filter fun table_type =>
    !(isMirror table_type && !P.m_mirrorTableCapabilities table_type)

/-- `processAclTablePorts`, of ports that are different. -/
def processAclTablePorts (portList : Text) (table : AclTable) : Option AclTable :=
  let ports := (Swss.tokenize (String.ofList portList) ',').map String.toList
  if ports = [] then none
  else some { table with
    portSet := table.portSet ++ ports.filter fun p => env.getPort p && env.getAclBindPortId p
    pendingPortSet := table.pendingPortSet ++ ports.filter fun p => !env.getPort p }

/-- `processAclTableStage`. -/
def processAclTableStage (stage : Text) : Option acl_stage_type_t :=
  (aclStageLookUp.find? fun e => e.1 = to_upper stage).map (·.2)

/-- A field of a SET. -/
def setField (table_id : Text) (newTable : AclTable) (field : Text × Text) : Option AclTable :=
  let newTable := { newTable with id := table_id }
  let attr_name := to_upper field.1
  if attr_name = TABLE_DESCRIPTION then some { newTable with description := field.2 }
  else if attr_name = TABLE_TYPE then
    (processAclTableType P field.2).map fun type => { newTable with type := type }
  else if attr_name = TABLE_PORTS then processAclTablePorts env field.2 newTable
  else if attr_name = TABLE_STAGE then
    (processAclTableStage field.2).map fun stage => { newTable with stage := stage }
  else if attr_name = TABLE_SERVICES then some newTable
  else none

/-- The table that a SET asks for, if its fields are valid. -/
def newTable (table_id : Text) (fields : List (Text × Text)) : Option AclTable :=
  (fields.foldlM (setField P env table_id)
    ⟨[], [], .ACL_TABLE_UNKNOWN, .ACL_STAGE_INGRESS, [], []⟩).filter AclTable.validate

/-- A task. -/
inductive Task where
  | set (key : Text) (fields : List (Text × Text))
  | del (key : Text)

/-- The table in a key: what is before the first separator. -/
def tableId (key : Text) : Text := key.takeWhile (· ≠ '|')

def Task.table_id : Task → Text
  | .set key _ => tableId key
  | .del key => tableId key

/-- A task in `doAclTableTask`, with what becomes of it: it is kept where that is `false`. -/
def doAclTableTask (s : St) : Task → Option (St × Bool)
  | .set key fields =>
    match newTable P env (tableId key) fields with
    | none => some (s, true)
    | some newTable => addAclTable P env stack s newTable (tableId key)
  | .del key => removeAclTable P env stack s (tableId key)

variable {P env stack} {s s' : St} {n : Text} {oid : sai_object_id_t} {T : AclTable} {ok : Bool}

theorem setField_id {table_id : Text} {T₀ : AclTable} {field : Text × Text}
    (h : setField P env table_id T₀ field = some T) : T.id = table_id := by
  simp only [setField] at h
  split_ifs at h with _ _ hports
  · cases h
    rfl
  · obtain ⟨_, -, rfl⟩ := Option.map_eq_some_iff.mp h
    rfl
  · rw [processAclTablePorts] at h
    split at h
    · cases h
    · cases h
      rfl
  · obtain ⟨_, -, rfl⟩ := Option.map_eq_some_iff.mp h
    rfl
  · cases h
    rfl

/-- The table that a SET asks for has the name in its key: a table of no fields, which
would have no name, has no type. -/
theorem newTable_id {table_id : Text} {fields : List (Text × Text)}
    (h : newTable P env table_id fields = some T) : T.id = table_id ∧ T.validate = true := by
  have hfold : ∀ (fields : List (Text × Text)) (T₀ T₁ : AclTable),
      fields.foldlM (setField P env table_id) T₀ = some T₁ →
      (fields = [] ∧ T₁ = T₀) ∨ T₁.id = table_id := by
    intro fields
    induction fields with
    | nil => exact fun T₀ T₁ h₁ => .inl ⟨rfl, (Option.some.inj h₁).symm⟩
    | cons field fields ih =>
      intro T₀ T₁ h₁
      rw [List.foldlM_cons] at h₁
      obtain ⟨T₂, h₂, h₃⟩ := Option.bind_eq_some_iff.mp h₁
      rcases ih T₂ T₁ h₃ with ⟨-, rfl⟩ | hT₁
      · exact .inr (setField_id h₂)
      · exact .inr hT₁
  obtain ⟨hT, hvalid⟩ := Option.filter_eq_some_iff.mp h
  rcases hfold _ _ _ hT with ⟨-, rfl⟩ | hid
  · cases hvalid
  · exact ⟨hid, hvalid⟩

/-! ### The tables that are configured -/

/-- The tables of the ASIC that are configured, with their types. -/
abbrev Config := Table Text acl_table_type_t

/-- The mirror tables are taken out. -/
def Config.dropMirrors (c : Config) : Config :=
  ⟨c.entries.filter fun e => !isMirror e.2,
    c.nodupKeys.sublist (List.filter_sublist)⟩

/-- A table is removed; where the mirror tables are combined, both of them are. -/
def Config.release (P : Platform) (c : Config) (n : Text) : Config :=
  if P.m_isCombinedMirrorV6Table ∧ (c.lookup n).any isMirror then c.dropMirrors else c.erase n

/-- A table that is there is removed before it is set again, if the calls for that
succeed. -/
def Config.vacate (P : Platform) (env : Env) (c : Config) (n : Text) : Config :=
  if (c.lookup n).isSome ∧ env.clear ∧ env.deletes then c.release P n else c

/-- A table is set, if the task succeeds.  A control plane table is no table of the ASIC. -/
def Config.set (P : Platform) (env : Env) (c : Config) (T : AclTable) (n : Text) (ok : Bool) :
    Config :=
  if T.type = .ACL_TABLE_CTRLPLANE then c
  else if ok then (c.vacate P env n).insert n T.type
  else c.vacate P env n

/-- What is configured after a task. -/
def Config.after (P : Platform) (env : Env) (c : Config) (ok : Bool) : Task → Config
  | .set key fields =>
    match newTable P env (tableId key) fields with
    | none => c
    | some T => c.set P env T (tableId key) ok
  | .del key => if ok then c.release P (tableId key) else c

theorem lookup_dropMirrors {c : Config} {t : acl_table_type_t} :
    c.dropMirrors.lookup n = some t ↔ c.lookup n = some t ∧ isMirror t = false := by
  have hmem : (⟨n, t⟩ : Sigma fun _ : Text => acl_table_type_t) ∈ c.dropMirrors.entries ↔
      ⟨n, t⟩ ∈ c.entries ∧ isMirror t = false := by
    show _ ∈ c.entries.filter _ ↔ _
    rw [List.mem_filter, Bool.not_eq_true']
  rw [Table.mem_entries, Table.mem_entries] at hmem
  exact hmem

/-! ### What the names are kept for -/

/-- The name is one of the pair of mirror tables. -/
def St.IsPair (s : St) (n : Text) : Prop := n = s.m_mirrorTableId ∨ n = s.m_mirrorV6TableId

/-- The tables and names against the configuration.  Where the mirror tables are combined
the pair of names is that of the mirror tables that are configured, and one of them is the
id of the only mirror table that there is. -/
structure Named (P : Platform) (s : St) (c : Config) : Prop where
  table : ∀ {oid T}, s.m_AclTables.lookup oid = some T →
    oid ≠ SAI_NULL_OBJECT_ID ∧ c.lookup T.id = some T.type
  unique : ∀ {oid T oid' T'}, s.m_AclTables.lookup oid = some T →
    s.m_AclTables.lookup oid' = some T' → T.id = T'.id → oid = oid'
  nonempty : c.lookup [] = none
  configured : ∀ {n t}, c.lookup n = some t →
    (P.m_isCombinedMirrorV6Table = true → isMirror t = false) →
    ∃ oid T, s.m_AclTables.lookup oid = some T ∧ T.id = n
  pair : P.m_isCombinedMirrorV6Table = true → ∀ {n}, n ≠ [] →
    (s.IsPair n ↔ ∃ t, isMirror t = true ∧ c.lookup n = some t)
  shared : P.m_isCombinedMirrorV6Table = true → ∀ {n}, n ≠ [] → s.IsPair n →
    ∃ oid T, s.m_AclTables.lookup oid = some T ∧ s.IsPair T.id
  only : P.m_isCombinedMirrorV6Table = true → ∀ {oid T oid' T'},
    s.m_AclTables.lookup oid = some T → s.m_AclTables.lookup oid' = some T' →
    isMirror T.type = true → isMirror T'.type = true → oid = oid'
  distinct : P.m_isCombinedMirrorV6Table = true →
    s.m_mirrorTableId = s.m_mirrorV6TableId → s.m_mirrorTableId = []

/-- A name resolves to the null id if it is not configured, and to a table otherwise: that
of its id, or of the other name of the pair. -/
inductive Resolved (P : Platform) (s : St) (c : Config) (n : Text) (oid : sai_object_id_t) : Prop
  | null (hconf : c.lookup n = none) (hoid : oid = SAI_NULL_OBJECT_ID)
  | table (hconf : (c.lookup n).isSome) {T : AclTable} (hoid : s.m_AclTables.lookup oid = some T)
      (hid : T.id = n ∨ P.m_isCombinedMirrorV6Table = true ∧ s.IsPair n ∧ s.IsPair T.id)

section Lookup

variable {c : Config} (hs : Named P s c)

include hs

theorem Named.id_ne_nil {oid} {T : AclTable} (h : s.m_AclTables.lookup oid = some T) :
    T.id ≠ [] := by
  intro hnil
  have hconf := (hs.table h).2
  rw [hnil, hs.nonempty] at hconf
  cases hconf

/-- A name of a table is found at once. -/
theorem Named.getTableById_table (h : s.m_AclTables.lookup oid = some T) (stack : ℕ) :
    getTableById P (stack + 1) s T.id = some oid := by
  have hmem : (⟨oid, T⟩ : Sigma fun _ => AclTable) ∈ s.m_AclTables.entries :=
    Table.mem_entries.mpr h
  unfold getTableById
  split
  · next it hfind =>
      have hit := List.mem_of_find?_eq_some hfind
      have hid : it.2.id = T.id := by simpa using List.find?_some hfind
      rw [hs.unique (Table.mem_entries.mp hit) h hid]
  · next hfind =>
      have hne := List.find?_eq_none.mp hfind _ hmem
      simp at hne

/-- **A name resolves**, within two calls. -/
theorem Named.resolves (hn : n ≠ []) (stack : ℕ) :
    ∃ oid, getTableById P (stack + 2) s n = some oid ∧ Resolved P s c n oid := by
  by_cases hreal : ∃ oid T, s.m_AclTables.lookup oid = some T ∧ T.id = n
  · obtain ⟨oid, T, hT, rfl⟩ := hreal
    refine ⟨oid, hs.getTableById_table hT (stack + 1), .table ?_ hT (.inl rfl)⟩
    rw [(hs.table hT).2]
    rfl
  · push Not at hreal
    have hfind : (s.m_AclTables.entries.find? fun it => it.2.id = n) = none := by
      refine List.find?_eq_none.mpr fun it hit hid => ?_
      exact hreal it.1 it.2 (Table.mem_entries.mp hit) (by simpa using hid)
    rw [getTableById, hfind]
    by_cases hpair : P.m_isCombinedMirrorV6Table = true ∧ s.IsPair n
    · -- one of the pair is a table, and it is the other one
      obtain ⟨hcombined, hn'⟩ := hpair
      obtain ⟨t, -, hconf⟩ := (hs.pair hcombined hn).mp hn'
      have hsome : (c.lookup n).isSome := by rw [hconf]; rfl
      obtain ⟨oid, T, hT, hTpair⟩ := hs.shared hcombined hn hn'
      have hother : n = s.m_mirrorTableId ∧ T.id = s.m_mirrorV6TableId ∨
          n ≠ s.m_mirrorTableId ∧ T.id = s.m_mirrorTableId := by
        have hne := hreal oid T hT
        rcases hn' with h₁ | h₁ <;> rcases hTpair with h₂ | h₂
        · exact absurd (h₂.trans h₁.symm) hne
        · exact .inl ⟨h₁, h₂⟩
        · exact .inr ⟨fun h => hne (h₂.trans h.symm), h₂⟩
        · exact absurd (h₂.trans h₁.symm) hne
      refine ⟨oid, ?_, .table hsome hT (.inr ⟨hcombined, hn', hTpair⟩)⟩
      have htable := hs.getTableById_table hT stack
      simp only
      rw [if_pos ⟨hcombined, hn'⟩]
      rcases hother with ⟨h₁, h₂⟩ | ⟨h₁, h₂⟩
      · rw [if_pos h₁, ← h₂]
        exact htable
      · rw [if_neg h₁, ← h₂]
        exact htable
    · refine ⟨SAI_NULL_OBJECT_ID, ?_, .null ?_ rfl⟩
      · exact if_neg hpair
      · cases hconf : c.lookup n with
        | none => rfl
        | some t =>
          obtain ⟨oid, T, hT, hid⟩ := hs.configured hconf fun hcombined => by
            by_contra hmirror
            exact hpair ⟨hcombined, (hs.pair hcombined hn).mpr
              ⟨t, by simpa using hmirror, hconf⟩⟩
          exact absurd hid (hreal oid T hT)

/-- The names of the pair have mirror types, and so has a table of such a name. -/
theorem Named.isMirror_of_isPair (hcombined : P.m_isCombinedMirrorV6Table = true)
    (hT : s.m_AclTables.lookup oid = some T) (h : s.IsPair T.id) : isMirror T.type = true := by
  obtain ⟨t, ht, hconf⟩ := (hs.pair hcombined (hs.id_ne_nil hT)).mp h
  rw [(hs.table hT).2] at hconf
  cases hconf
  exact ht

end Lookup

/-! ### A table that is removed -/

@[simp] theorem clearMirror_m_AclTables : (clearMirror P s n).m_AclTables = s.m_AclTables := by
  unfold clearMirror
  split
  · rfl
  · split <;> rfl

/-- A name is kept or cleared. -/
theorem clearMirror_nil (h : s.m_mirrorTableId = [] ∨ s.m_mirrorV6TableId = []) :
    (clearMirror P s n).m_mirrorTableId = [] ∨ (clearMirror P s n).m_mirrorV6TableId = [] := by
  unfold clearMirror
  split
  · exact .inl rfl
  · split
    · exact .inr rfl
    · exact h

theorem clearMirror_of_not_isPair (h : ¬ s.IsPair n) : clearMirror P s n = s := by
  rw [clearMirror, if_neg fun h' => h (.inl h'), if_neg fun h' => h (.inr h')]

/-- Where the tables are combined, both names are cleared. -/
theorem clearMirror_of_isPair (hcombined : P.m_isCombinedMirrorV6Table = true) (h : s.IsPair n) :
    (clearMirror P s n).m_mirrorTableId = [] ∧ (clearMirror P s n).m_mirrorV6TableId = [] := by
  rw [clearMirror]
  split
  · exact ⟨rfl, rfl⟩
  · next h₁ =>
      rw [if_pos (h.resolve_left h₁)]
      exact ⟨rfl, rfl⟩

/-- What is left when a table is removed by a name. -/
def St.without (P : Platform) (s : St) (oid : sai_object_id_t) (n : Text) : St :=
  clearMirror P { s with m_AclTables := s.m_AclTables.erase oid } n

theorem without_m_AclTables : (s.without P oid n).m_AclTables = s.m_AclTables.erase oid :=
  clearMirror_m_AclTables

section Removed

variable {c : Config} (hs : Named P s c)

include hs

/-- The mirror tables of a combined platform are removed together. -/
theorem Named.dropMirrors (hcombined : P.m_isCombinedMirrorV6Table = true) (hn : s.IsPair n)
    (hT : s.m_AclTables.lookup oid = some T) (hmirror : isMirror T.type = true) :
    Named P (clearMirror P { s with m_AclTables := s.m_AclTables.erase oid } n) c.dropMirrors := by
  obtain ⟨h₁, h₂⟩ := clearMirror_of_isPair (s := { s with m_AclTables := s.m_AclTables.erase oid })
    hcombined hn
  have hlookup : ∀ {oid' T'}, (s.m_AclTables.erase oid).lookup oid' = some T' →
      oid' ≠ oid ∧ s.m_AclTables.lookup oid' = some T' := Table.lookup_erase_iff.mp
  have hpair : ∀ {n'}, n' ≠ [] →
      ¬ (clearMirror P { s with m_AclTables := s.m_AclTables.erase oid } n).IsPair n' := by
    intro n' hn' h
    rw [St.IsPair, h₁, h₂] at h
    exact hn' (h.elim id id)
  refine ⟨?_, ?_, ?_, ?_, ?_, ?_, ?_, fun _ _ => h₁⟩
  · intro oid' T' h
    rw [clearMirror_m_AclTables] at h
    obtain ⟨hne, h⟩ := hlookup h
    obtain ⟨hnull, hconf⟩ := hs.table h
    refine ⟨hnull, lookup_dropMirrors.mpr ⟨hconf, ?_⟩⟩
    by_contra hT'
    exact hne (hs.only hcombined h hT (by simpa using hT') hmirror)
  · intro oid' T' oid'' T'' h h' hid
    rw [clearMirror_m_AclTables] at h h'
    exact hs.unique (hlookup h).2 (hlookup h').2 hid
  · cases h : c.dropMirrors.lookup [] with
    | none => rfl
    | some t =>
      have hconf := (lookup_dropMirrors.mp h).1
      rw [hs.nonempty] at hconf
      cases hconf
  · intro n' t h _
    obtain ⟨hconf, ht⟩ := lookup_dropMirrors.mp h
    obtain ⟨oid', T', hT', rfl⟩ := hs.configured hconf fun _ => ht
    refine ⟨oid', T', ?_, rfl⟩
    rw [clearMirror_m_AclTables]
    show (s.m_AclTables.erase oid).lookup oid' = _
    rw [Table.lookup_erase_eq, if_neg]
    · exact hT'
    · rintro rfl
      -- a mirror table is not one that is kept
      rw [hT] at hT'
      cases hT'
      rw [(hs.table hT).2] at hconf
      cases hconf
      rw [hmirror] at ht
      cases ht
  · intro _ n' hn'
    refine ⟨fun h => absurd h (hpair hn'), ?_⟩
    rintro ⟨t, ht, h⟩
    rw [(lookup_dropMirrors.mp h).2] at ht
    cases ht
  · exact fun _ n' hn' h => absurd h (hpair hn')
  · intro _ oid' T' oid'' T'' h h' ht ht'
    rw [clearMirror_m_AclTables] at h h'
    exact hs.only hcombined (hlookup h).2 (hlookup h').2 ht ht'

/-- A table that is none of a pair is removed alone. -/
theorem Named.erase (hT : s.m_AclTables.lookup oid = some T)
    (hpair : P.m_isCombinedMirrorV6Table = true → ¬ s.IsPair T.id)
    {s' : St} (hmap : s'.m_AclTables = s.m_AclTables.erase oid)
    (hnames : P.m_isCombinedMirrorV6Table = true →
      s'.m_mirrorTableId = s.m_mirrorTableId ∧ s'.m_mirrorV6TableId = s.m_mirrorV6TableId) :
    Named P s' (c.erase T.id) := by
  have hlookup : ∀ {oid' T'}, s'.m_AclTables.lookup oid' = some T' ↔
      oid' ≠ oid ∧ s.m_AclTables.lookup oid' = some T' := by
    intro oid' T'
    rw [hmap]
    exact Table.lookup_erase_iff
  have hconf : ∀ {n' : Text} {t}, (c.erase T.id).lookup n' = some t ↔
      n' ≠ T.id ∧ c.lookup n' = some t := Table.lookup_erase_iff
  have hpairs : P.m_isCombinedMirrorV6Table = true → ∀ n', s'.IsPair n' ↔ s.IsPair n' := by
    intro hcombined n'
    obtain ⟨h₁, h₂⟩ := hnames hcombined
    rw [St.IsPair, St.IsPair, h₁, h₂]
  refine ⟨?_, ?_, ?_, ?_, ?_, ?_, ?_, ?_⟩
  · intro oid' T' h
    obtain ⟨hne, h⟩ := hlookup.mp h
    refine ⟨(hs.table h).1, hconf.mpr ⟨?_, (hs.table h).2⟩⟩
    exact fun hid => hne (hs.unique h hT hid)
  · intro oid' T' oid'' T'' h h' hid
    exact hs.unique (hlookup.mp h).2 (hlookup.mp h').2 hid
  · rw [Table.lookup_erase_eq, if_neg (hs.id_ne_nil hT).symm]
    exact hs.nonempty
  · intro n' t h ht
    obtain ⟨hne, h⟩ := hconf.mp h
    obtain ⟨oid', T', hT', rfl⟩ := hs.configured h ht
    refine ⟨oid', T', hlookup.mpr ⟨?_, hT'⟩, rfl⟩
    rintro rfl
    rw [hT] at hT'
    cases hT'
    exact hne rfl
  · intro hcombined n' hn'
    rw [hpairs hcombined, hs.pair hcombined hn']
    constructor
    · rintro ⟨t, ht, h⟩
      refine ⟨t, ht, hconf.mpr ⟨?_, h⟩⟩
      rintro rfl
      exact hpair hcombined ((hs.pair hcombined hn').mpr ⟨t, ht, h⟩)
    · rintro ⟨t, ht, h⟩
      exact ⟨t, ht, (hconf.mp h).2⟩
  · intro hcombined n' hn' h
    obtain ⟨oid', T', hT', hid⟩ := hs.shared hcombined hn' ((hpairs hcombined n').mp h)
    refine ⟨oid', T', hlookup.mpr ⟨?_, hT'⟩, (hpairs hcombined _).mpr hid⟩
    rintro rfl
    rw [hT] at hT'
    cases hT'
    exact hpair hcombined hid
  · intro hcombined oid' T' oid'' T'' h h' ht ht'
    exact hs.only hcombined (hlookup.mp h).2 (hlookup.mp h').2 ht ht'
  · intro hcombined h
    obtain ⟨h₁, h₂⟩ := hnames hcombined
    rw [h₁, h₂] at h
    rw [h₁]
    exact hs.distinct hcombined h

/-- The table that a name resolves to is removed, and the name with it. -/
theorem Named.release (hn : n ≠ []) (hconf : (c.lookup n).isSome)
    (hT : s.m_AclTables.lookup oid = some T)
    (hid : T.id = n ∨ P.m_isCombinedMirrorV6Table = true ∧ s.IsPair n ∧ s.IsPair T.id) :
    Named P (s.without P oid n) (c.release P n) := by
  obtain ⟨t, ht⟩ := Option.isSome_iff_exists.mp hconf
  unfold Config.release
  rw [ht, Option.any_some]
  split
  · next h =>
      obtain ⟨hcombined, hmirror⟩ := h
      have hpair : s.IsPair n := (hs.pair hcombined hn).mpr ⟨t, hmirror, ht⟩
      have hT' : s.IsPair T.id := by
        rcases hid with rfl | ⟨-, -, h⟩
        · exact hpair
        · exact h
      exact hs.dropMirrors hcombined hpair hT (hs.isMirror_of_isPair hcombined hT hT')
  · next h =>
      have hpair : P.m_isCombinedMirrorV6Table = true → ¬ s.IsPair n := by
        intro hcombined hpair
        obtain ⟨t', ht', hconf'⟩ := (hs.pair hcombined hn).mp hpair
        rw [ht] at hconf'
        cases hconf'
        exact h ⟨hcombined, ht'⟩
      obtain rfl : T.id = n := hid.resolve_right fun h' => hpair h'.1 h'.2.1
      refine hs.erase hT hpair clearMirror_m_AclTables fun hcombined => ?_
      rw [St.without, clearMirror_of_not_isPair (s := { s with m_AclTables := s.m_AclTables.erase oid })
        (hpair hcombined)]
      exact ⟨rfl, rfl⟩

end Removed

/-! ### A table that is added -/

section Added

variable {c : Config} (hs : Named P s c)

include hs

/-- A new table.  A mirror table of a combined platform is the first of the pair. -/
theorem Named.insert (hn : T.id ≠ []) (hconf : c.lookup T.id = none)
    (hoid : oid ≠ SAI_NULL_OBJECT_ID) (hfresh : s.m_AclTables.lookup oid = none)
    (hmap : s'.m_AclTables = s.m_AclTables.insert oid T)
    (hmirror : P.m_isCombinedMirrorV6Table = true → isMirror T.type = true →
      s.m_mirrorTableId = [] ∧ s.m_mirrorV6TableId = [] ∧
        (s'.m_mirrorTableId = T.id ∧ s'.m_mirrorV6TableId = [] ∨
          s'.m_mirrorTableId = [] ∧ s'.m_mirrorV6TableId = T.id))
    (hother : isMirror T.type = false →
      s'.m_mirrorTableId = s.m_mirrorTableId ∧ s'.m_mirrorV6TableId = s.m_mirrorV6TableId) :
    Named P s' (c.insert T.id T.type) := by
  have hlookup : ∀ {oid' T'}, s'.m_AclTables.lookup oid' = some T' ↔
      (oid' = oid ∧ T' = T) ∨ (oid' ≠ oid ∧ s.m_AclTables.lookup oid' = some T') := by
    intro oid' T'
    rw [hmap]
    exact Table.lookup_insert_iff
  have hconf' : ∀ {n' : Text} {t}, (c.insert T.id T.type).lookup n' = some t ↔
      (n' = T.id ∧ t = T.type) ∨ (n' ≠ T.id ∧ c.lookup n' = some t) :=
    Table.lookup_insert_iff
  -- a table that was there has another name
  have hne : ∀ {oid' T'}, s.m_AclTables.lookup oid' = some T' → T'.id ≠ T.id := by
    intro oid' T' h hid
    have h' := (hs.table h).2
    rw [hid, hconf] at h'
    cases h'
  -- the pair afterwards: the new table alone, or the pair that there was
  have hpair : P.m_isCombinedMirrorV6Table = true → ∀ {n'}, n' ≠ [] →
      (s'.IsPair n' ↔ n' = T.id ∧ isMirror T.type = true ∨ s.IsPair n') := by
    intro hcombined n' hn'
    cases ht : isMirror T.type with
    | false =>
      obtain ⟨h₁, h₂⟩ := hother ht
      rw [St.IsPair, St.IsPair, h₁, h₂]
      simp
    | true =>
      obtain ⟨h₁, h₂, h₃⟩ := hmirror hcombined ht
      rw [St.IsPair, St.IsPair, h₁, h₂]
      rcases h₃ with ⟨h₃, h₄⟩ | ⟨h₃, h₄⟩ <;> rw [h₃, h₄] <;> simp [hn']
  refine ⟨?_, ?_, ?_, ?_, ?_, ?_, ?_, ?_⟩
  · intro oid' T' h
    rcases hlookup.mp h with ⟨rfl, rfl⟩ | ⟨-, h⟩
    · exact ⟨hoid, hconf'.mpr (.inl ⟨rfl, rfl⟩)⟩
    · exact ⟨(hs.table h).1, hconf'.mpr (.inr ⟨hne h, (hs.table h).2⟩)⟩
  · intro oid' T' oid'' T'' h h' hid
    rcases hlookup.mp h with ⟨rfl, rfl⟩ | ⟨-, h⟩ <;> rcases hlookup.mp h' with ⟨rfl, rfl⟩ | ⟨-, h'⟩
    · rfl
    · exact absurd hid.symm (hne h')
    · exact absurd hid (hne h)
    · exact hs.unique h h' hid
  · rw [Table.lookup_insert_eq, if_neg hn.symm]
    exact hs.nonempty
  · intro n' t h ht
    rcases hconf'.mp h with ⟨rfl, -⟩ | ⟨-, h⟩
    · exact ⟨oid, T, hlookup.mpr (.inl ⟨rfl, rfl⟩), rfl⟩
    · obtain ⟨oid', T', hT', rfl⟩ := hs.configured h ht
      refine ⟨oid', T', hlookup.mpr (.inr ⟨?_, hT'⟩), rfl⟩
      rintro rfl
      rw [hfresh] at hT'
      cases hT'
  · intro hcombined n' hn'
    rw [hpair hcombined hn', hs.pair hcombined hn']
    constructor
    · rintro (⟨rfl, ht⟩ | ⟨t, ht, h⟩)
      · exact ⟨_, ht, hconf'.mpr (.inl ⟨rfl, rfl⟩)⟩
      · refine ⟨t, ht, hconf'.mpr (.inr ⟨?_, h⟩)⟩
        rintro rfl
        rw [hconf] at h
        cases h
    · rintro ⟨t, ht, h⟩
      rcases hconf'.mp h with ⟨rfl, rfl⟩ | ⟨-, h⟩
      · exact .inl ⟨rfl, ht⟩
      · exact .inr ⟨t, ht, h⟩
  · intro hcombined n' hn' h
    rcases (hpair hcombined hn').mp h with ⟨rfl, ht⟩ | h
    · exact ⟨oid, T, hlookup.mpr (.inl ⟨rfl, rfl⟩), h⟩
    · obtain ⟨oid', T', hT', hid⟩ := hs.shared hcombined hn' h
      refine ⟨oid', T', hlookup.mpr (.inr ⟨?_, hT'⟩),
        (hpair hcombined (hs.id_ne_nil hT')).mpr (.inr hid)⟩
      rintro rfl
      rw [hfresh] at hT'
      cases hT'
  · -- beside the new mirror table there is none, because no name of the pair is taken
    have hnone : P.m_isCombinedMirrorV6Table = true → isMirror T.type = true →
        ∀ {oid' T'}, s.m_AclTables.lookup oid' = some T' → isMirror T'.type = false := by
      intro hcombined ht oid' T' hT'
      obtain ⟨h₁, h₂, -⟩ := hmirror hcombined ht
      by_contra ht'
      have hT'pair : s.IsPair T'.id := (hs.pair hcombined (hs.id_ne_nil hT')).mpr
        ⟨T'.type, by simpa using ht', (hs.table hT').2⟩
      rw [St.IsPair, h₁, h₂] at hT'pair
      exact hs.id_ne_nil hT' (hT'pair.elim id id)
    intro hcombined oid' T' oid'' T'' h h' ht ht'
    rcases hlookup.mp h with ⟨rfl, rfl⟩ | ⟨-, h⟩ <;> rcases hlookup.mp h' with ⟨rfl, rfl⟩ | ⟨-, h'⟩
    · rfl
    · rw [hnone hcombined ht h'] at ht'
      cases ht'
    · rw [hnone hcombined ht' h] at ht
      cases ht
    · exact hs.only hcombined h h' ht ht'
  · intro hcombined h
    cases ht : isMirror T.type with
    | false =>
      obtain ⟨h₁, h₂⟩ := hother ht
      rw [h₁, h₂] at h
      rw [h₁]
      exact hs.distinct hcombined h
    | true =>
      obtain ⟨-, -, ⟨h₁, h₂⟩ | ⟨h₁, h₂⟩⟩ := hmirror hcombined ht
      · rw [h, h₂]
      · exact h₁

/-- A sibling, beside the one mirror table that there is. -/
theorem Named.sibling (hcombined : P.m_isCombinedMirrorV6Table = true)
    (hn : T.id ≠ []) (hconf : c.lookup T.id = none) (hmirror : isMirror T.type = true)
    (hmap : s'.m_AclTables = s.m_AclTables)
    (hnames : s.m_mirrorTableId ≠ [] ∧ s.m_mirrorV6TableId = [] ∧
          s'.m_mirrorTableId = s.m_mirrorTableId ∧ s'.m_mirrorV6TableId = T.id ∨
        s.m_mirrorTableId = [] ∧ s.m_mirrorV6TableId ≠ [] ∧
          s'.m_mirrorTableId = T.id ∧ s'.m_mirrorV6TableId = s.m_mirrorV6TableId) :
    Named P s' (c.insert T.id T.type) := by
  have hconf' : ∀ {n' : Text} {t}, (c.insert T.id T.type).lookup n' = some t ↔
      (n' = T.id ∧ t = T.type) ∨ (n' ≠ T.id ∧ c.lookup n' = some t) :=
    Table.lookup_insert_iff
  have hpair : ∀ {n'}, n' ≠ [] → (s'.IsPair n' ↔ n' = T.id ∨ s.IsPair n') := by
    intro n' hn'
    rw [St.IsPair, St.IsPair]
    rcases hnames with ⟨-, h₁, h₂, h₃⟩ | ⟨h₁, -, h₂, h₃⟩ <;> rw [h₁, h₂, h₃] <;> simp [hn', or_comm]
  -- the name that was there is that of the table
  have hheld : ∃ oid' T', s.m_AclTables.lookup oid' = some T' ∧ s.IsPair T'.id := by
    rcases hnames with ⟨h, -⟩ | ⟨-, h, -⟩
    · exact hs.shared hcombined h (.inl rfl)
    · exact hs.shared hcombined h (.inr rfl)
  refine ⟨?_, ?_, ?_, ?_, ?_, ?_, ?_, ?_⟩
  · intro oid' T' h
    rw [hmap] at h
    obtain ⟨hnull, h'⟩ := hs.table h
    refine ⟨hnull, hconf'.mpr (.inr ⟨?_, h'⟩)⟩
    intro hid
    rw [hid, hconf] at h'
    cases h'
  · intro oid' T' oid'' T'' h h'
    rw [hmap] at h h'
    exact hs.unique h h'
  · rw [Table.lookup_insert_eq, if_neg hn.symm]
    exact hs.nonempty
  · intro n' t h ht
    rcases hconf'.mp h with ⟨-, rfl⟩ | ⟨-, h⟩
    · rw [ht hcombined] at hmirror
      cases hmirror
    · rw [hmap]
      exact hs.configured h ht
  · intro _ n' hn'
    rw [hpair hn', hs.pair hcombined hn']
    constructor
    · rintro (rfl | ⟨t, ht, h⟩)
      · exact ⟨_, hmirror, hconf'.mpr (.inl ⟨rfl, rfl⟩)⟩
      · refine ⟨t, ht, hconf'.mpr (.inr ⟨?_, h⟩)⟩
        rintro rfl
        rw [hconf] at h
        cases h
    · rintro ⟨t, ht, h⟩
      rcases hconf'.mp h with ⟨rfl, -⟩ | ⟨-, h⟩
      · exact .inl rfl
      · exact .inr ⟨t, ht, h⟩
  · intro _ n' hn' _
    obtain ⟨oid', T', hT', hid⟩ := hheld
    rw [hmap]
    exact ⟨oid', T', hT', (hpair (hs.id_ne_nil hT')).mpr (.inr hid)⟩
  · intro _ oid' T' oid'' T'' h h'
    rw [hmap] at h h'
    exact hs.only hcombined h h'
  · intro _ h
    -- the new name is not that of the pair, which is configured
    have hT : ¬ s.IsPair T.id := by
      intro hT
      obtain ⟨t, -, h'⟩ := (hs.pair hcombined hn).mp hT
      rw [hconf] at h'
      cases h'
    rcases hnames with ⟨-, -, h₁, h₂⟩ | ⟨-, -, h₁, h₂⟩
    · exact absurd (.inl (h₂.symm.trans (h.symm.trans h₁))) hT
    · exact absurd (.inr (h₁.symm.trans (h.trans h₂))) hT

/-- A table that is created, or made a sibling, is one more that is configured; where
neither succeeds nothing is changed. -/
theorem Named.created (hn : T.id ≠ []) (hconf : c.lookup T.id = none)
    (hfresh : ∀ oid, env.create_acl_table = some oid →
      oid ≠ SAI_NULL_OBJECT_ID ∧ s.m_AclTables.lookup oid = none)
    (hroom : P.m_isCombinedMirrorV6Table = true → isMirror T.type = true →
      s.m_mirrorTableId = [] ∨ s.m_mirrorV6TableId = [])
    (h : createTable P env s T T.id = (s', ok)) :
    if ok then Named P s' (c.insert T.id T.type) else s' = s := by
  unfold createTable at h
  split at h
  · next hsibling =>
      obtain ⟨hmirror, hcombined, htaken⟩ := hsibling
      split at h
      · next h₁ =>
          cases h
          have h₂ := (hroom hcombined hmirror).resolve_left h₁
          exact hs.sibling hcombined hn hconf hmirror rfl (.inl ⟨h₁, h₂, rfl, rfl⟩)
      · next h₁ =>
          cases h
          have h₁ : s.m_mirrorTableId = [] := not_not.mp h₁
          have h₂ := htaken.resolve_left (not_not.mpr h₁)
          exact hs.sibling hcombined hn hconf hmirror rfl (.inr ⟨h₁, h₂, rfl, rfl⟩)
  · next hsibling =>
      have hfirst : P.m_isCombinedMirrorV6Table = true → isMirror T.type = true →
          s.m_mirrorTableId = [] ∧ s.m_mirrorV6TableId = [] := by
        intro hcombined hmirror
        have hnone := fun htaken => hsibling ⟨hmirror, hcombined, htaken⟩
        exact ⟨by_contra fun h => hnone (.inl h), by_contra fun h => hnone (.inr h)⟩
      split at h
      · cases h
        rfl
      · next oid hcreate =>
          obtain ⟨hoid, hfree⟩ := hfresh oid hcreate
          split at h
          · cases h
            rfl
          · simp only at h
            split_ifs at h with h₄ h₆
            · cases h
              refine hs.insert hn hconf hoid hfree rfl (fun hcombined hmirror => ?_) fun h' => ?_
              · obtain ⟨h₁, h₂⟩ := hfirst hcombined hmirror
                exact ⟨h₁, h₂, .inl ⟨rfl, h₂⟩⟩
              · rw [h₄] at h'
                cases h'
            · cases h
              refine hs.insert hn hconf hoid hfree rfl (fun hcombined hmirror => ?_) fun h' => ?_
              · obtain ⟨h₁, h₂⟩ := hfirst hcombined hmirror
                exact ⟨h₁, h₂, .inr ⟨h₁, rfl⟩⟩
              · rw [h₆] at h'
                cases h'
            · cases h
              refine hs.insert hn hconf hoid hfree rfl (fun _ hmirror => ?_) fun _ => ⟨rfl, rfl⟩
              rcases of_decide_eq_true hmirror with h | h
              · exact absurd h h₄
              · exact absurd h h₆

end Added

theorem Config.release_of_none {c : Config} (h : c.lookup n = none) : c.release P n = c := by
  rw [Config.release, h, if_neg nofun]
  exact AList.ext (List.kerase_of_notMem_keys (AList.lookup_eq_none.mp h))

theorem Config.lookup_release {c : Config} : (c.release P n).lookup n = none := by
  rw [Config.release]
  split
  · next h =>
      cases hn : c.dropMirrors.lookup n with
      | none => rfl
      | some t =>
        obtain ⟨hconf, ht⟩ := lookup_dropMirrors.mp hn
        rw [hconf, Option.any_some, ht] at h
        cases h.2
  · rw [Table.lookup_erase_eq, if_pos rfl]

/-! ### A task -/

section Task

variable {c : Config} (hs : Named P s c)

include hs

/-- A name that is not configured is skipped. -/
theorem Named.removeAclTable_none (env : Env) (hn : n ≠ []) (hconf : c.lookup n = none) :
    removeAclTable P env (stack + 2) s n = some (s, true) := by
  obtain ⟨oid, hget, hres⟩ := hs.resolves hn stack
  cases hres with
  | null _ hoid =>
    rw [removeAclTable, hget, Option.map_some, if_pos hoid]
  | table hsome =>
    rw [hconf] at hsome
    cases hsome

variable (stack) in
/-- A name that is configured is removed with what it resolves to, if the calls for that
succeed. -/
theorem Named.removeAclTable_some (env : Env) (hn : n ≠ []) (hconf : (c.lookup n).isSome) :
    ∃ oid, getTableById P (stack + 2) s n = some oid ∧ oid ≠ SAI_NULL_OBJECT_ID ∧
      Named P (s.without P oid n) (c.release P n) ∧
      removeAclTable P env (stack + 2) s n =
        some (if env.clear ∧ env.deletes then (s.without P oid n, true) else (s, false)) := by
  obtain ⟨oid, hget, hres⟩ := hs.resolves hn stack
  cases hres with
  | null hnone =>
    rw [hnone] at hconf
    cases hconf
  | table _ hT hid =>
    have hoid := (hs.table hT).1
    refine ⟨oid, hget, hoid, hs.release hn hconf hT hid, ?_⟩
    rw [removeAclTable, hget, Option.map_some, if_neg hoid]
    cases env.clear <;> cases env.deletes <;> rfl

end Task

/-! ### Tasks in a row -/

/-- A task that runs see, with what the calls of SAI give it.  The name in it is not empty;
a table that is created has an id that is not in use, but for the table that is replaced;
and no table of another type is turned into a mirror table where both names are taken. -/
structure Admissible (P : Platform) (stack : ℕ) (s : St) (e : Env × Task) : Prop where
  name : e.2.table_id ≠ []
  fresh : ∀ {oid}, e.1.create_acl_table = some oid → oid ≠ SAI_NULL_OBJECT_ID ∧
    (s.m_AclTables.lookup oid = none ∨ getTableById P stack s e.2.table_id = some oid)
  room : ∀ {key fields T oid T'}, e.2 = .set key fields →
    newTable P e.1 (tableId key) fields = some T → isMirror T.type = true →
    s.m_AclTables.lookup oid = some T' → T'.id = tableId key → isMirror T'.type = false →
    P.m_isCombinedMirrorV6Table = true → s.m_mirrorTableId = [] ∨ s.m_mirrorV6TableId = []

/-- A task is handled, and changes what is configured. -/
def step (P : Platform) (stack : ℕ) (a : St × Config) (e : Env × Task) (b : St × Config) : Prop :=
  ∃ ok, doAclTableTask P e.1 stack a.1 e.2 = some (b.1, ok) ∧ b.2 = a.2.after P e.1 ok e.2

section Task

variable {c : Config} (hs : Named P s c)

include hs

variable (env stack) in
/-- A SET of a table of the ASIC. -/
theorem Named.added (hn : T.id ≠ [])
    (hfresh : ∀ {oid}, env.create_acl_table = some oid → oid ≠ SAI_NULL_OBJECT_ID ∧
      (s.m_AclTables.lookup oid = none ∨ getTableById P (stack + 2) s T.id = some oid))
    (hroom : ∀ {oid T'}, isMirror T.type = true → s.m_AclTables.lookup oid = some T' →
      T'.id = T.id → isMirror T'.type = false → P.m_isCombinedMirrorV6Table = true →
      s.m_mirrorTableId = [] ∨ s.m_mirrorV6TableId = []) :
    ∃ s' ok, addAclTable P env (stack + 2) s T T.id = some (s', ok) ∧
      Named P s' (c.set P env T T.id ok) := by
  unfold addAclTable Config.set
  split
  · next hctrl =>
      refine ⟨_, _, rfl, ?_⟩
      split <;> exact ⟨hs.table, hs.unique, hs.nonempty, hs.configured, hs.pair, hs.shared,
        hs.only, hs.distinct⟩
  · cases hconf : c.lookup T.id with
    | none =>
      obtain ⟨oid, hget, hres⟩ := hs.resolves hn stack
      have hoid : oid = SAI_NULL_OBJECT_ID := by
        cases hres with
        | null _ hoid => exact hoid
        | table hsome =>
          rw [hconf] at hsome
          cases hsome
      have hkeep : c.vacate P env T.id = c := if_neg fun h => by
        rw [hconf] at h
        cases h.1
      rw [hkeep, hget, Option.bind_some, if_neg (not_not.mpr hoid)]
      split
      · exact ⟨_, _, rfl, hs⟩
      · next hcreated =>
          have hroom' : P.m_isCombinedMirrorV6Table = true → isMirror T.type = true →
              s.m_mirrorTableId = [] ∨ s.m_mirrorV6TableId = [] := by
            intro _ hmirror
            have hno : ¬ (_ ∨ _) := fun h => hcreated (decide_eq_true h)
            rcases of_decide_eq_true hmirror with h | h
            · exact .inl (by_contra fun h₁ => hno (.inl ⟨h, h₁⟩))
            · exact .inr (by_contra fun h₂ => hno (.inr ⟨h, h₂⟩))
          cases hcreate : createTable P env s T T.id with
          | mk s' ok =>
            have hkept := hs.created hn hconf (fun oid h => by
              obtain ⟨hnull, hfree | hfree⟩ := hfresh h
              · exact ⟨hnull, hfree⟩
              · rw [hget, hoid] at hfree
                exact absurd (Option.some.inj hfree).symm hnull) hroom' hcreate
            refine ⟨s', ok, rfl, ?_⟩
            cases ok with
            | true => exact hkept
            | false =>
              rw [if_neg nofun] at hkept
              rw [hkept]
              exact hs
    | some t =>
      obtain ⟨oid, hget, hoid, hrel, hremove⟩ :=
        hs.removeAclTable_some stack env hn (by rw [hconf]; rfl)
      rw [hget, Option.bind_some, if_pos hoid, hremove, Option.map_some]
      by_cases hok : env.clear = true ∧ env.deletes = true
      · have hkeep : c.vacate P env T.id = c.release P T.id := if_pos ⟨by rw [hconf]; rfl, hok⟩
        rw [hkeep, if_pos hok, if_neg (not_not.mpr rfl)]
        have hroom' : P.m_isCombinedMirrorV6Table = true → isMirror T.type = true →
            (s.without P oid T.id).m_mirrorTableId = [] ∨
              (s.without P oid T.id).m_mirrorV6TableId = [] := by
          intro hcombined hmirror
          cases ht : isMirror t with
          | false =>
            -- the table is turned into a mirror table
            obtain ⟨oid', T', hT', hid⟩ := hs.configured hconf fun _ => ht
            have htype := (hs.table hT').2
            rw [hid, hconf] at htype
            cases htype
            exact clearMirror_nil (hroom hmirror hT' hid ht hcombined)
          | true =>
            -- both names are cleared
            have hpair : s.IsPair T.id := (hs.pair hcombined hn).mpr ⟨t, ht, hconf⟩
            exact .inl (clearMirror_of_isPair
              (s := { s with m_AclTables := s.m_AclTables.erase oid }) hcombined hpair).1
        cases hcreate : createTable P env (s.without P oid T.id) T T.id with
        | mk s' ok =>
          have hkept := hrel.created hn Config.lookup_release (fun oid' h => by
            obtain ⟨hnull, hfree⟩ := hfresh h
            refine ⟨hnull, ?_⟩
            rw [without_m_AclTables, Table.lookup_erase_eq]
            split
            · rfl
            · next hne =>
                refine hfree.resolve_right fun hfree => hne ?_
                rw [hget] at hfree
                exact (Option.some.inj hfree).symm) hroom' hcreate
          refine ⟨s', ok, rfl, ?_⟩
          cases ok with
          | true => exact hkept
          | false =>
            rw [if_neg nofun] at hkept
            rw [hkept]
            exact hrel
      · have hkeep : c.vacate P env T.id = c := if_neg fun h => hok h.2
        rw [hkeep, if_neg hok, if_pos nofun]
        exact ⟨_, _, rfl, hs⟩

/-- **What a task does.**  It comes to an end, and tables and names are kept against what is
configured. -/
theorem Named.task {e : Env × Task} (he : Admissible P (stack + 2) s e) :
    ∃ b, step P (stack + 2) (s, c) e b ∧ Named P b.1 b.2 := by
  obtain ⟨env, task⟩ := e
  cases task with
  | set key fields =>
    cases hT : newTable P env (tableId key) fields with
    | none =>
      refine ⟨(s, c), ⟨true, ?_, ?_⟩, hs⟩
      · simp only [doAclTableTask, hT]
      · simp only [Config.after, hT]
    | some T =>
      obtain ⟨hid, -⟩ := newTable_id hT
      have hn : T.id ≠ [] := hid ▸ he.name
      obtain ⟨s', ok, hadd, hs'⟩ := hs.added env stack hn
        (fun h => by rw [hid]; exact he.fresh h)
        fun hmirror hT' hid' => he.room rfl hT hmirror hT' (hid'.trans hid)
      rw [hid] at hadd hs'
      refine ⟨(s', c.set P env T (tableId key) ok), ⟨ok, ?_, ?_⟩, hs'⟩
      · simp only [doAclTableTask, hT]
        exact hadd
      · simp only [Config.after, hT]
  | del key =>
    have hn : tableId key ≠ [] := he.name
    cases hconf : c.lookup (tableId key) with
    | none =>
      refine ⟨(s, c), ⟨true, hs.removeAclTable_none env hn hconf, ?_⟩, hs⟩
      exact (Config.release_of_none hconf).symm
    | some t =>
      obtain ⟨oid, -, -, hrel, hremove⟩ :=
        hs.removeAclTable_some stack env hn (by rw [hconf]; rfl)
      by_cases hok : env.clear = true ∧ env.deletes = true
      · rw [if_pos hok] at hremove
        exact ⟨(_, c.release P (tableId key)), ⟨true, hremove, rfl⟩, hrel⟩
      · rw [if_neg hok] at hremove
        exact ⟨(_, c), ⟨false, hremove, rfl⟩, hs⟩

end Task

/-! ### Runs -/

/-- At the start there are at most the watch list tables of telemetry. -/
structure Started (s : St) (c : Config) : Prop where
  names : s.m_mirrorTableId = [] ∧ s.m_mirrorV6TableId = []
  table : ∀ {oid T}, s.m_AclTables.lookup oid = some T → oid ≠ SAI_NULL_OBJECT_ID ∧
    (T.id = "DTEL_FLOW_WATCHLIST".toList ∧ T.type = .ACL_TABLE_DTEL_FLOW_WATCHLIST ∨
      T.id = "DTEL_DROP_WATCHLIST".toList ∧ T.type = .ACL_TABLE_DTEL_DROP_WATCHLIST)
  unique : ∀ {oid T oid' T'}, s.m_AclTables.lookup oid = some T →
    s.m_AclTables.lookup oid' = some T' → T.id = T'.id → oid = oid'
  configured : ∀ {n t}, c.lookup n = some t ↔
    ∃ oid T, s.m_AclTables.lookup oid = some T ∧ T.id = n ∧ T.type = t

theorem Started.named {c : Config} (h : Started s c) : Named P s c := by
  have hdtel : ∀ {oid T}, s.m_AclTables.lookup oid = some T →
      T.id ≠ [] ∧ isMirror T.type = false := by
    intro oid T hT
    rcases (h.table hT).2 with ⟨hid, htype⟩ | ⟨hid, htype⟩ <;> rw [hid, htype] <;> decide
  have hpair : ∀ {n}, n ≠ [] → ¬ s.IsPair n := by
    intro n hn hpair
    rw [St.IsPair, h.names.1, h.names.2] at hpair
    exact hn (hpair.elim id id)
  refine ⟨?_, h.unique, ?_, ?_, ?_, ?_, ?_, fun _ _ => h.names.1⟩
  · intro oid T hT
    exact ⟨(h.table hT).1, h.configured.mpr ⟨oid, T, hT, rfl, rfl⟩⟩
  · cases hconf : c.lookup [] with
    | none => rfl
    | some t =>
      obtain ⟨oid, T, hT, hid, -⟩ := h.configured.mp hconf
      exact absurd hid (hdtel hT).1
  · intro n t hconf _
    obtain ⟨oid, T, hT, hid, -⟩ := h.configured.mp hconf
    exact ⟨oid, T, hT, hid⟩
  · intro _ n hn
    refine ⟨fun h' => absurd h' (hpair hn), ?_⟩
    rintro ⟨t, ht, hconf⟩
    obtain ⟨oid, T, hT, -, rfl⟩ := h.configured.mp hconf
    rw [(hdtel hT).2] at ht
    cases ht
  · exact fun _ n hn h' => absurd h' (hpair hn)
  · intro _ oid T oid' T' hT _ ht _
    rw [(hdtel hT).2] at ht
    cases ht

theorem named_of_run {a b : St × Config} {es : List (Env × Task)}
    (ha : Named P a.1 a.2)
    (h : Run (Guarded (fun a => Admissible P (stack + 2) a.1) (step P (stack + 2))) a es b) :
    Named P b.1 b.2 := by
  refine h.keeps (I := fun b => Named P b.1 b.2) ha ?_
  rintro t e u ht ⟨he, ok, hdone, hconf⟩
  obtain ⟨b, ⟨ok', hdone', hconf'⟩, hb⟩ := ht.task he
  rw [hdone] at hdone'
  obtain ⟨h₁, rfl⟩ := Prod.mk.inj (Option.some.inj hdone')
  rw [h₁, hconf, ← hconf']
  exact hb

/-- **Names resolve.**  On every run, of either kind of platform, every lookup of a name
comes to an end; it gives the id of a table exactly if the name is configured, and the null
id otherwise; and no task is left without a result. -/
theorem names_resolve {a b : St × Config} {es : List (Env × Task)}
    (ha : Started a.1 a.2)
    (h : Run (Guarded (fun a => Admissible P (stack + 2) a.1) (step P (stack + 2))) a es b) :
    (∀ n, n ≠ [] → ∃ oid, getTableById P (stack + 2) b.1 n = some oid ∧
      (oid ≠ SAI_NULL_OBJECT_ID ↔ (b.2.lookup n).isSome) ∧
      (oid ≠ SAI_NULL_OBJECT_ID → (b.1.m_AclTables.lookup oid).isSome)) ∧
    ∀ e, Admissible P (stack + 2) b.1 e → (doAclTableTask P e.1 (stack + 2) b.1 e.2).isSome := by
  have hb := named_of_run ha.named h
  constructor
  · intro n hn
    obtain ⟨oid, hget, hres⟩ := hb.resolves hn stack
    refine ⟨oid, hget, ?_⟩
    cases hres with
    | null hconf hoid =>
      rw [hconf, hoid]
      exact ⟨⟨fun h => absurd rfl h, nofun⟩, fun h => absurd rfl h⟩
    | table hconf hT _ =>
      exact ⟨⟨fun _ => hconf, fun _ => (hb.table hT).1⟩, fun _ => by rw [hT]; rfl⟩
  · intro e he
    obtain ⟨_, ⟨ok, hdone, -⟩, -⟩ := hb.task he
    rw [hdone]
    rfl

/-- A platform with one mirror table, whose calls succeed. -/
def combined : Platform := ⟨true, fun _ => true⟩

def granted (oid : sai_object_id_t) : Env :=
  ⟨fun _ => true, fun _ => true, true, true, true, some oid, true⟩

def setOf (name type : String) : Task :=
  .set name.toList [(TABLE_TYPE, type.toList), (TABLE_PORTS, "Ethernet0".toList)]

def done (r : Option (St × Bool)) : Option St := (r.filter (·.2)).map (·.1)

/-- The table that `setOf` asks for. -/
def tableOf (name : String) (type : acl_table_type_t) : AclTable :=
  ⟨name.toList, [], type, .ACL_STAGE_INGRESS, ["Ethernet0".toList], []⟩

theorem names_resolve_mirror :
    ∃ oid,
      getTableById combined 2
        ⟨AList.singleton 1 (tableOf "V4" .ACL_TABLE_MIRROR), ∅, "V4".toList, []⟩ "V4".toList =
          some oid ∧
      (oid ≠ SAI_NULL_OBJECT_ID ↔
        ((AList.singleton "V4".toList acl_table_type_t.ACL_TABLE_MIRROR : Config).lookup
          "V4".toList).isSome) ∧
      (oid ≠ SAI_NULL_OBJECT_ID →
        ((AList.singleton 1 (tableOf "V4" .ACL_TABLE_MIRROR) :
          Table sai_object_id_t AclTable).lookup oid).isSome) := by
  have hrun : Run (Guarded (fun a => Admissible combined 2 a.1) (step combined 2))
      (⟨∅, ∅, [], []⟩, ∅) [(granted 1, setOf "V4" "MIRROR")]
      (⟨AList.singleton 1 (tableOf "V4" .ACL_TABLE_MIRROR), ∅, "V4".toList, []⟩,
        AList.singleton "V4".toList .ACL_TABLE_MIRROR) := by
    refine .single ⟨⟨by decide, ?_, ?_⟩, true, ?_, ?_⟩
    · intro oid hoid
      cases hoid
      exact ⟨by decide, .inl rfl⟩
    · intro _ _ _ _ _ _ _ _ hT
      cases hT
    · rfl
    · rfl
  refine (names_resolve ⟨⟨rfl, rfl⟩, ?_, ?_, ?_⟩ hrun).1 "V4".toList (by decide)
  · intro _ _ h
    cases h
  · intro _ _ _ _ h
    cases h
  · intro _ _
    refine ⟨nofun, ?_⟩
    rintro ⟨_, _, h, -⟩
    cases h

/-- Of two mirror tables that are one table, the removal of one removes both, although
the other is configured. -/
theorem not_names_resolve :
    ((done (doAclTableTask combined (granted 1) 2 ⟨∅, ∅, [], []⟩ (setOf "V4" "MIRROR"))).bind
      fun s₁ => (done (doAclTableTask combined (granted 2) 2 s₁ (setOf "V6" "MIRRORV6"))).bind
      fun s₂ => (done (doAclTableTask combined (granted 3) 2 s₂ (.del "V4".toList))).map
      fun s₃ => (getTableById combined 2 s₂ "V6".toList, getTableById combined 2 s₃ "V6".toList)) =
    some (some 1, some SAI_NULL_OBJECT_ID) := by
  decide +kernel

end Orchagent.AclTables
