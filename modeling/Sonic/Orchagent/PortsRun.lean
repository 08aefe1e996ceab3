/-
Orchagent/PortsRun.lean

When the attributes of a port converge to what is configured.

An attribute is asked for by a field, is remembered in `m_portList`, and is held by the ASIC.
Whatever attempts fail: the value that is configured is the one that a pending task still
asks for, or else the one that is remembered, and what is remembered is held (`Inv`).  An
attempt keeps this unless it brings the port down to set its speed, and the task does not say
whether the port is up, or unless the mode of asymmetric PFC is remembered and then refused
(`Calm`).  `port_attributes_converge` is the theorem about runs.
-/
import Sonic.Lib.Outcome
import Sonic.Lib.Transition
import Sonic.Orchagent.PortsOrch

namespace Orchagent.Ports

open Swss Outcome
open Copp (SAI_NULL_OBJECT_ID stoul)
open Transition (Run Guarded)

/-! ### Attributes -/

/-- The attributes of a port that a SET can name. -/
inductive Attr where
  | autoneg | speed | mtu | fec | learn_mode | pfc_asym | preemphasis | idriver | ipredriver
  | admin_status
  deriving DecidableEq

/-- The field of an attribute. -/
def Attr.field : Attr → String
  | .autoneg => "autoneg"
  | .speed => "speed"
  | .mtu => "mtu"
  | .fec => "fec"
  | .learn_mode => "learn_mode"
  | .pfc_asym => "pfc_asym"
  | .preemphasis => "preemphasis"
  | .idriver => "idriver"
  | .ipredriver => "ipredriver"
  | .admin_status => "admin_status"

/-- The value of an attribute; `none` is a text that stands for no value. -/
inductive Value where
  | flag (b : Bool)
  | num (n : UInt32)
  | fec (mode : sai_port_fec_mode_t)
  | learn (mode : sai_bridge_port_fdb_learning_mode_t)
  | pfc (mode : sai_port_priority_flow_control_mode_t)
  | list (vals : List UInt32)
  deriving DecidableEq

/-- The value that a text asks for. -/
def Attr.asked : Attr → String → Option Value
  | .autoneg, v => (readInt32 v).map fun an => .flag (decide (an = 1))
  | .speed, v => (readU32 v).map .num
  | .mtu, v => (readU32 v).map .num
  | .fec, v => (fec_mode_map v).map .fec
  | .learn_mode, v => (learn_mode_map v).map .learn
  | .pfc_asym, v => (pfc_asym_map v).map .pfc
  | .preemphasis, v => (getPortSerdesVal v).map .list
  | .idriver, v => (getPortSerdesVal v).map .list
  | .ipredriver, v => (getPortSerdesVal v).map .list
  | .admin_status, v => some (.flag (decide (v = "up")))

/-- The bits of PFC are set as the mode wants them. -/
def PfcBits (port : Port) (asic : Asic) : Prop :=
  match asic.PRIORITY_FLOW_CONTROL_MODE with
  | .COMBINED => asic.PRIORITY_FLOW_CONTROL = port.m_pfc_bitmask
  | .SEPARATE =>
    asic.PRIORITY_FLOW_CONTROL_TX = port.m_pfc_bitmask ∧ asic.PRIORITY_FLOW_CONTROL_RX = 0xff

instance (port : Port) (asic : Asic) : Decidable (PfcBits port asic) := by
  unfold PfcBits
  cases asic.PRIORITY_FLOW_CONTROL_MODE
  · exact inferInstanceAs (Decidable (_ = _))
  · exact inferInstanceAs (Decidable (_ ∧ _))

/-- The value that the ASIC holds.  With auto negotiation the speed is the one that is
advertised; the learn mode of a port without bridge port waits in `m_portList`. -/
def held (port : Port) (asic : Asic) : Attr → Option Value
  | .autoneg => some (.flag asic.AUTO_NEG_MODE)
  | .speed =>
    if asic.AUTO_NEG_MODE then
      match asic.ADVERTISED_SPEED with
      | [speed] => some (.num speed)
      | _ => none
    else some (.num asic.SPEED)
  | .mtu => some (.num (asic.MTU - 22))
  | .fec => some (.fec asic.FEC_MODE)
  | .learn_mode =>
    if port.m_bridge_port_id = SAI_NULL_OBJECT_ID then
      (learn_mode_map port.m_learn_mode).map .learn
    else some (.learn asic.FDB_LEARNING_MODE)
  | .pfc_asym =>
    if PfcBits port asic then some (.pfc asic.PRIORITY_FLOW_CONTROL_MODE) else none
  | .preemphasis => some (.list asic.SERDES_PREEMPHASIS)
  | .idriver => some (.list asic.SERDES_IDRIVER)
  | .ipredriver => some (.list asic.SERDES_IPREDRIVER)
  | .admin_status => some (.flag asic.ADMIN_STATE)

/-- The value that is remembered; those of serdes are not. -/
def recorded (port : Port) (asic : Asic) : Attr → Option Value
  | .autoneg => some (.flag port.m_autoneg)
  | .speed => some (.num port.m_speed)
  | .mtu => some (.num port.m_mtu)
  | .fec => some (.fec port.m_fec_mode)
  | .learn_mode => (learn_mode_map port.m_learn_mode).map .learn
  | .pfc_asym => some (.pfc port.m_pfc_asym)
  | .preemphasis => some (.list asic.SERDES_PREEMPHASIS)
  | .idriver => some (.list asic.SERDES_IDRIVER)
  | .ipredriver => some (.list asic.SERDES_IPREDRIVER)
  | .admin_status => some (.flag port.m_admin_state_up)

/-- What the fields that were read ask for: of an attribute nothing, or a value. -/
def given (r : PortFields) : Attr → Option (Option Value)
  | .autoneg => if r.an = -1 then none else some (some (.flag (decide (r.an = 1))))
  | .speed => if r.speed = 0 then none else some (some (.num r.speed))
  | .mtu => if r.mtu = 0 then none else some (some (.num r.mtu))
  | .fec => if r.fec_mode = "" then none else some ((fec_mode_map r.fec_mode).map .fec)
  | .learn_mode =>
    if r.learn_mode = "" then none else some ((learn_mode_map r.learn_mode).map .learn)
  | .pfc_asym => if r.pfc_asym = "" then none else some ((pfc_asym_map r.pfc_asym).map .pfc)
  | .preemphasis => if r.pre_emphasis = [] then none else some (some (.list r.pre_emphasis))
  | .idriver => if r.idriver = [] then none else some (some (.list r.idriver))
  | .ipredriver => if r.ipredriver = [] then none else some (some (.list r.ipredriver))
  | .admin_status =>
    if r.admin_status = "" then none else some (some (.flag (decide (r.admin_status = "up"))))

/-! ### What is configured -/

/-- The last value of a field. -/
def lastValue (f : String) (fields : List FieldValueTuple) : Option String :=
  (fields.reverse.find? (·.1 = f)).map (·.2)

/-- An entry that comes in configures what it names. -/
def configure (c : Attr → Option Value) : Event → Attr → Option Value
  | .receive entry => fun x =>
    match lastValue x.field entry.kfvFieldsValues with
    | none => c x
    | some v => x.asked v
  | .attempt _ => c

/-- What is configured after some events, starting from `c`. -/
def configured (c : Attr → Option Value) (es : List Event) : Attr → Option Value :=
  es.foldl configure c

/-- The attribute is named by no entry that comes in. -/
def Unnamed (x : Attr) (es : List Event) : Prop :=
  ∀ entry, .receive entry ∈ es → lastValue x.field entry.kfvFieldsValues = none

/-! ### The condition -/

/-- A text that can be read, and is not one that stands for a field that is not there. -/
def Attr.Regular : Attr → String → Prop
  | .autoneg, v => readInt32 v = some 0 ∨ readInt32 v = some 1
  | .speed, v => ∃ n ≠ 0, readU32 v = some n
  | .mtu, v => ∃ n ≠ 0, readU32 v = some n
  | .fec, v => fec_mode_map v ≠ none
  | .learn_mode, v => v ≠ ""
  | .pfc_asym, v => v ≠ ""
  | .preemphasis, v => ∃ vals ≠ [], getPortSerdesVal v = some vals
  | .idriver, v => ∃ vals ≠ [], getPortSerdesVal v = some vals
  | .ipredriver, v => ∃ vals ≠ [], getPortSerdesVal v = some vals
  | .admin_status, v => v ≠ ""

/-- The values of the fields can be read. -/
structure RegularFields (fields : List FieldValueTuple) : Prop where
  attrs : ∀ x : Attr, ∀ v, (x.field, v) ∈ fields → x.Regular v
  lanes : ∀ v, ("lanes", v) ∈ fields → readLanes v ≠ none

/-- A SET of different fields, as it comes out of a hash, with values that can be read. -/
structure RegularEntry (entry : KeyOpFieldsValuesTuple) : Prop where
  set : entry.kfvOp = SET_COMMAND
  nodup : (entry.kfvFieldsValues.map (·.1)).Nodup
  fields : RegularFields entry.kfvFieldsValues

/-- The task changes the auto negotiation. -/
def ChangesAutoNeg (port : Port) (r : PortFields) : Prop :=
  r.an ≠ -1 ∧ r.an ≠ (if port.m_autoneg then 1 else 0)

/-- The task sets the speed of the port, as auto negotiation is off. -/
def SetsSpeed (port : Port) (r : PortFields) : Prop :=
  (ChangesAutoNeg port r ∧ r.an = 0 ∧ (r.speed ≠ 0 ∨ port.m_speed ≠ 0)) ∨
    (¬ ChangesAutoNeg port r ∧ port.m_autoneg = false ∧ r.speed ≠ 0 ∧ r.speed ≠ port.m_speed)

/-- The attempt brings the port down to set its speed. -/
def BringsDown (answers : Answers) (port : Port) (r : PortFields) : Prop :=
  port.m_admin_state_up = true ∧ SetsSpeed port r ∧
    (ChangesAutoNeg port r → answers.setPortAutoNeg = true) ∧
    answers.isSpeedSupported = true ∧ answers.setPortAdminDown = true

/-- If the task changes the mode of asymmetric PFC, SAI refuses none of its calls. -/
def PfcAccepted (answers : Answers) (port : Port) (r : PortFields) : Prop :=
  ∀ mode, pfc_asym_map r.pfc_asym = some mode → port.m_pfc_asym ≠ mode →
    answers.setPfcMode = true ∧ answers.setPortPfc = true ∧
      (mode = .SEPARATE → answers.setPfcRx = true)

/-- What comes in can be read; an attempt that brings the port down is for a task that names
the admin status, and the mode of asymmetric PFC is not refused. -/
def Calm (s : St) : Event → Prop
  | .receive entry => RegularEntry entry
  | .attempt answers => ∀ t r, s.pending = some t → readFields t.kfvFieldsValues = some r →
      (BringsDown answers s.port r → r.admin_status ≠ "") ∧ PfcAccepted answers s.port r

/-! ### Reading fields -/

variable {r : PortFields} {fields : List FieldValueTuple} {x y : Attr} {f v : String}

theorem lastValue_concat (i : FieldValueTuple) :
    lastValue f (fields ++ [i]) = if i.1 = f then some i.2 else lastValue f fields := by
  unfold lastValue
  rw [List.reverse_append, List.reverse_singleton, List.singleton_append, List.find?_cons]
  by_cases h : i.1 = f
  · rw [if_pos h, decide_eq_true h]
    rfl
  · rw [if_neg h, decide_eq_false h]

theorem lastValue_eq_some (h : lastValue f fields = some v) : (f, v) ∈ fields := by
  obtain ⟨i, hi, rfl⟩ := Option.map_eq_some_iff.mp h
  have hname : i.1 = f := by
    have hfound := List.find?_some hi
    exact of_decide_eq_true hfound
  rw [← hname]
  exact List.mem_reverse.mp (List.mem_of_find?_eq_some hi)

theorem lastValue_eq_none : lastValue f fields = none ↔ ∀ v, (f, v) ∉ fields := by
  unfold lastValue
  rw [Option.map_eq_none_iff, List.find?_eq_none]
  constructor
  · intro h v hmem
    exact h _ (List.mem_reverse.mpr hmem) (decide_eq_true rfl)
  · intro h i hi hname
    obtain rfl := of_decide_eq_true hname
    exact h i.2 (List.mem_reverse.mp hi)

theorem field_injective (h : x.field = y.field) : x = y := by
  cases x <;> cases y <;> first | rfl | exact absurd h (by decide)

theorem field_ne_lanes : x.field ≠ "lanes" := by
  cases x <;> decide

/-- The serdes attributes: the values of several fields of one name add up. -/
def Attr.IsSerdes : Attr → Prop
  | .preemphasis => True
  | .idriver => True
  | .ipredriver => True
  | _ => False

/-- The numbers that are read for auto negotiation. -/
def AutoNegRead (r : PortFields) : Prop := r.an = -1 ∨ r.an = 0 ∨ r.an = 1

/-- What one field does to the variables: its attribute is given its value, others stay. -/
structure Reads (x : Attr) (v : String) (r r' : PortFields) : Prop where
  self : given r' x = some (x.asked v)
  others : ∀ y, y ≠ x → given r' y = given r y
  an : AutoNegRead r → AutoNegRead r'

/-- **What one field is read to.** -/
theorem readField_attr (hregular : x.Regular v) (hfresh : x.IsSerdes → given r x = none) :
    ∃ r', readField r (x.field, v) = some r' ∧ Reads x v r r' := by
  cases x with
  | autoneg =>
    obtain ⟨an, hread, han⟩ : ∃ an, readInt32 v = some an ∧ (an = 0 ∨ an = 1) := by
      rcases hregular with h | h
      · exact ⟨0, h, .inl rfl⟩
      · exact ⟨1, h, .inr rfl⟩
    refine ⟨{ r with an }, by simp [readField, Attr.field, hread], ⟨?_, ?_, fun _ => .inr han⟩⟩
    · have hne : an ≠ -1 := by omega
      simp [given, Attr.asked, hread, hne]
    · intro y hy
      cases y <;> first | rfl | exact absurd rfl hy
  | speed =>
    obtain ⟨speed, hne, hread⟩ := hregular
    refine ⟨{ r with speed }, by simp [readField, Attr.field, hread], ⟨?_, ?_, id⟩⟩
    · simp [given, Attr.asked, hread, hne]
    · intro y hy
      cases y <;> first | rfl | exact absurd rfl hy
  | mtu =>
    obtain ⟨mtu, hne, hread⟩ := hregular
    refine ⟨{ r with mtu }, by simp [readField, Attr.field, hread], ⟨?_, ?_, id⟩⟩
    · simp [given, Attr.asked, hread, hne]
    · intro y hy
      cases y <;> first | rfl | exact absurd rfl hy
  | fec =>
    have hne : v ≠ "" := by
      rintro rfl
      exact hregular rfl
    refine ⟨{ r with fec_mode := v }, by simp [readField, Attr.field], ⟨?_, ?_, id⟩⟩
    · exact if_neg hne
    · intro y hy
      cases y <;> first | rfl | exact absurd rfl hy
  | learn_mode =>
    refine ⟨{ r with learn_mode := v }, by simp [readField, Attr.field], ⟨?_, ?_, id⟩⟩
    · exact if_neg hregular
    · intro y hy
      cases y <;> first | rfl | exact absurd rfl hy
  | pfc_asym =>
    refine ⟨{ r with pfc_asym := v }, by simp [readField, Attr.field], ⟨?_, ?_, id⟩⟩
    · exact if_neg hregular
    · intro y hy
      cases y <;> first | rfl | exact absurd rfl hy
  | preemphasis =>
    obtain ⟨vals, hne, hread⟩ := hregular
    have hnil : r.pre_emphasis = [] := by simpa [given] using hfresh trivial
    refine ⟨{ r with pre_emphasis := r.pre_emphasis ++ vals },
      by simp [readField, Attr.field, hread], ⟨?_, ?_, id⟩⟩
    · simp [given, Attr.asked, hread, hne, hnil]
    · intro y hy
      cases y <;> first | rfl | exact absurd rfl hy
  | idriver =>
    obtain ⟨vals, hne, hread⟩ := hregular
    have hnil : r.idriver = [] := by simpa [given] using hfresh trivial
    refine ⟨{ r with idriver := r.idriver ++ vals },
      by simp [readField, Attr.field, hread], ⟨?_, ?_, id⟩⟩
    · simp [given, Attr.asked, hread, hne, hnil]
    · intro y hy
      cases y <;> first | rfl | exact absurd rfl hy
  | ipredriver =>
    obtain ⟨vals, hne, hread⟩ := hregular
    have hnil : r.ipredriver = [] := by simpa [given] using hfresh trivial
    refine ⟨{ r with ipredriver := r.ipredriver ++ vals },
      by simp [readField, Attr.field, hread], ⟨?_, ?_, id⟩⟩
    · simp [given, Attr.asked, hread, hne, hnil]
    · intro y hy
      cases y <;> first | rfl | exact absurd rfl hy
  | admin_status =>
    refine ⟨{ r with admin_status := v }, by simp [readField, Attr.field], ⟨?_, ?_, id⟩⟩
    · exact if_neg hregular
    · intro y hy
      cases y <;> first | rfl | exact absurd rfl hy

/-- A field of no attribute is not read to one. -/
theorem readField_other (hlanes : f = "lanes" → readLanes v ≠ none)
    (hother : ∀ x : Attr, f ≠ x.field) : readField r (f, v) = some r := by
  by_cases h : f = "lanes"
  · obtain ⟨lanes, hread⟩ := Option.ne_none_iff_exists'.mp (hlanes h)
    refine (if_pos h).trans ?_
    rw [hread]
    rfl
  · refine (if_neg h).trans ?_
    refine (if_neg (hother .admin_status)).trans ?_
    refine (if_neg (hother .mtu)).trans ?_
    refine (if_neg (hother .speed)).trans ?_
    refine (if_neg (hother .fec)).trans ?_
    refine (if_neg (hother .learn_mode)).trans ?_
    refine (if_neg (hother .pfc_asym)).trans ?_
    refine (if_neg (hother .autoneg)).trans ?_
    refine (if_neg (hother .preemphasis)).trans ?_
    refine (if_neg (hother .idriver)).trans ?_
    exact if_neg (hother .ipredriver)

/-- The fields of a task: they can be read, and the values of serdes do not add up. -/
structure TaskFields (fields : List FieldValueTuple) : Prop extends RegularFields fields where
  single : ∀ x : Attr, x.IsSerdes → (fields.filter (·.1 = x.field)).length ≤ 1

/-- What the variables of a task are: for each attribute the last value of its field. -/
structure ReadsAll (fields : List FieldValueTuple) (r : PortFields) : Prop where
  given : ∀ x, given r x = (lastValue x.field fields).map x.asked
  an : AutoNegRead r

theorem TaskFields.init {i : FieldValueTuple} (h : TaskFields (fields ++ [i])) :
    TaskFields fields := by
  refine ⟨⟨fun x v hv => h.attrs x v (List.mem_append_left _ hv),
    fun v hv => h.lanes v (List.mem_append_left _ hv)⟩, fun x hx => ?_⟩
  have hle := h.single x hx
  rw [List.filter_append, List.length_append] at hle
  omega

/-- The field that comes last, of a serdes attribute, was not there before. -/
theorem TaskFields.fresh (h : TaskFields (fields ++ [(x.field, v)])) (hx : x.IsSerdes) :
    lastValue x.field fields = none := by
  have hle := h.single x hx
  have hlast : [(x.field, v)].filter (·.1 = x.field) = [(x.field, v)] :=
    List.filter_cons_of_pos (decide_eq_true rfl)
  rw [List.filter_append, List.length_append, hlast, List.length_singleton] at hle
  rw [lastValue_eq_none]
  intro w hw
  have hmem : (x.field, w) ∈ fields.filter (·.1 = x.field) :=
    List.mem_filter.mpr ⟨hw, decide_eq_true rfl⟩
  have hpos := List.length_pos_of_mem hmem
  omega

theorem readFields_concat (i : FieldValueTuple) :
    readFields (fields ++ [i]) = (readFields fields).bind fun r => readField r i := by
  unfold readFields
  rw [List.foldlM_append]
  cases List.foldlM readField {} fields with
  | none => rfl
  | some r =>
    show [i].foldlM readField r = readField r i
    rw [List.foldlM_cons]
    cases readField r i with
    | none => rfl
    | some r' => rfl

/-- **What a task is read to.**  The induction is along its fields, from the last one. -/
theorem readFields_spec (h : TaskFields fields) :
    ∃ r, readFields fields = some r ∧ ReadsAll fields r := by
  induction fields using List.reverseRecOn with
  | nil =>
    refine ⟨{}, rfl, ?_, .inl rfl⟩
    intro x
    cases x <;> rfl
  | append_singleton fields i ih =>
    obtain ⟨r, hr, hreads⟩ := ih h.init
    obtain ⟨f, v⟩ := i
    have hmem : (f, v) ∈ fields ++ [(f, v)] :=
      List.mem_append_right _ (List.mem_singleton_self _)
    by_cases hattr : ∃ x : Attr, f = x.field
    · obtain ⟨x, rfl⟩ := hattr
      have hfresh : x.IsSerdes → given r x = none := by
        intro hx
        rw [hreads.given, h.fresh hx]
        rfl
      obtain ⟨r', hr', hself, hothers, han⟩ := readField_attr (h.attrs x v hmem) hfresh
      refine ⟨r', ?_, ?_, han hreads.an⟩
      · rw [readFields_concat, hr]
        exact hr'
      · intro y
        rw [lastValue_concat]
        by_cases hy : y = x
        · subst hy
          rw [if_pos rfl, hself]
          rfl
        · rw [if_neg fun heq => hy (field_injective heq).symm, hothers y hy, hreads.given]
    · have hother : ∀ x : Attr, f ≠ x.field := fun x hx => hattr ⟨x, hx⟩
      refine ⟨r, ?_, ?_, hreads.an⟩
      · rw [readFields_concat, hr]
        exact readField_other (by rintro rfl; exact h.lanes v hmem) hother
      · intro y
        rw [lastValue_concat, if_neg (hother y), hreads.given]

/-! ### Tasks that are combined -/

theorem lastValue_filter_ne {g : String} (h : f ≠ g) :
    lastValue f (fields.filter (·.1 ≠ g)) = lastValue f fields := by
  unfold lastValue
  rw [← List.filter_reverse, List.find?_filter]
  congr 2
  funext i
  by_cases hi : i.1 = f
  · simp [hi, h]
  · simp [hi]

theorem combineValues_concat {existing_values new_values : List FieldValueTuple}
    (i : FieldValueTuple) : combineValues existing_values (new_values ++ [i])
      = (combineValues existing_values new_values).filter (·.1 ≠ i.1) ++ [i] := by
  unfold combineValues
  rw [List.foldl_append]
  rfl

/-- The last value of combined fields is the new one, if there is one. -/
theorem lastValue_combineValues {existing_values new_values : List FieldValueTuple} :
    lastValue f (combineValues existing_values new_values)
      = (lastValue f new_values).or (lastValue f existing_values) := by
  induction new_values using List.reverseRecOn with
  | nil => rfl
  | append_singleton new_values i ih =>
    rw [combineValues_concat, lastValue_concat, lastValue_concat]
    by_cases hi : i.1 = f
    · rw [if_pos hi, if_pos hi]
      rfl
    · rw [if_neg hi, if_neg hi, lastValue_filter_ne fun heq => hi heq.symm, ih]

theorem mem_combineValues {existing_values new_values : List FieldValueTuple}
    {i : FieldValueTuple} (h : i ∈ combineValues existing_values new_values) :
    i ∈ existing_values ∨ i ∈ new_values := by
  induction new_values using List.reverseRecOn with
  | nil => exact .inl h
  | append_singleton new_values j ih =>
    rw [combineValues_concat] at h
    rcases List.mem_append.mp h with h | h
    · rcases ih (List.mem_filter.mp h).1 with h | h
      · exact .inl h
      · exact .inr (List.mem_append_left _ h)
    · exact .inr (List.mem_append_right _ h)

theorem TaskFields.combineValues {new_values : List FieldValueTuple} (h : TaskFields fields)
    (hnew : RegularFields new_values) : TaskFields (combineValues fields new_values) := by
  refine ⟨⟨fun x v hv => ?_, fun v hv => ?_⟩, fun x hx => ?_⟩
  · rcases mem_combineValues hv with hv | hv
    · exact h.attrs x v hv
    · exact hnew.attrs x v hv
  · rcases mem_combineValues hv with hv | hv
    · exact h.lanes v hv
    · exact hnew.lanes v hv
  · clear hnew
    induction new_values using List.reverseRecOn with
    | nil => exact h.single x hx
    | append_singleton new_values i ih =>
      rw [combineValues_concat, List.filter_append, List.length_append, List.filter_filter]
      by_cases hi : i.1 = x.field
      · -- the values before are gone
        have hnil : (Orchagent.combineValues fields new_values).filter
            (fun j => decide (j.1 = x.field) && decide (j.1 ≠ i.1)) = [] := by
          rw [List.filter_eq_nil_iff]
          intro j _
          simp [hi]
        rw [hnil, List.length_nil, Nat.zero_add]
        exact List.length_filter_le _ _
      · have hnil : [i].filter (·.1 = x.field) = [] :=
          List.filter_cons_of_neg (by simpa using hi)
        rw [hnil, List.length_nil, Nat.add_zero]
        refine le_trans (List.Sublist.length_le ?_) ih
        refine List.monotone_filter_right _ fun j hj => ?_
        exact (Bool.and_eq_true_iff.mp hj).1

/-- Different fields. -/
theorem TaskFields.of_nodup (h : RegularFields fields) (hnodup : (fields.map (·.1)).Nodup) :
    TaskFields fields := by
  refine ⟨h, fun x _ => ?_⟩
  have hsub : ((fields.filter (·.1 = x.field)).map (·.1)).Nodup :=
    hnodup.sublist (List.filter_sublist.map _)
  have hname : ∀ i ∈ fields.filter (·.1 = x.field), i.1 = x.field :=
    fun i hi => of_decide_eq_true (List.mem_filter.mp hi).2
  generalize fields.filter (·.1 = x.field) = named at hsub hname ⊢
  rcases named with - | ⟨i, - | ⟨j, rest⟩⟩
  · exact Nat.zero_le _
  · exact le_refl _
  · -- two fields of one name
    refine absurd ?_ (List.nodup_cons.mp hsub).1
    have heq : j.1 = i.1 := (hname j (List.mem_cons_of_mem _ List.mem_cons_self)).trans
      (hname i List.mem_cons_self).symm
    exact List.mem_map.mpr ⟨j, List.mem_cons_self, heq⟩

/-! ### Attempts -/

variable {c : Attr → Option Value} {answers : Answers} {a a' : Attempt}

/-- What is left of an attempt that does not go on: what it remembers is what was saved. -/
def Attempt.left (a : Attempt) : Attempt := { a with p := a.saved }

theorem left_eq (h : a.saved = a.p) : a.left = a := by
  cases a
  cases h
  rfl

/-- An attempt on the way: the value that is configured is the one that is given, or else the
one that is remembered, and what is remembered is held.  The speed is not remembered while
it has to be applied again. -/
structure Sound (c : Attr → Option Value) (a : Attempt) : Prop where
  task : TaskFields a.task
  reads : ReadsAll a.task a.fields
  speed : a.p.m_speed = 0 → a.fields.speed ≠ 0
  asked : ∀ x, c x = (given a.fields x).getD (recorded a.p a.asic x)
  agrees : ∀ x, (x = .speed → a.p.m_speed ≠ 0) →
    held a.p a.asic x = recorded a.p a.asic x

/-- The value that is given for an attribute is remembered. -/
def Done (a : Attempt) (x : Attr) : Prop :=
  (given a.fields x).getD (recorded a.p a.asic x) = recorded a.p a.asic x

/-- The attempt is left as it may be, or goes on with this. -/
def Lands (c : Attr → Option Value) (Q : Attempt → Prop) (r : Result) : Prop :=
  Safe (fun e => ¬ Sound c e.left) Q r

/-- An attempt may be left as it is if it is sound, and saved. -/
theorem lands_error (h : Sound c a) (hsaved : a.saved = a.p) {Q : Attempt → Prop} :
    Lands c Q (.error a) := by
  intro hbad
  rw [left_eq hsaved] at hbad
  exact hbad h

/-- What an attribute comes to: it is done, and of the others nothing has changed. -/
structure Applied (c : Attr → Option Value) (x : Attr) (a a' : Attempt) : Prop where
  sound : Sound c a'
  saved : a'.saved = a'.p
  fields : a'.fields = a.fields
  self : Done a' x
  others : ∀ y, y ≠ x → recorded a'.p a'.asic y = recorded a.p a.asic y

/-- What was done stays done. -/
theorem Applied.keeps (h : Applied c x a a') (hy : y ≠ x) (hdone : Done a y) : Done a' y := by
  unfold Done
  rw [h.fields, h.others y hy]
  exact hdone

theorem applied_self (h : Sound c a) (hsaved : a.saved = a.p) (hdone : Done a x) :
    Applied c x a a :=
  ⟨h, hsaved, rfl, hdone, fun _ _ => rfl⟩

/-- An attribute for which nothing is given is done. -/
theorem done_of_none (h : given a.fields x = none) : Done a x := by
  unfold Done
  rw [h]
  rfl

/-- **An attribute is set**, to the value that is given, in the ASIC and in `m_portList`. -/
theorem applied_set (h : Sound c a) (hx : x = .speed → a'.p.m_speed ≠ 0)
    (hgiven : given a.fields x = some (recorded a'.p a'.asic x))
    (hheld : held a'.p a'.asic x = recorded a'.p a'.asic x)
    (hothers : ∀ y, y ≠ x → recorded a'.p a'.asic y = recorded a.p a.asic y ∧
      held a'.p a'.asic y = held a.p a.asic y)
    (hsaved : a'.saved = a'.p) (hfields : a'.fields = a.fields) (htask : a'.task = a.task) :
    Applied c x a a' := by
  have hspeed : x ≠ .speed → a'.p.m_speed = a.p.m_speed := by
    intro hne
    have hrec := (hothers .speed hne.symm).1
    exact Value.num.inj (Option.some.inj hrec)
  refine ⟨⟨?_, ?_, ?_, ?_, ?_⟩, hsaved, hfields, ?_, fun y hy => (hothers y hy).1⟩
  · rw [htask]
    exact h.task
  · rw [htask, hfields]
    exact h.reads
  · intro hzero
    have hne : x ≠ .speed := fun heq => hx heq hzero
    rw [hfields]
    exact h.speed ((hspeed hne).symm.trans hzero)
  · intro y
    rw [hfields, h.asked y]
    by_cases hy : y = x
    · rw [hy, hgiven]
      rfl
    · rw [(hothers y hy).1]
  · intro y hguard
    by_cases hy : y = x
    · rw [hy]
      exact hheld
    · rw [(hothers y hy).1, (hothers y hy).2]
      refine h.agrees y fun heq => ?_
      rw [← hspeed fun hxs => hy (heq.trans hxs.symm)]
      exact hguard heq
  · unfold Done
    rw [hfields, hgiven]
    rfl

theorem applyMtu_spec (h : Sound c a) (hsaved : a.saved = a.p) :
    Lands c (Applied c .mtu a) (applyMtu answers a) := by
  unfold applyMtu
  split_ifs with hset hok
  · refine applied_set h nofun (if_neg hset.1) ?_ ?_ rfl rfl rfl
    · show some (Value.num (a.fields.mtu + 22 - 22)) = some (Value.num a.fields.mtu)
      rw [UInt32.add_sub_cancel]
    · intro y hy
      cases y <;> first | exact ⟨rfl, rfl⟩ | exact absurd rfl hy
  · exact lands_error h hsaved
  · refine applied_self h hsaved ?_
    by_cases hzero : a.fields.mtu = 0
    · exact done_of_none (if_pos hzero)
    · have heq : a.fields.mtu = a.p.m_mtu := not_not.mp fun hne => hset ⟨hzero, hne⟩
      unfold Done
      rw [show given a.fields .mtu = some (some (.num a.fields.mtu)) from if_neg hzero, heq]
      rfl

/-- A given value was asked for by a field of the task. -/
theorem Sound.asked_by (h : Sound c a) {value : Option Value}
    (hgiven : given a.fields x = some value) : ∃ v, x.Regular v ∧ x.asked v = value := by
  rw [h.reads.given] at hgiven
  obtain ⟨v, hv, hasked⟩ := Option.map_eq_some_iff.mp hgiven
  exact ⟨v, h.task.attrs x v (lastValue_eq_some hv), hasked⟩

theorem applyFec_spec (h : Sound c a) (hsaved : a.saved = a.p) :
    Lands c (Applied c .fec a) (applyFec answers a) := by
  unfold applyFec
  by_cases hempty : a.fields.fec_mode = ""
  · rw [if_neg (not_not.mpr hempty)]
    exact applied_self h hsaved (done_of_none (if_pos hempty))
  · rw [if_pos hempty]
    have hgiven : given a.fields .fec = some ((fec_mode_map a.fields.fec_mode).map .fec) :=
      if_neg hempty
    cases hmode : fec_mode_map a.fields.fec_mode with
    | none =>
      -- the task asks for a mode that is known
      obtain ⟨v, hv, hasked⟩ := h.asked_by hgiven
      rw [hmode] at hasked
      exact absurd (Option.map_eq_none_iff.mp hasked) hv
    | some mode =>
      rw [hmode] at hgiven
      by_cases heq : a.p.m_fec_mode = mode
      · show Lands c _ (if a.p.m_fec_mode ≠ mode then _ else _)
        rw [if_neg (not_not.mpr heq)]
        refine applied_self h hsaved ?_
        unfold Done
        rw [hgiven, ← heq]
        rfl
      · show Lands c _ (if a.p.m_fec_mode ≠ mode then _ else _)
        rw [if_pos heq]
        by_cases hok : answers.setPortFec = true
        · rw [if_pos hok]
          refine applied_set h nofun hgiven rfl ?_ rfl rfl rfl
          intro y hy
          cases y <;> first | exact ⟨rfl, rfl⟩ | exact absurd rfl hy
        · rw [if_neg hok]
          have hleft : Sound c a.left := left_eq hsaved ▸ h
          exact fun hbad => hbad hleft

theorem applyLearnMode_spec (h : Sound c a) (hsaved : a.saved = a.p) :
    Lands c (Applied c .learn_mode a) (applyLearnMode answers a) := by
  unfold applyLearnMode
  by_cases hset : a.fields.learn_mode ≠ "" ∧ a.p.m_learn_mode ≠ a.fields.learn_mode
  · rw [if_pos hset]
    have hgiven : given a.fields .learn_mode
        = some ((learn_mode_map a.fields.learn_mode).map .learn) := if_neg hset.1
    by_cases hbridge : a.p.m_bridge_port_id = SAI_NULL_OBJECT_ID
    · show Lands c _ (if a.p.m_bridge_port_id ≠ SAI_NULL_OBJECT_ID then _ else _)
      rw [if_neg (not_not.mpr hbridge)]
      refine applied_set h nofun hgiven (if_pos hbridge) ?_ rfl rfl rfl
      intro y hy
      cases y <;> first | exact ⟨rfl, rfl⟩ | exact absurd rfl hy
    · show Lands c _ (if a.p.m_bridge_port_id ≠ SAI_NULL_OBJECT_ID then _ else _)
      rw [if_pos hbridge]
      cases hmode : learn_mode_map a.fields.learn_mode with
      | none => exact lands_error h hsaved
      | some mode =>
        by_cases hok : answers.setBridgePortLearnMode = true
        · show Lands c _ (if answers.setBridgePortLearnMode then _ else _)
          rw [if_pos hok]
          refine applied_set h nofun hgiven ?_ ?_ rfl rfl rfl
          · refine (if_neg hbridge).trans ?_
            show some (Value.learn mode) = (learn_mode_map a.fields.learn_mode).map .learn
            rw [hmode]
            rfl
          · intro y hy
            cases y <;> first | exact ⟨rfl, rfl⟩ | exact absurd rfl hy
        · show Lands c _ (if answers.setBridgePortLearnMode then _ else _)
          rw [if_neg hok]
          exact lands_error h hsaved
  · rw [if_neg hset]
    refine applied_self h hsaved ?_
    by_cases hempty : a.fields.learn_mode = ""
    · exact done_of_none (if_pos hempty)
    · have heq : a.p.m_learn_mode = a.fields.learn_mode :=
        not_not.mp fun hne => hset ⟨hempty, hne⟩
      unfold Done
      rw [show given a.fields .learn_mode = some ((learn_mode_map a.fields.learn_mode).map .learn)
        from if_neg hempty, ← heq]
      rfl

theorem setPortPfc_accepted (h : answers.setPortPfc = true) (pfc_bitmask : UInt8) :
    setPortPfc answers a pfc_bitmask
      = match a.saved.m_pfc_asym with
        | .COMBINED => .ok { a with asic := { a.asic with PRIORITY_FLOW_CONTROL := pfc_bitmask } }
        | .SEPARATE =>
          .ok { a with asic := { a.asic with PRIORITY_FLOW_CONTROL_TX := pfc_bitmask } } :=
  if_pos h

/-- The mode of asymmetric PFC: if SAI refuses none of the calls. -/
theorem applyPfcAsym_spec (h : Sound c a) (hsaved : a.saved = a.p)
    (haccepted : PfcAccepted answers a.p a.fields) :
    Lands c (Applied c .pfc_asym a) (applyPfcAsym answers a) := by
  unfold applyPfcAsym
  by_cases hempty : a.fields.pfc_asym = ""
  · rw [if_neg (not_not.mpr hempty)]
    exact applied_self h hsaved (done_of_none (if_pos hempty))
  · rw [if_pos hempty]
    have hgiven : given a.fields .pfc_asym = some ((pfc_asym_map a.fields.pfc_asym).map .pfc) :=
      if_neg hempty
    unfold setPortPfcAsym
    cases hmode : pfc_asym_map a.fields.pfc_asym with
    | none => exact lands_error h hsaved
    | some mode =>
      rw [hmode] at hgiven
      by_cases heq : a.p.m_pfc_asym = mode
      · show Lands c _ (if a.p.m_pfc_asym = mode then _ else _)
        rw [if_pos heq]
        refine applied_self h hsaved ?_
        unfold Done
        rw [hgiven, ← heq]
        rfl
      · obtain ⟨hset, hbits, hrx⟩ := haccepted mode hmode heq
        show Lands c _ (if a.p.m_pfc_asym = mode then _ else _)
        rw [if_neg heq]
        show Lands c _ (if answers.setPfcMode then _ else _)
        rw [if_pos hset]
        have hbitmask : a.saved.m_pfc_bitmask = a.p.m_pfc_bitmask := by rw [hsaved]
        cases mode with
        | COMBINED =>
          rw [setPortPfc_accepted hbits]
          refine applied_set h nofun hgiven (if_pos hbitmask) ?_ rfl rfl rfl
          intro y hy
          cases y <;> first | exact ⟨rfl, rfl⟩ | exact absurd rfl hy
        | SEPARATE =>
          rw [setPortPfc_accepted hbits]
          show Lands c _ (if answers.setPfcRx then _ else _)
          rw [if_pos (hrx rfl)]
          refine applied_set h nofun hgiven (if_pos ⟨hbitmask, rfl⟩) ?_ rfl rfl rfl
          intro y hy
          cases y <;> first | exact ⟨rfl, rfl⟩ | exact absurd rfl hy

/-- A serdes attribute is set whenever it is given. -/
theorem setPortSerdesAttribute_spec {serdes_val : List UInt32} {answer : Bool} {asic : Asic}
    (h : Sound c a) (hsaved : a.saved = a.p) (hx : x ≠ .speed)
    (hgiven : given a.fields x = if serdes_val = [] then none else some (some (.list serdes_val)))
    (hrecorded : recorded a.p asic x = some (.list serdes_val))
    (hheld : held a.p asic x = some (.list serdes_val))
    (hothers : ∀ y, y ≠ x → recorded a.p asic y = recorded a.p a.asic y ∧
      held a.p asic y = held a.p a.asic y) :
    Lands c (Applied c x a) (setPortSerdesAttribute a serdes_val answer asic) := by
  unfold setPortSerdesAttribute
  split_ifs with hset hok
  · refine applied_set h (fun heq => absurd heq hx) ?_ (hheld.trans hrecorded.symm) hothers
      hsaved rfl rfl
    rw [hgiven, if_neg hset, hrecorded]
  · exact lands_error h hsaved
  · exact applied_self h hsaved (done_of_none (hgiven.trans (if_pos (not_not.mp hset))))

theorem applyPreemphasis_spec (h : Sound c a) (hsaved : a.saved = a.p) :
    Lands c (Applied c .preemphasis a) (applyPreemphasis answers a) := by
  refine setPortSerdesAttribute_spec h hsaved nofun rfl rfl rfl fun y hy => ?_
  cases y <;> first | exact ⟨rfl, rfl⟩ | exact absurd rfl hy

theorem applyIdriver_spec (h : Sound c a) (hsaved : a.saved = a.p) :
    Lands c (Applied c .idriver a) (applyIdriver answers a) := by
  refine setPortSerdesAttribute_spec h hsaved nofun rfl rfl rfl fun y hy => ?_
  cases y <;> first | exact ⟨rfl, rfl⟩ | exact absurd rfl hy

theorem applyIpredriver_spec (h : Sound c a) (hsaved : a.saved = a.p) :
    Lands c (Applied c .ipredriver a) (applyIpredriver answers a) := by
  refine setPortSerdesAttribute_spec h hsaved nofun rfl rfl rfl fun y hy => ?_
  cases y <;> first | exact ⟨rfl, rfl⟩ | exact absurd rfl hy

theorem applyAdminStatus_spec (h : Sound c a) (hsaved : a.saved = a.p) :
    Lands c (Applied c .admin_status a) (applyAdminStatus answers a) := by
  unfold applyAdminStatus
  by_cases hset : a.fields.admin_status ≠ "" ∧
      a.p.m_admin_state_up ≠ decide (a.fields.admin_status = "up")
  · show Lands c _ (if _ then _ else _)
    rw [if_pos hset]
    by_cases hok : answers.setPortAdminStatus = true
    · rw [if_pos hok]
      refine applied_set h nofun (if_neg hset.1) rfl ?_ rfl rfl rfl
      intro y hy
      cases y <;> first | exact ⟨rfl, rfl⟩ | exact absurd rfl hy
    · rw [if_neg hok]
      exact lands_error h hsaved
  · show Lands c _ (if _ then _ else _)
    rw [if_neg hset]
    refine applied_self h hsaved ?_
    by_cases hempty : a.fields.admin_status = ""
    · exact done_of_none (if_pos hempty)
    · have heq : a.p.m_admin_state_up = decide (a.fields.admin_status = "up") :=
        not_not.mp fun hne => hset ⟨hempty, hne⟩
      unfold Done
      rw [show given a.fields .admin_status
        = some (some (.flag (decide (a.fields.admin_status = "up")))) from if_neg hempty, ← heq]
      rfl

/-! ### The speed -/

/-- The port is down. -/
def Attempt.down (a : Attempt) : Attempt :=
  { a with
    asic := { a.asic with ADMIN_STATE := false }
    p := { a.p with m_admin_state_up := false } }.save

/-- The port is brought down, for a task that says whether it is to be up. -/
theorem Sound.down (h : Sound c a) (hadmin : a.fields.admin_status ≠ "") : Sound c a.down := by
  refine ⟨h.task, h.reads, h.speed, fun x => ?_, fun x hguard => ?_⟩
  · rw [h.asked x]
    cases x with
    | admin_status =>
      have hgiven : given a.fields .admin_status
          = some (some (.flag (decide (a.fields.admin_status = "up")))) := if_neg hadmin
      show _ = (given a.fields .admin_status).getD _
      rw [hgiven]
      rfl
    | _ => rfl
  · cases x with
    | admin_status => rfl
    | autoneg => exact h.agrees .autoneg hguard
    | speed => exact h.agrees .speed hguard
    | mtu => exact h.agrees .mtu hguard
    | fec => exact h.agrees .fec hguard
    | learn_mode => exact h.agrees .learn_mode hguard
    | pfc_asym => exact h.agrees .pfc_asym hguard
    | preemphasis => rfl
    | idriver => rfl
    | ipredriver => rfl

/-- The speed is done; the admin state may have changed if the task names it. -/
structure SpeedApplied (c : Attr → Option Value) (a a' : Attempt) : Prop where
  sound : Sound c a'
  saved : a'.saved = a'.p
  fields : a'.fields = a.fields
  self : Done a' .speed
  others : ∀ y, y ≠ .speed → y ≠ .admin_status →
    recorded a'.p a'.asic y = recorded a.p a.asic y

theorem Applied.speedApplied (h : Applied c .speed a a') : SpeedApplied c a a' :=
  ⟨h.sound, h.saved, h.fields, h.self, fun y hy _ => h.others y hy⟩

theorem Sound.auto_neg_mode (h : Sound c a) : a.asic.AUTO_NEG_MODE = a.p.m_autoneg :=
  Value.flag.inj (Option.some.inj (h.agrees .autoneg nofun))

theorem setPortSpeed_spec (h : Sound c a) (hsaved : a.saved = a.p)
    (hauto : a.p.m_autoneg = false) (hspeed : a.fields.speed ≠ 0) :
    Lands c (Applied c .speed a) (setPortSpeed answers a) := by
  unfold setPortSpeed
  by_cases hok : answers.setPortSpeed = true
  · rw [if_pos hok]
    refine applied_set h (fun _ => hspeed) (if_neg hspeed) ?_ ?_ rfl rfl rfl
    · show (if a.asic.AUTO_NEG_MODE then _ else some (Value.num a.fields.speed)) = _
      rw [h.auto_neg_mode, hauto]
      rfl
    · intro y hy
      cases y <;> first | exact ⟨rfl, rfl⟩ | exact absurd rfl hy
  · rw [if_neg hok]
    exact lands_error h hsaved

/-- Whether the attempt, auto negotiation being done, sets the speed of the port. -/
def SpeedOpen (a : Attempt) : Prop :=
  a.p.m_autoneg = false ∧ a.fields.speed ≠ 0 ∧ a.fields.speed ≠ a.p.m_speed

theorem applySpeed_spec (h : Sound c a) (hsaved : a.p.m_speed ≠ 0 → a.saved = a.p)
    (hdown : SpeedOpen a → a.p.m_admin_state_up = true → answers.isSpeedSupported = true →
      answers.setPortAdminDown = true → a.fields.admin_status ≠ "") :
    Lands c (SpeedApplied c a) (applySpeed answers a) := by
  unfold applySpeed
  by_cases hset : a.fields.speed ≠ 0 ∧ a.fields.speed ≠ a.p.m_speed
  · rw [if_pos hset]
    have hsave : Sound c a.save := ⟨h.task, h.reads, h.speed, h.asked, h.agrees⟩
    show Lands c _ (if a.p.m_autoneg then _ else _)
    cases hauto : a.p.m_autoneg with
    | true =>
      rw [if_pos rfl]
      by_cases hok : answers.setPortAdvSpeed = true
      · rw [if_pos hok]
        refine Applied.speedApplied
          (applied_set h (fun _ => hset.1) (if_neg hset.1) ?_ ?_ rfl rfl rfl)
        · show (if a.asic.AUTO_NEG_MODE then some (Value.num a.fields.speed) else _) = _
          rw [h.auto_neg_mode, hauto]
          rfl
        · intro y hy
          cases y <;> first | exact ⟨rfl, rfl⟩ | exact absurd rfl hy
      · rw [if_neg hok]
        exact lands_error hsave rfl
    | false =>
      rw [if_neg Bool.false_ne_true]
      by_cases hsupported : answers.isSpeedSupported = true
      · rw [if_neg (not_not.mpr hsupported)]
        show Lands c _ (if a.p.m_admin_state_up then _ else _)
        by_cases hup : a.p.m_admin_state_up = true
        · rw [if_pos hup]
          by_cases hok : answers.setPortAdminDown = true
          · rw [if_pos hok]
            -- the port stays down until the task sets its admin state
            have hadmin := hdown ⟨hauto, hset⟩ hup hsupported hok
            refine (setPortSpeed_spec (a := a.down) (h.down hadmin) rfl hauto hset.1).imp ?_
            intro a' _ h'
            refine ⟨h'.sound, h'.saved, h'.fields, h'.self, fun y hy hne => ?_⟩
            rw [h'.others y hy]
            cases y <;> first | rfl | exact absurd rfl hne
          · rw [if_neg hok]
            exact lands_error hsave rfl
        · rw [if_neg hup]
          refine (setPortSpeed_spec hsave rfl hauto hset.1).imp fun a' _ h' => ?_
          exact ⟨h'.sound, h'.saved, h'.fields, h'.self, fun y hy _ => h'.others y hy⟩
      · rw [if_pos hsupported]
        exact lands_error hsave rfl
  · rw [if_neg hset]
    have hgiven : a.fields.speed ≠ 0 → a.fields.speed = a.p.m_speed :=
      fun hne => not_not.mp fun hdiff => hset ⟨hne, hdiff⟩
    have hnonzero : a.p.m_speed ≠ 0 :=
      fun hzero => h.speed hzero ((hgiven (h.speed hzero)).trans hzero)
    refine ⟨h, hsaved hnonzero, rfl, ?_, fun _ _ _ => rfl⟩
    by_cases hzero : a.fields.speed = 0
    · exact done_of_none (if_pos hzero)
    · unfold Done
      rw [show given a.fields .speed = some (some (.num a.fields.speed)) from if_neg hzero,
        hgiven hzero]
      rfl

/-! ### Auto negotiation -/

/-- What `to_string` writes of a speed is read. -/
theorem readU32_to_string (n : UInt32) :
    readU32 (String.ofList (Numeral.to_string n.toNat)) = some n := by
  have hlt : n.toNat < 2 ^ 64 := lt_trans n.toNat_lt (by decide)
  have hne : Numeral.to_string n.toNat ≠ [] := by
    intro hnil
    have hread := Numeral.readInt_to_string (n := (n.toNat : ℤ))
    rw [hnil, Numeral.readInt_nil] at hread
    cases hread
  unfold readU32 stoul
  rw [String.toList_ofList, Numeral.strtoull_to_string hlt]
  show (if [] = Numeral.to_string n.toNat ∨ false = true then none else some n.toNat).map _ = _
  rw [if_neg (not_or.mpr ⟨hne.symm, Bool.false_ne_true⟩)]
  exact congrArg some (UInt32.ofNat_toNat)

/-- The speed that is to be applied again is a field more. -/
theorem TaskFields.concat_speed {n : UInt32} (h : TaskFields fields) (hn : n ≠ 0) :
    TaskFields (fields ++ [("speed", String.ofList (Numeral.to_string n.toNat))]) := by
  refine ⟨⟨fun x v hv => ?_, fun v hv => ?_⟩, fun x hx => ?_⟩
  · rcases List.mem_append.mp hv with hv | hv
    · exact h.attrs x v hv
    · obtain ⟨hname, hvalue⟩ := Prod.mk.inj (List.mem_singleton.mp hv)
      obtain rfl : x = .speed := field_injective hname
      rw [hvalue]
      exact ⟨n, hn, readU32_to_string n⟩
  · rcases List.mem_append.mp hv with hv | hv
    · exact h.lanes v hv
    · exact absurd (Prod.mk.inj (List.mem_singleton.mp hv)).1 (by decide)
  · have hname : "speed" ≠ x.field := by
      cases x <;> first | exact absurd hx id | decide
    rw [List.filter_append, List.filter_cons_of_neg (by simpa using hname), List.filter_nil,
      List.append_nil]
    exact h.single x hx

/-- The variables, with the speed that is to be applied again. -/
theorem ReadsAll.concat_speed {n : UInt32} (h : ReadsAll fields r) (hn : n ≠ 0) :
    ReadsAll (fields ++ [("speed", String.ofList (Numeral.to_string n.toNat))])
      { r with speed := n } := by
  refine ⟨fun x => ?_, h.an⟩
  rw [lastValue_concat]
  by_cases hx : x = .speed
  · subst hx
    show (if n = 0 then none else some (some (Value.num n)))
      = some ((readU32 (String.ofList (Numeral.to_string n.toNat))).map Value.num)
    rw [if_neg hn, readU32_to_string]
    rfl
  · have hname : "speed" ≠ x.field := fun hname =>
      hx (field_injective (x := .speed) hname).symm
    rw [if_neg hname, ← h.given x]
    cases x <;> first | rfl | exact absurd rfl hx

/-- Auto negotiation is done; the speed is to be applied if it has changed. -/
structure AutoNegApplied (c : Attr → Option Value) (answers : Answers) (a a' : Attempt) : Prop
    where
  sound : Sound c a'
  saved : a'.p.m_speed ≠ 0 → a'.saved = a'.p
  self : Done a' .autoneg
  up : a'.p.m_admin_state_up = a.p.m_admin_state_up
  pfc : a'.p.m_pfc_asym = a.p.m_pfc_asym
  admin_status : a'.fields.admin_status = a.fields.admin_status
  pfc_asym : a'.fields.pfc_asym = a.fields.pfc_asym
  opens : SpeedOpen a' → SetsSpeed a.p a.fields ∧
    (ChangesAutoNeg a.p a.fields → answers.setPortAutoNeg = true)

theorem applyAutoNeg_spec (h : Sound c a) (hsaved : a.saved = a.p) :
    Lands c (AutoNegApplied c answers a) (applyAutoNeg answers a) := by
  unfold applyAutoNeg
  by_cases hset : a.fields.an ≠ -1 ∧ a.fields.an ≠ (if a.p.m_autoneg then 1 else 0)
  · rw [if_pos hset]
    have hgiven : given a.fields .autoneg = some (some (.flag (decide (a.fields.an = 1)))) :=
      if_neg hset.1
    have hflag : decide (a.fields.an ≠ 0) = decide (a.fields.an = 1) := by
      rcases h.reads.an with han | han | han
      · exact absurd han hset.1
      · rw [han]
        rfl
      · rw [han]
        rfl
    by_cases hok : answers.setPortAutoNeg = true
    · rw [if_pos hok]
      generalize hnew : (if a.fields.speed ≠ 0 then a.fields.speed else a.p.m_speed) = new_speed
      have hne : new_speed ≠ 0 := by
        rw [← hnew]
        split_ifs with hzero
        · exact hzero
        · exact fun hspeed => hzero (h.speed hspeed)
      have hconfigured : c .speed = some (.num new_speed) := by
        rw [h.asked .speed, ← hnew]
        by_cases hzero : a.fields.speed = 0
        · rw [show given a.fields .speed = none from if_pos hzero,
            if_neg (not_not.mpr hzero)]
          rfl
        · rw [show given a.fields .speed = some (some (.num a.fields.speed)) from if_neg hzero,
            if_pos hzero]
          rfl
      show Lands c _ (if (if a.fields.speed ≠ 0 then a.fields.speed else a.p.m_speed) ≠ 0
        then _ else _)
      rw [hnew, if_pos hne]
      refine ⟨⟨h.task.concat_speed hne, h.reads.concat_speed hne, fun _ => hne, ?_, ?_⟩,
        fun hspeed => absurd rfl hspeed, ?_, rfl, rfl, rfl, rfl, ?_⟩
      · intro x
        cases x with
        | autoneg =>
          rw [h.asked .autoneg, hgiven]
          show _ = (given a.fields .autoneg).getD _
          rw [hgiven]
          rfl
        | speed =>
          rw [hconfigured]
          show _ = (if new_speed = 0 then none else some (some (Value.num new_speed))).getD _
          rw [if_neg hne]
          rfl
        | _ => exact h.asked _
      · intro x hguard
        cases x with
        | autoneg =>
          show some (Value.flag (decide (a.fields.an = 1)))
            = some (Value.flag (decide (a.fields.an ≠ 0)))
          rw [hflag]
        | speed => exact absurd rfl (hguard rfl)
        | mtu => exact h.agrees .mtu nofun
        | fec => exact h.agrees .fec nofun
        | learn_mode => exact h.agrees .learn_mode nofun
        | pfc_asym => exact h.agrees .pfc_asym nofun
        | preemphasis => rfl
        | idriver => rfl
        | ipredriver => rfl
        | admin_status => exact h.agrees .admin_status nofun
      · show (given a.fields .autoneg).getD _ = some (Value.flag (decide (a.fields.an ≠ 0)))
        rw [hgiven, hflag]
        rfl
      · rintro ⟨hauto, -, -⟩
        have hzero : a.fields.an = 0 := not_not.mp (of_decide_eq_false hauto)
        refine ⟨.inl ⟨hset, hzero, ?_⟩, fun _ => hok⟩
        by_cases hspeed : a.fields.speed = 0
        · exact .inr fun hp => h.speed hp hspeed
        · exact .inl hspeed
    · rw [if_neg hok]
      exact lands_error h hsaved
  · rw [if_neg hset]
    refine ⟨h, fun _ => hsaved, ?_, rfl, rfl, rfl, rfl, fun hopen => ?_⟩
    · by_cases hnone : a.fields.an = -1
      · exact done_of_none (if_pos hnone)
      · have heq : a.fields.an = (if a.p.m_autoneg then 1 else 0) :=
          not_not.mp fun hdiff => hset ⟨hnone, hdiff⟩
        unfold Done
        rw [show given a.fields .autoneg = some (some (.flag (decide (a.fields.an = 1))))
          from if_neg hnone, heq]
        cases hauto : a.p.m_autoneg <;> simp [recorded, hauto]
    · exact ⟨.inr ⟨hset, hopen.1, hopen.2⟩, fun hchanges => absurd hchanges hset⟩

/-! ### A whole attempt -/

/-- What was done stays done, and the attribute is done too. -/
theorem Applied.dones {xs : List Attr} (h : Applied c x a a') (hdone : ∀ y ∈ xs, Done a y) :
    ∀ y ∈ x :: xs, Done a' y := by
  intro y hy
  by_cases hyx : y = x
  · rw [hyx]
    exact h.self
  · rcases List.mem_cons.mp hy with rfl | hmem
    · exact absurd rfl hyx
    · exact h.keeps hyx (hdone y hmem)

theorem Applied.m_pfc_asym (h : Applied c x a a') (hx : x ≠ .pfc_asym) :
    a'.p.m_pfc_asym = a.p.m_pfc_asym :=
  Value.pfc.inj (Option.some.inj (h.others .pfc_asym hx.symm))

/-- An attempt that came to its end: everything that is given is remembered. -/
structure Finished (c : Attr → Option Value) (a : Attempt) : Prop where
  sound : Sound c a
  saved : a.saved = a.p
  done : ∀ x, Done a x

/-- The speed is remembered at the end of an attempt. -/
theorem Finished.speed (h : Finished c a) : a.p.m_speed ≠ 0 := by
  intro hzero
  have hne := h.sound.speed hzero
  have hdone := h.done .speed
  unfold Done at hdone
  rw [show given a.fields .speed = some (some (.num a.fields.speed)) from if_neg hne] at hdone
  have heq : a.fields.speed = a.p.m_speed := Value.num.inj (Option.some.inj hdone)
  exact hne (heq.trans hzero)

/-- **A whole attempt**, attribute by attribute. -/
theorem applyFields_spec (h : Sound c a) (hsaved : a.saved = a.p)
    (hdown : BringsDown answers a.p a.fields → a.fields.admin_status ≠ "")
    (haccepted : PfcAccepted answers a.p a.fields) :
    Lands c (Finished c) (applyFields answers a) := by
  refine (applyAutoNeg_spec h hsaved).bind fun a₁ _ h₁ => ?_
  have hdown₁ : SpeedOpen a₁ → a₁.p.m_admin_state_up = true → answers.isSpeedSupported = true →
      answers.setPortAdminDown = true → a₁.fields.admin_status ≠ "" := by
    intro hopen hup hsupported hok
    rw [h₁.admin_status]
    obtain ⟨hsets, hauto⟩ := h₁.opens hopen
    exact hdown ⟨h₁.up ▸ hup, hsets, hauto, hsupported, hok⟩
  refine (applySpeed_spec h₁.sound h₁.saved hdown₁).bind fun a₂ _ h₂ => ?_
  have hdone₂ : ∀ y ∈ [Attr.speed, .autoneg], Done a₂ y := by
    intro y hy
    rcases List.mem_cons.mp hy with rfl | hy
    · exact h₂.self
    · rw [List.mem_singleton.mp hy]
      unfold Done
      rw [h₂.fields, h₂.others .autoneg nofun nofun]
      exact h₁.self
  refine (applyMtu_spec h₂.sound h₂.saved).bind fun a₃ _ h₃ => ?_
  refine (applyFec_spec h₃.sound h₃.saved).bind fun a₄ _ h₄ => ?_
  refine (applyLearnMode_spec h₄.sound h₄.saved).bind fun a₅ _ h₅ => ?_
  have haccepted₅ : PfcAccepted answers a₅.p a₅.fields := by
    have hmode : a₅.p.m_pfc_asym = a.p.m_pfc_asym := by
      have h₂mode : a₂.p.m_pfc_asym = a₁.p.m_pfc_asym :=
        Value.pfc.inj (Option.some.inj (h₂.others .pfc_asym nofun nofun))
      rw [h₅.m_pfc_asym nofun, h₄.m_pfc_asym nofun, h₃.m_pfc_asym nofun, h₂mode, h₁.pfc]
    have hfield : a₅.fields.pfc_asym = a.fields.pfc_asym := by
      rw [h₅.fields, h₄.fields, h₃.fields, h₂.fields, h₁.pfc_asym]
    unfold PfcAccepted
    rw [hmode, hfield]
    exact haccepted
  refine (applyPfcAsym_spec h₅.sound h₅.saved haccepted₅).bind fun a₆ _ h₆ => ?_
  refine (applyPreemphasis_spec h₆.sound h₆.saved).bind fun a₇ _ h₇ => ?_
  refine (applyIdriver_spec h₇.sound h₇.saved).bind fun a₈ _ h₈ => ?_
  refine (applyIpredriver_spec h₈.sound h₈.saved).bind fun a₉ _ h₉ => ?_
  refine (applyAdminStatus_spec h₉.sound h₉.saved).imp fun a' _ h' => ?_
  have hdone₆ := h₆.dones (h₅.dones (h₄.dones (h₃.dones hdone₂)))
  have hdone := h'.dones (h₉.dones (h₈.dones (h₇.dones hdone₆)))
  refine ⟨h'.sound, h'.saved, fun x => hdone x ?_⟩
  cases x <;> decide

/-! ### Runs -/

/-- The text that a pending task has for an attribute. -/
def pendingValue (pending : Option KeyOpFieldsValuesTuple) (x : Attr) : Option String :=
  pending.bind fun t => lastValue x.field t.kfvFieldsValues

/-- What holds whatever attempts failed: the value that is configured is the one that the
pending task asks for, or else the one that is remembered, and what is remembered is held. -/
structure Inv (c : Attr → Option Value) (s : St) : Prop where
  pending : ∀ t, s.pending = some t → t.kfvOp = SET_COMMAND ∧ TaskFields t.kfvFieldsValues
  speed : s.port.m_speed = 0 → pendingValue s.pending .speed ≠ none
  asked : ∀ x, c x = ((pendingValue s.pending x).map x.asked).getD (recorded s.port s.asic x)
  agrees : ∀ x, (x = .speed → s.port.m_speed ≠ 0) →
    held s.port s.asic x = recorded s.port s.asic x

variable {s s' : St} {e : Event}

/-- With no task pending the port holds what is configured. -/
theorem Inv.held_eq (h : Inv c s) (hidle : s.pending = none) (x : Attr) :
    held s.port s.asic x = c x := by
  have hasked := h.asked x
  rw [hidle] at hasked
  rw [hasked]
  refine h.agrees x fun _ hzero => h.speed hzero ?_
  rw [hidle]
  rfl

/-- A pending task is combined with the entry. -/
theorem addToSlot_set {slot : Option KeyOpFieldsValuesTuple} {entry : KeyOpFieldsValuesTuple}
    (hslot : ∀ t, slot = some t → t.kfvOp = SET_COMMAND ∧ TaskFields t.kfvFieldsValues)
    (hentry : RegularEntry entry) :
    ∃ t, addToSlot slot entry = some t ∧ t.kfvOp = SET_COMMAND ∧
      TaskFields t.kfvFieldsValues ∧
      ∀ x, pendingValue (some t) x
        = (lastValue x.field entry.kfvFieldsValues).or (pendingValue slot x) := by
  cases slot with
  | none =>
    refine ⟨entry, rfl, hentry.set, .of_nodup hentry.fields hentry.nodup, fun x => ?_⟩
    exact (Option.or_none).symm
  | some t =>
    have hop : entry.kfvOp ≠ DEL_COMMAND := by
      rw [hentry.set]
      decide
    refine ⟨_, if_neg hop, hentry.set, (hslot t rfl).2.combineValues hentry.fields, fun x => ?_⟩
    exact lastValue_combineValues

theorem Inv.receive {entry : KeyOpFieldsValuesTuple} (h : Inv c s) (hentry : RegularEntry entry) :
    Inv (configure c (.receive entry)) { s with pending := addToSlot s.pending entry } := by
  obtain ⟨t, ht, hop, hfields, hvalue⟩ := addToSlot_set h.pending hentry
  rw [ht]
  refine ⟨?_, ?_, ?_, h.agrees⟩
  · rintro _ ⟨⟩
    exact ⟨hop, hfields⟩
  · intro hzero hnone
    rw [hvalue, Option.or_eq_none_iff] at hnone
    exact h.speed hzero hnone.2
  · intro x
    rw [hvalue]
    show (match lastValue x.field entry.kfvFieldsValues with
      | none => c x
      | some v => x.asked v) = _
    cases lastValue x.field entry.kfvFieldsValues with
    | none => exact h.asked x
    | some v => rfl

/-- The attempt that a pending task begins is sound. -/
theorem Inv.sound {t : KeyOpFieldsValuesTuple} (h : Inv c s) (ht : s.pending = some t)
    (hreads : ReadsAll t.kfvFieldsValues r) :
    Sound c ⟨s.port, s.port, s.asic, r, t.kfvFieldsValues⟩ := by
  have hvalue : ∀ x : Attr, pendingValue s.pending x = lastValue x.field t.kfvFieldsValues := by
    intro x
    rw [ht]
    rfl
  refine ⟨(h.pending t ht).2, hreads, fun hzero hspeed => ?_, fun x => ?_, h.agrees⟩
  · refine h.speed hzero ?_
    have hnone : given r .speed = none := if_pos hspeed
    rw [hreads.given .speed, Option.map_eq_none_iff] at hnone
    rw [hvalue]
    exact hnone
  · rw [h.asked x, hvalue, hreads.given x]

/-- What an attempt leaves behind. -/
theorem Sound.inv {t : KeyOpFieldsValuesTuple} (h : Sound c a.left) (hop : t.kfvOp = SET_COMMAND) :
    Inv c ⟨a.saved, a.asic, some ⟨t.kfvKey, t.kfvOp, a.task⟩⟩ := by
  refine ⟨?_, fun hzero hnone => ?_, fun x => ?_, h.agrees⟩
  · rintro _ ⟨⟩
    exact ⟨hop, h.task⟩
  · refine h.speed hzero (not_not.mp fun hne => ?_)
    have hgiven := h.reads.given .speed
    rw [show lastValue Attr.speed.field a.left.task = none from hnone] at hgiven
    rw [show given a.left.fields .speed = some (some (.num a.left.fields.speed)) from if_neg hne]
      at hgiven
    cases hgiven
  · rw [h.asked x, h.reads.given x]
    rfl

/-- An attempt that came to its end leaves nothing pending. -/
theorem Finished.inv (h : Finished c a) : Inv c ⟨a.saved, a.asic, none⟩ := by
  have hspeed := h.speed
  rw [h.saved]
  refine ⟨nofun, fun hzero => absurd hzero hspeed, fun x => ?_, h.sound.agrees⟩
  rw [h.sound.asked x]
  exact h.done x

/-- An attempt keeps the invariant. -/
theorem Inv.attempt (h : Inv c s) (hcalm : Calm s (.attempt answers))
    (hstep : doPortTask answers s = some s') : Inv c s' := by
  unfold doPortTask at hstep
  cases ht : s.pending with
  | none =>
    rw [ht] at hstep
    cases hstep
    exact h
  | some t =>
    obtain ⟨hop, hfields⟩ := h.pending t ht
    obtain ⟨r, hread, hreads⟩ := readFields_spec hfields
    obtain ⟨hdown, haccepted⟩ := hcalm t r ht hread
    simp only [ht, if_pos hop, hread] at hstep
    by_cases hready : answers.isPortReady = true
    · rw [if_neg (not_not.mpr hready)] at hstep
      have hlands := applyFields_spec (h.sound ht hreads) rfl hdown haccepted
      cases happly : applyFields answers ⟨s.port, s.port, s.asic, r, t.kfvFieldsValues⟩ with
      | ok a =>
        rw [happly] at hstep
        cases hstep
        exact (hlands.post happly).inv
      | error a =>
        rw [happly] at hstep
        cases hstep
        exact (not_not.mp (hlands.not_bad happly)).inv hop
    · rw [if_pos hready] at hstep
      cases hstep
      exact h

/-- **Every step keeps the invariant.** -/
theorem Inv.step (h : Inv c s) (hcalm : Calm s e) (hstep : step s e = some s') :
    Inv (configure c e) s' := by
  cases e with
  | receive entry =>
    cases hstep
    exact h.receive hcalm
  | attempt answers => exact h.attempt hcalm hstep

/-- No attempt ends in an exception. -/
theorem Inv.step_ne_none (h : Inv c s) : Ports.step s e ≠ none := by
  cases e with
  | receive entry => exact nofun
  | attempt answers =>
    show doPortTask answers s ≠ none
    unfold doPortTask
    cases ht : s.pending with
    | none => exact nofun
    | some t =>
      obtain ⟨hop, hfields⟩ := h.pending t ht
      obtain ⟨r, hread, -⟩ := readFields_spec hfields
      simp only [if_pos hop, hread]
      by_cases hready : answers.isPortReady = true
      · rw [if_neg (not_not.mpr hready)]
        split <;> exact nofun
      · rw [if_pos hready]
        exact nofun

/-- A port on which nothing is pending, and of which what is remembered is held. -/
structure Ready (s : St) : Prop where
  idle : s.pending = none
  speed : s.port.m_speed ≠ 0
  agrees : ∀ x, held s.port s.asic x = recorded s.port s.asic x

theorem Ready.inv (h : Ready s) : Inv (held s.port s.asic) s := by
  refine ⟨fun t ht => ?_, fun hzero => absurd hzero h.speed, fun x => ?_, fun x _ => h.agrees x⟩
  · rw [h.idle] at ht
    cases ht
  · rw [h.idle]
    exact h.agrees x

/-- The steps of a port that meet the condition. -/
abbrev CalmRun : St → List Event → St → Prop :=
  Run (Guarded Calm fun s e s' => step s e = some s')

theorem Inv.run {es : List Event} (h : Inv c s) (hrun : CalmRun s es s') :
    Inv (configured c es) s' := by
  refine hrun.invariant (I := fun es s => Inv (configured c es) s) h ?_
  intro es t e u ih hstep
  have hsnoc : configured c (es ++ [e]) = configure (configured c es) e :=
    List.foldl_append
  rw [hsnoc]
  exact ih.step hstep.1 hstep.2

/-- What is not named stays configured as it is. -/
theorem configured_unnamed {es : List Event} (h : Unnamed x es) : configured c es x = c x := by
  induction es generalizing c with
  | nil => rfl
  | cons e es ih =>
    show configured (configure c e) es x = c x
    rw [ih fun entry hmem => h entry (List.mem_cons_of_mem _ hmem)]
    cases e with
    | attempt answers => rfl
    | receive entry =>
      show (match lastValue x.field entry.kfvFieldsValues with
        | none => c x
        | some v => x.asked v) = c x
      rw [h entry List.mem_cons_self]

/-- **The attributes of a port converge to what is configured.**  In a run that meets the
condition, whenever no task is pending: every attribute is held as it was configured last,
and one that no entry has named in between is held as before. -/
theorem port_attributes_converge {s₀ t s : St} {es es' : List Event} (hready : Ready s₀)
    (hrun : CalmRun s₀ es t) (hrun' : CalmRun t es' s) (ht : t.pending = none)
    (hs : s.pending = none) :
    (∀ x, held s.port s.asic x = configured (held s₀.port s₀.asic) (es ++ es') x) ∧
      ∀ x, Unnamed x es' → held s.port s.asic x = held t.port t.asic x := by
  have hinv : Inv (configured (held s₀.port s₀.asic) es) t := hready.inv.run hrun
  have hconfigured : configured (held s₀.port s₀.asic) (es ++ es')
      = configured (configured (held s₀.port s₀.asic) es) es' := List.foldl_append
  constructor
  · intro x
    rw [hconfigured]
    exact (hinv.run hrun').held_eq hs x
  · intro x hx
    rw [(hinv.run hrun').held_eq hs x, configured_unnamed hx, hinv.held_eq ht x]

/-- A port that is up, with a speed of 100G. -/
def upPort : St where
  port := ⟨9100, 100000, "hardware", false, true, .NONE, SAI_NULL_OBJECT_ID, .COMBINED, 0⟩
  asic := ⟨true, false, 100000, [], 9122, .NONE, .HW, .COMBINED, 0, 0, 0, [], [], []⟩
  pending := none

theorem upPort_ready : Ready upPort := by
  refine ⟨rfl, by decide, fun x => ?_⟩
  cases x <;> decide

/-- Nothing is refused. -/
def accepted : Answers :=
  ⟨true, true, true, true, true, true, true, true, true, true, true, true, true, true, true, true⟩

/-- A SET of one field. -/
def setOf (field value : String) : KeyOpFieldsValuesTuple :=
  ⟨"Ethernet0", SET_COMMAND, [(field, value)]⟩

theorem regularEntry_setOf (hregular : x.Regular v) : RegularEntry (setOf x.field v) := by
  refine ⟨rfl, List.nodup_singleton _, fun y w hw => ?_, fun w hw => ?_⟩
  · obtain ⟨hname, rfl⟩ := Prod.mk.inj (List.mem_singleton.mp hw)
    rw [field_injective hname]
    exact hregular
  · exact absurd (Prod.mk.inj (List.mem_singleton.mp hw)).1.symm field_ne_lanes

theorem port_attributes_converge_mtu :
    ∃ s, step { upPort with pending := some (setOf "mtu" "1500") } (.attempt accepted) = some s ∧
      (∀ x, held s.port s.asic x = configured (held upPort.port upPort.asic)
        ([] ++ [.receive (setOf "mtu" "1500"), .attempt accepted]) x) ∧
      ∀ x, Unnamed x [.receive (setOf "mtu" "1500"), .attempt accepted] →
        held s.port s.asic x = held upPort.port upPort.asic x := by
  have hvalue : readU32 "1500" = some 1500 := by decide +kernel
  have hread : readFields (setOf "mtu" "1500").kfvFieldsValues = some { mtu := 1500 } := by
    simp [readFields, setOf, readField, hvalue]
  have hregular : RegularEntry (setOf "mtu" "1500") :=
    regularEntry_setOf (x := .mtu) ⟨1500, by decide, hvalue⟩
  have hstep : doPortTask accepted { upPort with pending := some (setOf "mtu" "1500") }
      = some ⟨{ upPort.port with m_mtu := 1500 }, { upPort.asic with MTU := 1522 }, none⟩ := by
    unfold doPortTask
    simp only [hread]
    rfl
  have hcalm : Calm { upPort with pending := some (setOf "mtu" "1500") } (.attempt accepted) := by
    intro t r ht hr
    cases ht
    rw [hread] at hr
    cases hr
    refine ⟨fun hdown => ?_, nofun⟩
    rcases hdown.2.1 with hsets | hsets
    · exact absurd rfl hsets.1.1
    · exact absurd rfl hsets.2.2.1
  exact ⟨_, hstep, port_attributes_converge upPort_ready .nil
    (.cons ⟨hregular, rfl⟩ (.single ⟨hcalm, hstep⟩)) rfl rfl⟩

/-- What comes in can be read. -/
def Readable (e : Event) : Prop := ∀ entry, e = .receive entry → RegularEntry entry

/-- **A SET of the speed leaves the port down**, although it does not name the admin state and
nothing is refused. -/
theorem not_port_attributes_converge :
    ¬ ∀ (s₀ s : St) (es : List Event), Ready s₀ →
      Run (Guarded (fun _ e => Readable e) fun s e s' => step s e = some s') s₀ es s →
      s.pending = none →
      (∀ x, held s.port s.asic x = configured (held s₀.port s₀.asic) es x) ∧
        ∀ x, Unnamed x es → held s.port s.asic x = held s₀.port s₀.asic x := by
  intro hclaim
  have hvalue : readU32 "40000" = some 40000 := by decide +kernel
  have hread : readFields (setOf "speed" "40000").kfvFieldsValues = some { speed := 40000 } := by
    simp [readFields, setOf, readField, hvalue]
  have hregular : RegularEntry (setOf "speed" "40000") :=
    regularEntry_setOf (x := .speed) ⟨40000, by decide, hvalue⟩
  have hstep : doPortTask accepted { upPort with pending := some (setOf "speed" "40000") }
      = some ⟨{ upPort.port with m_speed := 40000, m_admin_state_up := false },
          { upPort.asic with SPEED := 40000, ADMIN_STATE := false }, none⟩ := by
    unfold doPortTask
    simp only [hread]
    rfl
  have hfirst : Readable (.receive (setOf "speed" "40000")) := by
    rintro _ ⟨⟩
    exact hregular
  have hheld := (hclaim _ _ [.receive (setOf "speed" "40000"), .attempt accepted] upPort_ready
    (.cons ⟨hfirst, rfl⟩ (.single ⟨nofun, hstep⟩)) rfl).2 .admin_status
  have hunnamed : Unnamed .admin_status
      [.receive (setOf "speed" "40000"), .attempt accepted] := by
    intro entry hmem
    rcases List.mem_cons.mp hmem with heq | hmem
    · cases heq
      rfl
    · exact absurd (List.mem_singleton.mp hmem) nofun
  exact absurd (hheld hunnamed) (by decide)

end Orchagent.Ports
