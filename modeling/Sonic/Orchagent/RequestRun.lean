/-
Orchagent/RequestRun.lean

The grammar of the requests, and the requests of one object in turn.

A parse succeeds on the requests whose texts the functions for the types read
(`exists_parse_eq_ok_iff`), and then the getters give what was read
(`reads_of_parse_eq_ok`).  What an earlier request stored is left in the maps that `clear` does not
empty, for the names that the request does not give (`attr_items_after`).  So the parser is exact
if no text is careless and nothing is left, and only then (`request_exact`).
-/
import Sonic.Lib.Outcome
import Sonic.Orchagent.RequestGrammar

namespace Orchagent.RequestParser

open Outcome (bind_eq_ok)
open request_types_t

/-! ### The grammar of a request -/

/-- The text writes a value of the type. -/
def WellFormed (t : request_types_t) (text : String) : Prop := ∃ v, Denotes t text v

/-- The text is read, be it well formed or not. -/
def Legible (t : request_types_t) (text : String) : Prop :=
  WellFormed t text ∨ Careless t text.toList

/-- The fields that are not skipped. -/
def given (fvs : List (String × String)) : List (String × String) :=
  fvs.filter fun fv => ¬ Skipped fv.1

/-- The names of the attributes. -/
def givenNames (fvs : List (String × String)) : Finset String := ((given fvs).map Prod.fst).toFinset

/-- The text of an attribute: its last one. -/
def attrText (fvs : List (String × String)) (name : String) : Option String :=
  (given fvs).reverse.lookup name

section Grammar

variable (entry : Entry) (request_description_ : request_description_t) (key_separator_ : Char)

/-- An operation, and a key of the items that are described. -/
structure Head (wf : request_types_t → String → Prop) (request : KeyOpFieldsValuesTuple) :
    Prop where
  operation : request.op = SET_COMMAND ∨ request.op = DEL_COMMAND
  count : (keyItems key_separator_ request.key).length =
    request_description_.key_item_types.length
  key : ∀ p ∈ request_description_.key_item_types.zip (keyItems key_separator_ request.key),
    p.1 ∈ keyTypes ∧ wf p.1 p.2

/-- A field that is skipped or known. -/
def Field (wf : request_types_t → String → Prop) (fv : String × String) : Prop :=
  Skipped fv.1 ∨
    ∃ t, request_description_.attr_item_types fv.1 = some t ∧ t ∈ attrTypes ∧ wf t fv.2

structure Grammar (wf : request_types_t → String → Prop) (request : KeyOpFieldsValuesTuple) :
    Prop extends Head request_description_ key_separator_ wf request where
  fields : ∀ fv ∈ request.fieldsValues, Field request_description_ wf fv
  del : request.op = DEL_COMMAND → given request.fieldsValues = []
  mandatory : request.op = SET_COMMAND →
    ∀ attr ∈ request_description_.mandatory_attr_items, attr ∈ givenNames request.fieldsValues

/-- The getters give the values that the texts of a request denote. -/
structure Reads (request : KeyOpFieldsValuesTuple) (s : Request) : Prop where
  operation : s.getOperation = some request.op
  full_key : s.getFullKey = some request.key
  names : s.getAttrFieldNames = some (givenNames request.fieldsValues)
  key : ∀ t position v, s.getKey t position = some v ↔
    request_description_.key_item_types[position]? = some t ∧
      ∃ item, (keyItems key_separator_ request.key)[position]? = some item ∧ Denotes t item v
  attr : ∀ t name v, s.getAttr t name = some v ↔
    request_description_.attr_item_types name = some t ∧
      ∃ text, attrText request.fieldsValues name = some text ∧ Denotes t text v

/-- What should hold of a request that is parsed after others. -/
structure Exact (requests : List KeyOpFieldsValuesTuple) (request : KeyOpFieldsValuesTuple) :
    Prop where
  /-- It is accepted if it is in the grammar. -/
  accepts : (∃ s, parse entry request_description_ key_separator_
      (after entry request_description_ key_separator_ requests) request = .ok s) ↔
    Grammar request_description_ key_separator_ WellFormed request
  /-- Its values are those of its texts. -/
  reads : ∀ s, parse entry request_description_ key_separator_
      (after entry request_description_ key_separator_ requests) request = .ok s →
    Reads request_description_ key_separator_ request s
  /-- The result is that of the request alone. -/
  same_result : (parse entry request_description_ key_separator_
      (after entry request_description_ key_separator_ requests) request).exception? =
    (parse entry request_description_ key_separator_ Request.initial request).exception?
  /-- The attributes are those of the request alone. -/
  same_attrs : ∀ s s', parse entry request_description_ key_separator_
      (after entry request_description_ key_separator_ requests) request = .ok s →
    parse entry request_description_ key_separator_ Request.initial request = .ok s' →
    ∀ t name, s.getAttr t name = s'.getAttr t name

/-! ### The condition -/

/-- The texts of a request that are read, with their types. -/
def texts (request : KeyOpFieldsValuesTuple) : List (request_types_t × String) :=
  request_description_.key_item_types.zip (keyItems key_separator_ request.key) ++
    (given request.fieldsValues).filterMap fun fv =>
      (request_description_.attr_item_types fv.1).map (·, fv.2)

/-- A value is stored at a field, or an entry without one. -/
def StoresAt (fv : String × String) (t : request_types_t) (name : String) : Prop :=
  ¬ Skipped name ∧ fv.1 = name ∧ request_description_.attr_item_types name = some t ∧
    t ∈ attrTypes ∧ ((entry t).isSome ∨ Legible t fv.2)

/-- The loop over the fields comes to one at which something is stored. -/
def Stored (fvs : List (String × String)) (t : request_types_t) (name : String) : Prop :=
  ∃ before fv later, fvs = before ++ fv :: later ∧
    (∀ fv ∈ before, Field request_description_ Legible fv) ∧
    StoresAt entry request_description_ fv t name

/-- Some request stored a value of a type that is not cleared, for a name that is not given now. -/
def LeftOver (requests : List KeyOpFieldsValuesTuple) (request : KeyOpFieldsValuesTuple) : Prop :=
  ∃ earlier ∈ requests, Head request_description_ key_separator_ Legible earlier ∧
    ∃ t name, t ∉ clearedTypes ∧ name ∉ givenNames request.fieldsValues ∧
      Stored entry request_description_ earlier.fieldsValues t name

end Grammar

/-! ### Maps -/

namespace Items

variable {κ : Type} [DecidableEq κ] {m : Items κ} {t t' : request_types_t} {k k' : κ} {v : Value t}
  {entry : Entry}

theorem set_self : m.set t k v t k = some v := by
  rw [set, Function.update_self, Function.update_self]

theorem set_of_ne (h : ¬ (t' = t ∧ k' = k)) : m.set t k v t' k' = m t' k' := by
  rw [set]
  by_cases ht : t' = t
  · subst ht
    rw [Function.update_self, Function.update_of_ne fun hk => h ⟨rfl, hk⟩]
  · rw [Function.update_of_ne ht]

theorem isSome_set :
    (m.set t k v t' k').isSome ↔ (t' = t ∧ k' = k) ∨ (m t' k').isSome := by
  by_cases h : t' = t ∧ k' = k
  · obtain ⟨rfl, rfl⟩ := h
    rw [set_self]
    exact ⟨fun _ => .inl ⟨rfl, rfl⟩, fun _ => rfl⟩
  · rw [set_of_ne h]
    exact (or_iff_right h).symm

theorem isSome_touch :
    (m.touch entry t k t' k').isSome ↔
      ((entry t).isSome ∧ t' = t ∧ k' = k) ∨ (m t' k').isSome := by
  cases he : entry t with
  | none =>
    have htouch : m.touch entry t k = m := by rw [touch, he]
    rw [htouch]
    exact (or_iff_right fun h => Bool.false_ne_true h.1).symm
  | some v =>
    cases hm : m t k with
    | none =>
      have htouch : m.touch entry t k = m.set t k v := by rw [touch, he, hm]
      rw [htouch, isSome_set]
      exact or_congr_left (and_iff_right rfl).symm
    | some v' =>
      have htouch : m.touch entry t k = m := by rw [touch, he, hm]
      rw [htouch]
      refine (or_iff_right_of_imp ?_).symm
      rintro ⟨-, rfl, rfl⟩
      rw [hm]
      rfl

omit [DecidableEq κ] in
theorem isSome_clear {types : List request_types_t} :
    (m.clear types t k).isSome ↔ t ∉ types ∧ (m t k).isSome := by
  rw [clear]
  split
  · next hmem => exact ⟨fun h => (Bool.false_ne_true h).elim, fun h => absurd hmem h.1⟩
  · next hmem => exact (and_iff_right hmem).symm

end Items

theorem legible_iff {t : request_types_t} {text : String} :
    Legible t text ↔ ∃ v, parseItem t text = .ok v := by
  constructor
  · rintro (⟨v, hv⟩ | hcareless)
    · exact ⟨v, (denotes_iff.mp hv).1⟩
    · exact exists_of_careless hcareless
  · rintro ⟨v, hv⟩
    by_cases hcareless : Careless t text.toList
    · exact .inr hcareless
    · exact .inl ⟨v, denotes_iff.mpr ⟨hv, hcareless⟩⟩

section Loops

variable {entry : Entry} {request_description_ : request_description_t} {key_separator_ : Char}
  {s s' : Request} {fv : String × String} {fvs : List (String × String)}

/-! ### The loop over the fields -/

theorem given_concat :
    given (fvs ++ [fv]) = given fvs ++ if Skipped fv.1 then [] else [fv] := by
  rw [given, List.filter_append, ← given]
  by_cases h : Skipped fv.1
  · rw [if_pos h, List.filter_singleton]
    simp [h]
  · rw [if_neg h, List.filter_singleton]
    simp [h]

theorem attrText_concat (name : String) :
    attrText (fvs ++ [fv]) name =
      if ¬ Skipped fv.1 ∧ name = fv.1 then some fv.2 else attrText fvs name := by
  rw [attrText, given_concat]
  by_cases h : Skipped fv.1
  · rw [if_pos h, List.append_nil, if_neg fun h' => h'.1 h]
    rfl
  · rw [if_neg h, List.reverse_append, List.reverse_singleton, List.singleton_append,
      List.lookup_cons]
    by_cases hname : name = fv.1
    · rw [if_pos ⟨h, hname⟩, hname, beq_self_eq_true]
    · rw [if_neg fun h' => hname h'.2, beq_eq_false_iff_ne.mpr hname]
      rfl

theorem givenNames_concat :
    givenNames (fvs ++ [fv]) =
      if Skipped fv.1 then givenNames fvs else insert fv.1 (givenNames fvs) := by
  rw [givenNames, given_concat]
  by_cases h : Skipped fv.1
  · rw [if_pos h, if_pos h, List.append_nil]
    rfl
  · rw [if_neg h, if_neg h, List.map_append, List.toFinset_append, Finset.union_comm]
    rfl

/-- **The cases of one field**: it is skipped, stored, or it throws. -/
theorem parseAttr_cases (entry : Entry) (request_description_ : request_description_t)
    (s : Request) (fv : String × String) :
    (Skipped fv.1 ∧ parseAttr entry request_description_ s fv = .ok s) ∨
    (¬ Skipped fv.1 ∧ ∃ t v, request_description_.attr_item_types fv.1 = some t ∧
      t ∈ attrTypes ∧ parseItem t fv.2 = .ok v ∧
      parseAttr entry request_description_ s fv = .ok { s with
        attr_names_ := insert fv.1 s.attr_names_
        attr_items := s.attr_items.set t fv.1 v }) ∨
    (¬ Skipped fv.1 ∧ (∀ t, request_description_.attr_item_types fv.1 = some t → t ∉ attrTypes) ∧
      ∃ e s', parseAttr entry request_description_ s fv = .error (e, s') ∧
        s'.attr_items = s.attr_items) ∨
    (¬ Skipped fv.1 ∧ ∃ t what, request_description_.attr_item_types fv.1 = some t ∧
      t ∈ attrTypes ∧ parseItem t fv.2 = .error what ∧
      ∃ e s', parseAttr entry request_description_ s fv = .error (e, s') ∧
        s'.attr_items = s.attr_items.touch entry t fv.1) := by
  by_cases hskip : Skipped fv.1
  · exact .inl ⟨hskip, if_pos hskip⟩
  · refine .inr ?_
    rw [parseAttr, if_neg hskip]
    cases hdesc : request_description_.attr_item_types fv.1 with
    | none =>
      refine .inr (.inl ⟨hskip, fun t ht => ?_, _, _, rfl, rfl⟩)
      cases ht
    | some t =>
      by_cases htype : t ∈ attrTypes
      · simp only [htype, not_true_eq_false, if_false]
        cases hread : parseItem t fv.2 with
        | ok v =>
          refine .inl ⟨hskip, t, v, rfl, htype, hread, ?_⟩
          rw [assign, hread]
        | error what =>
          refine .inr (.inr ⟨hskip, t, what, rfl, htype, hread, .invalid_argument what,
            { s with
              attr_names_ := insert fv.1 s.attr_names_
              attr_items := s.attr_items.touch entry t fv.1 }, ?_, rfl⟩)
          rw [assign, hread]
      · simp only [htype, not_false_eq_true, if_true]
        refine .inr (.inl ⟨hskip, ?_, _, _, rfl, rfl⟩)
        rintro t' ⟨⟩
        exact htype

/-- A loop over one more field. -/
theorem foldlM_concat :
    (fvs ++ [fv]).foldlM (parseAttr entry request_description_) s =
      fvs.foldlM (parseAttr entry request_description_) s >>=
        fun s => parseAttr entry request_description_ s fv := by
  rw [List.foldlM_append]
  refine congrArg _ (funext fun s => ?_)
  rw [List.foldlM_cons]
  exact bind_pure _

/-- What a loop makes of the object if it comes to its end. -/
structure Loaded (request_description_ : request_description_t) (fvs : List (String × String))
    (s s' : Request) : Prop where
  fields : ∀ fv ∈ fvs, Field request_description_ Legible fv
  rest : s' = { s with attr_names_ := s'.attr_names_, attr_items := s'.attr_items }
  names : s'.attr_names_ = s.attr_names_ ∪ givenNames fvs
  items : ∀ t name, s'.attr_items t name =
    match attrText fvs name with
    | none => s.attr_items t name
    | some text =>
      if request_description_.attr_item_types name = some t then (parseItem t text).toOption
      else s.attr_items t name

theorem Loaded.concat (h : Loaded request_description_ fvs s s') {s'' : Request}
    (hturn : parseAttr entry request_description_ s' fv = .ok s'') :
    Loaded request_description_ (fvs ++ [fv]) s s'' := by
  rcases parseAttr_cases entry request_description_ s' fv with
    ⟨hskip, hok⟩ | ⟨hskip, t, v, hdesc, htype, hread, hok⟩ | ⟨-, -, e, _, herror, -⟩ |
      ⟨-, _, _, -, -, -, e, _, herror, -⟩
  · -- the field is skipped
    obtain rfl := Except.ok.inj (hok.symm.trans hturn)
    constructor
    · intro fv' hfv'
      rcases List.mem_append.mp hfv' with hmem | hmem
      · exact h.fields fv' hmem
      · exact List.mem_singleton.mp hmem ▸ .inl hskip
    · exact h.rest
    · rw [givenNames_concat, if_pos hskip]
      exact h.names
    · intro t name
      rw [attrText_concat, if_neg fun h' => h'.1 hskip]
      exact h.items t name
  · obtain rfl := Except.ok.inj (hok.symm.trans hturn)
    constructor
    · intro fv' hfv'
      rcases List.mem_append.mp hfv' with hmem | hmem
      · exact h.fields fv' hmem
      · obtain rfl := List.mem_singleton.mp hmem
        exact .inr ⟨t, hdesc, htype, legible_iff.mpr ⟨v, hread⟩⟩
    · rw [h.rest]
    · show insert fv.1 s'.attr_names_ = _
      rw [givenNames_concat, if_neg hskip, h.names, Finset.union_insert]
    · intro t' name
      show s'.attr_items.set t fv.1 v t' name = _
      rw [attrText_concat]
      by_cases hname : name = fv.1
      · subst hname
        rw [if_pos ⟨hskip, rfl⟩]
        by_cases ht : t' = t
        · subst ht
          rw [Items.set_self]
          simp only [hdesc, if_true, hread]
          rfl
        · have hother : ¬ request_description_.attr_item_types fv.1 = some t' := fun h' =>
            ht (Option.some.inj (h'.symm.trans hdesc))
          rw [Items.set_of_ne fun h' => ht h'.1, h.items]
          simp only [hother, if_false]
          split <;> rfl
      · rw [if_neg fun h' => hname h'.2, Items.set_of_ne fun h' => hname h'.2]
        exact h.items t' name
  · cases herror.symm.trans hturn
  · cases herror.symm.trans hturn

theorem loaded_of_loop (h : fvs.foldlM (parseAttr entry request_description_) s = .ok s') :
    Loaded request_description_ fvs s s' := by
  induction fvs using List.reverseRecOn generalizing s' with
  | nil =>
    obtain rfl := Except.ok.inj h
    exact ⟨fun _ hmem => absurd hmem List.not_mem_nil, rfl, (Finset.union_empty _).symm,
      fun _ _ => rfl⟩
  | append_singleton fvs fv ih =>
    rw [foldlM_concat, bind_eq_ok] at h
    obtain ⟨s₁, hloop, hturn⟩ := h
    exact (ih hloop).concat hturn

/-- The loop comes to its end if every field is skipped or read. -/
theorem exists_loop_eq_ok (h : ∀ fv ∈ fvs, Field request_description_ Legible fv) :
    ∃ s', fvs.foldlM (parseAttr entry request_description_) s = .ok s' := by
  induction fvs using List.reverseRecOn with
  | nil => exact ⟨s, rfl⟩
  | append_singleton fvs fv ih =>
    obtain ⟨s₁, hloop⟩ := ih fun fv' hfv' => h fv' (List.mem_append_left _ hfv')
    rw [foldlM_concat, hloop]
    show ∃ s', parseAttr entry request_description_ s₁ fv = .ok s'
    have hfield := h fv (List.mem_append_right _ List.mem_cons_self)
    rcases parseAttr_cases entry request_description_ s₁ fv with
      ⟨-, hok⟩ | ⟨-, t, v, -, -, -, hok⟩ | ⟨hskip, hnone, -⟩ |
        ⟨hskip, t, what, hdesc, -, herror, -⟩
    · exact ⟨_, hok⟩
    · exact ⟨_, hok⟩
    · rcases hfield with hskip' | ⟨t, ht, htype, -⟩
      · exact absurd hskip' hskip
      · exact absurd htype (hnone t ht)
    · rcases hfield with hskip' | ⟨t', ht', -, hlegible⟩
      · exact absurd hskip' hskip
      · obtain rfl := Option.some.inj (ht'.symm.trans hdesc)
        obtain ⟨v, hv⟩ := legible_iff.mp hlegible
        cases hv.symm.trans herror

/-- Something is stored at the first field, or at a later one if the loop comes there. -/
theorem stored_cons {t : request_types_t} {name : String} :
    Stored entry request_description_ (fv :: fvs) t name ↔
      StoresAt entry request_description_ fv t name ∨
        Field request_description_ Legible fv ∧ Stored entry request_description_ fvs t name := by
  constructor
  · rintro ⟨before, fv', later, hsplit, hbefore, hstore⟩
    cases before with
    | nil =>
      obtain ⟨rfl, -⟩ := List.cons.inj hsplit
      exact .inl hstore
    | cons first before =>
      obtain ⟨rfl, rfl⟩ := List.cons.inj hsplit
      exact .inr ⟨hbefore fv List.mem_cons_self, before, fv', later, rfl,
        fun fv' hfv' => hbefore fv' (List.mem_cons_of_mem _ hfv'), hstore⟩
  · rintro (hstore | ⟨hfield, before, fv', later, rfl, hbefore, hstore⟩)
    · exact ⟨[], fv, fvs, rfl, fun _ h => absurd h List.not_mem_nil, hstore⟩
    · refine ⟨fv :: before, fv', later, rfl, fun fv₁ hfv₁ => ?_, hstore⟩
      rcases List.mem_cons.mp hfv₁ with rfl | hmem
      · exact hfield
      · exact hbefore fv₁ hmem

/-- **What a loop stores**, whether it comes to its end or not. -/
theorem isSome_attr_items_loop {t : request_types_t} {name : String} :
    ((Result.request (fvs.foldlM (parseAttr entry request_description_) s)).attr_items t name).isSome
      ↔ Stored entry request_description_ fvs t name ∨ (s.attr_items t name).isSome := by
  induction fvs generalizing s with
  | nil =>
    refine (or_iff_right ?_).symm
    rintro ⟨before, text, later, hsplit, -⟩
    cases before <;> cases hsplit
  | cons fv fvs ih =>
    rw [List.foldlM_cons, stored_cons]
    rcases parseAttr_cases entry request_description_ s fv with
      ⟨hskip, hok⟩ | ⟨hskip, t', v, hdesc, htype, hread, hok⟩ | ⟨hskip, hnone, e, s', herror, hs'⟩ |
        ⟨hskip, t', what, hdesc, htype, hread, e, s', herror, hs'⟩
    · rw [hok]
      show ((Result.request (fvs.foldlM _ s)).attr_items t name).isSome ↔ _
      have hhere : ¬ StoresAt entry request_description_ fv t name := fun h =>
        h.1 (h.2.1 ▸ hskip)
      have hfield : Field request_description_ Legible fv := .inl hskip
      rw [ih, or_iff_right hhere, and_iff_right hfield]
    · rw [hok]
      have hfield : Field request_description_ Legible fv :=
        .inr ⟨t', hdesc, htype, legible_iff.mpr ⟨v, hread⟩⟩
      have hhere : StoresAt entry request_description_ fv t name ↔ t = t' ∧ name = fv.1 := by
        constructor
        · rintro ⟨-, rfl, ht, -⟩
          exact ⟨Option.some.inj (ht.symm.trans hdesc), rfl⟩
        · rintro ⟨rfl, rfl⟩
          exact ⟨hskip, rfl, hdesc, htype, .inr (legible_iff.mpr ⟨v, hread⟩)⟩
      rw [hhere, and_iff_right hfield, or_assoc, or_left_comm, ← Items.isSome_set]
      exact ih
    · have hfield : ¬ Field request_description_ Legible fv := by
        rintro (h | ⟨t', ht', htype', -⟩)
        · exact hskip h
        · exact hnone t' ht' htype'
      have hhere : ¬ StoresAt entry request_description_ fv t name := by
        rintro ⟨-, rfl, ht, htype, -⟩
        exact hnone t ht htype
      rw [herror, or_iff_right hhere, or_iff_right fun h => hfield h.1, ← hs']
      exact Iff.rfl
    · have hillegible : ¬ Legible t' fv.2 := fun h => by
        obtain ⟨v, hv⟩ := legible_iff.mp h
        cases hv.symm.trans hread
      have hfield : ¬ Field request_description_ Legible fv := by
        rintro (h | ⟨t₁, ht₁, -, hlegible⟩)
        · exact hskip h
        · exact hillegible (Option.some.inj (ht₁.symm.trans hdesc) ▸ hlegible)
      have hhere : StoresAt entry request_description_ fv t name ↔
          (entry t').isSome ∧ t = t' ∧ name = fv.1 := by
        constructor
        · rintro ⟨-, rfl, ht, -, hstore⟩
          obtain rfl := Option.some.inj (ht.symm.trans hdesc)
          exact ⟨hstore.resolve_right hillegible, rfl, rfl⟩
        · rintro ⟨hentry, rfl, rfl⟩
          exact ⟨hskip, rfl, hdesc, htype, .inl hentry⟩
      rw [herror, or_iff_left (b := Field _ _ _ ∧ _) fun h => hfield h.1, hhere,
        ← Items.isSome_touch, ← hs']
      exact Iff.rfl

/-! ### The loop over the items of a key -/

theorem assign_ok {κ : Type} [DecidableEq κ] {m : Items κ} {t : request_types_t} {k : κ}
    {text : String} {v : Value t} (h : parseItem t text = .ok v) :
    assign entry m t k text = .ok (m.set t k v) := by
  rw [assign, h]

theorem assign_error {κ : Type} [DecidableEq κ] {m : Items κ} {t : request_types_t} {k : κ}
    {text what : String} (h : parseItem t text = .error what) :
    assign entry m t k text = .error (what, m.touch entry t k) := by
  rw [assign, h]

/-- What the loop makes of the object if it comes to its end; `i` is where it begins. -/
structure KeyLoaded (i : ℕ) (l : List (request_types_t × String)) (s s' : Request) : Prop where
  texts : ∀ p ∈ l, p.1 ∈ keyTypes ∧ Legible p.1 p.2
  rest : s' = { s with key_items := s'.key_items }
  items : ∀ t k, s'.key_items t k =
    match if i ≤ k then l[k - i]? else none with
    | none => s.key_items t k
    | some p => if p.1 = t then (parseItem t p.2).toOption else s.key_items t k

variable {i : ℕ} {l : List (request_types_t × String)} {p : request_types_t × String}

theorem KeyLoaded.cons {v : Value p.1} (htype : p.1 ∈ keyTypes) (hread : parseItem p.1 p.2 = .ok v)
    (h : KeyLoaded (i + 1) l { s with key_items := s.key_items.set p.1 i v } s') :
    KeyLoaded i (p :: l) s s' where
  texts := by
    intro q hq
    rcases List.mem_cons.mp hq with rfl | hmem
    · exact ⟨htype, legible_iff.mpr ⟨v, hread⟩⟩
    · exact h.texts q hmem
  rest := by
    rw [h.rest]
  items := by
    intro t k
    rw [h.items]
    show (match if i + 1 ≤ k then l[k - (i + 1)]? else none with
      | none => s.key_items.set p.1 i v t k
      | some q => if q.1 = t then _ else s.key_items.set p.1 i v t k) = _
    rcases Nat.lt_trichotomy k i with hlt | rfl | hlt
    · rw [if_neg (by omega), if_neg (by omega)]
      exact Items.set_of_ne fun h' => absurd h'.2 hlt.ne
    · -- the item that is stored in this turn
      rw [if_neg (by omega), if_pos (le_refl k), Nat.sub_self]
      show s.key_items.set p.1 k v t k = if p.1 = t then _ else _
      split
      · next ht =>
          subst ht
          rw [Items.set_self, hread]
          rfl
      · next ht => exact Items.set_of_ne fun h' => ht h'.1.symm
    · obtain ⟨d, rfl⟩ : ∃ d, k = i + 1 + d := ⟨k - (i + 1), by omega⟩
      have hset : s.key_items.set p.1 i v t (i + 1 + d) = s.key_items t (i + 1 + d) :=
        Items.set_of_ne fun h' => absurd h'.2 (by omega)
      have hhead : i + 1 + d - (i + 1) = d := by omega
      have hrest : i + 1 + d - i = d + 1 := by omega
      rw [if_pos (by omega), if_pos (by omega), hhead, hrest, hset]
      rfl

theorem keyLoaded_of_parseKeyItems (h : parseKeyItems entry s i l = .ok s') :
    KeyLoaded i l s s' := by
  induction l generalizing s i with
  | nil =>
    obtain rfl := Except.ok.inj h
    refine ⟨fun _ hmem => absurd hmem List.not_mem_nil, rfl, fun t k => ?_⟩
    split
    · rfl
    · next hsome =>
        split at hsome <;> cases hsome
  | cons p l ih =>
    rw [parseKeyItems] at h
    split at h
    · cases h
    · next htype =>
        cases hread : parseItem p.1 p.2 with
        | ok v =>
          rw [assign_ok hread] at h
          exact (ih h).cons (not_not.mp htype) hread
        | error what =>
          rw [assign_error hread] at h
          cases h

theorem exists_parseKeyItems_eq_ok (h : ∀ p ∈ l, p.1 ∈ keyTypes ∧ Legible p.1 p.2) :
    ∃ s', parseKeyItems entry s i l = .ok s' := by
  induction l generalizing s i with
  | nil => exact ⟨s, rfl⟩
  | cons p l ih =>
    obtain ⟨htype, hlegible⟩ := h p List.mem_cons_self
    obtain ⟨v, hread⟩ := legible_iff.mp hlegible
    rw [parseKeyItems, if_neg (not_not.mpr htype), assign_ok hread]
    exact ih fun q hq => h q (List.mem_cons_of_mem p hq)

/-- Key items are stored under the types that the description has for their positions. -/
def KeyTyped (request_description_ : request_description_t) (m : Items ℕ) : Prop :=
  ∀ t k, (m t k).isSome → request_description_.key_item_types[k]? = some t

/-- The loop changes the key items only, and they keep their types. -/
theorem parseKeyItems_frame (hm : KeyTyped request_description_ s.key_items)
    (hl : ∀ j p, l[j]? = some p → request_description_.key_item_types[i + j]? = some p.1) :
    ∃ m, Result.request (parseKeyItems entry s i l) = { s with key_items := m } ∧
      KeyTyped request_description_ m := by
  induction l generalizing s i with
  | nil => exact ⟨s.key_items, rfl, hm⟩
  | cons p l ih =>
    have hp : request_description_.key_item_types[i]? = some p.1 := hl 0 p rfl
    have hl' : ∀ j q, l[j]? = some q →
        request_description_.key_item_types[i + 1 + j]? = some q.1 := fun j q hq => by
      rw [Nat.add_assoc, Nat.add_comm 1 j]
      exact hl (j + 1) q hq
    rw [parseKeyItems]
    split
    · exact ⟨s.key_items, rfl, hm⟩
    · cases hread : parseItem p.1 p.2 with
      | ok v =>
        rw [assign_ok hread]
        have hset : KeyTyped request_description_ (s.key_items.set p.1 i v) := by
          intro t k hsome
          rcases Items.isSome_set.mp hsome with ⟨rfl, rfl⟩ | h
          · exact hp
          · exact hm t k h
        exact ih (s := { s with key_items := s.key_items.set p.1 i v }) hset hl'
      | error what =>
        rw [assign_error hread]
        refine ⟨s.key_items.touch entry p.1 i, rfl, fun t k hsome => ?_⟩
        rcases Items.isSome_touch.mp hsome with ⟨-, rfl, rfl⟩ | h
        · exact hp
        · exact hm t k h

/-! ### A whole parse -/

theorem mem_given_iff {fv : String × String} : fv ∈ given fvs ↔ fv ∈ fvs ∧ ¬ Skipped fv.1 := by
  rw [given, List.mem_filter, decide_eq_true_iff]

theorem givenNames_eq_empty_iff : givenNames fvs = ∅ ↔ given fvs = [] := by
  rw [givenNames, List.toFinset_eq_empty_iff, List.map_eq_nil_iff]

theorem checkAttrs_eq_ok_iff :
    checkAttrs request_description_ s = .ok s' ↔ s = s' ∧
      (s.operation_ = DEL_COMMAND → s.attr_names_ = ∅) ∧
      (s.operation_ = SET_COMMAND →
        ∀ attr ∈ request_description_.mandatory_attr_items, attr ∈ s.attr_names_) := by
  have hfind : request_description_.mandatory_attr_items.find? (· ∉ s.attr_names_) = none ↔
      ∀ attr ∈ request_description_.mandatory_attr_items, attr ∈ s.attr_names_ := by
    simp [List.find?_eq_none]
  rw [checkAttrs]
  split
  · next hdel =>
      refine ⟨fun h => ?_, fun h => ?_⟩
      · cases h
      · exact absurd (h.2.1 hdel.1) (Finset.card_pos.mp hdel.2).ne_empty
  · next hdel =>
      have hempty : s.operation_ = DEL_COMMAND → s.attr_names_ = ∅ := fun hop => by
        by_contra hne
        exact hdel ⟨hop, Finset.card_pos.mpr (Finset.nonempty_iff_ne_empty.mpr hne)⟩
      split
      · next hset =>
          cases hmissing : request_description_.mandatory_attr_items.find? (· ∉ s.attr_names_) with
          | none =>
            exact ⟨fun h => ⟨Except.ok.inj h, hempty, fun _ => hfind.mp hmissing⟩,
              fun h => congrArg Except.ok h.1⟩
          | some attr =>
            refine ⟨fun h => ?_, fun h => ?_⟩
            · cases h
            · cases hmissing.symm.trans (hfind.mpr (h.2.2 hset))
      · next hset =>
          exact ⟨fun h => ⟨Except.ok.inj h, hempty, fun h' => absurd h' hset⟩,
            fun h => congrArg Except.ok h.1⟩

theorem parseOperation_eq_ok_iff {request : KeyOpFieldsValuesTuple} :
    parseOperation s request = .ok s' ↔
      (request.op = SET_COMMAND ∨ request.op = DEL_COMMAND) ∧
        { s with operation_ := request.op } = s' := by
  rw [parseOperation]
  split
  · next h =>
      refine ⟨fun h' => ?_, fun h' => ?_⟩
      · cases h'
      · rcases h'.1 with hop | hop
        · exact absurd hop h.1
        · exact absurd hop h.2
  · next h =>
      rw [Except.ok.injEq]
      exact (and_iff_right (or_iff_not_and_not.mpr h)).symm

theorem parseKey_eq_ok_iff {request : KeyOpFieldsValuesTuple} :
    parseKey entry request_description_ key_separator_ s request = .ok s' ↔
      (keyItems key_separator_ request.key).length =
          request_description_.key_item_types.length ∧
        parseKeyItems entry { s with full_key_ := request.key } 0
          (request_description_.key_item_types.zip (keyItems key_separator_ request.key)) =
            .ok s' := by
  rw [parseKey]
  split
  · next h =>
      refine ⟨fun h' => ?_, fun h' => absurd h'.1 h⟩
      cases h'
  · next h => exact (and_iff_right (not_not.mp h)).symm

variable {request : KeyOpFieldsValuesTuple}

/-- A parse that succeeds: what was read, and what the object is made of. -/
structure Parsed (request_description_ : request_description_t) (key_separator_ : Char)
    (request : KeyOpFieldsValuesTuple) (s s' : Request) : Prop where
  grammar : Grammar request_description_ key_separator_ Legible request
  is_parsed : s'.is_parsed_ = true
  operation : s'.operation_ = request.op
  full_key : s'.full_key_ = request.key
  names : s'.attr_names_ = givenNames request.fieldsValues
  key : ∃ s₁ s₂, s₁.key_items = s.key_items ∧ s₂.key_items = s'.key_items ∧
    KeyLoaded 0 (request_description_.key_item_types.zip (keyItems key_separator_ request.key)) s₁ s₂
  attrs : ∃ s₁ s₂, s₁.attr_items = s.attr_items ∧ s₂.attr_items = s'.attr_items ∧
    Loaded request_description_ request.fieldsValues s₁ s₂

theorem parsed_of_parse (hnames : s.attr_names_ = ∅)
    (h : parse entry request_description_ key_separator_ s request = .ok s') :
    Parsed request_description_ key_separator_ request s s' := by
  rw [parse] at h
  split at h
  · cases h
  · obtain ⟨s₁, hoperation, h⟩ := bind_eq_ok.mp h
    obtain ⟨s₂, hkey, h⟩ := bind_eq_ok.mp h
    obtain ⟨s₃, hattrs, h⟩ := bind_eq_ok.mp h
    obtain ⟨s₄, hloop, hcheck⟩ := bind_eq_ok.mp hattrs
    obtain rfl := Except.ok.inj h
    obtain ⟨hop, rfl⟩ := parseOperation_eq_ok_iff.mp hoperation
    obtain ⟨hcount, hitems⟩ := parseKey_eq_ok_iff.mp hkey
    obtain ⟨rfl, hdel, hset⟩ := checkAttrs_eq_ok_iff.mp hcheck
    have hkeys := keyLoaded_of_parseKeyItems hitems
    have hloaded := loaded_of_loop hloop
    have hop₂ : s₂.operation_ = request.op := by rw [hkeys.rest]
    have hop₄ : s₄.operation_ = request.op := by rw [hloaded.rest, hop₂]
    have hnames₄ : s₄.attr_names_ = givenNames request.fieldsValues := by
      rw [hloaded.names, hkeys.rest, hnames, Finset.empty_union]
    constructor
    · refine ⟨⟨hop, hcount, hkeys.texts⟩, hloaded.fields, ?_, ?_⟩
      · intro hdelete
        rw [← givenNames_eq_empty_iff, ← hnames₄]
        exact hdel (hop₄.trans hdelete)
      · intro hwrite
        rw [← hnames₄]
        exact hset (hop₄.trans hwrite)
    · rfl
    · exact hop₄
    · rw [hloaded.rest, hkeys.rest]
    · exact hnames₄
    · exact ⟨{ s with operation_ := request.op, full_key_ := request.key }, s₂, rfl,
        by rw [hloaded.rest], hkeys⟩
    · exact ⟨s₂, s₄, by rw [hkeys.rest], rfl, hloaded⟩

theorem exists_parse_eq_ok (hparsed : s.is_parsed_ = false) (hnames : s.attr_names_ = ∅)
    (h : Grammar request_description_ key_separator_ Legible request) :
    ∃ s', parse entry request_description_ key_separator_ s request = .ok s' := by
  have hkey : ∃ s₂, parseKey entry request_description_ key_separator_
      { s with operation_ := request.op } request = .ok s₂ := by
    obtain ⟨s₂, hitems⟩ := exists_parseKeyItems_eq_ok h.key
    exact ⟨s₂, parseKey_eq_ok_iff.mpr ⟨h.count, hitems⟩⟩
  obtain ⟨s₂, hkey⟩ := hkey
  have hkeys := keyLoaded_of_parseKeyItems (parseKey_eq_ok_iff.mp hkey).2
  have hloop : ∃ s₄, request.fieldsValues.foldlM (parseAttr entry request_description_) s₂ =
      .ok s₄ := exists_loop_eq_ok h.fields
  obtain ⟨s₄, hloop⟩ := hloop
  have hloaded := loaded_of_loop hloop
  have hop : s₄.operation_ = request.op := by
    rw [hloaded.rest, hkeys.rest]
  have hnames₄ : s₄.attr_names_ = givenNames request.fieldsValues := by
    rw [hloaded.names, hkeys.rest, hnames, Finset.empty_union]
  have hcheck : checkAttrs request_description_ s₄ = .ok s₄ := by
    refine checkAttrs_eq_ok_iff.mpr ⟨rfl, fun hdel => ?_, fun hset => ?_⟩
    · rw [hnames₄, givenNames_eq_empty_iff]
      exact h.del (hop.symm.trans hdel)
    · rw [hnames₄]
      exact h.mandatory (hop.symm.trans hset)
  refine ⟨{ s₄ with is_parsed_ := true }, ?_⟩
  rw [parse, if_neg (by rw [hparsed]; exact Bool.false_ne_true)]
  refine bind_eq_ok.mpr ⟨_, parseOperation_eq_ok_iff.mpr ⟨h.operation, rfl⟩, ?_⟩
  refine bind_eq_ok.mpr ⟨s₂, hkey, ?_⟩
  exact bind_eq_ok.mpr ⟨s₄, bind_eq_ok.mpr ⟨s₄, hloop, hcheck⟩, rfl⟩

/-- **The requests that are parsed**: those whose texts are read. -/
theorem exists_parse_eq_ok_iff (hparsed : s.is_parsed_ = false) (hnames : s.attr_names_ = ∅) :
    (∃ s', parse entry request_description_ key_separator_ s request = .ok s') ↔
      Grammar request_description_ key_separator_ Legible request := by
  constructor
  · rintro ⟨s', h⟩
    exact (parsed_of_parse hnames h).grammar
  · exact exists_parse_eq_ok hparsed hnames

/-! ### What is left of earlier requests -/

/-- The object between two requests. -/
structure Ready (request_description_ : request_description_t) (s : Request) : Prop where
  is_parsed : s.is_parsed_ = false
  operation : s.operation_ = ""
  full_key : s.full_key_ = ""
  names : s.attr_names_ = ∅
  typed : KeyTyped request_description_ s.key_items

theorem ready_initial : Ready request_description_ Request.initial :=
  ⟨rfl, rfl, rfl, rfl, fun _ _ h => (Bool.false_ne_true h).elim⟩

theorem zip_typed {key_items : List String} {j : ℕ} {p : request_types_t × String}
    (h : (request_description_.key_item_types.zip key_items)[j]? = some p) :
    request_description_.key_item_types[0 + j]? = some p.1 := by
  rw [Nat.zero_add]
  exact (List.getElem?_zip_eq_some.mp h).1

/-- The key of a request changes the key items only. -/
theorem parseKey_frame (entry : Entry) (key_separator_ : Char) (request : KeyOpFieldsValuesTuple)
    (hs : KeyTyped request_description_ s.key_items) :
    ∃ m, Result.request (parseKey entry request_description_ key_separator_ s request) =
        { s with full_key_ := request.key, key_items := m } ∧
      KeyTyped request_description_ m := by
  rw [parseKey]
  split
  · exact ⟨s.key_items, rfl, hs⟩
  · exact parseKeyItems_frame (s := { s with full_key_ := request.key }) hs
      fun j p hp => zip_typed hp

/-- The checks at the end change nothing. -/
theorem request_checkAttrs : Result.request (checkAttrs request_description_ s) = s := by
  rw [checkAttrs]
  split
  · rfl
  · split
    · split <;> rfl
    · rfl

theorem key_items_parseAttr :
    (Result.request (parseAttr entry request_description_ s fv)).key_items = s.key_items := by
  rw [parseAttr]
  split
  · rfl
  · split
    · rfl
    · next t ht =>
        dsimp only
        split
        · rfl
        · cases hread : parseItem t fv.2 with
          | ok v =>
            rw [assign_ok hread]
            rfl
          | error what =>
            rw [assign_error hread]
            rfl

/-- The fields of a request do not change its key items. -/
theorem key_items_loop :
    (Result.request (fvs.foldlM (parseAttr entry request_description_) s)).key_items =
      s.key_items := by
  induction fvs generalizing s with
  | nil => rfl
  | cons fv fvs ih =>
    have hturn : (Result.request (parseAttr entry request_description_ s fv)).key_items =
      s.key_items := key_items_parseAttr
    rw [List.foldlM_cons]
    cases hfirst : parseAttr entry request_description_ s fv with
    | ok s₁ =>
      rw [hfirst] at hturn
      exact ih.trans hturn
    | error e =>
      rw [hfirst] at hturn
      exact hturn

/-- What the fields of a request make of the object. -/
theorem request_parseAttrs :
    Result.request (parseAttrs entry request_description_ s request) =
      Result.request (request.fieldsValues.foldlM (parseAttr entry request_description_) s) := by
  rw [parseAttrs]
  cases hloop : request.fieldsValues.foldlM (parseAttr entry request_description_) s with
  | ok s₁ => exact request_checkAttrs
  | error e => rfl

/-- The attributes that an object has are those that it had and those that are stored. -/
structure Leaves (request_description_ : request_description_t) (s : Request)
    (stored : request_types_t → String → Prop) (s' : Request) : Prop where
  typed : KeyTyped request_description_ s'.key_items
  attrs : ∀ t name,
    (s'.attr_items t name).isSome ↔ stored t name ∨ (s.attr_items t name).isSome

/-- **What a parse leaves**, whether it succeeds or not. -/
theorem leaves_parse (hs : Ready request_description_ s) :
    Leaves request_description_ s
      (fun t name => Head request_description_ key_separator_ Legible request ∧
        Stored entry request_description_ request.fieldsValues t name)
      (Result.request (parse entry request_description_ key_separator_ s request)) := by
  have hnot : ¬ s.is_parsed_ = true := by
    rw [hs.is_parsed]
    exact Bool.false_ne_true
  rw [parse, if_neg hnot]
  cases hoperation : parseOperation s request with
  | error e =>
    have hop : ¬ (request.op = SET_COMMAND ∨ request.op = DEL_COMMAND) := fun hop => by
      cases hoperation.symm.trans (parseOperation_eq_ok_iff.mpr ⟨hop, rfl⟩)
    have hrest : Result.request (parseOperation s request) =
        { s with operation_ := request.op } := by
      rw [parseOperation, if_pos (not_or.mp hop)]
      rfl
    rw [hoperation] at hrest
    have hrest' : e.2 = { s with operation_ := request.op } := hrest
    show Leaves _ s _ e.2
    rw [hrest']
    exact ⟨hs.typed, fun t name => (or_iff_right fun h => hop h.1.operation).symm⟩
  | ok s₁ =>
    obtain ⟨hop, rfl⟩ := parseOperation_eq_ok_iff.mp hoperation
    obtain ⟨m, hframe, hm⟩ := parseKey_frame entry key_separator_ request
      (s := { s with operation_ := request.op }) hs.typed
    show Leaves _ s _ (Result.request (parseKey entry request_description_ key_separator_
      { s with operation_ := request.op } request >>= _))
    cases hkey : parseKey entry request_description_ key_separator_
        { s with operation_ := request.op } request with
    | error e =>
      have hhead : ¬ Head request_description_ key_separator_ Legible request := fun h => by
        obtain ⟨s₂, hitems⟩ := exists_parseKeyItems_eq_ok h.key
        cases hkey.symm.trans (parseKey_eq_ok_iff.mpr ⟨h.count, hitems⟩)
      rw [hkey] at hframe
      have hframe' : e.2 = _ := hframe
      show Leaves _ s _ e.2
      rw [hframe']
      exact ⟨hm, fun t name => (or_iff_right fun h => hhead h.1).symm⟩
    | ok s₂ =>
      obtain ⟨hcount, hitems⟩ := parseKey_eq_ok_iff.mp hkey
      have hhead : Head request_description_ key_separator_ Legible request :=
        ⟨hop, hcount, (keyLoaded_of_parseKeyItems hitems).texts⟩
      rw [hkey] at hframe
      have hframe' : s₂ = _ := hframe
      -- marking the object as parsed changes no map
      have hmaps : ∀ r : Result, ∃ b, Result.request (r >>= fun s => .ok
          { s with is_parsed_ := true }) = { Result.request r with is_parsed_ := b } := by
        intro r
        cases r with
        | ok s₃ => exact ⟨true, rfl⟩
        | error e => exact ⟨e.2.is_parsed_, rfl⟩
      obtain ⟨b, hb⟩ := hmaps (parseAttrs entry request_description_ s₂ request)
      show Leaves _ s _ (Result.request (parseAttrs entry request_description_ s₂ request >>=
        fun s => .ok { s with is_parsed_ := true }))
      rw [hb, request_parseAttrs]
      refine ⟨?_, fun t name => ?_⟩
      · show KeyTyped _ (Result.request _).key_items
        rw [key_items_loop, hframe']
        exact hm
      · show ((Result.request _).attr_items t name).isSome ↔ _
        rw [isSome_attr_items_loop, hframe', and_iff_right hhead]

theorem ready_clear (h : KeyTyped request_description_ s.key_items) :
    Ready request_description_ s.clear :=
  ⟨rfl, rfl, rfl, rfl, fun t k hsome => h t k (Items.isSome_clear.mp hsome).2⟩

variable {requests : List KeyOpFieldsValuesTuple}

theorem after_concat :
    after entry request_description_ key_separator_ (requests ++ [request]) =
      task entry request_description_ key_separator_
        (after entry request_description_ key_separator_ requests) request := by
  rw [after, List.foldl_append]
  rfl

theorem ready_after (requests : List KeyOpFieldsValuesTuple) :
    Ready request_description_ (after entry request_description_ key_separator_ requests) := by
  induction requests using List.reverseRecOn with
  | nil => exact ready_initial
  | append_singleton requests request ih =>
    rw [after_concat]
    exact ready_clear (leaves_parse ih).typed

/-- **What some requests leave in an object**: the values that `clear` does not empty. -/
theorem attr_items_after (requests : List KeyOpFieldsValuesTuple) (t : request_types_t)
    (name : String) :
    ((after entry request_description_ key_separator_ requests).attr_items t name).isSome ↔
      t ∉ clearedTypes ∧ ∃ earlier ∈ requests,
        Head request_description_ key_separator_ Legible earlier ∧
          Stored entry request_description_ earlier.fieldsValues t name := by
  induction requests using List.reverseRecOn with
  | nil =>
    constructor
    · intro h
      exact (Bool.false_ne_true h).elim
    · rintro ⟨-, earlier, hmem, -⟩
      exact absurd hmem List.not_mem_nil
  | append_singleton requests request ih =>
    rw [after_concat]
    show (Items.clear _ clearedTypes t name).isSome ↔ _
    rw [Items.isSome_clear, (leaves_parse (ready_after requests)).attrs, ih]
    constructor
    · rintro ⟨hclear, hstore | ⟨-, earlier, hmem, hstore⟩⟩
      · exact ⟨hclear, request, List.mem_append_right _ List.mem_cons_self, hstore⟩
      · exact ⟨hclear, earlier, List.mem_append_left _ hmem, hstore⟩
    · rintro ⟨hclear, earlier, hmem, hstore⟩
      refine ⟨hclear, ?_⟩
      rcases List.mem_append.mp hmem with hmem | hmem
      · exact .inr ⟨hclear, earlier, hmem, hstore⟩
      · exact .inl (List.mem_singleton.mp hmem ▸ hstore)

/-! ### The result of a parse -/

/-- Objects that differ in their maps only. -/
structure Alike (s s' : Request) : Prop where
  is_parsed : s.is_parsed_ = s'.is_parsed_
  operation : s.operation_ = s'.operation_
  full_key : s.full_key_ = s'.full_key_
  names : s.attr_names_ = s'.attr_names_

/-- Results with the same exception, or without one and with objects that are alike. -/
def SameResult : Result → Result → Prop
  | .ok s, .ok s' => Alike s s'
  | .error (e, _), .error (e', _) => e = e'
  | _, _ => False

variable {r r' : Result} {f f' : Request → Result}

theorem SameResult.exception?_eq (h : SameResult r r') : r.exception? = r'.exception? := by
  match r, r', h with
  | .ok _, .ok _, _ => rfl
  | .error (e, _), .error (_, _), h => exact congrArg some h

theorem SameResult.bind (h : SameResult r r')
    (hf : ∀ s s', Alike s s' → SameResult (f s) (f' s')) : SameResult (r >>= f) (r' >>= f') := by
  match r, r', h with
  | .ok s, .ok s', h => exact hf s s' h
  | .error _, .error _, h => exact h

theorem Alike.parseOperation (h : Alike s s') (request : KeyOpFieldsValuesTuple) :
    SameResult (parseOperation s request) (parseOperation s' request) := by
  rw [RequestParser.parseOperation, RequestParser.parseOperation]
  dsimp only
  split
  · exact rfl
  · exact ⟨h.is_parsed, rfl, h.full_key, h.names⟩

theorem Alike.parseKeyItems (h : Alike s s') (i : ℕ) (l : List (request_types_t × String)) :
    SameResult (parseKeyItems entry s i l) (parseKeyItems entry s' i l) := by
  induction l generalizing s s' i with
  | nil => exact h
  | cons p l ih =>
    rw [RequestParser.parseKeyItems, RequestParser.parseKeyItems, h.full_key]
    split
    · exact rfl
    · cases hread : parseItem p.1 p.2 with
      | ok v =>
        rw [assign_ok hread, assign_ok hread]
        have hset : Alike
            { s with full_key_ := s'.full_key_, key_items := s.key_items.set p.1 i v }
            { s' with key_items := s'.key_items.set p.1 i v } :=
          ⟨h.is_parsed, h.operation, rfl, h.names⟩
        exact ih hset (i + 1)
      | error what =>
        rw [assign_error hread, assign_error hread]
        exact rfl

theorem Alike.parseKey (h : Alike s s') (request : KeyOpFieldsValuesTuple) :
    SameResult (parseKey entry request_description_ key_separator_ s request)
      (parseKey entry request_description_ key_separator_ s' request) := by
  rw [RequestParser.parseKey, RequestParser.parseKey]
  dsimp only
  split
  · exact rfl
  · have hset : Alike { s with full_key_ := request.key } { s' with full_key_ := request.key } :=
      ⟨h.is_parsed, h.operation, rfl, h.names⟩
    exact hset.parseKeyItems 0 _

theorem Alike.parseAttr (h : Alike s s') (fv : String × String) :
    SameResult (parseAttr entry request_description_ s fv)
      (parseAttr entry request_description_ s' fv) := by
  rw [RequestParser.parseAttr, RequestParser.parseAttr]
  split
  · exact h
  · cases request_description_.attr_item_types fv.1 with
    | none => exact rfl
    | some t =>
      dsimp only
      split
      · exact rfl
      · cases hread : parseItem t fv.2 with
        | ok v =>
          rw [assign_ok hread, assign_ok hread]
          exact ⟨h.is_parsed, h.operation, h.full_key, congrArg (insert fv.1) h.names⟩
        | error what =>
          rw [assign_error hread, assign_error hread]
          exact rfl

theorem Alike.loop (h : Alike s s') (fvs : List (String × String)) :
    SameResult (fvs.foldlM (RequestParser.parseAttr entry request_description_) s)
      (fvs.foldlM (RequestParser.parseAttr entry request_description_) s') := by
  induction fvs generalizing s s' with
  | nil => exact h
  | cons fv fvs ih =>
    rw [List.foldlM_cons, List.foldlM_cons]
    exact (h.parseAttr fv).bind fun _ _ h => ih h

theorem Alike.checkAttrs (h : Alike s s') :
    SameResult (checkAttrs request_description_ s) (checkAttrs request_description_ s') := by
  rw [RequestParser.checkAttrs, RequestParser.checkAttrs, h.operation, h.names]
  split
  · exact rfl
  · split
    · split
      · exact rfl
      · exact h
    · exact h

/-- The maps do not tell whether a request is parsed, nor why not. -/
theorem Alike.parse (h : Alike s s') (request : KeyOpFieldsValuesTuple) :
    SameResult (parse entry request_description_ key_separator_ s request)
      (parse entry request_description_ key_separator_ s' request) := by
  rw [RequestParser.parse, RequestParser.parse, h.is_parsed]
  split
  · exact rfl
  · refine (h.parseOperation request).bind fun _ _ h => ?_
    refine (h.parseKey request).bind fun _ _ h => ?_
    refine SameResult.bind ((h.loop _).bind fun _ _ h => h.checkAttrs) fun _ _ h => ?_
    exact ⟨rfl, h.operation, h.full_key, h.names⟩

theorem Ready.alike (h : Ready request_description_ s) : Alike s Request.initial :=
  ⟨h.is_parsed, h.operation, h.full_key, h.names⟩

/-! ### Exactly when the parser is exact -/

theorem attrText_eq_none_iff {name : String} :
    attrText fvs name = none ↔ name ∉ givenNames fvs := by
  rw [attrText, List.lookup_eq_none_iff, givenNames, List.mem_toFinset, List.mem_map]
  constructor
  · rintro h ⟨fv, hfv, rfl⟩
    exact (by simpa using h fv (List.mem_reverse.mpr hfv) : False)
  · intro h fv hfv
    refine bne_iff_ne.mpr fun hname => h ⟨fv, List.mem_reverse.mp hfv, hname.symm⟩

theorem mem_given_of_attrText {name text : String} (h : attrText fvs name = some text) :
    (name, text) ∈ given fvs := by
  obtain ⟨before, later, hsplit, -⟩ := List.lookup_eq_some_iff.mp h
  rw [← List.mem_reverse, hsplit]
  exact List.mem_append_right _ List.mem_cons_self

/-- The grammar grows with the texts of the types. -/
theorem Grammar.mono {wf wf' : request_types_t → String → Prop}
    (h : Grammar request_description_ key_separator_ wf request)
    (hwf : ∀ p ∈ texts request_description_ key_separator_ request, wf p.1 p.2 → wf' p.1 p.2) :
    Grammar request_description_ key_separator_ wf' request where
  operation := h.operation
  count := h.count
  key p hp := ⟨(h.key p hp).1, hwf p (List.mem_append_left _ hp) (h.key p hp).2⟩
  fields fv hfv := by
    by_cases hskip : Skipped fv.1
    · exact .inl hskip
    · obtain ⟨t, hdesc, htype, htext⟩ := (h.fields fv hfv).resolve_left hskip
      refine .inr ⟨t, hdesc, htype, hwf (t, fv.2) (List.mem_append_right _ ?_) htext⟩
      refine List.mem_filterMap.mpr ⟨fv, mem_given_iff.mpr ⟨hfv, hskip⟩, ?_⟩
      rw [hdesc]
      rfl
  del := h.del
  mandatory := h.mandatory

/-- The texts of a request in the grammar. -/
theorem Grammar.of_mem_texts {wf : request_types_t → String → Prop}
    (h : Grammar request_description_ key_separator_ wf request) {p : request_types_t × String}
    (hp : p ∈ texts request_description_ key_separator_ request) : wf p.1 p.2 := by
  rcases List.mem_append.mp hp with hkey | hattr
  · exact (h.key p hkey).2
  · obtain ⟨fv, hfv, hmap⟩ := List.mem_filterMap.mp hattr
    obtain ⟨t, ht, rfl⟩ := Option.map_eq_some_iff.mp hmap
    obtain ⟨hmem, hskip⟩ := mem_given_iff.mp hfv
    obtain ⟨t', hdesc, -, htext⟩ := (h.fields fv hmem).resolve_left hskip
    obtain rfl := Option.some.inj (ht.symm.trans hdesc)
    exact htext

theorem not_careless {t : request_types_t} {text : String} (h : WellFormed t text) :
    ¬ Careless t text.toList := by
  obtain ⟨v, hv⟩ := h
  exact (denotes_iff.mp hv).2

theorem toOption_eq_some_iff {t : request_types_t} {text : String} {v : Value t}
    (h : ¬ Careless t text.toList) : (parseItem t text).toOption = some v ↔ Denotes t text v := by
  rw [denotes_iff, and_iff_left h]
  cases parseItem t text with
  | ok v' =>
    show some v' = some v ↔ _
    rw [Option.some.injEq, Except.ok.injEq]
  | error what =>
    constructor
    · intro h
      cases h
    · intro h
      cases h

/-- The getters of key items. -/
theorem getKey_of_parsed (hs : KeyTyped request_description_ s.key_items)
    (hcareful : ∀ p ∈ texts request_description_ key_separator_ request, ¬ Careless p.1 p.2.toList)
    (h : Parsed request_description_ key_separator_ request s s') (t : request_types_t)
    (position : ℕ) (v : Value t) :
    s'.getKey t position = some v ↔
      request_description_.key_item_types[position]? = some t ∧
        ∃ item, (keyItems key_separator_ request.key)[position]? = some item ∧
          Denotes t item v := by
  obtain ⟨s₁, s₂, hfirst, hlast, hkeys⟩ := h.key
  have hget : s'.getKey t position = s'.key_items t position := if_pos h.is_parsed
  rw [hget, ← hlast, hkeys.items, hfirst, if_pos (Nat.zero_le _), Nat.sub_zero]
  have hstale : request_description_.key_item_types[position]? ≠ some t →
      s.key_items t position = none := fun hne => by
    by_contra hsome
    exact hne (hs t position (Option.isSome_iff_ne_none.mpr hsome))
  cases hp : (request_description_.key_item_types.zip
      (keyItems key_separator_ request.key))[position]? with
  | none =>
    -- the position is past the end of the key
    have hnone : request_description_.key_item_types[position]? = none := by
      have hlength := List.getElem?_eq_none_iff.mp hp
      rw [List.length_zip, h.grammar.count, min_self] at hlength
      exact List.getElem?_eq_none_iff.mpr hlength
    dsimp only
    rw [hstale (by rw [hnone]; exact Option.some_ne_none t |>.symm), hnone]
    constructor
    · intro h'
      cases h'
    · rintro ⟨h', -⟩
      cases h'
  | some p =>
    obtain ⟨htype, hitem⟩ := List.getElem?_zip_eq_some.mp hp
    dsimp only
    rw [htype, hitem]
    split
    · next ht =>
        subst ht
        have hmem : p ∈ texts request_description_ key_separator_ request :=
          List.mem_append_left _ (List.mem_of_getElem? hp)
        rw [toOption_eq_some_iff (hcareful p hmem)]
        constructor
        · intro hv
          exact ⟨rfl, p.2, rfl, hv⟩
        · rintro ⟨-, item, hitem, hv⟩
          exact Option.some.inj hitem ▸ hv
    · next ht =>
        rw [hstale (by rw [htype]; exact fun h' => ht (Option.some.inj h'))]
        constructor
        · intro h'
          cases h'
        · rintro ⟨h', -⟩
          exact absurd (Option.some.inj h') ht

/-- The getters of attributes. -/
theorem getAttr_of_parsed
    (hs : ∀ t name, (s.attr_items t name).isSome →
      request_description_.attr_item_types name = some t ∧ name ∈ givenNames request.fieldsValues)
    (hcareful : ∀ p ∈ texts request_description_ key_separator_ request, ¬ Careless p.1 p.2.toList)
    (h : Parsed request_description_ key_separator_ request s s') (t : request_types_t)
    (name : String) (v : Value t) :
    s'.getAttr t name = some v ↔
      request_description_.attr_item_types name = some t ∧
        ∃ text, attrText request.fieldsValues name = some text ∧ Denotes t text v := by
  obtain ⟨s₁, s₂, hfirst, hlast, hloaded⟩ := h.attrs
  have hget : s'.getAttr t name = s'.attr_items t name := if_pos h.is_parsed
  rw [hget, ← hlast, hloaded.items, hfirst]
  cases htext : attrText request.fieldsValues name with
  | none =>
    constructor
    · intro hsome
      exact absurd (hs t name (Option.isSome_iff_exists.mpr ⟨v, hsome⟩)).2
        (attrText_eq_none_iff.mp htext)
    · rintro ⟨-, text, h', -⟩
      cases h'
  | some text =>
    dsimp only
    split
    · next hdesc =>
        have hmem : (t, text) ∈ texts request_description_ key_separator_ request := by
          refine List.mem_append_right _ (List.mem_filterMap.mpr
            ⟨(name, text), mem_given_of_attrText htext, ?_⟩)
          rw [hdesc]
          rfl
        rw [toOption_eq_some_iff (hcareful _ hmem)]
        constructor
        · intro hv
          exact ⟨hdesc, text, rfl, hv⟩
        · rintro ⟨-, text', htext', hv⟩
          exact Option.some.inj htext' ▸ hv
    · next hdesc =>
        constructor
        · intro hsome
          exact absurd (hs t name (Option.isSome_iff_exists.mpr ⟨v, hsome⟩)).1 hdesc
        · rintro ⟨h', -⟩
          exact absurd h' hdesc

end Loops

/-! ### Exactly when the parser is exact -/

section Exact

variable (entry : Entry) (request_description_ : request_description_t) (key_separator_ : Char)

/-- If no text is careless and nothing is left, the getters give what the texts denote. -/
theorem reads_of_parse {requests : List KeyOpFieldsValuesTuple} {request : KeyOpFieldsValuesTuple}
    {s : Request}
    (hcareful : ∀ p ∈ texts request_description_ key_separator_ request, ¬ Careless p.1 p.2.toList)
    (hleft : ¬ LeftOver entry request_description_ key_separator_ requests request)
    (h : parse entry request_description_ key_separator_
      (after entry request_description_ key_separator_ requests) request = .ok s) :
    Reads request_description_ key_separator_ request s := by
  have hready : Ready request_description_ (after entry request_description_ key_separator_
    requests) := ready_after requests
  have hparsed := parsed_of_parse hready.names h
  have hstale : ∀ t name,
      ((after entry request_description_ key_separator_ requests).attr_items t name).isSome →
      request_description_.attr_item_types name = some t ∧
        name ∈ givenNames request.fieldsValues := by
    intro t name hsome
    obtain ⟨hclear, earlier, hmem, hhead, hstored⟩ := (attr_items_after requests t name).mp hsome
    constructor
    · obtain ⟨_, _, _, _, _, hstore⟩ := hstored
      exact hstore.2.2.1
    · by_contra hname
      exact hleft ⟨earlier, hmem, hhead, t, name, hclear, hname, hstored⟩
  constructor
  · exact (if_pos hparsed.is_parsed).trans (congrArg some hparsed.operation)
  · exact (if_pos hparsed.is_parsed).trans (congrArg some hparsed.full_key)
  · exact (if_pos hparsed.is_parsed).trans (congrArg some hparsed.names)
  · exact getKey_of_parsed hready.typed hcareful hparsed
  · exact getAttr_of_parsed hstale hcareful hparsed

/-- **The parser accepts exactly its grammar and carries nothing over** if no text of a request
that it reads is careless and nothing of an earlier request is left, and only then. -/
theorem request_exact (requests : List KeyOpFieldsValuesTuple)
    (request : KeyOpFieldsValuesTuple) :
    Exact entry request_description_ key_separator_ requests request ↔
      (Grammar request_description_ key_separator_ Legible request →
        (∀ p ∈ texts request_description_ key_separator_ request, ¬ Careless p.1 p.2.toList) ∧
          ¬ LeftOver entry request_description_ key_separator_ requests request) := by
  have hready : Ready request_description_ (after entry request_description_ key_separator_
    requests) := ready_after requests
  have haccepts : (∃ s, parse entry request_description_ key_separator_
      (after entry request_description_ key_separator_ requests) request = .ok s) ↔
      Grammar request_description_ key_separator_ Legible request :=
    exists_parse_eq_ok_iff hready.is_parsed hready.names
  constructor
  · intro h hlegible
    obtain ⟨s, hs⟩ := haccepts.mpr hlegible
    have hgrammar := h.accepts.mp ⟨s, hs⟩
    refine ⟨fun p hp => not_careless (hgrammar.of_mem_texts hp), ?_⟩
    rintro ⟨earlier, hmem, hhead, t, name, hclear, hname, hstored⟩
    -- the value that is left is read under a name that the request does not give
    have hsome := (attr_items_after requests t name).mpr ⟨hclear, earlier, hmem, hhead, hstored⟩
    obtain ⟨v, hv⟩ := Option.isSome_iff_exists.mp hsome
    have hparsed := parsed_of_parse hready.names hs
    obtain ⟨s₁, s₂, hfirst, hlast, hloaded⟩ := hparsed.attrs
    have hget : s.getAttr t name = some v := by
      have hattr : s.getAttr t name = s.attr_items t name := if_pos hparsed.is_parsed
      rw [hattr, ← hlast, hloaded.items, hfirst, attrText_eq_none_iff.mpr hname]
      exact hv
    obtain ⟨-, text, htext, -⟩ := ((h.reads s hs).attr t name v).mp hget
    cases (attrText_eq_none_iff.mpr hname).symm.trans htext
  · intro h
    constructor
    · rw [haccepts]
      constructor
      · intro hlegible
        exact hlegible.mono fun p hp htext => htext.resolve_right ((h hlegible).1 p hp)
      · intro hgrammar
        exact hgrammar.mono fun p _ htext => .inl htext
    · intro s hs
      obtain ⟨hcareful, hleft⟩ := h (haccepts.mp ⟨s, hs⟩)
      exact reads_of_parse entry request_description_ key_separator_ hcareful hleft hs
    · exact (hready.alike.parse request).exception?_eq
    · intro s s' hs hs' t name
      obtain ⟨hcareful, hleft⟩ := h (haccepts.mp ⟨s, hs⟩)
      have hreads := reads_of_parse entry request_description_ key_separator_ hcareful hleft hs
      have hnone : ¬ LeftOver entry request_description_ key_separator_ [] request := by
        rintro ⟨earlier, hmem, -⟩
        exact absurd hmem List.not_mem_nil
      have hreads' := reads_of_parse entry request_description_ key_separator_ hcareful hnone hs'
      ext v
      rw [hreads.attr, hreads'.attr]

end Exact

/-- The maps of VLANs to the VNIs of a tunnel. -/
def vxlan_tunnel_map_request_description : request_description_t where
  key_item_types := [REQ_T_STRING, REQ_T_STRING]
  attr_item_types name :=
    if name = "vni" then some REQ_T_UINT else if name = "vlan" then some REQ_T_VLAN else none
  mandatory_attr_items := ["vni", "vlan"]

/-- A VLAN that does not fit into 16 bits is read as another one. -/
theorem not_request_exact :
    ¬ Exact (fun _ => none) vxlan_tunnel_map_request_description ':' []
      ⟨"tunnel:map", "SET", [("vni", "1000"), ("vlan", "Vlan65546")]⟩ := by
  intro h
  have hparse : (parse (fun _ => none) vxlan_tunnel_map_request_description ':' Request.initial
      ⟨"tunnel:map", "SET", [("vni", "1000"), ("vlan", "Vlan65546")]⟩).exception? = none := by
    decide +kernel
  have hgrammar := h.accepts.mp <| by
    show ∃ s, parse _ _ _ Request.initial _ = .ok s
    cases hresult : parse (fun _ => none) vxlan_tunnel_map_request_description ':' Request.initial
        ⟨"tunnel:map", "SET", [("vni", "1000"), ("vlan", "Vlan65546")]⟩ with
    | ok s => exact ⟨s, rfl⟩
    | error e =>
      rw [hresult] at hparse
      cases hparse
  have htext : WellFormed REQ_T_VLAN "Vlan65546" :=
    hgrammar.of_mem_texts (p := (REQ_T_VLAN, "Vlan65546")) (by decide +kernel)
  obtain ⟨vid, id, hid, ⟨-, -, hvalue⟩, -, hle⟩ := htext
  have hsplit : vlan_prefix ++ "65546".toList = vlan_prefix ++ id := hid
  obtain rfl := List.append_cancel_left hsplit
  have hlarge : Numeral.value 10 "65546".toList = 65546 := by decide +kernel
  rw [← hvalue, hlarge] at hle
  exact absurd hle (by decide)

end Orchagent.RequestParser
