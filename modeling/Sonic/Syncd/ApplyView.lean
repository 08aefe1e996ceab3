/-
Syncd/ApplyView.lean

The recursion of the view transition (`processObjectForViewTransition`).

An object of the temporary view is processed after the objects that its attributes and its
key refer to; an object that is FINAL is left.  The objects are marked FINAL only when they
have been processed, so an object that refers back to itself, through objects that are not
FINAL, is processed without end, matched or not.  The matching of one object and its
transition are parameters here: what is used of them is that they leave the objects of the
temporary view alone, but for the one that becomes FINAL (`transitionObject_status`).
`view_processing_finishes_iff` says when all that is visited becomes FINAL, and
`mirror_processing_diverges` that a port and the mirror session it is mirrored to, which the
metadata layer accepts, are processed without end.
-/
import Sonic.Lib.DepthFirst
import Sonic.Sai.MetaRuns

namespace Syncd.ApplyView

open Sai Sai.Meta
open Transition (Run Guarded)

/-! ### Views -/

/-- `sai_object_status_t`. -/
inductive sai_object_status_t where
  | NOT_PROCESSED | MATCHED | REMOVED | FINAL
  deriving DecidableEq, Repr

/-- What is thrown. -/
inductive ViewExn where
  /-- `oOids.at` of an unknown VID -/
  | outOfRange
  /-- an attribute with object ids, of a type that is not handled -/
  | notHandled
  /-- a transition that fails and must not -/
  | matchedFailed | switchFailed | unexpectedStatus
  /-- an exception of the matching -/
  | matching (what : String)
  deriving DecidableEq

/-- The objects of the temporary view: they stay as they are. -/
structure TemporaryView where
  getAllAttributes : sai_object_meta_key_t → List SaiAttrWrapper
  oOids : sai_object_id_t → Option sai_object_meta_key_t

/-- The status of the objects of the temporary view, and all else: the current view, and the
maps of both views. -/
structure Views (C : Type) where
  current : C
  status : sai_object_meta_key_t → sai_object_status_t

/-- The object is processed. -/
def Views.finish {C : Type} (v : Views C) (current : C) (temporaryObj : sai_object_meta_key_t) :
    Views C :=
  ⟨current, Function.update v.status temporaryObj .FINAL⟩

/-- `isOidObject`. -/
def isOidObject (temporaryObj : sai_object_meta_key_t) : Bool :=
  match temporaryObj.objectkey with
  | .object_id _ => true
  | _ => false

/-- `getOidListFromAttribute`. -/
def getOidListFromAttribute (attr : SaiAttrWrapper) :
    Except ViewExn (List sai_object_id_t) :=
  match attr.m_meta.attrvaluetype with
  | .OBJECT_ID => .ok attr.references
  | .OBJECT_LIST => .ok attr.references
  | .ACL_FIELD_DATA .OBJECT_ID => .ok attr.references
  | .ACL_FIELD_DATA .OBJECT_LIST => .ok attr.references
  | .ACL_ACTION_DATA .OBJECT_ID _ => .ok attr.references
  | .ACL_ACTION_DATA .OBJECT_LIST _ => .ok attr.references
  | _ => if attr.m_meta.isoidattribute then .error .notHandled else .ok []

namespace TemporaryView

variable (temporaryView : TemporaryView)

/-- `oOids.at`. -/
def at_ (vid : sai_object_id_t) : Except ViewExn sai_object_meta_key_t :=
  match temporaryView.oOids vid with
  | none => .error .outOfRange
  | some obj => .ok obj

/-- The objects that an attribute refers to. -/
def parents (attr : SaiAttrWrapper) : List (Except ViewExn sai_object_meta_key_t) :=
  match getOidListFromAttribute attr with
  | .error e => [.error e]
  | .ok vids => (vids.filter (· ≠ SAI_NULL_OBJECT_ID)).map temporaryView.at_

/-- The objects that are processed before an object: those of its attributes, and for an
entry those of its struct members, which are not skipped where they are NULL. -/
def targets (temporaryObj : sai_object_meta_key_t) :
    List (Except ViewExn sai_object_meta_key_t) :=
  (temporaryView.getAllAttributes temporaryObj).flatMap temporaryView.parents ++
    if isOidObject temporaryObj then []
    else temporaryObj.objectkey.structmembers.map fun m => temporaryView.at_ m.1

end TemporaryView

/-! ### The transition of one object -/

/-- The matching: what one object is matched with, and how the current view changes.  `K` are
the objects of the current view. -/
structure Matching (C K : Type) where
  findCurrentBestMatch : Views C → sai_object_meta_key_t → Except ViewExn (Option K)
  getObjectStatus : C → K → sai_object_status_t
  asicCreateObject : Views C → sai_object_meta_key_t → Except ViewExn C
  removeExistingObjectFromCurrentView : Views C → K → Except ViewExn C
  insertNewVidReference : C → sai_object_meta_key_t → Except ViewExn C
  /-- does the transition pass, and what becomes of the current view -/
  performObjectSetTransition : Views C → K → sai_object_meta_key_t → Bool →
    Except ViewExn (Bool × C)
  /-- the object of the current view becomes FINAL, and the maps are updated -/
  remap : C → K → sai_object_meta_key_t → Except ViewExn C

section Transitions

variable {C K : Type} (matching : Matching C K) (v : Views C)
  (temporaryObj : sai_object_meta_key_t)

/-- `createNewObjectFromTemporaryObject`. -/
def createNewObjectFromTemporaryObject : Except ViewExn (Views C) := do
  let current ← matching.asicCreateObject v temporaryObj
  .ok (v.finish current temporaryObj)

/-- `UpdateObjectStatus`. -/
def UpdateObjectStatus (currentBestMatch : K) : Except ViewExn (Views C) :=
  let status := matching.getObjectStatus v.current currentBestMatch
  if v.status temporaryObj = .NOT_PROCESSED ∧ status = .NOT_PROCESSED ∨
      v.status temporaryObj = .MATCHED ∧ status = .MATCHED then do
    let current ← matching.remap v.current currentBestMatch temporaryObj
    .ok (v.finish current temporaryObj)
  else .error .unexpectedStatus

/-- The best match cannot be made the object: it is left, or removed if it is an entry, and
the object is created. -/
def replaceObject (currentBestMatch : K) : Except ViewExn (Views C) :=
  if v.status temporaryObj = .MATCHED then .error .matchedFailed
  else if temporaryObj.objecttype.1 = SAI_OBJECT_TYPE_SWITCH then .error .switchFailed
  else if isOidObject temporaryObj then createNewObjectFromTemporaryObject matching v temporaryObj
  else do
    let current ← matching.removeExistingObjectFromCurrentView v currentBestMatch
    createNewObjectFromTemporaryObject matching ⟨current, v.status⟩ temporaryObj

/-- The VID of an object that is new to the current view. -/
def insertReference : Except ViewExn C :=
  if isOidObject temporaryObj ∧ v.status temporaryObj ≠ .MATCHED then
    matching.insertNewVidReference v.current temporaryObj
  else .ok v.current

/-- The best match is made the object. -/
def updateObject (currentBestMatch : K) : Except ViewExn (Views C) := do
  let current ← insertReference matching v temporaryObj
  let r ← matching.performObjectSetTransition ⟨current, v.status⟩ currentBestMatch temporaryObj true
  UpdateObjectStatus matching ⟨r.2, v.status⟩ temporaryObj currentBestMatch

/-- `processObjectForViewTransition`, after the objects that the object refers to. -/
def transitionObject : Except ViewExn (Views C) := do
  let best ← matching.findCurrentBestMatch v temporaryObj
  match best with
  | none => createNewObjectFromTemporaryObject matching v temporaryObj
  | some currentBestMatch => do
      -- the dry run
      let r ← matching.performObjectSetTransition v currentBestMatch temporaryObj false
      if r.1 then updateObject matching ⟨r.2, v.status⟩ temporaryObj currentBestMatch
      else replaceObject matching ⟨r.2, v.status⟩ temporaryObj currentBestMatch

end Transitions

variable {C K : Type} {matching : Matching C K} {v v' : Views C}
  {temporaryObj : sai_object_meta_key_t}

theorem create_status (h : createNewObjectFromTemporaryObject matching v temporaryObj = .ok v') :
    v'.status = Function.update v.status temporaryObj .FINAL := by
  obtain ⟨current, -, h⟩ := Outcome.bind_eq_ok.mp h
  cases h
  rfl

theorem updateStatus_status {currentBestMatch : K}
    (h : UpdateObjectStatus matching v temporaryObj currentBestMatch = .ok v') :
    v'.status = Function.update v.status temporaryObj .FINAL := by
  unfold UpdateObjectStatus at h
  by_cases hstatus : v.status temporaryObj = .NOT_PROCESSED ∧
      matching.getObjectStatus v.current currentBestMatch = .NOT_PROCESSED ∨
      v.status temporaryObj = .MATCHED ∧
        matching.getObjectStatus v.current currentBestMatch = .MATCHED
  · rw [if_pos hstatus] at h
    obtain ⟨current, -, h⟩ := Outcome.bind_eq_ok.mp h
    cases h
    rfl
  · rw [if_neg hstatus] at h
    cases h

theorem replace_status {currentBestMatch : K}
    (h : replaceObject matching v temporaryObj currentBestMatch = .ok v') :
    v'.status = Function.update v.status temporaryObj .FINAL := by
  unfold replaceObject at h
  split_ifs at h
  · exact create_status h
  · obtain ⟨current, -, h⟩ := Outcome.bind_eq_ok.mp h
    exact create_status (v := ⟨current, v.status⟩) h

theorem update_status {currentBestMatch : K}
    (h : updateObject matching v temporaryObj currentBestMatch = .ok v') :
    v'.status = Function.update v.status temporaryObj .FINAL := by
  obtain ⟨current, -, h⟩ := Outcome.bind_eq_ok.mp h
  obtain ⟨r, -, h⟩ := Outcome.bind_eq_ok.mp h
  exact updateStatus_status (v := ⟨r.2, v.status⟩) h

/-- **What a transition leaves of the statuses**: its object is FINAL, the others are as they
were. -/
theorem transitionObject_status (h : transitionObject matching v temporaryObj = .ok v') :
    v'.status = Function.update v.status temporaryObj .FINAL := by
  obtain ⟨best, -, h⟩ := Outcome.bind_eq_ok.mp h
  cases best with
  | none => exact create_status h
  | some currentBestMatch =>
    obtain ⟨r, -, h⟩ := Outcome.bind_eq_ok.mp h
    cases hpassed : r.1 with
    | true =>
      rw [if_pos hpassed] at h
      exact update_status (v := ⟨r.2, v.status⟩) h
    | false =>
      rw [if_neg (by rw [hpassed]; exact Bool.false_ne_true)] at h
      exact replace_status (v := ⟨r.2, v.status⟩) h

/-! ### The recursion -/

section Recursion

variable (temporaryView : TemporaryView) (matching : Matching C K)

/-- The recursion: an object is processed after those it refers to, unless it is FINAL. -/
def recursion : DepthFirst sai_object_meta_key_t (Views C) ViewExn where
  targets := temporaryView.targets
  done v temporaryObj := decide (v.status temporaryObj = .FINAL)
  act := transitionObject matching
  done_act := by
    intro v n v' h m
    rw [decide_eq_true_iff, decide_eq_true_iff, transitionObject_status h, Function.update_apply]
    split
    · next heq => exact iff_of_true rfl (.inr heq)
    · next hne => exact ⟨.inl, fun h => h.resolve_right hne⟩

/-- `processObjectForViewTransition`. -/
def processObjectForViewTransition (fuel : ℕ) (v : Views C)
    (temporaryObj : sai_object_meta_key_t) : Option (Except ViewExn (Views C)) :=
  (recursion temporaryView matching).walk fuel v temporaryObj

/-- `procesObjectAttributesForViewTransition`. -/
def procesObjectAttributesForViewTransition (fuel : ℕ) (v : Views C)
    (temporaryObj : sai_object_meta_key_t) : Option (Except ViewExn (Views C)) :=
  DepthFirst.forEach (processObjectForViewTransition temporaryView matching fuel)
    (temporaryView.targets temporaryObj) v

/-- One level of the recursion. -/
theorem processObjectForViewTransition_succ (fuel : ℕ) :
    processObjectForViewTransition temporaryView matching (fuel + 1) v temporaryObj =
      if decide (v.status temporaryObj = .FINAL) then some (.ok v)
      else
        match procesObjectAttributesForViewTransition temporaryView matching fuel v
            temporaryObj with
        | none => none
        | some (.error e) => some (.error e)
        | some (.ok v') => some (transitionObject matching v' temporaryObj) := by
  rw [processObjectForViewTransition, DepthFirst.walk]
  have hall : DepthFirst.forEach ((recursion temporaryView matching).walk fuel)
      ((recursion temporaryView matching).targets temporaryObj) v
        = procesObjectAttributesForViewTransition temporaryView matching fuel v temporaryObj := rfl
  rw [hall]
  rcases procesObjectAttributesForViewTransition temporaryView matching fuel v temporaryObj with - | ⟨e | u⟩
  · rfl
  · rfl
  · rfl

/-- From an object that is not FINAL to one it refers to. -/
def RefersTo (v : Views C) (a b : sai_object_meta_key_t) : Prop :=
  v.status a ≠ .FINAL ∧ .ok b ∈ temporaryView.targets a

/-- What is visited from an object. -/
def Visits (v : Views C) (a b : sai_object_meta_key_t) : Prop :=
  Relation.ReflTransGen (RefersTo temporaryView v) a b

/-- No object that is visited leads back to itself. -/
def Acyclic (v : Views C) (temporaryObj : sai_object_meta_key_t) : Prop :=
  ∀ b, Visits temporaryView v temporaryObj b →
    ¬ Relation.TransGen (RefersTo temporaryView v) b b

/-- All that is referred to is in the view, in attributes that are handled. -/
def Resolves (v : Views C) (temporaryObj : sai_object_meta_key_t) : Prop :=
  ∀ b, Visits temporaryView v temporaryObj b → v.status b ≠ .FINAL →
    ∀ e, .error e ∉ temporaryView.targets b

/-- The objects that are visited and not FINAL, each after those it refers to: the order in
which a depth-first walk over the references leaves them. -/
def IsOrder (v : Views C) (temporaryObj : sai_object_meta_key_t)
    (order : List sai_object_meta_key_t) : Prop :=
  (recursion temporaryView matching).IsOrder v temporaryObj order

/-- **The object is processed**, to the end and without exception, and all that was visited is
FINAL. -/
def BringsToFinal (v : Views C) (temporaryObj : sai_object_meta_key_t) : Prop :=
  ∃ fuel v', processObjectForViewTransition temporaryView matching fuel v temporaryObj
      = some (.ok v') ∧
    ∀ b, Visits temporaryView v temporaryObj b → v'.status b = .FINAL

end Recursion

variable {temporaryView : TemporaryView}

theorem step_recursion :
    (recursion temporaryView matching).Step v = RefersTo temporaryView v := by
  funext a b
  unfold DepthFirst.Step RefersTo recursion
  rw [decide_eq_false_iff_not]

/-- There are only so many VIDs. -/
theorem finite_targets :
    {b | ∃ a, .ok b ∈ (recursion temporaryView matching).targets a}.Finite := by
  have hrange : {b | ∃ vid, temporaryView.oOids vid = some b}.Finite :=
    (Set.finite_range temporaryView.oOids).preimage (f := some) (Option.some_injective _).injOn
  have hat : ∀ {vid b}, temporaryView.at_ vid = .ok b → temporaryView.oOids vid = some b := by
    intro vid b h
    unfold TemporaryView.at_ at h
    cases hvid : temporaryView.oOids vid with
    | none =>
      rw [hvid] at h
      cases h
    | some obj =>
      rw [hvid] at h
      cases h
      rfl
  refine hrange.subset ?_
  rintro b ⟨a, hb⟩
  rcases List.mem_append.mp hb with hb | hb
  · obtain ⟨attr, -, hb⟩ := List.mem_flatMap.mp hb
    unfold TemporaryView.parents at hb
    cases hvids : getOidListFromAttribute attr with
    | error e =>
      rw [hvids] at hb
      cases List.mem_singleton.mp hb
    | ok vids =>
      rw [hvids] at hb
      obtain ⟨vid, -, hvid⟩ := List.mem_map.mp hb
      exact ⟨vid, hat hvid⟩
  · split_ifs at hb
    · cases hb
    · obtain ⟨m, -, hm⟩ := List.mem_map.mp hb
      exact ⟨m.1, hat hm⟩

/-- **When all that is visited becomes FINAL**: no object that is visited leads back to itself,
the view holds what is referred to, and the transitions of the single objects, in their
order, throw nothing. -/
theorem view_processing_finishes_iff (temporaryView : TemporaryView) (matching : Matching C K)
    (v : Views C) (temporaryObj : sai_object_meta_key_t) :
    BringsToFinal temporaryView matching v temporaryObj ↔
      (Acyclic temporaryView v temporaryObj ∧ Resolves temporaryView v temporaryObj) ∧
        ∀ order, IsOrder temporaryView matching v temporaryObj order →
          ∃ v', order.foldlM (transitionObject matching) v = .ok v' := by
  have hfinal : ∀ v : Views C, ∀ b,
      (recursion temporaryView matching).done v b = true ↔ v.status b = .FINAL :=
    fun v b => decide_eq_true_iff
  have hiff := DepthFirst.finishes_iff (S := recursion temporaryView matching) (s := v)
    (a := temporaryObj) finite_targets
  have hfinishes : BringsToFinal temporaryView matching v temporaryObj ↔
      (recursion temporaryView matching).Finishes v temporaryObj := by
    unfold BringsToFinal DepthFirst.Finishes DepthFirst.Ahead Visits
    simp only [step_recursion, hfinal]
    rfl
  have hacyclic : (recursion temporaryView matching).Acyclic v temporaryObj ↔
      Acyclic temporaryView v temporaryObj := by
    unfold Acyclic DepthFirst.Acyclic DepthFirst.Ahead Visits
    rw [step_recursion]
  have hresolves : (recursion temporaryView matching).Found v temporaryObj ↔
      Resolves temporaryView v temporaryObj := by
    unfold Resolves DepthFirst.Found DepthFirst.Ahead Visits
    simp only [step_recursion, ne_eq, ← hfinal v, Bool.not_eq_true]
    rfl
  rw [hfinishes, hiff, hacyclic, hresolves]
  rfl

/-! ### A mirrored port -/

/-- The view of what the metadata layer holds. -/
def viewOf (M : Metadata) (s : St) : TemporaryView where
  getAllAttributes key :=
    match s.ObjectAttrHash.lookup key with
    | none => []
    | some attrs => attrs.entries.map (·.2)
  oOids vid := if (s.ObjectAttrHash.lookup (idKey M vid)).isSome then some (idKey M vid) else none

/-- A matching that finds no match and throws nothing: every object is created. -/
def createAll : Matching Unit Unit where
  findCurrentBestMatch _ _ := .ok none
  getObjectStatus _ _ := .NOT_PROCESSED
  asicCreateObject _ _ := .ok ()
  removeExistingObjectFromCurrentView _ _ := .ok ()
  insertNewVidReference _ _ := .ok ()
  performObjectSetTransition _ _ _ _ := .ok (true, ())
  remap _ _ _ := .ok ()

/-- No object of the temporary view has been processed. -/
def notProcessed : Views Unit := ⟨(), fun _ => .NOT_PROCESSED⟩

/-- Two objects that refer to each other are processed without end. -/
theorem processObject_diverges {a b : sai_object_meta_key_t}
    (ha : temporaryView.targets a = [.ok b]) (hb : temporaryView.targets b = [.ok a])
    (hnota : v.status a ≠ .FINAL) (hnotb : v.status b ≠ .FINAL) (fuel : ℕ) :
    processObjectForViewTransition temporaryView matching fuel v a = none ∧
      processObjectForViewTransition temporaryView matching fuel v b = none := by
  induction fuel with
  | zero => exact ⟨rfl, rfl⟩
  | succ fuel ih =>
    have hlevel : ∀ {x y}, temporaryView.targets x = [.ok y] → v.status x ≠ .FINAL →
        processObjectForViewTransition temporaryView matching fuel v y = none →
          processObjectForViewTransition temporaryView matching (fuel + 1) v x = none := by
      intro x y hx hnot hy
      rw [processObjectForViewTransition_succ, if_neg (by rwa [decide_eq_true_iff]),
        procesObjectAttributesForViewTransition, hx, DepthFirst.forEach_ok, hy]
    exact ⟨hlevel ha hnota ih.2, hlevel hb hnotb ih.1⟩

def SAI_OBJECT_TYPE_MIRROR_SESSION : ℤ := 14
def SAI_PORT_ATTR_INGRESS_MIRROR_SESSION : ℕ := 54
def SAI_MIRROR_SESSION_ATTR_MONITOR_PORT : ℕ := 1

def mirrorSessionType : sai_object_type_t := ⟨SAI_OBJECT_TYPE_MIRROR_SESSION, by decide⟩
def sampleSessionId : sai_object_id_t := 0x000e000000000004

/-- The sessions that a port is mirrored to, and the port that a session sends to. -/
def mirrorAttrs (objecttype : sai_object_type_t) : List AttrMetadata :=
  if objecttype.1 = SAI_OBJECT_TYPE_PORT then
    [plainAttr SAI_PORT_ATTR_INGRESS_MIRROR_SESSION .OBJECT_LIST false false
      [SAI_OBJECT_TYPE_MIRROR_SESSION]]
  else if objecttype.1 = SAI_OBJECT_TYPE_MIRROR_SESSION then
    [plainAttr SAI_MIRROR_SESSION_ATTR_MONITOR_PORT .OBJECT_ID true false [SAI_OBJECT_TYPE_PORT]]
  else sampleAttrs objecttype

/-- The metadata with these attributes. -/
def mirrorMetadata : Metadata :=
  { sampleMetadata with
    attrmetadata := mirrorAttrs
    readOnly_capability := by
      intro objecttype
      unfold mirrorAttrs
      split_ifs
      · simp [plainAttr]
      · simp [plainAttr]
      · exact fun md => sampleAttrs_capability md }

def createSession : Call :=
  .create_oid mirrorSessionType sampleSwitchId
    [.of SAI_MIRROR_SESSION_ATTR_MONITOR_PORT .OBJECT_ID samplePortId] .SUCCESS sampleSessionId

def setMirror : Call :=
  .set_oid portType samplePortId
    (.of SAI_PORT_ATTR_INGRESS_MIRROR_SESSION .OBJECT_LIST (listOf sampleSessionId)) .SUCCESS

/-- **A port that is mirrored to a session that sends to it is processed without end**, after
calls that were all accepted. -/
theorem mirror_processing_diverges :
    ∃ s, Run (Guarded (Promised mirrorMetadata) (Step mirrorMetadata)) meta_init_db
        [createSwitch, getPorts, createSession, setMirror] s ∧
      ∀ fuel, processObjectForViewTransition (viewOf mirrorMetadata s) createAll fuel notProcessed
        (idKey mirrorMetadata samplePortId) = none := by
  have hreached : ∃ s, Run (Guarded (Promised mirrorMetadata) (Step mirrorMetadata))
      meta_init_db [createSwitch, getPorts, createSession, setMirror] s ∧
        (decide ((viewOf mirrorMetadata s).targets (idKey mirrorMetadata samplePortId)
            = [.ok (idKey mirrorMetadata sampleSessionId)]) &&
          decide ((viewOf mirrorMetadata s).targets (idKey mirrorMetadata sampleSessionId)
            = [.ok (idKey mirrorMetadata samplePortId)])) = true :=
    reached_of_performAll (by decide +kernel)
  obtain ⟨s, hrun, hs⟩ := hreached
  obtain ⟨hport, hsession⟩ := Bool.and_eq_true_iff.mp hs
  refine ⟨s, hrun, fun fuel => ?_⟩
  exact (processObject_diverges (of_decide_eq_true hport) (of_decide_eq_true hsession)
    (fun h => by cases h) (fun h => by cases h) fuel).1

/-- **Not all that is visited becomes FINAL**, in a view whose attributes were all accepted. -/
theorem not_view_processing_finishes :
    ¬ ∀ (M : Metadata) (calls : List Call) (s : St),
      Run (Guarded (Promised M) (Step M)) meta_init_db calls s →
        ∀ (C K : Type) (matching : Matching C K) (v : Views C)
          (temporaryObj : sai_object_meta_key_t),
            BringsToFinal (viewOf M s) matching v temporaryObj := by
  intro h
  obtain ⟨s, hrun, hdiverges⟩ := mirror_processing_diverges
  obtain ⟨fuel, v', hwalk, -⟩ := h mirrorMetadata _ s hrun Unit Unit createAll notProcessed
    (idKey mirrorMetadata samplePortId)
  rw [hdiverges fuel] at hwalk
  cases hwalk

end Syncd.ApplyView
