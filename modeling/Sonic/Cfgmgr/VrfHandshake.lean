/-
Cfgmgr/VrfHandshake.lean

What vrfmgrd and `VRFOrch` keep between them, for each VRF.

The life of a VRF is a `Phase`: the tasks that are under way, whether the VRF is announced, and
whether its router and its device are there.  Every event is a move of the phase
(`move_next`), in whatever order the processes take their tasks.

The device of a VRF is there as long as its router is, and as long as the orch has still to make
one (`run_safe`).  A removal waits for the router of a VRF that is announced.  If the parser has
refused the task that was to make the router, it waits for ever (`removal_stuck`).
-/
import Sonic.Cfgmgr.VrfMgr

namespace Cfgmgr.Vrf

open Orchagent (addToSlot)
open Swss
open Transition (Run Guarded)

/-! ### Phases -/

/-- The operation of a task. -/
inductive Op where
  | set | del | other
  deriving DecidableEq

structure Phase where
  /-- the task that waits in APP_DB -/
  sent : Option Op
  /-- the task that waits in the orch -/
  filed : Option Op
  announced : Bool
  object : Bool
  device : Bool

namespace Phase

def set (p : Phase) : Phase := { p with sent := some .set, announced := true, device := true }

def withdraw (p : Phase) : Phase := { p with sent := some .del, announced := false }

def unlink (p : Phase) : Phase := { p with device := false }

def deliver (p : Phase) : Phase :=
  match p.sent with
  | none => p
  | some op => { p with sent := none, filed := some op }

/-- The orch does the task. -/
def perform (p : Phase) : Phase :=
  match p.filed with
  | none => p
  | some .set => { p with filed := none, object := true }
  | some .del => { p with filed := none, object := false }
  | some .other => { p with filed := none }

/-- The parser refuses the task. -/
def refuse (p : Phase) : Phase := { p with filed := none }

/-- What the two processes do to a VRF.  It is set only if vrfmgrd has a task that says so. -/
inductive Move (hasSet : Prop) (p : Phase) : Phase → Prop
  | stay : Move hasSet p p
  | made : Move hasSet p { p with device := true }
  | set (h : hasSet) : Move hasSet p p.set
  | withdraw (hannounced : p.announced = true) (hobject : p.object = true) :
      Move hasSet p p.withdraw
  | unlink (hannounced : p.announced = false) (hobject : p.object = false) : Move hasSet p p.unlink
  | deliver : Move hasSet p p.deliver
  | perform : Move hasSet p p.perform

/-- The device is there as long as it is needed. -/
structure Safe (p : Phase) : Prop where
  object : p.object = true → p.device = true
  sent : p.sent = some .set → p.device = true ∧ p.announced = true
  filed : p.filed = some .set → p.device = true ∧ (p.announced = true ∨ p.object = true)

variable {p q : Phase} {hasSet : Prop}

theorem Safe.refuse (hp : Safe p) : Safe p.refuse := ⟨hp.object, hp.sent, fun h => by cases h⟩

theorem Move.safe (h : Move hasSet p q) (hp : Safe p) : Safe q := by
  obtain ⟨hobject, hsent, hfiled⟩ := hp
  cases h <;> constructor <;>
    grind [Phase.set, Phase.withdraw, Phase.unlink, Phase.deliver, Phase.perform]

theorem Move.mono {hasSet' : Prop} (h : Move hasSet p q) (himp : hasSet → hasSet') :
    Move hasSet' p q := by
  cases h with
  | stay => exact .stay
  | made => exact .made
  | set hset => exact .set (himp hset)
  | withdraw hannounced hobject => exact .withdraw hannounced hobject
  | unlink hannounced hobject => exact .unlink hannounced hobject
  | deliver => exact .deliver
  | perform => exact .perform

/-- The router will not be made. -/
def stuck : Phase := ⟨none, none, true, false, true⟩

theorem Move.stuck (h : Move hasSet stuck q) (hset : ¬ hasSet) : q = Phase.stuck := by
  cases h with
  -- the VRF is announced without a router, so it is neither withdrawn nor unlinked
  | set h => exact absurd h hset
  | withdraw hannounced hobject => cases hobject
  | unlink hannounced hobject => cases hannounced
  | _ => rfl

end Phase

/-! ### The phase of a VRF -/

def opOf (t : KeyOpFieldsValuesTuple) : Op :=
  if t.kfvOp = SET_COMMAND then .set else if t.kfvOp = DEL_COMMAND then .del else .other

def VrfState.phase (v : VrfState) : Phase where
  sent := (v.app .VRF).map opOf
  filed := v.orch.map opOf
  announced := v.stateVrf
  object := v.stateVrfObject
  device := v.link.isSome

variable {n : String} {m : VrfMgr} {v : VrfState} {t : KeyOpFieldsValuesTuple} {w w' : World}
  {exec : Cmd → Bool} {es : List Event}

theorem map_opOf_addToSlot {slot : Option KeyOpFieldsValuesTuple} :
    (addToSlot slot t).map opOf = some (opOf t) := by
  cases slot with
  | none => rfl
  | some existing_data =>
    unfold addToSlot
    dsimp only
    split <;> rfl

theorem opOf_set (h : t.kfvOp = SET_COMMAND) : opOf t = .set := if_pos h

theorem opOf_del (h : t.kfvOp = DEL_COMMAND) : opOf t = .del := by
  unfold opOf
  rw [h]
  rfl

theorem phase_announce :
    (m.announce .VRF t).vrf.phase = { m.vrf.phase with sent := some .set, announced := true } := by
  unfold VrfMgr.announce VrfMgr.send VrfState.phase
  dsimp only
  rw [Function.update_self, map_opOf_addToSlot]
  rfl

theorem phase_withdraw : (m.withdraw .VRF t).vrf.phase = m.vrf.phase.withdraw := by
  unfold VrfMgr.withdraw VrfMgr.send VrfState.phase
  dsimp only
  rw [Function.update_self, map_opOf_addToSlot]
  rfl

/-- The orch has an entry of the VRF exactly if it says so. -/
def Told (v : VrfState) : Prop := v.stateVrfObject = v.vrf_table_.isSome

/-- The DEL of a VRF, as the phase has it. -/
theorem doTask_del (h : t.kfvOp = DEL_COMMAND) :
    m.doTask exec .VRF t =
      if m.vrf.stateVrfObject = true then
        if m.vrf.stateVrf = true then .ok (m.withdraw .VRF t, false) else .ok (m, false)
      else if m.vrf.stateVrf = true then .ok (m, false)
      else (m.delLink exec).map fun r => (r.1, true) := by
  have hset : ¬ t.kfvOp = SET_COMMAND := by
    rw [h]
    decide
  unfold VrfMgr.doTask
  rw [if_neg hset, if_pos h]
  cases hannounced : m.vrf.stateVrf <;> cases hobject : m.vrf.stateVrfObject <;>
    simp [hobject, VrfMgr.withdraw, VrfMgr.send]

/-- **A task of vrfmgrd**, if a table is free for a device that is to be made. -/
theorem move_vrfmgrd (hzero : 0 ∉ m.m_freeTables) (htold : Told m.vrf)
    (hfree : m.vrf.link = none → m.m_freeTables.Nonempty) :
    Leaves (fun m' _ => Told m'.vrf ∧ Phase.Move (t.kfvOp = SET_COMMAND) m.vrf.phase m'.vrf.phase)
      (m.doTask exec .VRF t) := by
  by_cases hop : t.kfvOp = DEL_COMMAND
  · rw [doTask_del hop]
    split
    · next hobject =>
        split
        · next hannounced =>
            refine ⟨htold, ?_⟩
            rw [phase_withdraw]
            exact .withdraw hannounced hobject
        · exact ⟨htold, .stay⟩
    · next hobject =>
        split
        · exact ⟨htold, .stay⟩
        · next hannounced =>
            exact leaves_delLink ⟨htold, .stay⟩ (fun _ => ⟨htold, .stay⟩) fun _ _ => ⟨htold,
              .unlink (eq_false_of_ne_true hannounced) (eq_false_of_ne_true hobject)⟩
  unfold VrfMgr.doTask
  rw [if_neg hop]
  split
  · next hop =>
      have hset : ∀ {m' : VrfMgr}, m'.vrf.phase = { m.vrf.phase with device := true } →
          Phase.Move (t.kfvOp = SET_COMMAND) m.vrf.phase (m'.announce .VRF t).vrf.phase := by
        intro m' h
        rw [phase_announce, h]
        exact .set hop
      -- a table is free, so the VRF is not announced without its device
      refine leaves_setLink hzero (fun hthere => ⟨htold, hset ?_⟩)
        (fun hnone hempty => absurd hempty (hfree hnone).ne_empty) fun id _ _ =>
        ⟨⟨htold, .stay⟩, ⟨htold, .made⟩, htold, hset rfl⟩
      rw [← hthere]
      rfl
  · exact ⟨htold, .stay⟩

theorem phase_deliver : v.deliver.phase = v.phase.deliver := by
  unfold VrfState.deliver Phase.deliver
  cases hsent : v.app .VRF with
  | none =>
    have hnone : v.phase.sent = none := congrArg (Option.map opOf) hsent
    rw [hnone]
  | some t =>
    have hsome : v.phase.sent = some (opOf t) := congrArg (Option.map opOf) hsent
    rw [hsome]
    unfold VrfState.phase
    dsimp only
    rw [Function.update_self, map_opOf_addToSlot]
    rfl

/-- **A task of the orch**: it is performed, or refused, or kept. -/
theorem phase_doTask (htold : Told v) (answer : Answer) :
    Told (v.doTask answer) ∧ ((v.doTask answer).phase = v.phase.perform ∨
      answer = .invalid ∧ (v.doTask answer).phase = v.phase.refuse ∨
      (v.doTask answer).phase = v.phase) := by
  unfold VrfState.doTask
  cases hpending : v.orch with
  | none =>
    have hfiled : v.phase.filed = none := congrArg (Option.map opOf) hpending
    refine ⟨htold, .inl ?_⟩
    rw [Phase.perform, hfiled]
  | some t =>
    have hop : ∀ {op}, opOf t = op → v.phase.filed = some op := fun h =>
      h ▸ congrArg (Option.map opOf) hpending
    have hobject : v.phase.object = v.vrf_table_.isSome := htold
    have hdone := done_operation v t answer
    dsimp only
    generalize v.operation t answer = r at hdone ⊢
    cases hdone with
    | kept h => exact ⟨htold, .inr (.inr rfl)⟩
    | refused h => exact ⟨htold, .inr (.inl ⟨h, rfl⟩)⟩
    | other hset hdel =>
      refine ⟨htold, .inl ?_⟩
      rw [Phase.perform, hop ((if_neg hset).trans (if_neg hdel))]
      rfl
    | there hset h =>
      refine ⟨htold, .inl ?_⟩
      rw [h] at hobject
      rw [Phase.perform, hop (opOf_set hset)]
      exact congrArg (fun object => { v.phase with filed := none, object := object }) hobject
    | gone hdel h =>
      refine ⟨htold, .inl ?_⟩
      rw [h] at hobject
      rw [Phase.perform, hop (opOf_del hdel)]
      exact congrArg (fun object => { v.phase with filed := none, object := object }) hobject
    | made router_id hset =>
      refine ⟨rfl, .inl ?_⟩
      rw [Phase.perform, hop (opOf_set hset)]
      rfl
    | removed hdel =>
      refine ⟨rfl, .inl ?_⟩
      rw [Phase.perform, hop (opOf_del hdel)]
      rfl

/-! ### Every event -/

/-- No VNET has the name of the VRF, and a table is free when vrfmgrd makes its device. -/
def Allowed (n : String) (w : World) : Event → Prop
  | .vrfmgrd table name _ => name = n → table = .VRF ∧
      ((w.vrf n).link = none → w.m_freeTables.Nonempty)
  | _ => True

/-- What holds of a VRF holds of it when another is changed. -/
theorem vrf_put {P : VrfState → Prop} {name : String} (hold : P (w.vrf n))
    (hnew : name = n → P v) : P ((w.put name v).vrf n) := by
  show P (Function.update w.vrf name v n)
  rw [Function.update_apply]
  split
  · next hname => exact hnew hname.symm
  · exact hold

/-- vrfmgrd takes a SET of the VRF. -/
def TakesSet (n : String) (w : World) (e : Event) : Prop :=
  ∃ exec t, e = .vrfmgrd .VRF n exec ∧ (w.vrf n).cfg .VRF = some t ∧ t.kfvOp = SET_COMMAND

/-- The VRF as it may be after an event: the phase has moved, or the parser has refused a task. -/
abbrev Moved (n : String) (w : World) (e : Event) (v : VrfState) : Prop :=
  Told v ∧ (Phase.Move (TakesSet n w e) (w.vrf n).phase v.phase ∨
    e = .vrforch n .invalid ∧ v.phase = (w.vrf n).phase.refuse)

/-- **Every event is a move of the phase**, but for a task that the parser refuses. -/
theorem move_next (ht : w.Tables) (htold : Told (w.vrf n)) {e : Event} (hallowed : Allowed n w e) :
    Moved n w e ((next w e).vrf n) := by
  -- what the event has to do to the VRF; another one stays as it is
  have hput : ∀ {name : String} {v : VrfState}, (name = n → Moved n w e v) →
      Moved n w e ((w.put name v).vrf n) :=
    fun hnew => vrf_put (P := Moved n w e) ⟨htold, .inl .stay⟩ hnew
  cases e with
  | config table entry =>
    refine hput fun hname => ?_
    subst hname
    exact ⟨htold, .inl .stay⟩
  | vrfmgrd table name exec =>
    unfold next vrfmgrd
    dsimp only
    split
    · cases hpending : (w.vrf name).cfg table with
      | none => exact ⟨htold, .inl .stay⟩
      | some t =>
        dsimp only
        by_cases hname : name = n
        · subst hname
          obtain ⟨rfl, hfree⟩ := hallowed rfl
          have hmove : Leaves (fun m' _ => Told m'.vrf ∧
              Phase.Move (t.kfvOp = SET_COMMAND) (w.vrf name).phase m'.vrf.phase)
              (VrfMgr.doTask exec ⟨w.m_freeTables, w.vrf name⟩ .VRF t) :=
            move_vrfmgrd ht.zero htold hfree
          have htakes : t.kfvOp = SET_COMMAND → TakesSet name w (.vrfmgrd .VRF name exec) :=
            fun hop => ⟨exec, t, rfl, hpending, hop⟩
          generalize VrfMgr.doTask exec ⟨w.m_freeTables, w.vrf name⟩ .VRF t = r at hmove ⊢
          cases r with
          | error m => exact hput fun _ => ⟨hmove.1, .inl (hmove.2.mono htakes)⟩
          | ok r =>
            obtain ⟨m, erased⟩ := r
            refine hput fun _ => ?_
            cases erased <;> exact ⟨hmove.1, .inl (hmove.2.mono htakes)⟩
        · cases VrfMgr.doTask exec ⟨w.m_freeTables, w.vrf name⟩ table t with
          | error m => exact hput (absurd · hname)
          | ok r => exact hput (absurd · hname)
    · exact ⟨htold, .inl .stay⟩
  | deliver name =>
    refine hput fun hname => ?_
    subst hname
    refine ⟨?_, .inl (phase_deliver ▸ .deliver)⟩
    unfold VrfState.deliver
    split <;> exact htold
  | vrforch name answer =>
    refine hput fun hname => ?_
    subst hname
    refine (phase_doTask htold answer).imp_right fun hphase => ?_
    rcases hphase with h | ⟨hinvalid, h⟩ | h
    · exact .inl (h ▸ .perform)
    · exact .inr ⟨congrArg _ hinvalid, h⟩
    · exact .inl (h ▸ .stay)
  | reference name change =>
    refine hput fun hname => ?_
    subst hname
    exact ⟨htold.trans Option.isSome_map.symm, .inl .stay⟩

/-! ### Runs -/

abbrev Step (w : World) (e : Event) (w' : World) : Prop := w' = next w e

structure Kept (n : String) (w : World) : Prop where
  tables : w.Tables
  told : Told (w.vrf n)
  safe : (w.vrf n).phase.Safe

theorem phase_start (hw : Start w) :
    (w.vrf n).phase = ⟨none, none, false, false, (w.vrf n).link.isSome⟩ := by
  obtain ⟨hsent, hannounced, hfiled, -, hobject⟩ := hw.nothing n
  unfold VrfState.phase
  rw [hsent, hannounced, hfiled, hobject]
  rfl

theorem start_told (hw : Start w) : Told (w.vrf n) := by
  obtain ⟨-, -, -, hentry, hobject⟩ := hw.nothing n
  rw [Told, hentry, hobject]
  rfl

theorem run_kept (hw : Start w) (h : Run (Guarded (Allowed n) Step) w es w') : Kept n w' := by
  refine h.keeps (I := Kept n) ⟨run_tables hw .nil, start_told hw, ?_⟩ ?_
  · rw [phase_start hw]
    constructor <;> simp
  · rintro w e w' ⟨ht, htold, hsafe⟩ ⟨hallowed, rfl⟩
    obtain ⟨htold', hmove | ⟨-, hrefuse⟩⟩ := move_next ht htold hallowed
    · exact ⟨tables_next ht e, htold', hmove.safe hsafe⟩
    · exact ⟨tables_next ht e, htold', hrefuse ▸ hsafe.refuse⟩

/-- **The device of a VRF is there as long as its router is, or is still to come**, whichever
commands fail and whatever the parser refuses. -/
theorem run_safe (hw : Start w) (h : Run (Guarded (Allowed n) Step) w es w') :
    ((w'.vrf n).vrf_table_ ≠ none → (w'.vrf n).link ≠ none) ∧ (w'.vrf n).phase.Safe := by
  obtain ⟨-, htold, hsafe⟩ := run_kept hw h
  refine ⟨fun hentry => ?_, hsafe⟩
  have hobject : (w'.vrf n).phase.object = true :=
    htold.trans (Option.isSome_iff_ne_none.mpr hentry)
  exact Option.isSome_iff_ne_none.mp (hsafe.object hobject)

theorem linked_boot {p : Prop} {v : VrfState} (hv : v.link = some 1001) (h : v.link = none) : p := by
  cases hv.symm.trans h

theorem run_setEvents : Run (Guarded (Allowed "Vrf1") Step) boot setEvents
    (setEvents.foldl next boot) :=
  Run.guarded_foldl ⟨trivial, fun _ => ⟨rfl, linked_boot rfl⟩, trivial, trivial⟩

theorem run_safe_boot :
    (((setEvents.foldl next boot).vrf "Vrf1").vrf_table_ ≠ none →
      ((setEvents.foldl next boot).vrf "Vrf1").link ≠ none) ∧
      ((setEvents.foldl next boot).vrf "Vrf1").phase.Safe :=
  run_safe start_boot run_setEvents

/-! ### A removal that waits -/

/-- vrfmgrd takes no SET of the VRF. -/
def Waiting (n : String) (w : World) (e : Event) : Prop := Allowed n w e ∧ ¬ TakesSet n w e

theorem phase_invalid : (v.doTask .invalid).phase = v.phase.refuse := by
  unfold VrfState.doTask
  cases hpending : v.orch with
  | none =>
    have hfiled : v.phase.filed = none := congrArg (Option.map opOf) hpending
    rw [Phase.refuse, ← hfiled]
  | some t => rfl

/-- **A removal waits for ever** if the parser refuses the task that was to make the router: the
device stays, and vrfmgrd keeps the DEL whenever it takes it. -/
theorem removal_stuck {u : World} {es' : List Event} (hw : Start w)
    (h : Run (Guarded (Allowed n) Step) w es u) (hsent : (u.vrf n).phase.sent = none)
    (hfiled : (u.vrf n).phase.filed = some .set) (hobject : (u.vrf n).phase.object = false)
    (h' : Run (Guarded (Waiting n) Step) (next u (.vrforch n .invalid)) es' w') :
    (w'.vrf n).link ≠ none ∧ ∀ t exec, (w'.vrf n).cfg .VRF = some t → t.kfvOp = DEL_COMMAND →
      next w' (.vrfmgrd .VRF n exec) = w' := by
  obtain ⟨ht, htold, hsafe⟩ := run_kept hw h
  -- the VRF is announced, and the task that was to make its router is gone
  have hstuck : ((next u (.vrforch n .invalid)).vrf n).phase = .stuck := by
    obtain ⟨hdevice, hannounced⟩ := hsafe.filed hfiled
    have hyes := hannounced.resolve_right (ne_true_of_eq_false hobject)
    have hput : (next u (.vrforch n .invalid)).vrf n = (u.vrf n).doTask .invalid :=
      Function.update_self ..
    rw [hput, phase_invalid, Phase.refuse, hsent, hobject, hdevice, hyes]
    rfl
  have hrest : w'.Tables ∧ Told (w'.vrf n) ∧ (w'.vrf n).phase = .stuck := by
    refine h'.keeps (I := fun w => w.Tables ∧ Told (w.vrf n) ∧ (w.vrf n).phase = .stuck)
      ⟨tables_next ht _, (move_next (e := .vrforch n .invalid) ht htold trivial).1, hstuck⟩ ?_
    rintro w e w' ⟨ht, htold, hstuck⟩ ⟨⟨hallowed, hset⟩, rfl⟩
    obtain ⟨htold', hmove⟩ := move_next ht htold hallowed
    rw [hstuck] at hmove
    refine ⟨tables_next ht e, htold', ?_⟩
    rcases hmove with hmove | ⟨-, hrefuse⟩
    · exact hmove.stuck hset
    · exact hrefuse
  obtain ⟨-, -, hphase⟩ := hrest
  have hdevice : (w'.vrf n).link.isSome = true := congrArg Phase.device hphase
  have hannounced : (w'.vrf n).stateVrf = true := congrArg Phase.announced hphase
  have hnone : (w'.vrf n).stateVrfObject = false := congrArg Phase.object hphase
  refine ⟨Option.isSome_iff_ne_none.mp hdevice, fun t exec hpending hdel => ?_⟩
  unfold next vrfmgrd
  dsimp only
  split
  · have htask : VrfMgr.doTask exec ⟨w'.m_freeTables, w'.vrf n⟩ .VRF t
        = .ok (⟨w'.m_freeTables, w'.vrf n⟩, false) := by
      rw [doTask_del hdel]
      dsimp only
      rw [hnone, hannounced]
      rfl
    rw [hpending]
    dsimp only
    rw [htask]
    exact congrArg (fun vrf => { w' with vrf := vrf }) (Function.update_eq_self ..)
  · rfl

def delTask : KeyOpFieldsValuesTuple := ⟨"Vrf1", DEL_COMMAND, []⟩

theorem removal_stuck_boot :
    let u := next (setEvents.foldl next boot) (.vrforch "Vrf1" .invalid)
    let w' := [.config .VRF delTask].foldl next u
    (w'.vrf "Vrf1").link ≠ none ∧ ∀ t exec, (w'.vrf "Vrf1").cfg .VRF = some t →
      t.kfvOp = DEL_COMMAND → next w' (.vrfmgrd .VRF "Vrf1" exec) = w' :=
  removal_stuck start_boot run_setEvents rfl rfl rfl
    (Run.guarded_foldl ⟨⟨trivial, fun ⟨_, _, h, _⟩ => by cases h⟩, trivial⟩)

end Cfgmgr.Vrf
