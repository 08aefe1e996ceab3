/-
Cfgmgr/VxlanDevices.lean

What the commands of `VxlanMgr` do to the host.

A list of steps is undone (`Undone`) if each step makes at most one device, and what is run
when a step fails removes every device that the steps before it made.  Such steps leave the
host as it was when one of them fails (`runSteps_same`), whatever else is refused, as long as
no removal is.
-/
import Sonic.Cfgmgr.VxlanMgr

namespace Cfgmgr.Vxlan

open Links (Same Within)

variable {deny : Denial} {s s' : St} {h h' h₁ h₂ : Host} {c : Command} {cmd : List Command}
  {cmds rollback : List (List Command)} {info : VxlanInfo} {dev n : String}
  {steps : List (List Command × List (List Command))}

/-- The host never refuses to remove a device, or to list them. -/
structure NeverRefused (deny : Denial) : Prop where
  del : ∀ n dev, deny n (.del dev) = false
  listDevices : ∀ n, deny n .listDevices = false

/-- The command changes or removes devices of `D`, and makes none. -/
def Command.On (D : List String) : Command → Prop
  | .listDevices => True
  | .addVxlan _ _ _ => False
  | .addBridge _ => False
  | .setUp dev => dev ∈ D
  | .setAddress dev _ => dev ∈ D
  | .setMaster dev _ => dev ∈ D
  | .noMaster dev => dev ∈ D
  | .addIf _ dev => dev ∈ D
  | .delIf _ dev => dev ∈ D
  | .del dev => dev ∈ D

/-- The command makes the device. -/
def Command.Makes (dev : String) : Command → Prop
  | .addVxlan dev' _ _ => dev' = dev
  | .addBridge dev' => dev' = dev
  | _ => False

variable {D : List String}

/-! ### One command -/

theorem effect_makes (hmakes : c.Makes dev) (heff : c.effect h = some h') :
    ∃ kind, h.add dev kind none = some h' := by
  cases c with
  | addVxlan dev' vni sourceIp =>
    obtain rfl : dev' = dev := hmakes
    exact ⟨_, heff⟩
  | addBridge dev' =>
    obtain rfl : dev' = dev := hmakes
    exact ⟨_, heff⟩
  | _ => exact hmakes.elim

theorem effect_within (hon : c.On D) (hin : Within (· ∈ D) h h₁) (heff : c.effect h₁ = some h₂) :
    Within (· ∈ D) h h₂ := by
  cases c with
  | listDevices =>
    cases heff
    exact hin
  | addVxlan dev vni sourceIp => exact hon.elim
  | addBridge dev => exact hon.elim
  | setUp dev => exact hin.setUp hon heff
  | setAddress dev mac => exact hin.setAttrs (f := fun _ => some mac) hon heff
  | setMaster dev master => exact hin.setMaster hon heff
  | noMaster dev => exact hin.noMaster hon heff
  | addIf bridge dev =>
    simp only [Command.effect] at heff
    split at heff
    · exact hin.setMaster hon heff
    · cases heff
  | delIf bridge dev =>
    simp only [Command.effect] at heff
    split at heff
    · exact hin.noMaster hon heff
    · cases heff
  | del dev => exact hin.del hon heff

/-- A device that is not there is not made by the change of another one. -/
theorem lookup_none_of_change {l : Link String Kind (Option String)} (hn : h.lookup n = none)
    (hl : h.lookup dev = some l) (hother : ∀ n', n' ≠ dev → h'.lookup n' = h.lookup n') :
    h'.lookup n = none := by
  have hne : n ≠ dev := by
    rintro rfl
    rw [hn] at hl
    cases hl
  rw [hother n hne, hn]

theorem effect_absent (hon : c.On D) (hn : h.lookup n = none) (heff : c.effect h = some h') :
    h'.lookup n = none := by
  cases c with
  | listDevices =>
    cases heff
    exact hn
  | addVxlan dev vni sourceIp => exact hon.elim
  | addBridge dev => exact hon.elim
  | setUp dev =>
    obtain ⟨l, hl, hlookup⟩ := Links.setUp_eq_some heff
    exact lookup_none_of_change hn hl fun n' hne => by rw [hlookup, if_neg hne]
  | setAddress dev mac =>
    obtain ⟨l, hl, hlookup⟩ := Links.setAttrs_eq_some (f := fun _ => some mac) heff
    exact lookup_none_of_change hn hl fun n' hne => by rw [hlookup, if_neg hne]
  | setMaster dev master =>
    obtain ⟨l, l', hl, -, -, hlookup⟩ := Links.setMaster_eq_some heff
    exact lookup_none_of_change hn hl fun n' hne => by rw [hlookup, if_neg hne]
  | noMaster dev =>
    obtain ⟨l, hl, hlookup⟩ := Links.noMaster_eq_some heff
    exact lookup_none_of_change hn hl fun n' hne => by rw [hlookup, if_neg hne]
  | addIf bridge dev =>
    simp only [Command.effect] at heff
    split at heff
    · obtain ⟨l, l', hl, -, -, hlookup⟩ := Links.setMaster_eq_some heff
      exact lookup_none_of_change hn hl fun n' hne => by rw [hlookup, if_neg hne]
    · cases heff
  | delIf bridge dev =>
    simp only [Command.effect] at heff
    split at heff
    · obtain ⟨l, hl, hlookup⟩ := Links.noMaster_eq_some heff
      exact lookup_none_of_change hn hl fun n' hne => by rw [hlookup, if_neg hne]
    · cases heff
  | del dev =>
    rw [Links.lookup_del heff, hn]
    split <;> rfl

/-! ### Commands in a row -/

/-- The first command fails, and nothing is changed but the count; or the rest is run on what
it makes of the host. -/
theorem exec_cons (deny : Denial) (c : Command) (cmd : List Command) (s : St) :
    (∃ commands, exec deny (c :: cmd) s = ({ s with commands := commands }, false)) ∨
      ∃ h commands, c.effect s.host = some h ∧
        exec deny (c :: cmd) s = exec deny cmd { s with host := h, commands := commands } := by
  rw [exec]
  split
  · exact .inl ⟨_, rfl⟩
  · cases heff : c.effect s.host with
    | none => exact .inl ⟨_, rfl⟩
    | some h => exact .inr ⟨h, _, rfl, rfl⟩

/-- Only the devices and the count of commands are changed. -/
theorem exec_frame (deny : Denial) (cmd : List Command) (s : St) :
    ∃ host commands, (exec deny cmd s).1 = { s with host := host, commands := commands } := by
  induction cmd generalizing s with
  | nil => exact ⟨s.host, s.commands, rfl⟩
  | cons c cmd ih =>
    rcases exec_cons deny c cmd s with
      ⟨commands, heq⟩ | ⟨h, commands, -, heq⟩
    · rw [heq]
      exact ⟨s.host, commands, rfl⟩
    · rw [heq]
      exact ih _

theorem exec_within (hon : ∀ c ∈ cmd, c.On D) (hin : Within (· ∈ D) h s.host) :
    Within (· ∈ D) h (exec deny cmd s).1.host := by
  induction cmd generalizing s with
  | nil => exact hin
  | cons c cmd ih =>
    rcases exec_cons deny c cmd s with
      ⟨commands, heq⟩ | ⟨h', commands, heff, heq⟩
    · rw [heq]
      exact hin
    · rw [heq]
      refine ih (fun c' hc' => hon c' (List.mem_cons_of_mem _ hc')) ?_
      exact effect_within (hon c List.mem_cons_self) hin heff

theorem exec_absent (hon : ∀ c ∈ cmd, c.On D) (hn : s.host.lookup n = none) :
    (exec deny cmd s).1.host.lookup n = none := by
  induction cmd generalizing s with
  | nil => exact hn
  | cons c cmd ih =>
    rcases exec_cons deny c cmd s with
      ⟨commands, heq⟩ | ⟨h', commands, heff, heq⟩
    · rw [heq]
      exact hn
    · rw [heq]
      refine ih (fun c' hc' => hon c' (List.mem_cons_of_mem _ hc')) ?_
      exact effect_absent (hon c List.mem_cons_self) hn heff

/-- One command that fails changes no device. -/
theorem exec_single_fail (hfail : (exec deny [c] s).2 = false) :
    (exec deny [c] s).1.host = s.host := by
  rcases exec_cons deny c [] s with
    ⟨commands, heq⟩ | ⟨h', commands, heff, heq⟩
  · rw [heq]
  · rw [heq] at hfail
    cases hfail

theorem exec_cons_ok (hok : (exec deny (c :: cmd) s).2 = true) :
    ∃ h commands, c.effect s.host = some h ∧
      exec deny (c :: cmd) s = exec deny cmd { s with host := h, commands := commands } := by
  rcases exec_cons deny c cmd s with ⟨commands, heq⟩ | hnext
  · rw [heq] at hok
    cases hok
  · exact hnext

theorem exec_single_ok (hok : (exec deny [c] s).2 = true) :
    c.effect s.host = some (exec deny [c] s).1.host := by
  obtain ⟨h, commands, heff, heq⟩ := exec_cons_ok hok
  rw [heq, heff]
  rfl

/-- A device is not there after its removal, whether it was or not. -/
theorem exec_del (hdeny : NeverRefused deny) : (exec deny [.del dev] s).1.host.lookup dev = none := by
  show (exec deny [.del dev] s).1.host.lookup dev = none
  rw [exec, hdeny.del]
  simp only [Bool.false_eq_true, if_false]
  cases hdel : Command.effect s.host (.del dev) with
  | none =>
    have hnot : ¬ (s.host.del dev).isSome := by
      show ¬ (Command.effect s.host (.del dev)).isSome
      rw [hdel]
      nofun
    rw [Links.del_isSome, not_exists] at hnot
    exact Option.eq_none_iff_forall_ne_some.mpr hnot
  | some h =>
    show h.lookup dev = none
    rw [Links.lookup_del hdel, if_pos rfl]

/-! ### Commands whose results are ignored -/

theorem execAll_frame (deny : Denial) (cmds : List (List Command)) (s : St) :
    ∃ host commands, execAll deny cmds s = { s with host := host, commands := commands } := by
  induction cmds generalizing s with
  | nil => exact ⟨s.host, s.commands, rfl⟩
  | cons cmd cmds ih =>
    obtain ⟨host, commands, heq⟩ := exec_frame deny cmd s
    show ∃ host commands, execAll deny cmds (exec deny cmd s).1 = _
    rw [heq]
    exact ih _

theorem execAll_within (hon : ∀ cmd ∈ cmds, ∀ c ∈ cmd, c.On D) (hin : Within (· ∈ D) h s.host) :
    Within (· ∈ D) h (execAll deny cmds s).host := by
  induction cmds generalizing s with
  | nil => exact hin
  | cons cmd cmds ih =>
    refine ih (fun cmd' hcmd' => hon cmd' (List.mem_cons_of_mem _ hcmd')) ?_
    exact exec_within (hon cmd List.mem_cons_self) hin

theorem execAll_absent (hon : ∀ cmd ∈ cmds, ∀ c ∈ cmd, c.On D) (hn : s.host.lookup n = none) :
    (execAll deny cmds s).host.lookup n = none := by
  induction cmds generalizing s with
  | nil => exact hn
  | cons cmd cmds ih =>
    refine ih (fun cmd' hcmd' => hon cmd' (List.mem_cons_of_mem _ hcmd')) ?_
    exact exec_absent (hon cmd List.mem_cons_self) hn

/-- A device that one of the commands removes is gone after them. -/
theorem execAll_gone (hdeny : NeverRefused deny) (hon : ∀ cmd ∈ cmds, ∀ c ∈ cmd, c.On D)
    (hmem : [.del dev] ∈ cmds) : (execAll deny cmds s).host.lookup dev = none := by
  induction cmds generalizing s with
  | nil => cases hmem
  | cons cmd cmds ih =>
    have hon' : ∀ cmd' ∈ cmds, ∀ c ∈ cmd', c.On D :=
      fun cmd' hcmd' => hon cmd' (List.mem_cons_of_mem _ hcmd')
    rcases List.mem_cons.mp hmem with rfl | hmem
    · show (execAll deny cmds (exec deny [.del dev] s).1).host.lookup dev = none
      exact execAll_absent hon' (exec_del hdeny)
    · exact ih hon' hmem

/-! ### Steps that are undone -/

/-- What is run removes the devices `D`, and acts on them only. -/
structure Removes (D : List String) (rollback : List (List Command)) : Prop where
  on : ∀ cmd ∈ rollback, ∀ c ∈ cmd, c.On D
  del : ∀ dev ∈ D, [.del dev] ∈ rollback

/-- Every step makes one device or none, and its rollback removes those made before it. -/
def Undone : List String → List (List Command × List (List Command)) → Prop
  | _, [] => True
  | D, (cmd, rollback) :: rest =>
    Removes D rollback ∧
      (((∀ c ∈ cmd, c.On D) ∧ Undone D rest) ∨
        ∃ dev c, cmd = [c] ∧ c.Makes dev ∧ Undone (dev :: D) rest)

/-- The rollback leaves the host as it was before the devices were made. -/
theorem Removes.same (hrem : Removes D rollback) (hdeny : NeverRefused deny)
    (hnew : ∀ n ∈ D, h.lookup n = none) (hin : Within (· ∈ D) h s.host) :
    Same h (execAll deny rollback s).host :=
  (execAll_within hrem.on hin).same hnew fun n hn => execAll_gone hdeny hrem.on (hrem.del n hn)

/-- **Steps that are undone leave the host as it was when one of them fails.** -/
theorem runSteps_same (hdeny : NeverRefused deny) (hundone : Undone D steps)
    (hnew : ∀ n ∈ D, h.lookup n = none) (hin : Within (· ∈ D) h s.host)
    (hfail : (runSteps deny steps s).2 = false) : Same h (runSteps deny steps s).1.host := by
  induction steps generalizing D s with
  | nil => cases hfail
  | cons step rest ih =>
    obtain ⟨cmd, rollback⟩ := step
    obtain ⟨hrem, hcmd⟩ := hundone
    rw [runSteps] at hfail ⊢
    rcases hcmd with ⟨hon, hrest⟩ | ⟨dev, c, rfl, hmakes, hrest⟩
    · -- the command changes the devices made before
      cases hok : (exec deny cmd s).2 with
      | true =>
        rw [hok, if_pos rfl] at hfail
        rw [if_pos rfl]
        exact ih hrest hnew (exec_within hon hin) hfail
      | false =>
        rw [if_neg nofun]
        exact hrem.same hdeny hnew (exec_within hon hin)
    · -- the command makes a device
      cases hok : (exec deny [c] s).2 with
      | true =>
        rw [hok, if_pos rfl] at hfail
        rw [if_pos rfl]
        obtain ⟨kind, hadd⟩ := effect_makes hmakes (exec_single_ok hok)
        have hdev : h.lookup dev = none := by
          by_cases hmem : dev ∈ D
          · exact hnew dev hmem
          · rw [← hin.old dev hmem]
            exact (Links.add_eq_some hadd).1
        have hnew' : ∀ n ∈ dev :: D, h.lookup n = none := by
          intro n hn
          rcases List.mem_cons.mp hn with rfl | hn
          · exact hdev
          · exact hnew n hn
        refine ih hrest hnew' ?_ hfail
        exact (hin.mono (fun n => List.mem_cons_of_mem dev) hnew').add List.mem_cons_self hadd
      | false =>
        rw [if_neg nofun]
        refine hrem.same hdeny hnew ?_
        rw [exec_single_fail hok]
        exact hin

end Cfgmgr.Vxlan
