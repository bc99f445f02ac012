import CallAudio.Proofs.Controller.Platform
import CallAudio.Proofs.Pipeline.Barrier
import CallAudio.Proofs.Pipeline.Focus

/-!
The last call out leaves no communication device active. Its removal has two items accepted next to
each other, of which the second clears whatever device is active when the worker comes to it: the one
that was active all along, or one that came up meanwhile.
-/

namespace CallAudio.Pipeline

open Controller (Moves Worked Conserves)
open Registry (focusItem clearItem)

variable {setup : Setup} {past : List Turn} {p : Pipeline}

theorem Run.consistent (h : Run setup past p) : p.controller.system.Consistent :=
  h.keep (P := fun c => c.system.Consistent) (fun _ _ => .start setup.devices setup.kinds)
    fun kept m => m.consistent kept

/-- Along a run no call is tracked twice. -/
theorem Run.distinct (h : Run setup past p) {r : Registry} (hr : p.registry = some r) :
    r.Distinct := by
  induction h generalizing r with
  | start h =>
    obtain ⟨_, published, hp⟩ := begun_of_start h
    rw [hp] at hr
    rw [Registry.Distinct, calls_begun hr]
    exact List.nodup_nil
  | @step past p _ fuel s ih =>
    change (p.step fuel s).value.2.registry = some r at hr
    cases s with
    | add id =>
      rcases ofRegistry_add fuel p id with idle | ⟨r₀, hr₀, done⟩
      · rw [idle] at hr
        exact ih hr
      · rw [done] at hr
        cases hr
        exact (ih hr₀).add p.controller id
    | remove id =>
      rcases ofRegistry_remove fuel p id with idle | ⟨r₀, hr₀, done⟩
      · rw [idle] at hr
        exact ih hr
      · rw [done] at hr
        cases hr
        exact (ih hr₀).remove p.controller id
    | _ => exact ih ((registry_step rfl fuel p).symm.trans hr)

/-- A removal that leaves no calls succeeds, and has two items accepted, one right after the other. -/
theorem Run.accepted_of_emptied (h : Run setup past p) (fuel : Nat) (id : CallId) {r : Registry}
    (registry : p.registry = some r) (tracked : r.calls ≠ [])
    (emptied : (p.observe fuel (.remove id)).1.callCount = some 0) :
    (p.observe fuel (.remove id)).1.answer = .outcome (.ok ()) ∧
      (p.observe fuel (.remove id)).2.controller.accepted =
        p.controller.accepted ++ [focusItem Focus.none, clearItem] := by
  change (p.step fuel (.remove id)).value.2.registry.map Registry.count = some 0 at emptied
  change (p.step fuel (.remove id)).value.1 = _ ∧
    (p.step fuel (.remove id)).value.2.controller.accepted = _
  rcases ofRegistry_remove fuel p id with idle | ⟨r₀, hr₀, done⟩
  · rw [idle, registry] at emptied
    exact absurd (List.length_eq_zero_iff.1 (Option.some.inj emptied)) tracked
  · cases registry.symm.trans hr₀
    rw [done] at emptied ⊢
    have none := List.length_eq_zero_iff.1 (Option.some.inj emptied)
    obtain ⟨released, removed⟩ := Registry.release_of_emptied (h.distinct registry) tracked none
    rw [removed]
    rcases Registry.release_cases p.controller with ok | full | ⟨e, _, refused⟩
    · rw [ok]
      exact ⟨rfl, by simp [Controller.accept]⟩
    · rw [full] at released
      cases released
    · rw [refused] at released
      cases released

/-- The worker, processing the item at the end of a log that was accepted. -/
theorem Worked.processed_last {earlier : List RoutedMessage} {c c' : Controller} {log : List Item}
    {item : Item} (w : Worked c c') (conserves : Conserves earlier c')
    (accepted : log ++ [item] <+: c'.accepted) (before : c.executed.length = log.length)
    (after : c'.executed.length = log.length + 1) :
    c'.executed = log ++ [item] ∧ ∃ mailbox, c' = ({ c with mailbox }.process item).value := by
  have all : c'.executed = log ++ [item] := by
    refine (List.prefix_of_prefix_length_le conserves.kept accepted ?_).eq_of_length ?_ <;>
      simp [after]
  refine ⟨all, ?_⟩
  cases w with
  | started | abandoned | acknowledged | stopped => exact absurd (before.symm.trans after) (by omega)
  | @processed _ taken mailbox _ =>
    obtain ⟨_, done⟩ := Controller.processed_process { c with mailbox } taken
    rw [done.executed] at all
    cases (List.append_inj' all rfl).2
    exact ⟨mailbox, rfl⟩

/-- A removal that leaves no calls succeeds, and exactly two items are accepted in it, one right after
the other: the switch that gives back focus and the clearing of the device. Whatever is done from then
on, and whatever the items before it have done, when the worker has processed the clearing nothing is
active, neither for the arbiter nor on a platform that is still attached; and of the step the Bluetooth
stack hears that the address tracked before it is lost, if there was one, and nothing else. -/
theorem last_call_leaves_no_device (h : Run setup past p) (fuel : Nat) (id : CallId) {r : Registry}
    (registry : p.registry = some r) (tracked : r.calls ≠ [])
    (emptied : (p.observe fuel (.remove id)).1.callCount = some 0) :
    let removed := (p.observe fuel (.remove id)).2.controller
    let log := p.controller.accepted ++ [focusItem Focus.none]
    (p.observe fuel (.remove id)).1.answer = .outcome (.ok ()) ∧
    removed.accepted = log ++ [clearItem] ∧
    ∀ c next, Moves removed c → c.step? = some next → c.executed.length = log.length →
      next.value.executed.length = log.length + 1 →
      let s := c.system
      let s' := next.value.system
      next.value.executed = log ++ [clearItem] ∧
      s'.arbiter.selection = {} ∧
      (s'.arbiter.attached = true → s'.catalog.active = none) ∧
      since s.bluetooth.notices s'.bluetooth.notices =
        s.arbiter.selection.address.toList.map .audioLost := by
  intro removed log
  obtain ⟨answer, accepted⟩ := h.accepted_of_emptied fuel id registry tracked emptied
  have adjacent : removed.accepted = log ++ [clearItem] := by
    rw [List.append_assoc]
    exact accepted
  refine ⟨answer, adjacent, ?_⟩
  intro c next moves step before after s s'
  have run := h.step fuel (.remove id)
  have onward : Moves removed next.value := moves.tail (.work step)
  have conserves := onward.keep (fun kept m => Conserves.move kept m) run.conserves
  have consistent : s.Consistent :=
    moves.keep (P := fun c => c.system.Consistent) (fun kept m => m.consistent kept) run.consistent
  have grown : log ++ [clearItem] <+: next.value.accepted := adjacent ▸ onward.accepted_grows
  obtain ⟨executed, mailbox, processed⟩ := Worked.processed_last
    (Controller.worked_of_step? step) conserves grown before after
  have system : s' = s.clearActive.value := by
    show next.value.system = _
    rw [processed, Controller.system_process]
    rfl
  obtain ⟨idle, platform, told⟩ := consistent.clearActive
  rw [← system] at idle platform told
  exact ⟨executed, idle, platform, by rw [told, since_append]⟩

/-- A platform with one LE headset, and a state machine that has it made active when focus is given
back, and panics then. -/
def graspingHeadset : Setup :=
  { devices := [⟨.bluetoothLeHeadset, some ⟨"11:11"⟩⟩]
    machine :=
      { policy := fun
          | .switchFocus => [.ifArg Focus.none (.operate (.request .bluetoothLeHeadset none)),
              .ifArg Focus.none (.panic .other)]
          | _ => [] } }

/-- The headset that came up while focus was given back is cleared, and its address is lost. -/
theorem grasped_headset_lost :
    ∃ past p r c next, Run graspingHeadset past p ∧ past.map Turn.step = [.add ⟨1⟩, .drive] ∧
      p.registry = some r ∧ r.calls ≠ [] ∧ (p.observe 9 (.remove ⟨1⟩)).1.callCount = some 0 ∧
      Moves (p.observe 9 (.remove ⟨1⟩)).2.controller c ∧ c.step? = some next ∧
      c.system.arbiter.selection = ⟨some .bluetoothLeHeadset, some ⟨"11:11"⟩⟩ ∧
      next.value.executed = c.executed ++ [clearItem] ∧
      next.value.system.arbiter.selection = {} ∧ next.value.system.catalog.active = none ∧
      since c.system.bluetooth.notices next.value.system.bluetooth.notices =
        [.audioLost ⟨"11:11"⟩] := by
  have valid : graspingHeadset.config.validate = .ok () := validate_eq_ok_iff.2 (by decide)
  have run := @Run.ofSteps graspingHeadset { machineDump := "recorded 0 messages" } valid
    (by decide) rfl 9 [.add ⟨1⟩, .drive]
  obtain ⟨_, _, cleared⟩ := last_call_leaves_no_device run 9 ⟨1⟩ rfl (by decide) rfl
  obtain ⟨executed, selection, platform, told⟩ :=
    cleared _ _ (Controller.drive_moves 1 _) rfl rfl rfl
  exact ⟨_, _, _, _, _, run, rfl, rfl, by decide, rfl, Controller.drive_moves 1 _, rfl, rfl, executed,
    selection, platform rfl, told⟩

end CallAudio.Pipeline
