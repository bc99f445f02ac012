import CallAudio.Proofs.Arbiter.Agreement
import CallAudio.Proofs.Arbiter.Notices
import CallAudio.Proofs.Controller.Move

/-!
The arbiter under a controller. Whatever is done to a controller and whatever its items do, the arbiter
stays coherent and agrees with the platform: nothing but operations of the arbiter and changes of the
platform ever reaches it.
-/

namespace CallAudio

namespace AudioSystem

/-- What every run of the arbiter keeps: an address is tracked for an active Bluetooth device only, and
an attached arbiter holds what the platform has active. -/
structure Consistent (s : AudioSystem) : Prop where
  coherent : s.arbiter.selection.Coherent
  agrees : s.Agrees

theorem Consistent.start (devices : List DeviceDescriptor)
    (kinds : List (BluetoothAddress × BluetoothKind)) : (start devices kinds).Consistent :=
  ⟨.empty, .start devices kinds⟩

theorem Consistent.transition {s s' : AudioSystem} (h : s.Consistent) (next : Transition s s') :
    s'.Consistent :=
  ⟨next.coherent h.coherent, h.agrees.transition h.coherent next⟩

theorem clearActive_transition {s : AudioSystem} (h : s.arbiter.selection.Coherent) :
    Transition s s.clearActive.value := by
  rw [value_clearActive h]
  cases active : s.arbiter.selection.type with
  | none =>
    rw [vacate_of_none active]
    exact .idle s
  | some t =>
    rw [vacate_of_some active]
    exact .release active

/-- Clearing whatever is active leaves nothing active, neither here nor on an attached platform, and
reports the tracked address lost, if there is one, and nothing else. -/
theorem Consistent.clearActive {s : AudioSystem} (h : s.Consistent) :
    let s' := s.clearActive.value
    s'.arbiter.selection = {} ∧ (s'.arbiter.attached = true → s'.catalog.active = none) ∧
      s'.bluetooth.notices =
        s.bluetooth.notices ++ s.arbiter.selection.address.toList.map .audioLost := by
  intro s'
  have cleared : s' = s.vacate := value_clearActive h.coherent
  have idle : s'.arbiter.selection = {} := by rw [cleared, selection_vacate h.coherent]
  refine ⟨idle, ?_, by rw [cleared, notices_vacate h.coherent]⟩
  intro attached
  have agrees := (h.transition (clearActive_transition h.coherent)).agrees attached
  rw [← Selection.type_ofDevice_eq_none_iff, ← agrees]
  exact congrArg Selection.type idle

end AudioSystem

namespace Controller

open AudioSystem (Consistent)

variable {c c' : Controller}

theorem Effects.consistent (h : Effects c c') (start : c.system.Consistent) :
    c'.system.Consistent := by
  induction h with
  | refl => exact start
  | tail _ next ih =>
    cases next with
    | submit scope s =>
      exact submit_keep (P := fun d => d.system.Consistent) ih (fun _ _ => ih) scope s
    | operate op => exact ih.transition (AudioSystem.perform_transition ih.coherent op)
    | clearActive => exact ih.transition (AudioSystem.clearActive_transition ih.coherent)
    | edit | reply => exact ih

theorem system_process (c : Controller) (item : Item) :
    (c.process item).value.system = (c.execute item).value.2.system := by
  rw [value_process]
  rcases publish_cases ((c.execute item).value.2.count item) with ⟨_, hp⟩ | ⟨_, hp⟩ <;>
    rw [hp] <;> rfl

theorem Worked.consistent (w : Worked c c') (start : c.system.Consistent) :
    c'.system.Consistent := by
  cases w with
  | started | abandoned | acknowledged | stopped => exact start
  | @processed _ item mailbox _ =>
    rw [system_process]
    refine (execute_effects { c with mailbox } item).consistent ?_
    cases item <;> exact start

theorem Move.consistent (m : Move c c') (start : c.system.Consistent) : c'.system.Consistent := by
  cases m with
  | submit scope s =>
    exact submit_keep (P := fun d => d.system.Consistent) start (fun _ _ => start) scope s
  | poll w =>
    obtain ⟨_, _, frame, _⟩ := poll_frame c w
    rw [frame]
    exact start
  | cancel w =>
    obtain ⟨_, frame, _⟩ := cancel_frame c w
    rw [frame]
    exact start
  | work hw => exact (worked_of_step? hw).consistent start
  | setDevices devices => exact start.transition (.setDevices c.system devices)
  | decline on => exact start.transition (.decline c.system on)
  | openCall | letGo => exact start

end Controller

end CallAudio
