import CallAudio.Proofs.Pipeline.History
import CallAudio.Proofs.Tracing.Places

/-!
Where the items were submitted that the controller of a pipeline has accepted: by a user with no place
open, by the peripherals where they handle a report, or by the worker where it processes an item. So
what the history remembers is attributed to one of few places, or to none.
-/

namespace CallAudio

open Log (Scope)

namespace Controller

/-- Every item that was accepted was submitted in a known scope. -/
def Attributed (c : Controller) : Prop :=
  ∀ item ∈ c.accepted, item.session.scope.Known

namespace Attributed

variable {c c' : Controller} {ctx : Context}

theorem of_accepted (h : c.Attributed) (same : c'.accepted = c.accepted) : c'.Attributed := by
  rwa [Attributed, same]

/-! ## Submissions -/

theorem submit (h : c.Attributed) {scope : Scope} (known : scope.Known) (s : Submission) :
    (c.submit scope s).value.2.Attributed := by
  rcases submit_cases c scope s with ok | ⟨e, refused⟩
  · rw [ok]
    intro item mem
    rcases List.mem_append.1 mem with earlier | last
    · exact h item earlier
    · rwa [List.mem_singleton.1 last, Item.session_ofSubmission]
  · rw [refused]
    exact h

theorem submits (h : c.Attributed) (made : Submits c c') : c'.Attributed := by
  induction made with
  | refl => exact h
  | tail _ next ih =>
    obtain ⟨scope, s, known, rfl⟩ := next
    exact ih.submit known s

/-! ## The worker -/

theorem resubmit (h : c.Attributed) (known : Scope.Known [ctx.place]) (s : Submission) :
    (c.resubmit ctx s).value.Attributed := by
  unfold Controller.resubmit
  split
  · exact h.submit known s
  · exact h

/-- Nothing is submitted by a script but in the place where its item is processed. -/
theorem script (h : c.Attributed) (known : Scope.Known [ctx.place]) (actions : List Action) :
    (script ctx c actions).value.2.Attributed := by
  refine KeptByActions.script ⟨?operate, ?edit, ?resubmit⟩ h actions
  case operate => exact fun h _ => h
  case edit =>
    intro c h change
    unfold Controller.edit
    split <;> exact h
  case resubmit => exact fun h s => h.resubmit known s

theorem execute (h : c.Attributed) (item : Item) : (c.execute item).value.2.Attributed := by
  have known := known_itemSpan item
  cases item with
  | message m => exact script (c := { c with machine := c.machine.record m }) h known _
  | task work session =>
    cases work with
    | clearActive => exact h
    | script actions => exact h.script known actions

theorem process (h : c.Attributed) (item : Item) : (c.process item).value.Attributed := by
  rw [value_process]
  exact (h.execute item).of_accepted (accepted_publish _)

theorem worked (h : c.Attributed) (w : Worked c c') : c'.Attributed := by
  cases w with
  | started | abandoned | acknowledged | stopped => exact h
  | @processed _ item mailbox _ => exact process (c := { c with mailbox }) h item

theorem drive (h : c.Attributed) (fuel : Nat) : (c.drive fuel).value.Attributed := by
  induction fuel generalizing c with
  | zero => exact h
  | succ fuel ih =>
    unfold Controller.drive
    split
    · exact h
    · rename_i step
      exact ih (h.worked (worked_of_step? step))

/-! ## Waiting calls -/

theorem poll (h : c.Attributed) (w : WaitingCall) : (c.poll w).value.2.Attributed := by
  obtain ⟨_, _, frame, _⟩ := poll_frame c w
  rwa [frame]

theorem cancel (h : c.Attributed) (w : WaitingCall) : (c.cancel w).Attributed := by
  obtain ⟨_, frame, _⟩ := cancel_frame c w
  rwa [frame]

theorem complete (h : c.Attributed) (workerFuel fuel : Nat) (w : WaitingCall) :
    (c.complete workerFuel fuel w).value.2.Attributed := by
  induction fuel generalizing c w with
  | zero => exact h
  | succ fuel ih =>
    have looked := h.poll w
    cases outcome : (c.poll w).value.1 with
    | done answer => rwa [complete_of_done outcome]
    | pending w' =>
      rw [complete_of_pending outcome]
      exact ih (looked.drive workerFuel) w'

end Attributed

end Controller

/-! ## Pipelines -/

namespace Pipeline

open Controller (Attributed)

variable {p : Pipeline}

theorem attributed_withRegistry (h : p.controller.Attributed)
    {f : Registry → Controller → Log.Logged (Except RouteError Unit × Registry × Controller)}
    (submits : ∀ r c, Submits c (f r c).value.2.2) :
    (p.withRegistry f).value.2.controller.Attributed := by
  unfold withRegistry
  split
  · exact h
  · exact h.submits (submits _ _)

theorem attributed_cancelAll {c : Controller} (h : c.Attributed)
    (slots : List (Option WaitingCall)) : (cancelAll c slots).Attributed := by
  unfold cancelAll
  induction slots.reduceOption generalizing c with
  | nil => exact h
  | cons w rest ih => exact ih (h.cancel w)

theorem attributed_heldStep (h : p.controller.Attributed) (fuel : Nat) (s : Step) :
    (heldStep fuel p s).value.2.controller.Attributed := by
  cases s with
  -- users submit with no place open, the registry does so for them
  | send s => exact h.submit Scope.known_nil s
  | sendMany n s => exact h.submits (sendMany_submits _ _ _ _ _)
  | add call => exact attributed_withRegistry h fun r c => r.add_submits c call
  | remove call => exact attributed_withRegistry h fun r c => r.remove_submits c call
  | route route address =>
    exact attributed_withRegistry h fun _ c => Registry.requestRoute_submits c route address
  | mute on => exact attributed_withRegistry h fun _ c => Registry.setMuted_submits c on
  | report r => exact h.submits (Peripherals.handleTimes_submits _ _ _ _)
  | await kind =>
    have opened : (p.controller.openCall kind).2.Attributed := h
    exact (opened.complete fuel fuel _).drive fuel
  | begin kind =>
    have opened : (p.controller.openCall kind).2.Attributed := h
    exact opened.poll _
  | poll slot =>
    rw [heldStep]
    split
    · exact h
    · exact h.poll _
  | finish slot =>
    rw [heldStep]
    split
    · exact h
    · exact (h.complete fuel fuel _).drive fuel
  | cancel slot =>
    rw [heldStep]
    split
    · exact h
    · exact h.cancel _
  | drop =>
    have dropped : Attributed { cancelAll p.controller p.slots with held := false } :=
      attributed_cancelAll h p.slots
    exact dropped.drive fuel
  | setDevices | decline | drive | snapshot | state | dump | subscribe | changed | seen => exact h

theorem attributed_step (h : p.controller.Attributed) (fuel : Nat) (s : Step) :
    (p.step fuel s).value.2.controller.Attributed := by
  cases needs : s.needsHandle with
  | true =>
    rw [value_step_of_needsHandle needs]
    split
    · exact attributed_heldStep h fuel s
    · exact h
  | false =>
    cases s with
    | setDevices | decline => exact h
    | drive => exact h.drive fuel
    | changed subscriber =>
      rw [step]
      split
      · exact h
      · split <;> exact h
    | seen subscriber =>
      rw [step]
      split <;> exact h
    | _ => cases needs

variable {setup : Setup} {past : List Turn}

theorem Run.attributed (h : Run setup past p) : p.controller.Attributed := by
  induction h with
  | start begun =>
    obtain ⟨_, published, started⟩ := begun_of_start begun
    rw [started, controller_begun]
    exact fun _ none => absurd none List.not_mem_nil
  | step _ fuel s ih => exact attributed_step ih fuel s

/-- The history remembers items that were accepted. -/
theorem Run.known_history (h : Run setup past p) :
    ∀ e ∈ p.controller.history, e.session.scope.Known := by
  intro e mem
  rw [h.recalls.recent] at mem
  obtain ⟨item, processed, rfl⟩ := List.mem_map.1 (List.mem_of_mem_drop mem)
  exact h.attributed item (h.conserves.kept.subset processed)

end Pipeline

end CallAudio
