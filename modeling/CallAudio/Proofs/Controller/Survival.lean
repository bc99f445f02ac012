import CallAudio.Proofs.Controller.Publication

/-!
A controller in service: nobody has begun to shut it down, and somebody holds a handle. Its worker
lives through every panic of an item; what ends it is a state machine that panics over its
diagnostic text, which it is asked for after each item.
-/

namespace CallAudio

/-! ## Diagnostic texts that fail -/

/-- Whether asking for the diagnostic text panics once these items have been processed. -/
def Machine.failsAfter (m : Machine) (items : List Item) : Bool :=
  { m with recorded := m.recorded ++ items.filterMap Item.message? }.dumpFails

/-- A text that fails keeps failing. -/
theorem Machine.failsAfter_of_prefix {m : Machine} {items more : List Item} (h : items <+: more)
    (fails : m.failsAfter items = true) : m.failsAfter more = true := by
  have longer := (h.filterMap Item.message?).length_le
  unfold failsAfter dumpFails at *
  split at fails
  · cases fails
  · rename_i n hn
    rw [show _ = some n from hn]
    simp only [List.length_append, decide_eq_true_eq] at fails ⊢
    omega

theorem Machine.dump_eq_ok {m : Machine} {text : String} (h : m.dump = .ok text) :
    m.dumpFails = false := by
  unfold dump at h
  split at h
  · cases h
  · rename_i succeeds
    simpa using succeeds

theorem Machine.dump_eq_error {m : Machine} {cause : Panic} (h : m.dump = .error cause) :
    m.dumpFails = true := by
  unfold dump at h
  split at h
  · assumption
  · cases h

namespace Controller

variable {c c' : Controller} {m : Machine}

theorem diagnosis_process (c : Controller) (item : Item) :
    (c.process item).value.machine.diagnosis = c.machine.diagnosis := by
  obtain ⟨items, system, state, effects, frame⟩ := (execute_effects c item).frame
  rw [value_process, frame]
  rcases publish_cases (count _ item) with ⟨_, hp⟩ | ⟨_, hp⟩ <;> rw [hp] <;> cases item <;> rfl

/-- The controller of the state machine `m`: only after the last of the items that were processed
the diagnostic text may have failed. -/
structure Diagnosed (m : Machine) (c : Controller) : Prop where
  diagnosis : c.machine.diagnosis = m.diagnosis
  before : ∀ items, items <+: c.executed → items ≠ c.executed → m.failsAfter items = false

theorem Diagnosed.dumpFails (h : Diagnosed m c) (conserves : Conserves m.recorded c) :
    c.machine.dumpFails = m.failsAfter c.executed := by
  simp only [Machine.failsAfter, Machine.dumpFails, h.diagnosis, conserves.recorded]

theorem Diagnosed.of_alive (h : Diagnosed m c) (conserves : Conserves m.recorded c)
    (mirrors : Mirrors c) (alive : c.phase.alive = true) : m.failsAfter c.executed = false := by
  obtain ⟨dump, _⟩ := current_eq_ok_iff.1 (mirrors.of_alive alive)
  rw [← h.dumpFails conserves]
  exact Machine.dump_eq_ok dump

theorem Diagnosed.of_crashed (h : Diagnosed m c) (conserves : Conserves m.recorded c)
    (mirrors : Mirrors c) {cause : Panic} (crashed : c.phase = .crashed cause) :
    m.failsAfter c.executed = true := by
  rw [← h.dumpFails conserves]
  exact Machine.dump_eq_error (current_eq_error_iff.1 (mirrors.crashed cause crashed))

/-- The worker goes on to the next item only if the text did not fail. -/
theorem Diagnosed.worked (h : Diagnosed m c) (conserves : Conserves m.recorded c)
    (mirrors : Mirrors c) (w : Worked c c') : Diagnosed m c' := by
  have succeeds := h.of_alive conserves mirrors w.alive
  cases w with
  | started | abandoned | acknowledged | stopped => exact ⟨h.diagnosis, h.before⟩
  | @processed _ item mailbox _ =>
    obtain ⟨_, done⟩ := processed_process { c with mailbox } item
    refine ⟨(diagnosis_process { c with mailbox } item).trans h.diagnosis, ?_⟩
    rw [done.executed]
    intro items ahead proper
    have early : items <+: c.executed := (List.prefix_concat_iff.1 ahead).resolve_left proper
    rw [Bool.eq_false_iff] at succeeds ⊢
    exact fun fails => succeeds (Machine.failsAfter_of_prefix early fails)

theorem Diagnosed.move (h : Diagnosed m c) (conserves : Conserves m.recorded c)
    (mirrors : Mirrors c) (move : Move c c') : Diagnosed m c' := by
  cases move with
  | submit scope s => exact submit_keep h (fun _ _ => ⟨h.diagnosis, h.before⟩) scope s
  | poll w =>
    obtain ⟨_, _, frame, _⟩ := poll_frame c w
    rw [frame]
    exact ⟨h.diagnosis, h.before⟩
  | cancel w =>
    obtain ⟨_, frame, _⟩ := cancel_frame c w
    rw [frame]
    exact ⟨h.diagnosis, h.before⟩
  | work hw => exact h.worked conserves mirrors (worked_of_step? hw)
  | openCall | setDevices | decline | letGo => exact ⟨h.diagnosis, h.before⟩

theorem Moves.diagnosed (moves : Moves c c') (h : Diagnosed m c)
    (conserves : Conserves m.recorded c) (mirrors : Mirrors c) : Diagnosed m c' := by
  have kept := moves.keep
    (P := fun d => Diagnosed m d ∧ Conserves m.recorded d ∧ Mirrors d)
    (fun ⟨h, conserves, mirrors⟩ next =>
      ⟨h.move conserves mirrors next, conserves.move next, mirrors.move next⟩)
    ⟨h, conserves, mirrors⟩
  exact kept.1

/-! ## The end of a worker in service -/

theorem Worked.held (w : Worked c c') : c'.held = c.held := by
  cases w with
  | @processed _ item mailbox _ =>
    obtain ⟨_, done⟩ := processed_process { c with mailbox } item
    exact done.held
  | started | abandoned | acknowledged | stopped => rfl

/-- While there is a handle, only the marker of a shutdown ends the worker in order. -/
theorem Worked.not_stopped (w : Worked c c') (held : c.held = true)
    (unmarked : .stop ∉ c.mailbox.queue) : c'.phase ≠ .stopped := by
  intro stopped
  rcases w.ends_in_order stopped with ⟨rest, queue⟩ | ⟨_, dropped⟩
  · rw [queue] at unmarked
    exact unmarked List.mem_cons_self
  · cases held.symm.trans dropped

end Controller

namespace Attended

open Controller (Worked Flows)

/-- Nobody has begun a shutdown, and somebody holds a handle. -/
structure InService (a : Attended) : Prop where
  accepting : a.controller.accepting = true
  held : a.controller.held = true
  unmarked : .stop ∉ a.controller.mailbox.queue
  phase : a.controller.phase ≠ .stopped
  flushes : ∀ w ∈ a.calls, w.kind = .flush

variable {c c' : Controller} {a a' : Attended} {calls : List WaitingCall}

theorem InService.flows (h : InService ⟨c, calls⟩) (f : Flows c c') (held : c'.held = c.held)
    (phase : c'.phase ≠ .stopped) : InService ⟨c', calls⟩ := by
  obtain ⟨accepting, rest, items, suffix, queue, _⟩ := f
  refine ⟨accepting.trans h.accepting, held.trans h.held, ?_, phase, h.flushes⟩
  show Command.stop ∉ c'.mailbox.queue
  rw [queue, List.mem_append, not_or]
  exact ⟨fun stop => h.unmarked (suffix.mem stop), by simp⟩

theorem InService.look {before after : List WaitingCall} {w : WaitingCall}
    (h : InService ⟨c, before ++ w :: after⟩) :
    InService ⟨(c.poll w).value.2, before ++ ((c.poll w).value.1.left?.toList ++ after)⟩ := by
  have kind : w.kind = .flush := h.flushes w (List.mem_append_right _ List.mem_cons_self)
  have accepting := Controller.accepting_poll c w
  obtain ⟨mailbox, _, frame, queue⟩ := Controller.poll_frame c w
  refine ⟨?_, ?_, ?_, ?_, ?_⟩
  · rw [show (Attended.mk _ _).controller.accepting = _ from accepting, h.accepting]
    simp [WaitingCall.begins, kind]
  · show (c.poll w).value.2.held = true
    rw [frame]
    exact h.held
  · show Command.stop ∉ (c.poll w).value.2.mailbox.queue
    rw [frame]
    have unmarked : Command.stop ∉ c.mailbox.queue := h.unmarked
    rcases queue with queue | queue <;> rw [queue]
    · exact unmarked
    · simp [WaitingCall.command, kind, unmarked]
  · rw [show (Attended.mk _ _).controller.phase = _ from Controller.phase_poll c w]
    exact h.phase
  · intro x hx
    rcases mem_looked hx with old | left
    · exact h.flushes x ((sublist_without before w after).mem old)
    · obtain ⟨_, rfl⟩ := (Controller.looked_poll c w).left? left
      exact kind

theorem InService.steady {opens : WaitingCall.Kind → Prop}
    (flush : ∀ kind, opens kind → kind = .flush) (h : InService a) (m : Steady opens a a') :
    InService a' := by
  cases m with
  | submit c calls scope s =>
    have kept : (c.submit scope s).value.2.held = c.held ∧
        (c.submit scope s).value.2.phase = c.phase :=
      Controller.submit_keep (P := fun d => d.held = c.held ∧ d.phase = c.phase) ⟨rfl, rfl⟩
        (fun _ _ => ⟨rfl, rfl⟩) scope s
    exact h.flows (Controller.submit_flows c scope s) kept.1 (by rw [kept.2]; exact h.phase)
  | work calls hw =>
    have worked := Controller.worked_of_step? hw
    exact h.flows worked.flows worked.held (worked.not_stopped h.held h.unmarked)
  | openCall c calls allowed =>
    refine ⟨h.accepting, h.held, h.unmarked, h.phase, ?_⟩
    intro w hw
    rcases List.mem_append.1 hw with hw | hw
    · exact h.flushes w hw
    · rw [List.mem_singleton.1 hw]
      exact flush _ allowed
  | look c before w after => exact h.look

theorem InService.leaves {gone : List WaitingCall} (h : InService a) (l : Leaves gone a a') :
    InService a' := by
  induction l with
  | nil => exact h
  | @cancel c before after w _ _ _ ih =>
    refine ih ?_
    obtain ⟨mailbox, frame, queue⟩ := Controller.cancel_frame c w
    rw [frame]
    refine ⟨h.accepting, h.held, ?_, h.phase, ?_⟩
    · show Command.stop ∉ mailbox.queue
      rw [queue]
      exact h.unmarked
    · exact fun x hx => h.flushes x ((sublist_without before w after).mem hx)
  | @forget c before after w _ _ _ ih =>
    exact ih ⟨h.accepting, h.held, h.unmarked, h.phase,
      fun x hx => h.flushes x ((sublist_without before w after).mem hx)⟩

end Attended

end CallAudio
