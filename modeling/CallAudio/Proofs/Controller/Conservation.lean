import CallAudio.Proofs.Pipeline.Run

/-!
No accepted submission is lost, duplicated or reordered. While the worker is alive, the log of accepted
submissions is what was processed followed by what waits in the mailbox; once it has ended, what was
processed is a prefix of that log.
-/

namespace CallAudio

/-- The message of an item that carries one. -/
def Item.message? : Item → Option RoutedMessage
  | message m => some m
  | task _ _ => none

namespace Controller

/-- The state machine records messages and no tasks. -/
theorem note_recorded (c : Controller) (item : Item) :
    (c.note item).machine.recorded = c.machine.recorded ++ [item].filterMap Item.message? := by
  cases item with
  | message m => rfl
  | task work session => exact (List.append_nil _).symm

theorem filterMap_item?_map (items : List Item) :
    (items.map Command.item).filterMap Command.item? = items := by
  rw [List.filterMap_map]
  exact List.filterMap_some

/-- Nothing of what was accepted is lost, duplicated or reordered; `earlier` is what the state machine
had recorded before anything was accepted. -/
structure Conserves (earlier : List RoutedMessage) (c : Controller) : Prop where
  alive : c.phase.alive = true → c.accepted = c.executed ++ c.queued
  kept : c.executed <+: c.accepted
  recorded : c.machine.recorded = earlier ++ c.executed.filterMap Item.message?

variable {earlier : List RoutedMessage} {c c' : Controller}

theorem queued_accept (c : Controller) (item : Item) :
    (c.accept item).queued = c.queued ++ [item] := by
  simp [queued, accept, Command.item?]

theorem Conserves.submit (h : Conserves earlier c) (scope : Log.Scope) (s : Submission) :
    Conserves earlier (c.submit scope s).value.2 := by
  rcases submit_cases c scope s with ok | ⟨e, refused⟩
  · rw [ok]
    refine ⟨?_, h.kept.trans (List.prefix_append _ _), h.recorded⟩
    intro alive
    rw [queued_accept, ← List.append_assoc]
    exact congrArg (· ++ [_]) (h.alive alive)
  · rw [refused]
    exact h

/-- Entries that carry no item do not matter. -/
theorem Conserves.of_queued (h : Conserves earlier c) {mailbox : Mailbox Command}
    {command : Command} (hc : command.item? = none)
    (hq : mailbox.queue = c.mailbox.queue ∨ mailbox.queue = c.mailbox.queue ++ [command]) :
    Conserves earlier { c with mailbox } := by
  have same : queued { c with mailbox } = c.queued := by
    rcases hq with hq | hq
    · simp [queued, hq]
    · simp [queued, hq, hc]
  refine ⟨?_, h.kept, h.recorded⟩
  intro alive
  rw [same]
  exact h.alive alive

theorem Conserves.ended (h : Conserves earlier c) : Conserves earlier c.ended :=
  ⟨fun alive => (by cases alive), h.kept, h.recorded⟩

theorem Conserves.publish (h : Conserves earlier c) : Conserves earlier c.publish := by
  rcases publish_cases c with ⟨published, hp⟩ | ⟨cause, hp⟩
  · rw [hp]
    exact ⟨h.alive, h.kept, h.recorded⟩
  · rw [hp]
    exact ⟨fun alive => (by cases alive), h.kept, h.recorded⟩

/-- An item that is taken out and processed moves from the head of the queue to the end of what was
processed, and what it submits goes to the end of both the log and the queue. -/
theorem Conserves.process (h : Conserves earlier c) (running : c.phase = .running) {item : Item}
    {mailbox : Mailbox Command} (took : c.mailbox.take? = some (.item item, mailbox)) :
    Conserves earlier ({ c with mailbox }.process item).value := by
  have hq := Mailbox.queue_of_take? took
  have log : c.accepted = c.executed ++ item :: mailbox.queue.filterMap Command.item? := by
    rw [h.alive (by rw [running]; rfl), queued, hq]
    simp [Command.item?]
  rw [value_process]
  obtain ⟨items, system, state, effects, hf⟩ := (execute_effects { c with mailbox } item).frame
  rw [hf]
  apply Conserves.publish
  -- what the item submits goes to the end of the log and of the queue alike
  refine ⟨?_, ?_, ?_⟩
  · intro _
    show (note { c with mailbox } item).accepted ++ items =
      ((note { c with mailbox } item).executed ++ [item]) ++
        ((note { c with mailbox } item).mailbox.queue ++ items.map Command.item).filterMap
          Command.item?
    rw [List.filterMap_append, filterMap_item?_map, note_accepted, note_executed, note_mailbox]
    simp [log]
  · show (note { c with mailbox } item).executed ++ [item] <+:
      (note { c with mailbox } item).accepted ++ items
    refine ⟨mailbox.queue.filterMap Command.item? ++ items, ?_⟩
    simp [log]
  · show (note { c with mailbox } item).machine.recorded =
      earlier ++ ((note { c with mailbox } item).executed ++ [item]).filterMap Item.message?
    rw [note_recorded, note_executed, List.filterMap_append, ← List.append_assoc]
    show c.machine.recorded ++ _ = _
    rw [h.recorded]

theorem Conserves.work (h : Conserves earlier c) (w : Worked c c') : Conserves earlier c' := by
  cases w with
  | started fresh => exact ⟨fun _ => h.alive (by rw [fresh]; rfl), h.kept, h.recorded⟩
  | abandoned => exact h.ended
  | processed running took => exact h.process running took
  | acknowledged running took | stopped running took =>
    have hq := Mailbox.queue_of_take? took
    refine ⟨?_, h.kept, h.recorded⟩
    intro alive
    first
    | cases alive
    | rw [h.alive (by rw [running]; rfl), queued, queued, hq]
      rfl

theorem Conserves.move (h : Conserves earlier c) (m : Move c c') : Conserves earlier c' := by
  cases m with
  | submit scope s => exact h.submit scope s
  | openCall | setDevices | decline | letGo => exact ⟨h.alive, h.kept, h.recorded⟩
  | poll w =>
    obtain ⟨mailbox, accepting, hp, hq⟩ := poll_frame c w
    rw [hp]
    have next := h.of_queued w.item?_command hq
    exact ⟨next.alive, next.kept, next.recorded⟩
  | cancel w =>
    obtain ⟨mailbox, hp, hq⟩ := cancel_frame c w
    rw [hp]
    exact h.of_queued w.item?_command (.inl hq)
  | work hw => exact h.work (worked_of_step? hw)

end Controller

namespace Pipeline

theorem Run.conserves {setup : Setup} {past : List Turn} {p : Pipeline} (h : Run setup past p) :
    p.controller.Conserves setup.machine.recorded := by
  refine h.keep ?_ fun kept m => kept.move m
  intro _ published
  exact ⟨fun _ => rfl, List.prefix_rfl, by simp [fresh]⟩

/-- After any run the log of accepted submissions is what was processed, followed by what is queued
while the worker is alive. The state machine has recorded the messages among what was processed, and
the log grows by exactly the submissions that are answered with success, which are those that find the
controller running and room in the mailbox. -/
theorem accepted_eq_processed_append_queued {setup : Setup} {past : List Turn} {p : Pipeline}
    (h : Run setup past p) :
    (p.controller.phase.alive = true →
      p.controller.accepted = p.controller.executed ++ p.controller.queued) ∧
    (p.controller.phase.alive = false → p.controller.executed <+: p.controller.accepted) ∧
    p.controller.machine.recorded =
      setup.machine.recorded ++ p.controller.executed.filterMap Item.message? ∧
    ∀ (c : Controller) (scope : Log.Scope) (s : Submission),
      let item := Item.ofSubmission ⟨scope⟩ s
      (c.submit scope s).value =
        if c.isRunning then
          if c.mailbox.hasRoom then (.ok (), c.accept item) else (.error (.queueFull item.name), c)
        else (.error .workerStopped, c) := by
  have conserved := h.conserves
  refine ⟨conserved.alive, fun _ => conserved.kept, conserved.recorded, ?_⟩
  intro c scope s item
  exact c.value_enqueue item

/-- A message whose policy submits another one from within the worker: halted after the first, the
worker has processed it, and the other one is queued. -/
theorem accepted_from_within :
    let policy (m : RouteMessage) : List Action :=
      if m = .speakerOn then [.send .muteOn none none] else []
    let speakerOn := Item.ofSubmission {} (.message .speakerOn)
    let muteOn := Item.ofSubmission ⟨[(Controller.itemSpan speakerOn).place]⟩ (.message .muteOn)
    ∃ past p, Run { config := { queueCapacity := 2 }, machine := { policy } } past p ∧
      past.map Turn.step = [.send (.message .speakerOn), .drive] ∧
      p.controller.phase.alive = true ∧ p.controller.executed = [speakerOn] ∧
      p.controller.queued = [muteOn] ∧
      p.controller.accepted = p.controller.executed ++ p.controller.queued := by
  intro policy speakerOn muteOn
  have valid : RoutingConfig.validate { queueCapacity := 2 } = .ok () :=
    validate_eq_ok_iff.2 (by decide)
  have fits : 2 ≤ Controller.maxCapacity ∧ 32 ≤ Controller.maxHistory := by decide
  have run := @Run.ofSteps { config := { queueCapacity := 2 }, machine := { policy } } _ valid fits
    rfl 2 [.send (.message .speakerOn), .drive]
  exact ⟨_, _, run, rfl, rfl, rfl, rfl, (accepted_eq_processed_append_queued run).1 rfl⟩

end Pipeline

end CallAudio
