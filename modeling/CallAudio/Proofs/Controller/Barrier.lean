import CallAudio.Proofs.Controller.Markers
import CallAudio.Proofs.Controller.Publication

/-!
Flushes as barriers. The marker of a flush enters the mailbox behind everything that was accepted
before, so the worker comes to it only when all that has been processed and published. A marker that
entered is not lost while the worker is alive, so a flush that fails tells that the controller has
stopped.
-/

namespace CallAudio

variable {c c' : Controller} {log : List Item} {ticket : Ticket}

/-- Something in a list that others were appended to was there before, or came with them. -/
theorem cons_of_append {α : Type} {x : α} {queue more ahead behind : List α}
    (h : queue ++ more = ahead ++ x :: behind) :
    (∃ rest, queue = ahead ++ x :: rest) ∨ ∃ late, ahead = queue ++ late ∧ x ∈ more := by
  rcases List.append_eq_append_iff.1 h with ⟨late, ahead', more'⟩ | ⟨rest, queue', behind'⟩
  · exact .inr ⟨late, ahead', by rw [more']; simp⟩
  · cases rest with
    | nil =>
      rw [List.nil_append] at behind'
      exact .inr ⟨[], by simpa using queue'.symm, by rw [← behind']; exact List.mem_cons_self⟩
    | cons y rest =>
      obtain ⟨rfl, _⟩ := List.cons.inj behind'
      exact .inl ⟨rest, queue'⟩

namespace Controller

open Mailbox (closed_of_take? queue_of_take?)

/-! ## What comes before a marker -/

theorem Mirrors.length_executed (h : Mirrors c) (alive : c.phase.alive = true) :
    c.executed.length = c.published.processed := by
  rw [h.version, ← h.processed_eq_version alive, h.processed]

/-- These items have been processed, and are counted in the snapshot that can be read. -/
def Covered (log : List Item) (c : Controller) : Prop :=
  log <+: c.executed ∧ log.length ≤ c.published.processed

theorem Worked.executed_grows (w : Worked c c') : c.executed <+: c'.executed := by
  cases w with
  | @processed _ item mailbox _ =>
    obtain ⟨_, done⟩ := processed_process { c with mailbox } item
    rw [done.executed]
    exact List.prefix_append _ _
  | started | abandoned | acknowledged | stopped => exact List.prefix_rfl

theorem Move.executed_grows (m : Move c c') : c.executed <+: c'.executed := by
  cases m with
  | submit scope s =>
    exact submit_keep (P := fun d => c.executed <+: d.executed) List.prefix_rfl
      (fun _ _ => List.prefix_rfl) scope s
  | poll w =>
    obtain ⟨_, _, frame, _⟩ := poll_frame c w
    simp only [frame, List.prefix_rfl]
  | cancel w =>
    obtain ⟨_, frame, _⟩ := cancel_frame c w
    simp only [frame, List.prefix_rfl]
  | work hw => exact (worked_of_step? hw).executed_grows
  | openCall | setDevices | decline | letGo => exact List.prefix_rfl

theorem Mirrors.processed_le (h : Mirrors c) (m : Move c c') :
    c.published.processed ≤ c'.published.processed := by
  rw [h.version, (h.move m).version]
  exact Moves.version_le (.single m)

theorem Covered.move (h : Covered log c) (mirrors : Mirrors c) (m : Move c c') : Covered log c' :=
  ⟨h.1.trans m.executed_grows, Nat.le_trans h.2 (mirrors.processed_le m)⟩

/-- What is covered stays so. -/
theorem Covered.moves (h : Covered log c) (mirrors : Mirrors c) (moves : Moves c c') :
    Covered log c' := by
  have kept := moves.keep (P := fun d => Covered log d ∧ Mirrors d)
    (fun ⟨covered, mirrors⟩ m => ⟨covered.move mirrors m, mirrors.move m⟩) ⟨h, mirrors⟩
  exact kept.1

/-- What was accepted by some time comes before the marker with this ticket: while the marker is
queued it is ahead of it or processed, and once the worker has come to the marker it is covered. -/
structure Precedes (log : List Item) (ticket : Ticket) (c : Controller) : Prop where
  accepted : log <+: c.accepted
  ahead : ∀ ahead behind, c.mailbox.queue = ahead ++ .flush ticket :: behind →
    log <+: c.executed ++ ahead.filterMap Command.item?
  passed : ticket ∈ c.acknowledged → Covered log c

/-- Right now everything accepted comes before a marker that is yet to enter. -/
theorem precedes_of_notMem_markers (outside : ticket ∉ c.markers) :
    Precedes c.accepted ticket c := by
  rw [markers, List.mem_append, not_or] at outside
  refine ⟨List.prefix_rfl, ?_, fun passed => absurd passed outside.1⟩
  intro ahead behind queue
  have marker : Command.flush ticket ∈ c.mailbox.queue := by
    rw [queue]
    exact List.mem_append_right _ List.mem_cons_self
  have queued : ticket ∈ c.mailbox.queue.filterMap Command.flush? :=
    List.mem_filterMap.2 ⟨.flush ticket, marker, rfl⟩
  exact absurd queued outside.2

/-- Items that are accepted later go behind the marker. -/
theorem Precedes.submit (h : Precedes log ticket c) (scope : Log.Scope) (s : Submission) :
    Precedes log ticket (c.submit scope s).value.2 := by
  refine submit_keep h ?_ scope s
  intro _ item
  refine ⟨h.accepted.trans (List.prefix_append _ _), ?_, h.passed⟩
  intro ahead behind queue
  rcases cons_of_append queue with ⟨rest, before⟩ | ⟨_, _, marker⟩
  · exact h.ahead ahead rest before
  · simp at marker

/-- So do markers that enter later; the marker itself enters behind all that was accepted. -/
theorem Precedes.looked {earlier : List RoutedMessage} {w : WaitingCall}
    {outcome : WaitingCall.Outcome} (h : Precedes log ticket c) (conserves : Conserves earlier c)
    (closes : Closes c) (l : Looked c w outcome c') : Precedes log ticket c' := by
  cases l with
  | late | settled => exact h
  | refused _ _ queue | waits _ _ _ queue =>
    exact ⟨h.accepted, fun ahead behind split => h.ahead ahead behind (queue.symm.trans split),
      h.passed⟩
  | entered _ _ opened queue =>
    refine ⟨h.accepted, ?_, h.passed⟩
    intro ahead behind split
    rcases cons_of_append (queue.symm.trans split) with ⟨rest, before⟩ | ⟨late, behindAll, _⟩
    · exact h.ahead ahead rest before
    · -- the marker enters behind the whole queue, which holds all that is yet to be processed
      have alive : c.phase.alive = true := by simpa [opened] using closes.closed
      rw [behindAll, List.filterMap_append, ← List.append_assoc]
      have log := conserves.alive alive
      rw [queued] at log
      rw [← log]
      exact h.accepted.trans (List.prefix_append _ _)

/-- The worker takes the marker when nothing is ahead of it. -/
theorem Precedes.worked (h : Precedes log ticket c) (mirrors : Mirrors c)
    (published : c.published.processed ≤ c'.published.processed) (w : Worked c c') :
    Precedes log ticket c' := by
  cases w with
  | started => exact ⟨h.accepted, h.ahead, h.passed⟩
  | abandoned | stopped =>
    refine ⟨h.accepted, ?_, h.passed⟩
    intro ahead behind queue
    simp [ended, Mailbox.close] at queue
  | @acknowledged running t mailbox took =>
    have queue := queue_of_take? took
    refine ⟨h.accepted, ?_, ?_⟩
    · intro ahead behind split
      have split : mailbox.queue = ahead ++ .flush ticket :: behind := split
      exact h.ahead (.flush t :: ahead) behind (by rw [queue, split]; rfl)
    · intro passed
      rcases List.mem_append.1 passed with before | now
      · exact h.passed before
      · -- nothing was ahead of the marker any more
        cases List.mem_singleton.1 now
        have done := h.ahead [] mailbox.queue queue
        rw [List.filterMap_nil, List.append_nil] at done
        exact ⟨done, mirrors.length_executed (by rw [running]; rfl) ▸ done.length_le⟩
  | @processed _ item mailbox took =>
    have queue := queue_of_take? took
    obtain ⟨items, done⟩ := processed_process { c with mailbox } item
    refine ⟨?_, ?_, ?_⟩
    · rw [done.accepted]
      exact h.accepted.trans (List.prefix_append _ _)
    · intro ahead behind split
      obtain ⟨_, _, left⟩ | ⟨_, _, _, empty⟩ := done.published
      · -- the item that was taken out had been ahead of the marker, as the first of all
        rcases cons_of_append (left.symm.trans split) with ⟨rest, before⟩ | ⟨_, _, marker⟩
        · have before : mailbox.queue = ahead ++ .flush ticket :: rest := before
          have log := h.ahead (.item item :: ahead) rest (by rw [queue, before]; rfl)
          rw [done.executed, List.append_assoc]
          exact log
        · simp at marker
      · rw [empty] at split
        simp at split
    · rw [done.acknowledged]
      intro passed
      obtain ⟨processed, bound⟩ := h.passed passed
      refine ⟨?_, Nat.le_trans bound published⟩
      rw [done.executed]
      exact processed.trans (List.prefix_append _ _)

theorem Precedes.move {earlier : List RoutedMessage} (h : Precedes log ticket c)
    (conserves : Conserves earlier c) (closes : Closes c) (mirrors : Mirrors c) (m : Move c c') :
    Precedes log ticket c' := by
  have published := mirrors.processed_le m
  cases m with
  | submit scope s => exact h.submit scope s
  | poll w => exact h.looked conserves closes (looked_poll c w)
  | cancel w =>
    obtain ⟨mailbox, frame, queue⟩ := cancel_frame c w
    rw [frame]
    exact ⟨h.accepted, fun ahead behind split => h.ahead ahead behind (queue.symm.trans split),
      h.passed⟩
  | work hw => exact h.worked mirrors published (worked_of_step? hw)
  | openCall | setDevices | decline | letGo => exact ⟨h.accepted, h.ahead, h.passed⟩

theorem Moves.precedes {earlier : List RoutedMessage} (moves : Moves c c')
    (h : Precedes log ticket c) (conserves : Conserves earlier c) (closes : Closes c)
    (mirrors : Mirrors c) : Precedes log ticket c' := by
  have kept := moves.keep
    (P := fun d => Precedes log ticket d ∧ Conserves earlier d ∧ Closes d ∧ Mirrors d)
    (fun ⟨h, conserves, closes, mirrors⟩ m => ⟨h.move conserves closes mirrors m,
      conserves.move m, closes.move m, mirrors.move m⟩) ⟨h, conserves, closes, mirrors⟩
  exact kept.1

/-! ## Flushes that are over -/

theorem isFlush_iff {x : Command} : x.isFlush ticket = true ↔ x.flush? = some ticket := by
  cases x with
  | flush t => rw [Command.isFlush, Command.flush?, beq_iff_eq, Option.some_inj]
  | item | stop => simp [Command.isFlush, Command.flush?]

theorem any_isFlush_iff {queue : List Command} :
    queue.any (Command.isFlush ticket) = true ↔ ticket ∈ queue.filterMap Command.flush? := by
  simp only [List.any_eq_true, List.mem_filterMap, isFlush_iff]

variable {w : WaitingCall} {outcome : WaitingCall.Outcome}

theorem acknowledged_of_settle (kind : w.kind = .flush)
    (finished : (c.settle w).value = .done (.ok ())) : w.ticket ∈ c.acknowledged := by
  rw [value_settle_flush c kind] at finished
  split at finished
  · assumption
  · split at finished <;> cases finished

/-- A flush goes through when the worker has come to its marker. -/
theorem Looked.acknowledged (l : Looked c w outcome c') (kind : w.kind = .flush)
    (finished : outcome = .done (.ok ())) : w.ticket ∈ c.acknowledged := by
  cases l with
  | late | refused | waits => cases finished
  | entered =>
    have passed := acknowledged_of_settle (w := { w with stage := .entered }) kind finished
    exact passed
  | settled => exact acknowledged_of_settle kind finished

/-- A flush that fails once its entry is in has neither been acknowledged nor is it queued. -/
theorem settle_eq_error_iff (kind : w.kind = .flush) {e : RouteError} :
    (c.settle w).value = .done (.error e) ↔ w.ticket ∉ c.markers ∧ e = .workerStopped := by
  simp only [value_settle_flush c kind, any_isFlush_iff, markers, List.mem_append, not_or]
  split
  · simp [*]
  · split <;> simp [*, eq_comm]

/-- A flush fails only when the controller has stopped. -/
theorem Looked.failed (l : Looked c w outcome c') (kind : w.kind = .flush) (closes : Closes c)
    (marked : w.stage = .entered → c.phase.alive = true → w.ticket ∈ c.markers) {e : RouteError}
    (finished : outcome = .done (.error e)) : e = .workerStopped ∧ c'.isRunning = false := by
  cases l with
  | waits => cases finished
  | late _ shut =>
    cases finished
    exact ⟨rfl, isRunning_of_not_accepting shut⟩
  | refused _ _ _ shut =>
    cases finished
    exact ⟨rfl, isRunning_of_closed shut⟩
  | @entered mailbox accepting _ _ queue =>
    obtain ⟨missing, _⟩ :=
      (settle_eq_error_iff (w := { w with stage := .entered }) kind).1 finished
    refine absurd ?_ missing
    show w.ticket ∈ c.acknowledged ++ mailbox.queue.filterMap Command.flush?
    rw [queue, List.filterMap_append]
    simp [WaitingCall.flush?_command, kind]
  | settled entered =>
    obtain ⟨missing, rfl⟩ := (settle_eq_error_iff kind).1 finished
    have ended : c.phase.alive = false := by
      rw [Bool.eq_false_iff]
      exact fun alive => missing (marked entered alive)
    exact ⟨rfl, isRunning_of_closed (by rw [closes.closed, ended]; rfl)⟩

/-- A controller that has stopped does not run again. -/
theorem Move.not_running (m : Move c c') (closes : Closes c) (stopped : c.isRunning = false) :
    c'.isRunning = false := by
  cases accepting : c.accepting with
  | false =>
    have shut : Shut c.accepted c := ⟨accepting, rfl⟩
    exact isRunning_of_not_accepting (shut.move m).1
  | true =>
    have ended : c.phase.alive = false := by
      simpa [isRunning, accepting, closes.closed] using stopped
    exact isRunning_of_closed (by rw [(closes.move m).closed, m.phase_of_ended ended, ended]; rfl)

theorem Moves.not_running (moves : Moves c c') (closes : Closes c) (stopped : c.isRunning = false) :
    c'.isRunning = false := by
  have kept := moves.keep (P := fun d => d.isRunning = false ∧ Closes d)
    (fun ⟨stopped, closes⟩ m => ⟨m.not_running closes stopped, closes.move m⟩) ⟨stopped, closes⟩
  exact kept.1

/-- A call that is left with its entry in has put it in at this look or before. -/
theorem Looked.inside (l : Looked c w outcome c') {x : WaitingCall} (left : outcome.left? = some x)
    (entered : x.stage = .entered) : w.stage = .entered ∨ w.command ∈ c'.mailbox.queue := by
  cases l with
  | late | refused => cases left
  | waits =>
    cases left
    cases entered
  | @entered mailbox _ _ _ queue =>
    right
    show w.command ∈ mailbox.queue
    rw [queue]
    exact List.mem_append_right _ List.mem_cons_self
  | settled inside => exact .inl inside

/-! ## What a flush leaves alone -/

/-- The same controller but for the mailbox entries that carry no item, and for tickets. -/
def Beside (c c' : Controller) : Prop :=
  ∃ mailbox acknowledged nextTicket, c' = { c with mailbox, acknowledged, nextTicket } ∧
    mailbox.queue.filterMap Command.item? = c.queued

theorem beside_openCall (c : Controller) (kind : WaitingCall.Kind) :
    c.Beside (c.openCall kind).2 :=
  ⟨c.mailbox, c.acknowledged, c.nextTicket + 1, rfl, rfl⟩

theorem beside_cancel (c : Controller) (w : WaitingCall) : c.Beside (c.cancel w) := by
  obtain ⟨mailbox, frame, queue⟩ := cancel_frame c w
  exact ⟨mailbox, c.acknowledged, c.nextTicket, frame, by rw [queue, queued]⟩

/-- Unlike the first look at a shutdown, no look at a flush ends the taking of submissions. -/
theorem beside_poll (kind : w.kind = .flush) : c.Beside (c.poll w).value.2 := by
  have accepting := accepting_poll c w
  obtain ⟨mailbox, _, frame, queue⟩ := poll_frame c w
  have begins : w.begins = false := by simp [WaitingCall.begins, kind]
  rw [frame, begins, Bool.not_false, Bool.and_true] at accepting
  refine ⟨mailbox, c.acknowledged, c.nextTicket, by rw [frame, ← accepting], ?_⟩
  rcases queue with queue | queue
  · rw [queue, queued]
  · rw [queue, List.filterMap_append, List.filterMap_cons_none w.item?_command,
      List.filterMap_nil, List.append_nil, queued]

/-- All that a worker does with the marker is to acknowledge it. -/
theorem Worked.beside {rest : List Command} (w : Worked c c') (running : c.phase = .running)
    (marker : c.mailbox.queue = .flush ticket :: rest) : c.Beside c' := by
  cases w with
  | started fresh => cases running.symm.trans fresh
  | abandoned _ empty => cases marker.symm.trans (Mailbox.queue_of_take?_none empty)
  | processed _ took | stopped _ took => cases marker.symm.trans (queue_of_take? took)
  | @acknowledged _ t mailbox took =>
    refine ⟨mailbox, _, c.nextTicket, rfl, ?_⟩
    rw [queued, queue_of_take? took]
    rfl

end Controller

namespace Attended

open Controller (Looked looked_poll)

/-- The marker of a flush that has entered is queued, or the worker has come to it, as long as the
worker is alive. -/
def Marked (a : Attended) : Prop :=
  ∀ w ∈ a.calls, w.kind = .flush → w.stage = .entered → a.controller.phase.alive = true →
    w.ticket ∈ a.controller.markers

variable {a a' : Attended} {calls left : List WaitingCall}

theorem Marked.of_markers (h : Marked ⟨c, calls⟩) (fewer : List.Sublist left calls)
    (kept : c'.phase.alive = true → c.phase.alive = true ∧ c'.markers = c.markers) :
    Marked ⟨c', left⟩ := by
  intro w hw kind entered alive
  obtain ⟨before, markers⟩ := kept alive
  show w.ticket ∈ c'.markers
  rw [markers]
  exact h w (fewer.mem hw) kind entered before

theorem Marked.look {before after : List WaitingCall} {w : WaitingCall}
    (h : Marked ⟨c, before ++ w :: after⟩) :
    Marked ⟨(c.poll w).value.2, before ++ ((c.poll w).value.1.left?.toList ++ after)⟩ := by
  have looked := looked_poll c w
  obtain ⟨more, markers, _⟩ := looked.markers
  intro x hx kind entered alive
  have alive : c.phase.alive = true := by rw [← Controller.phase_poll c w]; exact alive
  have kept {y : WaitingCall} (hy : y ∈ before ++ w :: after) (kind : y.kind = .flush)
      (entered : y.stage = .entered) : y.ticket ∈ (c.poll w).value.2.markers := by
    rw [markers]
    exact List.mem_append_left _ (h y hy kind entered alive)
  rcases mem_looked hx with old | left
  -- of the call that was looked at, the entry was in before or is the one that has just entered
  · exact kept ((sublist_without before w after).mem old) kind entered
  · obtain ⟨stage, rfl⟩ := looked.left? left
    rcases looked.inside left entered with inside | queued
    · have old : w.ticket ∈ (c.poll w).value.2.markers :=
        kept (List.mem_append_right _ List.mem_cons_self) kind inside
      exact old
    · have marker : w.command.flush? = some w.ticket := by
        rw [WaitingCall.flush?_command, if_pos kind]
      exact List.mem_append_right _ (List.mem_filterMap.2 ⟨_, queued, marker⟩)

theorem Marked.move (h : Marked a) (m : Move a a') : Marked a' := by
  cases m with
  | submit c calls scope s =>
    have phase : (c.submit scope s).value.2.phase = c.phase :=
      Controller.submit_keep (P := fun d => d.phase = c.phase) rfl (fun _ _ => rfl) scope s
    exact h.of_markers (List.Sublist.refl _) fun alive =>
      ⟨phase ▸ alive, Controller.submit_markers c scope s⟩
  | work calls hw =>
    have worked := Controller.worked_of_step? hw
    refine h.of_markers (List.Sublist.refl _) fun alive => ⟨worked.alive, ?_⟩
    rcases worked.markers with same | ⟨ended, _⟩
    · exact same
    · cases ended.symm.trans alive
  | openCall c calls kind =>
    intro w hw kind entered alive
    rcases List.mem_append.1 hw with hw | hw
    · exact h w hw kind entered alive
    · rw [List.mem_singleton.1 hw] at entered
      cases entered
  | look c before w after => exact h.look
  | cancel c before w after =>
    obtain ⟨mailbox, frame, queue⟩ := Controller.cancel_frame c w
    rw [frame]
    refine h.of_markers (sublist_without before w after) fun alive => ⟨alive, ?_⟩
    rw [Controller.markers, queue]
    rfl
  | forget c before w after =>
    exact h.of_markers (sublist_without before w after) fun alive => ⟨alive, rfl⟩
  | letGo c => exact h.of_markers (List.Sublist.refl _) fun alive => ⟨alive, rfl⟩

end Attended

namespace Pipeline

theorem Run.marked {setup : Setup} {past : List Turn} {p : Pipeline} (h : Run setup past p) :
    p.attended.Marked := by
  refine h.attends ?_ Attended.Marked.move fun _ _ _ before _ => before
  intro published w hw
  cases hw

end Pipeline

end CallAudio
