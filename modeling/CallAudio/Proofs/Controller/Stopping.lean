import CallAudio.Proofs.Controller.Conservation

/-!
How a controller stops. A shutdown ends the taking of submissions before its marker enters the
mailbox, so behind a marker there are only markers; when the worker comes to it, everything that was
accepted has been processed.
-/

namespace CallAudio

variable {c c' : Controller}

namespace Controller

open Log (Scope)
open Mailbox (closed_of_take? suffix_of_take?)

/-! ## Taking no more submissions -/

theorem submit_of_not_running (stopped : c.isRunning = false) (scope : Scope) (s : Submission) :
    (c.submit scope s).value = (.error .workerStopped, c) := by
  show (c.enqueue _).value = _
  rw [value_enqueue, stopped]
  rfl

theorem isRunning_of_not_accepting (shut : c.accepting = false) : c.isRunning = false := by
  rw [isRunning, shut, Bool.false_and]

theorem isRunning_of_closed (closed : c.mailbox.closed = true) : c.isRunning = false := by
  rw [isRunning, closed, Bool.not_true, Bool.and_false]

/-- What was accepted, of a controller that takes no more. -/
def Shut (log : List Item) (c : Controller) : Prop :=
  c.accepting = false ∧ c.accepted = log

theorem Shut.submit {log : List Item} (h : Shut log c) (scope : Scope) (s : Submission) :
    Shut log (c.submit scope s).value.2 := by
  rw [submit_of_not_running (isRunning_of_not_accepting h.1)]
  exact h

/-- Not even an item that is being processed has a submission accepted. -/
theorem Shut.effects {log : List Item} (h : Shut log c) (e : Effects c c') : Shut log c' := by
  induction e with
  | refl => exact h
  | tail _ next ih =>
    cases next with
    | submit scope s => exact ih.submit scope s
    | operate | clearActive | edit | reply => exact ih

/-- What is left once an item was processed; `items` is what was accepted meanwhile. -/
structure Processed (c : Controller) (item : Item) (items : List Item) (c' : Controller) :
    Prop where
  accepting : c'.accepting = c.accepting
  held : c'.held = c.held
  acknowledged : c'.acknowledged = c.acknowledged
  nextTicket : c'.nextTicket = c.nextTicket
  accepted : c'.accepted = c.accepted ++ items
  executed : c'.executed = c.executed ++ [item]
  published : c'.phase = c.phase ∧ c'.mailbox.closed = c.mailbox.closed ∧
      c'.mailbox.queue = c.mailbox.queue ++ items.map Command.item ∨
    ∃ cause, c'.phase = .crashed cause ∧ c'.mailbox.closed = true ∧ c'.mailbox.queue = []

theorem processed_process (c : Controller) (item : Item) :
    ∃ items, Processed c item items (c.process item).value := by
  obtain ⟨items, system, state, effects, hf⟩ := (execute_effects c item).frame
  refine ⟨items, ?_⟩
  rw [value_process, hf]
  rcases publish_cases (count _ item) with ⟨published, hp⟩ | ⟨cause, hp⟩ <;> rw [hp]
  · cases item <;> exact ⟨rfl, rfl, rfl, rfl, rfl, rfl, .inl ⟨rfl, rfl, rfl⟩⟩
  · cases item <;> exact ⟨rfl, rfl, rfl, rfl, rfl, rfl, .inr ⟨cause, rfl, rfl, rfl⟩⟩

theorem Shut.process {log : List Item} (h : Shut log c) (item : Item) :
    Shut log (c.process item).value := by
  have noted : Shut log (c.note item) := by
    cases item <;> exact h
  have done := noted.effects (execute_effects c item)
  rw [value_process]
  rcases publish_cases (count _ item) with ⟨_, hp⟩ | ⟨_, hp⟩ <;> rw [hp] <;> exact done

theorem Shut.worked {log : List Item} (h : Shut log c) (w : Worked c c') : Shut log c' := by
  cases w with
  | @processed _ item mailbox _ => exact Shut.process (c := { c with mailbox }) h item
  | started | abandoned | acknowledged | stopped => exact h

/-- Once a controller takes no more submissions, it never does again. -/
theorem Shut.move {log : List Item} (h : Shut log c) (m : Move c c') : Shut log c' := by
  cases m with
  | submit scope s => exact h.submit scope s
  | poll w =>
    obtain ⟨_, _, hp, _⟩ := poll_frame c w
    refine ⟨?_, by rw [hp]; exact h.2⟩
    rw [accepting_poll, h.1, Bool.false_and]
  | cancel w =>
    obtain ⟨_, hp, _⟩ := cancel_frame c w
    rw [hp]
    exact h
  | work hw => exact h.worked (worked_of_step? hw)
  | openCall | setDevices | decline | letGo => exact h

/-! ## The end of the worker -/

theorem Worked.alive (w : Worked c c') : c.phase.alive = true := by
  cases w with
  | started phase | abandoned phase | processed phase | acknowledged phase | stopped phase =>
    rw [phase]
    rfl

theorem phase_poll (c : Controller) (w : WaitingCall) : (c.poll w).value.2.phase = c.phase := by
  obtain ⟨_, _, hp, _⟩ := poll_frame c w
  rw [hp]

/-- The worker does not come back. -/
theorem Move.phase_of_ended (m : Move c c') (finished : c.phase.alive = false) :
    c'.phase = c.phase := by
  cases m with
  | submit scope s =>
    exact submit_keep (P := fun d => d.phase = c.phase) rfl (fun _ _ => rfl) scope s
  | poll w => exact phase_poll c w
  | cancel w =>
    obtain ⟨_, hp, _⟩ := cancel_frame c w
    rw [hp]
  | work hw => cases finished.symm.trans (worked_of_step? hw).alive
  | openCall | setDevices | decline | letGo => rfl

theorem Moves.phase_of_ended (h : Moves c c') (finished : c.phase.alive = false) :
    c'.phase = c.phase :=
  h.keep (P := fun d => d.phase = c.phase)
    (fun same m => (m.phase_of_ended (by rw [same]; exact finished)).trans same) rfl

/-- The mailbox is closed, and empty, from the end of the worker on. -/
structure Closes (c : Controller) : Prop where
  closed : c.mailbox.closed = !c.phase.alive
  empty : c.phase.alive = false → c.mailbox.queue = []

/-- A mailbox that stays open may have changed in any way. -/
theorem Closes.of_open (h : Closes c) (same : c'.phase = c.phase)
    (opened : c.mailbox.closed = false) (still : c'.mailbox.closed = false) : Closes c' := by
  have alive : c.phase.alive = true := by simpa [opened] using h.closed
  rw [← same] at alive
  exact ⟨by rw [still, alive]; rfl, fun finished => by cases finished.symm.trans alive⟩

/-- Closing the mailbox as the worker ends. -/
theorem Closes.of_ended (finished : c.phase.alive = false) (closed : c.mailbox.closed = true)
    (empty : c.mailbox.queue = []) : Closes c :=
  ⟨by rw [closed, finished]; rfl, fun _ => empty⟩

theorem Closes.looked {w : WaitingCall} {outcome : WaitingCall.Outcome} (h : Closes c)
    (l : Looked c w outcome c') : Closes c' := by
  cases l with
  | late | settled => exact h
  | refused accepting closed queue shut =>
    exact ⟨by rw [shut, ← closed]; exact h.closed, fun finished => queue.trans (h.empty finished)⟩
  | entered accepting _ opened _ still | waits accepting _ opened _ still =>
    exact h.of_open rfl opened still

theorem Closes.worked (h : Closes c) (w : Worked c c') : Closes c' := by
  have opened : c.mailbox.closed = false := by rw [h.closed, w.alive]; rfl
  cases w with
  | started => exact ⟨opened, fun finished => by cases finished⟩
  | abandoned | stopped => exact .of_ended rfl rfl rfl
  | @processed running item mailbox took =>
    have opened' : mailbox.closed = false := by rw [closed_of_take? took, opened]
    obtain ⟨items, done⟩ := processed_process { c with mailbox } item
    obtain ⟨phase, closed, _⟩ | ⟨cause, phase, closed, empty⟩ := done.published
    · exact h.of_open phase opened (closed.trans opened')
    · exact .of_ended (by rw [phase]; rfl) closed empty
  | @acknowledged running ticket mailbox took =>
    exact h.of_open rfl opened (by rw [closed_of_take? took, opened])

theorem Closes.submit (h : Closes c) (scope : Scope) (s : Submission) :
    Closes (c.submit scope s).value.2 := by
  refine submit_keep h ?_ scope s
  intro running item
  have opened : c.mailbox.closed = false := by simp_all [isRunning]
  exact h.of_open rfl opened opened

theorem Closes.move (h : Closes c) (m : Move c c') : Closes c' := by
  cases m with
  | submit scope s => exact h.submit scope s
  | poll w => exact h.looked (looked_poll c w)
  | cancel w =>
    have closed := closed_cancel c w
    obtain ⟨mailbox, hp, queue⟩ := cancel_frame c w
    rw [hp] at closed ⊢
    exact ⟨closed.trans h.closed, fun finished => queue.trans (h.empty finished)⟩
  | work hw => exact h.worked (worked_of_step? hw)
  | openCall | setDevices | decline | letGo => exact ⟨h.closed, h.empty⟩

/-! ## The queue -/

/-- The queue loses entries at the front and gains items at the end, none once submissions are no
longer taken. -/
def Flows (c c' : Controller) : Prop :=
  c'.accepting = c.accepting ∧ ∃ rest items, rest <:+ c.mailbox.queue ∧
    c'.mailbox.queue = rest ++ items.map Command.item ∧ (c.accepting = false → items = [])

theorem Flows.of_suffix (same : c'.accepting = c.accepting)
    (queue : c'.mailbox.queue <:+ c.mailbox.queue) : Flows c c' :=
  ⟨same, _, [], queue, (List.append_nil _).symm, fun _ => rfl⟩

theorem submit_flows (c : Controller) (scope : Scope) (s : Submission) :
    Flows c (c.submit scope s).value.2 := by
  refine submit_keep (.of_suffix rfl (List.suffix_refl _)) ?_ scope s
  intro running item
  refine ⟨rfl, c.mailbox.queue, [item], List.suffix_refl _, rfl, ?_⟩
  intro shut
  cases running.symm.trans (isRunning_of_not_accepting shut)

theorem Worked.flows (w : Worked c c') : Flows c c' := by
  cases w with
  | started => exact .of_suffix rfl (List.suffix_refl _)
  | abandoned | stopped => exact .of_suffix rfl List.nil_suffix
  | acknowledged running took => exact .of_suffix rfl (suffix_of_take? took)
  | @processed running item mailbox took =>
    obtain ⟨items, done⟩ := processed_process { c with mailbox } item
    obtain ⟨_, _, queue⟩ | ⟨_, _, _, empty⟩ := done.published
    · refine ⟨done.accepting, mailbox.queue, items, suffix_of_take? took, queue, ?_⟩
      intro shut
      -- what was accepted has not changed, so nothing was submitted
      have same := (Shut.process (c := { c with mailbox }) ⟨shut, rfl⟩ item).2
      rw [done.accepted] at same
      exact List.append_right_eq_self.1 same
    · exact .of_suffix done.accepting (by rw [empty]; exact List.nil_suffix)

end Controller

/-! ## The marker of a shutdown -/

/-- What may stand behind a command: behind the marker of a shutdown, no item. -/
def Command.Admits (x y : Command) : Prop :=
  x = .stop → y.item? = none

theorem Command.pairwise_append_items {queue : List Command} (h : queue.Pairwise Admits)
    {items : List Item} (free : Command.stop ∈ queue → items = []) :
    (queue ++ items.map Command.item).Pairwise Admits := by
  refine List.pairwise_append.2 ⟨h, ?_, ?_⟩
  · rw [List.pairwise_map]
    exact List.pairwise_of_forall fun _ _ stop => (by cases stop)
  · intro x hx y hy stop
    rw [free (stop ▸ hx)] at hy
    cases hy

theorem Command.pairwise_concat {queue : List Command} (h : queue.Pairwise Admits) {x : Command}
    (marker : x.item? = none) : (queue ++ [x]).Pairwise Admits := by
  refine List.pairwise_append.2 ⟨h, List.pairwise_singleton _ _, ?_⟩
  intro _ _ y hy _
  rw [List.mem_singleton.1 hy]
  exact marker

namespace Attended

open Controller (Flows Worked accepting_poll poll_frame)

/-- Once a shutdown was looked at no submissions are taken, and its marker is the end of the items.
-/
structure StopsLast (a : Attended) : Prop where
  begun : ∀ w ∈ a.calls, w.kind = .shutdown → w.stage ≠ .fresh → a.controller.accepting = false
  marked : Command.stop ∈ a.controller.mailbox.queue → a.controller.accepting = false
  last : a.controller.mailbox.queue.Pairwise Command.Admits

variable {a a' : Attended} {calls : List WaitingCall}

theorem StopsLast.flows (h : StopsLast ⟨c, calls⟩) (f : Flows c c') : StopsLast ⟨c', calls⟩ := by
  obtain ⟨same, rest, items, suffix, queue, shut⟩ := f
  have marked (stop : Command.stop ∈ rest) : c.accepting = false := h.marked (suffix.mem stop)
  refine ⟨?_, ?_, ?_⟩
  · intro w hw kind stage
    exact same.trans (h.begun w hw kind stage)
  · intro stop
    rw [show (Attended.mk c' calls).controller.mailbox.queue = _ from queue] at stop
    rcases List.mem_append.1 stop with stop | stop
    · exact same.trans (marked stop)
    · simp at stop
  · show c'.mailbox.queue.Pairwise _
    rw [queue]
    exact Command.pairwise_append_items (h.last.sublist suffix.sublist) fun stop =>
      shut (marked stop)

theorem StopsLast.look {before after : List WaitingCall} {w : WaitingCall}
    (h : StopsLast ⟨c, before ++ w :: after⟩) :
    StopsLast ⟨(c.poll w).value.2, before ++ ((c.poll w).value.1.left?.toList ++ after)⟩ := by
  have accepting := accepting_poll c w
  -- whoever has looked at a shutdown before finds that it has begun
  have shut (kind : w.kind = .shutdown) : (c.poll w).value.2.accepting = false := by
    rw [accepting]
    by_cases fresh : w.stage = .fresh
    · simp [WaitingCall.begins, kind, fresh]
    · rw [show c.accepting = false from h.begun w (by simp) kind fresh, Bool.false_and]
  have still (shut : c.accepting = false) : (c.poll w).value.2.accepting = false := by
    rw [accepting, shut, Bool.false_and]
  obtain ⟨mailbox, _, frame, queue⟩ := poll_frame c w
  refine ⟨?_, ?_, ?_⟩
  · intro x hx kind stage
    rcases mem_looked hx with old | left
    · exact still (h.begun x ((sublist_without before w after).mem old) kind stage)
    · obtain ⟨_, rfl⟩ := (Controller.looked_poll c w).left? left
      exact shut kind
  · intro stop
    rw [show (Attended.mk (c.poll w).value.2 _).controller = _ from frame] at stop
    rcases queue with queue | queue
    · exact still (h.marked (queue ▸ stop))
    · rcases List.mem_append.1 (queue ▸ stop) with stop | entry
      · exact still (h.marked stop)
      · exact shut (WaitingCall.kind_of_command_eq_stop (List.mem_singleton.1 entry).symm)
  · show (c.poll w).value.2.mailbox.queue.Pairwise _
    rw [frame]
    rcases queue with queue | queue <;> rw [queue]
    · exact h.last
    · exact Command.pairwise_concat h.last w.item?_command

/-- Calls may be left alone as long as the queue and the taking of submissions stay as they are. -/
theorem StopsLast.of_calls {left : List WaitingCall} (h : StopsLast ⟨c, calls⟩)
    (fewer : List.Sublist left calls) (accepting : c'.accepting = c.accepting)
    (queue : c'.mailbox.queue = c.mailbox.queue) : StopsLast ⟨c', left⟩ := by
  refine ⟨?_, ?_, ?_⟩
  · intro w hw kind stage
    exact accepting.trans (h.begun w (fewer.mem hw) kind stage)
  · intro stop
    exact accepting.trans (h.marked (queue ▸ stop))
  · show c'.mailbox.queue.Pairwise _
    rw [queue]
    exact h.last

theorem StopsLast.move (h : StopsLast a) (m : Move a a') : StopsLast a' := by
  cases m with
  | submit c calls scope s => exact h.flows (Controller.submit_flows c scope s)
  | work calls hw => exact h.flows (Controller.worked_of_step? hw).flows
  | openCall c calls kind =>
    refine ⟨?_, h.marked, h.last⟩
    intro w hw shutdown stage
    rcases List.mem_append.1 hw with hw | hw
    · exact h.begun w hw shutdown stage
    · rw [List.mem_singleton.1 hw] at stage
      exact absurd rfl stage
  | look c before w after => exact h.look
  | cancel c before w after =>
    obtain ⟨mailbox, frame, queue⟩ := Controller.cancel_frame c w
    rw [frame]
    exact h.of_calls (sublist_without before w after) rfl queue
  | forget c before w after => exact h.of_calls (sublist_without before w after) rfl rfl
  | letGo c => exact h.of_calls (List.Sublist.refl _) rfl rfl

end Attended

/-! ## Nothing is left behind -/

namespace Controller

open Mailbox (queue_of_take? queue_of_take?_none)

/-- When the marker of a shutdown is next, no items are queued. -/
theorem queued_of_stop (last : c.mailbox.queue.Pairwise Command.Admits) {rest : List Command}
    (queue : c.mailbox.queue = .stop :: rest) : c.queued = [] := by
  rw [queue] at last
  have markers : ∀ x ∈ rest, x.item? = none := fun x hx => List.rel_of_pairwise_cons last hx rfl
  rw [queued, queue, List.filterMap_cons_none rfl]
  exact List.filterMap_eq_nil_iff.2 markers

/-- The worker does not end in order over an item. -/
theorem phase_process_ne_stopped (running : c.phase = .running) (item : Item) :
    (c.process item).value.phase ≠ .stopped := by
  intro stopped
  obtain ⟨items, done⟩ := processed_process c item
  obtain ⟨phase, _⟩ | ⟨cause, phase, _⟩ := done.published
  · cases stopped.symm.trans (phase.trans running)
  · cases stopped.symm.trans phase

/-- A worker that ended in order has processed all that was accepted. -/
def Drained (c : Controller) : Prop :=
  c.phase = .stopped → c.executed = c.accepted

theorem Drained.worked {earlier : List RoutedMessage} (conserves : Conserves earlier c)
    (last : c.mailbox.queue.Pairwise Command.Admits) (w : Worked c c') : Drained c' := by
  have log := conserves.alive w.alive
  intro stopped
  cases w with
  | started => cases stopped
  | abandoned running empty =>
    have none : c.queued = [] := by rw [queued, queue_of_take?_none empty]; rfl
    rw [none, List.append_nil] at log
    exact log.symm
  | @processed running item mailbox =>
    exact absurd stopped (phase_process_ne_stopped (c := { c with mailbox }) running item)
  | acknowledged running => cases stopped.symm.trans running
  | stopped running took =>
    rw [queued_of_stop last (queue_of_take? took), List.append_nil] at log
    exact log.symm

theorem Drained.move {earlier : List RoutedMessage} (h : Drained c)
    (conserves : Conserves earlier c) (closes : Closes c)
    (last : c.mailbox.queue.Pairwise Command.Admits) (m : Move c c') : Drained c' := by
  cases m with
  | submit scope s =>
    refine submit_keep h ?_ scope s
    intro running item stopped
    have closed : c.mailbox.closed = true := by
      rw [closes.closed, show c.phase = .stopped from stopped]
      rfl
    cases running.symm.trans (isRunning_of_closed closed)
  | poll w =>
    obtain ⟨_, _, hp, _⟩ := poll_frame c w
    rw [hp]
    exact h
  | cancel w =>
    obtain ⟨_, hp, _⟩ := cancel_frame c w
    rw [hp]
    exact h
  | work hw => exact .worked conserves last (worked_of_step? hw)
  | openCall | setDevices | decline | letGo => exact h

/-- A worker ends in order when it takes the marker of a shutdown, or finds nothing left to do and
nobody to give it anything. -/
theorem Worked.ends_in_order (w : Worked c c') (stopped : c'.phase = .stopped) :
    (∃ rest, c.mailbox.queue = .stop :: rest) ∨ c.mailbox.queue = [] ∧ c.held = false := by
  cases w with
  | started => cases stopped
  | abandoned _ empty dropped => exact .inr ⟨queue_of_take?_none empty, dropped⟩
  | @processed running item mailbox =>
    exact absurd stopped (phase_process_ne_stopped (c := { c with mailbox }) running item)
  | acknowledged running => cases stopped.symm.trans running
  | stopped running took => exact .inl ⟨_, queue_of_take? took⟩

end Controller

namespace Attended

/-- All that stopping in order rests on. -/
structure Sound (earlier : List RoutedMessage) (a : Attended) : Prop where
  stopsLast : a.StopsLast
  conserves : a.controller.Conserves earlier
  closes : a.controller.Closes
  drained : a.controller.Drained

variable {a a' : Attended} {earlier : List RoutedMessage}

theorem Sound.move (h : Sound earlier a) (m : Move a a') : Sound earlier a' := by
  have stopsLast := h.stopsLast.move m
  rcases (Relation.reflGen_iff _ _ _).1 m.controller with same | next
  · exact ⟨stopsLast, same ▸ h.conserves, same ▸ h.closes, same ▸ h.drained⟩
  · exact ⟨stopsLast, h.conserves.move next, h.closes.move next,
      h.drained.move h.conserves h.closes h.stopsLast.last next⟩

/-- When the worker takes the marker of a shutdown, no items are left and all that was accepted has
been processed. -/
theorem Sound.of_stop (h : Sound earlier a) {rest : List Command}
    (queue : a.controller.mailbox.queue = .stop :: rest) :
    (∀ x ∈ rest, x.item? = none) ∧ a.controller.executed = a.controller.accepted := by
  have last := h.stopsLast.last
  have none := Controller.queued_of_stop last queue
  rw [queue] at last
  refine ⟨fun x hx => List.rel_of_pairwise_cons last hx rfl, ?_⟩
  have alive : a.controller.phase.alive = true := by
    rw [← Bool.not_eq_false]
    intro finished
    rw [h.closes.empty finished] at queue
    cases queue
  rw [h.conserves.alive alive, none, List.append_nil]

end Attended

namespace Pipeline

theorem Run.sound {setup : Setup} {past : List Turn} {p : Pipeline} (h : Run setup past p) :
    p.attended.Sound setup.machine.recorded := by
  refine h.attends ?_ Attended.Sound.move ?_
  · intro published
    refine ⟨⟨by simp, by simp [fresh], .nil⟩, ?_, ⟨rfl, fun finished => by cases finished⟩, ?_⟩
    · exact ⟨fun _ => rfl, List.prefix_rfl, by simp [fresh]⟩
    · intro _
      rfl
  · intro _ c calls before system
    exact ⟨⟨before.stopsLast.begun, before.stopsLast.marked, before.stopsLast.last⟩,
      ⟨before.conserves.alive, before.conserves.kept, before.conserves.recorded⟩,
      ⟨before.closes.closed, before.closes.empty⟩, before.drained⟩

/-- A snapshot that failed would still show in the end. -/
theorem Run.published {setup : Setup} {past : List Turn} {p : Pipeline} (h : Run setup past p)
    (last : ∀ cause, p.controller.phase ≠ .crashed cause) :
    ∀ t ∈ past, ∀ cause, t.after.controller.phase ≠ .crashed cause := by
  intro t ht cause crashed
  obtain ⟨earlier, later, split⟩ := List.append_of_mem ht
  have same := (h.moves split).phase_of_ended (by rw [crashed]; rfl)
  exact last cause (same.trans crashed)

end Pipeline

end CallAudio
