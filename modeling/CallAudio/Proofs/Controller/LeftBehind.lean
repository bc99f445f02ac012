import CallAudio.Proofs.Controller.Attended
import CallAudio.Proofs.Controller.Markers

/-!
Flushes that a shutdown leaves behind. The worker ends when it comes to the marker of the shutdown;
a flush whose marker is not ahead of it is never acknowledged, and fails as soon as the worker has
ended.
-/

namespace CallAudio.Controller

variable {c c' : Controller} {w : WaitingCall} {outcome : WaitingCall.Outcome} {ticket : Ticket}

/-! ## The way to the marker of a shutdown -/

/-- A step of the worker with the marker of a shutdown in the queue: it ends, it starts, or it takes
out the first of the entries ahead of the marker. -/
inductive TowardStop (c : Controller) (ahead : List Command) (c' : Controller) : Prop
  | ends (finished : c'.phase.alive = false) (acknowledged : c'.acknowledged = c.acknowledged)
  | starts (fresh : c.phase = .fresh) (running : c'.phase = .running)
      (queue : c'.mailbox.queue = c.mailbox.queue) (acknowledged : c'.acknowledged = c.acknowledged)
  | takes {x : Command} {rest behind : List Command} (first : ahead = x :: rest)
      (running : c'.phase = .running) (queue : c'.mailbox.queue = rest ++ .stop :: behind)
      (acknowledged : c'.acknowledged = c.acknowledged ++ x.flush?.toList)

theorem Worked.towardStop {ahead behind : List Command}
    (queue : c.mailbox.queue = ahead ++ .stop :: behind) (w : Worked c c') :
    TowardStop c ahead c' := by
  cases w with
  | started fresh => exact .starts fresh rfl rfl rfl
  | abandoned | stopped => exact .ends rfl rfl
  | @acknowledged running ticket mailbox took =>
    have first := Mailbox.queue_of_take? took
    cases ahead with
    | nil => cases queue.symm.trans first
    | cons x rest =>
      obtain ⟨rfl, tail⟩ := List.cons.inj (queue.symm.trans first)
      exact .takes rfl running tail.symm rfl
  | @processed running item mailbox took =>
    have first := Mailbox.queue_of_take? took
    obtain ⟨items, done⟩ := processed_process { c with mailbox } item
    obtain ⟨phase, _, grown⟩ | ⟨cause, phase, _⟩ := done.published
    · cases ahead with
      | nil => cases queue.symm.trans first
      | cons x rest =>
        obtain ⟨rfl, tail⟩ := List.cons.inj (queue.symm.trans first)
        have left : ({ c with mailbox }.process item).value.mailbox.queue =
            rest ++ .stop :: (behind ++ items.map .item) := by
          rw [grown, ← tail]
          simp
        exact .takes rfl (phase.trans running) left
          (done.acknowledged.trans (List.append_nil _).symm)
    · exact .ends (by rw [phase]; rfl) done.acknowledged

/-- The worker ends within `n` steps: the marker of a shutdown comes after fewer than `n` entries,
and the first step of a worker takes none out. -/
def StopsWithin (n : Nat) (c : Controller) : Prop :=
  c.phase.alive = true → ∃ ahead behind, c.mailbox.queue = ahead ++ .stop :: behind ∧
    ahead.length + (if c.phase = .fresh then 2 else 1) ≤ n

theorem StopsWithin.worked {n : Nat} (h : StopsWithin (n + 1) c) (w : Worked c c') :
    StopsWithin n c' := by
  obtain ⟨ahead, behind, queue, bound⟩ := h w.alive
  intro alive
  cases w.towardStop queue with
  | ends finished => cases finished.symm.trans alive
  | starts fresh running same =>
    refine ⟨ahead, behind, same.trans queue, ?_⟩
    simp only [fresh, running, if_true, reduceCtorEq, if_false] at bound ⊢
    omega
  | @takes x rest behind' first running left =>
    refine ⟨rest, behind', left, ?_⟩
    simp only [first, List.length_cons, running, reduceCtorEq, if_false] at bound ⊢
    split at bound <;> omega

/-- With the marker in the queue only a worker that has ended is idle. -/
theorem StopsWithin.ended_of_idle {n : Nat} (h : StopsWithin n c) (idle : c.step? = none) :
    c.phase.alive = false := by
  rcases idle_cases idle with ended | ⟨running, empty, _⟩
  · exact ended
  · obtain ⟨ahead, behind, queue, _⟩ := h (by rw [running]; rfl)
    rw [empty] at queue
    simp at queue

/-- A worker that is given the steps ends. -/
theorem drive_ends {n : Nat} (h : StopsWithin n c) : (c.drive n).value.phase.alive = false := by
  induction n generalizing c with
  | zero =>
    rw [Bool.eq_false_iff]
    intro alive
    obtain ⟨ahead, _, _, bound⟩ := h alive
    split at bound <;> omega
  | succ n ih =>
    unfold drive
    split
    · rename_i idle
      exact h.ended_of_idle idle
    · rename_i next step
      exact ih (h.worked (worked_of_step? step))

theorem StopsWithin.looked {n : Nat} (h : StopsWithin n c) (l : Looked c w outcome c') :
    StopsWithin n c' := by
  obtain ⟨mailbox, accepting, rfl, queue⟩ := l.frame
  intro alive
  obtain ⟨ahead, behind, hq, bound⟩ := h alive
  rcases queue with queue | queue
  · exact ⟨ahead, behind, queue.trans hq, bound⟩
  · exact ⟨ahead, behind ++ [w.command], by rw [queue, hq]; simp, bound⟩

/-! ## Missed flushes -/

/-- The worker misses the flush with this ticket: it has not come to its marker, and the marker of a
shutdown comes first. -/
def Misses (ticket : Ticket) (c : Controller) : Prop :=
  ticket ∉ c.acknowledged ∧ (c.phase.alive = true →
    ∃ ahead behind, c.mailbox.queue = ahead ++ .stop :: behind ∧ Command.flush ticket ∉ ahead)

/-- More entries behind do not matter. -/
theorem Misses.grow (h : Misses ticket c) (phase : c'.phase = c.phase)
    (acknowledged : c'.acknowledged = c.acknowledged) {more : List Command}
    (queue : c'.mailbox.queue = c.mailbox.queue ++ more) : Misses ticket c' := by
  refine ⟨by rw [acknowledged]; exact h.1, ?_⟩
  intro alive
  obtain ⟨ahead, behind, hq, missing⟩ := h.2 (phase ▸ alive)
  exact ⟨ahead, behind ++ more, by rw [queue, hq]; simp, missing⟩

theorem Misses.worked (h : Misses ticket c) (w : Worked c c') : Misses ticket c' := by
  obtain ⟨ahead, behind, queue, missing⟩ := h.2 w.alive
  cases w.towardStop queue with
  | ends finished acknowledged =>
    exact ⟨by rw [acknowledged]; exact h.1, fun alive => by cases finished.symm.trans alive⟩
  | starts fresh running same acknowledged =>
    exact ⟨by rw [acknowledged]; exact h.1, fun _ => ⟨ahead, behind, same.trans queue, missing⟩⟩
  | @takes x rest behind' first running left acknowledged =>
    rw [first] at missing
    refine ⟨?_, fun _ => ⟨rest, behind', left, fun later =>
      missing (List.mem_cons_of_mem _ later)⟩⟩
    rw [acknowledged, List.mem_append, not_or]
    refine ⟨h.1, ?_⟩
    -- the entry that was taken out is not the marker
    cases x with
    | flush t =>
      intro same
      rw [List.mem_singleton.1 same] at missing
      exact missing List.mem_cons_self
    | item | stop => exact List.not_mem_nil

theorem Misses.looked (h : Misses ticket c) (l : Looked c w outcome c') : Misses ticket c' := by
  obtain ⟨mailbox, accepting, rfl, queue | queue⟩ := l.frame
  · exact h.grow rfl rfl (queue.trans (List.append_nil _).symm)
  · exact h.grow rfl rfl queue

/-- A flush that is missed is missed for good. -/
theorem Misses.move (h : Misses ticket c) (m : Move c c') : Misses ticket c' := by
  cases m with
  | submit scope s => exact submit_keep h (fun _ _ => h.grow rfl rfl rfl) scope s
  | poll w => exact h.looked (looked_poll c w)
  | cancel w =>
    obtain ⟨mailbox, frame, queue⟩ := cancel_frame c w
    rw [frame]
    exact h.grow rfl rfl (queue.trans (List.append_nil _).symm)
  | work hw => exact h.worked (worked_of_step? hw)
  | openCall | setDevices | decline | letGo => exact h

theorem Misses.length_pos (h : Misses ticket c) (alive : c.phase.alive = true) :
    0 < c.mailbox.queue.length := by
  obtain ⟨ahead, behind, queue, _⟩ := h.2 alive
  rw [queue, List.length_append, List.length_cons]
  omega

/-- The entries ahead of the marker of the shutdown are fewer than all. -/
theorem Misses.stopsWithin {n : Nat} (h : Misses ticket c) (bound : c.mailbox.queue.length < n) :
    StopsWithin n c := by
  intro alive
  obtain ⟨ahead, behind, queue, _⟩ := h.2 alive
  rw [queue, List.length_append, List.length_cons] at bound
  exact ⟨ahead, behind, queue, by split <;> omega⟩

/-! ## What such a flush answers -/

theorem answer_of_settle (missing : w.ticket ∉ c.acknowledged) (kind : w.kind = .flush)
    {r : Except RouteError Unit} (finished : (c.settle w).value = .done r) :
    r = .error .workerStopped := by
  rw [value_settle_flush c kind, if_neg missing] at finished
  split at finished <;> cases finished
  rfl

/-- It never answers that it went through. -/
theorem Misses.answer (h : Misses w.ticket c) (kind : w.kind = .flush) (l : Looked c w outcome c')
    {r : Except RouteError Unit} (finished : outcome = .done r) : r = .error .workerStopped := by
  cases l with
  | late | refused =>
    cases finished
    rfl
  | waits => cases finished
  | entered =>
    refine answer_of_settle (w := { w with stage := .entered }) ?_ kind finished
    exact h.1
  | settled => exact answer_of_settle h.1 kind finished

/-- Once the worker has ended it fails at the next look. -/
theorem Misses.answer_of_ended (h : Misses w.ticket c) (kind : w.kind = .flush) (closes : Closes c)
    (finished : c.phase.alive = false) (l : Looked c w outcome c') :
    outcome = .done (.error .workerStopped) := by
  have closed : c.mailbox.closed = true := by rw [closes.closed, finished]; rfl
  cases l with
  | late | refused => rfl
  | entered _ _ opened | waits _ _ opened => cases closed.symm.trans opened
  | settled =>
    rw [value_settle_flush c kind, if_neg h.1, closes.empty finished]
    rfl

theorem ended_of_settle (kind : w.kind = .shutdown)
    (finished : (c.settle w).value = .done (.ok ())) :
    c.phase.alive = false := by
  rw [value_settle_shutdown c kind] at finished
  split at finished
  · cases finished
  · rename_i ended
    simpa using ended

/-- A shutdown is over, without an error, only when the worker has ended. -/
theorem Looked.ended_of_shutdown (l : Looked c w outcome c') (kind : w.kind = .shutdown)
    (finished : outcome = .done (.ok ())) : c.phase.alive = false := by
  cases l with
  | late | refused | waits => cases finished
  | entered =>
    have ended := ended_of_settle (w := { w with stage := .entered }) kind finished
    exact ended
  | settled => exact ended_of_settle kind finished

/-! ## Missed flushes that are seen through -/

variable {fuel : Nat}

/-- A missed flush that is seen through fails at the first look once the worker has ended. -/
theorem Misses.complete_of_ended (h : Misses w.ticket c) (kind : w.kind = .flush)
    (closes : Closes c) (finished : c.phase.alive = false) (workerFuel : Nat) (looks : 0 < fuel) :
    (c.complete workerFuel fuel w).value.1 = some (.error .workerStopped) := by
  cases fuel with
  | zero => cases looks
  | succ fuel => rw [complete_of_done (h.answer_of_ended kind closes finished (looked_poll c w))]

/-- Otherwise it fails at the second look at the latest, if the worker is given the steps to end in
between. -/
theorem Misses.complete_of_stopsWithin (h : Misses w.ticket c) (kind : w.kind = .flush)
    (closes : Closes c) {workerFuel : Nat} (stops : StopsWithin workerFuel c) (looks : 1 < fuel) :
    (c.complete workerFuel fuel w).value.1 = some (.error .workerStopped) := by
  obtain ⟨fuel, rfl⟩ : ∃ n, fuel = n + 1 := Nat.exists_eq_succ_of_ne_zero (Nat.ne_zero_of_lt looks)
  have looked := looked_poll c w
  cases look : (c.poll w).value.1 with
  | done r => rw [complete_of_done look, h.answer kind looked look]
  | pending w' =>
    rw [complete_of_pending look]
    obtain ⟨stage, rfl⟩ := pending_poll look
    have moves := drive_moves workerFuel (c.poll w).value.2
    -- in between the worker ends, and the flush is still missed
    exact complete_of_ended (w := { w with stage }) (moves.keep Misses.move (h.looked looked)) kind
      (moves.keep Closes.move (closes.looked looked)) (drive_ends (stops.looked looked)) workerFuel
      (Nat.lt_of_succ_lt_succ looks)

end CallAudio.Controller
