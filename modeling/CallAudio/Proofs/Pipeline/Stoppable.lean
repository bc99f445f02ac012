import CallAudio.Proofs.Controller.Stoppable

/-!
How the worker of a pipeline may yet be stopped. A controller that refuses submissions while its
worker is alive is about to stop, unless somebody has given up a shutdown that was waiting to put
its marker in: from then on nobody can stop the worker any more.
-/

namespace CallAudio.Pipeline

variable {setup : Setup} {past : List Turn} {p : Pipeline}

/-- The calls that were given up on the way. -/
def Turn.givenUp (t : Turn) : List WaitingCall :=
  t.before.givenUp t.fuel t.step

theorem Staged.ways {s : Step} {gone : List WaitingCall} {a a' : Attended}
    (h : Staged s gone a a') (closes : a.controller.Closes)
    (alive : a'.controller.phase.alive = true) :
    a'.ways + gone.countP WaitingCall.waitsToStop = a.ways := by
  obtain ⟨b, d, e, early, left, same, late⟩ := h
  -- the handle that goes is none of the ways
  have onward : Attended.Moves d e ∧ e.ways = d.ways := by
    rcases same with rfl | ⟨_, calls, rfl⟩
    · exact ⟨.refl, rfl⟩
    · obtain ⟨c, none⟩ := d
      cases calls
      exact ⟨.single (.letGo c), rfl⟩
  have going : Attended.Moves b e := left.moves.trans onward.1
  have whole : Attended.Moves a e := early.moves.trans going
  have rest : Attended.Moves b a' := going.trans late.moves
  have closed := whole.controller.keep Controller.Closes.move closes
  have first := early.ways closes (rest.controller.alive alive)
  have last := late.ways closed alive
  rw [last, onward.2, left.ways, first]

/-- While the worker is alive there is one way to stop it, unless a shutdown that had this way was
given up. -/
theorem Run.ways (h : Run setup past p) (alive : p.controller.phase.alive = true) :
    p.attended.ways + (past.flatMap Turn.givenUp).countP WaitingCall.waitsToStop = 1 := by
  induction h with
  | start h =>
    obtain ⟨_, published, hp⟩ := begun_of_start h
    rw [hp, attended_begun]
    rfl
  | @step past p h fuel s ih =>
    have before := ih ((Turn.moves ⟨p, fuel, s⟩).alive alive)
    have turn : (Turn.after ⟨p, fuel, s⟩).attended.ways +
        (p.givenUp fuel s).countP WaitingCall.waitsToStop = p.attended.ways := by
      cases changes : s.changesPlatform with
      | false => exact (step_staged changes fuel p).ways h.sound.closes alive
      | true =>
        obtain ⟨system, after⟩ := step_platform changes fuel p
        have keeps : s.givesUp = false := by cases s <;> first | rfl | cases changes
        rw [givenUp_of_keeps keeps]
        show (p.step fuel s).value.2.attended.ways + 0 = _
        rw [after]
        rfl
    rw [List.flatMap_append, List.countP_append, List.flatMap_singleton]
    show _ + (_ + (p.givenUp fuel s).countP WaitingCall.waitsToStop) = 1
    omega

theorem Run.lined (h : Run setup past p) : p.attended.Lined := by
  have both : p.attended.Lined ∧ p.attended.Ticketed := by
    refine h.attends (P := fun a => a.Lined ∧ a.Ticketed) ?_ ?_ ?_
    · intro published
      exact ⟨by simp [Attended.Lined], ticketed_fresh setup published⟩
    · exact fun ⟨lined, ticketed⟩ m => ⟨lined.move ticketed m, ticketed.move m⟩
    · intro _ c calls ⟨lined, ticketed⟩ system
      exact ⟨lined, ticketed.issued, ticketed.distinct, ticketed.known, ticketed.once,
        ticketed.outside⟩
  exact both.1

/-- The call is a shutdown that is still going to put its marker in: it has begun, is open, and has
its place in the line. -/
def StopsLater (p : Pipeline) (w : WaitingCall) : Prop :=
  some w ∈ p.slots ∧ w.kind = .shutdown ∧ w.stage = .waiting ∧ p.controller.mailbox.InLine w.ticket

theorem stop_mem_iff (p : Pipeline) :
    .stop ∈ p.controller.mailbox.queue ↔
      0 < p.controller.mailbox.queue.countP Command.isStop := by
  rw [List.countP_pos_iff]
  constructor
  · exact fun stop => ⟨.stop, stop, rfl⟩
  · rintro ⟨x, hx, stop⟩
    rwa [← Command.isStop_iff.1 stop]

theorem Run.opened (h : Run setup past p) (alive : p.controller.phase.alive = true) :
    p.controller.mailbox.closed = false := by
  have closes : p.controller.Closes := h.sound.closes
  rw [closes.closed, alive]
  rfl

theorem Run.stopsLater_iff (h : Run setup past p) (alive : p.controller.phase.alive = true) :
    (∃ w, p.StopsLater w) ↔ 0 < p.attended.calls.countP WaitingCall.waitsToStop := by
  rw [List.countP_pos_iff]
  constructor
  · rintro ⟨w, slot, kind, stage, _⟩
    exact ⟨w, List.reduceOption_mem_iff.2 slot, WaitingCall.waitsToStop_iff.2 ⟨kind, stage⟩⟩
  · rintro ⟨w, hw, waits⟩
    obtain ⟨kind, stage⟩ := WaitingCall.waitsToStop_iff.1 waits
    exact ⟨w, List.reduceOption_mem_iff.1 hw, kind, stage, h.lined w hw stage (h.opened alive)⟩

/-- Along every run, whenever the controller refuses submissions while its worker is alive:

* the marker of a shutdown is queued, or an open shutdown is in the line to put its marker in, if
  and only if nobody has given up a shutdown that had begun and was waiting;
* such a shutdown puts its marker in as soon as it is looked at with a place that it holds. -/
theorem refusing_worker_stops_iff (h : Run setup past p) (alive : p.controller.phase.alive = true)
    (refuses : p.controller.isRunning = false) :
    ((.stop ∈ p.controller.mailbox.queue ∨ ∃ w, p.StopsLater w) ↔
      ∀ t ∈ past, ∀ w ∈ t.givenUp, ¬(w.kind = .shutdown ∧ w.stage = .waiting)) ∧
    ∀ w, p.StopsLater w → w.ticket ∈ p.controller.mailbox.granted →
      .stop ∈ (p.controller.poll w).value.2.mailbox.queue := by
  have opened := h.opened alive
  refine ⟨?ways, ?enters⟩
  case ways =>
    have shut : p.controller.accepting = false := by
      simpa [Controller.isRunning, opened] using refuses
    have one := h.ways alive
    rw [Attended.ways, show p.attended.controller = p.controller from rfl, shut] at one
    have none : (past.flatMap Turn.givenUp).countP WaitingCall.waitsToStop = 0 ↔
        ∀ t ∈ past, ∀ w ∈ t.givenUp, ¬(w.kind = .shutdown ∧ w.stage = .waiting) := by
      simp only [List.countP_eq_zero, List.mem_flatMap, WaitingCall.waitsToStop_iff]
      constructor
      · exact fun all t ht w hw => all w ⟨t, ht, hw⟩
      · rintro all w ⟨t, ht, hw⟩
        exact all t ht w hw
    rw [← none, stop_mem_iff, h.stopsLater_iff alive]
    simp only [Bool.toNat_false] at one
    omega
  case enters =>
    rintro w ⟨_, kind, stage, _⟩ granted
    have tries : p.controller.poll w = p.controller.tryEnter w := by
      rw [Controller.poll, stage]
    have marker : w.command = .stop := by rw [WaitingCall.command, kind]
    rw [tries, (Controller.mailbox_tryEnter _ w).1,
      Mailbox.queue_enter_of_granted opened granted, marker]
    exact List.mem_concat_self

/-- A mailbox of one place, which a message takes. -/
def crowded : Setup :=
  { config := { queueCapacity := 1 } }

/-- A shutdown has to wait for the message to be processed, and then holds the place. -/
def queueing : List Step :=
  [.send (.message .muteOn), .begin .shutdown, .drive]

/-- The same, but the shutdown is given up while it waits. -/
def givingUp : List Step :=
  [.send (.message .muteOn), .begin .shutdown, .cancel 0, .drive]

/-- The shutdown that waits is going to stop the worker. -/
theorem queueing_stops_later :
    ∃ past p, Run crowded past p ∧ past.map Turn.step = queueing ∧
      p.controller.phase.alive = true ∧ p.controller.isRunning = false ∧
      (.stop ∈ p.controller.mailbox.queue ∨ ∃ w, p.StopsLater w) ∧
      .stop ∈ (p.controller.poll ⟨.shutdown, 0, .waiting⟩).value.2.mailbox.queue := by
  have valid : crowded.config.validate = .ok () := validate_eq_ok_iff.2 (by decide)
  have run := @Run.ofSteps crowded { machineDump := "recorded 0 messages" } valid (by decide)
    rfl 4 queueing
  obtain ⟨ways, enters⟩ := refusing_worker_stops_iff run rfl rfl
  have none : ((begun crowded { machineDump := "recorded 0 messages" }).turns 4 queueing).flatMap
      Turn.givenUp = [] := rfl
  refine ⟨_, _, run, rfl, rfl, rfl, ways.2 ?_,
    enters _ ⟨List.mem_cons_self, rfl, rfl, .inr List.mem_cons_self⟩ List.mem_cons_self⟩
  intro t ht w hw
  have given := List.mem_flatMap.2 ⟨t, ht, hw⟩
  rw [none] at given
  cases given

/-- Nobody is going to stop the worker that a shutdown was given up on, though the controller
refuses submissions for good. -/
theorem givingUp_leaves_live_worker :
    ∃ past p, Run crowded past p ∧ past.map Turn.step = givingUp ∧
      p.controller.phase.alive = true ∧ p.controller.step? = none ∧
      p.controller.isRunning = false ∧
      (p.controller.submit [] (.message .muteOff)).value.1 = .error .workerStopped ∧
      p.controller.mailbox.queue = [] ∧ ∀ w, some w ∉ p.slots := by
  have valid : crowded.config.validate = .ok () := validate_eq_ok_iff.2 (by decide)
  have run := @Run.ofSteps crowded { machineDump := "recorded 0 messages" } valid (by decide)
    rfl 4 givingUp
  refine ⟨_, _, run, rfl, rfl, rfl, rfl, rfl, rfl, ?_⟩
  intro w hw
  cases List.mem_singleton.1 hw

end CallAudio.Pipeline
