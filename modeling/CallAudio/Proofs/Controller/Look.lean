import CallAudio.Controller.WaitingCall

/-!
What looking at a waiting call does: the first look comes too late, or the call puts its entry into
the mailbox, waits for a place or is refused; once its entry is in, it is over or not yet over. A call
that is seen through is looked at until it is over, or until the bound runs out.
-/

namespace CallAudio

namespace WaitingCall

/-- The call that a look leaves open. -/
def Outcome.left? : Outcome → Option WaitingCall
  | pending w => some w
  | done _ => none

@[simp] theorem Outcome.left?_pending (w : WaitingCall) : (pending w).left? = some w := rfl

@[simp] theorem Outcome.left?_done (answer : Except RouteError Unit) :
    (done answer).left? = none := rfl

/-- Whether the next look at the call is the one that begins a shutdown. -/
def begins (w : WaitingCall) : Bool :=
  w.kind = .shutdown ∧ w.stage = .fresh

theorem item?_command (w : WaitingCall) : w.command.item? = none := by
  unfold command
  split <;> rfl

theorem kind_of_command_eq_stop {w : WaitingCall} (h : w.command = .stop) :
    w.kind = .shutdown := by
  cases kind : w.kind with
  | flush => simp [command, kind] at h
  | shutdown => rfl

end WaitingCall

namespace Mailbox

variable {α : Type}

/-- A mailbox that a sender looked at: a closed one refuses, any other takes the entry in last or
has the sender wait. -/
inductive Entering (m : Mailbox α) (x : α) : Progress → Mailbox α → Prop
  | refused (closed : m.closed = true) {m' : Mailbox α} (queue : m'.queue = m.queue)
      (shut : m'.closed = true) : Entering m x .refused m'
  | entered (opened : m.closed = false) {m' : Mailbox α} (queue : m'.queue = m.queue ++ [x])
      (still : m'.closed = false) : Entering m x .entered m'
  | waits (opened : m.closed = false) {m' : Mailbox α} (queue : m'.queue = m.queue)
      (still : m'.closed = false) : Entering m x .waiting m'

theorem closed_grant (m : Mailbox α) : m.grant.closed = m.closed := by
  unfold grant
  split
  · rfl
  · split <;> rfl

theorem closed_withdraw (m : Mailbox α) (t : Ticket) : (m.withdraw t).closed = m.closed :=
  closed_grant _

theorem queue_of_take?_none {m : Mailbox α} (h : m.take? = none) : m.queue = [] := by
  unfold take? at h
  split at h
  · assumption
  · cases h

theorem suffix_of_take? {m m' : Mailbox α} {x : α} (h : m.take? = some (x, m')) :
    m'.queue <:+ m.queue := by
  rw [queue_of_take? h]
  exact List.suffix_cons x m'.queue

theorem closed_of_take? {m m' : Mailbox α} {x : α} (h : m.take? = some (x, m')) :
    m'.closed = m.closed := by
  unfold take? at h
  split at h
  · cases h
  · cases h
    exact closed_grant _

theorem entering_enter (m : Mailbox α) (t : Ticket) (x : α) :
    Entering m x (m.enter t x).1 (m.enter t x).2 := by
  unfold enter
  split
  · rename_i closed
    exact .refused closed (queue_withdraw m t) ((closed_withdraw m t).trans closed)
  · rename_i opened
    rw [Bool.not_eq_true] at opened
    split
    · exact .entered opened rfl opened
    · split
      · exact .waits opened rfl opened
      · split
        · exact .entered opened rfl opened
        · exact .waits opened rfl opened

end Mailbox

namespace Controller

theorem value_settle_flush (c : Controller) {w : WaitingCall} (kind : w.kind = .flush) :
    (c.settle w).value =
      if w.ticket ∈ c.acknowledged then .done (.ok ())
      else if c.mailbox.queue.any (Command.isFlush w.ticket) then .pending w
      else .done (.error .workerStopped) := by
  simp only [settle, kind]
  split
  · rfl
  · split <;> rfl

theorem value_settle_shutdown (c : Controller) {w : WaitingCall} (kind : w.kind = .shutdown) :
    (c.settle w).value = if c.phase.alive then .pending w else .done (.ok ()) := by
  simp only [settle, kind]
  split <;> rename_i h <;> simp [h, Phase.alive]

/-- A call whose entry is in stays as it is until it is over. -/
theorem left?_settle {c : Controller} {w w' : WaitingCall}
    (h : (c.settle w).value.left? = some w') : w' = w := by
  cases kind : w.kind with
  | flush =>
    rw [value_settle_flush c kind] at h
    split at h
    · cases h
    · split at h <;> cases h
      rfl
  | shutdown =>
    rw [value_settle_shutdown c kind] at h
    split at h <;> cases h
    rfl

/-- What a look at a call does. It answers, and leaves, what `settle` does once the entry is in. -/
inductive Looked (c : Controller) (w : WaitingCall) : WaitingCall.Outcome → Controller → Prop
  /-- The first look comes after a shutdown has begun. -/
  | late (first : w.stage = .fresh) (shut : c.accepting = false) :
      Looked c w (.done (.error .workerStopped)) c
  | refused {mailbox : Mailbox Command} (accepting : Bool) (closed : c.mailbox.closed = true)
      (queue : mailbox.queue = c.mailbox.queue) (shut : mailbox.closed = true) :
      Looked c w (.done (.error .workerStopped)) { c with mailbox, accepting }
  | entered {mailbox : Mailbox Command} (accepting : Bool) (outside : w.stage ≠ .entered)
      (opened : c.mailbox.closed = false) (queue : mailbox.queue = c.mailbox.queue ++ [w.command])
      (still : mailbox.closed = false) :
      Looked c w ({ c with mailbox, accepting }.settle { w with stage := .entered }).value
        { c with mailbox, accepting }
  | waits {mailbox : Mailbox Command} (accepting : Bool) (outside : w.stage ≠ .entered)
      (opened : c.mailbox.closed = false) (queue : mailbox.queue = c.mailbox.queue)
      (still : mailbox.closed = false) :
      Looked c w (.pending { w with stage := .waiting }) { c with mailbox, accepting }
  | settled (inside : w.stage = .entered) : Looked c w (c.settle w).value c

theorem looked_tryEnter (c : Controller) (accepting : Bool) {w : WaitingCall}
    (outside : w.stage ≠ .entered) :
    Looked c w ({ c with accepting }.tryEnter w).value.1
      ({ c with accepting }.tryEnter w).value.2 := by
  have entering := Mailbox.entering_enter c.mailbox w.ticket w.command
  unfold tryEnter
  split <;> rename_i h <;> rw [show c.mailbox.enter w.ticket w.command = _ from h] at entering
  · obtain _ | ⟨opened, queue, still⟩ := entering
    exact .entered accepting outside opened queue still
  · obtain _ | _ | ⟨opened, queue, still⟩ := entering
    exact .waits accepting outside opened queue still
  · obtain ⟨closed, queue, shut⟩ := entering
    exact .refused accepting closed queue shut

theorem looked_poll (c : Controller) (w : WaitingCall) :
    Looked c w (c.poll w).value.1 (c.poll w).value.2 := by
  unfold poll
  split
  · rename_i fresh
    have outside : w.stage ≠ .entered := by simp [fresh]
    split
    · split
      · exact looked_tryEnter c c.accepting outside
      · exact looked_tryEnter c false outside
    · rename_i shut
      exact .late fresh (by simpa using shut)
  · rename_i waiting
    exact looked_tryEnter c c.accepting (by simp [waiting])
  · rename_i entered
    exact .settled entered

/-- A look ends the taking of submissions if it begins a shutdown. -/
theorem accepting_poll (c : Controller) (w : WaitingCall) :
    (c.poll w).value.2.accepting = (c.accepting && !w.begins) := by
  have kept (c : Controller) : (c.tryEnter w).value.2.accepting = c.accepting := by
    unfold tryEnter
    split <;> rfl
  unfold poll WaitingCall.begins
  split <;> rename_i stage
  · split <;> rename_i accepting
    · split <;> rename_i kind <;> simp [kept, kind, stage]
    · simp [accepting]
  · simp [kept, stage]
  · simp [stage]

variable {c c' : Controller} {w : WaitingCall} {outcome : WaitingCall.Outcome}

/-- A call that stays open is the same call, perhaps further on. -/
theorem Looked.left? (h : Looked c w outcome c') {w' : WaitingCall}
    (left : outcome.left? = some w') : ∃ stage, w' = { w with stage } := by
  cases h with
  | late | refused => cases left
  | entered => exact ⟨.entered, left?_settle left⟩
  | waits =>
    cases left
    exact ⟨.waiting, rfl⟩
  | settled => exact ⟨w.stage, left?_settle left⟩

/-- A look touches the mailbox and, when a shutdown begins, the taking of submissions; the queue
gains the entry of the call, if anything. -/
theorem Looked.frame (h : Looked c w outcome c') :
    ∃ mailbox accepting, c' = { c with mailbox, accepting } ∧
      (mailbox.queue = c.mailbox.queue ∨ mailbox.queue = c.mailbox.queue ++ [w.command]) := by
  cases h with
  | late | settled => exact ⟨c.mailbox, c.accepting, rfl, .inl rfl⟩
  | refused accepting _ queue => exact ⟨_, accepting, rfl, .inl queue⟩
  | entered accepting _ _ queue => exact ⟨_, accepting, rfl, .inr queue⟩
  | waits accepting _ _ queue => exact ⟨_, accepting, rfl, .inl queue⟩

theorem poll_frame (c : Controller) (w : WaitingCall) :
    ∃ mailbox accepting, (c.poll w).value.2 = { c with mailbox, accepting } ∧
      (mailbox.queue = c.mailbox.queue ∨ mailbox.queue = c.mailbox.queue ++ [w.command]) :=
  (looked_poll c w).frame

/-- Giving up a call frees its place in the line, if it has one. -/
theorem cancel_frame (c : Controller) (w : WaitingCall) :
    ∃ mailbox, c.cancel w = { c with mailbox } ∧ mailbox.queue = c.mailbox.queue := by
  unfold cancel
  split
  · exact ⟨_, rfl, Mailbox.queue_withdraw _ _⟩
  · exact ⟨c.mailbox, rfl, rfl⟩
  · exact ⟨c.mailbox, rfl, rfl⟩

theorem closed_cancel (c : Controller) (w : WaitingCall) :
    (c.cancel w).mailbox.closed = c.mailbox.closed := by
  unfold cancel
  split
  · exact Mailbox.closed_withdraw _ _
  · rfl
  · rfl

/-! ## Calls that are seen through -/

theorem complete_of_done {workerFuel fuel : Nat} {r : Except RouteError Unit}
    (h : (c.poll w).value.1 = .done r) :
    (c.complete workerFuel (fuel + 1) w).value = (some r, (c.poll w).value.2) := by
  simp only [complete, Log.Logged.value_bind, h, Log.Logged.value_pure]

theorem complete_of_pending {workerFuel fuel : Nat} {w' : WaitingCall}
    (h : (c.poll w).value.1 = .pending w') :
    (c.complete workerFuel (fuel + 1) w).value =
      (((c.poll w).value.2.drive workerFuel).value.complete workerFuel fuel w').value := by
  simp only [complete, Log.Logged.value_bind, h]

theorem pending_poll {w' : WaitingCall} (h : (c.poll w).value.1 = .pending w') :
    ∃ stage, w' = { w with stage } :=
  (looked_poll c w).left? (by rw [h]; rfl)

/-- What is left of a call that is seen through: nothing if it is over, and else the call as the last
look that the bound allows leaves it. -/
def leftOpen (workerFuel : Nat) : Nat → Controller → WaitingCall → Option WaitingCall
  | 0, _, w => some w
  | fuel + 1, c, w =>
    let looked := (c.poll w).value
    looked.1.left?.bind (leftOpen workerFuel fuel (looked.2.drive workerFuel).value)

theorem leftOpen_of_done {workerFuel fuel : Nat} {r : Except RouteError Unit}
    (h : (c.poll w).value.1 = .done r) : c.leftOpen workerFuel (fuel + 1) w = none := by
  simp only [leftOpen, h, WaitingCall.Outcome.left?_done, Option.bind_none]

theorem leftOpen_of_pending {workerFuel fuel : Nat} {w' : WaitingCall}
    (h : (c.poll w).value.1 = .pending w') :
    c.leftOpen workerFuel (fuel + 1) w =
      ((c.poll w).value.2.drive workerFuel).value.leftOpen workerFuel fuel w' := by
  simp only [leftOpen, h, WaitingCall.Outcome.left?_pending, Option.bind_some]

end Controller

end CallAudio
