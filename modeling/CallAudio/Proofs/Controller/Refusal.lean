import CallAudio.Proofs.Controller.Barrier
import CallAudio.Proofs.Controller.Placed
import CallAudio.Proofs.Submits

/-!
Refusals for good. Whether a controller runs is the one thing that a permanent error tells of, whoever
is given it: a submission from outside or from within the worker, or a call that waits. None of these
errors is taken back.
-/

namespace CallAudio

variable {c c' : Controller} {w : WaitingCall} {e : RouteError}

namespace Controller

/-! ## Submissions -/

theorem submit_eq_workerStopped_iff (c : Controller) (scope : Log.Scope) (s : Submission) :
    (c.submit scope s).value.1 = .error .workerStopped ↔ c.isRunning = false := by
  constructor
  · intro refused
    rw [submit, value_enqueue] at refused
    split at refused
    · split at refused <;> cases refused
    · rename_i stopped
      exact Bool.eq_false_iff.2 stopped
  · intro stopped
    rw [submit_of_not_running stopped]

/-- The only other error is a full queue, which a running controller answers. -/
theorem submit_error {scope : Log.Scope} {s : Submission}
    (refused : (c.submit scope s).value.1 = .error e) :
    e = .workerStopped ∧ c.isRunning = false ∨
      (∃ name, e = .queueFull name) ∧ c.isRunning = true := by
  rw [submit, value_enqueue] at refused
  split at refused
  · rename_i running
    split at refused
    · cases refused
    · cases refused
      exact .inr ⟨⟨_, rfl⟩, running⟩
  · rename_i stopped
    cases refused
    exact .inl ⟨rfl, Bool.eq_false_iff.2 stopped⟩

theorem Effects.isRunning (h : Effects c c') : c'.isRunning = c.isRunning := by
  obtain ⟨_, _, _, _, frame⟩ := h.frame
  rw [frame]
  rfl

@[simp] theorem isRunning_note (c : Controller) (item : Item) :
    (c.note item).isRunning = c.isRunning := by
  cases item <;> rfl

theorem isRunning_of_take? {mailbox : Mailbox Command} {x : Command}
    (took : c.mailbox.take? = some (x, mailbox)) :
    ({ c with mailbox } : Controller).isRunning = c.isRunning := by
  rw [isRunning, isRunning, Mailbox.closed_of_take? took]

/-- An item that is being processed finds the controller running or not as it was before. -/
theorem Found.isRunning (h : Found c c') : c'.isRunning = c.isRunning := by
  cases h with
  | between => rfl
  | within running took carried =>
    rw [carried.isRunning, isRunning_note, isRunning_of_take? took]

theorem isRunning_submit (c : Controller) (scope : Log.Scope) (s : Submission) :
    (c.submit scope s).value.2.isRunning = c.isRunning :=
  Effects.isRunning (.single (.submit c scope s))

theorem isRunning_of_submits (h : Submits c c') : c'.isRunning = c.isRunning := by
  induction h with
  | refl => rfl
  | tail _ next ih =>
    obtain ⟨scope, s, -, rfl⟩ := next
    exact (isRunning_submit _ scope s).trans ih

/-- What an error among several submissions tells. -/
theorem error_of_fails (h : Submits.Fails e c c') :
    e = .workerStopped ∧ c'.isRunning = false ∨
      (∃ name, e = .queueFull name) ∧ c.isRunning = true := by
  obtain ⟨m, scope, s, before, refused, after⟩ := h
  have last : c'.isRunning = m.isRunning :=
    (isRunning_of_submits after).trans (isRunning_submit m scope s)
  rw [last, ← isRunning_of_submits before]
  exact submit_error refused

/-! ## Waiting calls -/

/-- A call that is first looked at once the controller has stopped fails at once. -/
theorem poll_of_not_running (stopped : c.isRunning = false) (first : w.stage = .fresh) :
    (c.poll w).value.1 = .done (.error .workerStopped) := by
  have refused (c : Controller) (closed : c.mailbox.closed = true) :
      (c.tryEnter w).value.1 = .done (.error .workerStopped) := by
    simp only [tryEnter, Mailbox.enter, closed, if_true]
    rfl
  cases accepting : c.accepting with
  | false => rw [poll_of_late first accepting]
  | true =>
    have closed : c.mailbox.closed = true := by simpa [isRunning, accepting] using stopped
    rw [poll, first]
    simp only [accepting, if_true]
    split
    · exact refused c closed
    · exact refused { c with accepting := false } closed

/-- A call fails only when the controller has stopped. -/
theorem Looked.failed_for_good {outcome : WaitingCall.Outcome} (l : Looked c w outcome c')
    (closes : Closes c) (marked : w.kind = .flush → w.stage = .entered → c.phase.alive = true →
      w.ticket ∈ c.markers) (finished : outcome = .done (.error e)) :
    e = .workerStopped ∧ c'.isRunning = false := by
  cases kind : w.kind with
  | flush => exact l.failed kind closes (marked kind) finished
  | shutdown =>
    have settles {d : Controller} {x : WaitingCall} (kind : x.kind = .shutdown) :
        (d.settle x).value ≠ .done (.error e) := by
      rw [value_settle_shutdown d kind]
      split <;> simp
    cases l with
    | late _ shut =>
      cases finished
      exact ⟨rfl, isRunning_of_not_accepting shut⟩
    | refused _ _ _ shut =>
      cases finished
      exact ⟨rfl, isRunning_of_closed shut⟩
    | waits => cases finished
    | entered => exact absurd finished (settles (x := { w with stage := .entered }) kind)
    | settled => exact absurd finished (settles kind)

/-- The controller has stopped: it refuses every submission and every call that is first looked at,
and for good. -/
structure Stopped (c : Controller) : Prop where
  isRunning : c.isRunning = false
  submit : ∀ scope s, (c.submit scope s).value = (.error .workerStopped, c)
  poll : ∀ w : WaitingCall, w.stage = .fresh → (c.poll w).value.1 = .done (.error .workerStopped)

theorem stopped_of_not_running (stopped : c.isRunning = false) : c.Stopped :=
  ⟨stopped, submit_of_not_running stopped, fun _ first => poll_of_not_running stopped first⟩

/-! ## Submissions from within the worker -/

/-- A permanent error among the replies to actions tells that the controller has stopped. -/
def Told (c : Controller) : Prop :=
  ∀ e, Reply.outcome (.error e) ∈ c.effects → e.isTransient = false → c.isRunning = false

theorem Told.of_eq (h : Told c) (effects : c'.effects = c.effects)
    (stays : c.isRunning = false → c'.isRunning = false) : Told c' := by
  intro e told permanent
  rw [effects] at told
  exact stays (h e told permanent)

theorem Told.reply (h : Told c) {r : Reply}
    (tells : ∀ e, r = .outcome (.error e) → e.isTransient = false → c.isRunning = false) :
    Told (c.reply r) := by
  intro e told permanent
  rcases List.mem_append.1 told with before | now
  · exact h e before permanent
  · exact tells e (List.mem_singleton.1 now).symm permanent

theorem effects_submit (c : Controller) (scope : Log.Scope) (s : Submission) :
    (c.submit scope s).value.2.effects = c.effects :=
  submit_keep (P := fun d => d.effects = c.effects) rfl (fun _ _ => rfl) scope s

theorem Told.resubmit (h : Told c) (ctx : Context) (s : Submission) :
    Told (c.resubmit ctx s).value := by
  unfold Controller.resubmit
  split
  · have same := isRunning_submit c [ctx.place] s
    have before : Told (c.submit [ctx.place] s).value.2 :=
      h.of_eq (effects_submit c _ s) (fun stopped => same.trans stopped)
    refine before.reply fun e refused permanent => ?_
    cases answer : (c.submit [ctx.place] s).value.1 with
    | ok => simp [answer] at refused
    | error e' =>
      rw [answer] at refused
      cases refused
      rw [same]
      rcases submit_error answer with ⟨_, stopped⟩ | ⟨⟨name, rfl⟩, _⟩
      · exact stopped
      · cases permanent
  · exact h.reply nofun

/-- An operation of the arbiter submits nothing. -/
theorem perform_ne_outcome (s : AudioSystem) (op : AudioSystem.Operation)
    (r : Except RouteError Unit) : (s.perform op).value.1 ≠ .outcome r := by
  cases op with
  | requestBluetooth address => cases address <;> exact nofun
  | _ => exact nofun

theorem Told.script (ctx : Context) (h : Told c) (actions : List Action) :
    Told (script ctx c actions).value.2 := by
  refine KeptByActions.script ⟨?operate, ?edit, ?resubmit⟩ h actions
  case operate =>
    intro c h op
    have kept : Told { c with system := (c.system.perform op).value.2 } := h.of_eq rfl id
    exact kept.reply fun e told => absurd told (perform_ne_outcome _ _ _)
  case edit =>
    intro c h change
    unfold Controller.edit
    split
    · exact h
    · exact h.of_eq rfl id
  case resubmit => exact fun h s => h.resubmit ctx s

theorem Told.execute (h : Told c) (item : Item) : Told (c.execute item).value.2 := by
  cases item with
  | message m =>
    have noted : Told { c with machine := c.machine.record m } := h.of_eq rfl id
    exact noted.script _ _
  | task work session =>
    cases work with
    | clearActive => exact h.of_eq rfl id
    | script actions => exact h.script _ actions

theorem Told.process (h : Told c) (item : Item) : Told (c.process item).value := by
  have carried := h.execute item
  rw [value_process]
  rcases publish_cases ((c.execute item).value.2.count item) with ⟨_, hp⟩ | ⟨_, hp⟩ <;> rw [hp]
  · exact carried.of_eq rfl id
  · exact carried.of_eq rfl fun _ => isRunning_of_closed rfl

theorem Told.worked (h : Told c) (w : Worked c c') : Told c' := by
  cases w with
  | started => exact h.of_eq rfl id
  | abandoned => exact h.of_eq rfl fun _ => isRunning_of_closed rfl
  | stopped => exact h.of_eq rfl fun _ => isRunning_of_closed rfl
  | @processed _ item mailbox took =>
    have taken : Told { c with mailbox } :=
      h.of_eq rfl fun stopped => (isRunning_of_take? took).trans stopped
    exact taken.process item
  | @acknowledged _ _ mailbox took =>
    exact h.of_eq rfl fun stopped => (isRunning_of_take? took).trans stopped

theorem Told.move (h : Told c) (closes : Closes c) (m : Move c c') : Told c' := by
  have stays := m.not_running closes
  cases m with
  | submit scope s => exact h.of_eq (effects_submit c scope s) stays
  | poll w =>
    obtain ⟨_, _, frame, _⟩ := poll_frame c w
    exact h.of_eq (by rw [frame]) stays
  | cancel w =>
    obtain ⟨_, frame, _⟩ := cancel_frame c w
    exact h.of_eq (by rw [frame]) stays
  | work hw => exact h.worked (worked_of_step? hw)
  | openCall | setDevices | decline | letGo => exact h.of_eq rfl id

end Controller

end CallAudio
