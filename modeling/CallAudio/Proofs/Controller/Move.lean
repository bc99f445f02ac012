import CallAudio.Arbiter.Run
import CallAudio.Proofs.Controller.Effect
import CallAudio.Proofs.Controller.Look

/-!
Everything that can happen to a controller, one kind of move at a time: a submission, a call that is
opened, looked at or given up, one step of the worker, a change of the platform, the last handle
given up. Every step of a pipeline is a sequence of such moves.
-/

namespace CallAudio.Controller

open Log (Logged Scope)

/-! ## The worker -/

/-- The controller once its worker has ended in order. -/
def ended (c : Controller) : Controller :=
  { c with phase := .stopped, mailbox := c.mailbox.close }

/-- What one step of the worker does. -/
inductive Worked (c : Controller) : Controller → Prop
  | started (fresh : c.phase = .fresh) : Worked c { c with phase := .running }
  | abandoned (running : c.phase = .running) (empty : c.mailbox.take? = none)
      (dropped : c.held = false) : Worked c c.ended
  | processed (running : c.phase = .running) {item : Item} {mailbox : Mailbox Command}
      (took : c.mailbox.take? = some (.item item, mailbox)) :
      Worked c ({ c with mailbox }.process item).value
  | acknowledged (running : c.phase = .running) {ticket : Ticket} {mailbox : Mailbox Command}
      (took : c.mailbox.take? = some (.flush ticket, mailbox)) :
      Worked c { c with mailbox, acknowledged := c.acknowledged ++ [ticket] }
  | stopped (running : c.phase = .running) {mailbox : Mailbox Command}
      (took : c.mailbox.take? = some (.stop, mailbox)) : Worked c (ended { c with mailbox })

theorem worked_of_step? {c : Controller} {next : Logged Controller} (h : c.step? = some next) :
    Worked c next.value := by
  unfold step? at h
  split at h
  · rename_i fresh
    cases h
    exact .started fresh
  · rename_i running
    split at h
    · rename_i empty
      split at h
      · cases h
      · rename_i dropped
        cases h
        exact .abandoned running empty (by simpa using dropped)
    · rename_i took
      cases h
      exact .processed running took
    · rename_i took
      cases h
      exact .acknowledged running took
    · rename_i took
      cases h
      exact .stopped running took
  · cases h
  · cases h

/-- A worker that is idle has ended, or has taken out everything. -/
theorem idle_cases {c : Controller} (idle : c.step? = none) :
    c.phase.alive = false ∨ c.phase = .running ∧ c.mailbox.queue = [] ∧ c.held = true := by
  unfold step? at idle
  split at idle
  · cases idle
  · rename_i running
    split at idle
    · rename_i empty
      split at idle
      · rename_i held
        exact .inr ⟨running, Mailbox.queue_of_take?_none empty, held⟩
      · cases idle
    all_goals cases idle
  all_goals
    rename_i ended
    rw [ended]
    exact .inl rfl

/-- Processing an item: it is noted and carried out, counted, and a snapshot is published. -/
theorem value_process (c : Controller) (item : Item) :
    (c.process item).value = ((c.execute item).value.2.count item).publish := by
  simp only [process, Log.Logged.value_bind, Log.Logged.value_within]
  split <;> rfl

/-- A snapshot is published, or the worker ends over it. -/
theorem publish_cases (c : Controller) :
    (∃ published, c.publish = { c with published, version := c.version + 1 }) ∨
      ∃ cause, c.publish = { c with phase := .crashed cause, mailbox := c.mailbox.close } := by
  unfold publish
  split
  · exact .inl ⟨_, rfl⟩
  · exact .inr ⟨_, rfl⟩

/-! ## Moves -/

/-- One move. -/
inductive Move : Controller → Controller → Prop
  | submit (c : Controller) (scope : Scope) (s : Submission) : Move c (c.submit scope s).value.2
  | openCall (c : Controller) (kind : WaitingCall.Kind) : Move c (c.openCall kind).2
  | poll (c : Controller) (w : WaitingCall) : Move c (c.poll w).value.2
  | cancel (c : Controller) (w : WaitingCall) : Move c (c.cancel w)
  | work {c : Controller} {next : Logged Controller} (h : c.step? = some next) : Move c next.value
  | setDevices (c : Controller) (devices : List DeviceDescriptor) :
      Move c { c with system := c.system.setDevices devices }
  | decline (c : Controller) (on : Bool) : Move c { c with system := c.system.decline on }
  | letGo (c : Controller) : Move c { c with held := false }

/-- A sequence of moves. -/
abbrev Moves : Controller → Controller → Prop := Relation.ReflTransGen Move

/-- What moves keep, a sequence of moves keeps. -/
theorem Moves.keep {P : Controller → Prop} (step : ∀ {c c'}, P c → Move c c' → P c')
    {c c' : Controller} (h : Moves c c') (start : P c) : P c' := by
  induction h with
  | refl => exact start
  | tail _ next ih => exact step ih next

/-! ## The log only grows -/

theorem Effects.accepted_grows {c c' : Controller} (h : Effects c c') :
    c.accepted <+: c'.accepted := by
  obtain ⟨items, _, _, _, rfl⟩ := h.frame
  exact List.prefix_append _ _

theorem accepted_publish (c : Controller) : c.publish.accepted = c.accepted := by
  rcases publish_cases c with ⟨_, hp⟩ | ⟨_, hp⟩ <;> rw [hp]

theorem accepted_grows_process (c : Controller) (item : Item) :
    c.accepted <+: (c.process item).value.accepted := by
  have grown := (execute_effects c item).accepted_grows
  rw [note_accepted] at grown
  rw [value_process, accepted_publish]
  exact grown

theorem Worked.accepted_grows {c c' : Controller} (w : Worked c c') :
    c.accepted <+: c'.accepted := by
  cases w with
  | @processed _ item mailbox _ => exact accepted_grows_process { c with mailbox } item
  | started | abandoned | acknowledged | stopped => exact List.prefix_rfl

theorem Move.accepted_grows {c c' : Controller} (m : Move c c') : c.accepted <+: c'.accepted := by
  cases m with
  | submit scope s =>
    rcases submit_cases c scope s with ok | ⟨e, refused⟩
    · rw [ok]
      exact List.prefix_append _ _
    · simp only [refused, List.prefix_rfl]
  | poll w =>
    obtain ⟨_, _, hp, _⟩ := poll_frame c w
    simp only [hp, List.prefix_rfl]
  | cancel w =>
    obtain ⟨_, hp, _⟩ := cancel_frame c w
    simp only [hp, List.prefix_rfl]
  | work h => exact (worked_of_step? h).accepted_grows
  | openCall | setDevices | decline | letGo => exact List.prefix_rfl

theorem Moves.accepted_grows {c c' : Controller} (h : Moves c c') : c.accepted <+: c'.accepted :=
  h.keep (P := fun d => c.accepted <+: d.accepted) (fun grown m => grown.trans m.accepted_grows)
    List.prefix_rfl

end CallAudio.Controller
