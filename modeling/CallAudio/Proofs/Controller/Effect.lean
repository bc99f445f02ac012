import CallAudio.Controller.Worker
import Mathlib.Logic.Relation

/-!
What a submission does to a controller, and what the actions of an item can do to it while the
worker carries them out: they change the platform, the audio state and the replies, and append the
submissions that were accepted to the mailbox and to the log, in the same order.
-/

namespace CallAudio.Controller

open Log (Logged Scope)

/-! ## Submissions -/

/-- The controller once an item was accepted. -/
def accept (c : Controller) (item : Item) : Controller :=
  { c with mailbox := c.mailbox.push (.item item), accepted := c.accepted ++ [item] }

/-- A controller that does not run refuses for good, one without room for now. -/
theorem value_enqueue (c : Controller) (item : Item) :
    (c.enqueue item).value =
      if c.isRunning then
        if c.mailbox.hasRoom then (.ok (), c.accept item) else (.error (.queueFull item.name), c)
      else (.error .workerStopped, c) := by
  cases ha : c.accepting with
  | false => simp [enqueue, isRunning, ha]
  | true =>
    cases hc : c.mailbox.closed with
    | true => simp [enqueue, isRunning, ha, Mailbox.trySend, hc]
    | false =>
      cases hr : c.mailbox.hasRoom <;>
        simp [enqueue, isRunning, ha, Mailbox.trySend, hc, hr, accept]

/-- A submission is either accepted and logged, or it changes nothing. -/
theorem enqueue_cases (c : Controller) (item : Item) :
    (c.enqueue item).value = (.ok (), c.accept item) ∨
      ∃ e, (c.enqueue item).value = (.error e, c) := by
  rw [value_enqueue]
  split
  · split
    · exact .inl rfl
    · exact .inr ⟨_, rfl⟩
  · exact .inr ⟨_, rfl⟩

theorem submit_cases (c : Controller) (scope : Scope) (s : Submission) :
    (c.submit scope s).value = (.ok (), c.accept (Item.ofSubmission ⟨scope⟩ s)) ∨
      ∃ e, (c.submit scope s).value = (.error e, c) :=
  enqueue_cases c _

/-- What holds of a controller, and still does once a running one has accepted an item, holds after
a submission. -/
theorem submit_keep {P : Controller → Prop} {c : Controller} (h : P c)
    (accepted : c.isRunning = true → ∀ item, P (c.accept item)) (scope : Scope) (s : Submission) :
    P (c.submit scope s).value.2 := by
  show P (c.enqueue _).value.2
  rw [value_enqueue]
  split
  · rename_i running
    split
    · exact accepted running _
    · exact h
  · exact h

/-! ## Scripts -/

/-- What is kept by everything that an action of a script can do. -/
structure KeptByActions (ctx : Context) (P : Controller → Prop) : Prop where
  operate : ∀ {c : Controller}, P c → ∀ op : AudioSystem.Operation,
    P ({ c with system := (c.system.perform op).value.2 }.reply (c.system.perform op).value.1)
  edit : ∀ {c : Controller}, P c → ∀ change, P (c.edit ctx change)
  resubmit : ∀ {c : Controller}, P c → ∀ s, P (c.resubmit ctx s).value

namespace KeptByActions

variable {ctx : Context} {P : Controller → Prop}

theorem act (kept : KeptByActions ctx P) {c : Controller} (h : P c) :
    ∀ a : Action, P (act ctx c a).value.2
  | .operate _ => kept.operate h _
  | .edit change => kept.edit h change
  | .send m arg payload => kept.resubmit h (.ofParts m arg payload)
  | .task actions => kept.resubmit h (.task (.script actions))
  | .panic _ => h
  | .ifArg n a => by
    rw [Controller.act]
    split
    · exact kept.act h a
    · exact h

theorem script (kept : KeptByActions ctx P) {c : Controller} (h : P c) (actions : List Action) :
    P (script ctx c actions).value.2 := by
  induction actions generalizing c with
  | nil => exact h
  | cons a rest ih =>
    have first := kept.act h a
    simp only [Controller.script, Log.Logged.value_bind]
    split
    · exact first
    · exact ih first

end KeptByActions

/-! ## Effects of actions -/

/-- One thing that carrying out an item can do. -/
inductive Effect : Controller → Controller → Prop
  | submit (c : Controller) (scope : Scope) (s : Submission) :
      Effect c (c.submit scope s).value.2
  | operate (c : Controller) (op : AudioSystem.Operation) :
      Effect c { c with system := (c.system.perform op).value.2 }
  | clearActive (c : Controller) : Effect c { c with system := c.system.clearActive.value }
  | edit (c : Controller) (state : CallAudioState) :
      Effect c { c with machine := { c.machine with state } }
  | reply (c : Controller) (r : Reply) : Effect c (c.reply r)

/-- What carrying out an item can do, from beginning to end. -/
abbrev Effects : Controller → Controller → Prop := Relation.ReflTransGen Effect

theorem resubmit_effects (ctx : Context) (c : Controller) (s : Submission) :
    Effects c (c.resubmit ctx s).value := by
  unfold resubmit
  split
  · exact .tail (.single (.submit c [ctx.place] s)) (.reply _ _)
  · exact .single (.reply _ _)

theorem edit_effects (ctx : Context) (c : Controller) (change : StateEdit) :
    Effects c (c.edit ctx change) := by
  unfold edit
  split
  · exact .refl
  · exact .single (.edit c _)

theorem script_effects (ctx : Context) (c : Controller) (actions : List Action) :
    Effects c (script ctx c actions).value.2 := by
  have kept : KeptByActions ctx (Effects c) :=
    { operate := fun past op => (past.tail (.operate _ op)).tail (.reply _ _)
      edit := fun past change => past.trans (edit_effects ctx _ change)
      resubmit := fun past s => past.trans (resubmit_effects ctx _ s) }
  exact kept.script .refl actions

/-- The controller once the state machine has noted the item, which it does for messages only. -/
def note (c : Controller) : Item → Controller
  | .message m => { c with machine := c.machine.record m }
  | .task _ _ => c

@[simp] theorem note_accepted (c : Controller) (item : Item) :
    (c.note item).accepted = c.accepted := by
  cases item <;> rfl

@[simp] theorem note_executed (c : Controller) (item : Item) :
    (c.note item).executed = c.executed := by
  cases item <;> rfl

@[simp] theorem note_mailbox (c : Controller) (item : Item) :
    (c.note item).mailbox = c.mailbox := by
  cases item <;> rfl

theorem execute_effects (c : Controller) (item : Item) :
    Effects (c.note item) (c.execute item).value.2 := by
  cases item with
  | message m => exact script_effects _ _ _
  | task work session =>
    cases work with
    | clearActive => exact .single (.clearActive c)
    | script actions => exact script_effects _ _ _

/-- Whatever an item does, the queue and the log grow by the same items, and nothing else changes
but the platform, the audio state and the replies. -/
theorem Effects.frame {c c' : Controller} (h : Effects c c') :
    ∃ (items : List Item) (system : AudioSystem) (state : CallAudioState) (effects : List Reply),
      c' = { c with
        system
        effects
        machine := { c.machine with state }
        mailbox := { c.mailbox with queue := c.mailbox.queue ++ items.map .item }
        accepted := c.accepted ++ items } := by
  induction h with
  | refl => exact ⟨[], c.system, c.machine.state, c.effects, by simp⟩
  | tail _ next ih =>
    obtain ⟨items, system, state, effects, rfl⟩ := ih
    cases next with
    | operate | clearActive => exact ⟨items, _, state, effects, rfl⟩
    | edit state' => exact ⟨items, system, state', effects, rfl⟩
    | reply r => exact ⟨items, system, state, effects ++ [r], rfl⟩
    | submit scope s =>
      -- an accepted item goes to the end of both lists, a refused one leaves no trace
      rcases submit_cases _ scope s with ok | ⟨e, refused⟩
      · rw [ok]
        refine ⟨items ++ [Item.ofSubmission ⟨scope⟩ s], system, state, effects, ?_⟩
        simp [accept, Mailbox.push]
      · rw [refused]
        exact ⟨items, system, state, effects, rfl⟩

end CallAudio.Controller
