import CallAudio.Proofs.Controller.Barrier
import CallAudio.Proofs.Controller.Recast
import CallAudio.Proofs.Controller.Sequential
import Mathlib.Data.List.TakeWhile

/-!
A script that panics comes to what the actions before the panic come to. An item may be cut off there,
and so may the tasks that it submits, and nothing changes but the log.
-/

namespace CallAudio

/-! ## Cutting scripts -/

namespace Action

/-- Whether the action panics, where the message at hand has this argument. -/
def panics (arg : Option Int) : Action → Bool
  | panic _ => true
  | ifArg n a => arg = some n && a.panics arg
  | operate _ | edit _ | send _ _ _ | task _ => false

/-- The actions before the first that panics. -/
def cut (arg : Option Int) (actions : List Action) : List Action :=
  actions.takeWhile fun a => !a.panics arg

mutual

/-- The action with what it submits cut off. -/
def trim : Action → Action
  | task actions => task (trimAll none actions)
  | ifArg n a => ifArg n a.trim
  | operate op => operate op
  | edit change => edit change
  | send m arg payload => send m arg payload
  | panic cause => panic cause

/-- The actions before the first that panics, with what they submit cut off too. -/
def trimAll (arg : Option Int) : List Action → List Action
  | [] => []
  | a :: rest => if a.panics arg then [] else a.trim :: trimAll arg rest

end

theorem trim_eq_recast : ∀ a : Action, a.trim = a.recast (trimAll none)
  | task _ => rfl
  | ifArg n a => congrArg (ifArg n) (trim_eq_recast a)
  | operate _ | edit _ | send _ _ _ | panic _ => rfl

theorem trimAll_eq_cut (arg : Option Int) (actions : List Action) :
    trimAll arg actions = (cut arg actions).map (recast (trimAll none)) := by
  induction actions with
  | nil => rfl
  | cons a rest ih =>
    rw [trimAll, cut, List.takeWhile_cons]
    cases h : a.panics arg with
    | true => rfl
    | false => simp [trim_eq_recast, ih, cut]

/-- Cutting off a script that will be trimmed makes no difference. -/
theorem trimAll_cut (arg : Option Int) (actions : List Action) :
    trimAll arg (cut arg actions) = trimAll arg actions := by
  rw [trimAll_eq_cut, trimAll_eq_cut, cut, cut, List.takeWhile_idem]

theorem recast_id_apply : ∀ a : Action, a.recast id = a
  | ifArg n a => congrArg (ifArg n) (recast_id_apply a)
  | task _ | operate _ | edit _ | send _ _ _ | panic _ => rfl

theorem recast_id : recast id = id :=
  funext recast_id_apply

end Action

open CallAudio.Action (cut trimAll)

/-- The item, a task cut off before its first panic. What a message makes the worker do is up to the
policy. -/
def Item.cut : Item → Item
  | task (.script actions) session => task (.script (Action.cut none actions)) session
  | item => item

/-- The same, with the scripts of the tasks that the task submits replaced. -/
def Item.cutAs (f : List Action → List Action) : Item → Item
  | task (.script actions) session =>
    task (.script ((Action.cut none actions).map (Action.recast f))) session
  | item => item

theorem Item.cutAs_id (item : Item) : item.cutAs id = item.cut := by
  unfold cutAs cut
  split
  · rw [Action.recast_id, List.map_id]
  · rfl

theorem Item.cutAs_trimAll (item : Item) :
    item.cutAs (trimAll none) = item.recast (trimAll none) := by
  cases item with
  | message => rfl
  | task work session =>
    cases work with
    | clearActive => rfl
    | script actions => rw [cutAs, recast, Action.trimAll_eq_cut]

namespace Controller

variable {f : List Action → List Action} {policy : RouteMessage → List Action}

theorem act_panics (ctx : Context) (c : Controller) :
    ∀ a : Action, (act ctx c a).value.1.isSome = a.panics ctx.arg
  | .operate _ | .edit _ | .send _ _ _ | .task _ | .panic _ => rfl
  | .ifArg n a => by
    rw [act, Action.panics]
    split <;> rename_i h
    · simp [h, act_panics ctx c a]
    · simp [h]

/-- An action that panics does nothing else. -/
theorem act_of_panics (ctx : Context) (c : Controller) :
    ∀ {a : Action}, a.panics ctx.arg = true → (act ctx c a).value.2 = c
  | .panic _, _ => rfl
  | .ifArg n a, h => by
    simp only [Action.panics, Bool.and_eq_true, decide_eq_true_eq] at h
    rw [act, if_pos h.1]
    exact act_of_panics ctx c h.2

theorem script_cut (ctx : Context) (c : Controller) (actions : List Action) :
    (script ctx c (cut ctx.arg actions)).value = (none, (script ctx c actions).value.2) := by
  induction actions generalizing c with
  | nil => rfl
  | cons a rest ih =>
    have answer := act_panics ctx c a
    rw [cut, List.takeWhile_cons]
    cases panics : a.panics ctx.arg with
    | true =>
      -- the whole script ends here, and so does the one that is cut off
      have stays := act_of_panics ctx c panics
      rw [panics, Option.isSome_iff_exists] at answer
      obtain ⟨cause, answer⟩ := answer
      simp only [script, Log.Logged.value_bind, answer, stays]
      rfl
    | false =>
      rw [panics, Option.isSome_eq_false_iff, Option.isNone_iff_eq_none] at answer
      simp only [Bool.not_false, if_true, script, Log.Logged.value_bind, answer]
      exact ih _

/-! ## Cutting off an item -/

variable (f policy) in
/-- Carrying out an item that is cut off, after all scripts were replaced; a message is cut off where
the policy is. -/
theorem execute_recast (c : Controller) (item : Item)
    (obeys : ∀ m, item = .message m →
      policy m.message = (cut m.arg (c.machine.policy m.message)).map (Action.recast f)) :
    ((c.recast f policy).execute (item.cutAs f)).value =
      (none, (c.execute item).value.2.recast f policy) := by
  have done (ctx : Context) (c : Controller) (actions : List Action) :
      (script ctx (c.recast f policy) ((cut ctx.arg actions).map (Action.recast f))).value =
        (none, (script ctx c actions).value.2.recast f policy) := by
    rw [script_recast, script_cut]
    rfl
  cases item with
  | message m =>
    have noted := done ⟨(itemSpan (.message m)).place, some m⟩ (c.note (.message m))
      (c.machine.policy m.message)
    show (script _ _ (policy m.message)).value = _
    rw [obeys m rfl]
    exact noted
  | task work session =>
    cases work with
    | clearActive => rfl
    | script actions => exact done ⟨(itemSpan (.task _ session)).place, none⟩ c actions

/-- The controller with another policy. -/
def obeying (policy : RouteMessage → List Action) (c : Controller) : Controller :=
  { c with machine := { c.machine with policy } }

theorem recast_id (c : Controller) : c.recast id policy = c.obeying policy := by
  have items : Item.recast id = id := by
    funext item
    cases item with
    | task work => cases work <;> rfl
    | message => rfl
  have commands : Command.recast id = id := by
    funext command
    cases command with
    | item i => exact congrArg Command.item (congrFun items i)
    | flush | stop => rfl
  rw [recast, Mailbox.map, items, commands, List.map_id, List.map_id, List.map_id]
  rfl

theorem publish_executed (c : Controller) (executed : List Item) :
    Controller.publish { c with executed } = { c.publish with executed } := by
  have same : Controller.current { c with executed } = c.current := rfl
  unfold publish
  rw [same]
  cases c.current <;> rfl

theorem publish_obeying (c : Controller) :
    (c.obeying policy).publish = c.publish.obeying policy := by
  rw [← recast_id, publish_recast, recast_id]

theorem count_cut (c : Controller) (item : Item) :
    (c.obeying policy).count item.cut =
      { (c.count item).obeying policy with executed := c.executed ++ [item.cut] } := by
  cases item with
  | task work => cases work <;> rfl
  | message => rfl

/-- Processing an item that is cut off: it does not panic, and leaves what the whole item leaves. -/
theorem process_cut (c : Controller) (item : Item)
    (obeys : ∀ m, item = .message m → policy m.message = cut m.arg (c.machine.policy m.message)) :
    ((c.obeying policy).execute item.cut).value.1 = none ∧
      ((c.obeying policy).process item.cut).value =
        { (c.process item).value.obeying policy with executed := c.executed ++ [item.cut] } := by
  have carried := execute_recast id policy c item (by
    intro m h
    rw [obeys m h, Action.recast_id, List.map_id])
  rw [recast_id, recast_id, Item.cutAs_id] at carried
  obtain ⟨_, _, _, executed⟩ := execute_frame c item
  refine ⟨by rw [carried], ?_⟩
  rw [value_process, value_process, carried, count_cut, publish_executed, publish_obeying, executed]

/-! ## Moves keep the policy -/

variable {c c' : Controller}

theorem Worked.keeps_policy (w : Worked c c') : c'.machine.policy = c.machine.policy := by
  cases w with
  | @processed _ item mailbox _ =>
    obtain ⟨_, same, _, _⟩ := execute_frame { c with mailbox } item
    rw [value_process]
    rcases publish_cases (({ c with mailbox }.execute item).value.2.count item) with
      ⟨_, hp⟩ | ⟨_, hp⟩ <;> rw [hp] <;> exact same
  | started | abandoned | acknowledged | stopped => rfl

theorem Move.keeps_policy (m : Move c c') : c'.machine.policy = c.machine.policy := by
  cases m with
  | submit scope s =>
    exact submit_keep (P := fun d => d.machine.policy = c.machine.policy) rfl (fun _ _ => rfl)
      scope s
  | poll w =>
    obtain ⟨_, _, frame, _⟩ := poll_frame c w
    rw [frame]
  | cancel w =>
    obtain ⟨_, frame, _⟩ := cancel_frame c w
    rw [frame]
  | work hw => exact (worked_of_step? hw).keeps_policy
  | openCall | setDevices | decline | letGo => rfl

theorem Moves.keeps_policy (moves : Moves c c') : c'.machine.policy = c.machine.policy :=
  moves.keep (P := fun d => d.machine.policy = c.machine.policy)
    (fun same m => m.keeps_policy.trans same) rfl

theorem Moves.executed_grows (moves : Moves c c') : c.executed <+: c'.executed :=
  moves.keep (P := fun d => c.executed <+: d.executed) (fun grown m => grown.trans m.executed_grows)
    List.prefix_rfl

/-! ## Controllers that differ in what is cut off -/

/-- The controller with all scripts cut off, and without its policy. -/
def outline (c : Controller) : Controller :=
  c.recast (trimAll none) fun _ => []

/-- Policies that have the same scripts for the messages of a log, once these are cut off. -/
def Agree (policy policy' : RouteMessage → List Action) (log : List Item) : Prop :=
  ∀ m, .message m ∈ log → trimAll m.arg (policy m.message) = trimAll m.arg (policy' m.message)

theorem Agree.mono {policy policy' : RouteMessage → List Action} {log log' : List Item}
    (h : Agree policy policy' log) (shorter : log' <+: log) : Agree policy policy' log' :=
  fun m hm => h m (shorter.subset hm)

variable (policy) in
theorem outline_eq_iff : c.outline = c'.outline ↔
    c.recast (trimAll none) policy = c'.recast (trimAll none) policy :=
  ⟨congrArg (obeying policy), congrArg (obeying fun _ => [])⟩

theorem process_recast (c : Controller) (item : Item)
    (obeys : ∀ m, item = .message m →
      policy m.message = trimAll m.arg (c.machine.policy m.message)) :
    ((c.recast (trimAll none) policy).process (item.recast (trimAll none))).value =
      (c.process item).value.recast (trimAll none) policy := by
  have carried := execute_recast (trimAll none) policy c item fun m h =>
    (obeys m h).trans (Action.trimAll_eq_cut _ _)
  rw [Item.cutAs_trimAll] at carried
  rw [value_process, value_process, carried, count_recast, publish_recast]

/-- Two workers process items that differ in what is cut off. -/
theorem process_outline (same : c.outline = c'.outline) {item item' : Item}
    (alike : item.recast (trimAll none) = item'.recast (trimAll none))
    (agree : Agree c.machine.policy c'.machine.policy [item]) :
    (c.process item).value.outline = (c'.process item').value.outline := by
  -- one policy serves both of them, since only one message is at hand
  obtain ⟨policy, left, right⟩ : ∃ policy : RouteMessage → List Action,
      (∀ m, item = .message m → policy m.message = trimAll m.arg (c.machine.policy m.message)) ∧
      ∀ m, item' = .message m → policy m.message = trimAll m.arg (c'.machine.policy m.message) := by
    cases item with
    | message m =>
      cases item' with
      | message m' =>
        cases alike
        refine ⟨fun _ => trimAll m.arg (c.machine.policy m.message), ?_, ?_⟩
        · rintro _ ⟨⟩
          rfl
        · rintro _ ⟨⟩
          exact agree m List.mem_cons_self
      | task work => cases work <;> cases alike
    | task work =>
      cases item' with
      | message => cases work <;> cases alike
      | task => exact ⟨fun _ => [], nofun, nofun⟩
  rw [outline_eq_iff policy] at same ⊢
  rw [← process_recast c item left, ← process_recast c' item' right, same, alike]

/-- What the worker does with an entry that it takes out. -/
def stepOn (c : Controller) (mailbox : Mailbox Command) : Command → Log.Logged Controller
  | .item i => { c with mailbox }.process i
  | .flush ticket => pure { c with mailbox, acknowledged := c.acknowledged ++ [ticket] }
  | .stop => { c with mailbox }.stop

theorem step?_of_take? {x : Command} {mailbox : Mailbox Command} (running : c.phase = .running)
    (took : c.mailbox.take? = some (x, mailbox)) : c.step? = some (c.stepOn mailbox x) := by
  unfold step?
  split <;> rename_i standing
  · cases standing.symm.trans running
  · rw [took]
    cases x <;> rfl
  · cases standing.symm.trans running
  · cases standing.symm.trans running

theorem step?_of_take?_none (running : c.phase = .running) (empty : c.mailbox.take? = none) :
    c.step? = if c.held then none else some c.stop := by
  simp only [step?, running, empty]

theorem take?_outline (same : c.outline = c'.outline) :
    (c.mailbox.take? = none ∧ c'.mailbox.take? = none) ∨
      ∃ x x' mailbox mailbox', c.mailbox.take? = some (x, mailbox) ∧
        c'.mailbox.take? = some (x', mailbox') ∧
        x.recast (trimAll none) = x'.recast (trimAll none) ∧
        outline { c with mailbox } = outline { c' with mailbox := mailbox' } := by
  let entry := Prod.map (Command.recast (trimAll none)) (Mailbox.map (Command.recast (trimAll none)))
  have taken : c.mailbox.take?.map entry = c'.mailbox.take?.map entry := by
    rw [← Mailbox.take?_map, ← Mailbox.take?_map]
    exact congrArg (fun d => d.mailbox.take?) same
  rcases took : c.mailbox.take? with _ | ⟨x, mailbox⟩ <;>
    rcases took' : c'.mailbox.take? with _ | ⟨x', mailbox'⟩ <;> rw [took, took'] at taken
  · exact .inl ⟨rfl, rfl⟩
  · cases taken
  · cases taken
  · obtain ⟨entries, rest⟩ := Prod.ext_iff.1 (Option.some.inj taken)
    refine .inr ⟨x, x', mailbox, mailbox', rfl, rfl, entries, ?_⟩
    have put (d : Controller) (m : Mailbox Command) : outline { d with mailbox := m } =
        { d.outline with mailbox := m.map (Command.recast (trimAll none)) } := rfl
    rw [put c, put c', same]
    exact congrArg (fun m => { c'.outline with mailbox := m }) rest

theorem stepOn_outline {x x' : Command} {mailbox mailbox' : Mailbox Command}
    (entries : x.recast (trimAll none) = x'.recast (trimAll none))
    (left : outline { c with mailbox } = outline { c' with mailbox := mailbox' })
    (agree : Agree c.machine.policy c'.machine.policy (c.stepOn mailbox x).value.executed) :
    (c.stepOn mailbox x).value.outline = (c'.stepOn mailbox' x').value.outline := by
  cases x with
  | item i =>
    cases x' with
    | item i' =>
      obtain ⟨_, done⟩ := processed_process { c with mailbox } i
      refine process_outline left (Command.item.inj entries) fun m hm => agree m ?_
      rw [stepOn, done.executed]
      exact List.mem_append_right _ hm
    | flush | stop => cases entries
  | flush t =>
    cases x' with
    | flush =>
      cases entries
      exact congrArg (fun d => { d with acknowledged := d.acknowledged ++ [t] }) left
    | item | stop => cases entries
  | stop =>
    cases x' with
    | stop => exact congrArg ended left
    | item | flush => cases entries

/-- Two workers whose controllers differ in what is cut off are idle together, and else take steps that
do. -/
theorem step?_outline (same : c.outline = c'.outline) :
    (c.step? = none ∧ c'.step? = none) ∨
      ∃ next next', c.step? = some next ∧ c'.step? = some next' ∧
        (Agree c.machine.policy c'.machine.policy next.value.executed →
          next.value.outline = next'.value.outline) := by
  have phase : c.phase = c'.phase := congrArg (fun d => d.phase) same
  have held : c.held = c'.held := congrArg (fun d => d.held) same
  cases standing : c.phase with
  | fresh =>
    rw [standing] at phase
    exact .inr ⟨_, _, by rw [step?, standing], by rw [step?, ← phase],
      fun _ => congrArg (fun d => { d with phase := .running }) same⟩
  | stopped | crashed =>
    rw [standing] at phase
    exact .inl ⟨by rw [step?, standing], by rw [step?, ← phase]⟩
  | running =>
    have standing' := phase.symm.trans standing
    rcases take?_outline same with ⟨empty, empty'⟩ | ⟨x, x', _, _, took, took', entries, left⟩
    · rw [step?_of_take?_none standing empty, step?_of_take?_none standing' empty', ← held]
      cases c.held with
      | true => exact .inl ⟨rfl, rfl⟩
      -- nobody is left to submit anything, and both workers end
      | false => exact .inr ⟨_, _, rfl, rfl, fun _ => congrArg ended same⟩
    · exact .inr ⟨_, _, step?_of_take? standing took, step?_of_take? standing' took',
        stepOn_outline entries left⟩

theorem drive_outline (same : c.outline = c'.outline) {fuel : Nat}
    (agree : Agree c.machine.policy c'.machine.policy (c.drive fuel).value.executed) :
    (c.drive fuel).value.outline = (c'.drive fuel).value.outline := by
  induction fuel generalizing c c' with
  | zero => exact same
  | succ fuel ih =>
    rcases step?_outline same with ⟨idle, idle'⟩ | ⟨next, next', step, step', after⟩
    · rw [drive, drive, idle, idle']
      exact same
    · rw [drive, step] at agree ⊢
      rw [drive, step']
      refine ih (after (agree.mono (drive_moves fuel next.value).executed_grows)) ?_
      rw [(Move.work step).keeps_policy, (Move.work step').keeps_policy]
      exact agree

theorem poll_outline (same : c.outline = c'.outline) (w : WaitingCall) :
    (c.poll w).value.1 = (c'.poll w).value.1 ∧
      (c.poll w).value.2.outline = (c'.poll w).value.2.outline := by
  have looks : Prod.map id outline (c.poll w).value = Prod.map id outline (c'.poll w).value :=
    (poll_recast _ _ c w).symm.trans
      ((congrArg (fun d => (poll d w).value) same).trans (poll_recast _ _ c' w))
  exact Prod.ext_iff.1 looks

theorem complete_outline (same : c.outline = c'.outline) {workerFuel fuel : Nat} {w : WaitingCall}
    (agree : Agree c.machine.policy c'.machine.policy
      (c.complete workerFuel fuel w).value.2.executed) :
    (c.complete workerFuel fuel w).value.1 = (c'.complete workerFuel fuel w).value.1 ∧
      (c.complete workerFuel fuel w).value.2.outline =
        (c'.complete workerFuel fuel w).value.2.outline := by
  induction fuel generalizing c c' w with
  | zero => exact ⟨rfl, same⟩
  | succ fuel ih =>
    obtain ⟨outcome, polled⟩ := poll_outline same w
    cases look : (c.poll w).value.1 with
    | done answer =>
      rw [complete_of_done look, complete_of_done (outcome ▸ look)]
      exact ⟨rfl, polled⟩
    | pending w' =>
      rw [complete_of_pending look] at agree ⊢
      rw [complete_of_pending (outcome ▸ look)]
      rw [← (Move.poll c w).keeps_policy, ← (Move.poll c' w).keeps_policy] at agree
      -- what is processed until the next look is part of what is processed in all
      have driven := drive_outline polled (agree.mono (complete_moves _ _ _ _).executed_grows)
      refine ih driven ?_
      rw [(drive_moves workerFuel (c.poll w).value.2).keeps_policy,
        (drive_moves workerFuel (c'.poll w).value.2).keeps_policy]
      exact agree

end Controller

end CallAudio
