import CallAudio.Proofs.Controller.Cut
import CallAudio.Proofs.Pipeline.Run

/-!
An item that panics comes to what it comes to when it is cut off before the panic, and so do runs in
which items are cut off: but for the log there is no telling them apart.
-/

namespace CallAudio.Pipeline

open CallAudio.Action (trimAll)
open Controller (Agree)
open Log (Logged)

/-! ## Steps that do not run the worker -/

/-- The step with the script of a submitted task replaced. -/
def Step.recast (f : List Action → List Action) : Step → Step
  | send s => send (s.recast f)
  | sendMany n s => sendMany n (s.recast f)
  | s => s

/-- The pipeline with the scripts of all tasks replaced, and with another policy. -/
def recast (f : List Action → List Action) (policy : RouteMessage → List Action) (p : Pipeline) :
    Pipeline :=
  { p with controller := p.controller.recast f policy }

/-- Whether the worker runs in a step. -/
def Step.runsWorker : Step → Bool
  | await _ | drive | finish _ | drop => true
  | _ => false

variable {f : List Action → List Action} {policy : RouteMessage → List Action}

theorem sendMany_recast (c : Controller) (s : Submission) (accepted : Nat)
    (firstError : Option RouteError) (n : Nat) :
    (sendMany (c.recast f policy) (s.recast f) accepted firstError n).value =
      Prod.map id (Controller.recast f policy) (sendMany c s accepted firstError n).value := by
  induction n generalizing c accepted firstError with
  | zero => rfl
  | succ n ih =>
    simp only [sendMany, Logged.value_bind, Controller.submit_recast]
    rcases (c.submit [] s).value with ⟨_ | _, c'⟩ <;> exact ih _ _ _

theorem withRegistry_recast (p : Pipeline)
    {g : Registry → Controller → Logged (Except RouteError Unit × Registry × Controller)}
    (respects : ∀ r c, (g r (c.recast f policy)).value =
      Prod.map id (Prod.map id (Controller.recast f policy)) (g r c).value) :
    ((p.recast f policy).withRegistry g).value =
      Prod.map id (recast f policy) (p.withRegistry g).value := by
  obtain ⟨c, registry, _, _, _⟩ := p
  cases registry with
  | none => rfl
  | some r =>
    simp only [withRegistry, recast, Logged.value_bind, respects]
    rfl

theorem dump_recast (c : Controller) : (c.recast f policy).dump = c.dump := by
  have pending : (c.recast f policy).mailbox.pending = c.mailbox.pending := Mailbox.pending_map _ _
  funext watch
  unfold Controller.dump Controller.dumpLines
  rw [pending]
  rfl

theorem heldStep_recast {s : Step} (idles : s.runsWorker = false) (fuel : Nat) (p : Pipeline) :
    (heldStep fuel (p.recast f policy) (s.recast f)).value =
      Prod.map id (recast f policy) (heldStep fuel p s).value := by
  have respects : Respects (Controller.recast f policy) := Controller.respects_recast
  cases s with
  | await | drive | finish | drop => cases idles
  | send s =>
    simp only [Step.recast, heldStep, recast, Logged.value_bind, Controller.submit_recast]
    rfl
  | sendMany n s =>
    simp only [Step.recast, heldStep, recast, Logged.value_bind, sendMany_recast]
    rfl
  | add id => exact withRegistry_recast p fun r c => respects.add r c id
  | remove id => exact withRegistry_recast p fun r c => respects.remove r c id
  | route route address =>
    refine withRegistry_recast p fun r c => ?_
    simp only [Logged.value_bind, respects.requestRoute]
    rfl
  | mute on =>
    refine withRegistry_recast p fun r c => ?_
    simp only [Logged.value_bind, respects.setMuted]
    rfl
  | report r =>
    simp only [Step.recast, heldStep, recast, Logged.value_bind, Peripherals.deliver,
      respects.handleTimes]
    rfl
  | begin kind =>
    have looked := Controller.poll_recast f policy (p.controller.openCall kind).2
      (p.controller.openCall kind).1
    show (heldStep fuel (p.recast f policy) (.begin kind)).value = _
    rw [value_heldStep_begin, value_heldStep_begin]
    exact congrArg (fun l : WaitingCall.Outcome × Controller =>
      (Answer.begun p.slots.length (ofOutcome l.1).1,
        { p with controller := l.2, slots := p.slots ++ [l.1.left?] })) looked
  | poll slot =>
    show (heldStep fuel (p.recast f policy) (.poll slot)).value = _
    cases h : p.call? slot with
    | none =>
      have h' : (p.recast f policy).call? slot = none := h
      simp only [heldStep, h, h']
      rfl
    | some w =>
      have h' : (p.recast f policy).call? slot = some w := h
      have looked := Controller.poll_recast f policy p.controller w
      rw [value_heldStep_poll fuel h, value_heldStep_poll fuel h']
      exact congrArg (fun l : WaitingCall.Outcome × Controller =>
        (Answer.polled (ofOutcome l.1).1,
          { p with controller := l.2, slots := p.slots.set slot l.1.left? })) looked
  | cancel slot =>
    show (heldStep fuel (p.recast f policy) (.cancel slot)).value = _
    cases h : p.call? slot with
    | none =>
      have h' : (p.recast f policy).call? slot = none := h
      simp only [heldStep, h, h']
      rfl
    | some w =>
      have h' : (p.recast f policy).call? slot = some w := h
      have given := Controller.cancel_recast f policy p.controller w
      simp only [heldStep, h, h']
      exact congrArg (fun c => (Answer.nothing,
        { p with controller := c, slots := p.slots.set slot none })) given
  | dump =>
    exact congrArg (fun text => (Answer.dump text, p.recast f policy)) (dump_recast p.controller)
  | snapshot | state | subscribe => rfl
  | setDevices | decline | changed | seen => rfl

theorem needsHandle_recast (s : Step) : (s.recast f).needsHandle = s.needsHandle := by
  cases s <;> rfl

/-- Steps that do not run the worker go along when scripts are replaced. -/
theorem step_recast {s : Step} (idles : s.runsWorker = false) (fuel : Nat) (p : Pipeline) :
    ((p.recast f policy).step fuel (s.recast f)).value =
      Prod.map id (recast f policy) (p.step fuel s).value := by
  cases needs : s.needsHandle with
  | true =>
    rw [value_step_of_needsHandle needs,
      value_step_of_needsHandle ((needsHandle_recast s).trans needs), heldStep_recast idles]
    exact (apply_ite (Prod.map id (recast f policy)) (p.controller.held = true)
      (heldStep fuel p s).value (.nothing, p)).symm
  | false =>
    cases s with
    | setDevices | decline => rfl
    | drive => cases idles
    | changed subscriber =>
      show ((p.recast f policy).step fuel (.changed subscriber)).value = _
      obtain ⟨c, _, _, _, subscribers⟩ := p
      unfold step recast
      dsimp only
      cases subscribers[subscriber]? with
      | none => rfl
      | some seen =>
        show Logged.value (if c.phase.alive then _ else _) = Prod.map id _
          (Logged.value (if c.phase.alive then _ else _))
        split <;> rfl
    | seen subscriber =>
      show ((p.recast f policy).step fuel (.seen subscriber)).value = _
      obtain ⟨c, _, _, _, subscribers⟩ := p
      unfold step recast
      dsimp only
      cases subscribers[subscriber]? <;> rfl
    | _ => cases needs

/-! ## Pipelines that differ in what is cut off -/

/-- The pipeline with all scripts cut off, and without its policy. -/
def outline (p : Pipeline) : Pipeline :=
  p.recast (trimAll none) fun _ => []

/-- The step with the script of a submitted task cut off. -/
def Step.trim (s : Step) : Step :=
  s.recast (trimAll none)

theorem Step.runsWorker_trim (s : Step) : s.trim.runsWorker = s.runsWorker := by
  cases s <;> rfl

/-- A step that runs the worker has nothing to be cut off. -/
theorem Step.eq_of_trim {s s' : Step} (runs : s.runsWorker = true) (alike : s.trim = s'.trim) :
    s' = s := by
  cases s with
  | await | drive | finish | drop =>
    cases s' with
    | await | drive | finish | drop => cases alike <;> rfl
    | _ => cases alike
  | _ => cases runs

variable {p p' : Pipeline} {c c' : Controller}

/-- The same is done to the slots of both, and to their controllers what comes to the same. -/
theorem outline_put (same : p.outline = p'.outline) (controllers : c.outline = c'.outline)
    (change : List (Option WaitingCall) → List (Option WaitingCall)) :
    outline { p with controller := c, slots := change p.slots } =
      outline { p' with controller := c', slots := change p'.slots } := by
  have put (p : Pipeline) (c : Controller) :
      outline { p with controller := c, slots := change p.slots } =
        { p.outline with controller := c.outline, slots := change p.outline.slots } := rfl
  rw [put p c, put p' c', same, controllers]

theorem complete_outline (same : c.outline = c'.outline) {fuel : Nat} {w : WaitingCall}
    (agree : Agree c.machine.policy c'.machine.policy (complete fuel c w).value.2.executed) :
    (complete fuel c w).value.1 = (complete fuel c' w).value.1 ∧
      (complete fuel c w).value.2.outline = (complete fuel c' w).value.2.outline := by
  rw [value_complete] at agree
  have moves := Controller.complete_moves fuel fuel c w
  have moves' := Controller.complete_moves fuel fuel c' w
  obtain ⟨answer, completed⟩ := Controller.complete_outline same
    (agree.mono (Controller.drive_moves fuel _).executed_grows)
  rw [value_complete, value_complete, answer]
  refine ⟨rfl, Controller.drive_outline completed ?_⟩
  rw [moves.keeps_policy, moves'.keeps_policy]
  exact agree

theorem cancelAll_outline (same : c.outline = c'.outline) (slots : List (Option WaitingCall)) :
    (cancelAll c slots).outline = (cancelAll c' slots).outline := by
  unfold cancelAll
  induction slots.reduceOption generalizing c c' with
  | nil => exact same
  | cons w rest ih =>
    refine ih ?_
    have cancelled := congrArg (fun d : Controller => d.cancel w) same
    exact (Controller.cancel_recast _ _ c w).symm.trans
      (cancelled.trans (Controller.cancel_recast _ _ c' w))

theorem value_heldStep_await (fuel : Nat) (p : Pipeline) (kind : WaitingCall.Kind) :
    (heldStep fuel p (.await kind)).value =
      ((complete fuel (p.controller.openCall kind).2 ⟨kind, p.controller.nextTicket, .fresh⟩).value.1,
        { p with controller := (complete fuel (p.controller.openCall kind).2
          ⟨kind, p.controller.nextTicket, .fresh⟩).value.2 }) :=
  rfl

theorem cancelAll_moves (c : Controller) (slots : List (Option WaitingCall)) :
    Controller.Moves c (cancelAll c slots) :=
  (cancelAll_leaves c slots).moves.controller

/-- Steps that run the worker come to the same where what is processed does, once it is cut off. -/
theorem heldStep_outline (same : p.outline = p'.outline) {s : Step} (runs : s.runsWorker = true)
    {fuel : Nat} (agree : Agree p.controller.machine.policy p'.controller.machine.policy
      (heldStep fuel p s).value.2.controller.executed) :
    (heldStep fuel p s).value.1 = (heldStep fuel p' s).value.1 ∧
      (heldStep fuel p s).value.2.outline = (heldStep fuel p' s).value.2.outline := by
  have controllers : p.controller.outline = p'.controller.outline :=
    (congrArg Pipeline.controller same :)
  have slots : p.slots = p'.slots := (congrArg Pipeline.slots same :)
  cases s with
  | await kind =>
    have ticket : p.controller.nextTicket = p'.controller.nextTicket :=
      (congrArg Controller.nextTicket controllers :)
    have opened : (p.controller.openCall kind).2.outline = (p'.controller.openCall kind).2.outline :=
      (congrArg (fun d : Controller => (d.openCall kind).2) controllers :)
    obtain ⟨answer, completed⟩ := complete_outline opened agree
    rw [value_heldStep_await, value_heldStep_await, ← ticket]
    exact ⟨answer, outline_put same completed id⟩
  | finish slot =>
    have calls : p.call? slot = p'.call? slot := by rw [call?, call?, slots]
    cases h : p.call? slot with
    | none =>
      rw [heldStep, heldStep, ← calls, h]
      exact ⟨rfl, same⟩
    | some w =>
      rw [value_heldStep_finish fuel h] at agree ⊢
      rw [value_heldStep_finish fuel (calls ▸ h)]
      obtain ⟨answer, completed⟩ := complete_outline controllers agree
      exact ⟨answer, outline_put same completed fun slots => slots.set slot none⟩
  | drop =>
    have dropped : Controller.outline { cancelAll p.controller p.slots with held := false } =
        Controller.outline { cancelAll p'.controller p'.slots with held := false } := by
      rw [← slots]
      exact (congrArg (fun d : Controller => { d with held := false })
        (cancelAll_outline controllers p.slots) :)
    have keeps := (cancelAll_moves p.controller p.slots).keeps_policy
    have keeps' := (cancelAll_moves p'.controller p'.slots).keeps_policy
    rw [← keeps, ← keeps'] at agree
    exact ⟨rfl, outline_put same (Controller.drive_outline dropped agree) (List.map fun _ => none)⟩
  | drive => exact ⟨rfl, same⟩
  | _ => cases runs

/-- Two pipelines that differ in what is cut off take steps that do, as long as what is processed in
them comes to the same once it is cut off. -/
theorem step_outline (same : p.outline = p'.outline) {s s' : Step} (alike : s.trim = s'.trim)
    {fuel : Nat} (agree : Agree p.controller.machine.policy p'.controller.machine.policy
      (p.step fuel s).value.2.controller.executed) :
    (p.step fuel s).value.1 = (p'.step fuel s').value.1 ∧
      (p.step fuel s).value.2.outline = (p'.step fuel s').value.2.outline := by
  cases runs : s.runsWorker with
  | false =>
    -- the outline of a pipeline can take the step itself, since no policy is asked
    have idles : s'.runsWorker = false := by
      rw [← Step.runsWorker_trim, ← alike, Step.runsWorker_trim, runs]
    have both : Prod.map id outline (p.step fuel s).value =
        Prod.map id outline (p'.step fuel s').value := by
      unfold outline at same ⊢
      rw [← step_recast runs, ← step_recast idles, same]
      exact congrArg (fun t => (step fuel _ t).value) alike
    exact Prod.ext_iff.1 both
  | true =>
    rw [Step.eq_of_trim runs alike]
    cases needs : s.needsHandle with
    | true =>
      have held : p.controller.held = p'.controller.held :=
        (congrArg (fun q : Pipeline => q.controller.held) same :)
      rw [value_step_of_needsHandle needs] at agree ⊢
      rw [value_step_of_needsHandle needs, ← held]
      cases handle : p.controller.held with
      | true =>
        rw [handle] at agree
        exact heldStep_outline same runs agree
      | false => exact ⟨rfl, same⟩
    | false =>
      cases s with
      | drive =>
        have controllers : p.controller.outline = p'.controller.outline :=
          (congrArg Pipeline.controller same :)
        exact ⟨rfl, outline_put same (Controller.drive_outline controllers agree) id⟩
      | setDevices | decline | changed | seen => cases runs
      | _ => cases needs

/-! ## Runs -/

/-- What can be seen but the log. -/
def Observation.unlogged (o : Observation) : Observation :=
  { o with records := [] }

/-- What can be seen but the log, from what is there before and after. -/
def seen (p p' : Pipeline) (answer : Answer) : Observation where
  answer
  pending := if p'.controller.held then some p'.controller.mailbox.pending else none
  running := if p'.controller.held then some p'.controller.isRunning else none
  processed := since p.controller.machine.recorded p'.controller.machine.recorded
  effects := since p.controller.effects p'.controller.effects
  calls := since p.controller.system.catalog.calls p'.controller.system.catalog.calls
  notices := since p.controller.system.bluetooth.notices p'.controller.system.bluetooth.notices
  ringtone := since p.peripherals.ringtone p'.peripherals.ringtone
  callCount := p'.registry.map Registry.count
  records := []

theorem seen_outline (p p' : Pipeline) (answer : Answer) :
    seen p.outline p'.outline answer = seen p p' answer := by
  have pending : p'.outline.controller.mailbox.pending = p'.controller.mailbox.pending :=
    Mailbox.pending_map _ _
  unfold seen
  rw [pending]
  rfl

theorem observe_outline (same : p.outline = p'.outline) {s s' : Step} (alike : s.trim = s'.trim)
    (fuel : Nat) (agree : Agree p.controller.machine.policy p'.controller.machine.policy
      (p.observe fuel s).2.controller.executed) :
    (p.observe fuel s).1.unlogged = (p'.observe fuel s').1.unlogged ∧
      (p.observe fuel s).2.outline = (p'.observe fuel s').2.outline := by
  obtain ⟨answer, after⟩ := step_outline same alike agree
  refine ⟨?_, after⟩
  show seen p (p.step fuel s).value.2 (p.step fuel s).value.1 =
    seen p' (p'.step fuel s').value.2 (p'.step fuel s').value.1
  rw [← seen_outline, same, after, answer, seen_outline]

/-- The same setup, with another policy. -/
def Setup.obeying (policy : RouteMessage → List Action) (setup : Setup) : Setup :=
  { setup with machine := { setup.machine with policy } }

variable {setup : Setup} {past past' : List Turn}

theorem Run.policy_eq (h : Run setup past p) : p.controller.machine.policy = setup.machine.policy :=
  h.keep (P := fun c => c.machine.policy = setup.machine.policy) (fun _ _ => rfl)
    fun same m => m.keeps_policy.trans same

theorem Run.of_concat {t : Turn} (h : Run setup (past ++ [t]) p) :
    Run setup past t.before ∧ p = t.after := by
  generalize split : past ++ [t] = turns at h
  cases h with
  | start => simp at split
  | step h fuel s =>
    obtain ⟨rfl, last⟩ := List.append_inj' split rfl
    cases last
    exact ⟨h, rfl⟩

theorem begun_outline {started started' : Logged Pipeline} (h : start setup = .ok started)
    (h' : start (setup.obeying policy) = .ok started') :
    started.value.outline = started'.value.outline := by
  obtain ⟨_, _, published, first, begun⟩ := start_iff.1 ⟨started, h, rfl⟩
  obtain ⟨_, _, published', first', begun'⟩ := start_iff.1 ⟨started', h', rfl⟩
  have same : (fresh (setup.obeying policy) {}).current = (fresh setup {}).current := rfl
  rw [same, first] at first'
  cases first'
  rw [begun, begun']
  unfold Pipeline.begun
  show outline (if setup.withCalls then _ else _) = outline (if setup.withCalls then _ else _)
  split <;> rfl

/-- What a turn was asked for: the step with what it submits cut off, and the bound. -/
def Turn.asked (t : Turn) : Step × Nat :=
  (t.step.trim, t.fuel)

/-- Runs that are asked for the same, but for what is cut off. -/
theorem Run.outline (h : Run setup past p) (h' : Run (setup.obeying policy) past' p')
    (asked : past.map Turn.asked = past'.map Turn.asked)
    (agree : Agree setup.machine.policy policy p.controller.executed) :
    past.map (fun t => t.seen.unlogged) = past'.map (fun t => t.seen.unlogged) ∧
      p.outline = p'.outline := by
  -- on the first run; the second loses its last turn along with it
  induction h generalizing past' p' with
  | start h =>
    cases past' with
    | cons => cases asked
    | nil =>
      generalize none : [] = past' at h'
      cases h' with
      | start h' => exact ⟨rfl, begun_outline h h'⟩
      | step => simp at none
  | @step past p run fuel s ih =>
    rcases past'.eq_nil_or_concat with rfl | ⟨earlier, t, rfl⟩
    · simp at asked
    · rw [List.concat_eq_append] at h' asked ⊢
      obtain ⟨run', rfl⟩ := h'.of_concat
      rw [List.map_append, List.map_append] at asked ⊢
      obtain ⟨before, last⟩ := List.append_inj' asked rfl
      obtain ⟨alike, bound⟩ := Prod.ext_iff.1 (List.cons.inj last).1
      have grown : p.controller.executed <+: (Turn.after ⟨p, fuel, s⟩).controller.executed :=
        (Turn.moves ⟨p, fuel, s⟩).executed_grows
      obtain ⟨seen, same⟩ := ih run' before (agree.mono grown)
      obtain rfl : fuel = t.fuel := bound
      have policies : t.before.controller.machine.policy = policy := run'.policy_eq
      rw [← run.policy_eq, ← policies] at agree
      obtain ⟨now, after⟩ := observe_outline same alike t.fuel agree
      rw [seen]
      exact ⟨congrArg (_ ++ [·]) now, after⟩

/-- Whatever the controller, an item that is cut off before the first action that panics does not
panic, and leaves what the whole item leaves; a message is cut off where the policy is. So take two
runs, under two policies, that are asked for the same once scripts are cut off, and policies that have
the same scripts, once cut off, for the messages that are processed: but for the log all that can be
seen of the two is the same, and so is what they leave, once cut off. -/
theorem panicking_item_eq_cut :
    (∀ (c : Controller) (item : Item) (policy : RouteMessage → List Action),
      (∀ m, item = .message m →
        policy m.message = Action.cut m.arg (c.machine.policy m.message)) →
      ((c.obeying policy).execute item.cut).value.1 = none ∧
      ((c.obeying policy).process item.cut).value =
        { (c.process item).value.obeying policy with executed := c.executed ++ [item.cut] }) ∧
    (∀ arg actions, trimAll arg (Action.cut arg actions) = trimAll arg actions) ∧
    ∀ (setup : Setup) (policy : RouteMessage → List Action) (past past' : List Turn)
      (p p' : Pipeline), Run setup past p → Run (setup.obeying policy) past' p' →
      past.map Turn.asked = past'.map Turn.asked →
      (∀ m, .message m ∈ p.controller.executed →
        trimAll m.arg (setup.machine.policy m.message) = trimAll m.arg (policy m.message)) →
      past.map (fun t => t.seen.unlogged) = past'.map (fun t => t.seen.unlogged) ∧
      p.outline = p'.outline :=
  ⟨fun c item _ obeys => c.process_cut item obeys, Action.trimAll_cut,
    fun _ _ _ _ _ _ h h' asked agree => h.outline h' asked agree⟩

/-- A state machine that panics over a message with argument 3 once it has made the speaker active. -/
def shaky : Setup :=
  { devices := [⟨.speaker, none⟩]
    machine :=
      { policy := fun
          | .speakerOn => [.operate (.request .speaker none), .ifArg 3 (.panic .other),
              .operate (.clear .speaker)]
          | _ => [] } }

/-- Its policy, cut off where that panics. -/
def steady : RouteMessage → List Action
  | .speakerOn => [.operate (.request .speaker none)]
  | _ => []

/-- That message, then a task that goes on with these actions once it has sent a message. -/
def shaking (rest : List Action) : List Step :=
  [.send (.withArg .speakerOn 3), .send (.task (.script (.send .muteOn none none :: rest))), .drive]

/-- A message and a task that panic, and the same ones cut off: the log tells them apart, and nothing
else does. -/
theorem shaken_seen_in_log_only :
    ∃ past past' p p', Run shaky past p ∧ Run (shaky.obeying steady) past' p' ∧
      past.map Turn.step = shaking [.panic (.text "boom"), .operate .clearBluetooth] ∧
      past'.map Turn.step = shaking [] ∧
      p.controller.executed.length = 3 ∧
      past.map (fun t => t.seen.records.length) ≠ past'.map (fun t => t.seen.records.length) ∧
      past.map (fun t => t.seen.unlogged) = past'.map (fun t => t.seen.unlogged) ∧
      p.outline = p'.outline := by
  have valid : shaky.config.validate = .ok () := validate_eq_ok_iff.2 (by decide)
  have run := @Run.ofSteps shaky { machineDump := "recorded 0 messages" } valid (by decide) rfl 9
    (shaking [.panic (.text "boom"), .operate .clearBluetooth])
  have run' := @Run.ofSteps (shaky.obeying steady) { machineDump := "recorded 0 messages" } valid
    (by decide) rfl 9 (shaking [])
  have agree : ∀ m, Item.message m ∈ [.message ⟨.speakerOn, some 3, none, {}⟩,
      .task (.script [.send .muteOn none none, .panic (.text "boom"), .operate .clearBluetooth]) {},
      .message ⟨.muteOn, none, none, ⟨[⟨.info, "route_task"⟩]⟩⟩] →
      trimAll m.arg (shaky.machine.policy m.message) = trimAll m.arg (steady m.message) := by
    simp only [List.mem_cons, List.not_mem_nil, or_false, reduceCtorEq, false_or, Item.message.injEq]
    rintro m (rfl | rfl) <;> rfl
  obtain ⟨seen, same⟩ := panicking_item_eq_cut.2.2 _ _ _ _ _ _ run run' rfl agree
  exact ⟨_, _, _, _, run, run', rfl, rfl, rfl, by decide, seen, same⟩

end CallAudio.Pipeline
