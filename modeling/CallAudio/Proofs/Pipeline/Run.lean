import CallAudio.Pipeline
import CallAudio.Proofs.Controller.Attended
import CallAudio.Proofs.Submits
import Mathlib.Data.List.ReduceOption

/-!
Runs of a pipeline, with what lies behind them. A step of a run is given its own bound for the
worker, so a run may halt the worker after any of its steps and do anything else before it goes on.
-/

namespace CallAudio.Pipeline

open Controller (Moves Move)

/-! ## Steps are moves -/

/-- The controller with the calls that are open. -/
def attended (p : Pipeline) : Attended :=
  ⟨p.controller, p.slots.reduceOption⟩

theorem course_of_submits {opens : WaitingCall.Kind → Prop} {c c' : Controller}
    (calls : List WaitingCall) (h : Submits c c') :
    Attended.Course opens ⟨c, calls⟩ ⟨c', calls⟩ := by
  induction h with
  | refl => exact .refl
  | tail _ next ih =>
    obtain ⟨scope, s, -, rfl⟩ := next
    exact ih.tail (.submit _ calls scope s)

theorem sendMany_submits (c : Controller) (s : Submission) (accepted : Nat)
    (firstError : Option RouteError) (n : Nat) :
    Submits c (sendMany c s accepted firstError n).value.2 := by
  induction n generalizing c accepted firstError with
  | zero => exact .refl
  | succ n ih =>
    simp only [sendMany, Log.Logged.value_bind]
    split <;> exact (Submits.one c Log.Scope.known_nil s).trans (ih _ _ _)

/-- Where a submission is refused and changes nothing, it is so however often it is sent. -/
theorem sendMany_of_refused {c : Controller} {s : Submission} {e : RouteError}
    (refused : (c.submit [] s).value = (.error e, c)) (accepted : Nat) (first : Option RouteError)
    (n : Nat) :
    (sendMany c s accepted first n).value.1 =
      .sent accepted (first.or (if n = 0 then none else some e)) := by
  induction n generalizing first with
  | zero => cases first <;> rfl
  | succ n ih =>
    simp only [sendMany, Log.Logged.value_bind, refused]
    rw [ih]
    cases first <;> cases n <;> rfl

theorem withRegistry_course {opens : WaitingCall.Kind → Prop} (p : Pipeline)
    {f : Registry → Controller → Log.Logged (Except RouteError Unit × Registry × Controller)}
    (h : ∀ r c, Submits c (f r c).value.2.2) :
    Attended.Course opens p.attended (p.withRegistry f).value.2.attended := by
  unfold withRegistry
  split
  · exact .refl
  · exact course_of_submits _ (h _ _)

theorem cancelAll_leaves (c : Controller) (slots : List (Option WaitingCall)) :
    Attended.Leaves slots.reduceOption ⟨c, slots.reduceOption⟩ ⟨cancelAll c slots, []⟩ := by
  unfold cancelAll
  induction slots.reduceOption generalizing c with
  | nil => exact .nil _
  | cons w rest ih =>
    have left : Attended.Leaves (w :: rest) ⟨c, [] ++ w :: rest⟩ _ := .cancel (ih (c.cancel w))
    exact left

/-- The call in a slot among the open calls, and what becomes of them when the slot changes. -/
theorem reduceOption_set {slots : List (Option WaitingCall)} {slot : Nat} {w : WaitingCall}
    (h : (slots[slot]?).join = some w) :
    ∃ before after, slots.reduceOption = before ++ w :: after ∧
      ∀ left, (slots.set slot left).reduceOption = before ++ (left.toList ++ after) := by
  induction slots generalizing slot with
  | nil => cases h
  | cons first rest ih =>
    cases slot with
    | zero =>
      cases (show first = some w from h)
      refine ⟨[], rest.reduceOption, rfl, ?_⟩
      intro left
      cases left <;> rfl
    | succ slot =>
      obtain ⟨before, after, split, changed⟩ := ih h
      refine ⟨first.toList ++ before, after, ?_, ?_⟩
      · cases first <;> simp [split]
      · intro left
        cases first <;> simp [changed left]

theorem ofOutcome_snd (outcome : WaitingCall.Outcome) : (ofOutcome outcome).2 = outcome.left? := by
  cases outcome <;> rfl

/-! ## Steps that look at a call -/

theorem value_complete (fuel : Nat) (c : Controller) (w : WaitingCall) :
    (complete fuel c w).value =
      ((c.complete fuel fuel w).value.1.elim .nothing .outcome,
        ((c.complete fuel fuel w).value.2.drive fuel).value) :=
  rfl

theorem value_heldStep_begin (fuel : Nat) (p : Pipeline) (kind : WaitingCall.Kind) :
    (heldStep fuel p (.begin kind)).value =
      let opened := p.controller.openCall kind
      let looked := (opened.2.poll opened.1).value
      (.begun p.slots.length (ofOutcome looked.1).1,
        { p with controller := looked.2, slots := p.slots ++ [looked.1.left?] }) := by
  simp only [heldStep, Log.Logged.value_bind, Log.Logged.value_pure, ofOutcome_snd]

theorem value_heldStep_poll (fuel : Nat) {p : Pipeline} {slot : Nat} {w : WaitingCall}
    (h : p.call? slot = some w) :
    (heldStep fuel p (.poll slot)).value =
      let looked := (p.controller.poll w).value
      (.polled (ofOutcome looked.1).1,
        { p with controller := looked.2, slots := p.slots.set slot looked.1.left? }) := by
  simp only [heldStep, h, Log.Logged.value_bind, Log.Logged.value_pure, ofOutcome_snd]

theorem value_heldStep_finish (fuel : Nat) {p : Pipeline} {slot : Nat} {w : WaitingCall}
    (h : p.call? slot = some w) :
    (heldStep fuel p (.finish slot)).value =
      let completed := (complete fuel p.controller w).value
      (completed.1, { p with controller := completed.2, slots := p.slots.set slot none }) := by
  simp only [heldStep, h, Log.Logged.value_bind, Log.Logged.value_pure]

/-- The kind of the call that a step opens, if it opens one. -/
def Step.opens? : Step → Option WaitingCall.Kind
  | await kind | begin kind => some kind
  | _ => none

/-- Whether a step may give up a call, because it is asked to or because its bound runs out. -/
def Step.givesUp : Step → Bool
  | await _ | finish _ | cancel _ | drop => true
  | _ => false

/-- The other steps are courses of steady moves. -/
theorem heldStep_course {s : Step} (keeps : s.givesUp = false) (fuel : Nat) (p : Pipeline) :
    Attended.Course (fun kind => s.opens? = some kind) p.attended
      (heldStep fuel p s).value.2.attended := by
  cases s with
  | await | finish | cancel | drop => cases keeps
  | send s => exact .single (.submit p.controller _ [] s)
  | sendMany n s => exact course_of_submits _ (sendMany_submits _ _ _ _ _)
  | add id => exact withRegistry_course p fun r c => r.add_submits c id
  | remove id => exact withRegistry_course p fun r c => r.remove_submits c id
  | route route address =>
    exact withRegistry_course p fun _ c => Registry.requestRoute_submits c route address
  | mute on => exact withRegistry_course p fun _ c => Registry.setMuted_submits c on
  | report r => exact course_of_submits _ (Peripherals.handleTimes_submits _ _ _ _)
  | begin kind =>
    rw [value_heldStep_begin]
    have look : Attended.Steady (fun k => (Step.begin kind).opens? = some k) _ _ :=
      .look (p.controller.openCall kind).2 p.slots.reduceOption (p.controller.openCall kind).1 []
    rw [List.append_nil] at look
    refine .head (.openCall p.controller _ rfl) ?_
    rw [attended, List.reduceOption_append, List.reduceOption_singleton]
    exact .single look
  | poll slot =>
    cases h : p.call? slot with
    | none => rw [heldStep, h]; exact .refl
    | some w =>
      obtain ⟨before, after, split, changed⟩ := reduceOption_set h
      rw [value_heldStep_poll fuel h, attended, attended, split, changed]
      exact .single (.look _ _ _ _)
  | subscribe | snapshot | state | dump => exact .refl
  | setDevices _ | decline _ | drive | changed _ | seen _ => exact .refl

/-- Whether a step needs a handle. -/
def Step.needsHandle : Step → Bool
  | setDevices _ | decline _ | drive | changed _ | seen _ => false
  | _ => true

theorem step_of_needsHandle {s : Step} (h : s.needsHandle = true) (fuel : Nat) (p : Pipeline) :
    p.step fuel s =
      if p.controller.held then heldStep fuel p s else pure (.nothing, p) := by
  cases s with
  | setDevices | decline | drive | changed | seen => cases h
  | _ => rfl

theorem value_step_of_needsHandle {s : Step} (h : s.needsHandle = true) (fuel : Nat)
    (p : Pipeline) :
    (p.step fuel s).value =
      if p.controller.held then (heldStep fuel p s).value else (.nothing, p) := by
  rw [step_of_needsHandle h]
  exact apply_ite Log.Logged.value (p.controller.held = true) (heldStep fuel p s) _

/-- Whether a step changes the platform behind the back of the arbiter. -/
def Step.changesPlatform : Step → Bool
  | setDevices _ | decline _ => true
  | _ => false

theorem step_course {s : Step} (steady : s.changesPlatform = false) (keeps : s.givesUp = false)
    (fuel : Nat) (p : Pipeline) :
    Attended.Course (fun kind => s.opens? = some kind) p.attended
      (p.step fuel s).value.2.attended := by
  cases s with
  | setDevices | decline => cases steady
  | await | finish | cancel | drop => cases keeps
  | drive => exact Attended.drive_course fuel p.controller _
  | changed subscriber =>
    rw [step]
    split
    · exact .refl
    · split <;> exact .refl
  | seen subscriber =>
    rw [step]
    split <;> exact .refl
  | _ =>
    rw [value_step_of_needsHandle rfl]
    split
    · exact heldStep_course keeps fuel p
    · exact .refl

/-- The calls that a step gives up: those that it is asked to, and one that it sees through no
further than its bound goes. -/
def givenUp (fuel : Nat) (p : Pipeline) (s : Step) : List WaitingCall :=
  if p.controller.held then
    match s with
    | .await kind =>
      let opened := p.controller.openCall kind
      (opened.2.leftOpen fuel fuel opened.1).toList
    | .finish slot => ((p.call? slot).bind (p.controller.leftOpen fuel fuel)).toList
    | .cancel slot => (p.call? slot).toList
    | .drop => p.slots.reduceOption
    | _ => []
  else []

theorem givenUp_of_keeps {s : Step} (keeps : s.givesUp = false) (fuel : Nat) (p : Pipeline) :
    p.givenUp fuel s = [] := by
  unfold givenUp
  split
  · cases s with
    | await | finish | cancel | drop => cases keeps
    | _ => rfl
  · rfl

/-- A step in stages: a course of steady moves, after which these calls are left; then the last
handle may go; and a course of steady moves again. -/
def Staged (s : Step) (gone : List WaitingCall) (a a' : Attended) : Prop :=
  ∃ b d e, Attended.Course (fun kind => s.opens? = some kind) a b ∧ Attended.Leaves gone b d ∧
    (e = d ∨ s = .drop ∧ d.calls = [] ∧ e = ⟨{ d.controller with held := false }, []⟩) ∧
    Attended.Course (fun kind => s.opens? = some kind) e a'

theorem Staged.course {s : Step} {a a' : Attended}
    (h : Attended.Course (fun kind => s.opens? = some kind) a a') : Staged s [] a a' :=
  ⟨a', a', a', h, .nil _, .inl rfl, .refl⟩

theorem heldStep_staged {s : Step} (leaves : s.givesUp = true) {p : Pipeline}
    (held : p.controller.held = true) (fuel : Nat) :
    Staged s (p.givenUp fuel s) p.attended (heldStep fuel p s).value.2.attended := by
  unfold givenUp
  rw [if_pos held]
  cases s with
  | await kind =>
    let opened := p.controller.openCall kind
    have through : Attended.Course (fun k => (Step.await kind).opens? = some k) _ _ :=
      Attended.complete_course fuel fuel opened.2 p.slots.reduceOption opened.1 []
    have left := Attended.leaves_toList (opened.2.complete fuel fuel opened.1).value.2
      p.slots.reduceOption (opened.2.leftOpen fuel fuel opened.1) []
    rw [List.append_nil p.slots.reduceOption] at left
    exact ⟨_, _, _, .head (.openCall p.controller _ rfl) through, left, .inl rfl,
      Attended.drive_course fuel _ _⟩
  | finish slot =>
    show Staged _ ((p.call? slot).bind (p.controller.leftOpen fuel fuel)).toList _ _
    cases h : p.call? slot with
    | none =>
      rw [heldStep, h]
      exact .course .refl
    | some w =>
      obtain ⟨before, after, split, changed⟩ := reduceOption_set h
      rw [value_heldStep_finish fuel h, attended, attended, split, changed]
      exact ⟨_, _, _, Attended.complete_course fuel fuel p.controller before w after,
        Attended.leaves_toList _ before _ after, .inl rfl, Attended.drive_course fuel _ _⟩
  | cancel slot =>
    show Staged _ (p.call? slot).toList _ _
    cases h : p.call? slot with
    | none =>
      rw [heldStep, h]
      exact .course .refl
    | some w =>
      obtain ⟨before, after, split, changed⟩ := reduceOption_set h
      rw [heldStep, h]
      dsimp only
      rw [Log.Logged.value_pure, attended, attended, split, changed]
      exact ⟨_, _, _, .refl, .cancel (.nil _), .inl rfl, .refl⟩
  | drop =>
    have gone : (p.slots.map fun _ => (none : Option WaitingCall)).reduceOption = [] := by
      rw [List.map_const', List.reduceOption_replicate_none]
    show Staged _ _ p.attended ⟨_, (p.slots.map fun _ => (none : Option WaitingCall)).reduceOption⟩
    rw [gone]
    exact ⟨_, _, _, .refl, cancelAll_leaves p.controller p.slots, .inr ⟨rfl, rfl, rfl⟩,
      Attended.drive_course fuel _ _⟩
  | _ => cases leaves

/-- Every step of a pipeline that leaves the platform alone goes through these stages. -/
theorem step_staged {s : Step} (steady : s.changesPlatform = false) (fuel : Nat) (p : Pipeline) :
    Staged s (p.givenUp fuel s) p.attended (p.step fuel s).value.2.attended := by
  cases leaves : s.givesUp with
  | false =>
    rw [givenUp_of_keeps leaves]
    exact .course (step_course steady leaves fuel p)
  | true =>
    have needs : s.needsHandle = true := by cases s <;> first | rfl | cases leaves
    rw [value_step_of_needsHandle needs]
    split
    · rename_i held
      exact heldStep_staged leaves held fuel
    · rename_i dropped
      have none : p.givenUp fuel s = [] := by
        unfold givenUp
        exact if_neg dropped
      rw [none]
      exact .course .refl

theorem Staged.moves {s : Step} {gone : List WaitingCall} {a a' : Attended}
    (h : Staged s gone a a') : Attended.Moves a a' := by
  obtain ⟨b, d, e, early, left, same | ⟨_, calls, dropped⟩, late⟩ := h
  · rw [same] at late
    exact early.moves.trans (left.moves.trans late.moves)
  · obtain ⟨c, none⟩ := d
    cases calls
    rw [dropped] at late
    exact early.moves.trans (left.moves.trans (.head (.letGo c) late.moves))

theorem step_attended {s : Step} (steady : s.changesPlatform = false) (fuel : Nat) (p : Pipeline) :
    Attended.Moves p.attended (p.step fuel s).value.2.attended :=
  (step_staged steady fuel p).moves

/-- The other steps change nothing but the platform. -/
theorem step_platform {s : Step} (changes : s.changesPlatform = true) (fuel : Nat) (p : Pipeline) :
    ∃ system, (p.step fuel s).value.2.attended =
      ⟨{ p.controller with system }, p.slots.reduceOption⟩ := by
  cases s with
  | setDevices devices => exact ⟨p.controller.system.setDevices devices, rfl⟩
  | decline on => exact ⟨p.controller.system.decline on, rfl⟩
  | _ => cases changes

/-- Every step of a pipeline is a sequence of moves of its controller. -/
theorem step_moves (fuel : Nat) (p : Pipeline) (s : Step) :
    Moves p.controller (p.step fuel s).value.2.controller := by
  cases platform : s.changesPlatform with
  | false => exact (step_attended platform fuel p).controller
  | true =>
    cases s with
    | setDevices devices => exact .single (.setDevices p.controller devices)
    | decline on => exact .single (.decline p.controller on)
    | _ => cases platform

/-! ## Bringing up -/

export RoutingConfig (validate_eq_ok_iff)

/-- A controller that was just brought up: nothing was submitted and nothing has run. -/
def fresh (setup : Setup) (published : RouteSnapshot) : Controller :=
  { config := setup.config
    system := .start setup.devices setup.kinds
    machine := setup.machine
    mailbox := { capacity := setup.config.queueCapacity }
    published }

/-- A pipeline that was just brought up. -/
def begun (setup : Setup) (published : RouteSnapshot) : Pipeline :=
  let controller := fresh setup published
  if setup.withCalls then
    { controller, peripherals := (Peripherals.attach {}).value, registry := some {} }
  else { controller }

@[simp] theorem controller_begun (setup : Setup) (published : RouteSnapshot) :
    (begun setup published).controller = fresh setup published := by
  unfold begun
  split <;> rfl

theorem attended_begun (setup : Setup) (published : RouteSnapshot) :
    (begun setup published).attended = ⟨fresh setup published, []⟩ := by
  unfold begun
  split <;> rfl

theorem calls_begun {setup : Setup} {published : RouteSnapshot} {r : Registry}
    (h : (begun setup published).registry = some r) : r.calls = [] := by
  unfold begun at h
  split at h
  · cases h
    rfl
  · cases h

/-- Bringing up a controller takes a usable configuration whose sizes can be laid out, and a
snapshot to publish first. -/
theorem controller_start_iff {setup : Setup} {c : Controller} :
    (∃ started, Controller.start setup.config (.start setup.devices setup.kinds) setup.machine =
      .ok started ∧ started.value = c) ↔
      setup.config.validate = .ok () ∧
      (setup.config.queueCapacity ≤ Controller.maxCapacity ∧
        setup.config.historySize ≤ Controller.maxHistory) ∧
      ∃ published, (fresh setup {}).current = .ok published ∧ c = fresh setup published := by
  unfold Controller.start
  cases setup.config.validate with
  | error e => simp
  | ok u =>
    dsimp only
    split
    · rename_i fits
      split <;> rename_i hc
      · have none : (fresh setup {}).current = _ := hc
        simp [none]
      · have first : (fresh setup {}).current = _ := hc
        constructor
        · rintro ⟨started, hs, rfl⟩
          cases hs
          exact ⟨rfl, fits, _, first, rfl⟩
        · rintro ⟨_, _, published, hp, rfl⟩
          cases first.symm.trans hp
          exact ⟨_, rfl, rfl⟩
    · rename_i large
      simp [large]

/-- So does bringing up a pipeline. -/
theorem start_iff {setup : Setup} {p : Pipeline} :
    (∃ started, start setup = .ok started ∧ started.value = p) ↔
      setup.config.validate = .ok () ∧
      (setup.config.queueCapacity ≤ Controller.maxCapacity ∧
        setup.config.historySize ≤ Controller.maxHistory) ∧
      ∃ published, (fresh setup {}).current = .ok published ∧ p = begun setup published := by
  constructor
  · rintro ⟨started, hs, rfl⟩
    unfold start at hs
    cases hc : Controller.start setup.config (.start setup.devices setup.kinds) setup.machine with
    | error e => simp [hc, Except.map] at hs
    | ok controller =>
      obtain ⟨valid, fits, published, first, hv⟩ := controller_start_iff.1 ⟨controller, hc, rfl⟩
      refine ⟨valid, fits, published, first, ?_⟩
      simp only [hc, Except.map, Except.ok.injEq] at hs
      rw [← hs, begun, ← hv, Log.Logged.value_bind]
      split <;> rfl
  · rintro ⟨valid, fits, published, first, rfl⟩
    obtain ⟨controller, hc, hv⟩ := controller_start_iff.2 ⟨valid, fits, published, first, rfl⟩
    refine ⟨_, by rw [start, hc]; rfl, ?_⟩
    rw [begun, ← hv, Log.Logged.value_bind]
    split <;> rfl

theorem begun_of_start {setup : Setup} {started : Log.Logged Pipeline}
    (h : start setup = .ok started) :
    0 < setup.config.queueCapacity ∧ ∃ published, started.value = begun setup published := by
  obtain ⟨valid, _, published, _, hp⟩ := start_iff.1 ⟨started, h, rfl⟩
  exact ⟨(validate_eq_ok_iff.1 valid).1, published, hp⟩

/-! ## Runs -/

/-- A step that was taken, with the pipeline it was taken in and the bound it was given. -/
structure Turn where
  before : Pipeline
  fuel : Nat
  step : Step

/-- The pipeline after the step. -/
def Turn.after (t : Turn) : Pipeline :=
  (t.before.observe t.fuel t.step).2

/-- What could be seen of the step. -/
def Turn.seen (t : Turn) : Observation :=
  (t.before.observe t.fuel t.step).1

/-- `Run setup past p`: a pipeline brought up with `setup` has taken the steps in `past`, oldest
first, and is now `p`. -/
inductive Run (setup : Setup) : List Turn → Pipeline → Prop
  | start {started : Log.Logged Pipeline} (h : Pipeline.start setup = .ok started) :
      Run setup [] started.value
  | step {past : List Turn} {p : Pipeline} (h : Run setup past p) (fuel : Nat) (s : Step) :
      Run setup (past ++ [⟨p, fuel, s⟩]) (Turn.after ⟨p, fuel, s⟩)

theorem Turn.moves (t : Turn) : Moves t.before.controller t.after.controller :=
  step_moves t.fuel t.before t.step

/-- What holds of a controller that was just brought up and is kept by every move holds along every
run. -/
theorem Run.keep {P : Controller → Prop} {setup : Setup} {past : List Turn} {p : Pipeline}
    (h : Run setup past p)
    (fresh : 0 < setup.config.queueCapacity → ∀ published, P (fresh setup published))
    (step : ∀ {c c'}, P c → Move c c' → P c') : P p.controller := by
  induction h with
  | start h =>
    obtain ⟨room, published, hp⟩ := begun_of_start h
    rw [hp, controller_begun]
    exact fresh room published
  | @step past p _ fuel s ih => exact (Turn.moves ⟨p, fuel, s⟩).keep step ih

/-- The same with the open calls in view. Where a run changes the platform, what is to hold must not
depend on it. -/
theorem Run.attends {P : Attended → Prop} {setup : Setup} {past : List Turn} {p : Pipeline}
    (h : Run setup past p) (fresh : ∀ published, P ⟨fresh setup published, []⟩)
    (move : ∀ {a a'}, P a → Attended.Move a a' → P a')
    (platform : (∃ t ∈ past, t.step.changesPlatform = true) →
      ∀ {c calls}, P ⟨c, calls⟩ → ∀ system, P ⟨{ c with system }, calls⟩) : P p.attended := by
  induction h with
  | start h =>
    obtain ⟨_, published, hp⟩ := begun_of_start h
    rw [hp, attended_begun]
    exact fresh published
  | @step past p _ fuel s ih =>
    have before : P p.attended :=
      ih fun ⟨t, ht, changes⟩ => platform ⟨t, List.mem_append_left _ ht, changes⟩
    cases changes : s.changesPlatform with
    | false => exact (step_attended changes fuel p).keep move before
    | true =>
      obtain ⟨system, after⟩ := step_platform changes fuel p
      show P (p.step fuel s).value.2.attended
      rw [after]
      exact platform ⟨_, List.mem_concat_self, changes⟩ before system

/-- A run up to one of its turns is a run. -/
theorem Run.before {setup : Setup} {past : List Turn} {p : Pipeline} (h : Run setup past p)
    {earlier later : List Turn} {t : Turn} (split : past = earlier ++ t :: later) :
    Run setup earlier t.before := by
  induction h generalizing later with
  | start => cases earlier <;> cases split
  | @step past p run fuel s ih =>
    rcases later.eq_nil_or_concat with rfl | ⟨later, last, rfl⟩
    · obtain ⟨rfl, ht⟩ := List.append_inj' split rfl
      cases ht
      exact run
    · rw [List.concat_eq_append, ← List.cons_append, ← List.append_assoc] at split
      exact ih (List.append_inj' split rfl).1

theorem Run.after {setup : Setup} {past : List Turn} {p : Pipeline} (h : Run setup past p)
    {earlier later : List Turn} {t : Turn} (split : past = earlier ++ t :: later) :
    Run setup (earlier ++ [t]) t.after :=
  (h.before split).step t.fuel t.step

/-- From one of its turns a run goes on by moves. -/
theorem Run.moves {setup : Setup} {past : List Turn} {p : Pipeline} (h : Run setup past p)
    {earlier later : List Turn} {t : Turn} (split : past = earlier ++ t :: later) :
    Moves t.after.controller p.controller := by
  induction h generalizing later with
  | start => cases earlier <;> cases split
  | @step past p run fuel s ih =>
    rcases later.eq_nil_or_concat with rfl | ⟨later, last, rfl⟩
    · obtain ⟨_, ht⟩ := List.append_inj' split rfl
      cases ht
      exact .refl
    · rw [List.concat_eq_append, ← List.cons_append, ← List.append_assoc] at split
      exact (ih (List.append_inj' split rfl).1).trans (Turn.moves ⟨p, fuel, s⟩)

theorem Run.moves_between {setup : Setup} {past : List Turn} {p : Pipeline} (h : Run setup past p)
    {earlier later : List Turn} {t u : Turn} (split : past = earlier ++ t :: later)
    (hu : u ∈ t :: later) : Moves t.before.controller u.before.controller := by
  rcases List.mem_cons.1 hu with rfl | hu
  · exact .refl
  · obtain ⟨between, rest, rfl⟩ := List.append_of_mem hu
    rw [← List.cons_append, ← List.append_assoc] at split
    exact t.moves.trans ((h.before split).moves rfl)

/-- The turns that a list of steps comes to under one bound. -/
def turns (fuel : Nat) (p : Pipeline) : List Step → List Turn
  | [] => []
  | s :: rest => ⟨p, fuel, s⟩ :: turns fuel (p.observe fuel s).2 rest

theorem Run.append {setup : Setup} {past : List Turn} {p : Pipeline} (h : Run setup past p)
    (fuel : Nat) (steps : List Step) :
    Run setup (past ++ p.turns fuel steps) (p.run fuel steps) := by
  induction steps generalizing past p with
  | nil => rwa [turns, List.append_nil]
  | cons s rest ih =>
    have more := ih (h.step fuel s)
    rwa [List.append_assoc] at more

/-- A list of steps, taken from the beginning under one bound, is a run. -/
theorem Run.ofSteps {setup : Setup} {published : RouteSnapshot}
    (valid : setup.config.validate = .ok ())
    (fits : setup.config.queueCapacity ≤ Controller.maxCapacity ∧
      setup.config.historySize ≤ Controller.maxHistory)
    (first : (fresh setup {}).current = .ok published) (fuel : Nat) (steps : List Step) :
    Run setup ((begun setup published).turns fuel steps)
      ((begun setup published).run fuel steps) := by
  obtain ⟨started, hs, hp⟩ := start_iff.2 ⟨valid, fits, published, first, rfl⟩
  rw [← hp]
  exact (Run.start hs).append fuel steps

end CallAudio.Pipeline
