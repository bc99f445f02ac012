import CallAudio.Proofs.Pipeline.Run
import CallAudio.Proofs.Tracing.Submitters

/-!
Pipelines that differ in the scopes of sessions only take every step alike, but for the diagnostic
text, which names where sessions were opened.
-/

namespace CallAudio.Pipeline

open Log (Logged Scope)

variable {f : Scope → Scope} {c c' : Controller} {p p' : Pipeline}

/-- The pipeline with every session it knows of opened in another scope. -/
def rescope (f : Scope → Scope) (p : Pipeline) : Pipeline :=
  { p with
    controller := p.controller.rescope f
    registry := p.registry.map (Registry.rescope f) }

theorem rescope_rescope (f g : Scope → Scope) (p : Pipeline) :
    (p.rescope g).rescope f = p.rescope (f ∘ g) := by
  have registries : (Registry.rescope f ∘ Registry.rescope g) = Registry.rescope (f ∘ g) :=
    funext (Registry.rescope_rescope f g)
  unfold rescope
  simp only [Option.map_map, registries, Controller.rescope_rescope]

theorem controller_alike (same : p.rescope f = p'.rescope f) :
    p.controller.rescope f = p'.controller.rescope f :=
  (congrArg Pipeline.controller same :)

theorem registry_alike (same : p.rescope f = p'.rescope f) :
    p.registry.map (Registry.rescope f) = p'.registry.map (Registry.rescope f) :=
  (congrArg Pipeline.registry same :)

/-- Alike controllers are put into alike pipelines, and the same is done to the slots of both. -/
theorem put_alike (same : p.rescope f = p'.rescope f) (controllers : c.rescope f = c'.rescope f)
    (slots : List (Option WaitingCall) → List (Option WaitingCall)) :
    rescope f { p with controller := c, slots := slots p.slots } =
      rescope f { p' with controller := c', slots := slots p'.slots } :=
  (congrArg₂ (fun (q : Pipeline) d => { q with controller := d, slots := slots q.slots })
    same controllers :)

/-! ## Parts of a step -/

theorem sendMany_alike (same : c.rescope f = c'.rescope f) (s : Submission) (accepted : Nat)
    (firstError : Option RouteError) (n : Nat) :
    (sendMany c s accepted firstError n).rescope f (Prod.map id (Controller.rescope f)) =
      (sendMany c' s accepted firstError n).rescope f (Prod.map id (Controller.rescope f)) := by
  induction n generalizing c c' accepted firstError with
  | zero => exact Logged.pure_pair_alike _ same
  | succ n ih =>
    rw [sendMany, sendMany]
    refine Logged.bind_pair_alike (Controller.submit_alike same [] s) fun answer d d' alike => ?_
    cases answer with
    | ok => exact ih alike _ _
    | error e => exact ih alike _ _

theorem withRegistry_alike (same : p.rescope f = p'.rescope f)
    {F G : Registry → Controller → Logged (Except RouteError Unit × Registry × Controller)}
    (follow : ∀ r r' c c', r.rescope f = r'.rescope f →
      Controller.rescope f c = Controller.rescope f c' →
      (F r c).rescope f (Prod.map id (Prod.map (Registry.rescope f) (Controller.rescope f))) =
        (G r' c').rescope f (Prod.map id (Prod.map (Registry.rescope f) (Controller.rescope f)))) :
    (p.withRegistry F).rescope f (Prod.map id (rescope f)) =
      (p'.withRegistry G).rescope f (Prod.map id (rescope f)) := by
  have registries := registry_alike same
  unfold withRegistry
  cases left : p.registry with
  | none =>
    rw [left, Option.map_none, eq_comm, Option.map_eq_none_iff] at registries
    rw [registries]
    exact Logged.pure_pair_alike _ same
  | some r =>
    rw [left, Option.map_some, eq_comm, Option.map_eq_some_iff] at registries
    obtain ⟨r', right, alike⟩ := registries
    rw [right]
    refine Logged.bind_pair_alike (follow r r' _ _ alike.symm (controller_alike same))
      fun answer (r, c) (r', c') alike => Logged.pure_pair_alike _ ?_
    obtain ⟨calls, controllers⟩ :
        r.rescope f = r'.rescope f ∧ c.rescope f = c'.rescope f := Prod.ext_iff.1 alike
    have put (q : Pipeline) (r : Registry) (c : Controller) :
        rescope f { q with registry := some r, controller := c } =
          { q.rescope f with registry := some (r.rescope f), controller := c.rescope f } := rfl
    rw [put, put, same, calls, controllers]

theorem complete_alike (same : c.rescope f = c'.rescope f) (fuel : Nat) (w : WaitingCall) :
    (complete fuel c w).rescope f (Prod.map id (Controller.rescope f)) =
      (complete fuel c' w).rescope f (Prod.map id (Controller.rescope f)) := by
  unfold complete
  refine Logged.bind_pair_alike (Controller.complete_alike same fuel fuel w)
    fun answer d d' completed => ?_
  exact Logged.bind_alike (Controller.drive_alike completed fuel) fun _ _ driven =>
    Logged.pure_pair_alike _ driven

theorem cancelAll_alike (same : c.rescope f = c'.rescope f) (slots : List (Option WaitingCall)) :
    (cancelAll c slots).rescope f = (cancelAll c' slots).rescope f := by
  unfold cancelAll
  induction slots.reduceOption generalizing c c' with
  | nil => exact same
  | cons w rest ih => exact ih (Controller.cancel_alike same w)

/-- What is done with the call in a slot, if there is one. -/
theorem slot_alike (same : p.rescope f = p'.rescope f) (slot : Nat)
    {F G : WaitingCall → Logged (Answer × Pipeline)}
    (follow : ∀ w, (F w).rescope f (Prod.map id (rescope f)) =
      (G w).rescope f (Prod.map id (rescope f))) :
    (match p.call? slot with
      | none => pure (Answer.nothing, p)
      | some w => F w).rescope f (Prod.map id (rescope f)) =
      (match p'.call? slot with
      | none => pure (Answer.nothing, p')
      | some w => G w).rescope f (Prod.map id (rescope f)) := by
  have slots : p.slots = p'.slots := (congrArg Pipeline.slots same :)
  have call : p.call? slot = p'.call? slot := by rw [call?, call?, slots]
  rw [← call]
  cases p.call? slot with
  | none => exact Logged.pure_pair_alike _ same
  | some w => exact follow w

/-! ## Steps -/

theorem step_dump (fuel : Nat) (p : Pipeline) :
    p.step fuel .dump =
      if p.controller.held then pure (.dump p.controller.dump, p) else pure (.nothing, p) :=
  rfl

theorem heldStep_alike (same : p.rescope f = p'.rescope f) {s : Step} (quiet : s ≠ .dump)
    (fuel : Nat) :
    (heldStep fuel p s).rescope f (Prod.map id (rescope f)) =
      (heldStep fuel p' s).rescope f (Prod.map id (rescope f)) := by
  have controllers := controller_alike same
  have blind : Blind f (Controller.rescope f) := Controller.blind
  have slots : p.slots = p'.slots := (congrArg Pipeline.slots same :)
  have published : p.controller.published = p'.controller.published :=
    (congrArg Controller.published controllers :)
  have config : p.controller.config = p'.controller.config :=
    (congrArg Controller.config controllers :)
  cases s with
  | dump => exact absurd rfl quiet
  | send s =>
    exact Logged.bind_pair_alike (Controller.submit_alike controllers [] s) fun _ _ _ sent =>
      Logged.pure_pair_alike _ (put_alike same sent id)
  | sendMany n s =>
    exact Logged.bind_pair_alike (sendMany_alike controllers s 0 none n) fun _ _ _ sent =>
      Logged.pure_pair_alike _ (put_alike same sent id)
  | add call =>
    exact withRegistry_alike same fun _ _ _ _ calls alike =>
      Registry.add_alike blind calls alike call
  | remove call =>
    exact withRegistry_alike same fun _ _ _ _ calls alike =>
      Registry.remove_alike blind calls alike call
  | route route address =>
    exact withRegistry_alike same fun _ _ _ _ calls alike =>
      Logged.bind_pair_alike (Registry.requestRoute_alike blind alike route address)
        fun _ _ _ asked => Logged.pure_pair_alike _ (Prod.ext calls asked)
  | mute on =>
    exact withRegistry_alike same fun _ _ _ _ calls alike =>
      Logged.bind_pair_alike (Registry.setMuted_alike blind alike on)
        fun _ _ _ asked => Logged.pure_pair_alike _ (Prod.ext calls asked)
  | report r =>
    have peripherals : p.peripherals = p'.peripherals := (congrArg Pipeline.peripherals same :)
    rw [heldStep, heldStep, ← peripherals]
    refine Logged.bind_pair_alike (Peripherals.deliver_alike blind controllers p.peripherals r)
      fun peripherals d d' delivered => Logged.pure_pair_alike _ ?_
    exact congrArg (fun q : Pipeline => { q with peripherals }) (put_alike same delivered id)
  | await kind =>
    obtain ⟨call, opened⟩ := Controller.openCall_alike controllers kind
    rw [heldStep, heldStep]
    dsimp only
    rw [← call]
    exact Logged.bind_pair_alike (complete_alike opened fuel _) fun _ _ _ completed =>
      Logged.pure_pair_alike _ (put_alike same completed id)
  | begin kind =>
    obtain ⟨call, opened⟩ := Controller.openCall_alike controllers kind
    rw [heldStep, heldStep]
    dsimp only
    rw [← call, congrArg List.length slots]
    exact Logged.bind_pair_alike (Controller.poll_alike opened _) fun outcome _ _ polled =>
      Logged.pure_pair_alike _ (put_alike same polled fun slots => slots ++ [(ofOutcome outcome).2])
  | poll slot =>
    refine slot_alike same slot fun w => ?_
    exact Logged.bind_pair_alike (Controller.poll_alike controllers w) fun outcome _ _ polled =>
      Logged.pure_pair_alike _
        (put_alike same polled fun slots => slots.set slot (ofOutcome outcome).2)
  | finish slot =>
    refine slot_alike same slot fun w => ?_
    exact Logged.bind_pair_alike (complete_alike controllers fuel w) fun _ _ _ completed =>
      Logged.pure_pair_alike _ (put_alike same completed fun slots => slots.set slot none)
  | cancel slot =>
    refine slot_alike same slot fun w => ?_
    exact Logged.pure_pair_alike _ (put_alike same (Controller.cancel_alike controllers w)
      fun slots => slots.set slot none)
  | snapshot =>
    rw [heldStep, heldStep, published]
    exact Logged.pure_pair_alike _ same
  | state =>
    rw [heldStep, heldStep, published, config]
    exact Logged.pure_pair_alike _ same
  | subscribe =>
    have subscribers : p.subscribers = p'.subscribers := (congrArg Pipeline.subscribers same :)
    rw [heldStep, heldStep, congrArg List.length subscribers]
    exact Logged.pure_pair_alike _ (congrArg (fun q : Pipeline =>
      { q with subscribers := q.subscribers ++ [0] }) same :)
  | drop =>
    have dropped : Controller.rescope f { cancelAll p.controller p.slots with held := false } =
        Controller.rescope f { cancelAll p'.controller p'.slots with held := false } := by
      rw [← slots]
      exact (congrArg (fun d : Controller => { d with held := false })
        (cancelAll_alike controllers p.slots) :)
    exact Logged.bind_alike (Controller.drive_alike dropped fuel) fun _ _ driven =>
      Logged.pure_pair_alike _ (put_alike same driven (List.map fun _ => none))
  | setDevices | decline | drive | changed | seen => exact Logged.pure_pair_alike _ same

/-- Every step but the one that asks for the diagnostic text is taken alike. -/
theorem step_alike (same : p.rescope f = p'.rescope f) {s : Step} (quiet : s ≠ .dump)
    (fuel : Nat) :
    (p.step fuel s).rescope f (Prod.map id (rescope f)) =
      (p'.step fuel s).rescope f (Prod.map id (rescope f)) := by
  have controllers := controller_alike same
  have subscribers : p.subscribers = p'.subscribers := (congrArg Pipeline.subscribers same :)
  cases needs : s.needsHandle with
  | true =>
    have held : p.controller.held = p'.controller.held :=
      (congrArg Controller.held controllers :)
    rw [step_of_needsHandle needs, step_of_needsHandle needs, ← held]
    split
    · exact heldStep_alike same quiet fuel
    · exact Logged.pure_pair_alike _ same
  | false =>
    cases s with
    | setDevices devices =>
      refine Logged.pure_pair_alike _ (put_alike same ?_ id)
      exact (congrArg (fun d : Controller => { d with system := d.system.setDevices devices })
        controllers :)
    | decline on =>
      refine Logged.pure_pair_alike _ (put_alike same ?_ id)
      exact (congrArg (fun d : Controller => { d with system := d.system.decline on })
        controllers :)
    | drive =>
      exact Logged.bind_alike (Controller.drive_alike controllers fuel) fun _ _ driven =>
        Logged.pure_pair_alike _ (put_alike same driven id)
    | changed subscriber =>
      have phase : p.controller.phase = p'.controller.phase :=
        (congrArg Controller.phase controllers :)
      have version : p.controller.version = p'.controller.version :=
        (congrArg Controller.version controllers :)
      rw [step, step, ← subscribers, ← phase, ← version]
      split
      · exact Logged.pure_pair_alike _ same
      · split <;> exact Logged.pure_pair_alike _ same
    | seen subscriber =>
      have published : p.controller.published = p'.controller.published :=
        (congrArg Controller.published controllers :)
      rw [step, step, ← subscribers, ← published]
      split
      · exact Logged.pure_pair_alike _ same
      · exact Logged.pure_pair_alike _ (congrArg (fun q : Pipeline =>
          { q with subscribers := p.subscribers.set subscriber q.controller.version }) same :)
    | _ => cases needs

end CallAudio.Pipeline
