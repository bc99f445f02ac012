import CallAudio.Proofs.Pipeline.Run
import CallAudio.Proofs.Registry.Focus

/-!
Routing focus along a run in which nobody but the registry switches focus. A call that was reported as
added holds focus, except where the calls tracked before it were half released.
-/

namespace CallAudio.Pipeline

open Controller (lastFocus_of_since)

/-- Whether a step adds or removes a call. -/
def Step.isOfRegistry : Step → Bool
  | add _ | remove _ => true
  | _ => false

/-- Nobody but the registry has a switch of focus accepted. -/
def Turn.Quiet (t : Turn) : Prop :=
  t.step.isOfRegistry = false →
    ∀ item ∈ since t.before.controller.accepted t.after.controller.accepted, item.focus? = none

theorem Turn.quiet_of_isOfRegistry {t : Turn} (h : t.step.isOfRegistry = true) : t.Quiet := by
  intro other
  cases h.symm.trans other

theorem Turn.quiet_of_accepted {t : Turn}
    (h : t.after.controller.accepted = t.before.controller.accepted) : t.Quiet := by
  intro _
  rw [h, since, List.drop_length]
  exact List.forall_mem_nil _

/-- Whether a step is a removal that found no room to have the device cleared. -/
def uncleared : Step → Answer → Bool
  | .remove _, .outcome answer => Registry.uncleared answer
  | _, _ => false

/-- Whether the calls are half released after a step, given whether they were before it. -/
def Turn.halfReleased (half : Bool) (t : Turn) : Bool :=
  if t.seen.callCount = some 0 then false else half || uncleared t.step t.seen.answer

/-- Whether the calls are half released: a removal found no room to have the device cleared, and there
have been calls ever since. -/
def halfReleased (past : List Turn) : Bool :=
  past.foldl Turn.halfReleased false

theorem halfReleased_append (past : List Turn) (t : Turn) :
    halfReleased (past ++ [t]) = t.halfReleased (halfReleased past) := by
  simp [halfReleased]

/-! ## Steps of the registry -/

/-- What a step of the registry comes to: it does nothing where there is no handle or no registry. -/
def OfRegistry (p : Pipeline)
    (f : Registry → Controller → Log.Logged (Except RouteError Unit × Registry × Controller))
    (result : Answer × Pipeline) : Prop :=
  result = (.nothing, p) ∨ ∃ r, p.registry = some r ∧
    result = (.outcome (f r p.controller).value.1,
      { p with
        registry := some (f r p.controller).value.2.1
        controller := (f r p.controller).value.2.2 })

theorem ofRegistry_withRegistry (p : Pipeline)
    (f : Registry → Controller → Log.Logged (Except RouteError Unit × Registry × Controller)) :
    OfRegistry p f (p.withRegistry f).value := by
  cases hr : p.registry with
  | none => exact .inl (by simp [withRegistry, hr])
  | some r => exact .inr ⟨r, hr, by simp [withRegistry, hr]⟩

theorem ofRegistry_add (fuel : Nat) (p : Pipeline) (id : CallId) :
    OfRegistry p (fun r c => r.add c id) (p.step fuel (.add id)).value := by
  rw [value_step_of_needsHandle rfl]
  split
  · exact ofRegistry_withRegistry p _
  · exact .inl rfl

theorem ofRegistry_remove (fuel : Nat) (p : Pipeline) (id : CallId) :
    OfRegistry p (fun r c => r.remove c id) (p.step fuel (.remove id)).value := by
  rw [value_step_of_needsHandle rfl]
  split
  · exact ofRegistry_withRegistry p _
  · exact .inl rfl

theorem registry_heldStep {s : Step} (h : s.isOfRegistry = false) (fuel : Nat) (p : Pipeline) :
    (heldStep fuel p s).value.2.registry = p.registry := by
  cases s with
  | add | remove => cases h
  | route | mute =>
    simp only [heldStep, withRegistry]
    split <;> simp_all
  | poll slot | finish slot | cancel slot =>
    rw [heldStep]
    split <;> rfl
  | _ => rfl

/-- All other steps leave the registry as it is. -/
theorem registry_step {s : Step} (h : s.isOfRegistry = false) (fuel : Nat) (p : Pipeline) :
    (p.step fuel s).value.2.registry = p.registry := by
  cases s with
  | setDevices | decline | drive => rfl
  | changed subscriber =>
    rw [step]
    split
    · rfl
    · split <;> rfl
  | seen subscriber =>
    rw [step]
    split <;> rfl
  | _ =>
    rw [value_step_of_needsHandle rfl]
    split
    · exact registry_heldStep h fuel p
    · rfl

/-! ## Focus along a run -/

/-- The calls hold focus unless they were half released; no calls, nothing half released. -/
structure Follows (half : Bool) (p : Pipeline) : Prop where
  settled : ∀ r, p.registry = some r → r.calls = [] → half = false
  holds : ∀ r, p.registry = some r → r.Holds half p.controller

variable {half : Bool} {t : Turn}

theorem Turn.callCount_seen {r : Registry} (h : t.after.registry = some r) :
    t.seen.callCount = some r.count := by
  show t.after.registry.map Registry.count = some r.count
  rw [h]
  rfl

theorem Follows.holds_add {p : Pipeline} (h : Follows half p) (fuel : Nat) (id : CallId)
    {r : Registry} (hr : (p.step fuel (.add id)).value.2.registry = some r) :
    r.Holds half (p.step fuel (.add id)).value.2.controller := by
  rcases ofRegistry_add fuel p id with idle | ⟨r₀, hr₀, done⟩
  · rw [idle] at hr ⊢
    exact h.holds r hr
  · rw [done] at hr ⊢
    cases hr
    exact (h.holds r₀ hr₀).add (h.settled r₀ hr₀) id

theorem Follows.holds_remove {p : Pipeline} (h : Follows half p) (fuel : Nat) (id : CallId)
    {r : Registry} (hr : (p.step fuel (.remove id)).value.2.registry = some r) :
    r.Holds (half || uncleared (.remove id) (p.step fuel (.remove id)).value.1)
      (p.step fuel (.remove id)).value.2.controller := by
  rcases ofRegistry_remove fuel p id with idle | ⟨r₀, hr₀, done⟩
  · rw [idle] at hr ⊢
    rw [uncleared, Bool.or_false]
    · exact h.holds r hr
    · intro _ _ _ answered
      cases answered
  · rw [done] at hr ⊢
    cases hr
    exact (h.holds r₀ hr₀).remove id

/-- Outside additions and removals neither the calls nor the last switch of focus change. -/
theorem Follows.holds_other (h : Follows half t.before) (quiet : t.Quiet)
    (other : t.step.isOfRegistry = false) {r : Registry} (hr : t.after.registry = some r) :
    r.Holds half t.after.controller := by
  have same : t.after.registry = t.before.registry := registry_step other t.fuel t.before
  have last := lastFocus_of_since t.moves.accepted_grows (quiet other)
  intro tracked
  -- the worker may have run, but what it had accepted does not switch focus
  rw [last]
  exact h.holds r (same ▸ hr) tracked

theorem Follows.holds_turn (h : Follows half t.before) (quiet : t.Quiet) {r : Registry}
    (hr : t.after.registry = some r) :
    r.Holds (half || uncleared t.step t.seen.answer) t.after.controller := by
  obtain ⟨p, fuel, s⟩ := t
  cases s with
  | add id =>
    show r.Holds (half || false) _
    rw [Bool.or_false]
    exact h.holds_add fuel id hr
  | remove id => exact h.holds_remove fuel id hr
  | _ =>
    show r.Holds (half || false) _
    rw [Bool.or_false]
    exact h.holds_other quiet rfl hr

theorem Follows.turn (h : Follows half t.before) (quiet : t.Quiet) :
    Follows (t.halfReleased half) t.after := by
  constructor
  · intro r hr empty
    have count := Turn.callCount_seen hr
    rw [Registry.count, empty] at count
    rw [Turn.halfReleased, count]
    rfl
  · intro r hr tracked
    have count : t.seen.callCount ≠ some 0 := by
      rw [Turn.callCount_seen hr, Registry.count]
      simpa using tracked
    -- with calls left the verdict changes by a failed removal only
    rw [Turn.halfReleased, if_neg count]
    exact h.holds_turn quiet hr tracked

theorem Run.follows {setup : Setup} {past : List Turn} {p : Pipeline} (h : Run setup past p)
    (quiet : ∀ t ∈ past, t.Quiet) : Follows (halfReleased past) p := by
  induction h with
  | start h =>
    refine ⟨fun _ _ _ => rfl, ?_⟩
    intro r hr tracked
    obtain ⟨_, published, hp⟩ := begun_of_start h
    rw [hp] at hr
    exact absurd (calls_begun hr) tracked
  | @step past p run fuel s ih =>
    rw [halfReleased_append]
    have before := ih fun t ht => quiet t (List.mem_append_left _ ht)
    exact before.turn (t := ⟨p, fuel, s⟩) (quiet _ List.mem_concat_self)

/-- After an addition that succeeds, the last switch of focus that was accepted gives focus to the
calls, unless they were half released. -/
theorem focus_active_iff_not_halfReleased {setup : Setup} {past : List Turn} {p : Pipeline}
    (h : Run setup past p) (quiet : ∀ t ∈ past, t.Quiet) (fuel : Nat) (id : CallId)
    (added : (p.observe fuel (.add id)).1.answer = .outcome (.ok ())) :
    (p.observe fuel (.add id)).2.controller.lastFocus = some (some Focus.active) ↔
      halfReleased past = false := by
  change (p.step fuel (.add id)).value.1 = _ at added
  rcases ofRegistry_add fuel p id with idle | ⟨r, _, done⟩
  -- a step that does nothing has no outcome
  · rw [idle] at added
    cases added
  · have registry : (p.step fuel (.add id)).value.2.registry =
        some (r.add p.controller id).value.2.1 := by rw [done]
    rw [done] at added
    cases added' : (r.add p.controller id).value.1 with
    | error e => simp [added'] at added
    | ok _ => exact (h.follows quiet).holds_add fuel id registry (r.calls_of_add_ok added')

/-- A release that finds room for both of its submissions: the call that is added next has focus. -/
theorem focus_active_after_release :
    ∃ past p, Run { config := { queueCapacity := 2 } } past p ∧
      past.map Turn.step = [.add ⟨1⟩, .drive, .remove ⟨1⟩, .drive] ∧ (∀ t ∈ past, t.Quiet) ∧
      (p.observe 4 (.add ⟨2⟩)).1.answer = .outcome (.ok ()) ∧ halfReleased past = false ∧
      (p.observe 4 (.add ⟨2⟩)).2.controller.lastFocus = some (some Focus.active) := by
  have valid : RoutingConfig.validate { queueCapacity := 2 } = .ok () :=
    validate_eq_ok_iff.2 (by decide)
  have run := @Run.ofSteps { config := { queueCapacity := 2 } } _ valid (by decide) rfl 4
    [.add ⟨1⟩, .drive, .remove ⟨1⟩, .drive]
  refine ⟨_, _, run, rfl, ?quiet, rfl, rfl,
    (focus_active_iff_not_halfReleased run ?quiet 4 ⟨2⟩ rfl).2 rfl⟩
  simp only [List.forall_mem_cons, turns]
  exact ⟨Turn.quiet_of_isOfRegistry rfl, Turn.quiet_of_accepted rfl,
    Turn.quiet_of_isOfRegistry rfl, Turn.quiet_of_accepted rfl, List.forall_mem_nil _⟩

/-- A release that finds room for one of its submissions only: the removal fails, the call that is
added next is reported as added, and there is no focus. -/
theorem no_focus_after_half_release :
    ∃ past p, Run { config := { queueCapacity := 2 } } past p ∧
      past.map Turn.step = [.add ⟨1⟩, .remove ⟨1⟩, .drive] ∧ (∀ t ∈ past, t.Quiet) ∧
      (p.observe 4 (.add ⟨2⟩)).1.answer = .outcome (.ok ()) ∧ halfReleased past = true ∧
      (p.observe 4 (.add ⟨2⟩)).2.controller.lastFocus = some (some Focus.none) ∧
      Focus.none ≠ Focus.active := by
  have valid : RoutingConfig.validate { queueCapacity := 2 } = .ok () :=
    validate_eq_ok_iff.2 (by decide)
  have run := @Run.ofSteps { config := { queueCapacity := 2 } } _ valid (by decide) rfl 4
    [.add ⟨1⟩, .remove ⟨1⟩, .drive]
  refine ⟨_, _, run, rfl, ?quiet, rfl, rfl, rfl, by decide⟩
  simp only [List.forall_mem_cons, turns]
  exact ⟨Turn.quiet_of_isOfRegistry rfl, Turn.quiet_of_isOfRegistry rfl,
    Turn.quiet_of_accepted rfl, List.forall_mem_nil _⟩

end CallAudio.Pipeline
