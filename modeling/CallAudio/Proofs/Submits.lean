import CallAudio.Proofs.Tracing.Places
import CallAudio.Registry
import Mathlib.Logic.Relation

/-!
The call registry and the peripherals only ever submit to the engine they are given, in places that
are known: whatever they do to it is a sequence of such submissions. They submit no scripts, and
cannot tell two engines apart that answer to everything else alike.
-/

namespace CallAudio

open Log (Scope)

variable {σ : Type} [Adapter σ]

/-- A sequence of submissions, accepted or not, each made in a known scope. -/
abbrev Submits : σ → σ → Prop :=
  Relation.ReflTransGen fun r r' =>
    ∃ scope s, scope.Known ∧ r' = (Adapter.submit r scope s).value.2

theorem Submits.one (r : σ) {scope : Scope} (known : scope.Known) (s : Submission) :
    Submits r (Adapter.submit r scope s).value.2 :=
  .single ⟨scope, s, known, rfl⟩

namespace Registry

/-! ## What a release, an addition and a removal come to -/

theorem value_release (routing : σ) :
    (release routing).value =
      let (released, routing) :=
        (Adapter.submit routing [] (.withArg .switchFocus Focus.none)).value
      let (cleared, routing) := (Adapter.submit routing [] (.task .clearActive)).value
      match released with
      | .error e => (.error e, routing)
      | .ok () => (cleared, routing) := by
  simp only [release, Log.Logged.value_bind]
  split <;> rename_i h <;> simp [h]

theorem value_add (r : Registry) (routing : σ) (id : CallId) :
    (r.add routing id).value =
      if r.contains id then (.ok (), r, routing)
      else if r.hasCalls then (.ok (), r.track id, routing)
      else match (Adapter.submit routing [] (.withArg .switchFocus Focus.active)).value with
        | (.error e, routing) => (.error e, r, routing)
        | (.ok (), routing) => (.ok (), r.track id, routing) := by
  unfold add
  split
  · rfl
  · cases hh : r.hasCalls with
    | true => rfl
    | false =>
      simp only [Bool.not_false, if_true, Bool.false_eq_true, if_false, Log.Logged.value_bind]
      rcases hs : (Adapter.submit routing [] (.withArg .switchFocus Focus.active)).value with
        ⟨_ | _, routing'⟩ <;> rfl

theorem value_remove (r : Registry) (routing : σ) (id : CallId) :
    (r.remove routing id).value =
      if r.contains id then
        if r.count = 1 then
          match (release routing).value with
          | (.error e, routing) => (.error e, r, routing)
          | (.ok (), routing) => (.ok (), r.untrack id, routing)
        else (.ok (), r.untrack id, routing)
      else (.ok (), r, routing) := by
  unfold remove contains
  cases hl : r.calls.lookup id with
  | none => rfl
  | some session =>
    by_cases hc : r.count = 1
    · simp only [hc, if_true, Option.isSome_some, Log.Logged.value_bind]
      rcases hs : (release routing).value with ⟨_ | _, routing'⟩ <;> rfl
    · simp only [hc, if_false, Option.isSome_some, if_true]
      rfl

theorem release_submits (routing : σ) : Submits routing (release routing).value.2 := by
  have both := (Submits.one routing Scope.known_nil (.withArg .switchFocus Focus.none)).trans
    (Submits.one _ Scope.known_nil (.task .clearActive))
  rw [value_release]
  dsimp only
  split <;> exact both

theorem add_submits (r : Registry) (routing : σ) (id : CallId) :
    Submits routing (r.add routing id).value.2.2 := by
  have one := Submits.one routing Scope.known_nil (.withArg .switchFocus Focus.active)
  rw [value_add]
  split
  · exact .refl
  · split
    · exact .refl
    · split <;> rename_i h <;> simpa [h] using one

theorem remove_submits (r : Registry) (routing : σ) (id : CallId) :
    Submits routing (r.remove routing id).value.2.2 := by
  have both := release_submits routing
  rw [value_remove]
  split
  · split
    · split <;> rename_i h <;> simpa [h] using both
    · exact .refl
  · exact .refl

theorem requestRoute_submits (routing : σ) (route : AudioRoute)
    (address : Option BluetoothAddress) :
    Submits routing (requestRoute routing route address).value.2 := by
  unfold requestRoute
  split
  · exact .refl
  · split <;> exact .one _ Scope.known_nil _

theorem setMuted_submits (routing : σ) (muted : Bool) :
    Submits routing (setMuted routing muted).value.2 :=
  .one _ Scope.known_nil _

end Registry

namespace Peripherals

/-- A message is submitted, whatever comes of it. -/
theorem value_forward (routing : σ) (span : Log.Span) (m : RouteMessage) :
    (forward routing span m).value =
      (Adapter.submit routing [span.place] (.message m)).value.2 := by
  simp only [forward, Log.Logged.value_bind]
  split <;> rfl

theorem value_handle (p : Peripherals) (routing : σ) (report : Report) :
    (p.handle routing report).value =
      (p.after report,
        match p.message? report with
        | none => routing
        | some m => (Adapter.submit routing [report.span.place] (.message m)).value.2) := by
  cases h : p.message? report with
  | none => simp only [handle, h, Log.Logged.value_within, Log.Logged.value_bind,
      Log.Logged.value_pure]
  | some m => simp only [handle, h, Log.Logged.value_within, Log.Logged.value_bind,
      Log.Logged.value_pure, value_forward]

theorem forward_submits (routing : σ) (r : Report) (m : RouteMessage) :
    Submits routing (forward routing r.span m).value := by
  rw [value_forward]
  exact .one _ r.known_span _

theorem handle_submits (p : Peripherals) (routing : σ) (report : Report) :
    Submits routing (p.handle routing report).value.2 := by
  unfold handle
  split
  · exact .refl
  · exact forward_submits _ _ _

theorem handleTimes_submits (p : Peripherals) (routing : σ) (report : Report) (n : Nat) :
    Submits routing (p.handleTimes routing report n).value.2 := by
  induction n generalizing p routing with
  | zero => exact .refl
  | succ n ih => exact (handle_submits p routing report).trans (ih _ _)

end Peripherals

/-! ## Where an error comes from -/

/-- The error is the answer to one of the submissions. -/
def Submits.Fails (e : RouteError) (r r' : σ) : Prop :=
  ∃ m scope s, Submits r m ∧ (Adapter.submit m scope s).value.1 = .error e ∧
    Submits (Adapter.submit m scope s).value.2 r'

theorem Submits.Fails.one {e : RouteError} {r : σ} {scope : Scope} {s : Submission}
    (refused : (Adapter.submit r scope s).value.1 = .error e) :
    Fails e r (Adapter.submit r scope s).value.2 :=
  ⟨r, scope, s, .refl, refused, .refl⟩

namespace Registry

open Submits (Fails)

variable {e : RouteError}

theorem release_fails {routing : σ} (h : (release routing).value.1 = .error e) :
    Fails e routing (release routing).value.2 := by
  rw [value_release] at h ⊢
  dsimp only at h ⊢
  split at h <;> rename_i released
  · cases h
    exact ⟨routing, _, _, .refl, released, .one _ Scope.known_nil _⟩
  · exact ⟨_, _, _, .one routing Scope.known_nil _, h, .refl⟩

theorem add_fails {r : Registry} {routing : σ} {id : CallId}
    (h : (r.add routing id).value.1 = .error e) :
    Fails e routing (r.add routing id).value.2.2 := by
  rw [value_add] at h ⊢
  split at h <;> rename_i known
  · cases h
  · split at h <;> rename_i calls
    · cases h
    · rw [if_neg known, if_neg calls]
      split at h <;> rename_i answer
      · cases h
        have refused := Fails.one (congrArg Prod.fst answer)
        rwa [congrArg Prod.snd answer] at refused
      · cases h

theorem remove_fails {r : Registry} {routing : σ} {id : CallId}
    (h : (r.remove routing id).value.1 = .error e) :
    Fails e routing (r.remove routing id).value.2.2 := by
  rw [value_remove] at h ⊢
  split at h <;> rename_i known
  · split at h <;> rename_i last
    · rw [if_pos known, if_pos last]
      split at h <;> rename_i answer
      · cases h
        have refused := release_fails (congrArg Prod.fst answer)
        rwa [congrArg Prod.snd answer] at refused
      · cases h
    · cases h
  · cases h

theorem requestRoute_fails {routing : σ} {route : AudioRoute} {address : Option BluetoothAddress}
    (h : (requestRoute routing route address).value.1 = .error e) :
    Fails e routing (requestRoute routing route address).value.2 := by
  unfold requestRoute at h ⊢
  split at h <;> rename_i message
  · cases h
  · split at h
    · exact Fails.one h
    · exact Fails.one h

theorem setMuted_fails {routing : σ} {muted : Bool}
    (h : (setMuted routing muted).value.1 = .error e) :
    Fails e routing (setMuted routing muted).value.2 :=
  Fails.one h

end Registry

/-! ## The recording adapter -/

namespace Recorder

theorem value_submit (a : Recorder) (scope : Scope) (s : Submission) :
    (Adapter.submit a scope s).value = a.record s :=
  rfl

theorem record_of_rejections {a : Recorder} (h : a.rejections = 0) (s : Submission) :
    a.record s = (.ok (), { a with accepted := a.accepted ++ [s] }) := by
  simp [record, h]

theorem record_of_rejections_succ {a : Recorder} {n : Nat} (h : a.rejections = n + 1)
    (s : Submission) :
    a.record s = (.error (.queueFull s.inspect), { a with rejections := n }) := by
  simp [record, h]

/-- What is accepted is kept, and nothing else. -/
theorem accepted_record (a : Recorder) (s : Submission) :
    (a.record s).2.accepted = a.accepted ++ if (a.record s).1.isOk then [s] else [] := by
  cases rejections : a.rejections with
  | zero => simp [record_of_rejections rejections, Except.isOk, Except.toBool]
  | succ n => simp [record_of_rejections_succ rejections, Except.isOk, Except.toBool]

end Recorder

/-! ## Engines that answer alike -/

/-- A submission other than a script. -/
def Submission.Plain (s : Submission) : Prop :=
  ∀ actions, s ≠ .task (.script actions)

@[simp] theorem Submission.plain_message (m : RouteMessage) : (message m).Plain := nofun

@[simp] theorem Submission.plain_withArg (m : RouteMessage) (arg : Int) : (withArg m arg).Plain :=
  nofun

@[simp] theorem Submission.plain_withPayload (m : RouteMessage) (arg : Int) (payload : String) :
    (withPayload m arg payload).Plain :=
  nofun

@[simp] theorem Submission.plain_clearActive : (task .clearActive).Plain := nofun

/-- A map between engines that goes along with every submission but scripts. -/
def Respects {τ : Type} [Adapter τ] (f : σ → τ) : Prop :=
  ∀ (r : σ) (scope : Scope) (s : Submission), s.Plain →
    (Adapter.submit (f r) scope s).value = Prod.map id f (Adapter.submit r scope s).value

namespace Respects

variable {τ : Type} [Adapter τ] {f : σ → τ}

theorem release (h : Respects f) (a : σ) :
    (Registry.release (f a)).value = Prod.map id f (Registry.release a).value := by
  have first := h a [] _ (Submission.plain_withArg .switchFocus Focus.none)
  rcases released : (Adapter.submit a [] (.withArg .switchFocus Focus.none)).value with ⟨answer, b⟩
  have second := h b [] _ Submission.plain_clearActive
  rw [released] at first
  rw [Registry.value_release, Registry.value_release, first, released]
  cases answer with
  | error e => exact congrArg (fun r => (Except.error e, r.2)) second
  | ok => exact second

theorem add (h : Respects f) (r : Registry) (a : σ) (call : CallId) :
    (r.add (f a) call).value = Prod.map id (Prod.map id f) (r.add a call).value := by
  simp only [Registry.value_add, h _ _ _ (Submission.plain_withArg _ _)]
  split
  · rfl
  · split
    · rfl
    · rcases (Adapter.submit a [] (.withArg .switchFocus Focus.active)).value with ⟨_ | _, _⟩ <;> rfl

theorem remove (h : Respects f) (r : Registry) (a : σ) (call : CallId) :
    (r.remove (f a) call).value = Prod.map id (Prod.map id f) (r.remove a call).value := by
  simp only [Registry.value_remove, h.release]
  split
  · split
    · rcases (Registry.release a).value with ⟨_ | _, _⟩ <;> rfl
    · rfl
  · rfl

theorem requestRoute (h : Respects f) (a : σ) (route : AudioRoute)
    (address : Option BluetoothAddress) :
    (Registry.requestRoute (f a) route address).value =
      Prod.map id f (Registry.requestRoute a route address).value := by
  unfold Registry.requestRoute
  split
  · rfl
  · split
    · exact h _ _ _ (Submission.plain_withPayload _ _ _)
    · exact h _ _ _ (Submission.plain_message _)

theorem setMuted (h : Respects f) (a : σ) (muted : Bool) :
    (Registry.setMuted (f a) muted).value = Prod.map id f (Registry.setMuted a muted).value :=
  h _ _ _ (Submission.plain_message _)

theorem handle (h : Respects f) (p : Peripherals) (a : σ) (report : Report) :
    (p.handle (f a) report).value = Prod.map id f (p.handle a report).value := by
  simp only [Peripherals.value_handle, h _ _ _ (Submission.plain_message _)]
  split <;> rfl

theorem handleTimes (h : Respects f) (p : Peripherals) (a : σ) (report : Report) (n : Nat) :
    (p.handleTimes (f a) report n).value = Prod.map id f (p.handleTimes a report n).value := by
  induction n generalizing p a with
  | zero => rfl
  | succ n ih =>
    simp only [Peripherals.handleTimes, Log.Logged.value_bind, h.handle]
    exact ih _ _

end Respects

end CallAudio
