import CallAudio.Proofs.Registry.Focus
import CallAudio.Registry.Run

/-!
Calls and focus on an adapter that rejects whatever it is told to reject. However additions, removals,
other submissions and rejections are mixed, focus is taken and given back in turn, and it is held
exactly while there are calls. Where focus is given back the device is cleared right after it: nothing
is submitted between the two, and an adapter that accepts the first accepts the second.
-/

namespace CallAudio

/-- The argument with which a submission switches focus, if it does. -/
def Submission.focus? (s : Submission) : Option (Option Int) :=
  (Item.ofSubmission {} s).focus?

/-- Focus is taken and given back in turn, `n` times in all. -/
def Focus.turns (n : Nat) : List (Option Int) :=
  (List.range n).map fun i => some (if i % 2 = 0 then active else none)

theorem Focus.turns_succ (n : Nat) :
    turns (n + 1) = turns n ++ [some (if n % 2 = 0 then active else none)] := by
  simp [turns, List.range_succ]

theorem Focus.getLast?_turns {n : Nat} :
    (turns n).getLast? = some (some active) ↔ n % 2 = 1 := by
  cases n with
  | zero => simp [turns]
  | succ n =>
    have differ : Focus.none ≠ Focus.active := by decide
    rw [turns_succ, List.getLast?_concat]
    split <;> simp [differ] <;> omega

theorem Focus.eq_of_mem_turns {n : Nat} {focus : Option Int} (h : focus ∈ turns n) :
    focus = some active ∨ focus = some none := by
  obtain ⟨i, -, rfl⟩ := List.mem_map.1 h
  split
  · exact .inl rfl
  · exact .inr rfl

/-! ## Clearing after focus is given back -/

/-- Wherever focus is given back, the clearing of the device comes right after. -/
def ClearsNext (log : List Submission) : Prop :=
  ∀ earlier s later, log = earlier ++ s :: later → s.focus? = some (some Focus.none) →
    later.head? = some (.task .clearActive)

theorem ClearsNext.nil : ClearsNext [] := by
  intro earlier s later split
  cases earlier <;> cases split

theorem ClearsNext.append {log more : List Submission} (h : ClearsNext log)
    (h' : ClearsNext more) : ClearsNext (log ++ more) := by
  intro earlier s later split gives
  rcases List.append_eq_append_iff.1 split with ⟨between, _, late⟩ | ⟨between, early, rest⟩
  · exact h' between s later late gives
  · cases between with
    | nil => exact h' [] s later rest.symm gives
    | cons first between =>
      -- what comes next is in the same part of the log
      simp only [List.cons_append, List.cons.injEq] at rest
      obtain ⟨rfl, rfl⟩ := rest
      have next := h earlier s between early gives
      rw [List.head?_append, next]
      rfl

theorem ClearsNext.single {s : Submission} (h : s.focus? ≠ some (some Focus.none)) :
    ClearsNext [s] := by
  intro earlier s' later split gives
  cases earlier with
  | nil =>
    cases split
    exact absurd gives h
  | cons first earlier => simp at split

theorem ClearsNext.release :
    ClearsNext [.withArg .switchFocus Focus.none, .task .clearActive] := by
  intro earlier s later split gives
  cases earlier with
  | nil =>
    cases split
    rfl
  | cons first earlier =>
    simp only [List.cons_append, List.cons.injEq] at split
    exact ClearsNext.single (by decide) earlier s later split.2 gives

namespace Registry

/-! ## One step -/

/-- The registry goes with what was accepted: focus was taken and given back in turn, and calls are
tracked exactly where it was taken last. -/
structure Balanced (r : Registry) (log : List Submission) : Prop where
  distinct : r.Distinct
  turns : ∃ n, log.filterMap Submission.focus? = Focus.turns n ∧ (r.calls ≠ [] ↔ n % 2 = 1)
  clears : ClearsNext log

variable {r : Registry} {a : Recorder} {log : List Submission}

theorem Balanced.other (h : Balanced r log) {s : Submission} (quiet : s.focus? = none) :
    Balanced r (log ++ [s]) := by
  obtain ⟨n, turns, tracked⟩ := h.turns
  refine ⟨h.distinct, ⟨n, ?_, tracked⟩, h.clears.append (.single (by simp [quiet]))⟩
  simp [quiet, turns]

theorem Balanced.record (h : Balanced r a.accepted) {s : Submission} (quiet : s.focus? = none) :
    Balanced r (a.record s).2.accepted := by
  cases rejections : a.rejections with
  | zero =>
    rw [Recorder.record_of_rejections rejections]
    exact h.other quiet
  | succ n =>
    rw [Recorder.record_of_rejections_succ rejections]
    exact h

/-- A release is accepted as a whole, or it fails without giving focus back. -/
theorem release_recorder (a : Recorder) :
    (a.rejections = 0 ∧ (release a).value = (.ok (),
      { a with accepted := a.accepted ++
          [.withArg .switchFocus Focus.none, .task .clearActive] })) ∨
    (a.rejections ≠ 0 ∧ ∃ e, (release a).value.1 = .error e ∧
      ((release a).value.2.accepted = a.accepted ∨
        (release a).value.2.accepted = a.accepted ++ [.task .clearActive])) := by
  rw [value_release]
  simp only [Recorder.value_submit]
  cases rejections : a.rejections with
  | zero =>
    left
    simp [Recorder.record, rejections]
  | succ n =>
    right
    rw [Recorder.record_of_rejections_succ rejections]
    refine ⟨by simp, _, rfl, ?_⟩
    -- one rejection is used up by the focus, so that the clearing may be accepted
    cases n with
    | zero => exact .inr rfl
    | succ n => exact .inl rfl

theorem Balanced.add (h : Balanced r a.accepted) (id : CallId) :
    Balanced (r.add a id).value.2.1 (r.add a id).value.2.2.accepted := by
  obtain ⟨n, turns, odd⟩ := h.turns
  rw [value_add]
  split
  · exact h
  · rename_i new
    have tracked : (r.track id).calls ≠ [] := by simp [track]
    split
    · rename_i some
      have held : r.calls ≠ [] := by simpa [hasCalls] using some
      exact ⟨h.distinct.track new, ⟨n, turns, iff_of_true tracked (odd.1 held)⟩, h.clears⟩
    · rename_i none
      have empty : r.calls = [] := by simpa [hasCalls] using none
      have even : n % 2 = 0 := by
        have not_odd := mt odd.2 (by simpa using empty)
        omega
      rw [Recorder.value_submit]
      cases rejections : a.rejections with
      | succ k =>
        rw [Recorder.record_of_rejections_succ rejections]
        exact h
      | zero =>
        rw [Recorder.record_of_rejections rejections]
        refine ⟨h.distinct.track new, ⟨n + 1, ?_, iff_of_true tracked (by omega)⟩,
          h.clears.append (.single (by decide))⟩
        rw [List.filterMap_append, turns, Focus.turns_succ, if_pos even]
        rfl

theorem Balanced.remove (h : Balanced r a.accepted) (id : CallId) :
    Balanced (r.remove a id).value.2.1 (r.remove a id).value.2.2.accepted := by
  obtain ⟨n, turns, odd⟩ := h.turns
  rw [value_remove]
  split
  · rename_i tracked
    have held := odd.1 (calls_ne_nil_of_contains tracked)
    split
    · rename_i one
      have empty := calls_untrack_of_count tracked one
      rcases release_recorder a with ⟨_, released⟩ | ⟨_, e, failed, left⟩
      · rw [released]
        refine ⟨h.distinct.untrack id, ⟨n + 1, ?_, iff_of_false (by simp [empty]) (by omega)⟩,
          h.clears.append .release⟩
        rw [List.filterMap_append, turns, Focus.turns_succ, if_neg (by omega)]
        rfl
      · rcases result : (release a).value with ⟨answer, after⟩
        rw [result] at failed left
        cases failed
        rcases left with same | cleared
        · exact same ▸ h
        · have more := h.other (s := .task .clearActive) rfl
          exact cleared ▸ more
    · rename_i several
      have left := h.distinct.calls_untrack_ne_nil tracked several
      exact ⟨h.distinct.untrack id, ⟨n, turns, iff_of_true left held⟩, h.clears⟩
  · exact h

theorem Balanced.requestRoute (h : Balanced r a.accepted) (route : AudioRoute)
    (address : Option BluetoothAddress) :
    Balanced r (requestRoute a route address).value.2.accepted := by
  unfold Registry.requestRoute
  split
  · exact h
  · rename_i m message
    have quiet : m ≠ .switchFocus := by
      cases route <;> cases message <;> decide
    split
    · exact h.record (by simp [Submission.focus?, Item.ofSubmission, Item.focus?, quiet])
    · exact h.record (by simp [Submission.focus?, Item.ofSubmission, Item.focus?, quiet])

theorem Balanced.setMuted (h : Balanced r a.accepted) (muted : Bool) :
    Balanced r (setMuted a muted).value.2.accepted :=
  h.record (by cases muted <;> decide)

/-- No report switches focus. -/
theorem message?_ne_switchFocus {p : Peripherals} {report : Report} {m : RouteMessage}
    (h : p.message? report = some m) : m ≠ .switchFocus := by
  cases report with
  | bluetooth event => cases event <;> cases h <;> decide
  | wired plugged =>
    rw [Peripherals.message?] at h
    split at h <;> cases h
    cases plugged <;> decide
  | dock docked => cases docked <;> cases h <;> decide

theorem Balanced.handle (h : Balanced r a.accepted) (p : Peripherals) (report : Report) :
    Balanced r (p.handle a report).value.2.accepted := by
  rw [Peripherals.value_handle]
  split
  · exact h
  · rename_i m message
    have quiet := message?_ne_switchFocus message
    exact h.record (by simp [Submission.focus?, Item.ofSubmission, Item.focus?, quiet])

theorem Balanced.handleTimes (h : Balanced r a.accepted) (p : Peripherals) (report : Report)
    (n : Nat) : Balanced r (p.handleTimes a report n).value.2.accepted := by
  induction n generalizing a p with
  | zero => exact h
  | succ n ih => exact ih (h.handle p report) _

theorem Balanced.peripheral {d : Peripherals.Desk} (h : Balanced r d.adapter.accepted)
    (step : Peripherals.Step) : Balanced r (d.step step).value.adapter.accepted := by
  cases step with
  | attach | reject n => exact h
  | report report direct =>
    cases direct with
    | true => exact h.handle d.peripherals report
    | false => exact h.handleTimes d.peripherals report _

theorem Balanced.step {d : Desk} (h : Balanced d.registry d.adapter.accepted) (step : Step) :
    Balanced (d.step step).value.2.registry (d.step step).value.2.adapter.accepted := by
  cases step with
  | add id => exact h.add id
  | remove id => exact h.remove id
  | route route address => exact h.requestRoute route address
  | mute on => exact h.setMuted on
  | peripheral step => exact Balanced.peripheral (d := ⟨d.peripherals, d.adapter⟩) h step

/-! ## Runs -/

theorem Balanced.run {d : Desk} (h : Balanced d.registry d.adapter.accepted)
    (steps : List Step) :
    Balanced (d.run steps).registry (d.run steps).adapter.accepted := by
  induction steps generalizing d with
  | nil => exact h
  | cons step rest ih => exact ih (h.step step)

theorem Balanced.empty : Balanced {} [] :=
  ⟨.empty, ⟨0, rfl, by simp⟩, .nil⟩

/-- The registry does not ask for the focus of a call that is only ringing. -/
theorem ringing_notMem_foci (steps : List Step) :
    some Focus.ringing ∉
      (Desk.attached.value.run steps).adapter.accepted.filterMap Submission.focus? := by
  intro mem
  have balanced : Balanced _ (Desk.attached.value.run steps).adapter.accepted := .run .empty steps
  obtain ⟨n, turns, -⟩ := balanced.turns
  rw [turns] at mem
  rcases Focus.eq_of_mem_turns mem with taken | given
  · exact absurd taken (by decide)
  · exact absurd given (by decide)

/-- An addition fails only if it is the first one and its focus is rejected. -/
theorem add_recorder_ok_iff (r : Registry) (a : Recorder) (id : CallId) :
    (r.add a id).value.1 = .ok () ↔ r.calls ≠ [] ∨ a.rejections = 0 := by
  rw [value_add]
  split
  · rename_i tracked
    exact iff_of_true rfl (.inl (calls_ne_nil_of_contains tracked))
  · split
    · rename_i some
      exact iff_of_true rfl (.inl (by simpa [hasCalls] using some))
    · rename_i none
      have empty : r.calls = [] := by simpa [hasCalls] using none
      rw [Recorder.value_submit]
      cases rejections : a.rejections with
      | zero => simp [Recorder.record_of_rejections rejections]
      | succ n => simp [Recorder.record_of_rejections_succ rejections, empty]

/-- A removal fails only if it is the last one and something of its release is rejected. -/
theorem remove_recorder_ok_iff (r : Registry) (a : Recorder) (id : CallId) :
    (r.remove a id).value.1 = .ok () ↔
      ¬r.contains id = true ∨ r.count ≠ 1 ∨ a.rejections = 0 := by
  rw [value_remove]
  split
  · rename_i tracked
    split
    · rename_i one
      rcases release_recorder a with ⟨accepts, released⟩ | ⟨rejects, e, failed, _⟩
      · simp [released, accepts]
      · rcases result : (release a).value with ⟨answer, after⟩
        rw [result] at failed
        cases failed
        simp [tracked, one, rejects]
    · rename_i several
      exact iff_of_true rfl (.inr (.inl several))
  · rename_i unknown
    exact iff_of_true rfl (.inl unknown)

/-- Along every run of calls, other submissions, reports and rejections: focus is taken and given back
in turn, and was taken last exactly while calls are tracked; wherever it is given back, the clearing of
the device is what is accepted next. A step that fails leaves the calls as they are, and only the first
addition and the last removal can fail; one that succeeds changes the tracking of its own call only. -/
theorem focus_alternates_with_calls (steps : List Step) :
    let d := Desk.attached.value.run steps
    let foci := d.adapter.accepted.filterMap Submission.focus?
    foci = Focus.turns foci.length ∧
    (d.registry.calls ≠ [] ↔ foci.getLast? = some (some Focus.active)) ∧
    (∀ earlier s later, d.adapter.accepted = earlier ++ s :: later →
      s.focus? = some (some Focus.none) → later.head? = some (.task .clearActive)) ∧
    ∀ step,
      let answer := (d.observe step).1.answer
      let after := (d.observe step).2.registry
      (∀ e, answer = some (.error e) → after = d.registry) ∧
      match step with
      | .add id =>
        (answer = some (.ok ()) ↔ d.registry.calls ≠ [] ∨ d.adapter.rejections = 0) ∧
        (answer = some (.ok ()) → ∀ other,
          after.contains other = true ↔ other = id ∨ d.registry.contains other = true)
      | .remove id =>
        (answer = some (.ok ()) ↔
          ¬d.registry.contains id = true ∨ d.registry.count ≠ 1 ∨ d.adapter.rejections = 0) ∧
        (answer = some (.ok ()) → ∀ other,
          after.contains other = true ↔ other ≠ id ∧ d.registry.contains other = true)
      | .route _ _ | .mute _ | .peripheral _ => after = d.registry := by
  intro d foci
  have balanced : Balanced d.registry d.adapter.accepted := Balanced.run .empty steps
  obtain ⟨n, turns, tracked⟩ := balanced.turns
  have length : foci.length = n := by
    rw [show foci = _ from turns, Focus.turns, List.length_map, List.length_range]
  refine ⟨by rw [length]; exact turns, ?_, balanced.clears, ?_⟩
  · rw [tracked, show foci = _ from turns, Focus.getLast?_turns]
  · intro step answer after
    cases step with
    | add id =>
      have answered : answer = some (d.registry.add d.adapter id).value.1 := rfl
      simp only [answered, Option.some.injEq]
      exact ⟨fun _ => eq_of_add_error, add_recorder_ok_iff _ _ _, contains_of_add_ok⟩
    | remove id =>
      have answered : answer = some (d.registry.remove d.adapter id).value.1 := rfl
      simp only [answered, Option.some.injEq]
      exact ⟨fun _ => eq_of_remove_error, remove_recorder_ok_iff _ _ _, contains_of_remove_ok⟩
    | route | mute | peripheral => exact ⟨fun _ _ => rfl, rfl⟩

end Registry

end CallAudio
