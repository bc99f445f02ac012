import CallAudio.Proofs.Controller.Move

/-!
A controller together with the calls that are open on it. Only a call that is open is looked at or
given up, and it is looked at as it was left by the last look: so an entry of a call in the mailbox
can be traced back to the look that put it in, and to when the call was opened.
-/

namespace CallAudio

/-- A controller with the calls that are open on it. -/
structure Attended where
  controller : Controller
  calls : List WaitingCall

namespace Attended

open Controller (Worked)

/-- One move. -/
inductive Move : Attended → Attended → Prop
  | submit (c : Controller) (calls : List WaitingCall) (scope : Log.Scope) (s : Submission) :
      Move ⟨c, calls⟩ ⟨(c.submit scope s).value.2, calls⟩
  | work {c : Controller} (calls : List WaitingCall) {next : Log.Logged Controller}
      (h : c.step? = some next) : Move ⟨c, calls⟩ ⟨next.value, calls⟩
  | openCall (c : Controller) (calls : List WaitingCall) (kind : WaitingCall.Kind) :
      Move ⟨c, calls⟩ ⟨(c.openCall kind).2, calls ++ [(c.openCall kind).1]⟩
  | look (c : Controller) (before : List WaitingCall) (w : WaitingCall) (after : List WaitingCall) :
      Move ⟨c, before ++ w :: after⟩
        ⟨(c.poll w).value.2, before ++ ((c.poll w).value.1.left?.toList ++ after)⟩
  | cancel (c : Controller) (before : List WaitingCall) (w : WaitingCall)
      (after : List WaitingCall) : Move ⟨c, before ++ w :: after⟩ ⟨c.cancel w, before ++ after⟩
  /-- A call is left alone for good, without being given up. -/
  | forget (c : Controller) (before : List WaitingCall) (w : WaitingCall)
      (after : List WaitingCall) : Move ⟨c, before ++ w :: after⟩ ⟨c, before ++ after⟩
  | letGo (c : Controller) : Move ⟨c, []⟩ ⟨{ c with held := false }, []⟩

/-- A sequence of moves. -/
abbrev Moves : Attended → Attended → Prop := Relation.ReflTransGen Move

/-- What moves keep, a sequence of moves keeps. -/
theorem Moves.keep {P : Attended → Prop} (step : ∀ {a a'}, P a → Move a a' → P a')
    {a a' : Attended} (h : Moves a a') (start : P a) : P a' := by
  induction h with
  | refl => exact start
  | tail _ next ih => exact step ih next

/-- A move by which nobody gives anything up. Calls are opened only of the kinds that `opens`
allows. -/
inductive Steady (opens : WaitingCall.Kind → Prop) : Attended → Attended → Prop
  | submit (c : Controller) (calls : List WaitingCall) (scope : Log.Scope) (s : Submission) :
      Steady opens ⟨c, calls⟩ ⟨(c.submit scope s).value.2, calls⟩
  | work {c : Controller} (calls : List WaitingCall) {next : Log.Logged Controller}
      (h : c.step? = some next) : Steady opens ⟨c, calls⟩ ⟨next.value, calls⟩
  | openCall (c : Controller) (calls : List WaitingCall) {kind : WaitingCall.Kind}
      (allowed : opens kind) :
      Steady opens ⟨c, calls⟩ ⟨(c.openCall kind).2, calls ++ [(c.openCall kind).1]⟩
  | look (c : Controller) (before : List WaitingCall) (w : WaitingCall) (after : List WaitingCall) :
      Steady opens ⟨c, before ++ w :: after⟩
        ⟨(c.poll w).value.2, before ++ ((c.poll w).value.1.left?.toList ++ after)⟩

/-- A sequence of such moves. -/
abbrev Course (opens : WaitingCall.Kind → Prop) : Attended → Attended → Prop :=
  Relation.ReflTransGen (Steady opens)

variable {opens : WaitingCall.Kind → Prop}

theorem Steady.move {a a' : Attended} (m : Steady opens a a') : Move a a' := by
  cases m with
  | submit c calls scope s => exact .submit c calls scope s
  | work calls h => exact .work calls h
  | openCall c calls => exact .openCall c calls _
  | look c before w after => exact .look c before w after

theorem Course.moves {a a' : Attended} (h : Course opens a a') : Moves a a' :=
  Relation.ReflTransGen.mono (fun _ _ => Steady.move) _ _ h

/-- What steady moves keep, a course of them keeps. -/
theorem Course.keep {P : Attended → Prop} (step : ∀ {a a'}, P a → Steady opens a a' → P a')
    {a a' : Attended} (h : Course opens a a') (start : P a) : P a' := by
  induction h with
  | refl => exact start
  | tail _ next ih => exact step ih next

theorem sublist_without (before : List WaitingCall) (w : WaitingCall) (after : List WaitingCall) :
    List.Sublist (before ++ after) (before ++ w :: after) :=
  (List.sublist_cons_self w after).append_left before

/-- The calls that are left after a look at one of them. -/
theorem mem_looked {before after : List WaitingCall} {x : WaitingCall}
    {outcome : WaitingCall.Outcome} (h : x ∈ before ++ (outcome.left?.toList ++ after)) :
    x ∈ before ++ after ∨ outcome.left? = some x := by
  rcases List.mem_append.1 h with early | rest
  · exact .inl (List.mem_append_left _ early)
  · rcases List.mem_append.1 rest with left | late
    · exact .inr (Option.mem_toList.1 left)
    · exact .inl (List.mem_append_right _ late)

theorem Move.controller {a a' : Attended} (m : Move a a') :
    Relation.ReflGen Controller.Move a.controller a'.controller := by
  cases m with
  | submit c calls scope s => exact .single (.submit c scope s)
  | work calls h => exact .single (.work h)
  | openCall c calls kind => exact .single (.openCall c kind)
  | look c before w after => exact .single (.poll c w)
  | cancel c before w after => exact .single (.cancel c w)
  | forget => exact .refl
  | letGo c => exact .single (.letGo c)

theorem Moves.controller {a a' : Attended} (h : Moves a a') :
    Controller.Moves a.controller a'.controller :=
  h.keep (P := fun b => Controller.Moves a.controller b.controller)
    (fun past m => past.trans m.controller.to_reflTransGen) .refl

theorem drive_course (fuel : Nat) (c : Controller) (calls : List WaitingCall) :
    Course opens ⟨c, calls⟩ ⟨(c.drive fuel).value, calls⟩ := by
  induction fuel generalizing c with
  | zero => exact .refl
  | succ fuel ih =>
    unfold Controller.drive
    split
    · exact .refl
    · rename_i next h
      exact .head (.work calls h) (ih next.value)

theorem drive_moves (fuel : Nat) (c : Controller) (calls : List WaitingCall) :
    Moves ⟨c, calls⟩ ⟨(c.drive fuel).value, calls⟩ := by
  have course : Course (fun _ => False) _ _ := drive_course fuel c calls
  exact course.moves

/-- A call that is seen through is there until it is over. -/
theorem complete_course (workerFuel fuel : Nat) (c : Controller) (before : List WaitingCall)
    (w : WaitingCall) (after : List WaitingCall) :
    Course opens ⟨c, before ++ w :: after⟩
      ⟨(c.complete workerFuel fuel w).value.2,
        before ++ ((c.leftOpen workerFuel fuel w).toList ++ after)⟩ := by
  induction fuel generalizing c w with
  | zero => exact .refl
  | succ fuel ih =>
    have look : Steady opens _ _ := .look c before w after
    -- each round looks at the call and then runs the worker
    cases h : (c.poll w).value.1 with
    | done r =>
      rw [h] at look
      rw [Controller.complete_of_done h, Controller.leftOpen_of_done h]
      exact .single look
    | pending w' =>
      rw [h] at look
      rw [Controller.complete_of_pending h, Controller.leftOpen_of_pending h]
      exact .head look ((drive_course workerFuel _ _).trans (ih _ w'))

/-- Calls are left one after the other, be it that they are given up or just left alone. -/
inductive Leaves : List WaitingCall → Attended → Attended → Prop
  | nil (a : Attended) : Leaves [] a a
  | cancel {c : Controller} {before after : List WaitingCall} {w : WaitingCall}
      {gone : List WaitingCall} {a : Attended} (h : Leaves gone ⟨c.cancel w, before ++ after⟩ a) :
      Leaves (w :: gone) ⟨c, before ++ w :: after⟩ a
  | forget {c : Controller} {before after : List WaitingCall} {w : WaitingCall}
      {gone : List WaitingCall} {a : Attended} (h : Leaves gone ⟨c, before ++ after⟩ a) :
      Leaves (w :: gone) ⟨c, before ++ w :: after⟩ a

theorem Leaves.moves {gone : List WaitingCall} {a a' : Attended} (h : Leaves gone a a') :
    Moves a a' := by
  induction h with
  | nil => exact .refl
  | cancel _ ih => exact .head (.cancel _ _ _ _) ih
  | forget _ ih => exact .head (.forget _ _ _ _) ih

/-- A call that is not over in the end is left alone. -/
theorem leaves_toList (c : Controller) (before : List WaitingCall) (left : Option WaitingCall)
    (after : List WaitingCall) :
    Leaves left.toList ⟨c, before ++ (left.toList ++ after)⟩ ⟨c, before ++ after⟩ := by
  cases left with
  | none => exact .nil _
  | some w => exact .forget (.nil _)

theorem complete_moves (workerFuel fuel : Nat) (c : Controller) (before : List WaitingCall)
    (w : WaitingCall) (after : List WaitingCall) :
    Moves ⟨c, before ++ w :: after⟩
      ⟨(c.complete workerFuel fuel w).value.2, before ++ after⟩ := by
  have course : Course (fun _ => False) _ _ := complete_course workerFuel fuel c before w after
  exact course.moves.trans (leaves_toList _ before _ after).moves

/-- The answer of a call that is seen through is that of its last look. -/
theorem complete_answer {workerFuel fuel : Nat} {c : Controller} {w : WaitingCall}
    {r : Except RouteError Unit} (h : (c.complete workerFuel fuel w).value.1 = some r)
    (before after : List WaitingCall) :
    ∃ d stage, Course opens ⟨c, before ++ w :: after⟩ ⟨d, before ++ { w with stage } :: after⟩ ∧
      (d.poll { w with stage }).value.1 = .done r ∧
      (c.complete workerFuel fuel w).value.2 = (d.poll { w with stage }).value.2 := by
  induction fuel generalizing c w with
  | zero => cases h
  | succ fuel ih =>
    cases look : (c.poll w).value.1 with
    | done answer =>
      rw [Controller.complete_of_done look] at h ⊢
      cases h
      exact ⟨c, w.stage, .refl, look, rfl⟩
    | pending w' =>
      have first : Steady opens _ _ := .look c before w after
      rw [look] at first
      rw [Controller.complete_of_pending look] at h ⊢
      obtain ⟨_, rfl⟩ := Controller.pending_poll look
      obtain ⟨d, stage, course, finished, left⟩ := ih h
      exact ⟨d, stage, .head first ((drive_course workerFuel _ _).trans course), finished, left⟩

end Attended

namespace Controller

variable {c : Controller} {w : WaitingCall}

theorem drive_moves (fuel : Nat) (c : Controller) : Moves c (c.drive fuel).value :=
  (Attended.drive_moves fuel c []).controller

theorem complete_moves (workerFuel fuel : Nat) (c : Controller) (w : WaitingCall) :
    Moves c (c.complete workerFuel fuel w).value.2 :=
  (Attended.complete_moves workerFuel fuel c [] w []).controller

/-- A call that is seen through is looked at first. -/
theorem complete_moves_after_look {workerFuel fuel : Nat} (looks : 0 < fuel) :
    Moves (c.poll w).value.2 (c.complete workerFuel fuel w).value.2 := by
  cases fuel with
  | zero => cases looks
  | succ fuel =>
    cases look : (c.poll w).value.1 with
    | done answer => rw [complete_of_done look]
    | pending w' =>
      rw [complete_of_pending look]
      exact (drive_moves workerFuel _).trans (complete_moves _ _ _ _)

end Controller

end CallAudio
