import CallAudio.Proofs.Submits
import Mathlib.Data.List.Nodup

/-!
Which calls are tracked. Whatever engine is at hand, an addition or a removal that succeeds changes the
tracking of its own call only, and one that fails changes nothing. No call is tracked twice, so that
removing one of several calls leaves some.
-/

namespace CallAudio.Registry

open Log (Logged)

/-! ## Tracked calls -/

theorem contains_iff {r : Registry} {id : CallId} :
    r.contains id = true ↔ id ∈ r.calls.map Prod.fst := by
  rw [contains, List.lookup_isSome_iff, List.mem_map]
  constructor
  · rintro ⟨call, tracked, same⟩
    exact ⟨call, tracked, (beq_iff_eq.1 same).symm⟩
  · rintro ⟨call, tracked, rfl⟩
    exact ⟨call, tracked, beq_self_eq_true _⟩

theorem contains_track {r : Registry} {id other : CallId} :
    (r.track id).contains other = true ↔ other = id ∨ r.contains other = true := by
  simp only [contains_iff, track, List.map_append, List.mem_append, List.map_cons, List.map_nil,
    List.mem_singleton, or_comm]

theorem contains_untrack {r : Registry} {id other : CallId} :
    (r.untrack id).contains other = true ↔ other ≠ id ∧ r.contains other = true := by
  simp only [contains_iff, untrack, List.mem_map, List.mem_filter, bne_iff_ne]
  constructor
  · rintro ⟨call, ⟨tracked, ne⟩, rfl⟩
    exact ⟨ne, call, tracked, rfl⟩
  · rintro ⟨ne, call, tracked, rfl⟩
    exact ⟨call, ⟨tracked, ne⟩, rfl⟩

theorem calls_ne_nil_of_contains {r : Registry} {id : CallId} (h : r.contains id = true) :
    r.calls ≠ [] := by
  intro none
  rw [contains, none] at h
  cases h

theorem calls_untrack_of_count {r : Registry} {id : CallId} (h : r.contains id = true)
    (one : r.count = 1) : (r.untrack id).calls = [] := by
  obtain ⟨⟨id', session⟩, single⟩ := List.length_eq_one_iff.1 one
  obtain ⟨call, tracked, same⟩ := List.lookup_isSome_iff.1 h
  rw [single, List.mem_singleton] at tracked
  have other : id = id' := by simpa [tracked] using same
  rw [untrack, single]
  simp [other]

/-- No call is tracked twice. -/
def Distinct (r : Registry) : Prop :=
  (r.calls.map Prod.fst).Nodup

theorem Distinct.empty : Distinct {} :=
  List.nodup_nil

theorem Distinct.track {r : Registry} (h : r.Distinct) {id : CallId}
    (new : ¬r.contains id = true) : (r.track id).Distinct := by
  rw [contains_iff] at new
  rw [Distinct, Registry.track, List.map_append]
  exact List.Nodup.append h (List.nodup_singleton id) (by simpa using new)

theorem Distinct.untrack {r : Registry} (h : r.Distinct) (id : CallId) : (r.untrack id).Distinct :=
  h.sublist (List.filter_sublist.map Prod.fst)

/-- One of several calls can be removed without the registry being empty then. -/
theorem Distinct.calls_untrack_ne_nil {r : Registry} (h : r.Distinct) {id : CallId}
    (tracked : r.contains id = true) (several : r.count ≠ 1) : (r.untrack id).calls ≠ [] := by
  intro none
  have all : ∀ other ∈ r.calls.map Prod.fst, other = id := by
    intro other mem
    by_contra ne
    have left := contains_untrack.2 ⟨ne, contains_iff.2 mem⟩
    exact calls_ne_nil_of_contains left none
  -- a list of copies without repetition is no longer than one
  have copies := List.eq_replicate_of_mem all
  have short : (r.calls.map Prod.fst).length ≤ 1 := by
    rw [← List.nodup_replicate (a := id), ← copies]
    exact h
  have some := List.length_pos_of_mem (contains_iff.1 tracked)
  rw [List.length_map] at short some
  exact several (by rw [count]; omega)

theorem untrack_of_not_contains {r : Registry} {id : CallId} (h : ¬r.contains id = true) :
    r.untrack id = r := by
  rw [contains_iff, List.mem_map] at h
  have same : r.calls.filter (fun c => c.1 != id) = r.calls := by
    refine List.filter_eq_self.2 fun call tracked => bne_iff_ne.2 fun is => ?_
    exact h ⟨call, tracked, is⟩
  rw [untrack, same]

/-! ## Additions and removals -/

variable {σ : Type} [Adapter σ]

/-- An addition fails and changes nothing, or has the call tracked. -/
theorem add_cases (r : Registry) (routing : σ) (id : CallId) :
    (∃ e, (r.add routing id).value.1 = .error e ∧ (r.add routing id).value.2.1 = r) ∨
      (r.add routing id).value.1 = .ok () ∧
        (r.add routing id).value.2.1 = if r.contains id then r else r.track id := by
  rw [value_add]
  split
  · exact .inr ⟨rfl, rfl⟩
  · split
    · exact .inr ⟨rfl, rfl⟩
    · split
      · exact .inl ⟨_, rfl, rfl⟩
      · exact .inr ⟨rfl, rfl⟩

/-- A removal fails and changes nothing, or has the call tracked no longer. -/
theorem remove_cases (r : Registry) (routing : σ) (id : CallId) :
    (∃ e, (r.remove routing id).value.1 = .error e ∧ (r.remove routing id).value.2.1 = r) ∨
      (r.remove routing id).value.1 = .ok () ∧
        (r.remove routing id).value.2.1 = r.untrack id := by
  rw [value_remove]
  split
  · split
    · split
      · exact .inl ⟨_, rfl, rfl⟩
      · exact .inr ⟨rfl, rfl⟩
    · exact .inr ⟨rfl, rfl⟩
  · rename_i unknown
    exact .inr ⟨rfl, (untrack_of_not_contains unknown).symm⟩

theorem eq_of_add_error {r : Registry} {routing : σ} {id : CallId} {e : RouteError}
    (h : (r.add routing id).value.1 = .error e) : (r.add routing id).value.2.1 = r := by
  rcases r.add_cases routing id with ⟨_, _, same⟩ | ⟨ok, _⟩
  · exact same
  · cases ok.symm.trans h

theorem eq_of_remove_error {r : Registry} {routing : σ} {id : CallId} {e : RouteError}
    (h : (r.remove routing id).value.1 = .error e) : (r.remove routing id).value.2.1 = r := by
  rcases r.remove_cases routing id with ⟨_, _, same⟩ | ⟨ok, _⟩
  · exact same
  · cases ok.symm.trans h

theorem contains_of_add_ok {r : Registry} {routing : σ} {id : CallId}
    (h : (r.add routing id).value.1 = .ok ()) (other : CallId) :
    (r.add routing id).value.2.1.contains other = true ↔
      other = id ∨ r.contains other = true := by
  rcases r.add_cases routing id with ⟨e, failed, _⟩ | ⟨_, after⟩
  · cases failed.symm.trans h
  · rw [after]
    split
    · rename_i known
      exact ⟨.inr, fun h => h.elim (fun same => same ▸ known) fun tracked => tracked⟩
    · exact contains_track

theorem contains_of_remove_ok {r : Registry} {routing : σ} {id : CallId}
    (h : (r.remove routing id).value.1 = .ok ()) (other : CallId) :
    (r.remove routing id).value.2.1.contains other = true ↔
      other ≠ id ∧ r.contains other = true := by
  rcases r.remove_cases routing id with ⟨e, failed, _⟩ | ⟨_, after⟩
  · cases failed.symm.trans h
  · rw [after]
    exact contains_untrack

theorem Distinct.add {r : Registry} (h : r.Distinct) (routing : σ) (id : CallId) :
    (r.add routing id).value.2.1.Distinct := by
  rcases r.add_cases routing id with ⟨_, _, after⟩ | ⟨_, after⟩
  · rw [after]
    exact h
  · rw [after]
    split
    · exact h
    · rename_i new
      exact h.track new

theorem Distinct.remove {r : Registry} (h : r.Distinct) (routing : σ) (id : CallId) :
    (r.remove routing id).value.2.1.Distinct := by
  rcases r.remove_cases routing id with ⟨_, _, after⟩ | ⟨_, after⟩
  · rw [after]
    exact h
  · rw [after]
    exact h.untrack id

/-- A removal that leaves no calls has released call audio, as a whole. -/
theorem release_of_emptied {r : Registry} (h : r.Distinct) {routing : σ} {id : CallId}
    (some : r.calls ≠ []) (emptied : (r.remove routing id).value.2.1.calls = []) :
    (release routing).value.1 = .ok () ∧
      (r.remove routing id).value = (.ok (), r.untrack id, (release routing).value.2) := by
  rw [value_remove] at emptied ⊢
  split at emptied
  · rename_i tracked
    rw [if_pos tracked]
    split at emptied
    · rename_i one
      rw [if_pos one]
      rcases result : (release routing).value with ⟨_ | _, after⟩
      · rw [result] at emptied
        exact absurd emptied some
      · exact ⟨rfl, rfl⟩
    · rename_i several
      exact absurd emptied (h.calls_untrack_ne_nil tracked several)
  · exact absurd emptied some

end CallAudio.Registry
