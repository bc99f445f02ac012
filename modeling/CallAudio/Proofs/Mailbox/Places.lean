import CallAudio.Mailbox
import Mathlib.Data.List.Nodup
import Mathlib.Data.List.Perm.Basic
import Mathlib.Logic.Relation

/-!
The places of a mailbox, whatever happens to it. No more of them are taken than there are, and nobody
waits while one is free. Who waits for a place or holds one is in the line, once.
-/

namespace CallAudio.Mailbox

variable {α : Type} {m m' : Mailbox α} {t u : Ticket} {x : α}

/-! ## What can happen to a mailbox -/

/-- One change. -/
inductive Change : Mailbox α → Mailbox α → Prop
  | push (m : Mailbox α) (x : α) (room : m.hasRoom = true) : Change m (m.push x)
  | take {m m' : Mailbox α} {x : α} (took : m.take? = some (x, m')) : Change m m'
  | enter (m : Mailbox α) (t : Ticket) (x : α) : Change m (m.enter t x).2
  | withdraw (m : Mailbox α) (t : Ticket) : Change m (m.withdraw t)
  | close (m : Mailbox α) : Change m m.close

/-- A sequence of changes. -/
abbrev Changes : Mailbox α → Mailbox α → Prop := Relation.ReflTransGen Change

theorem hasRoom_iff : m.hasRoom = true ↔ m.pending < m.capacity := by
  simp [hasRoom]

/-- Handing on a place that came free changes neither the entries nor who is in the line. -/
theorem grant_eq_self_or (m : Mailbox α) :
    m.grant = m ∧ (m.waiting = [] ∨ m.capacity ≤ m.pending) ∨
      ∃ t rest, m.waiting = t :: rest ∧ m.pending < m.capacity ∧
        m.grant = { m with waiting := rest, granted := m.granted ++ [t] } := by
  cases waiting : m.waiting with
  | nil =>
    left
    rw [grant, waiting]
    exact ⟨rfl, .inl rfl⟩
  | cons t rest =>
    rw [grant, waiting]
    by_cases room : m.pending < m.capacity
    · right
      exact ⟨t, rest, rfl, room, if_pos (hasRoom_iff.2 room)⟩
    · left
      exact ⟨if_neg (fun has => room (hasRoom_iff.1 has)), .inr (Nat.le_of_not_lt room)⟩

@[simp] theorem capacity_grant (m : Mailbox α) : m.grant.capacity = m.capacity := by
  rcases grant_eq_self_or m with ⟨same, _⟩ | ⟨_, _, _, _, given⟩
  · rw [same]
  · rw [given]

theorem take?_eq_some_iff :
    m.take? = some (x, m') ↔ ∃ rest, m.queue = x :: rest ∧ m' = { m with queue := rest }.grant := by
  unfold take?
  split <;> rename_i queue <;> simp [queue, eq_comm]

theorem Change.capacity (h : Change m m') : m'.capacity = m.capacity := by
  cases h with
  | push | close => rfl
  | take took =>
    obtain ⟨rest, _, rfl⟩ := take?_eq_some_iff.1 took
    exact capacity_grant _
  | withdraw t => exact capacity_grant _
  | enter t x =>
    unfold Mailbox.enter
    split
    · exact capacity_grant _
    · split
      · rfl
      · split
        · rfl
        · split <;> rfl

/-! ## Rationing -/

/-- No more places are taken than there are, and nobody waits while one is free. -/
structure Rationed (m : Mailbox α) : Prop where
  within : m.pending ≤ m.capacity
  full : m.waiting ≠ [] → m.pending = m.capacity

/-- One place that came free is handed on if anybody waits. -/
theorem Rationed.of_freed (within : m.pending ≤ m.capacity)
    (freed : m.waiting ≠ [] → m.capacity ≤ m.pending + 1) : m.grant.Rationed := by
  rcases grant_eq_self_or m with ⟨same, why⟩ | ⟨t, rest, waiting, room, given⟩
  · rw [same]
    refine ⟨within, fun waits => ?_⟩
    rcases why with none | full
    · exact absurd none waits
    · exact Nat.le_antisymm within full
  · have last : m.capacity ≤ m.pending + 1 := freed (by simp [waiting])
    have one : m.grant.pending = m.pending + 1 := by
      rw [given]
      simp only [pending, List.length_append, List.length_singleton]
      omega
    have capacity := capacity_grant m
    constructor
    · omega
    · intro _
      omega

theorem Rationed.push (h : m.Rationed) (room : m.hasRoom = true) : (m.push x).Rationed := by
  have room := hasRoom_iff.1 room
  have one := pending_push m x
  have same : (m.push x).capacity = m.capacity := rfl
  constructor
  · omega
  · intro waits
    have full := h.full waits
    omega

theorem Rationed.take (h : m.Rationed) (took : m.take? = some (x, m')) : m'.Rationed := by
  obtain ⟨rest, queue, rfl⟩ := take?_eq_some_iff.1 took
  have one : m.pending = ({ m with queue := rest } : Mailbox α).pending + 1 := by
    simp only [pending, queue, List.length_cons]
    omega
  have within := h.within
  refine .of_freed ?_ fun waits => ?_
  · show _ ≤ m.capacity
    omega
  · have full := h.full waits
    show m.capacity ≤ _
    omega

theorem Rationed.withdraw (h : m.Rationed) (t : Ticket) : (m.withdraw t).Rationed := by
  have fewer : (m.granted.erase t).length ≤ m.granted.length := List.length_erase_le
  have most : m.granted.length - 1 ≤ (m.granted.erase t).length := List.le_length_erase
  have within : m.queue.length + m.granted.length ≤ m.capacity := h.within
  refine .of_freed ?_ fun waits => ?_
  · show m.queue.length + (m.granted.erase t).length ≤ m.capacity
    omega
  · have some : m.waiting ≠ [] := by
      rintro none
      exact waits (by rw [none]; rfl)
    have full : m.queue.length + m.granted.length = m.capacity := h.full some
    show m.capacity ≤ m.queue.length + (m.granted.erase t).length + 1
    omega

theorem Rationed.enter (h : m.Rationed) (t : Ticket) (x : α) : (m.enter t x).2.Rationed := by
  unfold Mailbox.enter
  split
  · exact h.withdraw t
  · split
    · -- the place that was held is taken by the entry
      rename_i granted
      have length := List.length_erase_of_mem granted
      have positive : 0 < m.granted.length := List.length_pos_of_mem granted
      have same : ({ m with granted := m.granted.erase t } : Mailbox α).pending + 1 =
          m.pending := by
        show m.queue.length + (m.granted.erase t).length + 1 = m.queue.length + m.granted.length
        omega
      refine ⟨?_, fun waits => ?_⟩
      · rw [pending_push, same]
        exact h.within
      · rw [pending_push, same]
        exact h.full waits
    · split
      · exact h
      · split
        · rename_i room
          exact h.push room
        · rename_i none
          have full : m.pending = m.capacity := by
            have within := h.within
            rw [hasRoom_iff] at none
            omega
          exact ⟨h.within, fun _ => full⟩

theorem Rationed.close (h : m.Rationed) : m.close.Rationed := by
  have within : m.queue.length + m.granted.length ≤ m.capacity := h.within
  refine ⟨?_, fun waits => absurd rfl waits⟩
  rw [pending_close]
  show m.granted.length ≤ m.capacity
  omega

theorem Rationed.change (h : m.Rationed) (change : Change m m') : m'.Rationed := by
  cases change with
  | push x room => exact h.push room
  | take took => exact h.take took
  | enter t x => exact h.enter t x
  | withdraw t => exact h.withdraw t
  | close => exact h.close

/-- Rationing is kept for good, and so is the number of places. -/
theorem Changes.rationed (h : Changes m m') (start : m.Rationed) :
    m'.Rationed ∧ m'.capacity = m.capacity := by
  induction h with
  | refl => exact ⟨start, rfl⟩
  | tail _ next ih => exact ⟨ih.1.change next, next.capacity.trans ih.2⟩

/-! ## The line -/

/-- The tickets of all who wait for a place or hold one that they have not used. -/
def line (m : Mailbox α) : List Ticket :=
  m.waiting ++ m.granted

theorem line_grant (m : Mailbox α) : m.grant.line.Perm m.line := by
  rcases grant_eq_self_or m with ⟨same, _⟩ | ⟨t, rest, waiting, _, given⟩
  · rw [same]
  · rw [given, line, line, waiting]
    show (rest ++ (m.granted ++ [t])).Perm (t :: (rest ++ m.granted))
    rw [← List.append_assoc]
    exact List.perm_append_singleton t _

theorem line_take (took : m.take? = some (x, m')) : m'.line.Perm m.line := by
  obtain ⟨rest, _, rfl⟩ := take?_eq_some_iff.1 took
  exact line_grant _

/-- Nobody waits any longer once the mailbox is closed. -/
theorem line_close (m : Mailbox α) : List.Subperm m.close.line m.line :=
  (List.sublist_append_right m.waiting m.granted).subperm

/-- Whoever gives up leaves the line, and nobody else does. -/
theorem line_withdraw (nodup : m.line.Nodup) (u : Ticket) :
    (m.withdraw u).line.Perm (m.line.erase u) := by
  have apart : List.Disjoint m.waiting m.granted := List.disjoint_of_nodup_append nodup
  refine (line_grant _).trans ?_
  show (m.waiting.erase u ++ m.granted.erase u).Perm ((m.waiting ++ m.granted).erase u)
  by_cases waits : u ∈ m.waiting
  · rw [List.erase_append_left _ waits, List.erase_of_not_mem (apart waits)]
  · rw [List.erase_append_right _ waits, List.erase_of_not_mem waits]

/-- Whoever puts an entry in leaves the line; whoever has to wait is in it afterwards. -/
theorem line_enter (nodup : m.line.Nodup) (u : Ticket) (x : α) :
    (m.enter u x).1 = .waiting ∧ (m.enter u x).2.line.Nodup ∧
        (∀ t ∈ (m.enter u x).2.line, t ≠ u → t ∈ m.line) ∨
      (m.enter u x).2.line.Perm (m.line.erase u) := by
  have apart : List.Disjoint m.waiting m.granted := List.disjoint_of_nodup_append nodup
  unfold enter
  split
  · exact .inr (line_withdraw nodup u)
  · split
    · rename_i granted
      right
      show (m.waiting ++ m.granted.erase u).Perm ((m.waiting ++ m.granted).erase u)
      rw [List.erase_append_right _ fun waits => apart waits granted]
    · rename_i ungranted
      split
      · exact .inl ⟨rfl, nodup, fun _ here _ => here⟩
      · rename_i absent
        have outside : u ∉ m.line := by
          rw [line, List.mem_append, not_or]
          exact ⟨absent, ungranted⟩
        split
        · right
          rw [List.erase_of_not_mem outside]
          rfl
        · left
          have last : ({ m with waiting := m.waiting ++ [u] } : Mailbox α).line.Perm
              (u :: m.line) := by
            show (m.waiting ++ [u] ++ m.granted).Perm (u :: (m.waiting ++ m.granted))
            rw [List.append_assoc]
            exact List.perm_middle
          refine ⟨rfl, last.nodup_iff.2 (List.nodup_cons.2 ⟨outside, nodup⟩), ?_⟩
          intro t here other
          exact (List.mem_cons.1 (last.mem_iff.1 here)).resolve_left other

end CallAudio.Mailbox
