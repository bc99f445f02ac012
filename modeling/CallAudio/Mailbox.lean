/-!
A bounded mailbox. It has as many places as its capacity; an entry takes up a place until it is
taken out. A sender either tries, and is refused at once where no place is free, or waits its turn:
a place that comes free goes at once to the sender that has waited longest, which holds it, unused,
until it looks again and puts its entry in.
-/

namespace CallAudio

/-- Tells one waiting sender from another. -/
abbrev Ticket := Nat

/-- A mailbox for entries of type `α`. -/
structure Mailbox (α : Type) where
  capacity : Nat
  /-- The entries, oldest first. -/
  queue : List α := []
  /-- The senders that wait for a place, the one that has waited longest first. -/
  waiting : List Ticket := []
  /-- The senders that hold a place they have not used. -/
  granted : List Ticket := []
  /-- Once closed, a mailbox takes no more entries. -/
  closed : Bool := false
  deriving Repr

namespace Mailbox

/-- Why an entry was refused. -/
inductive Refusal
  | full
  | closed
  deriving DecidableEq, Repr

/-- How a waiting sender fares. -/
inductive Progress
  | entered
  | waiting
  | refused
  deriving DecidableEq, Repr

variable {α : Type}

/-- The places that are not free. -/
def pending (m : Mailbox α) : Nat :=
  m.queue.length + m.granted.length

/-- Whether a place is free. -/
def hasRoom (m : Mailbox α) : Bool :=
  m.pending < m.capacity

/-- Puts an entry in last. -/
def push (m : Mailbox α) (x : α) : Mailbox α :=
  { m with queue := m.queue ++ [x] }

/-- Puts an entry in, unless the mailbox is closed or has no free place. -/
def trySend (m : Mailbox α) (x : α) : Except Refusal (Mailbox α) :=
  if m.closed then .error .closed
  else if m.hasRoom then .ok (m.push x)
  else .error .full

/-- Hands a free place, if there is one, to the sender that has waited longest. -/
def grant (m : Mailbox α) : Mailbox α :=
  match m.waiting with
  | [] => m
  | t :: rest =>
    if m.hasRoom then { m with waiting := rest, granted := m.granted ++ [t] } else m

/-- Takes the oldest entry out; its place goes to whoever waits. -/
def take? (m : Mailbox α) : Option (α × Mailbox α) :=
  match m.queue with
  | [] => none
  | x :: rest => some (x, grant { m with queue := rest })

/-- A sender gives up; a place that it holds goes to whoever waits. -/
def withdraw (m : Mailbox α) (t : Ticket) : Mailbox α :=
  grant { m with waiting := m.waiting.erase t, granted := m.granted.erase t }

/-- A sender looks whether it can put its entry in, and starts to wait if it cannot. A closed mailbox
refuses, even a sender that holds a place. -/
def enter (m : Mailbox α) (t : Ticket) (x : α) : Progress × Mailbox α :=
  if m.closed then (.refused, m.withdraw t)
  else if t ∈ m.granted then
    (.entered, { m with granted := m.granted.erase t }.push x)
  else if t ∈ m.waiting then (.waiting, m)
  else if m.hasRoom then (.entered, m.push x)
  else (.waiting, { m with waiting := m.waiting ++ [t] })

/-- Closes the mailbox for good: entries are dropped and nobody waits any longer. -/
def close (m : Mailbox α) : Mailbox α :=
  { m with queue := [], waiting := [], closed := true }

@[simp] theorem pending_push (m : Mailbox α) (x : α) : (m.push x).pending = m.pending + 1 := by
  simp only [pending, push, List.length_append, List.length_singleton]
  omega

@[simp] theorem queue_push (m : Mailbox α) (x : α) : (m.push x).queue = m.queue ++ [x] := rfl

@[simp] theorem queue_grant (m : Mailbox α) : m.grant.queue = m.queue := by
  unfold grant
  split
  · rfl
  · split <;> rfl

@[simp] theorem queue_withdraw (m : Mailbox α) (t : Ticket) : (m.withdraw t).queue = m.queue := by
  simp [withdraw]

@[simp] theorem pending_close (m : Mailbox α) : m.close.pending = m.granted.length := by
  simp [pending, close]

theorem queue_of_take? {m m' : Mailbox α} {x : α} (h : m.take? = some (x, m')) :
    m.queue = x :: m'.queue := by
  unfold take? at h
  split at h
  · simp at h
  · rename_i y rest hq
    simp only [Option.some.injEq, Prod.mk.injEq] at h
    obtain ⟨rfl, rfl⟩ := h
    simp [hq]

end Mailbox

end CallAudio
