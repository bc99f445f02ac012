import CallAudio.Json.Reader
import CallAudio.Proofs.Json.Skip

/-!
What a reader makes of a value, however the value is written: a result where the value is of the
right kind, and an error where it is not.
-/

namespace CallAudio.Json

variable {α β : Type} {reader : Reader α} {v : Tree} {meant : Option α}

/-! ## What a value means -/

/-- The number that a value says, if it is an integer from 0 to 2^64 - 1. -/
def Tree.nat? : Tree → Option Nat
  | integer (.ofNat n) => if n < Nat.pow 2 64 then some n else none
  | _ => none

/-- The text that a value says, if it is a string. -/
def Tree.text? : Tree → Option String
  | string s => some s
  | _ => none

/-- The result is what was meant, with what is left behind it, or an error if nothing was meant. -/
def Yields (result : Except Error (α × List Char)) (meant : Option α) (left : List Char) : Prop :=
  match meant with
  | some a => result = .ok (a, left)
  | none => ∃ e, result = .error e

/-- Going on to what is made of a result. -/
theorem Yields.map {result : Except Error (α × List Char)} {left : List Char}
    (h : Yields result meant left) (f : α → β) :
    Yields (result.map fun (a, rest) => (f a, rest)) (meant.map f) left := by
  cases meant with
  | some a =>
    have ok : result = .ok (a, left) := h
    rw [ok]
    rfl
  | none =>
    obtain ⟨e, error⟩ := h
    rw [error]
    exact ⟨e, rfl⟩

/-- What is left of a result decides how reading goes on; an error stays. -/
theorem Yields.bind {result : Except Error (α × List Char)} {left rest : List Char}
    {next : α × List Char → Except Error (β × List Char)} {more : α → Option β}
    (h : Yields result meant left)
    (goesOn : ∀ a, meant = some a → Yields (next (a, left)) (more a) rest) :
    Yields (result.bind next) (meant.bind more) rest := by
  cases meant with
  | some a =>
    have ok : result = .ok (a, left) := h
    rw [ok]
    exact goesOn a rfl
  | none =>
    obtain ⟨e, error⟩ := h
    rw [error]
    exact ⟨e, rfl⟩

/-- The reader takes every text of the value for what is meant, with or without blanks in front. -/
structure ReadAs (reader : Reader α) (v : Tree) (meant : Option α) : Prop where
  blanks : ∀ cs, reader (skipBlanks cs) = reader cs
  value : ∀ {cs rest : List Char}, Spells (.value v) cs → Apart rest →
    Yields (reader (cs ++ rest)) meant rest

namespace ReadAs

theorem map (h : ReadAs reader v meant) (f : α → β) :
    ReadAs (fun cs => (reader cs).map fun (a, rest) => (f a, rest)) v (meant.map f) where
  blanks cs := by
    dsimp only
    rw [h.blanks]
  value written apart := (h.value written apart).map f

/-- With blanks around the value, nothing but blanks is left in front of what follows. -/
theorem spaced (h : ReadAs reader v meant) {cs rest : List Char} (written : Spells (.spaced v) cs)
    (ends : Ends rest) : ∃ left, Yields (reader (cs ++ rest)) meant left ∧ skipBlanks left = rest := by
  cases written with
  | @spaced _ bs cs bs' before value after =>
    refine ⟨bs' ++ rest, ?_, ?_⟩
    · have text : reader (bs ++ (cs ++ bs') ++ rest) = reader (cs ++ (bs' ++ rest)) := by
        rw [List.append_assoc, List.append_assoc, ← h.blanks, before.skipBlanks_append, h.blanks]
      rw [text]
      exact h.value value (after.apart_append ends.apart)
    · rw [after.skipBlanks_append, skipBlanks_of_ends ends]

/-- A whole text is read as what its value means. -/
theorem read (h : ReadAs reader v meant) {text : String} (written : v.WrittenAs text) :
    (Json.read reader text).toOption = meant := by
  obtain ⟨left, yields, none⟩ := h.spaced written ends_nil
  rw [List.append_nil] at yields
  cases meant with
  | some a =>
    have ok : reader text.toList = .ok (a, left) := yields
    simp only [Json.read, ok, bind, Except.bind, none]
    rfl
  | none =>
    obtain ⟨e, error⟩ := yields
    rw [Json.read, error]
    rfl

end ReadAs

/-! ## Numbers -/

theorem nat?_of_fits {n : Nat} (fits : n ≤ maxSignificand) :
    (Tree.integer n).nat? = some n :=
  if_pos (Nat.lt_succ_of_le fits)

theorem nat?_of_outside {n : Int} (outside : n < 0 ∨ maxSignificand < n) :
    (Tree.integer n).nat? = none := by
  cases n with
  | ofNat n =>
    rw [Int.ofNat_eq_natCast] at outside
    have great : maxSignificand < n := by omega
    exact if_neg (Nat.not_lt.2 great)
  | negSucc n => rfl

/-- A number that is read decides what a number from 0 to 2^64 - 1 is read as. -/
theorem readNat_of_starts {c : Char} (starts : startsNumber c = true) (cs : List Char) :
    readNat (c :: cs) = (readNumber (c :: cs)).bind fun (n, rest) =>
      match n with
      | .integer (.ofNat n) => .ok (n, rest)
      | .integer (.negSucc n) => .error (.invalidValue (.integer (.negSucc n)) natName)
      | .float negative x => .error (.invalidType (.float (floatText negative x)) natName) := by
  have first : ((c :: cs).head?.map startsNumber).getD false = true := starts
  rw [readNat]
  dsimp only
  rw [skipBlanks_cons (opens_of_startsNumber starts).mark, if_pos first]
  rfl

theorem readNat_of_not_starts {c : Char} (mark : isBlank c = false) (other : startsNumber c = false)
    (cs : List Char) : readNat (c :: cs) = .error (mismatch natName (c :: cs)) := by
  rw [readNat]
  dsimp only
  rw [skipBlanks_cons mark, if_neg (by simp [other])]

theorem yields_readNat (n : Int) {rest : List Char} (apart : Apart rest) :
    Yields (readNat (integerText n ++ rest)) (Tree.integer n).nat? rest := by
  obtain ⟨c, cs, text, starts⟩ := integerText_starts n
  by_cases outside : n < 0 ∨ maxSignificand < n
  · have never := fun k => readNumber_ne_natCast outside apart k
    rw [nat?_of_outside outside]
    rw [text] at never ⊢
    rw [List.cons_append] at never ⊢
    rw [readNat_of_starts starts]
    cases read : readNumber (c :: (cs ++ rest)) with
    | error e => exact ⟨e, rfl⟩
    | ok result =>
      obtain ⟨number, left⟩ := result
      cases number with
      | integer m =>
        cases m with
        | ofNat k => exact absurd read (never k left)
        | negSucc k => exact ⟨_, rfl⟩
      | float negative x => exact ⟨_, rfl⟩
  · obtain ⟨k, rfl⟩ : ∃ k : Nat, n = k := Int.eq_ofNat_of_zero_le (by omega)
    have fits : k ≤ maxSignificand := by omega
    have number := readNumber_toDigits fits apart
    rw [nat?_of_fits fits]
    rw [← integerText_natCast, text] at number
    rw [text]
    rw [List.cons_append] at number ⊢
    rw [readNat_of_starts starts, number]
    rfl

/-- A number from 0 to 2^64 - 1 is read as itself, and nothing else is taken for one. -/
theorem readAs_nat (v : Tree) : ReadAs readNat v v.nat? where
  blanks cs := by
    simp only [readNat, skipBlanks_skipBlanks]
  value {cs rest} written apart := by
    have other {c : Char} {cs : List Char} (mark : isBlank c = false)
        (wrong : startsNumber c = false) : Yields (readNat (c :: cs)) none rest :=
      ⟨_, readNat_of_not_starts mark wrong cs⟩
    cases written with
    | integer n => exact yields_readNat n apart
    | null => exact other rfl rfl
    | bool b => cases b <;> exact other rfl rfl
    | string chars => exact other rfl rfl
    | emptyList blanks => exact other rfl rfl
    | list items => exact other rfl rfl
    | emptyObject blanks => exact other rfl rfl
    | object members => exact other rfl rfl

/-! ## Strings -/

theorem readText_of_ne_quote {c : Char} (mark : isBlank c = false) (other : c ≠ '"')
    (cs : List Char) : readText (c :: cs) = .error (mismatch "a string" (c :: cs)) := by
  rw [readText, skipBlanks_cons mark]
  split
  · rename_i is
    exact absurd (List.cons.inj is).1 other
  · rfl

/-- A string is read as itself, and nothing else is taken for one. -/
theorem readAs_text (v : Tree) : ReadAs readText v v.text? where
  blanks cs := by
    simp only [readText, skipBlanks_skipBlanks]
  value {cs rest} written apart := by
    have other {c : Char} {cs : List Char} (mark : isBlank c = false)
        (wrong : c ≠ '"') : Yields (readText (c :: cs)) none rest :=
      ⟨_, readText_of_ne_quote mark wrong cs⟩
    cases written with
    | @string s cs chars =>
      have read := readString_spelled chars rest
      show (readString ((cs ++ ['"']) ++ rest)).map _ = .ok (s, rest)
      rw [List.append_assoc, List.singleton_append, read]
      exact congrArg (fun s => Except.ok (s, rest)) String.ofList_toList
    | integer n =>
      obtain ⟨c, cs, text, starts⟩ := integerText_starts n
      rw [text]
      refine other (opens_of_startsNumber starts).mark ?_
      rintro rfl
      cases starts
    | null => exact other rfl (by decide)
    | bool b => cases b <;> exact other rfl (by decide)
    | emptyList blanks => exact other rfl (by decide)
    | list items => exact other rfl (by decide)
    | emptyObject blanks => exact other rfl (by decide)
    | object members => exact other rfl (by decide)

end CallAudio.Json
