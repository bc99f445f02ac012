import CallAudio.Json.Reader

/-!
Numbers from 0 to 2^64 - 1 read back as they were written, as long as what follows can be no part of
a number.
-/

namespace CallAudio.Json

/-! ## What may follow a value -/

/-- The text is at its end or goes on with something that ends a value. -/
def Ends (cs : List Char) : Prop :=
  ∀ c ∈ cs.head?, c = ',' ∨ c = ']' ∨ c = '\x7d'

theorem ends_nil : Ends [] := nofun

theorem ends_cons {c : Char} (h : c = ',' ∨ c = ']' ∨ c = '\x7d') (cs : List Char) :
    Ends (c :: cs) := by
  intro d hd
  cases hd
  exact h

/-- The text is at its end or goes on with something that can be no part of a number. -/
def Apart (cs : List Char) : Prop :=
  ∀ c ∈ cs.head?, c.isDigit = false ∧ c ≠ '.' ∧ c ≠ 'e' ∧ c ≠ 'E'

theorem Ends.apart {cs : List Char} (h : Ends cs) : Apart cs := by
  intro c hc
  rcases h c hc with rfl | rfl | rfl <;> decide

/-! ## How a value begins -/

/-- The first character of a value: no blank, and no end of a list or an object. -/
structure Opens (c : Char) : Prop where
  mark : isBlank c = false
  bracket : c ≠ ']'
  brace : c ≠ '\x7d'

theorem opens_of_startsNumber {c : Char} (h : startsNumber c = true) : Opens c := by
  have apart {d : Char} (other : startsNumber d = false) : c ≠ d := by
    rintro rfl
    cases h.symm.trans other
  refine ⟨?_, apart rfl, apart rfl⟩
  simp [isBlank, apart (d := ' ') rfl, apart (d := '\t') rfl, apart (d := '\n') rfl,
    apart (d := '\r') rfl]

theorem starts_of_isDigit {c : Char} (digit : c.isDigit = true) : startsNumber c = true := by
  rw [startsNumber, digit, Bool.or_true]

theorem ne_minus_of_isDigit {c : Char} (digit : c.isDigit = true) : c ≠ '-' := by
  rintro rfl
  cases digit

/-- A number without a sign begins with a digit. -/
theorem digit_of_toDigits (n : Nat) : ∃ c cs, Nat.toDigits 10 n = c :: cs ∧ c.isDigit = true := by
  cases digits : Nat.toDigits 10 n with
  | nil => exact absurd digits Nat.toDigits_ne_nil
  | cons c cs =>
    refine ⟨c, cs, rfl, Nat.isDigit_of_mem_toDigits (b := 10) (n := n) (by omega) (by omega) ?_⟩
    rw [digits]
    exact List.mem_cons_self

/-! ## Digits -/

theorem splitDigits_append {digits rest : List Char} (all : ∀ c ∈ digits, c.isDigit = true)
    (apart : Apart rest) : splitDigits (digits ++ rest) = (digits, rest) := by
  have stops : rest.takeWhile Char.isDigit = [] ∧ rest.dropWhile Char.isDigit = rest := by
    cases rest with
    | nil => exact ⟨rfl, rfl⟩
    | cons c cs =>
      have other := (apart c rfl).1
      exact ⟨by rw [List.takeWhile_cons, other]; rfl, by rw [List.dropWhile_cons, other]; rfl⟩
  rw [splitDigits, List.takeWhile_append_of_pos all, List.dropWhile_append_of_pos all, stops.1,
    stops.2, List.append_nil]

/-- Digits only ever make a number greater. -/
theorem le_ofDigitChars (digits : List Char) (value : Nat) :
    value ≤ Nat.ofDigitChars 10 digits value := by
  induction digits generalizing value with
  | nil => exact Nat.le_refl value
  | cons c cs ih =>
    rw [Nat.ofDigitChars_cons]
    have more := ih (10 * value + (c.toNat - '0'.toNat))
    omega

attribute [local irreducible] appendDigit? in
theorem appendWhole_cons (value : Nat) (c : Char) (cs : List Char) :
    appendWhole value (c :: cs) =
      match appendDigit? value c with
      | some next => appendWhole next cs
      | none => (value, cs.length + 1) :=
  rfl

/-- No digit is dropped from a number that fits. -/
theorem appendWhole_of_fits {digits : List Char} {value : Nat}
    (fits : Nat.ofDigitChars 10 digits value ≤ maxSignificand) :
    appendWhole value digits = (Nat.ofDigitChars 10 digits value, 0) := by
  induction digits generalizing value with
  | nil => rfl
  | cons c cs ih =>
    rw [Nat.ofDigitChars_cons] at fits ⊢
    have room : 10 * value + (c.toNat - '0'.toNat) ≤ maxSignificand :=
      Nat.le_trans (le_ofDigitChars cs _) fits
    have next : appendDigit? value c = some (10 * value + (c.toNat - '0'.toNat)) := by
      simp only [appendDigit?, digitValue, room, if_true]
    rw [appendWhole_cons, next]
    exact ih fits

/-- A number other than zero is written without a zero in front. -/
theorem head_toDigits {n : Nat} (positive : 0 < n) :
    ∃ c cs, Nat.toDigits 10 n = c :: cs ∧ c ≠ '0' ∧ c.isDigit = true := by
  induction n using Nat.strongRecOn with
  | ind n ih =>
    by_cases small : n < 10
    · rw [Nat.toDigits_of_lt_base small]
      have each : ∀ d < 10, 0 < d → Nat.digitChar d ≠ '0' ∧ (Nat.digitChar d).isDigit = true := by
        decide
      obtain ⟨zero, digit⟩ := each n small positive
      exact ⟨_, [], rfl, zero, digit⟩
    · have tenth : n / 10 < n := by omega
      obtain ⟨c, cs, digits, zero, digit⟩ := ih (n / 10) tenth (by omega)
      rw [Nat.toDigits_of_base_le (by omega) (by omega), digits]
      exact ⟨c, cs ++ [Nat.digitChar (n % 10)], rfl, zero, digit⟩

/-- The first digit alone decides whether anything stands in front of a number. -/
theorem head_isDigit_of_apart {rest : List Char} (apart : Apart rest) :
    (rest.head?.map Char.isDigit).getD false = false := by
  cases rest with
  | nil => rfl
  | cons c cs => exact (apart c rfl).1

/-! ## Numbers -/

/-- Where nothing of a number follows, the digits are all of it. -/
theorem readTail_of_apart {rest : List Char} (apart : Apart rest) (negative : Bool)
    (significand dropped : Nat) :
    readTail negative significand dropped rest =
      readTail.whole negative significand dropped rest := by
  cases rest with
  | nil => rfl
  | cons c cs =>
    obtain ⟨_, point, small, great⟩ := apart c rfl
    rw [readTail]
    · rw [if_neg (by simp [small, great])]
    · exact fun is => point is

theorem whole_of_fits (n : Nat) (rest : List Char) :
    readTail.whole false n 0 rest = .ok (.integer n, rest) := by
  rw [readTail.whole, if_neg (fun differs => differs rfl), if_pos rfl]

/-- Of a number that stands apart its digits are read, as far as they fit. -/
theorem readUnsigned_toDigits {rest : List Char} (apart : Apart rest) (negative : Bool) (n : Nat) :
    readUnsigned negative (Nat.toDigits 10 n ++ rest) =
      readTail.whole negative (appendWhole 0 (Nat.toDigits 10 n)).1
        (appendWhole 0 (Nat.toDigits 10 n)).2 rest := by
  by_cases zero : n = 0
  · rw [zero]
    show readUnsigned negative ('0' :: rest) = readTail.whole negative 0 0 rest
    rw [readUnsigned, head_isDigit_of_apart apart, if_neg Bool.false_ne_true]
    exact readTail_of_apart apart negative 0 0
  · obtain ⟨c, cs, digits, nonzero, digit⟩ := head_toDigits (Nat.pos_of_ne_zero zero)
    have all : ∀ d ∈ Nat.toDigits 10 n, d.isDigit = true := fun d hd =>
      Nat.isDigit_of_mem_toDigits (by omega) (by omega) hd
    have split := splitDigits_append all apart
    rw [digits] at split ⊢
    rw [List.cons_append] at split ⊢
    rw [readUnsigned, if_pos digit, split]
    · exact readTail_of_apart apart negative _ _
    · exact fun is => nonzero is

/-- A number that begins with a digit has no sign. -/
theorem readNumber_toDigits_append (n : Nat) (rest : List Char) :
    readNumber (Nat.toDigits 10 n ++ rest) = readUnsigned false (Nat.toDigits 10 n ++ rest) := by
  obtain ⟨c, cs, digits, digit⟩ := digit_of_toDigits n
  rw [digits, readNumber]
  exact fun _ is => ne_minus_of_isDigit digit (List.cons.inj is).1

theorem appendWhole_toDigits {n : Nat} (fits : n ≤ maxSignificand) :
    appendWhole 0 (Nat.toDigits 10 n) = (n, 0) := by
  have value : Nat.ofDigitChars 10 (Nat.toDigits 10 n) 0 = n :=
    Nat.ofDigitChars_toDigits (by omega) (by omega)
  rw [appendWhole_of_fits (by rw [value]; exact fits), value]

theorem readNumber_toDigits {n : Nat} (fits : n ≤ maxSignificand) {rest : List Char}
    (apart : Apart rest) : readNumber (Nat.toDigits 10 n ++ rest) = .ok (.integer n, rest) := by
  rw [readNumber_toDigits_append, readUnsigned_toDigits apart, appendWhole_toDigits fits]
  exact whole_of_fits n rest

end CallAudio.Json
