import CallAudio.Proofs.Json.Grammar
import CallAudio.Proofs.Json.Number

/-!
Integers of any size, as far as reading goes: one from 0 to 2^64 - 1 is read as it is, and no other
one is taken for such a number. All of them can be passed over.
-/

namespace CallAudio.Json

/-! ## What an integer looks like -/

theorem integerText_natCast (n : Nat) : integerText n = Nat.toDigits 10 n :=
  Nat.toList_repr

theorem integerText_negSucc (n : Nat) : integerText (.negSucc n) = '-' :: Nat.toDigits 10 (n + 1) := by
  show ("-" ++ (n + 1).repr).toList = _
  rw [String.toList_append, Nat.toList_repr]
  rfl

theorem integerText_starts (n : Int) :
    ∃ c cs, integerText n = c :: cs ∧ startsNumber c = true := by
  cases n with
  | ofNat n =>
    obtain ⟨c, cs, digits, digit⟩ := digit_of_toDigits n
    exact ⟨c, cs, (integerText_natCast n).trans digits, starts_of_isDigit digit⟩
  | negSucc n => exact ⟨_, _, integerText_negSucc n, rfl⟩

theorem Blanks.apart_append {bs rest : List Char} (blanks : Blanks bs) (apart : Apart rest) :
    Apart (bs ++ rest) := by
  cases bs with
  | nil => exact apart
  | cons b bs =>
    intro c hc
    cases hc
    have blank := blanks b List.mem_cons_self
    simp only [isBlank, Bool.or_eq_true, decide_eq_true_eq] at blank
    rcases blank with ((rfl | rfl) | rfl) | rfl <;> decide

/-! ## Numbers that are too great -/

/-- Where no digit is dropped the number fits. -/
theorem fits_of_appendWhole {digits : List Char} {value : Nat} (fits : value ≤ maxSignificand)
    (all : (appendWhole value digits).2 = 0) :
    Nat.ofDigitChars 10 digits value ≤ maxSignificand := by
  induction digits generalizing value with
  | nil => exact fits
  | cons c cs ih =>
    rw [Nat.ofDigitChars_cons]
    rw [appendWhole_cons] at all
    by_cases room : 10 * value + digitValue c ≤ maxSignificand
    · have next : appendDigit? value c = some (10 * value + digitValue c) := by
        simp only [appendDigit?, room, if_true]
      rw [next] at all
      exact ih room all
    · have none : appendDigit? value c = none := by simp only [appendDigit?, room, if_false]
      rw [none] at all
      cases all

theorem dropped_of_great {n : Nat} (great : maxSignificand < n) :
    (appendWhole 0 (Nat.toDigits 10 n)).2 ≠ 0 := by
  intro all
  have fits := fits_of_appendWhole (Nat.zero_le _) all
  rw [Nat.ofDigitChars_toDigits (by omega) (by omega)] at fits
  omega

/-- A significand that is scaled makes no integer. -/
theorem ofParts_ne_integer (negative : Bool) (significand : Nat) (exponent n : Int) :
    ofParts negative significand exponent ≠ .ok (.integer n) := by
  unfold ofParts
  repeat' split
  all_goals exact fun h => by cases h

theorem map_ofParts_ne_integer {negative : Bool} {significand : Nat} {exponent n : Int}
    {rest rest' : List Char} :
    (ofParts negative significand exponent).map (·, rest) ≠ .ok (.integer n, rest') := by
  intro h
  cases parts : ofParts negative significand exponent with
  | error e =>
    rw [parts] at h
    cases h
  | ok x =>
    rw [parts] at h
    cases h
    exact ofParts_ne_integer _ _ _ _ parts

/-! ## Reading -/

/-- An integer below 0 or above 2^64 - 1 is not read as a number of that range. -/
theorem readNumber_ne_natCast {n : Int} (outside : n < 0 ∨ maxSignificand < n) {rest : List Char}
    (apart : Apart rest) (k : Nat) (rest' : List Char) :
    readNumber (integerText n ++ rest) ≠ .ok (.integer k, rest') := by
  cases n with
  | ofNat n =>
    have great : maxSignificand < n :=
      Int.ofNat_lt.1 (outside.resolve_left (Int.not_lt.2 (Int.natCast_nonneg n)))
    show readNumber (integerText (n : Int) ++ rest) ≠ _
    rw [integerText_natCast, readNumber_toDigits_append, readUnsigned_toDigits apart,
      readTail.whole, if_pos (dropped_of_great great)]
    exact map_ofParts_ne_integer
  | negSucc n =>
    rw [integerText_negSucc]
    show readUnsigned true (Nat.toDigits 10 (n + 1) ++ rest) ≠ _
    rw [readUnsigned_toDigits apart, readTail.whole]
    split
    · exact map_ofParts_ne_integer
    · rw [if_neg (by decide)]
      split
      · -- the sign is kept, so the number is below zero
        rename_i range
        intro h
        simp only [Except.ok.injEq, Prod.mk.injEq, Number.integer.injEq] at h
        omega
      · exact map_ofParts_ne_integer

/-! ## Passing over -/

theorem skipTail_of_apart {rest : List Char} (apart : Apart rest) : skipTail rest = .ok rest := by
  cases rest with
  | nil => rfl
  | cons c cs =>
    obtain ⟨_, point, small, great⟩ := apart c rfl
    rw [skipTail]
    · rw [skipScale, if_neg (by simp [small, great])]
    · exact fun _ is => point (List.cons.inj is).1

theorem skipUnsigned_toDigits (n : Nat) {rest : List Char} (apart : Apart rest) :
    skipUnsigned (Nat.toDigits 10 n ++ rest) = .ok rest := by
  by_cases zero : n = 0
  · rw [zero]
    show skipUnsigned ('0' :: rest) = _
    rw [skipUnsigned, head_isDigit_of_apart apart, if_neg Bool.false_ne_true]
    exact skipTail_of_apart apart
  · obtain ⟨c, cs, digits, nonzero, _⟩ := head_toDigits (Nat.pos_of_ne_zero zero)
    have all : ∀ d ∈ Nat.toDigits 10 n, d.isDigit = true := fun d hd =>
      Nat.isDigit_of_mem_toDigits (by omega) (by omega) hd
    have split := splitDigits_append all apart
    rw [digits] at split ⊢
    rw [List.cons_append] at split ⊢
    rw [skipUnsigned, split]
    · exact skipTail_of_apart apart
    · exact fun _ is => nonzero (List.cons.inj is).1

theorem skipNumber_integerText (n : Int) {rest : List Char} (apart : Apart rest) :
    skipNumber (integerText n ++ rest) = .ok rest := by
  cases n with
  | ofNat n =>
    have skipped := skipUnsigned_toDigits n apart
    show skipNumber (integerText (n : Int) ++ rest) = _
    rw [integerText_natCast]
    obtain ⟨c, cs, digits, digit⟩ := digit_of_toDigits n
    rw [digits] at skipped ⊢
    rw [skipNumber, skipped]
    exact fun _ is => ne_minus_of_isDigit digit (List.cons.inj is).1
  | negSucc n =>
    rw [integerText_negSucc]
    exact skipUnsigned_toDigits (n + 1) apart

end CallAudio.Json
