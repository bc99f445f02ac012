import CallAudio.Decimal.Binary64

/-!
The shortest decimal of a binary number: of the decimals with the fewest digits that read back as
the number, the one nearest to it.
-/

namespace CallAudio

/-- The number `digits · 10 ^ exponent`. -/
structure Decimal where
  digits : Nat
  exponent : Int
  deriving DecidableEq, Repr

namespace Decimal

/-- How many decimal digits a number has; zero has one. -/
def length (n : Nat) : Nat :=
  (Nat.toDigits 10 n).length

/-- The numerator and the denominator of `num / den / 10 ^ p`. -/
def scaled (num den : Nat) (p : Int) : Nat × Nat :=
  (num * Nat.pow 10 (-p).toNat, den * Nat.pow 10 p.toNat)

/-- How many digits a positive quotient has before its point; zero or less where it starts behind the
point. -/
def pointPosition (num den : Nat) : Int :=
  if den ≤ num then length (num / den)
  else 1 - length ((den - 1) / num)

end Decimal

namespace Binary64

/-- Whether `num / den` reads back as `x`: it is no further from `x` than half the gap to the next
value on its side, and at exactly half the gap only where the mantissa of `x` is even. The gap below
a power of two is half the gap above it. -/
def readsBack (x : Binary64) (num den : Nat) : Bool :=
  let unit := x.exponent - 2
  let center := 4 * x.mantissa
  let low := if x.mantissa = Nat.pow 2 52 ∧ minExponent < x.exponent then center - 1 else center - 2
  let high := center + 2
  let (n, d) := scaled num den unit
  if x.mantissa % 2 = 0 then decide (low * d ≤ n ∧ n ≤ high * d)
  else decide (low * d < n ∧ n < high * d)

/-- The decimal with step `10 ^ p` that reads back as `x` and is nearest to it, if any does. Only the
two neighbours of `x` on the grid can be it; of two equally near ones the even one is taken. -/
def onGrid? (x : Binary64) (p : Int) : Option Decimal :=
  let (num, den) := x.ratio
  let (n, d) := Decimal.scaled num den p
  let below := n / d
  let fits (k : Nat) : Bool :=
    let (a, b) := Decimal.scaled k 1 (-p)
    x.readsBack a b
  let belowNearer := 2 * (n % d) < d ∨ (2 * (n % d) = d ∧ below % 2 = 0)
  match fits below, fits (below + 1) with
  | true, true => some ⟨if belowNearer then below else below + 1, p⟩
  | true, false => some ⟨below, p⟩
  | false, true => some ⟨below + 1, p⟩
  | false, false => none

/-- Tries `count` grids, starting with the one of step `10 ^ p` and going on to finer ones. -/
def firstOnGrid? (x : Binary64) (p : Int) : Nat → Option Decimal
  | 0 => none
  | count + 1 => (x.onGrid? p).or (x.firstOnGrid? (p - 1) count)

/-- Seventeen digits suffice to tell any two values apart. -/
def maxDigits : Nat := 17

/-- The shortest decimal of a positive value. -/
def shortest (x : Binary64) : Decimal :=
  let (num, den) := x.ratio
  (x.firstOnGrid? (Decimal.pointPosition num den - 1) maxDigits).getD ⟨x.mantissa, 0⟩

end Binary64

end CallAudio
