import CallAudio.Decimal.Shortest

/-!
Decimals as text. Moderate numbers are written with all their places and at least one behind the
point, very small and very large ones with an exponent that carries a sign.
-/

namespace CallAudio.Decimal

/-- The choices of a notation. -/
structure Layout where
  /-- The first position of the point that is written out; below it the number has an exponent. -/
  firstPosition : Int
  /-- The last position of the point that is written out. -/
  lastPosition : Int
  /-- What stands between digits and exponent. -/
  mark : String
  /-- The sign of an exponent that is not negative. -/
  plus : String

/-- Digits without the zeros at their end. -/
def significant (d : Decimal) : List Char :=
  ((Nat.toDigits 10 d.digits).reverse.dropWhile (· == '0')).reverse

/-- A positive decimal in the given layout. The point stands behind as many digits as its position
says. -/
def render (layout : Layout) (d : Decimal) : String :=
  let position : Int := (Nat.toDigits 10 d.digits).length + d.exponent
  let digits := significant d
  let zeros (n : Int) : List Char := List.replicate n.toNat '0'
  if layout.firstPosition ≤ position ∧ position ≤ layout.lastPosition then
    if position ≤ 0 then String.ofList ("0.".toList ++ zeros (-position) ++ digits)
    else
      let before := digits.take position.toNat ++ zeros (position - digits.length)
      let behind := digits.drop position.toNat
      String.ofList (before ++ '.' :: (if behind.isEmpty then ['0'] else behind))
  else
    let behind := digits.drop 1
    let exponent := position - 1
    String.ofList (digits.take 1 ++ (if behind.isEmpty then [] else '.' :: behind)) ++
      layout.mark ++ (if exponent < 0 then "-" else layout.plus) ++ toString exponent.natAbs

end CallAudio.Decimal
