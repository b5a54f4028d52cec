/-!
# Decimals with a bounded significand

A decimal is read with a significand below `2 ^ 64`. Digits that no longer fit
are dropped; dropped digits before the point still count towards the exponent.
The value is the significand, rounded to a binary number, times or divided by
one power of ten, where an exponent below `-308` is worked off in steps of 308.
-/

namespace ShaderEffects.Decimal

/-- Whether a digit can be appended to a significand. -/
def fits (m d : Nat) : Bool := 10 * m + d < Nat.pow 2 64

/-- Appends the digits of an integer part for as long as they fit. The second
component counts the digits that are left over. -/
def takeInteger (m : Nat) : List Nat → Nat × Nat
  | [] => (m, 0)
  | d :: rest => if fits m d then takeInteger (10 * m + d) rest else (m, rest.length + 1)

/-- Appends the digits of a fraction for as long as they fit. The second
component counts the digits that were taken. -/
def takeFraction (m : Nat) : List Nat → Nat × Nat
  | [] => (m, 0)
  | d :: rest =>
    if fits m d then
      let (m', taken) := takeFraction (10 * m + d) rest
      (m', taken + 1)
    else (m, 0)

/-- The value of a list of digits, the most significant first. -/
def digitsValue (digits : List Nat) : Nat :=
  digits.foldl (fun m d => 10 * m + d) 0

/-- The binary number closest to `10 ^ k`. -/
def powerOfTen (k : Nat) : Float := Float.ofScientific 1 false k

/-- Divides by `10 ^ k`, in steps of 308. -/
def scaleDown (x : Float) (k : Nat) : Float :=
  if k ≤ 308 then x / powerOfTen k
  else if x == 0.0 then x
  else scaleDown (x / powerOfTen 308) (k - 308)
termination_by k

/-- The value of `m * 10 ^ e`, or nothing if it is not finite. -/
def scale? (m : Nat) (e : Int) : Option Float :=
  let x := Float.ofNat m
  if e < 0 then some (scaleDown x e.natAbs)
  else if e.natAbs ≤ 308 then
    let y := x * powerOfTen e.natAbs
    if y.isInf then none else some y
  else if x == 0.0 then some x
  else none

end ShaderEffects.Decimal
