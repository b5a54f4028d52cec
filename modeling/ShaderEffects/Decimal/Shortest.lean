/-!
# Shortest decimals

The fewest decimal digits that identify a binary number. The digits are found by
exact arithmetic: the reals that round to the number form an interval, and the
coarsest decimal grid with a point in the interval supplies the answer.
-/

namespace ShaderEffects.Decimal

/-- A finite non-negative binary number `m * 2 ^ q`. -/
structure Binary where
  m : Nat
  q : Int
  /-- The gap to the number below is half the gap to the number above. -/
  narrowBelow : Bool

/-- The magnitude that the bits of a finite number stand for. -/
def Binary.ofBits (bits : UInt64) : Binary :=
  let e := ((bits >>> 52) &&& 0x7FF).toNat
  let f := (bits &&& 0xFFFFFFFFFFFFF).toNat
  if e = 0 then ⟨f, -1074, false⟩ else ⟨Nat.pow 2 52 + f, (e : Int) - 1075, f = 0 && 1 < e⟩

/-- Compares `a * 10 ^ i` with `b * 2 ^ j`. -/
def compareScaled (a : Nat) (i : Int) (b : Nat) (j : Int) : Ordering :=
  compare (a * Nat.pow 10 i.toNat * Nat.pow 2 (-j).toNat)
    (b * Nat.pow 2 j.toNat * Nat.pow 10 (-i).toNat)

/-- Whether `d * 10 ^ e` rounds to the number: it lies between the two halfway
points, or on one of them if the number is the even one of its neighbours. -/
def Binary.accepts (x : Binary) (d : Nat) (e : Int) : Bool :=
  let low := compareScaled d e (4 * x.m - (if x.narrowBelow then 1 else 2)) (x.q - 2)
  let high := compareScaled d e (4 * x.m + 2) (x.q - 2)
  let even := x.m % 2 = 0
  (low == .gt || (even && low == .eq)) && (high == .lt || (even && high == .eq))

/-- The greatest `d` with `d * 10 ^ e` at most the number. -/
def Binary.floorAt (x : Binary) (e : Int) : Nat :=
  (x.m * Nat.pow 2 x.q.toNat * Nat.pow 10 (-e).toNat) /
    (Nat.pow 2 (-x.q).toNat * Nat.pow 10 e.toNat)

/-- The point of the grid `10 ^ e` that identifies the number and is nearest to
it; of two equally near ones the even one. -/
def Binary.pointAt? (x : Binary) (e : Int) : Option Nat :=
  let below := x.floorAt e
  let above := below + 1
  match x.accepts below e, x.accepts above e with
  | false, false => none
  | true, false => some below
  | false, true => some above
  | true, true =>
    match compareScaled (2 * below + 1) e (2 * x.m) x.q with
    | .gt => some below
    | .lt => some above
    | .eq => some (if below % 2 = 0 then below else above)

/-- Grids are tried from `10 ^ e` towards finer ones, `n` of them. -/
def Binary.search (x : Binary) (e : Int) : Nat → Option (Nat × Int)
  | 0 => none
  | n + 1 =>
    match x.pointAt? e with
    | some d => some (d, e)
    | none => x.search (e - 1) n

/-- Moves trailing zeros of the digits into the exponent. -/
def stripZeros (d : Nat) (e : Int) : Nat × Int :=
  if d = 0 then (0, 0)
  else if d % 10 = 0 then stripZeros (d / 10) (e + 1)
  else (d, e)

/-- The digits and the exponent of the shortest decimal of a finite number
without regard to its sign. -/
def shortest (x : Float) : Nat × Int :=
  let b := Binary.ofBits (x.toBits &&& 0x7FFFFFFFFFFFFFFF)
  if b.m = 0 then (0, 0)
  else
    -- No grid coarser than twice the number has a non-zero point at or below it.
    let bound : Int := ((b.m.log2 : Int) + b.q + 1) * 30103 / 100000 + 2
    match b.search bound 800 with
    | some (d, e) => stripZeros d e
    | none => (0, 0)

/-- A finite number in plain notation if its point falls within the first
sixteen digits or at most four zeros before them, and otherwise with an
exponent, whose sign is always written. Plain notation always has a point. -/
def shortestText (x : Float) : String :=
  let sign := if x.toBits >>> 63 == 1 then "-" else ""
  let (d, e) := shortest x
  if d = 0 then sign ++ "0.0"
  else
    let digits := Nat.toDigits 10 d
    let point : Int := (digits.length : Int) + e
    let zeros (n : Nat) : List Char := List.replicate n '0'
    let body :=
      if 0 ≤ e && point ≤ 16 then digits ++ zeros e.toNat ++ ['.', '0']
      else if 0 < point && point ≤ 16 then
        digits.take point.toNat ++ ['.'] ++ digits.drop point.toNat
      else if -5 < point && point ≤ 0 then ['0', '.'] ++ zeros (-point).toNat ++ digits
      else
        digits.take 1 ++ (if digits.length = 1 then [] else '.' :: digits.drop 1)
          ++ ['e', if 0 < point then '+' else '-'] ++ Nat.toDigits 10 (point - 1).natAbs
    sign ++ String.ofList body

end ShaderEffects.Decimal
