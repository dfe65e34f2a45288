/-
  This file defines the shortest decimal text of a finite
  floating-point number: of the decimals that read back as
  the number, one with the fewest digits, and of those the
  nearest.

  Key definitions include:
    * `Decimal`
    * `Decimal.Binary`
    * `Decimal.shortest`
    * `Decimal.positional`
    * `Decimal.compact`
-/

namespace WorkspaceClient

------------------------------------------------------------
-- Decimals
------------------------------------------------------------

/- The number `digits * 10 ^ exponent`. -/
structure Decimal where
  digits : Nat
  exponent : Int
  deriving DecidableEq, Repr

namespace Decimal

/-
  A positive binary number `significand * 2 ^ exponent`.
  The flag tells whether the gap to the number below is half
  as wide as the gap to the number above.
-/
structure Binary where
  significand : Nat
  exponent : Int
  narrowBelow : Bool
  deriving DecidableEq, Repr

/- The unit behind the 52 bits of the fraction of a float. -/
def hiddenBit : Nat :=
  0x10000000000000

/- The binary form of the absolute value of a float. -/
def Binary.ofFloat
    (x : Float) : Binary :=
  let bits := x.toBits.toNat
  let fraction := bits % hiddenBit
  let biased := bits / hiddenBit % 0x800
  if biased = 0 then
    { significand := fraction
      exponent := -1074
      narrowBelow := false }
  else
    { significand := hiddenBit + fraction
      exponent := (biased : Int) - 1075
      narrowBelow := fraction == 0 && biased != 1 }

------------------------------------------------------------
-- Search
------------------------------------------------------------

/- A nonnegative fraction. -/
structure Ratio where
  num : Nat
  den : Nat

/- The ratio `n * 2 ^ e`. -/
def Ratio.binary
    (n : Nat)
    (e : Int) : Ratio :=
  if 0 ≤ e then
    ⟨n * Nat.pow 2 e.toNat, 1⟩
  else
    ⟨n, Nat.pow 2 (-e).toNat⟩

/- The ratio divided by `10 ^ e`. -/
def Ratio.divPow
    (r : Ratio)
    (e : Int) : Ratio :=
  if 0 ≤ e then
    ⟨r.num, r.den * Nat.pow 10 e.toNat⟩
  else
    ⟨r.num * Nat.pow 10 (-e).toNat, r.den⟩

/- Comparison of a ratio with a whole number. -/
def Ratio.compareNat
    (r : Ratio)
    (n : Nat) : Ordering :=
  compare r.num (n * r.den)

/-
  How often a ratio below one has to be multiplied by ten
  until it reaches one, looking `fuel` steps ahead.
-/
def leadingZeros
    (r : Ratio) : Nat → Nat
  | 0 => 0
  | fuel + 1 =>
      if r.den ≤ r.num then
        0
      else
        leadingZeros ⟨r.num * 10, r.den⟩ fuel + 1

/- The exponent of the leading decimal digit of a ratio. -/
def leadingExponent
    (r : Ratio) : Int :=
  if r.den ≤ r.num then
    ((Nat.toDigits 10 (r.num / r.den)).length : Int) - 1
  else
    -(leadingZeros r 400 : Int)

/-
  The best decimal with the given exponent that reads back
  as the number, if there is one.
-/
def onGrid?
    (b : Binary)
    (exponent : Int) : Option Decimal :=
  let value :=
    (Ratio.binary (4 * b.significand)
      (b.exponent - 2)).divPow exponent
  let low :=
    (Ratio.binary
      (4 * b.significand - if b.narrowBelow then 1 else 2)
      (b.exponent - 2)).divPow exponent
  let high :=
    (Ratio.binary (4 * b.significand + 2)
      (b.exponent - 2)).divPow exponent
  let closed := b.significand % 2 = 0
  let reads := fun n =>
    (low.compareNat n == .lt
        || (closed && low.compareNat n == .eq))
      && (high.compareNat n == .gt
        || (closed && high.compareNat n == .eq))
  let below := value.num / value.den
  let above := below + 1
  match reads below, reads above with
  | true, false => some ⟨below, exponent⟩
  | false, true => some ⟨above, exponent⟩
  | false, false => none
  | true, true =>
      match compare (2 * value.num)
          ((below + above) * value.den) with
      | .lt => some ⟨below, exponent⟩
      | .gt => some ⟨above, exponent⟩
      | .eq =>
          if below % 2 = 0 then
            some ⟨below, exponent⟩
          else
            some ⟨above, exponent⟩

/-
  The shortest decimal that reads back as a positive number.
-/
def Binary.shortest
    (b : Binary) : Decimal :=
  let lead := leadingExponent
    (Ratio.binary b.significand b.exponent)
  let grids := (List.range 17).map fun (k : Nat) =>
    lead - (k : Int)
  (grids.findSome? (onGrid? b)).getD ⟨0, 0⟩

/- The shortest decimal of the absolute value of a float. -/
def shortest
    (x : Float) : Decimal :=
  let b := Binary.ofFloat x
  if b.significand = 0 then
    ⟨0, 0⟩
  else
    b.shortest

------------------------------------------------------------
-- Texts
------------------------------------------------------------

/-
  The digits of a decimal without zeros at the end, with the
  exponent of the last digit that is left.
-/
def trimmed
    (d : Decimal) : List Char × Int :=
  let written := Nat.toDigits 10 d.digits
  let zeros := (written.reverse.takeWhile (· == '0')).length
  if d.digits = 0 then
    (['0'], 0)
  else
    (written.take (written.length - zeros),
      d.exponent + (zeros : Int))

/- Whether a float carries a minus sign. -/
def isNegative
    (x : Float) : Bool :=
  0x8000000000000000 ≤ x.toBits.toNat

/- A text with a minus sign if the float carries one. -/
def signed
    (x : Float)
    (cs : List Char) : String :=
  String.ofList (if isNegative x then '-' :: cs else cs)

/-
  Digits with a decimal point in positional notation and at
  least one digit on both sides of the point.
-/
def pointed
    (digits : List Char)
    (exponent : Int) : List Char :=
  if 0 ≤ exponent then
    digits ++ List.replicate exponent.toNat '0' ++ ['.', '0']
  else
    let places := (-exponent).toNat
    let padded :=
      List.replicate (places + 1 - digits.length) '0'
        ++ digits
    padded.take (padded.length - places)
      ++ '.' :: padded.drop (padded.length - places)

/- The shortest text of a float in positional notation. -/
def positional
    (x : Float) : String :=
  let (digits, exponent) := (shortest x).trimmed
  signed x (pointed digits exponent)

/-
  The shortest text of a float, with an exponent when the
  leading digit stands above 10 ^ 15 or below 10 ^ -5.
-/
def compact
    (x : Float) : String :=
  let (digits, exponent) := (shortest x).trimmed
  let point := exponent + (digits.length : Int)
  if -5 < point ∧ point ≤ 16 then
    signed x (pointed digits exponent)
  else
    let fraction :=
      match digits.tail with
      | [] => []
      | rest => '.' :: rest
    signed x (digits.take 1 ++ fraction ++ ['e']
      ++ (toString (point - 1)).toList)

end Decimal
end WorkspaceClient
