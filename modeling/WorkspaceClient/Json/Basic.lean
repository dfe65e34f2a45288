import WorkspaceClient.Decimal.Shortest

/-
  This file defines JSON values as they are found in a text.

  A text may stop being JSON somewhere. The values before
  that place keep their meaning, because the reader of a
  document meets them first; the place itself is the value
  `broken`. Strings whose characters cannot be decoded are
  values too: they only matter to somebody who reads them.

  Key definitions include:
    * `Json.Numeral`
    * `Json.NumberValue`
    * `Json.Numeral.value`
    * `Json`
    * `Json.isIntact`
    * `Json.depth`
    * `Json.sorted`
-/

namespace WorkspaceClient

------------------------------------------------------------
-- Numbers
------------------------------------------------------------

/-
  A number as it is written: its sign, the digits before and
  after the point, and the sign and digits of the exponent.
-/
structure Json.Numeral where
  negative : Bool
  whole : List Nat
  fraction : List Nat
  exponent : Option (Bool × List Nat)
  deriving DecidableEq, Repr

/-
  What a number denotes: a whole number of at most 64 bits,
  a floating-point number, or nothing that fits either.
-/
inductive Json.NumberValue where
  | natural (n : Nat)
  | negative (n : Nat)
  | float (x : Float)
  | outOfRange

namespace Json.Numeral

/- The numeral of a natural number. -/
def ofNat
    (n : Nat) : Numeral :=
  { negative := false
    whole := (Nat.toDigits 10 n).map fun c => c.toNat - 48
    fraction := []
    exponent := none }

/- The greatest whole number of 64 bits. -/
def maxWhole : Nat :=
  0xFFFFFFFFFFFFFFFF

/- The greatest amount of a negative whole number. -/
def maxNegative : Nat :=
  0x8000000000000000

/-
  The digits that fit into 64 bits, read after `sum`, and
  the number of digits that do not.
-/
def accumulate
    (sum : Nat) : List Nat → Nat × Nat
  | [] => (sum, 0)
  | d :: ds =>
      if 10 * sum + d ≤ maxWhole then
        accumulate (10 * sum + d) ds
      else
        (sum, ds.length + 1)

/-
  A float divided by ten to the power of `e`. A power that
  no float holds is divided by in parts.
-/
def scaleDown
    (x : Float)
    (e : Nat) : Float :=
  if e ≤ 308 then
    x / Float.ofScientific 1 false e
  else if x == 0.0 then
    x
  else
    scaleDown (x / 1e308) (e - 308)
termination_by e

/- A float times ten to a power, if that is finite. -/
def scaleUp?
    (x : Float)
    (e : Nat) : Option Float :=
  if e ≤ 308 then
    let y := x * Float.ofScientific 1 false e
    if y.isInf then none else some y
  else if x == 0.0 then
    some x
  else
    none

/-
  A significand times ten to a power, with a sign. The
  significand is rounded before it is scaled.
-/
def scale
    (negative : Bool)
    (significand : Nat)
    (exponent : Int) : NumberValue :=
  let x := Float.ofNat significand
  let scaled :=
    if 0 ≤ exponent then
      scaleUp? x exponent.toNat
    else
      some (scaleDown x (-exponent).toNat)
  match scaled with
  | some y => .float (if negative then -y else y)
  | none => .outOfRange

/- The greatest exponent that is computed with. -/
def maxExponent : Nat :=
  0x7FFFFFFF

/-
  What a numeral denotes.

  Digits before the point that no longer fit into 64 bits
  raise the exponent, and digits after it are dropped.
-/
def value
    (n : Numeral) : NumberValue :=
  let (whole, surplus) := accumulate 0 n.whole
  let (significand, dropped) := accumulate whole n.fraction
  let kept := n.fraction.length - dropped
  let base := (surplus : Int) - (kept : Int)
  match n.exponent with
  | none =>
      if n.fraction.isEmpty && surplus == 0 then
        if !n.negative then
          .natural whole
        else if 0 < whole && whole ≤ maxNegative then
          .negative whole
        else
          scale true whole 0
      else
        scale n.negative significand base
  | some (isDown, digits) =>
      let e := digits.foldl (fun e d => 10 * e + d) 0
      if maxExponent < e then
        if significand ≠ 0 && !isDown then
          .outOfRange
        else
          .float (if n.negative then -0.0 else 0.0)
      else
        scale n.negative significand
          (if isDown then base - (e : Int) else base + (e : Int))

/- The text of what a numeral denotes. -/
def text
    (n : Numeral) : String :=
  match n.value with
  | .natural k => toString k
  | .negative k => "-" ++ toString k
  | .float x => Decimal.compact x
  | .outOfRange => "null"

end Json.Numeral

------------------------------------------------------------
-- Values
------------------------------------------------------------

/-
  A JSON value as it is found in a text. The members of an
  object keep the order and the repetitions of the text.
-/
inductive Json where
  | null
  | bool (b : Bool)
  | number (n : Json.Numeral)
  | text (s : Option String)
  | array (items : List Json)
  | object (members : List (Option String × Json))
  | broken
  deriving Repr

namespace Json

/- The value of a text. -/
def ofText
    (s : String) : Json :=
  .text (some s)

/- The value of a natural number. -/
def ofNat
    (n : Nat) : Json :=
  .number (.ofNat n)

/- The array of several texts. -/
def ofTexts
    (ss : List String) : Json :=
  .array (ss.map ofText)

/- The object with these members. -/
def ofMembers
    (members : List (String × Json)) : Json :=
  .object (members.map fun (k, v) => (some k, v))

------------------------------------------------------------
-- Shape
------------------------------------------------------------

mutual

/- Whether a value is JSON down to its last part. -/
def isIntact : Json → Bool
  | broken => false
  | array items => intactItems items
  | object members => intactMembers members
  | _ => true

/- Whether all items are intact. -/
def intactItems : List Json → Bool
  | [] => true
  | v :: vs => isIntact v && intactItems vs

/- Whether all members are intact. -/
def intactMembers : List (Option String × Json) → Bool
  | [] => true
  | (_, v) :: ms => isIntact v && intactMembers ms

end

mutual

/- The number of arrays and objects nested in one another. -/
def depth : Json → Nat
  | array items => depthItems items + 1
  | object members => depthMembers members + 1
  | _ => 0

/- The greatest depth of an item. -/
def depthItems : List Json → Nat
  | [] => 0
  | v :: vs => max (depth v) (depthItems vs)

/- The greatest depth of a member. -/
def depthMembers : List (Option String × Json) → Nat
  | [] => 0
  | (_, v) :: ms => max (depth v) (depthMembers ms)

end

mutual

/-
  Whether every text of a value can be decoded and every
  number has a value.
-/
def isReadable : Json → Bool
  | broken => false
  | text s => s.isSome
  | number n =>
      match n.value with
      | .outOfRange => false
      | _ => true
  | array items => readableItems items
  | object members => readableMembers members
  | _ => true

/- Whether all items are readable. -/
def readableItems : List Json → Bool
  | [] => true
  | v :: vs => isReadable v && readableItems vs

/- Whether all members and their names are readable. -/
def readableMembers : List (Option String × Json) → Bool
  | [] => true
  | (k, v) :: ms =>
      k.isSome && isReadable v && readableMembers ms

end

------------------------------------------------------------
-- Sorting
------------------------------------------------------------

/-
  Put a member at its place among members with ascending
  names. A member of the same name is replaced.
-/
def insertMember
    (k : Option String)
    (v : Json) :
    List (Option String × Json) →
    List (Option String × Json)
  | [] => [(k, v)]
  | (k', v') :: rest =>
      if k == k' then
        (k, v) :: rest
      else if (k.getD "") < (k'.getD "") then
        (k, v) :: (k', v') :: rest
      else
        (k', v') :: insertMember k v rest

mutual

/-
  A value with the members of its objects in ascending order
  of their names. Of members with one name the last counts.
-/
def sorted : Json → Json
  | array items => array (sortedItems items)
  | object members =>
      object ((sortedMembers members).foldl
        (fun ms (k, v) => insertMember k v ms) [])
  | v => v

/- All items, sorted inside. -/
def sortedItems : List Json → List Json
  | [] => []
  | v :: vs => sorted v :: sortedItems vs

/- All members, sorted inside. -/
def sortedMembers :
    List (Option String × Json) → List (Option String × Json)
  | [] => []
  | (k, v) :: ms => (k, sorted v) :: sortedMembers ms

end

end Json
end WorkspaceClient
