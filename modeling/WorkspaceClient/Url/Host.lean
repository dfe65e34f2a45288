import WorkspaceClient.Url.Fault
import WorkspaceClient.Url.Percent

/-
  This file defines the hosts of URLs: domain names and
  addresses of both versions, their reading, and their text.

  Key definitions include:
    * `Url.Host`
    * `Url.Host.text`
    * `Url.parseIpv4`
    * `Url.parseIpv6`
    * `Url.parseDomain`
    * `Url.parseHost`
-/

namespace WorkspaceClient
namespace Url

------------------------------------------------------------
-- Hosts
------------------------------------------------------------

/- A domain name or a network address. -/
inductive Host where
  | domain (name : List Char)
  | ipv4 (address : Nat)
  | ipv6 (pieces : List Nat)
  deriving DecidableEq, Repr

------------------------------------------------------------
-- Addresses of version 4
------------------------------------------------------------

/- The four bytes of an address with points between them. -/
def ipv4Text
    (address : Nat) : List Char :=
  let byte := fun i => address / Nat.pow 256 i % 256
  (Text.join "."
    ([3, 2, 1, 0].map fun i => toString (byte i))).toList

/- The value of a list of digits in some base. -/
def valueInBase?
    (base : Nat)
    (cs : List Char) : Option Nat :=
  cs.foldlM (fun n c => do
    let d ← Text.hexValue? c
    if d < base then some (base * n + d) else none) 0

/-
  The number of a part of an address, in base ten, sixteen
  with a leading `0x`, or eight with a leading zero.
-/
def ipv4Part?
    (cs : List Char) : Option Nat :=
  match cs with
  | [] => none
  | '0' :: 'x' :: rest => valueInBase? 16 rest
  | '0' :: 'X' :: rest => valueInBase? 16 rest
  | '0' :: d :: rest => valueInBase? 8 (d :: rest)
  | _ => valueInBase? 10 cs

/- The parts of a name, without an empty last one. -/
def nameParts
    (cs : List Char) : List (List Char) :=
  let parts := Text.splitOn ['.'] cs
  if parts.getLast? = some [] then parts.dropLast else parts

/- Whether a name is to be read as an address. -/
def endsInNumber
    (cs : List Char) : Bool :=
  match (nameParts cs).getLast? with
  | none => false
  | some last =>
      (!last.isEmpty && last.all Char.isDigit)
        || (ipv4Part? last).isSome

/- The address that a name stands for. -/
def parseIpv4
    (cs : List Char) : Except Fault Nat :=
  match (nameParts cs).mapM ipv4Part? with
  | none => .error .badIpv4
  | some numbers =>
      let head := numbers.dropLast
      let last := numbers.getLastD 0
      if 4 < numbers.length
          || head.any (255 < ·)
          || Nat.pow 256 (4 - head.length) ≤ last then
        .error .badIpv4
      else
        .ok (head.zipIdx.foldl (fun sum (n, i) =>
          sum + n * Nat.pow 256 (3 - i)) last)

------------------------------------------------------------
-- Addresses of version 6
------------------------------------------------------------

/- A piece of an address: one to four hexadecimal digits. -/
def ipv6Piece?
    (cs : List Char) : Option Nat :=
  if cs.isEmpty || 4 < cs.length then
    none
  else
    valueInBase? 16 cs

/- A byte of an address, without a leading zero. -/
def ipv4Byte?
    (cs : List Char) : Option Nat := do
  if cs.isEmpty || !cs.all Char.isDigit then
    none
  if cs.head? = some '0' && 1 < cs.length then
    none
  let n ← valueInBase? 10 cs
  if n < 256 then some n else none

/-
  The pieces of a part of an address. The last piece may be
  written as four bytes, which make two pieces.
-/
def ipv6Pieces? : List (List Char) → Option (List Nat)
  | [] => some []
  | [last] =>
      match ipv6Piece? last with
      | some n => some [n]
      | none => do
          let bytes ←
            (Text.splitOn ['.'] last).mapM ipv4Byte?
          match bytes with
          | [a, b, c, d] => some [256 * a + b, 256 * c + d]
          | _ => none
  | p :: rest => do
      let n ← ipv6Piece? p
      let ns ← ipv6Pieces? rest
      return n :: ns

/- The pieces of a part of an address that may be empty. -/
def ipv6Half?
    (cs : List Char) : Option (List Nat) :=
  if cs.isEmpty then
    some []
  else
    ipv6Pieces? (Text.splitOn [':'] cs)

/-
  The eight pieces of an address. Two colons stand for one
  or more zero pieces.
-/
def parseIpv6
    (cs : List Char) : Except Fault (List Nat) :=
  let pieces? : Option (List Nat) :=
    match Text.splitOn [':', ':'] cs with
    | [whole] => do
        let ns ← ipv6Half? whole
        if ns.length = 8 then some ns else none
    | [left, right] => do
        let ls ← ipv6Half? left
        let rs ← ipv6Half? right
        if left.contains '.' then
          none
        if ls.length + rs.length ≤ 7 then
          some (ls
            ++ List.replicate (8 - ls.length - rs.length) 0
            ++ rs)
        else
          none
    | _ => none
  match pieces? with
  | some pieces => .ok pieces
  | none => .error .badIpv6

/- The number of zeros at the front of a list. -/
def zeroRun
    (ns : List Nat) : Nat :=
  (ns.takeWhile (· == 0)).length

/-
  The start and length of the first longest run of zeros.
-/
def longestZeros
    (ns : List Nat) : Nat × Nat :=
  ((List.range ns.length).map fun i =>
      (i, zeroRun (ns.drop i))).foldl
    (fun best run => if best.2 < run.2 then run else best)
    (0, 0)

/-
  The pieces of an address with colons between them, and two
  colons for the first longest run of at least two zeros.
-/
def ipv6Text
    (pieces : List Nat) : List Char :=
  let write := fun ns =>
    (Text.join ":" (ns.map Text.hexText)).toList
  let (start, length) := longestZeros pieces
  if length < 2 then
    write pieces
  else
    write (pieces.take start) ++ [':', ':']
      ++ write (pieces.drop (start + length))

------------------------------------------------------------
-- Domain names
------------------------------------------------------------

/- The characters that no domain name contains. -/
def isForbidden
    (c : Char) : Bool :=
  c.toNat ≤ 0x20 || c.toNat == 0x7F
    || "#%/:<>?@[\\]^|".toList.contains c

/- A letter of a domain name in lower case. -/
def foldCase
    (c : Char) : Char :=
  let n := c.toNat
  if (0xC0 ≤ n && n ≤ 0xDE && n != 0xD7)
      || (0x391 ≤ n && n ≤ 0x3A9)
      || (0x410 ≤ n && n ≤ 0x42F) then
    Char.ofNat (n + 32)
  else if 0x400 ≤ n && n ≤ 0x40F then
    Char.ofNat (n + 80)
  else
    c.toLower

/- The characters that mark no place in a domain name. -/
def isIgnored
    (c : Char) : Bool :=
  [0xAD, 0x34F, 0x200B, 0x2060, 0x2064, 0xFEFF].contains
    c.toNat

/-
  The characters that one of a domain name stands for: none,
  a point for other full stops, the narrow form of a wide
  character, or a letter in lower case.
-/
def foldWide
    (c : Char) : List Char :=
  let n := c.toNat
  if isIgnored c then
    []
  else if [0x3002, 0xFF0E, 0xFF61].contains n then
    ['.']
  else if 0xFF01 ≤ n && n ≤ 0xFF5E then
    [foldCase (Char.ofNat (n - 0xFEE0))]
  else
    [foldCase c]

/- The digit of a value below 36. -/
def punycodeDigit
    (n : Nat) : Char :=
  if n < 26 then Char.ofNat (97 + n) else Char.ofNat (22 + n)

/- The divisions that adapt the bias, at most `fuel`. -/
def reduceDelta : Nat → Nat → Nat → Nat
  | 0, k, delta => k + 36 * delta / (delta + 38)
  | fuel + 1, k, delta =>
      if 455 < delta then
        reduceDelta fuel (k + 36) (delta / 35)
      else
        k + 36 * delta / (delta + 38)

/- The bias after a delta was written. -/
def adaptBias
    (delta points : Nat)
    (isFirst : Bool) : Nat :=
  let d := if isFirst then delta / 700 else delta / 2
  reduceDelta 64 0 (d + d / points)

/- A number of variable length, with at most `fuel` digits. -/
def variableDigits
    (bias : Nat) : Nat → Nat → Nat → List Char
  | 0, _, _ => []
  | fuel + 1, k, q =>
      let t := min 26 (max 1 (k - bias))
      if q < t then
        [punycodeDigit q]
      else
        punycodeDigit (t + (q - t) % (36 - t))
          :: variableDigits bias fuel (k + 36)
            ((q - t) / (36 - t))

/- The state of writing a label: delta, bias, done, text. -/
structure PunycodeState where
  delta : Nat
  bias : Nat
  done : Nat
  basic : Nat
  text : List Char

/- Pass over one character while all `n` are written. -/
def PunycodeState.step
    (n : Nat)
    (s : PunycodeState)
    (c : Char) : PunycodeState :=
  if c.toNat < n then
    { s with delta := s.delta + 1 }
  else if c.toNat = n then
    { s with
      delta := 0
      bias := adaptBias s.delta (s.done + 1)
        (s.done == s.basic)
      done := s.done + 1
      text := s.text ++ variableDigits s.bias 64 36 s.delta }
  else
    s

/-
  Write all characters from the code point `n` on, one code
  point after the other in ascending order.
-/
def punycodeLoop
    (label : List Char) :
    List Nat → Nat → PunycodeState → List Char
  | [], _, s => s.text
  | m :: ms, n, s =>
      let s :=
        { s with delta := s.delta + (m - n) * (s.done + 1) }
      let s := label.foldl (PunycodeState.step m) s
      punycodeLoop label ms (m + 1)
        { s with delta := s.delta + 1 }

/- The code points of a label above ASCII, in order. -/
def foreignPoints
    (label : List Char) : List Nat :=
  ((label.map Char.toNat).filter (0x80 ≤ ·)).eraseDups.mergeSort
    (· ≤ ·)

/- A label of a domain name with ASCII characters only. -/
def asciiLabel
    (label : List Char) : List Char :=
  if label.all fun c => c.toNat < 0x80 then
    label
  else
    let basic := label.filter fun c => c.toNat < 0x80
    let start :=
      if basic.isEmpty then [] else basic ++ ['-']
    "xn--".toList ++ start
      ++ punycodeLoop label (foreignPoints label) 0x80
        { delta := 0
          bias := 72
          done := basic.length
          basic := basic.length
          text := [] }

/- The ASCII form of a folded domain name. -/
def asciiDomain
    (cs : List Char) : List Char :=
  (Text.join "."
    ((Text.splitOn ['.'] cs).map fun label =>
      String.ofList (asciiLabel label))).toList

/-
  Whether a label claims to be the ASCII form of another one
  but writes no character above ASCII.
-/
def isHollow
    (label : List Char) : Bool :=
  "xn--".toList.isPrefixOf label && label.getLast? == some '-'

/- Read a domain name or an address of version 4. -/
def parseDomain
    (cs : List Char) : Except Fault Host := do
  let some decoded := decode cs
    | throw .badDomain
  let folded := decoded.flatMap foldWide
  if folded.any isForbidden
      || (Text.splitOn ['.'] folded).any isHollow then
    throw .badDomain
  let name := asciiDomain folded
  if name.isEmpty then
    throw .emptyHost
  else if endsInNumber name then
    return .ipv4 (← parseIpv4 name)
  else
    return .domain name

------------------------------------------------------------
-- Reading and writing
------------------------------------------------------------

/- The text between brackets, if there are brackets. -/
def bracketed?
    (cs : List Char) : Option (List Char) :=
  if cs.getLast? = some ']' then
    some cs.tail.dropLast
  else
    none

/- Read a host. -/
def parseHost
    (cs : List Char) : Except Fault Host :=
  if cs.head? = some '[' then
    match bracketed? cs with
    | some inside => .ipv6 <$> parseIpv6 inside
    | none => .error .badIpv6
  else
    parseDomain cs

/- The text of a host. -/
def Host.text : Host → List Char
  | domain name => name
  | ipv4 address => ipv4Text address
  | ipv6 pieces => '[' :: ipv6Text pieces ++ [']']

end Url
end WorkspaceClient
