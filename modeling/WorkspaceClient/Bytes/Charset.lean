import WorkspaceClient.Bytes.Lossy
import WorkspaceClient.Bytes.Pages

/-
  This file defines reading bytes as text in a character set
  that is known by its name. A mark at the start of the
  bytes decides before the name does.

  A set that is not known by its name is read as UTF-8. So
  are the sets of East Asia in which a character can be two
  bytes, whose tables are not here: gbk, gb18030, big5,
  euc-jp, iso-2022-jp, shift_jis and euc-kr. Text in ASCII
  is read the same.

  Key definitions include:
    * `Charset`
    * `Charset.labels`
    * `Charset.ofLabel?`
    * `Bytes.Wide.decode`
    * `Bytes.singleChar`
    * `Bytes.toTextAs`
-/

namespace WorkspaceClient

------------------------------------------------------------
-- Names
------------------------------------------------------------

/-
  A character set. Nothing is read of bytes in a set that is
  `refused`, since they could hide what they are.
-/
inductive Charset where
  | utf8
  | wide (bigEndian : Bool)
  | single (upper : List Char)
  | refused
  deriving DecidableEq, Repr

namespace Charset

/- The characters from 0x80 on in the set that users define. -/
def userDefined : List Char :=
  (List.range 128).map fun n => Char.ofNat (0xF780 + n)

/- The names of the sets of Unicode, in lower case. -/
def unicode : List (Charset × List String) :=
  [ (.utf8,
      ["unicode-1-1-utf-8", "unicode11utf8", "unicode20utf8",
        "utf-8", "utf8", "x-unicode20utf8"]),
    (.wide false,
      ["csunicode", "iso-10646-ucs-2", "ucs-2", "unicode",
        "unicodefeff", "utf-16", "utf-16le"]),
    (.wide true,
      ["unicodefffe", "utf-16be"]) ]

/- The names of two sets that are not for exchange. -/
def special : List (Charset × List String) :=
  [ (.single userDefined,
      ["x-user-defined"]),
    (.refused,
      ["csiso2022kr", "hz-gb-2312", "iso-2022-cn",
        "iso-2022-cn-ext", "iso-2022-kr", "replacement"]) ]

/- The names of all sets, in lower case. -/
def labels : List (Charset × List String) :=
  unicode ++ special
    ++ pages.map fun page => (.single page.upper, page.names)

/- Whether a character does not count around a name. -/
def isPadding
    (c : Char) : Bool :=
  c == ' ' || c == '\t' || c == '\n' || c == '\r'
    || c == '\x0c'

/- The set that is known by a name. -/
def ofLabel?
    (label : List Char) : Option Charset :=
  let inner :=
    ((label.dropWhile isPadding).reverse.dropWhile
      isPadding).reverse
  let name := String.ofList (inner.map Char.toLower)
  (labels.find? fun entry => entry.2.contains name).map (·.1)

end Charset

------------------------------------------------------------
-- Units of two bytes
------------------------------------------------------------

namespace Bytes
namespace Wide

open Lossy (replacement)

/- The units of two bytes, and whether a byte is left. -/
def units
    (bigEndian : Bool) : Bytes → List Nat × Bool
  | [] => ([], false)
  | [_] => ([], true)
  | a :: b :: rest =>
      let (us, isOdd) := units bigEndian rest
      let unit :=
        if bigEndian then
          256 * a.toNat + b.toNat
        else
          256 * b.toNat + a.toNat
      (unit :: us, isOdd)

/- Whether a unit is the first one of a pair. -/
def isLead
    (u : Nat) : Bool :=
  0xD800 ≤ u && u < 0xDC00

/- Whether a unit is the second one of a pair. -/
def isTrail
    (u : Nat) : Bool :=
  0xDC00 ≤ u && u < 0xE000

/- The character of a pair. -/
def ofPair
    (lead trail : Nat) : Char :=
  Char.ofNat
    (0x10000 + 1024 * (lead - 0xD800) + (trail - 0xDC00))

/- Start a character with a unit. -/
def start
    (u : Nat) : List Char × Option Nat :=
  if isLead u then
    ([], some u)
  else if isTrail u then
    ([replacement], none)
  else
    ([Char.ofNat u], none)

/- Take one unit after an open pair, or start with it. -/
def step
    (lead : Option Nat)
    (u : Nat) : List Char × Option Nat :=
  match lead with
  | none => start u
  | some l =>
      if isTrail u then
        ([ofPair l u], none)
      else
        let (cs, next) := start u
        (replacement :: cs, next)

/-
  The characters of units after an open pair. An open pair
  and a left byte at the end are replaced together.
-/
def ofUnits
    (isOdd : Bool)
    (lead : Option Nat) : List Nat → List Char
  | [] => if isOdd || lead.isSome then [replacement] else []
  | u :: us =>
      let (cs, next) := step lead u
      cs ++ ofUnits isOdd next us

/- The characters of bytes in units of two. -/
def decode
    (bigEndian : Bool)
    (bs : Bytes) : List Char :=
  let (us, isOdd) := units bigEndian bs
  ofUnits isOdd none us

end Wide

------------------------------------------------------------
-- Units of one byte
------------------------------------------------------------

/- The character of a byte in a set of single bytes. -/
def singleChar
    (upper : List Char)
    (b : UInt8) : Char :=
  if b < 0x80 then
    Char.ofNat b.toNat
  else
    upper.getD (b.toNat - 0x80) Lossy.replacement

------------------------------------------------------------
-- Text
------------------------------------------------------------

/- The text of bytes without a mark. -/
def toTextUnmarked
    (bs : Bytes) : Charset → String
  | .utf8 => String.ofList (Lossy.decode none bs)
  | .wide bigEndian =>
      String.ofList (Wide.decode bigEndian bs)
  | .single upper => String.ofList (bs.map (singleChar upper))
  | .refused =>
      if bs.isEmpty then
        ""
      else
        String.singleton Lossy.replacement

/-
  The text of bytes in a character set, with replacement
  characters for undecodable bytes. A mark names its own
  set, and is no part of the text.
-/
def toTextAs
    (charset : Charset)
    (bs : Bytes) : String :=
  match bs with
  | 0xEF :: 0xBB :: 0xBF :: rest => toTextUnmarked rest .utf8
  | 0xFF :: 0xFE :: rest => toTextUnmarked rest (.wide false)
  | 0xFE :: 0xFF :: rest => toTextUnmarked rest (.wide true)
  | _ => toTextUnmarked bs charset

end Bytes
end WorkspaceClient
