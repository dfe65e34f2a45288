import WorkspaceClient.Bytes.Basic

/-
  This file defines the binary form of certificates and
  keys: elements with a tag, a length and a content.

  Only the outer shape of a certificate or key is looked at.

  Key definitions include:
    * `Der.Element`
    * `Der.element?`
    * `Der.elements?`
    * `Der.isCertificate`
    * `Der.isRsaKey`
-/

namespace WorkspaceClient
namespace Der

------------------------------------------------------------
-- Elements
------------------------------------------------------------

/- An element with its tag and its content. -/
structure Element where
  tag : UInt8
  content : Bytes
  deriving DecidableEq, Repr

/- The number that bytes write in base 256. -/
def bytesToNat
    (bs : Bytes) : Nat :=
  bs.foldl (fun n b => 256 * n + b.toNat) 0

/- The length at the front of a byte string, and the rest. -/
def length? : Bytes → Option (Nat × Bytes)
  | [] => none
  | b :: rest =>
      if b < 0x80 then
        some (b.toNat, rest)
      else
        let size := b.toNat - 0x80
        if size = 0 ∨ 4 < size ∨ rest.length < size then
          none
        else
          some (bytesToNat (rest.take size), rest.drop size)

/- The element at the front of a byte string, and the rest. -/
def element? : Bytes → Option (Element × Bytes)
  | [] => none
  | tag :: rest => do
      let (length, body) ← length? rest
      if body.length < length then
        none
      else
        some (⟨tag, body.take length⟩, body.drop length)

/- The elements that make up a byte string, at most `fuel`. -/
def elementsWithin? : Nat → Bytes → Option (List Element)
  | _, [] => some []
  | 0, _ :: _ => none
  | fuel + 1, bs => do
      let (e, rest) ← element? bs
      let es ← elementsWithin? fuel rest
      return e :: es

/- The elements that make up a byte string. -/
def elements?
    (bs : Bytes) : Option (List Element) :=
  elementsWithin? bs.length bs

------------------------------------------------------------
-- Shapes
------------------------------------------------------------

/- The tag of a sequence. -/
def sequenceTag : UInt8 :=
  0x30

/- The tag of a whole number. -/
def integerTag : UInt8 :=
  0x02

/- The tag of a bit string. -/
def bitsTag : UInt8 :=
  0x03

/- The tags in the sequence at the front of a byte string. -/
def sequenceTags?
    (bs : Bytes) : Option (List UInt8) := do
  let (e, _) ← element? bs
  if e.tag = sequenceTag then
    return (← elements? e.content).map (·.tag)
  else
    none

/-
  A certificate holds what is certified, the algorithm of
  the signature, and the signature.
-/
def isCertificate
    (bs : Bytes) : Bool :=
  sequenceTags? bs
    == some [sequenceTag, sequenceTag, bitsTag]

/- An RSA key holds its version and eight numbers. -/
def isRsaKey
    (bs : Bytes) : Bool :=
  sequenceTags? bs == some (List.replicate 9 integerTag)

end Der
end WorkspaceClient
