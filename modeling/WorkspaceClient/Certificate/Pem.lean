import WorkspaceClient.Bytes.Base64
import WorkspaceClient.Certificate.Der
import WorkspaceClient.Text.Search

/-
  This file defines the text form of certificates and keys:
  base64 sections between marked lines.

  Key definitions include:
    * `Pem.Section`
    * `Pem.lines`
    * `Pem.sections?`
    * `Pem.Fault`
    * `Pem.Fault.message`
    * `Pem.certificates`
-/

namespace WorkspaceClient
namespace Pem

------------------------------------------------------------
-- Lines
------------------------------------------------------------

/- Whether a byte ends a line. -/
def isLineEnd
    (b : UInt8) : Bool :=
  b == 0x0A || b == 0x0D

/- The lines of a byte string, each with its last byte. -/
def lines : Bytes → List Bytes
  | [] => []
  | b :: rest =>
      if isLineEnd b then
        [b] :: lines rest
      else
        match lines rest with
        | [] => [[b]]
        | l :: ls => (b :: l) :: ls

/- Blanks at the end of a marked line. -/
def isLineBlank
    (b : UInt8) : Bool :=
  isLineEnd b || b == 0x20

/- Blanks between the symbols of a section. -/
def isBodyBlank
    (b : UInt8) : Bool :=
  isLineBlank b || b == 0x09

/- How a line starts that opens a section. -/
def openMark : Bytes :=
  Bytes.ofText "-----BEGIN "

/- How a line starts that closes a section of this label. -/
def closeMark
    (label : Bytes) : Bytes :=
  Bytes.ofText "-----END " ++ label ++ Bytes.ofText "-----"

/-
  The label of a line that opens a section. The line ends in
  five dashes.
-/
def label?
    (line : Bytes) : Option Bytes :=
  let isDash := fun b => b == Bytes.ofAscii '-'
  let tail := line.reverse.takeWhile fun b =>
    isDash b || isLineBlank b
  let marks := (tail.reverse.dropWhile isLineBlank)
  if (tail.filter isDash).length = 5 then
    some ((line.take (line.length - marks.length)).drop
      openMark.length)
  else
    none

------------------------------------------------------------
-- Sections
------------------------------------------------------------

/- A section with its label and its symbols. -/
structure Section where
  label : Bytes
  body : Bytes
  deriving DecidableEq, Repr

/-
  The sections of several lines, or `none` if a marked line
  is malformed or a section is not closed.

  The label `inside` is that of the open section, and `body`
  holds the symbols that were read.
-/
def readSections?
    (inside : Option Bytes)
    (body : Bytes) : List Bytes → Option (List Section)
  | [] => if inside.isSome then none else some []
  | line :: rest =>
      if openMark.isPrefixOf line then
        match label? line with
        | some label => readSections? (some label) body rest
        | none => none
      else
        match inside with
        | none => readSections? none body rest
        | some label =>
            if (closeMark label).isPrefixOf line then
              (⟨label, body⟩ :: ·)
                <$> readSections? none [] rest
            else
              readSections? (some label) (body ++ line) rest

/- The sections of a byte string. -/
def sections?
    (bs : Bytes) : Option (List Section) :=
  readSections? none [] (lines bs)

/- The labels of sections that must hold base64. -/
def knownLabels : List String :=
  ["CERTIFICATE", "PUBLIC KEY", "RSA PRIVATE KEY",
    "PRIVATE KEY", "EC PRIVATE KEY", "X509 CRL",
    "CERTIFICATE REQUEST", "ECHCONFIG"]

/- The binary content of a section. -/
def Section.content?
    (s : Section) : Option Bytes :=
  (Base64.decode
    (s.body.filter (!isBodyBlank ·))).toOption

/- Whether a section has this label. -/
def Section.isLabelled
    (s : Section)
    (label : String) : Bool :=
  s.label == Bytes.ofText label

/-
  The binary contents of the sections with a label, or
  `none` if a section of a known label has no content.
-/
def contents?
    (label : String)
    (bs : Bytes) : Option (List Bytes) := do
  let known := (← sections? bs).filter fun s =>
    knownLabels.any s.isLabelled
  let decoded ← known.mapM fun s =>
    s.content?.map (s, ·)
  return (decoded.filter (·.1.isLabelled label)).map (·.2)

------------------------------------------------------------
-- Certificates
------------------------------------------------------------

/- The reasons why a byte string is no certificate bundle. -/
inductive Fault where
  | noCertificate
  | badCertificate
  deriving DecidableEq, Repr

/- The text of a fault. -/
def Fault.message : Fault → String
  | noCertificate =>
      "CA bundle does not contain a PEM certificate"
  | badCertificate =>
      "invalid CA certificate:"

/- The line that a bundle contains at least once. -/
def certificateMark : Bytes :=
  Bytes.ofText "-----BEGIN CERTIFICATE-----"

/- The certificates of a bundle, at least one. -/
def certificates
    (bs : Bytes) : Except Fault (List Bytes) :=
  if !Text.occurs certificateMark bs then
    .error .noCertificate
  else
    match contents? "CERTIFICATE" bs with
    | none => .error .badCertificate
    | some ders =>
        if !ders.all Der.isCertificate then
          .error .badCertificate
        else if ders.isEmpty then
          .error .noCertificate
        else
          .ok ders

end Pem
end WorkspaceClient
