/-
  This file defines byte strings and their reading as UTF-8
  text.

  Key definitions include:
    * `Bytes`
    * `Bytes.ofText`
    * `Bytes.toText?`
    * `Bytes.ofAscii`
-/

namespace WorkspaceClient

/- A finite sequence of bytes. -/
abbrev Bytes :=
  List UInt8

namespace Bytes

------------------------------------------------------------
-- Text
------------------------------------------------------------

/- The UTF-8 encoding of a text. -/
def ofText
    (s : String) : Bytes :=
  s.toByteArray.data.toList

/- The text that a byte string encodes, if it is UTF-8. -/
def toText?
    (bs : Bytes) : Option String :=
  String.fromUTF8? (ByteArray.mk bs.toArray)

/- Reading an encoded text gives the text. -/
theorem toText?_ofText
    (s : String) :
    toText? (ofText s) = some s := by
  have h :
      ByteArray.mk (ofText s).toArray = s.toByteArray := by
    simp [ofText]
  rw [toText?, h, String.fromUTF8?, dif_pos s.isValidUTF8]
  rfl

/- A byte string that reads as a text is its encoding. -/
theorem ofText_of_toText?
    {bs : Bytes}
    {s : String}
    (h : toText? bs = some s) :
    ofText s = bs := by
  rw [toText?, String.fromUTF8?] at h
  split at h
  · cases h
    simp [ofText, String.fromUTF8]
  · contradiction

/- The byte of an ASCII character. -/
def ofAscii
    (c : Char) : UInt8 :=
  UInt8.ofNat c.toNat

end Bytes
end WorkspaceClient
