import WorkspaceClient.Proofs.Bytes.Charset
import WorkspaceClient.Proofs.Dashboard
import WorkspaceClient.Proofs.Http.ContentType
import WorkspaceClient.Proofs.Json.Grammar
import WorkspaceClient.Proofs.Rows.Members

/-
  This file says which message an answer tells: the one that
  its complete body holds as a JSON document. It shows that
  this message, and no other, is read from a refusal, and
  which texts the usual bodies are.

  Key definitions include:
    * `Dashboard.HoldsMessage`
    * `Http.Response.Tells`

  Main declarations:
    * `Dashboard.decode_refusalShape_iff`
    * `Dashboard.refusalDetail?_eq_some_iff`
    * `Dashboard.refusalDetail?_refusalText_iff`
    * `Dashboard.charset?_named`
    * `Http.Response.tells_iff_utf8`
-/

namespace WorkspaceClient

open Json (Member)

------------------------------------------------------------
-- Messages
------------------------------------------------------------

/-
  A value holds a message: as its only member of this name,
  or as the only item of an array.
-/
inductive Dashboard.HoldsMessage
    (message : String) : Json → Prop where
  | named
      {ms : List Member}
      (hNamed : ∀ m ∈ ms, m.1.isSome = true)
      (hMessage :
        Cluster.membersNamed "message" ms =
          [.ofText message]) :
      HoldsMessage message (.object ms)
  -- a record may also be the array of its fields
  | ordered : HoldsMessage message (.array [.ofText message])

/-
  The body of an answer is complete, and holds a message
  that is not empty. It is text in the character set that
  the answer names, or else in UTF-8.
-/
def Http.Response.Tells
    (r : Response)
    (message : String) : Prop :=
  r.isCut = false ∧ message ≠ "" ∧
    ∃ v,
      Json.IsDocument
        (Bytes.ofText
          (Bytes.toTextAs
            ((Dashboard.charset? r).getD .utf8) r.body)) v ∧
        Dashboard.HoldsMessage message v

------------------------------------------------------------
-- Reading
------------------------------------------------------------

/- What is read of bytes is read of the value they spell. -/
theorem Json.Decoder.ofBytes_eq_ok_iff
    {α : Type}
    {d : Decoder α}
    {bs : Bytes}
    {a : α} :
    d.ofBytes bs = .ok a ↔
      ∃ v, IsDocument bs v ∧ d .document v = .ok a := by
  constructor
  · intro h
    cases hClosed : (parse bs).closed with
    | false =>
        rcases ofBytes_open d hClosed with ⟨fault, hFault⟩
        rw [hFault] at h
        cases h
    | true =>
        have hParse :
            parse bs =
              { value := (parse bs).value, closed := true } := by
          rw [← hClosed]
        rw [ofBytes_closed hParse] at h
        exact ⟨_, parse_eq_iff.mp hParse, h⟩
  · rintro ⟨v, hDocument, hDecode⟩
    rw [ofBytes_closed (parse_eq_iff.mpr hDocument)]
    exact hDecode

namespace Dashboard

theorem string_eq_ok_iff
    {origin : Json.Origin}
    {v : Json}
    {s : String} :
    Json.Decoder.string origin v = .ok s ↔ v = .ofText s := by
  constructor
  · intro h
    unfold Json.Decoder.string at h
    split at h
    · cases h
      rfl
    · cases h
  · rintro rfl
    rfl

/- Only a value that holds a message is read as one. -/
theorem decode_refusalShape_iff
    {v : Json}
    {message : String}
    (hIntact : v.isIntact = true)
    (hSome : message ≠ "") :
    refusalShape.decode .document v = .ok message ↔
      HoldsMessage message v := by
  cases v with
  | object ms =>
      rw [Json.isIntact, Json.intactMembers_iff] at hIntact
      change refusalShape.readMembers _ _ _ ms = _ ↔ _
      rw [Json.Shape.readMembers_eq_ok_iff rfl hIntact]
      constructor
      · rintro ⟨hNamed, hMembers⟩
        rcases hMembers with ⟨_, hEmpty⟩ | ⟨w, hSingle, hRead⟩
        · exact absurd hEmpty hSome
        · rcases Json.Field.of_read_eq_ok_iff.mp hRead with
            ⟨_, hText, rfl⟩
          cases string_eq_ok_iff.mp hText
          exact .named hNamed hSingle
      · rintro ⟨hNamed, hMessage⟩
        exact ⟨hNamed, .inr ⟨_, hMessage, rfl⟩⟩
  | array vs =>
      constructor
      · intro h
        rcases vs with _ | ⟨w, _ | ⟨_, _⟩⟩
        · cases h
          exact absurd rfl hSome
        · rcases Result.ok_of_bind h with ⟨_, hRead, hEnd⟩
          rcases Json.Field.of_read_eq_ok_iff.mp hRead with
            ⟨_, hText, rfl⟩
          cases string_eq_ok_iff.mp hText
          cases hEnd
          exact .ordered
        · rcases Result.ok_of_bind h with ⟨_, _, hSurplus⟩
          cases hSurplus
      · rintro ⟨⟩
        rfl
  | _ =>
      constructor
      · intro h
        cases h
      · intro h
        cases h

/- A text has a message if it is a document that holds it. -/
theorem refusalDetail?_eq_some_iff
    {text message : String} :
    refusalDetail? text = some message ↔
      message ≠ "" ∧
        ∃ v,
          Json.IsDocument (Bytes.ofText text) v ∧
            HoldsMessage message v := by
  have hDetail :
      refusalDetail? text = some message ↔
        message ≠ "" ∧
          Json.Decoder.ofBytes refusalShape.decode
              (Bytes.ofText text) =
            .ok message := by
    unfold refusalDetail?
    split
    · next read hRead =>
        rw [hRead]
        by_cases hEmpty : read = ""
        · subst hEmpty
          constructor
          · intro h
            cases h
          · rintro ⟨hSome, ⟨⟩⟩
            exact absurd rfl hSome
        · simp only [String.isEmpty_iff, hEmpty, if_false,
            Option.some_inj, Except.ok.injEq]
          constructor
          · rintro rfl
            exact ⟨hEmpty, rfl⟩
          · exact And.right
    · next fault hFault =>
        rw [hFault]
        simp
  rw [hDetail]
  refine and_congr_right fun hSome => ?_
  rw [Json.Decoder.ofBytes_eq_ok_iff]
  refine exists_congr fun v => and_congr_right ?_
  rintro ⟨_, hSpells, _⟩
  exact decode_refusalShape_iff hSpells.isIntact hSome

/- The message of a refusal is the one that its body tells. -/
theorem refusalDetail?_refusalText_iff
    {r : Http.Response}
    {message : String} :
    refusalDetail? (refusalText r) = some message ↔
      r.Tells message := by
  unfold refusalText Http.Response.body? Http.Response.Tells
  cases r.isCut with
  | true =>
      have hNone : refusalDetail? "" = none := rfl
      simp only [if_true, Bool.true_eq_false, false_and, hNone,
        reduceCtorEq]
  | false =>
      simp only [Bool.false_eq_true, if_false, true_and]
      exact refusalDetail?_eq_some_iff

------------------------------------------------------------
-- Character sets
------------------------------------------------------------

/- A text of printable ASCII can be read from a header. -/
theorem all_isTextByte
    {cs : List Char}
    (hPrintable :
      ∀ c ∈ cs, 0x20 ≤ c.toNat ∧ c.toNat < 0x7F) :
    (Bytes.ofText (String.ofList cs)).all isTextByte = true := by
  rw [List.all_eq_true]
  intro b hb
  rcases mem_ofText.mp hb with ⟨c, hc, hByte⟩
  rw [String.toList_ofList] at hc
  have hRange := hPrintable c hc
  rw [Bytes.utf8EncodeChar_ascii (by omega),
    List.mem_singleton] at hByte
  have hNat : b.toNat = c.toNat := by
    rw [hByte]
    exact Bytes.Lossy.toNat_ofNat (by omega)
  unfold isTextByte
  simp only [Bool.or_eq_true, Bool.and_eq_true,
    decide_eq_true_eq, UInt8.le_iff_toNat_le,
    UInt8.lt_iff_toNat_lt, hNat]
  exact .inl hRange

theorem printable_of_isToken
    {c : Char}
    (h : Http.ContentType.isToken c = true) :
    0x20 ≤ c.toNat ∧ c.toNat < 0x7F := by
  unfold Http.ContentType.isToken at h
  rw [Bool.or_eq_true] at h
  rcases h with hAlphanum | hMark
  · have hNat : c.val.toNat = c.toNat := rfl
    change
      (decide (65 ≤ c.val ∧ c.val ≤ 90)
            || (97 ≤ c.val && c.val ≤ 122)
          || (48 ≤ c.val && c.val ≤ 57)) =
        true at hAlphanum
    simp only [Bool.or_eq_true, Bool.and_eq_true,
      decide_eq_true_eq, UInt32.le_iff_toNat_le, hNat,
      UInt32.reduceToNat] at hAlphanum
    omega
  · have hMarks :
        ("!#$%&'*+-.^_`|~".toList.all fun c =>
          0x20 ≤ c.toNat && c.toNat < 0x7F) = true := by
      decide
    have hRange :=
      List.all_eq_true.mp hMarks c
        (List.contains_iff_mem.mp hMark)
    simpa using hRange

/-
  The first content type of an answer is the one that counts.
  If it names a set by a word, the set is known by this word.
-/
theorem charset?_named
    {r : Http.Response}
    {type subtype label : List Char}
    {others : List Bytes}
    (hType : Http.ContentType.IsWord type ∧ type ≠ [])
    (hSubtype : Http.ContentType.IsWord subtype ∧ subtype ≠ [])
    (hLabel : Http.ContentType.IsWord label)
    (hHeader :
      r.headerValues "content-type" =
        Bytes.ofText
            (String.ofList
              (Http.ContentType.named type subtype label))
          :: others) :
    charset? r = Charset.ofLabel? label := by
  have hPrintable :
      ∀ c ∈ Http.ContentType.named type subtype label,
        0x20 ≤ c.toNat ∧ c.toNat < 0x7F := by
    intro c hc
    unfold Http.ContentType.named at hc
    simp only [List.mem_append, List.mem_cons] at hc
    rcases hc with hc | rfl | (hc | hc) | hc
    · exact printable_of_isToken (hType.1 c hc)
    · decide
    · exact printable_of_isToken (hSubtype.1 c hc)
    · have hMarks :
          ("; charset=".toList.all fun c =>
            0x20 ≤ c.toNat && c.toNat < 0x7F) = true := by
        decide
      simpa using List.all_eq_true.mp hMarks c hc
    · exact printable_of_isToken (hLabel c hc)
  unfold charset?
  rw [hHeader]
  simp only [List.head?_cons, Option.bind_eq_bind,
    Option.bind_some, all_isTextByte hPrintable, if_true,
    Bytes.toText?_ofText, String.toList_ofList]
  exact Http.ContentType.charset?_named hType hSubtype hLabel

end Dashboard

section

open Dashboard (HoldsMessage charset?)

variable {r : Http.Response}
variable {text message : String}

/- A complete body tells what it says once it is read. -/
theorem Http.Response.tells_iff
    (hWhole : r.isCut = false)
    (hText :
      Bytes.toTextAs ((charset? r).getD .utf8) r.body = text) :
    r.Tells message ↔
      message ≠ "" ∧
        ∃ v,
          Json.IsDocument (Bytes.ofText text) v ∧
            HoldsMessage message v := by
  unfold Tells
  rw [hText, hWhole]
  exact and_iff_right rfl

/- A body in UTF-8 says what it is the encoding of. -/
theorem Http.Response.tells_iff_utf8
    (hWhole : r.isCut = false)
    (hCharset : (charset? r).getD .utf8 = .utf8)
    (hBody : r.body = Bytes.ofText text)
    (hPlain : text.toList.head? ≠ some '\ufeff') :
    r.Tells message ↔
      message ≠ "" ∧
        ∃ v,
          Json.IsDocument (Bytes.ofText text) v ∧
            HoldsMessage message v := by
  apply tells_iff hWhole
  rw [hCharset, hBody, Bytes.toTextAs_utf8 hPlain]

end

end WorkspaceClient
