import WorkspaceClient.Proofs.Bytes.Canonical
import WorkspaceClient.Proofs.Files
import WorkspaceClient.Proofs.Json.RoundTrip
import WorkspaceClient.SessionFile

/-
  This file shows that a session is not changed by being
  kept: its certificate can be read again, its document
  decodes to it, and a file it was saved in loads as it.

  Key definitions include:
    * `Session.Caches`

  Main declarations:
    * `Session.caBytes_withCa`
    * `Session.caBytes_eq_some_iff`
    * `Session.ofBytes_document_append`
    * `Session.skipBlanks_drop_document`
    * `SessionFile.load_of_save`
-/

namespace WorkspaceClient
namespace Session

------------------------------------------------------------
-- Certificates
------------------------------------------------------------

/- A certificate that was cached can be read. -/
theorem caBytes_withCa
    (s : Session)
    {pem : Bytes}
    (hPem : pem ≠ []) :
    (s.withCa pem).caBytes = .ok (some pem) := by
  have hCached : (s.withCa pem).ca = Base64.encode pem := rfl
  have hNonempty : (Base64.encode pem).isEmpty = false := by
    rw [Bool.eq_false_iff]
    intro hEmpty
    apply hPem
    rw [← Base64.encode_eq_empty_iff]
    simpa using hEmpty
  unfold caBytes
  rw [hCached, hNonempty, Base64.decode_encode]
  rfl

/-
  The text that a session stores is that of a certificate,
  blanks around it apart.
-/
def Caches
    (s : Session)
    (pem : Bytes) : Prop :=
  s.ca ≠ "" ∧ (s.withCa pem).ca = Text.trim s.ca

/- Only one text stores a certificate, up to blanks. -/
theorem caBytes_eq_some_iff
    {s : Session}
    {pem : Bytes} :
    s.caBytes = .ok (some pem) ↔ s.Caches pem := by
  have hStored : (s.withCa pem).ca = Base64.encode pem := rfl
  unfold Caches
  rw [hStored, ← Base64.decode_eq_ok_iff]
  unfold caBytes
  by_cases hNone : s.ca = ""
  · rw [if_pos (by simp [hNone])]
    simp [hNone]
  · rw [if_neg (by simpa using hNone)]
    cases Base64.decode (Bytes.ofText (Text.trim s.ca)) <;>
      simp [hNone]

------------------------------------------------------------
-- Documents
------------------------------------------------------------

theorem toJson_isTextual
    (s : Session) :
    s.toJson.isTextual = true := by
  unfold toJson
  split <;> split <;> rfl

/- A session is read from its value. -/
theorem decode_toJson
    (s : Session) :
    Session.shape.decode .document s.toJson = .ok s := by
  rcases s with ⟨endpoint, token, user, isPlatform, ca⟩
  have hCa : ca.isEmpty = true → ca = "" := by
    intro hEmpty
    simpa using hEmpty
  unfold toJson
  cases isPlatform
  · by_cases hEmpty : ca.isEmpty = true
    · cases hCa hEmpty
      rfl
    · rw [Bool.not_eq_true] at hEmpty
      simp only [hEmpty]
      rfl
  · by_cases hEmpty : ca.isEmpty = true
    · cases hCa hEmpty
      rfl
    · rw [Bool.not_eq_true] at hEmpty
      simp only [hEmpty]
      rfl

/- A document is the value and a line break. -/
theorem document_eq
    (s : Session) :
    s.document = Bytes.ofText s.toJson.pretty ++ [0x0A] := by
  have hBreak : Bytes.ofText "\n" = [0x0A] := rfl
  rw [document, Bytes.ofText_append, hBreak]

/- Only blanks may follow the document of a session. -/
theorem ofBytes_document_append
    (s : Session)
    (rest : Bytes) :
    Json.Decoder.ofBytes Session.shape.decode
        (s.document ++ rest) =
      if (Json.skipBlanks rest).isEmpty then
        .ok s
      else
        .error .malformed := by
  have hSkip :
      Json.skipBlanks ([0x0A] ++ rest) =
        Json.skipBlanks rest :=
    Json.skipBlanks_append rest
      (Json.isBlankByte_of_mem_singleton rfl)
  unfold Json.Decoder.ofBytes
  rw [document_eq, List.append_assoc,
    Json.parse_pretty_append _ _ s.toJson_isTextual, hSkip]
  simp only [decode_toJson]
  rfl

/- A session is read from its document. -/
theorem ofBytes_document
    (s : Session) :
    Json.Decoder.ofBytes Session.shape.decode s.document =
      .ok s := by
  have hRead := s.ofBytes_document_append []
  rwa [List.append_nil] at hRead

/- A document ends with a brace and a line break. -/
theorem exists_document_eq
    (s : Session) :
    ∃ body, s.document = body ++ [0x7D, 0x0A] := by
  have hPretty :
      ∃ cs, Json.prettyChars 0 s.toJson = cs ++ ['}'] := by
    unfold toJson Json.ofMembers
    exact ⟨_, rfl⟩
  rcases hPretty with ⟨cs, hPretty⟩
  refine ⟨Bytes.ofChars cs, ?_⟩
  rw [document_eq, Json.pretty, hPretty, Bytes.ofText_ofList,
    Bytes.ofChars_append, List.append_assoc]
  rfl

/-
  The end of a document is blank only where no more than its
  last line break is left.
-/
theorem skipBlanks_drop_document
    (s : Session)
    (n : Nat) :
    (Json.skipBlanks (s.document.drop n)).isEmpty = true ↔
      s.document.length ≤ n + 1 := by
  rcases s.exists_document_eq with ⟨body, hBody⟩
  rw [Json.skipBlanks_isEmpty_iff, hBody, List.drop_append,
    List.length_append, List.length_cons, List.length_singleton]
  constructor
  · intro hBlank
    by_contra hLonger
    have hInside : n - body.length = 0 := by omega
    rw [hInside] at hBlank
    have hBrace := hBlank 0x7D (by simp)
    exact absurd hBrace (by decide)
  · intro hShort b hRest
    have hBehind :
        n - body.length = n - body.length - 1 + 1 := by omega
    rw [List.drop_eq_nil_of_le (by omega), List.nil_append,
      hBehind, List.drop_succ_cons] at hRest
    exact
      Json.isBlankByte_of_mem_singleton rfl b
        (List.mem_of_mem_drop hRest)

end Session

namespace SessionFile

------------------------------------------------------------
-- Files
------------------------------------------------------------

/- Steps that were all taken were taken one by one. -/
theorem runSteps_cons
    {path : Path}
    {fs fs' : Files}
    {step : Step}
    {steps : List Step}
    (hRun : runSteps path fs (step :: steps) = (none, fs')) :
    ∃ next,
      step.run path fs = .ok next ∧
        runSteps path next steps = (none, fs') := by
  rw [runSteps] at hRun
  split at hRun
  · next next hStep => exact ⟨next, hStep, hRun⟩
  · simp at hRun

/- A saved session stands in its file, for the owner only. -/
theorem holds_of_save
    {path : String}
    {session : Session}
    {fs fs' : Files}
    (hSave : save path session fs = (.ok (), fs')) :
    fs'.Holds (Path.ofText path) 0o600 session.document := by
  have hRun :
      runSteps (Path.ofText path) fs (saveSteps session) =
        (none, fs') := by
    unfold save at hSave
    split at hSave
    · next after hRun =>
        rw [hRun]
        simpa using hSave
    · simp at hSave
  rcases runSteps_cons hRun with ⟨fs₁, _, hRun⟩
  rcases runSteps_cons hRun with ⟨fs₂, hOpen, hRun⟩
  rcases runSteps_cons hRun with ⟨fs₃, hWrite, hRun⟩
  rcases runSteps_cons hRun with ⟨fs₄, hMode, hRun⟩
  have hEnd : fs₄ = fs' := by
    simpa [runSteps] using hRun
  rcases Files.holds_truncate hOpen with ⟨mode, hEmpty⟩
  rw [← hEnd]
  exact (hEmpty.writeAtStart hWrite).setMode hMode

/- The document of a session is loaded as it. -/
theorem load_of_read
    {path : String}
    {session : Session}
    {fs : Files}
    (hRead :
      fs.read (Path.ofText path) = .ok session.document) :
    load path fs = .ok session := by
  unfold load
  rw [hRead]
  simp only
  rw [session.ofBytes_document]

theorem load_of_holds
    {path : String}
    {session : Session}
    {fs : Files}
    {mode : Nat}
    (hHolds :
      fs.Holds (Path.ofText path) mode session.document) :
    load path fs = .ok session :=
  load_of_read hHolds.read

/- A session that was saved is loaded. -/
theorem load_of_save
    {path : String}
    {session : Session}
    {fs fs' : Files}
    (hSave : save path session fs = (.ok (), fs')) :
    load path fs' = .ok session :=
  load_of_holds (holds_of_save hSave)

end SessionFile
end WorkspaceClient
