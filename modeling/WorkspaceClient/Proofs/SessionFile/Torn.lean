import WorkspaceClient.Proofs.Json.Grammar
import WorkspaceClient.Proofs.Json.Records
import WorkspaceClient.Proofs.SessionFile.Exposure

/-
  This file shows that a session file which was cut off is
  not taken for a session. Only the last line break may be
  missing, and then the session is the one that was written.

  Main declarations:
    * `Session.ofBytes_cut`
    * `SessionFile.load_of_cut`
    * `SessionFile.load_of_moment`
    * `SessionFile.load_torn`
-/

namespace WorkspaceClient
namespace Session

/- The front of a document is at most its value, or all. -/
theorem prefix_pretty_of_prefix
    {s : Session}
    {cut : Bytes}
    (hCut : cut <+: s.document)
    (hShort : cut ≠ s.document) :
    cut <+: Bytes.ofText s.toJson.pretty := by
  rw [document_eq] at hCut hShort
  exact (List.prefix_concat_iff.mp hCut).resolve_left hShort

/- Without its last line break, a document is whole. -/
theorem ofBytes_pretty
    (s : Session) :
    Json.Decoder.ofBytes Session.shape.decode
        (Bytes.ofText s.toJson.pretty) =
      .ok s := by
  rw [Json.Decoder.ofBytes_closed
    (Json.parse_pretty _ s.toJson_isTextual), decode_toJson]

/- What is cut off a document is a line break or too much. -/
theorem ofBytes_cut
    {s : Session}
    {cut : Bytes}
    (hCut : cut <+: s.document)
    (hShort : cut ≠ s.document) :
    if cut ++ [0x0A] = s.document then
      Json.Decoder.ofBytes Session.shape.decode cut = .ok s
    else
      ∃ fault,
        Json.Decoder.ofBytes Session.shape.decode cut =
          .error fault := by
  have hFront := prefix_pretty_of_prefix hCut hShort
  split
  · next hWhole =>
      rw [document_eq, List.append_cancel_right_eq] at hWhole
      rw [hWhole, ofBytes_pretty]
  · next hMore =>
      rw [document_eq, List.append_cancel_right_eq] at hMore
      exact
        Json.Decoder.ofBytes_open _
          (Json.not_closed_of_prefix s.toJson_isTextual hFront
            hMore)

end Session

namespace SessionFile

/- What is loaded from a file that was cut off. -/
theorem load_of_cut
    {path : String}
    {session : Session}
    {fs : Files}
    {cut : Bytes}
    (hRead : fs.read (Path.ofText path) = .ok cut)
    (hCut : cut <+: session.document)
    (hShort : cut ≠ session.document) :
    if cut ++ [0x0A] = session.document then
      load path fs = .ok session
    else
      ∃ fault, load path fs = .error (.unparsable path fault) := by
  have hDecode := Session.ofBytes_cut hCut hShort
  unfold load
  rw [hRead]
  simp only
  split
  · next hWhole =>
      rw [if_pos hWhole] at hDecode
      rw [hDecode]
  · next hMore =>
      rw [if_neg hMore] at hDecode
      rcases hDecode with ⟨fault, hFault⟩
      rw [hFault]
      exact ⟨fault, rfl⟩

/-
  Once the file is open, a saving that is stopped leaves
  the new session behind, or nothing that is loaded.
-/
theorem load_of_moment
    {path : String}
    {session : Session}
    {fs now : Files}
    {steps : List Step}
    (hMoment :
      Moment (Path.ofText path) session fs now steps)
    (hOpen : .openEmpty ∈ steps) :
    load path now = .ok session ∨
      ∃ fault, load path now = .error (.unparsable path fault) := by
  have hPart :
      ∀ {mode part},
        now.Holds (Path.ofText path) mode part →
        part <+: session.document →
        load path now = .ok session ∨
          ∃ fault,
            load path now = .error (.unparsable path fault) := by
    intro mode part hHolds hPrefix
    by_cases hWhole : part = session.document
    · rw [hWhole] at hHolds
      exact .inl (load_of_holds hHolds)
    · have hLoad := load_of_cut hHolds.read hPrefix hWhole
      split at hLoad
      · exact .inl hLoad
      · exact .inr hLoad
  cases hMoment.phase with
  | started => simp at hOpen
  | reached => simp at hOpen
  | opened hHolds => exact hPart hHolds List.nil_prefix
  | written hPrefix hHolds => exact hPart hHolds hPrefix
  | restricted hHolds => exact .inl (load_of_holds hHolds)

/-
  What a saving writes is the document of the session. Of
  its fronts, only the one that lacks the last line break is
  loaded, as the whole session, and all others are refused.
-/
theorem load_torn
    (path : String)
    (session : Session) :
    (∀ before after,
      save path session before = (.ok (), after) →
        after.read (Path.ofText path) =
          .ok session.document) ∧
      ∀ torn cut,
        cut <+: session.document →
        cut ≠ session.document →
        torn.read (Path.ofText path) = .ok cut →
          if cut ++ [0x0A] = session.document then
            load path torn = .ok session
          else
            ∃ fault,
              load path torn =
                .error (.unparsable path fault) :=
  ⟨fun _ _ hSave => (holds_of_save hSave).read,
    fun _ _ hCut hShort hRead =>
      load_of_cut hRead hCut hShort⟩

/- A file that is for the owner only. -/
def ownedFiles
    (content : Bytes) : Files :=
  Files.empty.put ["s"] (.file 0o600 content)

/- All but the line break is a session, and a brace is not. -/
theorem load_torn_empty :
    load "/s"
        (ownedFiles (Bytes.ofText Session.empty.toJson.pretty)) =
      .ok .empty ∧
      ∃ fault,
        load "/s" (ownedFiles [0x7B]) =
          .error (.unparsable "/s" fault) := by
  have hRead :
      ∀ content,
        (ownedFiles content).read (Path.ofText "/s") =
          .ok content := by
    intro content
    have hPath : Path.ofText "/s" = ["s"] := by decide
    rw [hPath]
    rfl
  have hTorn := (load_torn "/s" .empty).2
  have hDocument := Session.empty.document_eq
  constructor
  · have hWhole :=
      hTorn _ _ ⟨[0x0A], hDocument.symm⟩
        (by rw [hDocument]; simp) (hRead _)
    rwa [if_pos hDocument.symm] at hWhole
  · have hBrace :=
      hTorn _ [0x7B] (by decide) (by decide) (hRead _)
    rwa [if_neg (by decide)] at hBrace

end SessionFile
end WorkspaceClient
