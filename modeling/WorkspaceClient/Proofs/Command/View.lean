import WorkspaceClient.Command.Basic
import WorkspaceClient.Proofs.Output.Report
import WorkspaceClient.Proofs.Session
import WorkspaceClient.Proofs.Task

/-
  This file shows how little is told of a session that is
  viewed: its URL, its user, whether it is that of the
  platform, and whether it has a token and a certificate.
  Two sessions that do not differ in these are told apart by
  nothing that is printed.

  Key definitions include:
    * `Session.Alike`
    * `Invocation.view`
    * `Invocation.Shows`

  Main declarations:
    * `SessionView.ofSession_eq_iff`
    * `SessionView.render_json_eq_iff`
    * `Invocation.shows_view`
    * `Invocation.view_hides`
-/

namespace WorkspaceClient

------------------------------------------------------------
-- Sessions without their secrets
------------------------------------------------------------

namespace Session

/-
  Two sessions differ in nothing but the texts of their
  secrets. Each secret is there in both or in neither.
-/
structure Alike
    (s t : Session) : Prop where
  endpoint : s.endpoint = t.endpoint
  user : s.user = t.user
  isPlatform : s.isPlatform = t.isPlatform
  token : s.token = "" ↔ t.token = ""
  ca : s.ca = "" ↔ t.ca = ""

/- Two secrets are shown alike if both or none are there. -/
theorem redact_eq_iff
    {secret other : String} :
    redact secret = redact other ↔
      (secret = "" ↔ other = "") := by
  unfold redact
  by_cases hSecret : secret = "" <;>
    by_cases hOther : other = "" <;>
      simp [hSecret, hOther]

/- Whether a text is empty tells only this. -/
theorem isEmpty_eq_iff
    {secret other : String} :
    secret.isEmpty = other.isEmpty ↔
      (secret = "" ↔ other = "") := by
  rw [Bool.eq_iff_iff, String.isEmpty_iff, String.isEmpty_iff]

/- Sessions that are alike are shown alike. -/
theorem Alike.redacted_eq
    {s t : Session}
    (h : s.Alike t) :
    s.redacted = t.redacted := by
  unfold redacted
  rw [h.endpoint, h.user, h.isPlatform,
    redact_eq_iff.mpr h.token, isEmpty_eq_iff.mpr h.ca]

end Session

------------------------------------------------------------
-- Views
------------------------------------------------------------

namespace SessionView

/- The views of two sessions are the same if they are alike. -/
theorem ofSession_eq_iff
    (path : String)
    {s t : Session} :
    ofSession path s = ofSession path t ↔ s.Alike t := by
  unfold ofSession
  rw [SessionView.mk.injEq, Session.redact_eq_iff, Bool.not_inj_iff,
    Session.isEmpty_eq_iff]
  constructor
  · rintro ⟨_, hEndpoint, hUser, hPlatform, hToken, hCa⟩
    exact ⟨hEndpoint, hUser, hPlatform, hToken, hCa⟩
  · intro h
    exact
      ⟨rfl, h.endpoint, h.user, h.isPlatform, h.token, h.ca⟩

theorem json_report_inj
    {v v' : SessionView}
    (h : v.report.json = v'.report.json) :
    v = v' := by
  simp only [report, Json.ofMembers, Json.ofText, List.map_cons,
    List.map_nil, Json.object.injEq, List.cons.injEq,
    Prod.mk.injEq, Json.text.injEq, Json.bool.injEq,
    Option.some.injEq, true_and, and_true] at h
  rcases h with
    ⟨hPath, hEndpoint, hUser, hPlatform, hToken, hCa⟩
  rw [SessionView.mk.injEq]
  exact ⟨hPath, hEndpoint, hUser, hPlatform, hToken, hCa⟩

/- A view in JSON tells all of the view. -/
theorem render_json_eq_iff
    {v v' : SessionView} :
    v.report.render .json = v'.report.render .json ↔
      v = v' := by
  constructor
  · intro hSame
    have hParse :=
      Report.parse_render (show v.report.json.isTextual from rfl)
    have hParse' :=
      Report.parse_render (show v'.report.json.isTextual from rfl)
    rw [hSame, hParse'] at hParse
    have hJson : v'.report.json = v.report.json :=
      congrArg Json.Document.value hParse
    exact (json_report_inj hJson).symm
  · intro hSame
    rw [hSame]

end SessionView

------------------------------------------------------------
-- Viewing
------------------------------------------------------------

namespace Invocation

/- The invocation that views the session. -/
def view
    (format : Format)
    (c : Connection) : Invocation :=
  { format, connection := c, command := .viewConfig }

/-
  Viewing the session prints these texts, one for each
  format, whatever the input is. Nothing is sent, written or
  warned of.
-/
def Shows
    (c : Connection)
    (home : Option String)
    (w : World)
    (shown : Format → String) : Prop :=
  ∀ format input,
    (view format c).run home input w = (.ok (shown format), w)

section

variable {c c' : Connection}
variable {home home' : Option String}
variable {path : String}
variable {w w' : World}
variable {s t : Session}

/- Viewing shows the view of the session in its file. -/
theorem shows_view
    (hPath : c.storePath home = .ok path)
    (hLoad : SessionFile.load path w.files = .ok s) :
    Shows c home w
      (SessionView.ofSession path s).report.render := by
  intro format input
  have hView :
      viewConfig path w.files =
        .ok (SessionView.ofSession path s).report := by
    unfold viewConfig
    rw [hLoad]
    rfl
  have hReport :
      Command.report SessionFile.save c home input .viewConfig w =
        (.ok (SessionView.ofSession path s).report, w) := by
    rw [Command.report, hPath,
      Task.bind_ok (Task.ofExcept_eq _ w),
      Task.bind_ok (Task.get_eq w), hView]
    rfl
  exact Task.bind_ok hReport

/-
  Two sessions that were loaded from the same path are shown
  by the same texts if they are alike, and only then. If they
  are, they also look the same with their secrets hidden.
-/
theorem view_hides
    (hPath : c.storePath home = .ok path)
    (hPath' : c'.storePath home' = .ok path)
    (hLoad : SessionFile.load path w.files = .ok s)
    (hLoad' : SessionFile.load path w'.files = .ok t) :
    ∃ shown shown',
      Shows c home w shown ∧
        Shows c' home' w' shown' ∧
        (shown = shown' ↔ s.Alike t) ∧
        (s.Alike t → s.redacted = t.redacted) := by
  refine
    ⟨_, _, shows_view hPath hLoad, shows_view hPath' hLoad', ?_,
      Session.Alike.redacted_eq⟩
  rw [← SessionView.ofSession_eq_iff path]
  constructor
  · intro hShown
    -- what JSON shows already tells the views apart
    exact SessionView.render_json_eq_iff.mp (congrFun hShown .json)
  · intro hView
    rw [hView]

end

/- A world without a network that holds a session. -/
def offlineWith
    (s : Session) : World :=
  { files := Files.empty.put ["s"] (.file 0o600 s.document)
    network := Network.unreachable
    warnings := [] }

/- A session with secrets. -/
def secretSession : Session :=
  { endpoint := "https://d"
    token := "c2lkPWEx"
    user := "ann"
    isPlatform := true
    ca := "LS0tLS0K" }

/- One whose secrets look like what is shown instead. -/
def disguisedSession : Session :=
  { secretSession with
    token := "<redacted>"
    ca := "\"\n" }

/- The options of a command that finds the session. -/
def viewOptions : Connection :=
  { Connection.usual with config := some "/s" }

/- These two sessions cannot be told apart. -/
theorem view_hides_disguised :
    SessionFile.load "/s" (offlineWith secretSession).files =
        .ok secretSession ∧
      SessionFile.load "/s"
          (offlineWith disguisedSession).files =
        .ok disguisedSession ∧
      secretSession.redacted = disguisedSession.redacted ∧
      ∃ shown,
        Shows viewOptions none (offlineWith secretSession)
            shown ∧
          Shows viewOptions none
            (offlineWith disguisedSession) shown := by
  have hPath : viewOptions.storePath none = .ok "/s" := rfl
  have hLoad :
      SessionFile.load "/s" (offlineWith secretSession).files =
        .ok secretSession :=
    SessionFile.load_of_read rfl
  have hLoad' :
      SessionFile.load "/s"
          (offlineWith disguisedSession).files =
        .ok disguisedSession :=
    SessionFile.load_of_read rfl
  have hAlike : secretSession.Alike disguisedSession := by
    constructor <;> decide
  rcases view_hides hPath hPath hLoad hLoad' with
    ⟨shown, shown', hShows, hShows', hSame, hRedacted⟩
  rw [← hSame.mpr hAlike] at hShows'
  exact
    ⟨hLoad, hLoad', hRedacted hAlike, shown, hShows, hShows'⟩

end Invocation
end WorkspaceClient
