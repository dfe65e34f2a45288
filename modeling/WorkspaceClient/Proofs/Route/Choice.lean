import WorkspaceClient.Proofs.Platform.Endings
import WorkspaceClient.Proofs.Route

/-
  This file shows how a command chooses its backend, however
  a session is kept: what was sent and kept, and which
  failures are possible. Only an endpoint that is no URL is
  found out after a request was sent.

  Key definitions include:
    * `Route.PlatformChoice`
    * `Route.Choice`

  Main declarations:
    * `Route.platformChoice_platformBackend`
    * `Route.choice_selectBy`
    * `Route.Choice.noFilter`
-/

namespace WorkspaceClient
namespace Route

open Dashboard (Opens Confirms)
open Failure (IsLate IsNoFilter)
open Platform (HasCa Introduces Unbased)

------------------------------------------------------------
-- The backend of the platform
------------------------------------------------------------

/-
  How the backend of the platform is chosen at a URL: the
  result, and the world afterwards.
-/
inductive PlatformChoice
    (keeper : SessionFile.Keeper)
    (c : Connection)
    (path : String)
    (session : Session)
    (url : String)
    (w : World) : Except Failure Backend → World → Prop where
  | noEndpoint
      (hUrl : url = "") :
      PlatformChoice keeper c path session url w
        (.error Platform.noEndpoint) w
  | verified
      {ca : Bytes}
      {client : Dashboard.Client}
      {q : Http.Request}
      (hCa : session.caBytes = .ok (some ca))
      (hOpens : Opens (.only ca) url session.token client)
      (hRequest :
        client.request? .verify Dashboard.emptyDocument =
          some q)
      (hConfirms :
        Confirms (w.network.answer w.network.sent q)) :
      PlatformChoice keeper c path session url w
        (.ok (.facade client session.user))
        { w with network := w.network.afterAll [q] }
  | unbased
      {requests : List Http.Request}
      {failure : Failure}
      {warnings : List Warning}
      (hCa : ¬ HasCa session)
      (hUnbased :
        Unbased c.caUrl w.network url requests failure) :
      PlatformChoice keeper c path session url w
        (.error failure)
        { w with
          network := w.network.afterAll requests
          warnings }
  | unkept
      {requests : List Http.Request}
      {failure : Failure}
      {w' : World}
      (hLate : failure.IsLate)
      (hFiles : w'.files = w.files)
      (hNetwork : w'.network = w.network.afterAll requests) :
      PlatformChoice keeper c path session url w
        (.error failure) w'
  | kept
      {before after : List Http.Request}
      {fetch login : Http.Request}
      {ca : Bytes}
      {gained : Platform.Login}
      {result : Except Failure Backend}
      {renewed : Session}
      {w' : World}
      (hIntroduces :
        Introduces c.caUrl c.identityPath w.files
          (w.network.afterAll before) url fetch login ca gained)
      (hRenewed :
        renewed =
          Platform.renewed { session with endpoint := url } ca
            gained)
      (hLate : FailsOnly IsLate result)
      (hBackend :
        ∀ b,
          result = .ok b →
            ∃ client, b = .facade client gained.user)
      (hFiles : w'.files = (keeper path renewed w.files).2)
      (hNetwork :
        w'.network =
          w.network.afterAll
            (before ++ fetch :: login :: after)) :
      PlatformChoice keeper c path session url w result w'

section

variable (keeper : SessionFile.Keeper)
variable (c : Connection)
variable (path : String)
variable (session : Session)
variable (url : String)
variable (w : World)

/- A session with a login gives a backend for its user. -/
theorem validBackend_renewed
    {n : Network}
    {fetch login : Http.Request}
    {ca : Bytes}
    {gained : Platform.Login}
    (h :
      Introduces c.caUrl c.identityPath w.files n
        session.endpoint fetch login ca gained) :
    ∃ client,
      validBackend (Platform.renewed session ca gained) =
        .ok (.facade client gained.user) := by
  rcases h.exists_opens with ⟨client, hOpens⟩
  rcases h.trusted.readable with ⟨ders, hRead⟩
  have hSome : ca ≠ [] := by
    rintro rfl
    cases hRead
  exact
    ⟨client,
      validBackend_eq (session.caBytes_withCa hSome) hOpens⟩

/- The backend of the platform is chosen in one of the ways. -/
theorem platformChoice_platformBackend :
    let run := platformBackend keeper c path session (some url) w
    PlatformChoice keeper c path session url w run.1 run.2 := by
  have hEnding :=
    Platform.ending_ensureValidBy keeper path c.caUrl
      c.identityPath w.files (startAt session url w)
  rw [platformBackend_some]
  rcases hRun :
      Platform.ensureValidBy
        (.ofDashboard c.caUrl w.files c.identityPath)
        (Platform.saveBy keeper path) (startAt session url w)
    with ⟨result, s⟩
  rw [hRun] at hEnding
  simp only at hEnding ⊢
  cases hEnding with
  | noEndpoint hEndpoint => exact .noEndpoint hEndpoint
  | verified hCa hOpens hRequest hConfirms =>
      have hBackend :
          validBackend (startAt session url w).session =
            .ok (.facade _ session.user) :=
        validBackend_eq hCa hOpens
      simp only [Except.bind, hBackend]
      exact .verified hCa hOpens hRequest hConfirms
  | unbased hCa hUnbased => exact .unbased hCa hUnbased
  | unkept hLate hFiles hAuth =>
      exact .unkept hLate hFiles hAuth
  | @kept _ _ _ _ _ gained result _ hIntroduces hLate hSession
      hFiles hAuth =>
      rcases validBackend_renewed c _ w hIntroduces with
        ⟨client, hBackend⟩
      rw [hSession] at hFiles
      rw [hSession, hBackend]
      refine .kept hIntroduces rfl ?_ ?_ hFiles hAuth
      · cases result with
        | error failure => exact .error (hLate failure rfl)
        | ok _ => exact .ok _
      · intro b hOk
        cases result with
        | error failure => cases hOk
        | ok _ =>
            cases hOk
            exact ⟨client, rfl⟩

end

------------------------------------------------------------
-- Every backend
------------------------------------------------------------

/-
  How the backend of a command is chosen: the result, and
  the world afterwards. Only the choice of the platform
  sends anything or changes a file.
-/
inductive Choice
    (keeper : SessionFile.Keeper)
    (c : Connection)
    (home : Option String)
    (w : World) : Except Failure Backend → World → Prop where
  | direct
      (hDirect : c.direct = true) :
      Choice keeper c home w
        ((Cluster.Client.resolve w.files home c.kubeconfigPath
          c.context).map .direct)
        w
  | unloaded
      {failure : Failure}
      (hFacade : c.direct = false)
      (hLate : failure.IsLate) :
      Choice keeper c home w (.error failure) w
  | person
      {path : String}
      {session : Session}
      (hPerson : ActsAsPerson c home w path session) :
      Choice keeper c home w
        (humanBackend session
          (endpoint c.explicitUrl session c.location))
        w
  | noUrl
      {path : String}
      {session : Session}
      (hPlatform : ActsAsPlatform c home w path session)
      (hUrl :
        endpoint c.explicitUrl session c.location = none) :
      Choice keeper c home w (.error Platform.noEndpoint) w
  | platform
      {path url : String}
      {session : Session}
      {result : Except Failure Backend}
      {w' : World}
      (hPlatform : ActsAsPlatform c home w path session)
      (hUrl :
        endpoint c.explicitUrl session c.location = some url)
      (hChoice :
        PlatformChoice keeper c path session url w result w') :
      Choice keeper c home w result w'

section

variable {c : Connection}
variable {home : Option String}
variable {w w' : World}

/- A session is that of the platform or that of a person. -/
theorem actsAsPlatform_or_actsAsPerson
    {path : String}
    {session : Session}
    (hFacade : c.direct = false)
    (hPath : c.storePath home = .ok path)
    (hLoad : SessionFile.load path w.files = .ok session) :
    ActsAsPlatform c home w path session ∨
      ActsAsPerson c home w path session := by
  cases hIdentity :
      identity session
        (w.files.isFile (Path.ofText c.identityPath)) with
  | platform => exact .inl ⟨hFacade, hPath, hLoad, hIdentity⟩
  | human =>
      have hNot :
          (session.isPlatform ||
              session.isEmpty &&
                w.files.isFile (Path.ofText c.identityPath)) =
            false := by
        unfold identity at hIdentity
        split at hIdentity
        · cases hIdentity
        · next hThis => simpa using hThis
      rw [Bool.or_eq_false_iff, Bool.and_eq_false_iff] at hNot
      exact .inr ⟨hFacade, hPath, hLoad, hNot.1, hNot.2⟩

section

variable (keeper : SessionFile.Keeper)

/- The API of the cluster is chosen without a session. -/
theorem selectBy_direct
    (hDirect : c.direct = true) :
    selectBy keeper c home w =
      ((Cluster.Client.resolve w.files home c.kubeconfigPath
          c.context).map .direct,
        w) := by
  rw [selectBy, hDirect, if_pos rfl,
    Task.bind_ok (Task.get_eq w)]
  cases Cluster.Client.resolve w.files home c.kubeconfigPath
      c.context <;> rfl

/- Without a session nothing else is chosen. -/
theorem exists_selectBy_unloaded
    (hFacade : c.direct = false)
    (hNone :
      ∀ path session,
        c.storePath home = .ok path →
          SessionFile.load path w.files ≠ .ok session) :
    ∃ failure,
      failure.IsLate ∧
        selectBy keeper c home w = (.error failure, w) := by
  rw [selectBy, hFacade, if_neg (by simp), selectFacade]
  cases hPath : c.storePath home with
  | error failure =>
      refine ⟨failure, ?_, Task.bind_error rfl⟩
      unfold Connection.storePath at hPath
      split at hPath
      · cases hPath
      · cases hPath
        rfl
  | ok path =>
      rw [Task.bind_ok (Task.ofExcept_eq _ w)]
      cases hLoad : SessionFile.load path w.files with
      | ok session => exact absurd hLoad (hNone path _ hPath)
      | error fault =>
          exact
            ⟨.sessionFile fault, rfl,
              Task.bind_error (World.load_error hLoad)⟩

/- Every backend is chosen in one of the ways. -/
theorem choice_selectBy
    (c : Connection)
    (home : Option String)
    (w : World) :
    let run := selectBy keeper c home w
    Choice keeper c home w run.1 run.2 := by
  intro run
  unfold run
  cases hDirect : c.direct with
  | true =>
      rw [selectBy_direct keeper hDirect]
      exact .direct hDirect
  | false =>
      by_cases hSome :
          ∃ path session,
            c.storePath home = .ok path ∧
              SessionFile.load path w.files = .ok session
      · rcases hSome with ⟨path, session, hPath, hLoad⟩
        rcases actsAsPlatform_or_actsAsPerson hDirect hPath
            hLoad with hPlatform | hPerson
        · rw [hPlatform.selectBy_eq]
          cases hUrl :
              endpoint c.explicitUrl session c.location with
          | none => exact .noUrl hPlatform hUrl
          | some url =>
              exact
                .platform hPlatform hUrl
                  (platformChoice_platformBackend keeper c path
                    session url w)
        · rw [hPerson.selectBy_eq]
          exact .person hPerson
      · have hNone :
            ∀ path session,
              c.storePath home = .ok path →
                SessionFile.load path w.files ≠ .ok session :=
          fun path session hPath hLoad =>
            hSome ⟨path, session, hPath, hLoad⟩
        rcases exists_selectBy_unloaded keeper hDirect hNone with
          ⟨failure, hLate, hRun⟩
        rw [hRun]
        exact .unloaded hDirect hLate

end

------------------------------------------------------------
-- Failures
------------------------------------------------------------

theorem noFilter_humanBackend
    (session : Session)
    (url : Option String) :
    FailsOnly IsNoFilter (humanBackend session url) := by
  have hCached : FailsOnly IsNoFilter (cachedCa session) := by
    unfold cachedCa
    split
    · exact .ok _
    · exact .error nofun
  unfold humanBackend
  cases url with
  | none => exact .error nofun
  | some url =>
      simp only
      split
      · exact .error nofun
      · exact
          .bind hCached fun ca =>
            .bind (Dashboard.Client.noFilter_create _ _)
              fun client =>
                .bind
                  (Dashboard.Client.noFilter_withToken client _)
                  fun _ => .ok _

variable {keeper : SessionFile.Keeper}
variable {result : Except Failure Backend}

theorem PlatformChoice.noFilter
    {path url : String}
    {session : Session}
    (h : PlatformChoice keeper c path session url w result w') :
    FailsOnly IsNoFilter result := by
  cases h with
  | noEndpoint _ => exact .error nofun
  | verified _ _ _ _ => exact .ok _
  | unbased _ hUnbased =>
      cases hUnbased with
      | fetched _ _ hBase =>
          exact
            .error (Dashboard.Client.noFilter_parseBase url _ hBase)
  | unkept hLate _ _ => exact .error hLate.isNoFilter
  | kept _ _ hLate _ _ _ =>
      exact hLate.imp fun _ => IsLate.isNoFilter

/- Choosing a backend never fails because of a filter. -/
theorem Choice.noFilter
    (h : Choice keeper c home w result w') :
    FailsOnly IsNoFilter result := by
  cases h with
  | direct _ =>
      have hClient :=
        Cluster.Client.noFilter_resolve w.files home
          c.kubeconfigPath c.context
      cases hResolve :
          Cluster.Client.resolve w.files home c.kubeconfigPath
            c.context with
      | error failure => exact .error (hClient _ hResolve)
      | ok client => exact .ok _
  | unloaded _ hLate => exact .error hLate.isNoFilter
  | person _ => exact noFilter_humanBackend _ _
  | noUrl _ _ => exact .error nofun
  | platform _ _ hChoice => exact hChoice.noFilter

end

end Route
end WorkspaceClient
