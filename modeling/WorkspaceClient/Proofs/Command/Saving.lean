import WorkspaceClient.Proofs.Command.Endings
import WorkspaceClient.Proofs.Command.Filters
import WorkspaceClient.Proofs.Dashboard.Endings

/-
  This file shows what an invocation does to the files,
  whatever the files and the answers are: it leaves all of
  them as they are, or it saves one new session. This is the
  session of a login that was answered with a cookie, or the
  session of the platform that a list command has fetched an
  authority and logged in for.

  How a session is saved is a parameter here. So it is saved
  at most once: a keeper may as well count its calls.

  Key definitions include:
    * `Login.Fails`
    * `Route.Renews`
    * `Invocation.Saves`
    * `Invocation.Spares`
    * `Invocation.Framed`

  Main declarations:
    * `Login.Ready.not_fails`
    * `Route.Choice.files_eq_or_renews`
    * `Listing.ListRun.files_eq_or_renews`
    * `Invocation.Saves.not_spares`
    * `Invocation.runBy_framed`
-/

namespace WorkspaceClient

------------------------------------------------------------
-- Logins that fail
------------------------------------------------------------

namespace Login

/-
  A login fails: in the check of its arguments, without a
  URL, with its authority or its client, or in the exchange.
-/
inductive Fails
    (c : Connection)
    (home : Option String)
    (a : Arguments)
    (input : Bytes)
    (w : World) : Prop where
  | noUser
      (hUser : a.user = "")
  | password
      {failure : Failure}
      (hPassword : (readPassword a input).1 = .error failure)
  | noUrl
      {path : String}
      {previous : Session}
      (hPath : c.storePath home = .ok path)
      (hPrevious :
        SessionFile.load path w.files = .ok previous)
      (hUrl :
        Route.endpoint c.explicitUrl previous c.location = none)
  | authority
      {path url : String}
      {previous : Session}
      {failure : Failure}
      (hPath : c.storePath home = .ok path)
      (hPrevious :
        SessionFile.load path w.files = .ok previous)
      (hUrl :
        Route.endpoint c.explicitUrl previous c.location =
          some url)
      (hCa :
        Login.authority a w.files previous url = .error failure)
  | client
      {path url : String}
      {previous : Session}
      {ca : Option Bytes}
      {failure : Failure}
      (hPath : c.storePath home = .ok path)
      (hPrevious :
        SessionFile.load path w.files = .ok previous)
      (hUrl :
        Route.endpoint c.explicitUrl previous c.location =
          some url)
      (hCa : Login.authority a w.files previous url = .ok ca)
      (hClient :
        Dashboard.Client.create (Route.rootsWith ca) url =
          .error failure)
  | exchange
      {plan : Plan}
      {failure : Failure}
      {n : Network}
      (hReady : Ready c home a input w plan)
      (hCall :
        plan.client.passwordToken a.user plan.password
            w.network =
          (.error failure, n))

section

variable {c : Connection}
variable {home : Option String}
variable {a : Arguments}
variable {input : Bytes}
variable {w : World}
variable {plan : Plan}

/- The session before a login is the one in its file. -/
theorem Ready.eq_of_load
    {path : String}
    {previous : Session}
    (h : Ready c home a input w plan)
    (hPath : c.storePath home = .ok path)
    (hPrevious : SessionFile.load path w.files = .ok previous) :
    path = plan.path ∧ previous = plan.previous := by
  have hSame : path = plan.path :=
    Except.ok.inj (hPath.symm.trans h.path)
  rw [hSame] at hPrevious
  exact
    ⟨hSame, Except.ok.inj (hPrevious.symm.trans h.previous)⟩

theorem Ready.authority_eq
    (h : Ready c home a input w plan) :
    authority a w.files plan.previous plan.url = .ok plan.ca :=
  authority_eq_ok_iff.mpr h.ca

/- A login finds only one thing to work with. -/
theorem Ready.unique
    {other : Plan}
    (h : Ready c home a input w plan)
    (hOther : Ready c home a input w other) :
    other = plan := by
  rcases other with ⟨password, path, previous, url, ca, client⟩
  rcases h.eq_of_load hOther.path hOther.previous with
    ⟨rfl, rfl⟩
  have hPassword : password = plan.password :=
    Except.ok.inj (hOther.password.symm.trans h.password)
  have hUrl : url = plan.url :=
    Option.some.inj (hOther.url.symm.trans h.url)
  subst hPassword hUrl
  have hCa : ca = plan.ca :=
    Except.ok.inj
      (hOther.authority_eq.symm.trans h.authority_eq)
  subst hCa
  have hClient : client = plan.client :=
    Except.ok.inj (hOther.client.symm.trans h.client)
  rw [hClient]

/- A login that gets a token has not failed. -/
theorem Ready.not_fails
    {token : String}
    {n : Network}
    (h : Ready c home a input w plan)
    (hCall :
      plan.client.passwordToken a.user plan.password w.network =
        (.ok token, n)) :
    ¬ Fails c home a input w := by
  intro hFails
  cases hFails with
  | noUser hUser =>
      exact
        (Dashboard.Client.ok_of_passwordToken hCall).1 hUser
  | password hPassword =>
      rw [h.password] at hPassword
      cases hPassword
  | noUrl hPath hPrevious hUrl =>
      rcases h.eq_of_load hPath hPrevious with ⟨rfl, rfl⟩
      rw [h.url] at hUrl
      cases hUrl
  | authority hPath hPrevious hUrl hCa =>
      rcases h.eq_of_load hPath hPrevious with ⟨rfl, rfl⟩
      rw [h.url] at hUrl
      cases hUrl
      rw [h.authority_eq] at hCa
      cases hCa
  | client hPath hPrevious hUrl hCa hClient =>
      rcases h.eq_of_load hPath hPrevious with ⟨rfl, rfl⟩
      rw [h.url] at hUrl
      cases hUrl
      rw [h.authority_eq] at hCa
      cases hCa
      rw [h.client] at hClient
      cases hClient
  | exchange hReady hRefused =>
      rw [h.unique hReady, hCall] at hRefused
      cases hRefused

end

end Login

------------------------------------------------------------
-- List commands
------------------------------------------------------------

namespace Route

/-
  The platform has introduced itself, and its new session is
  kept. No other file has changed.
-/
inductive Renews
    (keeper : SessionFile.Keeper)
    (c : Connection)
    (home : Option String)
    (w w' : World) : Prop where
  | introduced
      {path url : String}
      {session : Session}
      {before after : List Http.Request}
      {fetch login : Http.Request}
      {ca : Bytes}
      {gained : Platform.Login}
      (hPlatform : ActsAsPlatform c home w path session)
      (hUrl :
        endpoint c.explicitUrl session c.location = some url)
      (hIntroduces :
        Platform.Introduces c.caUrl c.identityPath w.files
          (w.network.afterAll before) url fetch login ca gained)
      (hNetwork :
        w'.network =
          w.network.afterAll (before ++ fetch :: login :: after))
      (hFiles :
        w'.files =
          (keeper path
            (Platform.renewed { session with endpoint := url } ca
              gained)
            w.files).2)

section

variable {keeper : SessionFile.Keeper}
variable {c : Connection}
variable {home : Option String}
variable {w w' : World}

/- Choosing a backend changes no file, or keeps one session. -/
theorem Choice.files_eq_or_renews
    {result : Except Failure Backend}
    (h : Choice keeper c home w result w') :
    w'.files = w.files ∨ Renews keeper c home w w' := by
  cases h with
  | direct _ => exact .inl rfl
  | unloaded _ _ => exact .inl rfl
  | person _ => exact .inl rfl
  | noUrl _ _ => exact .inl rfl
  | platform hPlatform hUrl hChoice =>
      cases hChoice with
      | noEndpoint _ => exact .inl rfl
      | verified _ _ _ _ => exact .inl rfl
      | unbased _ _ => exact .inl rfl
      | unkept _ hFiles _ => exact .inl hFiles
      | kept hIntroduces hRenewed _ _ hFiles hNetwork =>
          rw [hRenewed] at hFiles
          exact
            .inr
              (.introduced hPlatform hUrl hIntroduces hNetwork
                hFiles)

/- What is sent afterwards does not undo this. -/
theorem Renews.congr
    {w'' : World}
    {requests : List Http.Request}
    (h : Renews keeper c home w w')
    (hFiles : w''.files = w'.files)
    (hNetwork : w''.network = w'.network.afterAll requests) :
    Renews keeper c home w w'' := by
  cases h with
  | @introduced _ _ _ before after fetch login _ _ hPlatform
      hUrl hIntroduces hSent hKept =>
      have hAll :
          w''.network =
            w.network.afterAll
              (before ++ fetch :: login :: (after ++ requests)) := by
        rw [hNetwork, hSent, Network.afterAll_afterAll]
        simp
      exact
        .introduced hPlatform hUrl hIntroduces hAll
          (hFiles.trans hKept)

end

end Route

/- A list command changes no file, or keeps one session. -/
theorem Listing.ListRun.files_eq_or_renews
    {keeper : SessionFile.Keeper}
    {c : Connection}
    {home : Option String}
    {command : Command}
    {w w' : World}
    {result : Except Failure String}
    (h : ListRun keeper c home command w result w') :
    w'.files = w.files ∨
      (∃ filters,
        parseFilters (expressionsOf command) = .ok filters) ∧
        Route.Renews keeper c home w w' := by
  have hChoice := Route.choice_selectBy keeper c home w
  cases h with
  | refused _ => exact .inl rfl
  | unselected hFilters hSelect =>
      rw [hSelect] at hChoice
      exact
        hChoice.files_eq_or_renews.imp_right fun hRenews =>
          ⟨⟨_, hFilters⟩, hRenews⟩
  | listed hFilters hSelect _ =>
      rw [hSelect] at hChoice
      exact
        hChoice.files_eq_or_renews.imp_right fun hRenews =>
          ⟨⟨_, hFilters⟩, hRenews.congr rfl rfl⟩

------------------------------------------------------------
-- Invocations
------------------------------------------------------------

namespace Invocation

open Dashboard (Calls Admits)
open Listing (isListing expressionsOf parseFilters)

/-
  An invocation has saved one session: that of a login whose
  call was answered with a cookie, or that of the platform
  after a list command has introduced it.
-/
inductive Saves
    (keeper : SessionFile.Keeper)
    (i : Invocation)
    (home : Option String)
    (input : Bytes)
    (w w' : World) : Prop where
  | login
      {a : Login.Arguments}
      {plan : Login.Plan}
      {document : Json}
      {q : Http.Request}
      {answer : Dashboard.LoginAnswer}
      {cookie : String}
      (hCommand : i.command = .login a)
      (hReady : Login.Ready i.connection home a input w plan)
      (hCalls : Calls plan.client .login document q)
      (hAdmits :
        Admits Dashboard.loginShape.decode
          (w.network.answer w.network.sent q) answer cookie)
      (hToken :
        plan.client.passwordToken a.user plan.password
            w.network =
          (.ok (Credential.encodeToken cookie), w'.network))
      (hNetwork : w'.network = w.network.afterAll [q])
      (hFiles :
        w'.files =
          (keeper plan.path
            (plan.session a (Credential.encodeToken cookie))
            w.files).2)
  | renewal
      {filters : List Filter}
      (hListing : isListing i.command = true)
      (hFilters :
        parseFilters (expressionsOf i.command) = .ok filters)
      (hRenews : Route.Renews keeper i.connection home w w')

/- An invocation has no reason to change a file. -/
inductive Spares
    (i : Invocation)
    (home : Option String)
    (input : Bytes)
    (w : World) : Prop where
  | view
      (hCommand : i.command = .viewConfig)
  | direct
      (hDirect : i.connection.direct = true)
  | person
      {path : String}
      {session : Session}
      (hListing : isListing i.command = true)
      (hPerson :
        Route.ActsAsPerson i.connection home w path session)
  | malformedFilter
      {e : String}
      {refusal : Filter.Refusal}
      (hMem : e ∈ expressionsOf i.command)
      (hRefused : Filter.parse e = .error refusal)
  | malformedSession
      {path : String}
      {fault : SessionFile.Fault}
      (hPath : i.connection.storePath home = .ok path)
      (hLoad : SessionFile.load path w.files = .error fault)
  | failedLogin
      {a : Login.Arguments}
      (hCommand : i.command = .login a)
      (hFails : Login.Fails i.connection home a input w)

/-
  What an invocation may do to the files. Nothing else in
  them has changed, and so neither has the session file.
-/
structure Framed
    (keeper : SessionFile.Keeper)
    (i : Invocation)
    (home : Option String)
    (input : Bytes)
    (w w' : World) : Prop where
  saves :
    w'.files = w.files ∨ Saves keeper i home input w w'
  spares : Spares i home input w → w'.files = w.files

section

variable {keeper : SessionFile.Keeper}
variable {i : Invocation}
variable {home : Option String}
variable {input : Bytes}
variable {w w' : World}

/- A login that has got a token had a reason to save it. -/
theorem not_spares_of_login
    {a : Login.Arguments}
    {plan : Login.Plan}
    {token : String}
    {n : Network}
    (hCommand : i.command = .login a)
    (hReady : Login.Ready i.connection home a input w plan)
    (hToken :
      plan.client.passwordToken a.user plan.password w.network =
        (.ok token, n)) :
    ¬ Spares i home input w := by
  intro hSpares
  cases hSpares with
  | view hThis =>
      rw [hCommand] at hThis
      cases hThis
  | direct hDirect =>
      rw [hReady.facade] at hDirect
      cases hDirect
  | person hListing _ =>
      rw [hCommand] at hListing
      cases hListing
  | malformedFilter hMem _ =>
      rw [hCommand] at hMem
      cases hMem
  | malformedSession hPath hLoad =>
      rw [hReady.path] at hPath
      cases hPath
      rw [hReady.previous] at hLoad
      cases hLoad
  | failedLogin hThis hFails =>
      rw [hCommand] at hThis
      cases hThis
      exact hReady.not_fails hToken hFails

/- So had a list command that has introduced the platform. -/
theorem not_spares_of_platform
    {path : String}
    {session : Session}
    {filters : List Filter}
    (hListing : isListing i.command = true)
    (hFilters :
      parseFilters (expressionsOf i.command) = .ok filters)
    (hPlatform :
      Route.ActsAsPlatform i.connection home w path session) :
    ¬ Spares i home input w := by
  intro hSpares
  cases hSpares with
  | view hCommand =>
      rw [hCommand] at hListing
      cases hListing
  | direct hDirect =>
      rw [hPlatform.facade] at hDirect
      cases hDirect
  | person _ hPerson =>
      exact hPlatform.not_actsAsPerson hPerson
  | malformedFilter hMem hRefused =>
      rcases Listing.parse_of_parseFilters hFilters hMem with
        ⟨f, hOk⟩
      rw [hRefused] at hOk
      cases hOk
  | malformedSession hPath hLoad =>
      rw [hPlatform.store] at hPath
      cases hPath
      rw [hPlatform.load] at hLoad
      cases hLoad
  | failedLogin hCommand _ =>
      rw [hCommand] at hListing
      cases hListing

theorem Saves.not_spares
    (h : Saves keeper i home input w w') :
    ¬ Spares i home input w := by
  cases h with
  | login hCommand hReady _ _ hToken _ _ =>
      exact not_spares_of_login hCommand hReady hToken
  | renewal hListing hFilters hRenews =>
      cases hRenews with
      | introduced hPlatform _ _ _ _ =>
          exact
            not_spares_of_platform hListing hFilters hPlatform

/- A login changes no file, or saves one session. -/
theorem files_eq_or_saves_of_login
    {a : Login.Arguments}
    {result : Except Failure Report}
    (hCommand : i.command = .login a)
    (h :
      Login.Ending keeper i.connection home a input w result
        w') :
    w'.files = w.files ∨ Saves keeper i home input w w' := by
  cases h with
  | unready => exact .inl rfl
  | refused _ _ => exact .inl rfl
  | @kept plan token _ _ _ _ hReady hCall hKeep _ =>
      rcases (plan.client.ends_passwordToken a.user plan.password
          w.network).of_ok hCall with
        ⟨document, q, answer, cookie, hCalls, _, hAdmits, rfl,
          rfl⟩
      exact
        .inr
          (.login hCommand hReady hCalls hAdmits hCall rfl
            (congrArg Prod.snd hKeep).symm)

/- Every invocation changes no file, or saves one session. -/
theorem files_eq_or_saves
    (keeper : SessionFile.Keeper)
    (i : Invocation)
    (home : Option String)
    (input : Bytes)
    (w : World) :
    (i.runBy keeper home input w).2.files = w.files ∨
      Saves keeper i home input w
        (i.runBy keeper home input w).2 := by
  have hEnding :
      Ending keeper i home input w
        (i.runBy keeper home input w).1
        (i.runBy keeper home input w).2 :=
    ending_runBy keeper i home input w
  generalize (i.runBy keeper home input w).1 = result,
    (i.runBy keeper home input w).2 = w' at hEnding ⊢
  cases hEnding with
  | listed hListing hRun =>
      exact
        hRun.files_eq_or_renews.imp_right
          fun ⟨⟨_, hFilters⟩, hRenews⟩ =>
            .renewal hListing hFilters hRenews
  | loggedIn hCommand hLogin =>
      exact files_eq_or_saves_of_login hCommand hLogin
  | viewed _ => exact .inl rfl

end

/-
  Every invocation leaves the files as they are, or saves
  one session, for which it had a reason. Running it is the
  case of the keeper that saves.
-/
theorem runBy_framed
    (keeper : SessionFile.Keeper)
    (i : Invocation)
    (home : Option String)
    (input : Bytes)
    (w : World) :
    Framed keeper i home input w
      (i.runBy keeper home input w).2 := by
  have hSaves := files_eq_or_saves keeper i home input w
  exact
    { saves := hSaves
      spares := fun hSpares =>
        hSaves.resolve_right fun hThis =>
          hThis.not_spares hSpares }

end Invocation
end WorkspaceClient
