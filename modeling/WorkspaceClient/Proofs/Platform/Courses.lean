import WorkspaceClient.Proofs.Platform.Events
import WorkspaceClient.Proofs.Session

/-
  A run that makes a session valid takes one of a few
  courses, whatever the authentication answers. This file
  lists the courses and shows that every run takes one of
  them.

  Key definitions include:
    * `Platform.Auth.Gives`
    * `Platform.Establishment`
    * `Platform.Course`

  Main declarations:
    * `Platform.establishment_establish`
    * `Platform.course_run`
-/

namespace WorkspaceClient
namespace Platform

variable {σ : Type}

------------------------------------------------------------
-- Courses
------------------------------------------------------------

/- The bytes that fetching the authority can give. -/
def Auth.Gives
    (auth : Auth σ)
    (ca : Bytes) : Prop :=
  ∃ a a', auth.bootstrap a = (.ok ca, a')

/-
  How a session is established: its events, the authority or
  the failure, and the session afterwards.
-/
inductive Establishment
    (auth : Auth σ)
    (session : Session) :
    List Event → Except Failure Bytes → Session → Prop where
  | unfetched
      (failure : Failure) :
      Establishment auth session
        [.bootstrap (.error failure)]
        (.error failure) session
  | refused
      {ca : Bytes}
      (failure : Failure)
      (hCa : auth.Gives ca) :
      Establishment auth session
        [.bootstrap (.ok ca),
          .login session.endpoint ca (.error failure)]
        (.error failure) session
  | established
      {ca : Bytes}
      (login : Login)
      (hCa : auth.Gives ca) :
      Establishment auth session
        [.bootstrap (.ok ca),
          .login session.endpoint ca (.ok login)]
        (.ok ca) (renewed session ca login)

/- A check of a session with an authority, and its answer. -/
def checkEvent
    (session : Session)
    (ca : Bytes)
    (answer : Except Failure Unit) : Event :=
  .verify session.endpoint ca session.token answer

/- Whether a session has an authority that can be read. -/
def HasCa
    (session : Session) : Prop :=
  ∃ ca, session.Caches ca

theorem hasCa_iff
    {session : Session} :
    HasCa session ↔ ∃ ca, session.caBytes = .ok (some ca) :=
  exists_congr fun _ => Session.caBytes_eq_some_iff.symm

theorem hasCa_of_caBytes
    {session : Session}
    {ca : Bytes}
    (h : session.caBytes = .ok (some ca)) :
    HasCa session :=
  hasCa_iff.mpr ⟨ca, h⟩

/-
  How a session without a readable authority is made valid:
  the events, the result, and the session and the files
  afterwards.
-/
inductive Bootstrapping
    (auth : Auth σ)
    (path : String)
    (session : Session)
    (files : Files) :
    List Event → Except Failure Outcome → Session → Files →
    Prop where
  | unestablished
      {events : List Event}
      {failure : Failure}
      {after : Session}
      (hEvents :
        Establishment auth session events (.error failure) after) :
      Bootstrapping auth path session files
        events (.error failure) after files
  | unverified
      {events : List Event}
      {ca : Bytes}
      {after : Session}
      (failure : Failure)
      (hEvents :
        Establishment auth session events (.ok ca) after) :
      Bootstrapping auth path session files
        (events ++ [checkEvent after ca (.error failure)])
        (.error failure) after files
  | unsaved
      {events : List Event}
      {ca : Bytes}
      {after : Session}
      {fault : SessionFile.Fault}
      {files' : Files}
      (hEvents :
        Establishment auth session events (.ok ca) after)
      (hSave :
        SessionFile.save path after files =
          (.error fault, files')) :
      Bootstrapping auth path session files
        (events ++ [checkEvent after ca (.ok ()),
          .save after (.error (.sessionFile fault))])
        (.error (.sessionFile fault)) after files'
  | bootstrapped
      {events : List Event}
      {ca : Bytes}
      {after : Session}
      {files' : Files}
      (hEvents :
        Establishment auth session events (.ok ca) after)
      (hSave :
        SessionFile.save path after files =
          (.ok (), files')) :
      Bootstrapping auth path session files
        (events ++ [checkEvent after ca (.ok ()),
          .save after (.ok ())])
        (.ok .bootstrapped) after files'

/-
  How a refused session is renewed: the events after the
  refusal, the result, and the session and the files
  afterwards.
-/
inductive Renewing
    (auth : Auth σ)
    (path : String)
    (session : Session)
    (files : Files) :
    List Event → Except Failure Outcome → Session → Files →
    Prop where
  | unestablished
      {events : List Event}
      {failure : Failure}
      {after : Session}
      (hEvents :
        Establishment auth session events (.error failure) after) :
      Renewing auth path session files
        events (.error (reloginFailed failure)) after files
  | unsaved
      {events : List Event}
      {ca : Bytes}
      {after : Session}
      {fault : SessionFile.Fault}
      {files' : Files}
      (hEvents :
        Establishment auth session events (.ok ca) after)
      (hSave :
        SessionFile.save path after files =
          (.error fault, files')) :
      Renewing auth path session files
        (events
          ++ [.save after (.error (.sessionFile fault))])
        (.error (.sessionFile fault)) after files'
  | rejected
      {events : List Event}
      {ca : Bytes}
      {after : Session}
      {files' : Files}
      (failure : Failure)
      (hEvents :
        Establishment auth session events (.ok ca) after)
      (hSave :
        SessionFile.save path after files =
          (.ok (), files')) :
      Renewing auth path session files
        (events ++ [.save after (.ok ()),
          checkEvent after ca (.error failure)])
        (.error (rejectedAgain failure)) after files'
  | reauthenticated
      {events : List Event}
      {ca : Bytes}
      {after : Session}
      {files' : Files}
      (hEvents :
        Establishment auth session events (.ok ca) after)
      (hSave :
        SessionFile.save path after files =
          (.ok (), files')) :
      Renewing auth path session files
        (events ++ [.save after (.ok ()),
          checkEvent after ca (.ok ())])
        (.ok .reauthenticated) after files'

/-
  How a session is made valid: the events of the run, its
  result, and the session and the files afterwards.
-/
inductive Course
    (auth : Auth σ)
    (path : String)
    (session : Session)
    (files : Files) :
    List Event → Except Failure Outcome → Session → Files →
    Prop where
  | noEndpoint
      (hEndpoint : session.endpoint = "") :
      Course auth path session files
        [] (.error noEndpoint) session files
  | bootstrapping
      {events : List Event}
      {result : Except Failure Outcome}
      {after : Session}
      {files' : Files}
      (hEndpoint : session.endpoint ≠ "")
      (hCa : ¬ HasCa session)
      (hRest :
        Bootstrapping auth path session files
          events result after files') :
      Course auth path session files events result after files'
  | verified
      {ca : Bytes}
      (hEndpoint : session.endpoint ≠ "")
      (hCa : session.caBytes = .ok (some ca)) :
      Course auth path session files
        [checkEvent session ca (.ok ())]
        (.ok .verified) session files
  | renewing
      {ca : Bytes}
      {events : List Event}
      {result : Except Failure Outcome}
      {after : Session}
      {files' : Files}
      (refusal : Failure)
      (hEndpoint : session.endpoint ≠ "")
      (hCa : session.caBytes = .ok (some ca))
      (hRest :
        Renewing auth path session files
          events result after files') :
      Course auth path session files
        (checkEvent session ca (.error refusal) :: events)
        result after files'

------------------------------------------------------------
-- The steps of a run
------------------------------------------------------------

/- Establishing a session takes one of its courses. -/
theorem establishment_establish
    (auth : Auth σ)
    (session : Session)
    (files : Files)
    (warnings : List Warning)
    (a : σ)
    (log : List Event) :
    ∃ events result after a',
      establish auth.logged
          ⟨session, files, warnings, (a, log)⟩ =
        (result,
          ⟨after, files, warnings, (a', log ++ events)⟩) ∧
      Establishment auth session events result after := by
  rcases hCa : auth.bootstrap a with ⟨failure | ca, a₁⟩
  · refine ⟨_, _, _, a₁, ?_, .unfetched failure⟩
    simp [establish, onAuth, Task.within, Auth.logged,
      noting, bind, Task.andThen, hCa]
  · have hGives : auth.Gives ca := ⟨a, a₁, hCa⟩
    rcases hLogin : auth.login session.endpoint ca a₁ with
      ⟨failure | login, a₂⟩
    · refine ⟨_, _, _, a₂, ?_, .refused failure hGives⟩
      simp [establish, onAuth, Task.within, Auth.logged,
        noting, bind, Task.andThen, Task.get, hCa, hLogin]
    · refine ⟨_, _, _, a₂, ?_, .established login hGives⟩
      simp [establish, onAuth, Task.within, Auth.logged,
        noting, bind, Task.andThen, Task.get, Task.modify,
        pure, Task.value, hCa, hLogin]

/- A check is one event. -/
theorem check_logged
    (auth : Auth σ)
    (ca : Bytes)
    (session : Session)
    (files : Files)
    (warnings : List Warning)
    (a : σ)
    (log : List Event) :
    ∃ answer a',
      check auth.logged ca
          ⟨session, files, warnings, (a, log)⟩ =
        (answer,
          ⟨session, files, warnings,
            (a', log ++ [checkEvent session ca answer])⟩) := by
  exact ⟨_, _, rfl⟩

/- An attempt to save is one event. -/
theorem loggedSave_cases
    (path : String)
    (session : Session)
    (files : Files)
    (warnings : List Warning)
    (a : σ)
    (log : List Event) :
    (∃ files',
      SessionFile.save path session files =
          (.ok (), files') ∧
        loggedSave path
            ⟨session, files, warnings, (a, log)⟩ =
          (.ok (),
            ⟨session, files', warnings,
              (a, log ++ [.save session (.ok ())])⟩)) ∨
      ∃ fault files',
        SessionFile.save path session files =
            (.error fault, files') ∧
          loggedSave path
              ⟨session, files, warnings, (a, log)⟩ =
            (.error (.sessionFile fault),
              ⟨session, files', warnings,
                (a, log ++ [.save session
                  (.error (.sessionFile fault))])⟩) := by
  rcases hSave : SessionFile.save path session files with
    ⟨fault | _, files'⟩
  · refine .inr ⟨fault, files', rfl, ?_⟩
    simp [loggedSave, save, saveBy, hSave]
  · refine .inl ⟨files', rfl, ?_⟩
    simp [loggedSave, save, saveBy, hSave]

/-
  The cached authority is read without any event. Only a
  warning may be given.
-/
theorem cachedCa_cases
    (session : Session)
    (files : Files)
    (warnings : List Warning)
    (a : σ) :
    (∃ ca,
      session.caBytes = .ok (some ca) ∧
        cachedCa ⟨session, files, warnings, a⟩ =
          (.ok (some ca), ⟨session, files, warnings, a⟩)) ∨
      (¬ HasCa session ∧
        ∃ warnings',
          cachedCa ⟨session, files, warnings, a⟩ =
            (.ok none, ⟨session, files, warnings', a⟩)) := by
  rcases hCa : session.caBytes with fault | ⟨_ | ca⟩
  · refine .inr ⟨by simp [hasCa_iff, hCa], ?_⟩
    refine ⟨warnings ++ [.unreadableCa
      (SessionFile.Fault.unreadableCa fault.message).message],
      ?_⟩
    simp [cachedCa, bind, Task.andThen, Task.get, hCa, warn,
      Task.modify, pure, Task.value]
  · refine .inr ⟨by simp [hasCa_iff, hCa], warnings, ?_⟩
    simp [cachedCa, bind, Task.andThen, Task.get, hCa, pure,
      Task.value]
  · refine .inl ⟨ca, rfl, ?_⟩
    simp [cachedCa, bind, Task.andThen, Task.get, hCa, pure,
      Task.value]

------------------------------------------------------------
-- Runs
------------------------------------------------------------

/- A session without a readable authority is bootstrapped. -/
theorem bootstrapping_bootstrapSession
    (auth : Auth σ)
    (path : String)
    (session : Session)
    (files : Files)
    (warnings : List Warning)
    (a : σ)
    (log : List Event) :
    ∃ events result after files' a',
      bootstrapSession auth.logged (loggedSave path)
          ⟨session, files, warnings, (a, log)⟩ =
        (result,
          ⟨after, files', warnings, (a', log ++ events)⟩) ∧
      Bootstrapping auth path session files
        events result after files' := by
  unfold bootstrapSession
  rcases establishment_establish auth session files warnings
      a log with
    ⟨events, failure | ca, after, a₁, hRun, hEvents⟩
  · rw [Task.bind_error hRun]
    exact ⟨_, _, _, _, _, rfl, .unestablished hEvents⟩
  · rw [Task.bind_ok hRun]
    rcases check_logged auth ca after files warnings a₁
        (log ++ events) with
      ⟨failure | _, a₂, hCheck⟩
    · rw [Task.bind_error hCheck, List.append_assoc]
      exact ⟨_, _, _, _, _, rfl, .unverified failure hEvents⟩
    · rw [Task.bind_ok hCheck]
      rcases loggedSave_cases path after files warnings a₂ _
        with
        ⟨files', hSave, hLog⟩ | ⟨fault, files', hSave, hLog⟩
      · rw [Task.bind_ok hLog, List.append_assoc,
          List.append_assoc]
        exact
          ⟨_, _, _, _, _, rfl, .bootstrapped hEvents hSave⟩
      · rw [Task.bind_error hLog, List.append_assoc,
          List.append_assoc]
        exact ⟨_, _, _, _, _, rfl, .unsaved hEvents hSave⟩

/- A refused session is renewed. -/
theorem renewing_renewSession
    (auth : Auth σ)
    (path : String)
    (session : Session)
    (files : Files)
    (warnings : List Warning)
    (a : σ)
    (log : List Event) :
    ∃ events result after files' a',
      renewSession auth.logged (loggedSave path)
          ⟨session, files, warnings, (a, log)⟩ =
        (result,
          ⟨after, files', warnings, (a', log ++ events)⟩) ∧
      Renewing auth path session files
        events result after files' := by
  unfold renewSession
  rcases establishment_establish auth session files warnings
      a log with
    ⟨events, failure | ca, after, a₁, hRun, hEvents⟩
  · rw [Task.bind_error (Task.mapFailure_error hRun)]
    exact ⟨_, _, _, _, _, rfl, .unestablished hEvents⟩
  · rw [Task.bind_ok (Task.mapFailure_ok hRun)]
    rcases loggedSave_cases path after files warnings a₁
        (log ++ events) with
      ⟨files', hSave, hLog⟩ | ⟨fault, files', hSave, hLog⟩
    · rw [Task.bind_ok hLog]
      rcases check_logged auth ca after files' warnings a₁ _
        with ⟨failure | _, a₂, hCheck⟩
      · rw [Task.bind_error (Task.mapFailure_error hCheck),
          List.append_assoc, List.append_assoc]
        exact
          ⟨_, _, _, _, _, rfl,
            .rejected failure hEvents hSave⟩
      · rw [Task.bind_ok (Task.mapFailure_ok hCheck),
          List.append_assoc, List.append_assoc]
        exact
          ⟨_, _, _, _, _, rfl,
            .reauthenticated hEvents hSave⟩
    · rw [Task.bind_error hLog, List.append_assoc]
      exact ⟨_, _, _, _, _, rfl, .unsaved hEvents hSave⟩

/- Making a session valid takes one of the courses. -/
theorem course_ensureValidBy
    (auth : Auth σ)
    (path : String)
    (session : Session)
    (files : Files)
    (warnings : List Warning)
    (a : σ)
    (log : List Event) :
    ∃ events result after files' warnings' a',
      ensureValidBy auth.logged (loggedSave path)
          ⟨session, files, warnings, (a, log)⟩ =
        (result,
          ⟨after, files', warnings', (a', log ++ events)⟩) ∧
      Course auth path session files
        events result after files' := by
  unfold ensureValidBy
  rw [Task.bind_ok (t := Task.get) rfl]
  by_cases hEndpoint : session.endpoint = ""
  · refine ⟨[], _, _, _, warnings, a, ?_,
      .noEndpoint hEndpoint⟩
    simp [hEndpoint, Task.fail]
  · rw [if_neg (by simpa using hEndpoint)]
    rcases cachedCa_cases session files warnings (a, log) with
      ⟨ca, hCa, hCached⟩ | ⟨hCa, warnings', hCached⟩
    · rw [Task.bind_ok hCached]
      dsimp only
      rcases check_logged auth ca session files warnings a log
        with ⟨refusal | _, a₁, hCheck⟩
      · rw [Task.bind_ok (Task.attempt_eq hCheck)]
        dsimp only
        rw [Task.bind_ok (t := warn _) rfl]
        rcases renewing_renewSession auth path session files
            (warnings ++ [.sessionRejected refusal.message]) a₁
            (log ++ [checkEvent session ca (.error refusal)])
          with
          ⟨events, result, after, files', a₂, hRun, hRest⟩
        rw [hRun, List.append_assoc]
        exact
          ⟨_, _, _, _, _, _, rfl,
            .renewing refusal hEndpoint hCa hRest⟩
      · rw [Task.bind_ok (Task.attempt_eq hCheck)]
        exact
          ⟨_, _, _, _, _, _, rfl, .verified hEndpoint hCa⟩
    · rw [Task.bind_ok hCached]
      rcases bootstrapping_bootstrapSession auth path session
          files warnings' a log with
        ⟨events, result, after, files', a₁, hRun, hRest⟩
      exact
        ⟨_, _, _, _, _, _, hRun,
          .bootstrapping hEndpoint hCa hRest⟩

/- Every run takes one of the courses. -/
theorem course_run
    (auth : Auth σ)
    (path : String)
    (s : State σ) :
    Course auth path s.session s.files
      (run auth path s).events (run auth path s).result
      (run auth path s).state.session
      (run auth path s).state.files := by
  rcases course_ensureValidBy auth path s.session s.files
      s.warnings s.auth [] with
    ⟨events, result, after, files, warnings, a, hRun, hCourse⟩
  unfold run State.mapAuth
  rw [hRun]
  exact hCourse

end Platform
end WorkspaceClient
