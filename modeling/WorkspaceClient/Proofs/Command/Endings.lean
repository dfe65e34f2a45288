import WorkspaceClient.Proofs.Command.Login
import WorkspaceClient.Proofs.Command.Rows

/-
  This file shows how an invocation can end, however a
  session is kept: as a list command, as a login, or without
  any change.

  Key definitions include:
    * `Invocation.Ending`

  Main declarations:
    * `Command.viewConfig_state`
    * `Invocation.ending_runBy`
-/

namespace WorkspaceClient

/- The session is shown without any change. -/
theorem Command.viewConfig_state
    (keeper : SessionFile.Keeper)
    (c : Connection)
    (home : Option String)
    (input : Bytes)
    (w : World) :
    (report keeper c home input .viewConfig w).2 = w := by
  apply Task.Ends.run (P := fun _ w' => w' = w)
  rw [report]
  apply Task.ends_ofExcept_bind
  · intro path hPath
    apply Task.ends_bind_of_eq (Task.get_eq w)
    split
    · exact Task.ends_pure rfl
    · exact Task.ends_fail rfl
  · exact fun _ _ => rfl

namespace Invocation

/-
  How an invocation can end: the result, and the world
  afterwards.
-/
inductive Ending
    (keeper : SessionFile.Keeper)
    (i : Invocation)
    (home : Option String)
    (input : Bytes)
    (w : World) : Except Failure String → World → Prop where
  | listed
      {result : Except Failure String}
      {w' : World}
      (hListing : Listing.isListing i.command = true)
      (hRun :
        Listing.ListRun keeper i.connection home i.command w
          result w') :
      Ending keeper i home input w result w'
  | loggedIn
      {a : Login.Arguments}
      {result : Except Failure Report}
      {w' : World}
      (hCommand : i.command = .login a)
      (hLogin :
        Login.Ending keeper i.connection home a input w result
          w') :
      Ending keeper i home input w
        (result.map fun report => report.render i.format) w'
  | viewed
      {result : Except Failure String}
      (hCommand : i.command = .viewConfig) :
      Ending keeper i home input w result w

/- Every invocation ends in one of these ways. -/
theorem ending_runBy
    (keeper : SessionFile.Keeper)
    (i : Invocation)
    (home : Option String)
    (input : Bytes)
    (w : World) :
    let run := i.runBy keeper home input w
    Ending keeper i home input w run.1 run.2 := by
  intro run
  rcases i with ⟨format, c, command⟩
  cases command with
  | listWorkspaces named expressions =>
      exact .listed rfl (Listing.listRun_runBy rfl format input)
  | listUsers expressions =>
      exact .listed rfl (Listing.listRun_runBy rfl format input)
  | viewConfig =>
      have hState : run.2 = w :=
        (Task.bind_state (fun _ _ => rfl) w).trans
          (Command.viewConfig_state keeper c home input w)
      rw [hState]
      exact .viewed rfl
  | login a =>
      have hLogin := Login.ending_runBy keeper c home a input w
      rcases hRun : Login.runBy keeper c home a input w with
        ⟨result, w'⟩
      rw [hRun] at hLogin
      have hSame :
          run =
            (result.map fun report => report.render format,
              w') := by
        cases result with
        | error failure => exact Task.bind_error hRun
        | ok report => exact Task.bind_ok hRun
      rw [hSame]
      exact .loggedIn rfl hLogin

end Invocation
end WorkspaceClient
