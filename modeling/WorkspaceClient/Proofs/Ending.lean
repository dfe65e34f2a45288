import WorkspaceClient.Proofs.World

/-
  This file defines what holds when a task ends: a property
  of the value and the state if it succeeds, and a property
  of the failure and the state if it fails. Both are carried
  through the steps of a task.

  Key definitions include:
    * `FailsOnly`
    * `Task.Ends`
    * `Task.FailsOnly`

  Main declarations:
    * `Task.Ends.imp`
    * `Task.Ends.bind`
    * `Task.FailsOnly.bind`
    * `Task.FailsOnly.ends`
-/

namespace WorkspaceClient

variable {σ τ α β : Type}

------------------------------------------------------------
-- Failures of what is known before
------------------------------------------------------------

/- All failures that a step can end in have a property. -/
def FailsOnly
    (P : Failure → Prop)
    (x : Except Failure α) : Prop :=
  ∀ failure, x = .error failure → P failure

namespace FailsOnly

variable {P Q : Failure → Prop}

theorem ok
    (a : α) :
    FailsOnly P (.ok a) :=
  nofun

theorem error
    {failure : Failure}
    (h : P failure) :
    FailsOnly P (.error failure : Except Failure α) := by
  rintro _ ⟨⟩
  exact h

theorem imp
    {x : Except Failure α}
    (h : FailsOnly P x)
    (hImp : ∀ failure, P failure → Q failure) :
    FailsOnly Q x :=
  fun failure hFailure => hImp failure (h failure hFailure)

theorem bind
    {x : Except Failure α}
    {next : α → Except Failure β}
    (hFirst : FailsOnly P x)
    (hNext : ∀ a, FailsOnly P (next a)) :
    FailsOnly P (x >>= next) := by
  cases x with
  | error failure => exact .error (hFirst failure rfl)
  | ok a => exact hNext a

/- A list is read up to its first failure. -/
theorem mapM
    {f : α → Except Failure β}
    (h : ∀ a, FailsOnly P (f a))
    (as : List α) :
    FailsOnly P (as.mapM f) := by
  induction as with
  | nil => exact .ok []
  | cons a as ih =>
      rw [List.mapM_cons]
      exact .bind (h a) fun b => .bind ih fun bs => .ok _

end FailsOnly

namespace Task

------------------------------------------------------------
-- Ends of a task
------------------------------------------------------------

/-
  What holds when a task that starts in a state ends. There
  is one property for its value and one for its failure.
-/
def Ends
    (t : Task σ α)
    (s : σ)
    (Good : α → σ → Prop)
    (Bad : Failure → σ → Prop) : Prop :=
  match t s with
  | (.ok a, s') => Good a s'
  | (.error failure, s') => Bad failure s'

section

variable {t : Task σ α}
variable {next : α → Task σ β}
variable {s : σ}
variable {Good Good' : α → σ → Prop}
variable {Bad Bad' : Failure → σ → Prop}

theorem Ends.of_ok
    {a : α}
    {s' : σ}
    (h : t.Ends s Good Bad)
    (hRun : t s = (.ok a, s')) :
    Good a s' := by
  rwa [Ends, hRun] at h

theorem Ends.of_error
    {failure : Failure}
    {s' : σ}
    (h : t.Ends s Good Bad)
    (hRun : t s = (.error failure, s')) :
    Bad failure s' := by
  rwa [Ends, hRun] at h

/- What holds at each end holds of the run as a whole. -/
theorem Ends.run
    {P : Except Failure α → σ → Prop}
    (h :
      t.Ends s (fun a => P (.ok a))
        fun failure => P (.error failure)) :
    P (t s).1 (t s).2 := by
  rcases hRun : t s with ⟨failure | a, s'⟩
  · exact h.of_error hRun
  · exact h.of_ok hRun

theorem ends_of_eq_ok
    {a : α}
    {s' : σ}
    (hRun : t s = (.ok a, s'))
    (h : Good a s') :
    t.Ends s Good Bad := by
  rwa [Ends, hRun]

theorem ends_of_eq_error
    {failure : Failure}
    {s' : σ}
    (hRun : t s = (.error failure, s'))
    (h : Bad failure s') :
    t.Ends s Good Bad := by
  rwa [Ends, hRun]

theorem Ends.imp
    (h : t.Ends s Good Bad)
    (hGood : ∀ a s', Good a s' → Good' a s')
    (hBad : ∀ failure s', Bad failure s' → Bad' failure s') :
    t.Ends s Good' Bad' := by
  rcases hRun : t s with ⟨failure | a, s'⟩
  · exact ends_of_eq_error hRun (hBad _ _ (h.of_error hRun))
  · exact ends_of_eq_ok hRun (hGood _ _ (h.of_ok hRun))

/- The next step starts from what the first one has reached. -/
theorem Ends.bind
    {Good' : β → σ → Prop}
    (hFirst : t.Ends s Good Bad)
    (hNext :
      ∀ a s', Good a s' → (next a).Ends s' Good' Bad')
    (hBad : ∀ failure s', Bad failure s' → Bad' failure s') :
    (t >>= next).Ends s Good' Bad' := by
  rcases hRun : t s with ⟨failure | a, s'⟩
  · exact
      ends_of_eq_error (bind_error hRun)
        (hBad _ _ (hFirst.of_error hRun))
  · have hRest := hNext a s' (hFirst.of_ok hRun)
    rwa [Ends, bind_ok hRun]

theorem ends_pure
    {a : α}
    (h : Good a s) :
    (Pure.pure a : Task σ α).Ends s Good Bad :=
  ends_of_eq_ok rfl h

theorem ends_fail
    {failure : Failure}
    (h : Bad failure s) :
    (fail failure : Task σ α).Ends s Good Bad :=
  ends_of_eq_error rfl h

theorem ends_ofExcept
    {x : Except Failure α}
    (hOk : ∀ a, x = .ok a → Good a s)
    (hError : ∀ failure, x = .error failure → Bad failure s) :
    (ofExcept x).Ends s Good Bad := by
  cases x with
  | error failure => exact ends_fail (hError failure rfl)
  | ok a => exact ends_pure (hOk a rfl)

/- After a step whose end is known comes the next one. -/
theorem ends_bind_of_eq
    {a : α}
    {s' : σ}
    {Good' : β → σ → Prop}
    (hRun : t s = (.ok a, s'))
    (hNext : (next a).Ends s' Good' Bad) :
    (t >>= next).Ends s Good' Bad := by
  rwa [Ends, bind_ok hRun]

theorem ends_ofExcept_bind
    {x : Except Failure α}
    {Good' : β → σ → Prop}
    (hNext :
      ∀ a, x = .ok a → (next a).Ends s Good' Bad)
    (hBad : ∀ failure, x = .error failure → Bad failure s) :
    (ofExcept x >>= next).Ends s Good' Bad := by
  cases x with
  | error failure =>
      exact ends_of_eq_error (bind_error rfl) (hBad failure rfl)
  | ok a => exact ends_bind_of_eq rfl (hNext a rfl)

theorem Ends.mapFailure
    (f : Failure → Failure)
    (h : t.Ends s Good Bad) :
    (t.mapFailure f).Ends s Good fun failure s' =>
      ∃ cause, failure = f cause ∧ Bad cause s' := by
  rcases hRun : t s with ⟨failure | a, s'⟩
  · exact
      ends_of_eq_error (mapFailure_error hRun)
        ⟨failure, rfl, h.of_error hRun⟩
  · exact ends_of_eq_ok (mapFailure_ok hRun) (h.of_ok hRun)

/- An attempt does not fail, but it tells of the failure. -/
theorem Ends.attempt
    (h : t.Ends s Good Bad) :
    t.attempt.Ends s
      (fun result s' =>
        (∃ a, result = .ok a ∧ Good a s') ∨
          ∃ failure, result = .error failure ∧ Bad failure s')
      fun _ _ => False := by
  rcases hRun : t s with ⟨failure | a, s'⟩
  · exact
      ends_of_eq_ok (attempt_eq hRun)
        (.inr ⟨failure, rfl, h.of_error hRun⟩)
  · exact
      ends_of_eq_ok (attempt_eq hRun)
        (.inl ⟨a, rfl, h.of_ok hRun⟩)

theorem Ends.within
    {t : Task τ α}
    {part : σ → τ}
    {replace : σ → τ → σ}
    (h :
      t.Ends (part s) (fun a p => Good a (replace s p))
        fun failure p => Bad failure (replace s p)) :
    (Task.within part replace t).Ends s Good Bad := by
  unfold Ends Task.within
  rcases hRun : t (part s) with ⟨failure | a, p⟩
  · exact h.of_error hRun
  · exact h.of_ok hRun

end

-- the rules are enough, and a task is not run to apply them
attribute [irreducible] Ends

------------------------------------------------------------
-- Failures of a task
------------------------------------------------------------

/- All failures that a task can end in have a property. -/
def FailsOnly
    (P : Failure → Prop)
    (t : Task σ α) : Prop :=
  ∀ s, WorkspaceClient.FailsOnly P (t s).1

namespace FailsOnly

variable {P Q : Failure → Prop}
variable {t : Task σ α}

theorem pure
    (a : α) :
    FailsOnly P (Pure.pure a : Task σ α) :=
  fun _ => .ok a

theorem fail
    {failure : Failure}
    (h : P failure) :
    FailsOnly P (Task.fail failure : Task σ α) :=
  fun _ => .error h

theorem ofExcept
    {x : Except Failure α}
    (h : WorkspaceClient.FailsOnly P x) :
    FailsOnly P (Task.ofExcept x : Task σ α) := by
  intro s
  rwa [ofExcept_eq]

theorem imp
    (h : t.FailsOnly P)
    (hImp : ∀ failure, P failure → Q failure) :
    t.FailsOnly Q :=
  fun s => (h s).imp hImp

theorem bind
    {next : α → Task σ β}
    (hFirst : t.FailsOnly P)
    (hNext : ∀ a, (next a).FailsOnly P) :
    (t >>= next).FailsOnly P := by
  intro s
  have hThis := hFirst s
  rcases hRun : t s with ⟨failure | a, s'⟩
  · rw [hRun] at hThis
    rw [bind_error hRun]
    exact .error (hThis failure rfl)
  · rw [bind_ok hRun]
    exact hNext a s'

theorem mapFailure
    {f : Failure → Failure}
    (h : t.FailsOnly fun failure => P (f failure)) :
    (t.mapFailure f).FailsOnly P := by
  intro s
  have hThis := h s
  rcases hRun : t s with ⟨failure | a, s'⟩
  · rw [hRun] at hThis
    rw [mapFailure_error hRun]
    exact .error (hThis failure rfl)
  · rw [mapFailure_ok hRun]
    exact .ok a

/- What is known of the failures of a task holds at its end. -/
theorem ends
    {s : σ}
    {Good : α → σ → Prop}
    {Bad : Failure → σ → Prop}
    (h : t.FailsOnly P)
    (hEnds : t.Ends s Good Bad) :
    t.Ends s Good fun failure s' =>
      P failure ∧ Bad failure s' := by
  have hThis := h s
  rcases hRun : t s with ⟨failure | a, s'⟩
  · rw [hRun] at hThis
    exact
      ends_of_eq_error hRun
        ⟨hThis failure rfl, hEnds.of_error hRun⟩
  · exact ends_of_eq_ok hRun (hEnds.of_ok hRun)

end FailsOnly

end Task
end WorkspaceClient
