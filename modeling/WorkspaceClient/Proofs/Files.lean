import WorkspaceClient.Files.Basic

/-
  This file shows what can be read from a file system after
  a file was changed: the file has its new content, and the
  way to it is as it was. It also shows when a file can be
  written at all.

  Key definitions include:
    * `Files.LeadsTo`
    * `Files.Holds`
    * `Files.openMode`
    * `Files.Writable`
    * `Files.Extended`

  Main declarations:
    * `Files.findFrom_eq`
    * `Files.Holds.read`
    * `Files.eq_of_truncate`
    * `Files.holds_truncate`
    * `Files.Holds.writeOver`
    * `Files.Holds.setMode`
    * `Files.exists_createFrom`
    * `Files.Writable.exists_way`
-/

namespace WorkspaceClient
namespace Files

------------------------------------------------------------
-- Nodes
------------------------------------------------------------

/- What was put last at a path stands there. -/
@[simp] theorem put_same
    (fs : Files)
    (path : Path)
    (node : Node) :
    fs.put path node path = some node := by
  unfold Files.put
  rw [if_pos rfl]

theorem put_other
    {fs : Files}
    {path p : Path}
    (node : Node)
    (hOther : p ≠ path) :
    fs.put path node p = fs p := by
  unfold Files.put
  rw [if_neg hOther]

@[simp] theorem put_put
    (fs : Files)
    (path : Path)
    (first second : Node) :
    (fs.put path first).put path second =
      fs.put path second := by
  funext p
  by_cases hSame : p = path
  · rw [hSame, put_same, put_same]
  · rw [put_other second hSame, put_other first hSame,
      put_other second hSame]

/- Putting what stands at a path changes nothing. -/
theorem put_eq_self
    {fs : Files}
    {path : Path}
    {node : Node}
    (hStands : fs path = some node) :
    fs.put path node = fs := by
  funext p
  by_cases hSame : p = path
  · rw [hSame, put_same, hStands]
  · rw [put_other node hSame]

------------------------------------------------------------
-- Ways
------------------------------------------------------------

/- Whether only directories stand on the way to a path. -/
def LeadsTo
    (fs : Files)
    (path : Path) : Prop :=
  ∀ above name below,
    path = above ++ name :: below →
    ∃ mode, fs above = some (.directory mode)

/- What stands at a path, or that nothing does. -/
def standing
    (fs : Files)
    (path : Path) : Except Fault Node :=
  match fs path with
  | some node => .ok node
  | none => .error .notFound

theorem standing_eq_ok_iff
    {fs : Files}
    {path : Path}
    {node : Node} :
    fs.standing path = .ok node ↔ fs path = some node := by
  unfold standing
  cases fs path <;> simp

/- At the end of a way of directories the node is found. -/
theorem findFrom_eq
    {fs : Files}
    (walked rest : Path)
    (hWay :
      ∀ above name below,
        rest = above ++ name :: below →
        ∃ mode, fs (walked ++ above) = some (.directory mode)) :
    fs.findFrom walked rest = fs.standing (walked ++ rest) := by
  induction rest generalizing walked with
  | nil =>
      rw [List.append_nil]
      rfl
  | cons name rest ih =>
      rcases hWay [] name rest rfl with ⟨mode, hHere⟩
      rw [List.append_nil] at hHere
      have hRest :=
        ih (walked ++ [name]) (by
          intro above next below hSplit
          rw [List.append_assoc]
          exact hWay (name :: above) next below
            (by rw [hSplit, List.cons_append]))
      rw [findFrom, hHere]
      simp only
      rw [hRest, List.append_assoc, List.singleton_append]

theorem LeadsTo.find_eq
    {fs : Files}
    {path : Path}
    (hWay : fs.LeadsTo path) :
    fs.find path = fs.standing path :=
  findFrom_eq [] path hWay

/- A node is only found at the end of a way. -/
theorem way_of_findFrom
    {fs : Files}
    {node : Node}
    (walked rest : Path)
    (hFind : fs.findFrom walked rest = .ok node) :
    ∀ above name below,
      rest = above ++ name :: below →
      ∃ mode, fs (walked ++ above) = some (.directory mode) := by
  induction rest generalizing walked with
  | nil =>
      intro above name below hSplit
      simp at hSplit
  | cons first rest ih =>
      intro above name below hSplit
      rw [findFrom] at hFind
      split at hFind
      · next mode hHere =>
          cases above with
          | nil =>
              rw [List.append_nil]
              exact ⟨mode, hHere⟩
          | cons first' above =>
              rw [List.cons_append, List.cons.injEq] at hSplit
              rcases hSplit with ⟨rfl, hSplit⟩
              have hRest :=
                ih (walked ++ [first]) hFind above name below
                  hSplit
              rwa [List.append_assoc] at hRest
      · simp at hFind
      · simp at hFind

theorem leadsTo_of_find
    {fs : Files}
    {path : Path}
    {node : Node}
    (hFind : fs.find path = .ok node) :
    fs.LeadsTo path :=
  way_of_findFrom [] path hFind

/- The way to a path leads through the directory above it. -/
theorem leadsTo_of_dropLast
    {fs : Files}
    {path : Path}
    {mode : Nat}
    (hFind : fs.find path.dropLast = .ok (.directory mode)) :
    fs.LeadsTo path := by
  have hWay := leadsTo_of_find hFind
  have hAbove : fs path.dropLast = some (.directory mode) :=
    standing_eq_ok_iff.mp (hWay.find_eq ▸ hFind)
  intro above name below hSplit
  rcases List.eq_nil_or_concat below with rfl | ⟨more, last, rfl⟩
  · rw [hSplit, List.dropLast_concat] at hAbove
    exact ⟨mode, hAbove⟩
  · apply hWay above name more
    rw [hSplit, List.concat_eq_append, ← List.cons_append,
      ← List.append_assoc, List.dropLast_concat]

/- Nothing on the way to a path is at its end. -/
theorem LeadsTo.put
    {fs : Files}
    {path : Path}
    (hWay : fs.LeadsTo path)
    (node : Node) :
    (fs.put path node).LeadsTo path := by
  intro above name below hSplit
  have hOther : above ≠ path := by
    intro hSame
    have hLength := congrArg List.length hSplit
    rw [List.length_append, List.length_cons, hSame]
      at hLength
    omega
  rw [put_other node hOther]
  exact hWay above name below hSplit

------------------------------------------------------------
-- Files at the end of a way
------------------------------------------------------------

/- Whether a file with this content can be reached. -/
structure Holds
    (fs : Files)
    (path : Path)
    (mode : Nat)
    (content : Bytes) : Prop where
  way : fs.LeadsTo path
  file : fs path = some (.file mode content)

theorem Holds.find
    {fs : Files}
    {path : Path}
    {mode : Nat}
    {content : Bytes}
    (h : fs.Holds path mode content) :
    fs.find path = .ok (.file mode content) := by
  rw [h.way.find_eq, standing, h.file]

/- The content of a file that is reached is read. -/
theorem Holds.read
    {fs : Files}
    {path : Path}
    {mode : Nat}
    {content : Bytes}
    (h : fs.Holds path mode content) :
    fs.read path = .ok content := by
  rw [Files.read, h.find]

theorem LeadsTo.holds_put
    {fs : Files}
    {path : Path}
    (hWay : fs.LeadsTo path)
    (mode : Nat)
    (content : Bytes) :
    (fs.put path (.file mode content)).Holds path mode
      content where
  way := hWay.put (.file mode content)
  file := fs.put_same path (.file mode content)

------------------------------------------------------------
-- Changes
------------------------------------------------------------

/-
  The permissions of a file that is opened for writing: the
  ones it has, or those of the owner if there is no file.
-/
def openMode
    (fs : Files)
    (path : Path) : Nat :=
  match fs path with
  | some (.file mode _) => mode
  | _ => 0o600

/- Opening empties a file at the end of a way, or creates it. -/
theorem eq_of_truncate
    {fs fs' : Files}
    {path : Path}
    (hOpen : fs.truncate path = .ok fs') :
    fs.LeadsTo path ∧
      fs' = fs.put path (.file (fs.openMode path) []) := by
  unfold truncate at hOpen
  split at hOpen
  · next mode content hFind =>
      cases hOpen
      have hWay := leadsTo_of_find hFind
      have hFile := standing_eq_ok_iff.mp (hWay.find_eq ▸ hFind)
      refine ⟨hWay, ?_⟩
      rw [openMode, hFile]
  · simp at hOpen
  · next hFind =>
      split at hOpen
      · next mode hAbove =>
          cases hOpen
          have hWay := leadsTo_of_dropLast hAbove
          have hFree : fs path = none := by
            rw [hWay.find_eq, standing] at hFind
            cases hStands : fs path with
            | none => rfl
            | some node =>
                rw [hStands] at hFind
                cases hFind
          refine ⟨hWay, ?_⟩
          rw [openMode, hFree]
      · simp at hOpen
      · simp at hOpen
  · simp at hOpen

/- A file that was opened for writing is empty. -/
theorem holds_truncate
    {fs fs' : Files}
    {path : Path}
    (hOpen : fs.truncate path = .ok fs') :
    ∃ mode, fs'.Holds path mode [] := by
  rcases eq_of_truncate hOpen with ⟨hWay, rfl⟩
  exact ⟨fs.openMode path, hWay.holds_put _ []⟩

/- Bytes that were written stand before what they left. -/
theorem Holds.writeOver
    {fs fs' : Files}
    {path : Path}
    {mode : Nat}
    {content bytes : Bytes}
    (h : fs.Holds path mode content)
    (hWrite : fs.writeAtStart path bytes = .ok fs') :
    fs'.Holds path mode
      (bytes ++ content.drop bytes.length) := by
  rw [Files.writeAtStart, h.file] at hWrite
  cases hWrite
  exact h.way.holds_put mode _

/- Bytes that were written to an empty file are all of it. -/
theorem Holds.writeAtStart
    {fs fs' : Files}
    {path : Path}
    {mode : Nat}
    {bytes : Bytes}
    (h : fs.Holds path mode [])
    (hWrite : fs.writeAtStart path bytes = .ok fs') :
    fs'.Holds path mode bytes := by
  have hWritten := h.writeOver hWrite
  rwa [List.drop_nil, List.append_nil] at hWritten

/- Other permissions leave the content. -/
theorem Holds.setMode
    {fs fs' : Files}
    {path : Path}
    {mode mode' : Nat}
    {content : Bytes}
    (h : fs.Holds path mode content)
    (hMode : fs.setMode path mode' = .ok fs') :
    fs'.Holds path mode' content := by
  rw [Files.setMode, h.find] at hMode
  cases hMode
  exact h.way.holds_put mode' content

------------------------------------------------------------
-- Writing over a file
------------------------------------------------------------

section

variable {fs : Files}
variable {path : Path}
variable {mode : Nat}
variable {content : Bytes}

/- Whatever a file holds, it can be emptied. -/
theorem Holds.truncate_eq
    (h : fs.Holds path mode content) :
    fs.truncate path = .ok (fs.put path (.file mode [])) := by
  rw [Files.truncate, h.find]

theorem Holds.writeAtStart_eq
    (h : fs.Holds path mode [])
    (bytes : Bytes) :
    fs.writeAtStart path bytes =
      .ok (fs.put path (.file mode bytes)) := by
  rw [Files.writeAtStart, h.file]
  simp only [List.drop_nil, List.append_nil]

theorem Holds.setMode_eq
    (h : fs.Holds path mode content)
    (mode' : Nat) :
    fs.setMode path mode' =
      .ok (fs.put path (.file mode' content)) := by
  rw [Files.setMode, h.find]
  rfl

end

------------------------------------------------------------
-- Creating the way
------------------------------------------------------------

/-
  Directories for the owner only were added below a path
  that was walked, so that the rest can be walked too.
-/
structure Extended
    (fs : Files)
    (walked rest : Path)
    (fs' : Files) : Prop where
  kept :
    ∀ p node, fs p = some node → fs' p = some node
  added :
    ∀ p,
      fs p = none →
        fs' p = none ∨
          fs' p = some (.directory 0o700) ∧
            ∃ below, below ≠ [] ∧ below <+: rest ∧
              p = walked ++ below
  way :
    ∀ below,
      below ≠ [] →
      below <+: rest →
        ∃ mode, fs' (walked ++ below) = some (.directory mode)

/- A first directory on the way, and the way behind it. -/
theorem Extended.cons
    {fs next fs' : Files}
    {walked rest : Path}
    {name : String}
    {mode : Nat}
    (hNext :
      next (walked ++ [name]) = some (.directory mode))
    (hFirst :
      next = fs ∨
        fs (walked ++ [name]) = none ∧
          next = fs.put (walked ++ [name]) (.directory 0o700))
    (h : Extended next (walked ++ [name]) rest fs') :
    Extended fs walked (name :: rest) fs' where
  kept := by
    intro p node hStands
    apply h.kept
    rcases hFirst with rfl | ⟨hFree, rfl⟩
    · exact hStands
    · rwa [put_other]
      rintro rfl
      rw [hFree] at hStands
      cases hStands
  added := by
    intro p hFree
    by_cases hHere : p = walked ++ [name]
    · rcases hFirst with rfl | ⟨_, rfl⟩
      · rw [hHere, hNext] at hFree
        cases hFree
      · refine .inr ⟨?_, [name], by simp, by simp, hHere⟩
        apply h.kept
        rw [hHere, put_same]
    · have hNone : next p = none := by
        rcases hFirst with rfl | ⟨_, rfl⟩
        · exact hFree
        · rwa [put_other _ hHere]
      rcases h.added p hNone with
        hStill | ⟨hNew, below, _, hBelow, rfl⟩
      · exact .inl hStill
      · refine .inr ⟨hNew, name :: below, by simp, ?_, ?_⟩
        · rwa [List.cons_prefix_cons, and_iff_right rfl]
        · rw [List.append_assoc, List.singleton_append]
  way := by
    intro below hSome hBelow
    cases below with
    | nil => exact absurd rfl hSome
    | cons first below =>
        rw [List.cons_prefix_cons] at hBelow
        rcases hBelow with ⟨rfl, hBelow⟩
        cases below with
        | nil => exact ⟨mode, h.kept _ _ hNext⟩
        | cons second below =>
            have hWay := h.way _ (by simp) hBelow
            rwa [List.append_assoc, List.singleton_append]
              at hWay

/- Where no file stands on the way, it can be created. -/
theorem exists_createFrom
    (fs : Files)
    (walked rest : Path)
    (hFree :
      ∀ below,
        below ≠ [] →
        below <+: rest →
        ∀ mode content,
          fs (walked ++ below) ≠ some (.file mode content)) :
    ∃ fs',
      fs.createFrom walked rest = .ok fs' ∧
        Extended fs walked rest fs' := by
  induction rest generalizing fs walked with
  | nil =>
      refine ⟨fs, rfl, ⟨fun _ _ h => h, fun _ h => .inl h, ?_⟩⟩
      intro below hSome hBelow
      exact absurd (List.prefix_nil.mp hBelow) hSome
  | cons name rest ih =>
      have hHere := hFree [name] (by simp) (by simp)
      have hBehind :
          ∀ below,
            below ≠ [] →
            below <+: rest →
            ∀ mode content,
              fs (walked ++ [name] ++ below) ≠
                some (.file mode content) := by
        intro below _ hBelow
        rw [List.append_assoc, List.singleton_append]
        exact hFree (name :: below) (by simp) (by simpa)
      rw [createFrom]
      split
      · next hNone =>
          have hStill :
              ∀ below,
                below ≠ [] →
                below <+: rest →
                ∀ mode content,
                  fs.put (walked ++ [name]) (.directory 0o700)
                      (walked ++ [name] ++ below) ≠
                    some (.file mode content) := by
            intro below hSome hBelow
            rw [put_other _ (by simpa using hSome)]
            exact hBehind below hSome hBelow
          rcases ih _ _ hStill with ⟨fs', hRun, hExtended⟩
          exact
            ⟨fs', hRun,
              .cons (put_same _ _ _) (.inr ⟨hNone, rfl⟩)
                hExtended⟩
      · next mode hDirectory =>
          rcases ih _ _ hBehind with ⟨fs', hRun, hExtended⟩
          exact
            ⟨fs', hRun,
              .cons hDirectory (.inl rfl) hExtended⟩
      · next mode content hFile =>
          exact absurd hFile (hHere mode content)

/- A way that leads to a path need not be created. -/
theorem LeadsTo.createFrom_eq
    {fs : Files}
    (walked rest : Path)
    (hWay :
      ∀ below,
        below ≠ [] →
        below <+: rest →
        ∃ mode, fs (walked ++ below) = some (.directory mode)) :
    fs.createFrom walked rest = .ok fs := by
  induction rest generalizing walked with
  | nil => rfl
  | cons name rest ih =>
      rcases hWay [name] (by simp) (by simp) with ⟨mode, hHere⟩
      have hRest := ih (walked ++ [name]) (by
        intro below _ hBelow
        rw [List.append_assoc, List.singleton_append]
        exact hWay (name :: below) (by simp) (by simpa))
      rw [createFrom]
      simp only [hHere]
      exact hRest

/- What is above a path is not the path. -/
theorem ne_of_prefix_dropLast
    {path above : Path}
    (hSome : above ≠ [])
    (hAbove : above <+: path.dropLast) :
    above ≠ path := by
  rintro rfl
  have hLength := hAbove.length_le
  have hPositive := List.length_pos_iff.mpr hSome
  rw [List.length_dropLast] at hLength
  omega

/- Only directories on the way are created. -/
theorem createFrom_other
    {fs fs' : Files}
    {path : Path}
    (walked rest : Path)
    (hOther :
      ∀ below,
        below ≠ [] → below <+: rest → walked ++ below ≠ path)
    (hRun : fs.createFrom walked rest = .ok fs') :
    fs' path = fs path := by
  induction rest generalizing fs walked with
  | nil =>
      cases hRun
      rfl
  | cons name rest ih =>
      have hHere := hOther [name] (by simp) (by simp)
      have hBehind :
          ∀ below,
            below ≠ [] →
            below <+: rest →
              walked ++ [name] ++ below ≠ path := by
        intro below _ hBelow
        rw [List.append_assoc, List.singleton_append]
        exact hOther (name :: below) (by simp) (by simpa)
      rw [createFrom] at hRun
      split at hRun
      · rw [ih _ hBehind hRun, put_other _ hHere.symm]
      · exact ih _ hBehind hRun
      · split at hRun <;> cases hRun

/- What stands at a path stays when its way is created. -/
theorem createDirectories_same
    {fs fs' : Files}
    {path : Path}
    (hRun : fs.createDirectories path.dropLast = .ok fs') :
    fs' path = fs path :=
  createFrom_other [] path.dropLast
    (fun _ => ne_of_prefix_dropLast) hRun

/- A directory stands at every place above a path. -/
theorem LeadsTo.directory
    {fs : Files}
    {path above : Path}
    (hWay : fs.LeadsTo path)
    (hAbove : above <+: path)
    (hOther : above ≠ path) :
    ∃ mode, fs above = some (.directory mode) := by
  rcases hAbove with ⟨_ | ⟨name, below⟩, hSplit⟩
  · rw [List.append_nil] at hSplit
    exact absurd hSplit hOther
  · exact hWay above name below hSplit.symm

theorem LeadsTo.createDirectories_eq
    {fs : Files}
    {path : Path}
    (hWay : fs.LeadsTo path) :
    fs.createDirectories path.dropLast = .ok fs := by
  apply LeadsTo.createFrom_eq
  intro below hSome hBelow
  exact
    hWay.directory (hBelow.trans (List.dropLast_prefix path))
      (ne_of_prefix_dropLast hSome hBelow)

/- The directory above a path is found. -/
theorem LeadsTo.find_dropLast
    {fs : Files}
    {path : Path}
    (hWay : fs.LeadsTo path)
    (hSome : path ≠ []) :
    ∃ mode, fs.find path.dropLast = .ok (.directory mode) := by
  rcases List.eq_nil_or_concat path with
    rfl | ⟨parent, last, rfl⟩
  · exact absurd rfl hSome
  · rw [List.concat_eq_append] at hWay ⊢
    rw [List.dropLast_concat]
    rcases hWay parent last [] rfl with ⟨mode, hParent⟩
    have hAbove : fs.LeadsTo parent := by
      intro above name below hSplit
      apply hWay above name (below ++ [last])
      rw [hSplit, List.append_assoc, List.cons_append]
    refine ⟨mode, ?_⟩
    rw [hAbove.find_eq, standing, hParent]

------------------------------------------------------------
-- Writable paths
------------------------------------------------------------

/-
  Whether a file can be written at a path: no file stands on
  the way to it, and no directory at its end.
-/
structure Writable
    (fs : Files)
    (path : Path) : Prop where
  root : ∃ mode, fs [] = some (.directory mode)
  way :
    ∀ above,
      above <+: path →
      above ≠ path →
      ∀ mode content, fs above ≠ some (.file mode content)
  target : ∀ mode, fs path ≠ some (.directory mode)

theorem Writable.ne_nil
    {fs : Files}
    {path : Path}
    (h : fs.Writable path) :
    path ≠ [] := by
  rintro rfl
  rcases h.root with ⟨mode, hRoot⟩
  exact h.target mode hRoot

/- The missing directories above a writable path are created. -/
theorem Writable.exists_way
    {fs : Files}
    {path : Path}
    (h : fs.Writable path) :
    ∃ fs',
      fs.createDirectories path.dropLast = .ok fs' ∧
        fs'.LeadsTo path ∧
        fs' path = fs path := by
  have hFree :
      ∀ below,
        below ≠ [] →
        below <+: path.dropLast →
        ∀ mode content,
          fs ([] ++ below) ≠ some (.file mode content) := by
    intro below hSome hBelow
    exact
      h.way below (hBelow.trans (List.dropLast_prefix path))
        (ne_of_prefix_dropLast hSome hBelow)
  rcases exists_createFrom fs [] path.dropLast hFree with
    ⟨fs', hRun, hExtended⟩
  refine ⟨fs', hRun, ?_, ?_⟩
  · intro above name below hSplit
    by_cases hRoot : above = []
    · rcases h.root with ⟨mode, hDirectory⟩
      rw [hRoot]
      exact ⟨mode, hExtended.kept _ _ hDirectory⟩
    · apply hExtended.way above hRoot
      rw [hSplit, List.dropLast_append_of_ne_nil (by simp)]
      exact List.prefix_append _ _
  · rcases hStands : fs path with _ | node
    · rcases hExtended.added path hStands with
        hStill | ⟨_, below, hSome, hBelow, hPath⟩
      · exact hStill
      · exact
          absurd hPath.symm (ne_of_prefix_dropLast hSome hBelow)
    · exact hExtended.kept path node hStands

/- At the end of a way, a file can be opened or created. -/
theorem LeadsTo.exists_truncate
    {fs : Files}
    {path : Path}
    (hWay : fs.LeadsTo path)
    (hSome : path ≠ [])
    (hTarget : ∀ mode, fs path ≠ some (.directory mode)) :
    ∃ mode,
      fs.truncate path = .ok (fs.put path (.file mode [])) := by
  rcases hStands : fs path with _ | ⟨mode, content⟩ | mode
  · rcases hWay.find_dropLast hSome with ⟨mode, hAbove⟩
    refine ⟨0o600, ?_⟩
    rw [truncate, hWay.find_eq, standing, hStands]
    simp only [hAbove]
  · exact ⟨mode, Holds.truncate_eq ⟨hWay, hStands⟩⟩
  · exact absurd hStands (hTarget mode)

end Files
end WorkspaceClient
