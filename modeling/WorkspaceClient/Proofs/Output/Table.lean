import Mathlib.Data.List.Forall2
import WorkspaceClient.Output.Table

/-
  This file shows how the columns of the tables line up: a
  cell starts where the label of its column does, unless a
  cell before it is too long for its column. Only the phase
  of a workspace can be.

  Key definitions include:
    * `Table.IsCut`
    * `Table.LaidOut`
    * `Table.IsTable`
    * `User.ShowsCells`
    * `Workspace.ShowsCells`

  Main declarations:
    * `Table.isCut_cut`
    * `Table.LaidOut.column`
    * `Table.LaidOut.length_eq`
    * `User.showsCells_row`
    * `Workspace.showsCells_row`
    * `Report.tables_align`
-/

namespace WorkspaceClient
namespace Table

------------------------------------------------------------
-- Cut texts
------------------------------------------------------------

/-
  What a cell shows of a text: all of it if it fits into the
  width, else as much of its front as leaves room for three
  dots.
-/
structure IsCut
    (width : Nat)
    (s cell : String) : Prop where
  fits : cell.length ≤ width
  whole : s.length ≤ width → cell = s
  dotted :
    width < s.length →
      ∃ part,
        part.toList <+: s.toList ∧
          part ≠ s ∧
          part.length + 3 = width ∧
          cell = part ++ "..."

theorem isCut_cut
    (width : Nat)
    (s : String)
    (hRoom : 3 < width) :
    IsCut width s (cut width s) := by
  unfold cut
  by_cases hFits : s.length ≤ width
  · rw [if_pos hFits]
    exact
      { fits := hFits
        whole := fun _ => rfl
        dotted := fun hLong => absurd hFits (by omega) }
  · rw [if_neg hFits, if_pos hRoom]
    have hLength :
        (String.ofList (s.toList.take (width - 3))).length =
          width - 3 := by
      rw [String.length_ofList, List.length_take,
        String.length_toList]
      omega
    constructor
    · rw [String.length_append, hLength]
      change width - 3 + 3 ≤ width
      omega
    · exact fun hShort => absurd hShort hFits
    · intro hLong
      refine ⟨_, ?_, ?_, by omega, rfl⟩
      · rw [String.toList_ofList]
        exact List.take_prefix _ _
      · intro hSame
        rw [hSame] at hLength
        omega

------------------------------------------------------------
-- Lines
------------------------------------------------------------

/-
  The rest of a line, of which `n` characters were passed,
  consists of these cells, each of which starts behind the
  given number of characters of the line. Nothing but blanks
  stands between them.
-/
inductive LaidOut :
    Nat → List (Nat × String) → List Char → Prop where
  | done
      (n : Nat) :
      LaidOut n [] []
  | cell
      {n : Nat}
      {cells : List (Nat × String)}
      {rest : List Char}
      (gap : Nat)
      (text : String)
      (hRest : LaidOut (n + gap + text.length) cells rest) :
      LaidOut n ((n + gap, text) :: cells)
        (List.replicate gap ' ' ++ text.toList ++ rest)

section

variable {n : Nat}
variable {cells : List (Nat × String)}
variable {rest : List Char}

/- More blanks may stand before a cell. -/
theorem LaidOut.indent
    (hSome : cells ≠ [])
    (more : Nat)
    (h : LaidOut (n + more) cells rest) :
    LaidOut n cells (List.replicate more ' ' ++ rest) := by
  cases h with
  | done => exact absurd rfl hSome
  | cell gap text hRest =>
      rw [Nat.add_assoc n more gap] at hRest ⊢
      rw [← List.append_assoc, ← List.append_assoc,
        List.replicate_append_replicate]
      exact .cell (more + gap) text hRest

/- The last cell ends where the line does. -/
theorem LaidOut.length_eq
    {place : Nat}
    {text : String}
    (h : LaidOut n cells rest)
    (hLast : cells.getLast? = some (place, text)) :
    n + rest.length = place + text.length := by
  induction h with
  | done => cases hLast
  | cell gap text' hRest ih =>
      rw [List.length_append, List.length_append,
        List.length_replicate, String.length_toList]
      cases hRest with
      | done =>
          cases hLast
          rw [List.length_nil]
          omega
      | cell =>
          rw [List.getLast?_cons_cons] at hLast
          have hEnd := ih hLast
          omega

/- A cell alone is a line. -/
theorem LaidOut.last
    (n : Nat)
    (text : String) :
    LaidOut n [(n, text)] (line [text]).toList := by
  have hLine :
      (line [text]).toList =
        List.replicate 0 ' ' ++ text.toList ++ [] := by
    unfold line Text.join
    rw [String.intercalate_singleton, List.append_nil]
    rfl
  rw [hLine]
  exact .cell 0 text (.done _)

/-
  A cell that is filled up starts a line. The next one starts
  two blanks behind its width, or behind its text if this is
  longer.
-/
theorem LaidOut.column
    {width : Nat}
    {text second : String}
    {more : List String}
    (hSome : cells ≠ [])
    (h :
      LaidOut (n + (max width text.length + 2)) cells
        (line (second :: more)).toList) :
    LaidOut n ((n, text) :: cells)
      (line (fill width text :: second :: more)).toList := by
  have hLine :
      (line (fill width text :: second :: more)).toList =
        List.replicate 0 ' ' ++ text.toList
          ++ (List.replicate (width - text.length + 2) ' '
            ++ (line (second :: more)).toList) := by
    have hGap : "  ".toList = List.replicate 2 ' ' := by decide
    unfold line Text.join fill
    rw [String.intercalate_cons_cons, String.toList_append,
      String.toList_append, String.toList_append,
      String.toList_ofList, hGap,
      ← List.replicate_append_replicate, List.replicate_zero,
      List.nil_append]
    simp only [List.append_assoc]
  have hWidth :
      n + 0 + text.length + (width - text.length + 2) =
        n + (max width text.length + 2) := by
    omega
  rw [hLine]
  rw [← hWidth] at h
  exact .cell 0 text (h.indent hSome)

end

------------------------------------------------------------
-- Tables
------------------------------------------------------------

/-
  A report is a table of items: a remark if there are none,
  else a line of labels, a rule, and a row for every item in
  order.
-/
structure IsTable
    {α : Type}
    (labels : List (Nat × String))
    (Shows : α → String → Prop)
    (items : List α)
    (report : Report) : Prop where
  empty :
    items = [] →
      ∃ remark, report.render .table = remark ++ "\n"
  rows :
    items ≠ [] →
      ∃ header rows closing,
        report.render .table =
            Report.joinLines
              (header :: rule :: rows ++ closing) ∧
          LaidOut 0 labels header.toList ∧
          List.Forall₂ Shows items rows

theorem isTable_of
    {α : Type}
    {labels : List (Nat × String)}
    {Shows : α → String → Prop}
    {items : List α}
    {report : Report}
    {row : α → String}
    {remark header : String}
    {closing : List String}
    (hLines :
      report.lines =
        if items.isEmpty then
          [remark]
        else
          [header, rule] ++ items.map row ++ closing)
    (hHeader : LaidOut 0 labels header.toList)
    (hRow : ∀ a, Shows a (row a)) :
    IsTable labels Shows items report := by
  constructor
  · rintro rfl
    refine ⟨remark, ?_⟩
    unfold Report.render
    rw [hLines]
    simp [Report.joinLines]
  · intro hSome
    refine ⟨header, items.map row, closing, ?_, hHeader, ?_⟩
    · unfold Report.render
      rw [hLines, if_neg (by simpa using hSome)]
      rfl
    · rw [List.forall₂_map_right_iff, List.forall₂_same]
      exact fun a _ => hRow a

end Table

open Table (LaidOut IsCut)

------------------------------------------------------------
-- Users
------------------------------------------------------------

namespace User

/- Where the columns of the user table start. -/
def columnStarts : List Nat :=
  [0, 22, 48, 80]

theorem laidOut_labels :
    LaidOut 0
      (columnStarts.zip
        ["NAME", "DISPLAY NAME", "ROLES", "ADDONS"])
      labels.toList := by
  unfold labels
  refine .column (by decide) ?_
  refine .column (by decide) ?_
  refine .column (by decide) ?_
  exact .last 80 "ADDONS"

/- The line shows a user, with a cell in every column. -/
def ShowsCells
    (u : User)
    (line : String) : Prop :=
  ∃ name displayName roles,
    IsCut 20 u.name name ∧
      IsCut 24 u.displayName displayName ∧
      IsCut 30 (Text.join "," u.roles) roles ∧
      LaidOut 0
        (columnStarts.zip
          [name, displayName, roles, Text.join "," u.addons])
        line.toList

theorem showsCells_row
    (u : User) :
    u.ShowsCells u.row := by
  have hName := Table.isCut_cut 20 u.name (by decide)
  have hDisplay :=
    Table.isCut_cut 24 u.displayName (by decide)
  have hRoles :=
    Table.isCut_cut 30 (Text.join "," u.roles) (by decide)
  refine ⟨_, _, _, hName, hDisplay, hRoles, ?_⟩
  unfold row
  refine .column (by simp) ?_
  rw [Nat.max_eq_left hName.fits]
  refine .column (by simp) ?_
  rw [Nat.max_eq_left hDisplay.fits]
  refine .column (by simp) ?_
  rw [Nat.max_eq_left hRoles.fits]
  exact .last 80 _

end User

------------------------------------------------------------
-- Workspaces
------------------------------------------------------------

namespace Workspace

/- Where the columns of the workspace table start. -/
def columnStarts : List Nat :=
  [0, 26, 44, 66, 78]

theorem laidOut_labels :
    LaidOut 0
      (columnStarts.zip
        ["NAME", "USER", "TEMPLATE", "PHASE", "URL"])
      labels.toList := by
  unfold labels
  refine .column (by decide) ?_
  refine .column (by decide) ?_
  refine .column (by decide) ?_
  refine .column (by decide) ?_
  exact .last 78 "URL"

/-
  The line shows a workspace. All cells but that of the URL
  are where their columns start, and the URL is there unless
  the phase is longer than its column.
-/
def ShowsCells
    (w : Workspace)
    (line : String) : Prop :=
  ∃ name owner template,
    IsCut 24 w.name name ∧
      IsCut 16 w.ownerName owner ∧
      IsCut 20 w.template template ∧
      (∃ place,
        LaidOut 0
          [(0, name), (26, owner), (44, template),
            (66, w.phase), (place, w.shownUrl)]
          line.toList) ∧
      (LaidOut 0
          (columnStarts.zip
            [name, owner, template, w.phase, w.shownUrl])
          line.toList ↔
        w.phase.length ≤ 10)

theorem showsCells_row
    (w : Workspace) :
    w.ShowsCells w.row := by
  have hName := Table.isCut_cut 24 w.name (by decide)
  have hOwner :=
    Table.isCut_cut 16 w.ownerName (by decide)
  have hTemplate :=
    Table.isCut_cut 20 w.template (by decide)
  have hRow :
      LaidOut 0
        [(0, Table.cut 24 w.name),
          (26, Table.cut 16 w.ownerName),
          (44, Table.cut 20 w.template), (66, w.phase),
          (66 + (max 10 w.phase.length + 2), w.shownUrl)]
        w.row.toList := by
    unfold row
    refine .column (by simp) ?_
    rw [Nat.max_eq_left hName.fits]
    refine .column (by simp) ?_
    rw [Nat.max_eq_left hOwner.fits]
    refine .column (by simp) ?_
    rw [Nat.max_eq_left hTemplate.fits]
    refine .column (by simp) ?_
    exact .last _ _
  refine
    ⟨_, _, _, hName, hOwner, hTemplate, ⟨_, hRow⟩, ?_, ?_⟩
  · intro hAligned
    -- the URL is the last cell, so the line has one place for it
    have hPlace :=
      (hRow.length_eq rfl).symm.trans (hAligned.length_eq rfl)
    omega
  · intro hShort
    rw [Nat.max_eq_left hShort] at hRow
    exact hRow

end Workspace

------------------------------------------------------------
-- Tables
------------------------------------------------------------

namespace Report

/- The columns of all tables of rows line up. -/
theorem tables_align
    (us : List User)
    (ws : List Workspace) :
    Table.IsTable
        (User.columnStarts.zip
          ["NAME", "DISPLAY NAME", "ROLES", "ADDONS"])
        User.ShowsCells us (User.report us) ∧
      Table.IsTable
        (Workspace.columnStarts.zip
          ["NAME", "USER", "TEMPLATE", "PHASE", "URL"])
        Workspace.ShowsCells ws (Workspace.report ws) :=
  ⟨Table.isTable_of rfl User.laidOut_labels
      User.showsCells_row,
    Table.isTable_of rfl Workspace.laidOut_labels
      Workspace.showsCells_row⟩

end Report
end WorkspaceClient
