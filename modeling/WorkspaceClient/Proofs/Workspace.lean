import WorkspaceClient.Output.Table
import WorkspaceClient.Proofs.Filter

/-
  This file shows which URLs a workspace lists: each of its
  URLs once, at its first place, the main URL in front. The
  one in front is what the table shows, and what a filter on
  the URL finds.

  Key definitions include:
    * `Workspace.IsListing`
    * `Workspace.cells`
    * `Workspace.ShowsUrl`
    * `Workspace.ListsUrls`

  Main declarations:
    * `Workspace.IsListing.addUrl`
    * `Workspace.isListing_allUrls`
    * `Workspace.showsUrl_head`
    * `Workspace.listsUrls`
-/

namespace WorkspaceClient
namespace Workspace

------------------------------------------------------------
-- Listings
------------------------------------------------------------

/-
  The texts of a list that are not empty, each at the place
  where it occurs first.
-/
structure IsListing
    (candidates urls : List String) : Prop where
  mem_iff :
    ∀ url, url ∈ urls ↔ url ≠ "" ∧ url ∈ candidates
  ordered :
    urls.Pairwise fun url url' =>
      candidates.idxOf url < candidates.idxOf url'

theorem isListing_nil :
    IsListing [] [] :=
  ⟨fun _ => by simp, .nil⟩

section

variable {candidates urls : List String}

theorem IsListing.nodup
    (h : IsListing candidates urls) :
    urls.Nodup := by
  refine h.ordered.imp ?_
  rintro url _ hLess rfl
  exact Nat.lt_irrefl _ hLess

/- One more candidate does not move the ones before it. -/
theorem IsListing.ordered_append
    (h : IsListing candidates urls)
    (more : List String) :
    urls.Pairwise fun url url' =>
      (candidates ++ more).idxOf url <
        (candidates ++ more).idxOf url' := by
  refine h.ordered.imp_of_mem ?_
  intro url url' hUrl hUrl' hLess
  rw [List.idxOf_append_of_mem ((h.mem_iff url).mp hUrl).2,
    List.idxOf_append_of_mem ((h.mem_iff url').mp hUrl').2]
  exact hLess

/- A candidate that is empty or known is not added. -/
theorem IsListing.addUrl
    (h : IsListing candidates urls)
    (url : String) :
    IsListing (candidates ++ [url])
      (Workspace.addUrl urls url) := by
  unfold Workspace.addUrl
  split
  · next hSkip =>
      rw [Bool.or_eq_true, String.isEmpty_iff,
        List.contains_iff_mem] at hSkip
      refine ⟨?_, h.ordered_append [url]⟩
      intro other
      rw [h.mem_iff, List.mem_append, List.mem_singleton]
      constructor
      · exact fun hOther => ⟨hOther.1, .inl hOther.2⟩
      · rintro ⟨hSome, hOther | rfl⟩
        · exact ⟨hSome, hOther⟩
        · rcases hSkip with hEmpty | hKnown
          · exact absurd hEmpty hSome
          · exact (h.mem_iff other).mp hKnown
  · next hAdd =>
      rw [Bool.or_eq_true, String.isEmpty_iff,
        List.contains_iff_mem, not_or] at hAdd
      rcases hAdd with ⟨hSome, hNew⟩
      have hFirst : url ∉ candidates := fun hOld =>
        hNew ((h.mem_iff url).mpr ⟨hSome, hOld⟩)
      constructor
      · intro other
        rw [List.mem_append, h.mem_iff, List.mem_append,
          List.mem_singleton]
        constructor
        · rintro (⟨hOther, hOld⟩ | rfl)
          · exact ⟨hOther, .inl hOld⟩
          · exact ⟨hSome, .inr rfl⟩
        · rintro ⟨hOther, hOld | rfl⟩
          · exact .inl ⟨hOther, hOld⟩
          · exact .inr rfl
      · rw [List.pairwise_append]
        refine
          ⟨h.ordered_append [url],
            List.pairwise_singleton _ url, ?_⟩
        intro other hOther last hLast
        have hOld := ((h.mem_iff other).mp hOther).2
        rw [List.mem_singleton.mp hLast,
          List.idxOf_append_of_mem hOld,
          List.idxOf_append_of_notMem hFirst]
        have hBefore := List.idxOf_lt_length_of_mem hOld
        omega

/- Candidates that are added one by one are listed. -/
theorem IsListing.foldl
    (h : IsListing candidates urls)
    (more : List String) :
    IsListing (candidates ++ more)
      (more.foldl Workspace.addUrl urls) := by
  induction more generalizing candidates urls with
  | nil => rwa [List.append_nil]
  | cons url more ih =>
      have hRest := ih (h.addUrl url)
      rwa [List.append_assoc] at hRest

/- The first candidate is in front unless it is empty. -/
theorem IsListing.head?_eq
    {url : String}
    (h : IsListing (url :: candidates) urls)
    (hSome : url ≠ "") :
    urls.head? = some url := by
  have hMem : url ∈ urls :=
    (h.mem_iff url).mpr ⟨hSome, List.mem_cons_self⟩
  cases hUrls : urls with
  | nil =>
      rw [hUrls] at hMem
      exact absurd hMem List.not_mem_nil
  | cons first rest =>
      have hOrdered := h.ordered
      rw [hUrls] at hMem hOrdered
      rcases List.mem_cons.mp hMem with rfl | hBehind
      · rfl
      · have hLess :=
          (List.pairwise_cons.mp hOrdered).1 url hBehind
        rw [List.idxOf_cons_self] at hLess
        exact absurd hLess (Nat.not_lt_zero _)

end

variable (w : Workspace)

theorem isListing_allUrls :
    IsListing (w.mainUrl :: w.urls) w.allUrls :=
  (isListing_nil.addUrl w.mainUrl).foldl w.urls

------------------------------------------------------------
-- Tables
------------------------------------------------------------

/- The cells of a row before its URL. -/
def cells : List String :=
  [Table.fill 24 (Table.cut 24 w.name),
    Table.fill 16 (Table.cut 16 w.ownerName),
    Table.fill 20 (Table.cut 20 w.template),
    Table.fill 10 w.phase]

/-
  In every table of workspaces, the line of a workspace ends
  in this text. It stands behind two lines and the lines of
  the workspaces before.
-/
def ShowsUrl
    (url : String) : Prop :=
  ∀ before after, ∃ above below,
    (report (before ++ w :: after)).lines =
        above ++ (Table.line w.cells ++ "  " ++ url) :: below ∧
      above.length = before.length + 2

theorem row_eq :
    w.row =
      Table.line w.cells ++ "  " ++ w.allUrls.head?.getD "" := by
  have hShown : w.shownUrl = w.allUrls.head?.getD "" :=
    List.headD_eq_head?_getD
  rw [← hShown]
  rfl

/- A table has two lines above the lines of its rows. -/
theorem exists_lines_eq
    {ws : List Workspace}
    (hSome : ws ≠ []) :
    ∃ closing,
      (report ws).lines =
        [labels, Table.rule] ++ ws.map row ++ closing := by
  unfold report tableLines
  rw [if_neg (by simpa using hSome)]
  exact ⟨_, rfl⟩

/- The table shows the first URL, or nothing. -/
theorem showsUrl_head :
    w.ShowsUrl (w.allUrls.head?.getD "") := by
  intro before after
  have hSome : before ++ w :: after ≠ [] := by simp
  rcases exists_lines_eq hSome with ⟨closing, hLines⟩
  refine
    ⟨[labels, Table.rule] ++ before.map row,
      after.map row ++ closing, ?_, by simp⟩
  rw [hLines, ← row_eq, List.map_append, List.map_cons]
  simp only [List.append_assoc, List.cons_append]

------------------------------------------------------------
-- Filters
------------------------------------------------------------

section

variable {w}
variable {f : Filter}
variable {url : String}

/- A filter on the URL looks at all URLs of a workspace. -/
theorem keeps_url_iff
    (hKey : f.key = "url") :
    columns.Keeps f w ↔ f.Satisfied w.allUrls := by
  have hKnown : columns.Knows "url" := by decide
  have hValues : columns.values w "url" = w.allUrls := rfl
  unfold Columns.Keeps
  rw [hKey, hValues]
  exact forall_prop_of_true hKnown

/- A glob that matches the first URL finds the workspace. -/
theorem keeps_of_isMatch
    (hKey : f.key = "url")
    (hUrl : w.allUrls.head? = some url)
    (hMatch : f.pattern.isMatch url = true) :
    columns.Keeps f w ↔ f.operator = .equal := by
  have hMem : url ∈ w.allUrls := List.mem_of_head? hUrl
  rw [keeps_url_iff hKey, Filter.Satisfied]
  cases f.operator with
  | equal => exact iff_of_true ⟨url, hMem, hMatch⟩ rfl
  | notEqual =>
      refine iff_of_false ?_ (by decide)
      intro hNone
      rw [hNone url hMem] at hMatch
      cases hMatch

end

------------------------------------------------------------
-- The URLs of a workspace
------------------------------------------------------------

/-
  Which URLs a workspace lists, and that the table and the
  filters agree on the first of them.
-/
structure ListsUrls : Prop where
  nonempty : "" ∉ w.allUrls
  distinct : w.allUrls.Nodup
  mem_iff :
    ∀ url,
      url ∈ w.allUrls ↔
        url ≠ "" ∧ (url = w.mainUrl ∨ url ∈ w.urls)
  -- the order is that of the first occurrences
  ordered :
    w.allUrls.Pairwise fun url url' =>
      (w.mainUrl :: w.urls).idxOf url <
        (w.mainUrl :: w.urls).idxOf url'
  main :
    w.mainUrl ≠ "" → w.allUrls.head? = some w.mainUrl
  shown : w.ShowsUrl (w.allUrls.head?.getD "")
  -- what the table shows is found by a filter on the URL
  kept :
    ∀ url f rows,
      w.allUrls.head? = some url →
      f.key = "url" →
      f.operator = .equal →
      f.pattern.isMatch url = true →
        (columns.filterAll rows [f]).1.count w = rows.count w
  dropped :
    ∀ url f rows,
      w.allUrls.head? = some url →
      f.key = "url" →
      f.operator = .notEqual →
      f.pattern.isMatch url = true →
        w ∉ (columns.filterAll rows [f]).1

/- Every workspace lists its URLs. -/
theorem listsUrls :
    w.ListsUrls where
  nonempty := fun hEmpty =>
    ((w.isListing_allUrls.mem_iff "").mp hEmpty).1 rfl
  distinct := w.isListing_allUrls.nodup
  mem_iff := by
    intro url
    rw [w.isListing_allUrls.mem_iff, List.mem_cons]
  ordered := w.isListing_allUrls.ordered
  main := w.isListing_allUrls.head?_eq
  shown := w.showsUrl_head
  kept := by
    intro url f rows hUrl hKey hOperator hMatch
    have hKeeps : columns.Keeps f w :=
      (keeps_of_isMatch hKey hUrl hMatch).mpr hOperator
    rw [Columns.filterAll_rows]
    apply List.count_filter
    simpa using hKeeps
  dropped := by
    intro url f rows hUrl hKey hOperator hMatch hLeft
    have hKeeps : columns.Keeps f w :=
      (columns.mem_filterAll_iff.mp hLeft).2 f (by simp)
    rw [keeps_of_isMatch hKey hUrl hMatch, hOperator] at hKeeps
    cases hKeeps

end Workspace
end WorkspaceClient
