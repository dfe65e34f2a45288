import WorkspaceClient.Proofs.Text.Pieces
import WorkspaceClient.Proofs.Url.Percent
import WorkspaceClient.Url.Parser

/-
  This file shows that reading a path gives segments that
  are encoded, that are no dots, and that have no slash in
  them, and that a path of such segments is read as these.

  Key definitions include:
    * `Url.IsSegment`

  Main declarations:
    * `Url.isSegment_encode`
    * `Url.isSegment_of_mem_parsePath`
    * `Url.parsePath_flatMap`
-/

namespace WorkspaceClient
namespace Url

------------------------------------------------------------
-- Dots
------------------------------------------------------------

section

variable {segment : List Char}

theorem isSingleDot_iff :
    isSingleDot segment = true ↔
      String.ofList (segment.map Char.toLower) ∈
        [".", "%2e"] := by
  simp only [isSingleDot, Bool.or_eq_true, beq_iff_eq,
    List.mem_cons, List.not_mem_nil, or_false]

theorem isDoubleDot_iff :
    isDoubleDot segment = true ↔
      String.ofList (segment.map Char.toLower) ∈
        ["..", "%2e.", ".%2e", "%2e%2e"] := by
  simp only [isDoubleDot, Bool.or_eq_true, beq_iff_eq,
    List.mem_cons, List.not_mem_nil, or_false, or_assoc]

/- A segment that is encoded as dots is one of dots before. -/
theorem mem_of_mem_encode
    {dots : List String}
    (hDots : ∀ name ∈ dots, isGuarded name.toList = true)
    (h :
      String.ofList
          ((encode isPathChar segment).map Char.toLower) ∈
        dots) :
    String.ofList (segment.map Char.toLower) ∈ dots := by
  have hGuarded := hDots _ h
  rw [String.toList_ofList] at hGuarded
  rwa [lower_of_lower_encode (by decide) hGuarded rfl]

end

------------------------------------------------------------
-- Segments
------------------------------------------------------------

/- A segment as it stands in a URL that was read. -/
structure IsSegment
    (segment : List Char) : Prop where
  shown : ∀ c ∈ segment, isPathChar c = true
  slash : '/' ∉ segment
  backslash : '\\' ∉ segment
  single : isSingleDot segment = false
  double : isDoubleDot segment = false

theorem isSegment_nil :
    IsSegment [] where
  shown := fun _ h => absurd h List.not_mem_nil
  slash := List.not_mem_nil
  backslash := List.not_mem_nil
  single := by decide
  double := by decide

/- A segment without slashes that is no dots is encoded. -/
theorem isSegment_encode
    {segment : List Char}
    (hSlash : '/' ∉ segment)
    (hBackslash : '\\' ∉ segment)
    (hSingle : isSingleDot segment = false)
    (hDouble : isDoubleDot segment = false) :
    IsSegment (encode isPathChar segment) where
  shown := fun c h => shown_of_mem_encode (by decide) h
  slash := by
    intro h
    rcases mem_encode_cases h with hEscape | ⟨hMem, _⟩
    · exact absurd hEscape (by decide)
    · exact hSlash hMem
  backslash := by
    intro h
    rcases mem_encode_cases h with hEscape | ⟨hMem, _⟩
    · exact absurd hEscape (by decide)
    · exact hBackslash hMem
  single := by
    rw [Bool.eq_false_iff, ne_eq, isSingleDot_iff] at hSingle ⊢
    exact mt (mem_of_mem_encode (by decide)) hSingle
  double := by
    rw [Bool.eq_false_iff, ne_eq, isDoubleDot_iff] at hDouble ⊢
    exact mt (mem_of_mem_encode (by decide)) hDouble

------------------------------------------------------------
-- Reading
------------------------------------------------------------

/- Segments that were read stay as they are. -/
theorem resolveSegments_eq
    {segments : List (List Char)}
    (hSegments : ∀ s ∈ segments, IsSegment s)
    (done : List (List Char)) :
    resolveSegments done segments = done ++ segments := by
  fun_induction resolveSegments done segments with
  | case1 done => rw [List.append_nil]
  | case2 done last hDouble =>
      have hLast := hSegments last List.mem_cons_self
      rw [hLast.double] at hDouble
      cases hDouble
  | case3 done last _ hSingle =>
      have hLast := hSegments last List.mem_cons_self
      rw [hLast.single] at hSingle
      cases hSingle
  | case4 done last _ _ =>
      have hLast := hSegments last List.mem_cons_self
      rw [encode_of_shown hLast.shown]
  | case5 done segment rest _ hDouble =>
      have hSegment := hSegments segment List.mem_cons_self
      rw [hSegment.double] at hDouble
      cases hDouble
  | case6 done segment rest _ _ hSingle =>
      have hSegment := hSegments segment List.mem_cons_self
      rw [hSegment.single] at hSingle
      cases hSingle
  | case7 done segment rest _ _ _ ih =>
      rw [List.forall_mem_cons] at hSegments
      rw [ih hSegments.2,
        encode_of_shown hSegments.1.shown, List.append_assoc]
      rfl

/-
  What is read of segments without slashes are segments, and
  there is at least one.
-/
theorem isSegment_of_mem_resolveSegments
    {done segments : List (List Char)}
    (hSome : segments ≠ [])
    (hDone : ∀ s ∈ done, IsSegment s)
    (hSegments : ∀ s ∈ segments, '/' ∉ s ∧ '\\' ∉ s) :
    resolveSegments done segments ≠ [] ∧
      ∀ s ∈ resolveSegments done segments, IsSegment s := by
  have hMore :
      ∀ {front : List (List Char)} {s : List Char},
        (∀ s ∈ front, IsSegment s) →
        IsSegment s →
          ∀ t ∈ front ++ [s], IsSegment t := by
    intro front s hFront hLast t ht
    rw [List.mem_append, List.mem_singleton] at ht
    rcases ht with hOld | hNew
    · exact hFront t hOld
    · rw [hNew]
      exact hLast
  have hFewer :
      ∀ {front : List (List Char)},
        (∀ s ∈ front, IsSegment s) →
          ∀ s ∈ front.dropLast, IsSegment s :=
    fun hFront s hs =>
      hFront s ((List.dropLast_sublist _).subset hs)
  fun_induction resolveSegments done segments with
  | case1 done => exact absurd rfl hSome
  | case2 done last _ =>
      exact ⟨by simp, hMore (hFewer hDone) isSegment_nil⟩
  | case3 done last _ _ =>
      exact ⟨by simp, hMore hDone isSegment_nil⟩
  | case4 done last hDouble hSingle =>
      rcases hSegments last List.mem_cons_self with
        ⟨hSlash, hBackslash⟩
      rw [Bool.not_eq_true] at hDouble hSingle
      exact
        ⟨by simp,
          hMore hDone
            (isSegment_encode hSlash hBackslash hSingle
              hDouble)⟩
  | case5 done segment rest hRest _ ih =>
      exact
        ih (by simpa using hRest) (hFewer hDone)
          fun s hs => hSegments s (List.mem_cons_of_mem _ hs)
  | case6 done segment rest hRest _ _ ih =>
      exact
        ih (by simpa using hRest) hDone
          fun s hs => hSegments s (List.mem_cons_of_mem _ hs)
  | case7 done segment rest hRest hDouble hSingle ih =>
      rcases hSegments segment List.mem_cons_self with
        ⟨hSlash, hBackslash⟩
      rw [Bool.not_eq_true] at hDouble hSingle
      exact
        ih (by simpa using hRest)
          (hMore hDone
            (isSegment_encode hSlash hBackslash hSingle
              hDouble))
          fun s hs => hSegments s (List.mem_cons_of_mem _ hs)

/- No slash of either kind is left in a piece of a path. -/
theorem notMem_of_mem_splitPath
    {cs piece : List Char}
    (h : piece ∈ splitPath cs) :
    '/' ∉ piece ∧ '\\' ∉ piece := by
  refine ⟨Text.notMem_of_mem_splitOn h, ?_⟩
  intro hMem
  rcases List.mem_map.mp (Text.mem_of_mem_splitOn h hMem) with
    ⟨c, _, hChar⟩
  split at hChar
  · exact absurd hChar (by decide)
  · next hOther => exact hOther hChar

/- A path that was read has segments only. -/
theorem isSegment_of_mem_parsePath
    (cs : List Char) :
    parsePath cs ≠ [] ∧ ∀ s ∈ parsePath cs, IsSegment s :=
  isSegment_of_mem_resolveSegments
    (Text.splitOn_char_ne_nil _ _)
    (fun _ h => absurd h List.not_mem_nil)
    fun _ h => notMem_of_mem_splitPath h

/- A path of segments is read as these. -/
theorem parsePath_flatMap
    {segments : List (List Char)}
    (hSome : segments ≠ [])
    (hSegments : ∀ s ∈ segments, IsSegment s) :
    parsePath (segments.flatMap ('/' :: ·)) = segments := by
  have hSlashes :
      ∀ c ∈ ['/'].intercalate segments, c ≠ '\\' := by
    intro c hMem hSame
    rw [hSame] at hMem
    rcases Text.mem_intercalate hMem with
      hSlash | ⟨s, hs, hInside⟩
    · exact absurd hSlash (by decide)
    · exact (hSegments s hs).backslash hInside
  have hMap :
      ((['/'].intercalate segments).map
          fun c => if c = '\\' then '/' else c) =
        ['/'].intercalate segments := by
    refine (List.map_congr_left ?_).trans (List.map_id _)
    intro c hMem
    exact if_neg (hSlashes c hMem)
  unfold parsePath splitPath
  rw [Text.flatMap_cons_eq hSome, List.tail_cons, hMap,
    Text.splitOn_intercalate hSome fun s hs =>
      (hSegments s hs).slash,
    resolveSegments_eq hSegments, List.nil_append]

end Url
end WorkspaceClient
