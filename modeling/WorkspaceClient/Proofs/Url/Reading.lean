import WorkspaceClient.Proofs.Url.Authority
import WorkspaceClient.Proofs.Url.Path

/-
  This file shows that a URL that was read is normal in all
  of its parts, and that the text of a normal URL is read
  as this URL. So reading the text of a URL that was read
  changes nothing.

  Key definitions include:
    * `Url.IsNormal`
    * `Url.serverText`

  Main declarations:
    * `Url.isNormal_of_parse`
    * `Url.parseWeb_text`
    * `Url.parse_text`
-/

namespace WorkspaceClient
namespace Url

------------------------------------------------------------
-- Normal URLs
------------------------------------------------------------

/- A URL as it is after it was read. -/
structure IsNormal
    (u : Url) : Prop where
  username : ∀ c ∈ u.username, isUserChar c = true
  password : ∀ c ∈ u.password, isUserChar c = true
  host : u.host.IsNormal
  port : IsShownPort u.scheme.defaultPort u.port
  nonempty : u.segments ≠ []
  segments : ∀ s ∈ u.segments, IsSegment s
  query :
    ∀ q, u.query = some q → ∀ c ∈ q, isQueryChar c = true
  fragment :
    ∀ f, u.fragment = some f →
      ∀ c ∈ f, isFragmentChar c = true

/- What is read behind a scheme is normal. -/
theorem isNormal_of_parseWeb
    {scheme : Scheme}
    {cs : List Char}
    {u : Url}
    (h : parseWeb scheme cs = .ok u) :
    u.IsNormal := by
  unfold parseWeb at h
  rcases Result.ok_of_bind h with ⟨authority, hAuthority, h⟩
  dsimp only at h
  split at h
  · cases h
  · rcases Result.ok_of_bind h with ⟨host, hHost, h⟩
    rcases Result.ok_of_bind h with ⟨port, hPort, h⟩
    rcases shown_of_splitAuthority hAuthority with
      ⟨hUser, hPassword⟩
    cases h
    exact
      { username := hUser
        password := hPassword
        host := isNormal_of_parseHost hHost
        port := isShownPort_of_parsePort hPort
        nonempty := (isSegment_of_mem_parsePath _).1
        segments := (isSegment_of_mem_parsePath _).2
        query := fun _ hq =>
          shown_of_map_encode (by decide) hq
        fragment := fun _ hf =>
          shown_of_map_encode (by decide) hf }

/- A URL that was read is normal. -/
theorem isNormal_of_parse
    {s : String}
    {u : Url}
    (h : parse s = .ok u) :
    u.IsNormal := by
  unfold parse at h
  split at h
  · cases h
  · exact isNormal_of_parseWeb h
  · exact isNormal_of_parseWeb h
  · cases h

------------------------------------------------------------
-- Parts of the text
------------------------------------------------------------

section

variable {u : Url}

theorem queryText_eq
    (u : Url) :
    u.queryText = Text.marked '?' u.query := rfl

theorem fragmentText_eq
    (u : Url) :
    u.fragmentText = Text.marked '#' u.fragment := rfl

theorem mem_pathText_cases
    (h : u.IsNormal)
    {c : Char}
    (hMem : c ∈ u.pathText) :
    c = '/' ∨ isPathChar c = true := by
  rcases List.mem_flatMap.mp hMem with ⟨s, hs, hc⟩
  rcases List.mem_cons.mp hc with hSlash | hInside
  · exact .inl hSlash
  · exact .inr ((h.segments s hs).shown c hInside)

theorem mem_queryText_cases
    (h : u.IsNormal)
    {c : Char}
    (hMem : c ∈ u.queryText) :
    c = '?' ∨ isQueryChar c = true := by
  rw [queryText_eq] at hMem
  exact Text.mem_marked_cases h.query hMem

theorem mem_fragmentText_cases
    (h : u.IsNormal)
    {c : Char}
    (hMem : c ∈ u.fragmentText) :
    c = '#' ∨ isFragmentChar c = true := by
  rw [fragmentText_eq] at hMem
  exact Text.mem_marked_cases h.fragment hMem

/- The fragment is cut off at the first number sign. -/
theorem splitAtFirst_fragmentText
    (h : u.IsNormal) :
    Text.splitAtFirst (· == '#')
        (u.pathText ++ u.queryText ++ u.fragmentText) =
      (u.pathText ++ u.queryText, u.fragment) := by
  have hNone : '#' ∉ u.pathText ++ u.queryText := by
    intro hMem
    rcases List.mem_append.mp hMem with hPath | hQuery
    · exact absurd (mem_pathText_cases h hPath) (by decide)
    · exact absurd (mem_queryText_cases h hQuery) (by decide)
  rw [fragmentText_eq, Text.splitAtFirst_marked hNone]

/- The query is cut off at the first question mark. -/
theorem splitAtFirst_queryText
    (h : u.IsNormal) :
    Text.splitAtFirst (· == '?') (u.pathText ++ u.queryText) =
      (u.pathText, u.query) := by
  have hNone : '?' ∉ u.pathText := fun hMem =>
    absurd (mem_pathText_cases h hMem) (by decide)
  rw [queryText_eq, Text.splitAtFirst_marked hNone]

------------------------------------------------------------
-- Reading the text
------------------------------------------------------------

/- The user, the host and the port of a URL as text. -/
def serverText
    (u : Url) : List Char :=
  u.userText ++ (u.host.text ++ u.portText)

theorem clear_of_mem_serverText
    (h : u.IsNormal)
    {c : Char}
    (hMem : c ∈ u.serverText) :
    endsAuthority c = false ∧ 0x20 < c.toNat := by
  unfold serverText at hMem
  rw [List.mem_append, List.mem_append] at hMem
  rcases hMem with hUser | hHost | hPort
  · exact clear_of_mem_userText h.username h.password hUser
  · rcases isServerChar_iff.mp
        (Host.isServerChar_of_mem_text h.host hHost) with
      ⟨hEnd, _, hVisible⟩
    exact ⟨hEnd, hVisible⟩
  · rcases isServerChar_iff.mp
        (isServerChar_of_mem_portText hPort) with
      ⟨hEnd, _, hVisible⟩
    exact ⟨hEnd, hVisible⟩

theorem text_eq
    (u : Url) :
    u.text.toList =
      u.scheme.name.toList
        ++ ':' :: '/' :: '/' :: (u.serverText
          ++ (u.pathText ++ u.queryText ++ u.fragmentText)) := by
  unfold text serverText
  rw [String.toList_ofList]
  simp

/- A text of visible characters is clean. -/
theorem clean_of_visible
    {s : String}
    (hVisible : ∀ c ∈ s.toList, 0x20 < c.toNat) :
    clean s = s.toList := by
  have hMargins :
      ∀ {cs : List Char},
        (∀ c ∈ cs, 0x20 < c.toNat) →
          cs.dropWhile isMargin = cs := by
    intro cs hcs
    cases cs with
    | nil => rfl
    | cons c cs =>
        rw [List.dropWhile_cons_of_neg]
        have hFirst := hcs c List.mem_cons_self
        unfold isMargin
        rw [decide_eq_true_eq]
        omega
  have hReverse : ∀ c ∈ s.toList.reverse, 0x20 < c.toNat :=
    fun c hc => hVisible c (List.mem_reverse.mp hc)
  unfold clean
  rw [hMargins hVisible, hMargins hReverse,
    List.reverse_reverse, List.filter_eq_self]
  intro c hc
  have hChar := hVisible c hc
  simp only [Bool.and_eq_true, bne_iff_ne]
  refine ⟨⟨?_, ?_⟩, ?_⟩ <;>
  · rintro rfl
    exact absurd hChar (by decide)

/- The text of a normal URL is visible. -/
theorem visible_of_mem_text
    (h : u.IsNormal)
    {c : Char}
    (hMem : c ∈ u.text.toList) :
    0x20 < c.toNat := by
  rw [text_eq] at hMem
  simp only [List.mem_append, List.mem_cons] at hMem
  rcases hMem with hScheme | hSign | hSign | hSign | hServer |
    (hPath | hQuery) | hFragment
  · have hName :
        (u.scheme.name.toList.all fun c => 0x20 < c.toNat) =
          true := by
      cases u.scheme <;> decide
    exact decide_eq_true_iff.mp
      (List.all_eq_true.mp hName c hScheme)
  · rw [hSign]
    decide
  · rw [hSign]
    decide
  · rw [hSign]
    decide
  · exact (clear_of_mem_serverText h hServer).2
  · rcases mem_pathText_cases h hPath with hSign | hShown
    · rw [hSign]
      decide
    · exact visible_of_isPathChar hShown
  · rcases mem_queryText_cases h hQuery with hSign | hShown
    · rw [hSign]
      decide
    · exact visible_of_isQueryChar hShown
  · rcases mem_fragmentText_cases h hFragment with
      hSign | hShown
    · rw [hSign]
      decide
    · exact visible_of_isFragmentChar hShown

/- The slashes before a server are left out, and no more. -/
theorem dropWhile_serverText
    (h : u.IsNormal)
    (rest : List Char) :
    ('/' :: '/' :: (u.serverText ++ rest)).dropWhile isSlash =
      u.serverText ++ rest := by
  have hSome : u.serverText ≠ [] :=
    List.append_ne_nil_of_right_ne_nil _
      (List.append_ne_nil_of_left_ne_nil
        (Host.text_ne_nil h.host) _)
  rcases List.exists_cons_of_ne_nil hSome with ⟨c, cs, hText⟩
  have hMem : c ∈ u.serverText := by
    rw [hText]
    exact List.mem_cons_self
  have hEnd := (clear_of_mem_serverText h hMem).1
  unfold endsAuthority at hEnd
  simp only [Bool.or_eq_false_iff] at hEnd
  rw [List.dropWhile_cons_of_pos (by decide),
    List.dropWhile_cons_of_pos (by decide), hText,
    List.cons_append, List.dropWhile_cons_of_neg]
  rw [hEnd.1.1]
  exact Bool.false_ne_true

/- A server ends where the path starts. -/
theorem cut_serverText
    (h : u.IsNormal)
    (more : List Char) :
    (u.serverText ++ '/' :: more).takeWhile (!endsAuthority ·) =
        u.serverText ∧
      (u.serverText ++ '/' :: more).dropWhile
          (!endsAuthority ·) =
        '/' :: more := by
  have hServer :
      ∀ c ∈ u.serverText, (!endsAuthority c) = true := by
    intro c hc
    rw [(clear_of_mem_serverText h hc).1]
    rfl
  constructor
  · rw [List.takeWhile_append_of_pos hServer,
      List.takeWhile_cons_of_neg (by decide), List.append_nil]
  · rw [List.dropWhile_append_of_pos hServer,
      List.dropWhile_cons_of_neg (by decide)]

theorem exists_pathText
    (h : u.IsNormal) :
    ∃ more, u.pathText = '/' :: more := by
  rcases List.exists_cons_of_ne_nil h.nonempty with
    ⟨s, rest, hSegments⟩
  unfold pathText
  rw [hSegments]
  exact ⟨_, rfl⟩

/- What stands behind the scheme is read as the URL. -/
theorem parseWeb_text
    (h : u.IsNormal) :
    parseWeb u.scheme
        ('/' :: '/' :: (u.serverText
          ++ (u.pathText ++ u.queryText ++ u.fragmentText))) =
      .ok u := by
  have hCut :
      (u.serverText ++ (u.pathText ++ u.queryText
            ++ u.fragmentText)).takeWhile (!endsAuthority ·) =
          u.serverText ∧
        (u.serverText ++ (u.pathText ++ u.queryText
            ++ u.fragmentText)).dropWhile (!endsAuthority ·) =
          u.pathText ++ u.queryText ++ u.fragmentText := by
    rcases exists_pathText h with ⟨more, hPath⟩
    rw [hPath]
    exact cut_serverText h _
  have hHost : u.host.text.isEmpty = false :=
    List.isEmpty_eq_false_iff.mpr (Host.text_ne_nil h.host)
  unfold parseWeb
  rw [dropWhile_serverText h]
  dsimp only
  rw [hCut.1, hCut.2]
  unfold serverText
  rw [splitAuthority_text h.username h.password h.host]
  simp only [bind, Except.bind, hHost,
    Host.parseHost_text h.host, parsePort_text h.port,
    splitAtFirst_fragmentText h, splitAtFirst_queryText h]
  rw [if_neg Bool.false_ne_true, map_encode_of_shown h.query,
    map_encode_of_shown h.fragment]
  unfold pathText
  rw [parsePath_flatMap h.nonempty h.segments]
  rfl

/- The text of a normal URL is read as the URL. -/
theorem parse_text
    (h : u.IsNormal) :
    parse u.text = .ok u := by
  have hScheme :
      ∀ (scheme : Scheme) (rest : List Char),
        splitScheme? (scheme.name.toList ++ ':' :: rest) =
          some (scheme.name, rest) := by
    intro scheme rest
    cases scheme <;> rfl
  have hWeb := parseWeb_text h
  unfold parse
  rw [clean_of_visible fun c hc => visible_of_mem_text h hc,
    text_eq, hScheme]
  cases hName : u.scheme <;>
  · rw [hName] at hWeb
    exact hWeb

end

end Url
end WorkspaceClient
