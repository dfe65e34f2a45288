import WorkspaceClient.Proofs.Bytes.Base64
import WorkspaceClient.Credential

/-
  This file shows which pairs the cookie of a session has:
  one for every header whose first segment is a pair, in
  order, and no attribute. The token that stores a cookie
  is replayed as this cookie.

  Key definitions include:
    * `Credential.FirstSegment`
    * `Credential.Sets`
    * `Credential.SetsAll`

  Main declarations:
    * `Credential.setsAll_iff`
    * `Credential.sessionCookie_eq_some_iff`
    * `Credential.replay_encodeToken`
-/

namespace WorkspaceClient
namespace Text

------------------------------------------------------------
-- Characters of joined texts
------------------------------------------------------------

/- Joining adds no character but those of the separator. -/
theorem mem_join_imp
    {separator : String}
    {parts : List String}
    {c : Char}
    (h : c ∈ (join separator parts).toList) :
    c ∈ separator.toList ∨ ∃ part ∈ parts, c ∈ part.toList := by
  unfold join at h
  induction parts with
  | nil => simp at h
  | cons first rest ih =>
      cases rest with
      | nil =>
          rw [String.intercalate_singleton] at h
          exact .inr ⟨first, List.mem_cons_self, h⟩
      | cons second rest =>
          rw [String.intercalate_cons_cons,
            String.toList_append, String.toList_append,
            List.mem_append, List.mem_append] at h
          rcases h with (hFirst | hSeparator) | hRest
          · exact .inr ⟨first, List.mem_cons_self, hFirst⟩
          · exact .inl hSeparator
          · rcases ih hRest with
              hSeparator | ⟨part, hPart, hMem⟩
            · exact .inl hSeparator
            · exact
                .inr ⟨part, List.mem_cons_of_mem _ hPart, hMem⟩

/- Joining drops no character of the first part. -/
theorem mem_join_cons
    {first : String}
    {c : Char}
    (separator : String)
    (rest : List String)
    (h : c ∈ first.toList) :
    c ∈ (join separator (first :: rest)).toList := by
  unfold join
  cases rest with
  | nil => rwa [String.intercalate_singleton]
  | cons second rest =>
      rw [String.intercalate_cons_cons, String.toList_append,
        String.toList_append]
      exact List.mem_append_left _ (List.mem_append_left _ h)

end Text

namespace Credential

------------------------------------------------------------
-- Pairs
------------------------------------------------------------

/- What a header has before its first semicolon. -/
inductive FirstSegment
    (header : List Char) : List Char → Prop where
  | whole
      (hNone : ';' ∉ header) :
      FirstSegment header header
  | cut
      {segment rest : List Char}
      (hHeader : header = segment ++ ';' :: rest)
      (hNone : ';' ∉ segment) :
      FirstSegment header segment

/-
  A header sets a pair: the pair is its first segment
  without the blanks around it, and it has an equals sign
  that is not its first character.
-/
structure Sets
    (header pair : String) : Prop where
  segment :
    ∃ cs,
      FirstSegment header.toList cs ∧
        pair = Text.trim (String.ofList cs)
  equals : '=' ∈ pair.toList
  named : pair.toList.head? ≠ some '='

/-
  Several headers set several pairs: every header that sets
  a pair sets the next one.
-/
inductive SetsAll : List String → List String → Prop where
  | nil : SetsAll [] []
  | sets
      {header pair : String}
      {headers pairs : List String}
      (hPair : Sets header pair)
      (hRest : SetsAll headers pairs) :
      SetsAll (header :: headers) (pair :: pairs)
  | skips
      {header : String}
      {headers pairs : List String}
      (hNone : ∀ pair, ¬ Sets header pair)
      (hRest : SetsAll headers pairs) :
      SetsAll (header :: headers) pairs

theorem FirstSegment.semicolon_not_mem
    {header segment : List Char}
    (h : FirstSegment header segment) :
    ';' ∉ segment := by
  cases h <;> assumption

theorem firstSegment_iff
    {header segment : List Char} :
    FirstSegment header segment ↔
      header.takeWhile (· != ';') = segment := by
  constructor
  · intro h
    have hAll : ∀ c ∈ segment, (c != ';') = true := by
      intro c hc
      rw [bne_iff_ne]
      rintro rfl
      exact h.semicolon_not_mem hc
    have hFront :
        ∀ rest,
          (segment ++ rest).takeWhile (· != ';') =
            segment ++ rest.takeWhile (· != ';') :=
      fun _ => List.takeWhile_append_of_pos hAll
    cases h with
    | whole _ => simpa using hFront []
    | cut hHeader _ =>
        rw [hHeader, hFront,
          List.takeWhile_cons_of_neg (by simp),
          List.append_nil]
  · rintro rfl
    have hNone : ';' ∉ header.takeWhile (· != ';') := by
      intro hMem
      have hAll := List.all_eq_true.mp List.all_takeWhile _ hMem
      simp at hAll
    have hSplit :
        header.takeWhile (· != ';')
            ++ header.dropWhile (· != ';') =
          header :=
      List.takeWhile_append_dropWhile
    have hStop := List.head?_dropWhile_not (· != ';') header
    generalize header.dropWhile (· != ';') = behind
      at hSplit hStop
    cases behind with
    | nil =>
        rw [List.append_nil] at hSplit
        rw [hSplit] at hNone ⊢
        exact .whole hNone
    | cons c rest =>
        have hFirst : c = ';' := by simpa using hStop
        rw [hFirst] at hSplit
        exact .cut hSplit.symm hNone

theorem sets_iff
    {header pair : String} :
    Sets header pair ↔
      cookiePair header = pair ∧ isPair pair = true := by
  have hPair :
      isPair pair = true ↔
        '=' ∈ pair.toList ∧ pair.toList.head? ≠ some '=' := by
    simp [isPair]
  rw [hPair]
  constructor
  · rintro ⟨⟨cs, hSegment, rfl⟩, hEquals, hNamed⟩
    rw [firstSegment_iff] at hSegment
    rw [cookiePair, hSegment]
    exact ⟨rfl, hEquals, hNamed⟩
  · rintro ⟨rfl, hEquals, hNamed⟩
    exact ⟨⟨_, firstSegment_iff.mpr rfl, rfl⟩, hEquals, hNamed⟩

/- No attribute is part of a pair. -/
theorem Sets.semicolon_not_mem
    {header pair : String}
    (h : Sets header pair) :
    ';' ∉ pair.toList := by
  rcases h.segment with ⟨cs, hSegment, rfl⟩
  intro hMem
  have hInside := Text.mem_of_mem_trim hMem
  rw [String.toList_ofList] at hInside
  exact hSegment.semicolon_not_mem hInside

/- A pair is a part of its header. -/
theorem Sets.mem_header
    {header pair : String}
    {c : Char}
    (h : Sets header pair)
    (hMem : c ∈ pair.toList) :
    c ∈ header.toList := by
  rcases h.segment with ⟨cs, hSegment, rfl⟩
  have hInside := Text.mem_of_mem_trim hMem
  rw [String.toList_ofList] at hInside
  cases hSegment with
  | whole _ => exact hInside
  | cut hHeader _ =>
      rw [hHeader]
      exact List.mem_append_left _ hInside

/- Several headers set exactly the pairs that are kept. -/
theorem setsAll_iff
    {headers pairs : List String} :
    SetsAll headers pairs ↔ cookiePairs headers = pairs := by
  constructor
  · intro h
    induction h with
    | nil => rfl
    | sets hPair _ ih =>
        rw [sets_iff] at hPair
        rw [← ih]
        simp [cookiePairs, hPair.1, hPair.2]
    | @skips header _ _ hNone _ ih =>
        have hNot : isPair (cookiePair header) = false := by
          rw [Bool.eq_false_iff]
          intro hPair
          exact hNone _ (sets_iff.mpr ⟨rfl, hPair⟩)
        rw [← ih]
        simp [cookiePairs, hNot]
  · rintro rfl
    induction headers with
    | nil => exact .nil
    | cons header headers ih =>
        by_cases hPair : isPair (cookiePair header) = true
        · have hAll := ih.sets (sets_iff.mpr ⟨rfl, hPair⟩)
          simpa [cookiePairs, hPair] using hAll
        · have hAll :
              SetsAll (header :: headers)
                (cookiePairs headers) := by
            apply ih.skips
            intro pair hSets
            rw [sets_iff] at hSets
            rw [hSets.1] at hPair
            exact hPair hSets.2
          simpa [cookiePairs, hPair] using hAll

/- Every pair is set by one of the headers. -/
theorem SetsAll.exists_sets
    {headers pairs : List String}
    {pair : String}
    (h : SetsAll headers pairs)
    (hMem : pair ∈ pairs) :
    ∃ header ∈ headers, Sets header pair := by
  induction h with
  | nil => simp at hMem
  | @sets header _ _ _ hPair _ ih =>
      rcases List.mem_cons.mp hMem with rfl | hMem
      · exact ⟨header, List.mem_cons_self, hPair⟩
      · rcases ih hMem with ⟨other, hOther, hSets⟩
        exact ⟨other, List.mem_cons_of_mem _ hOther, hSets⟩
  | skips _ _ ih =>
      rcases ih hMem with ⟨other, hOther, hSets⟩
      exact ⟨other, List.mem_cons_of_mem _ hOther, hSets⟩

theorem SetsAll.semicolon_not_mem
    {headers pairs : List String}
    {pair : String}
    (h : SetsAll headers pairs)
    (hMem : pair ∈ pairs) :
    ';' ∉ pair.toList := by
  rcases h.exists_sets hMem with ⟨header, _, hSets⟩
  exact hSets.semicolon_not_mem

------------------------------------------------------------
-- Cookies
------------------------------------------------------------

theorem sessionCookie_eq_some_iff
    {headers : List String}
    {cookie : String} :
    sessionCookie headers = some cookie ↔
      ∃ pairs,
        SetsAll headers pairs ∧
          pairs ≠ [] ∧
          cookie = Text.join "; " pairs := by
  unfold sessionCookie
  constructor
  · intro hCookie
    rcases hPairs : cookiePairs headers with _ | ⟨pair, rest⟩
    · rw [hPairs] at hCookie
      cases hCookie
    · rw [hPairs] at hCookie
      cases hCookie
      exact ⟨_, setsAll_iff.mpr hPairs, by simp, rfl⟩
  · rintro ⟨pairs, hAll, hSome, rfl⟩
    rw [setsAll_iff.mp hAll]
    cases pairs with
    | nil => exact absurd rfl hSome
    | cons first rest => rfl

/- A cookie of pairs is not empty. -/
theorem SetsAll.cookie_ne_empty
    {headers pairs : List String}
    (h : SetsAll headers pairs)
    (hSome : pairs ≠ []) :
    Text.join "; " pairs ≠ "" := by
  cases pairs with
  | nil => exact absurd rfl hSome
  | cons pair rest =>
      rcases h.exists_sets List.mem_cons_self with
        ⟨header, _, hSets⟩
      have hMem := Text.mem_join_cons "; " rest hSets.equals
      intro hEmpty
      rw [hEmpty] at hMem
      simp at hMem

/- A character of a cookie is one of a header or a separator. -/
theorem SetsAll.mem_cookie
    {headers pairs : List String}
    {c : Char}
    (h : SetsAll headers pairs)
    (hMem : c ∈ (Text.join "; " pairs).toList) :
    c ∈ "; ".toList ∨ ∃ header ∈ headers, c ∈ header.toList := by
  rcases Text.mem_join_imp hMem with
    hSeparator | ⟨pair, hPair, hInside⟩
  · exact .inl hSeparator
  · rcases h.exists_sets hPair with ⟨header, hHeader, hSets⟩
    exact .inr ⟨header, hHeader, hSets.mem_header hInside⟩

------------------------------------------------------------
-- Tokens
------------------------------------------------------------

/- The token of a cookie is replayed as the cookie. -/
theorem replay_encodeToken
    (cookie : String) :
    replay (encodeToken cookie) = .ok cookie := by
  unfold replay decodeToken encodeToken
  rw [Base64.decode_encode]
  simp only [Bytes.toText?_ofText]

/- What is replayed is what the token stores. -/
theorem ok_of_replay
    {token cookie : String}
    (h : replay token = .ok cookie) :
    decodeToken token = .ok cookie := by
  unfold replay at h
  split at h
  · next hDecode =>
      cases h
      exact hDecode
  · cases h

theorem encodeToken_eq_empty_iff
    (cookie : String) :
    encodeToken cookie = "" ↔ cookie = "" := by
  unfold encodeToken
  rw [Base64.encode_eq_empty_iff]
  constructor
  · intro hEmpty
    have hRead := Bytes.toText?_ofText cookie
    rw [hEmpty] at hRead
    cases hRead
    rfl
  · rintro rfl
    rfl

end Credential
end WorkspaceClient
