import Mathlib.Data.List.TakeWhile
import WorkspaceClient.Proofs.Json.Texts

/-
  This file shows that a value which is written over several
  lines is read back, if it has no numbers and all its texts
  are known.

  Key definitions include:
    * `Json.isTextual`
    * `Json.ReadsBack`

  Main declarations:
    * `Json.readsBack`
    * `Json.parse_pretty_append`
-/

namespace WorkspaceClient
namespace Json

open Bytes (ofChars)

------------------------------------------------------------
-- Textual values
------------------------------------------------------------

mutual

/- Whether a value has no numbers and only known texts. -/
def isTextual : Json → Bool
  | null => true
  | bool _ => true
  | number _ => false
  | text s => s.isSome
  | array items => textualItems items
  | object members => textualMembers members
  | broken => false

/- Whether all items are textual. -/
def textualItems : List Json → Bool
  | [] => true
  | v :: vs => isTextual v && textualItems vs

/- Whether all members and their names are textual. -/
def textualMembers : List (Option String × Json) → Bool
  | [] => true
  | (k, v) :: ms =>
      k.isSome && isTextual v && textualMembers ms

end

theorem textualItems_iff
    {vs : List Json} :
    textualItems vs = true ↔ ∀ v ∈ vs, isTextual v = true := by
  induction vs with
  | nil => simp [textualItems]
  | cons v vs ih => simp [textualItems, ih]

theorem ofTexts_isTextual
    (ss : List String) :
    (ofTexts ss).isTextual = true := by
  refine textualItems_iff.mpr ?_
  rw [List.forall_mem_map]
  intro s _
  rfl

------------------------------------------------------------
-- Blanks
------------------------------------------------------------

/- Blank bytes in front are skipped. -/
theorem skipBlanks_append
    {blanks : Bytes}
    (bs : Bytes)
    (hBlanks : ∀ b ∈ blanks, isBlankByte b = true) :
    skipBlanks (blanks ++ bs) = skipBlanks bs := by
  unfold skipBlanks
  rw [List.dropWhile_append_of_pos hBlanks]

/- Nothing is left of blank bytes only. -/
theorem skipBlanks_isEmpty_iff
    (bs : Bytes) :
    (skipBlanks bs).isEmpty = true ↔
      ∀ b ∈ bs, isBlankByte b = true := by
  rw [List.isEmpty_iff, skipBlanks, List.dropWhile_eq_nil_iff]

theorem isBlankByte_of_mem_singleton
    {b : UInt8}
    (hByte : isBlankByte b = true) :
    ∀ c ∈ [b], isBlankByte c = true := by
  intro c hc
  rw [List.mem_singleton.mp hc]
  exact hByte

/- Nothing is skipped before a byte that is not blank. -/
theorem skipBlanks_cons
    {b : UInt8}
    (bs : Bytes)
    (hByte : isBlankByte b = false) :
    skipBlanks (b :: bs) = b :: bs := by
  unfold skipBlanks
  rw [List.dropWhile_cons_of_neg (by simp [hByte])]

theorem skipBlanks_skipBlanks
    (bs : Bytes) :
    skipBlanks (skipBlanks bs) = skipBlanks bs := by
  induction bs with
  | nil => rfl
  | cons b bs ih =>
      by_cases hByte : isBlankByte b = true
      · have hSkip : skipBlanks (b :: bs) = skipBlanks bs := by
          unfold skipBlanks
          rw [List.dropWhile_cons_of_pos hByte]
        rw [hSkip, ih]
      · rw [Bool.not_eq_true] at hByte
        rw [skipBlanks_cons bs hByte,
          skipBlanks_cons bs hByte]

/- The start of a line is blank. -/
theorem isBlankByte_of_mem_newLine
    (level : Nat) :
    ∀ b ∈ ofChars (newLine level), isBlankByte b = true := by
  intro b hb
  unfold newLine at hb
  rw [Bytes.ofChars_ascii (by decide), List.mem_cons] at hb
  rcases hb with rfl | hb
  · decide
  · have hSpaces :
        ∀ n,
          ofChars (List.replicate n ' ') =
            List.replicate n 0x20 := by
      intro n
      induction n with
      | zero => rfl
      | succ n ih =>
          rw [List.replicate_succ,
            Bytes.ofChars_ascii (by decide), ih]
          rfl
    rw [hSpaces] at hb
    rw [List.eq_of_mem_replicate hb]
    decide

theorem skipBlanks_newLine
    (level : Nat)
    (bs : Bytes) :
    skipBlanks (ofChars (newLine level) ++ bs) =
      skipBlanks bs :=
  skipBlanks_append bs (isBlankByte_of_mem_newLine level)

/- A value is read after the blanks before it. -/
theorem parseValue_skipBlanks
    (fuel : Nat)
    (bs : Bytes) :
    parseValue fuel (skipBlanks bs) = parseValue fuel bs := by
  cases fuel with
  | zero => rfl
  | succ fuel =>
      rw [parseValue, parseValue, skipBlanks_skipBlanks]

theorem parseItems_skipBlanks
    (fuel : Nat)
    (bs : Bytes) :
    parseItems fuel (skipBlanks bs) = parseItems fuel bs := by
  cases fuel with
  | zero => rfl
  | succ fuel =>
      rw [parseItems, parseItems, parseValue_skipBlanks]

theorem parseMembers_skipBlanks
    (fuel : Nat)
    (bs : Bytes) :
    parseMembers fuel (skipBlanks bs) =
      parseMembers fuel bs := by
  cases fuel with
  | zero => rfl
  | succ fuel =>
      rw [parseMembers, parseMembers, skipBlanks_skipBlanks]

/- Values and members may start on a new line. -/
theorem parseValue_newLine
    (fuel level : Nat)
    (bs : Bytes) :
    parseValue fuel (ofChars (newLine level) ++ bs) =
      parseValue fuel bs := by
  rw [← parseValue_skipBlanks, skipBlanks_newLine,
    parseValue_skipBlanks]

theorem parseMembers_newLine
    (fuel level : Nat)
    (bs : Bytes) :
    parseMembers fuel (ofChars (newLine level) ++ bs) =
      parseMembers fuel bs := by
  rw [← parseMembers_skipBlanks, skipBlanks_newLine,
    parseMembers_skipBlanks]

/- A value may follow a space. -/
theorem parseValue_space
    (fuel : Nat)
    (bs : Bytes) :
    parseValue fuel (0x20 :: bs) = parseValue fuel bs := by
  have hSkip : skipBlanks (0x20 :: bs) = skipBlanks bs :=
    skipBlanks_append bs (isBlankByte_of_mem_singleton rfl)
  rw [← parseValue_skipBlanks, hSkip, parseValue_skipBlanks]

------------------------------------------------------------
-- Steps of the reader
------------------------------------------------------------

/- No value starts with the end of an array. -/
theorem parseItems_closing
    (fuel : Nat)
    (rest : Bytes) :
    parseItems fuel (0x5D :: rest) = ([.broken], none) := by
  cases fuel with
  | zero => rfl
  | succ fuel =>
      have hValue :
          parseValue fuel (0x5D :: rest) = (.broken, none) := by
        cases fuel with
        | zero => rfl
        | succ fuel => rfl
      rw [parseItems, hValue]

/- No member starts with the end of an object. -/
theorem parseMembers_closing
    (fuel : Nat)
    (rest : Bytes) :
    parseMembers fuel (0x7D :: rest) =
      ([(none, .broken)], none) := by
  cases fuel with
  | zero => rfl
  | succ fuel => rfl

theorem parseValue_text
    {fuel : Nat}
    {bs inside rest : Bytes}
    {s : Option String}
    (hStart : skipBlanks bs = 0x22 :: inside)
    (hText : parseText inside = some (s, rest)) :
    parseValue (fuel + 1) bs = (.text s, some rest) := by
  rw [parseValue, hStart]
  simp only
  rw [if_pos trivial, hText]

/- An array is read once its items are. -/
theorem parseValue_array
    {fuel : Nat}
    {bs inside rest : Bytes}
    {items : List Json}
    (hStart : skipBlanks bs = 0x5B :: inside)
    (hItems : parseItems fuel inside = (items, some rest)) :
    parseValue (fuel + 1) bs = (.array items, some rest) := by
  rw [← parseItems_skipBlanks] at hItems
  rw [parseValue, hStart]
  simp only
  rw [if_neg (by decide), if_pos (by decide)]
  split
  · next after hEnd =>
      rw [hEnd, parseItems_closing] at hItems
      simp at hItems
  · rw [hItems]

/- An object is read once its members are. -/
theorem parseValue_object
    {fuel : Nat}
    {bs inside rest : Bytes}
    {members : List (Option String × Json)}
    (hStart : skipBlanks bs = 0x7B :: inside)
    (hMembers :
      parseMembers fuel inside = (members, some rest)) :
    parseValue (fuel + 1) bs =
      (.object members, some rest) := by
  rw [← parseMembers_skipBlanks] at hMembers
  rw [parseValue, hStart]
  simp only
  rw [if_neg (by decide), if_neg (by decide),
    if_pos (by decide)]
  split
  · next after hEnd =>
      rw [hEnd, parseMembers_closing] at hMembers
      simp at hMembers
  · rw [hMembers]

theorem parseItems_last
    {fuel : Nat}
    {bs after rest : Bytes}
    {v : Json}
    (hValue : parseValue fuel bs = (v, some after))
    (hEnd : skipBlanks after = 0x5D :: rest) :
    parseItems (fuel + 1) bs = ([v], some rest) := by
  rw [parseItems, hValue]
  simp only
  rw [hEnd]
  rfl

theorem parseItems_more
    {fuel : Nat}
    {bs after others rest : Bytes}
    {v : Json}
    {vs : List Json}
    (hValue : parseValue fuel bs = (v, some after))
    (hComma : skipBlanks after = 0x2C :: others)
    (hItems : parseItems fuel others = (vs, some rest)) :
    parseItems (fuel + 1) bs = (v :: vs, some rest) := by
  rw [parseItems, hValue]
  simp only
  rw [hComma]
  change ((v :: (parseItems fuel others).1), _) = _
  rw [hItems]

theorem parseMembers_last
    {fuel : Nat}
    {bs inside afterName value after rest : Bytes}
    {k : Option String}
    {v : Json}
    (hStart : skipBlanks bs = 0x22 :: inside)
    (hName : parseText inside = some (k, afterName))
    (hColon : skipBlanks afterName = 0x3A :: value)
    (hValue : parseValue fuel value = (v, some after))
    (hEnd : skipBlanks after = 0x7D :: rest) :
    parseMembers (fuel + 1) bs = ([(k, v)], some rest) := by
  rw [parseMembers, hStart]
  simp only
  rw [hName]
  simp only
  rw [hColon]
  simp only
  rw [hValue]
  simp only
  rw [hEnd]
  rfl

theorem parseMembers_more
    {fuel : Nat}
    {bs inside afterName value after others rest : Bytes}
    {k : Option String}
    {v : Json}
    {ms : List (Option String × Json)}
    (hStart : skipBlanks bs = 0x22 :: inside)
    (hName : parseText inside = some (k, afterName))
    (hColon : skipBlanks afterName = 0x3A :: value)
    (hValue : parseValue fuel value = (v, some after))
    (hComma : skipBlanks after = 0x2C :: others)
    (hMembers : parseMembers fuel others = (ms, some rest)) :
    parseMembers (fuel + 1) bs =
      ((k, v) :: ms, some rest) := by
  rw [parseMembers, hStart]
  simp only
  rw [hName]
  simp only
  rw [hColon]
  simp only
  rw [hValue]
  simp only
  rw [hComma]
  simp only
  rw [hMembers]

------------------------------------------------------------
-- Written values
------------------------------------------------------------

/- A written text is read back. -/
theorem parseValue_quote
    (fuel : Nat)
    (s : String)
    (rest : Bytes) :
    parseValue (fuel + 1) (ofChars (quote s) ++ rest) =
      (.text (some s), some rest) := by
  rw [ofChars_quote, List.cons_append, List.append_assoc]
  exact parseValue_text (skipBlanks_cons _ (by decide))
    (parseText_quote s rest)

/- The name of a member is read up to its colon. -/
theorem parseText_name
    (s : String)
    (cs : List Char)
    (rest : Bytes) :
    ∃ bs,
      ofChars (quote s ++ ':' :: ' ' :: cs) ++ rest =
        0x22 :: bs ∧
      parseText bs =
        some (some s, 0x3A :: 0x20 :: (ofChars cs ++ rest)) := by
  refine ⟨ofChars (s.toList.flatMap quoteChar) ++ 0x22 ::
    0x3A :: 0x20 :: (ofChars cs ++ rest), ?_,
    parseText_quote s _⟩
  rw [Bytes.ofChars_append, ofChars_quote,
    Bytes.ofChars_ascii (by decide),
    Bytes.ofChars_ascii (by decide)]
  simp only [List.cons_append, List.append_assoc,
    List.nil_append]
  rfl

/- A new line takes a step of the reader. -/
theorem length_newLine
    (level : Nat) :
    0 < (newLine level).length := by
  simp [newLine]

/- Characters between brackets, as bytes. -/
theorem ofChars_bracketed
    {first last : Char}
    (hFirst : first.toNat < 0x80)
    (hLast : last.toNat < 0x80)
    (inside line : List Char)
    (rest : Bytes) :
    ofChars (first :: inside ++ line ++ [last]) ++ rest =
      UInt8.ofNat first.toNat ::
        (ofChars inside
          ++ (ofChars line
            ++ UInt8.ofNat last.toNat :: rest)) := by
  simp only [List.cons_append, List.append_assoc]
  rw [Bytes.ofChars_ascii hFirst, Bytes.ofChars_append,
    Bytes.ofChars_append, Bytes.ofChars_ascii hLast]
  simp only [List.cons_append, List.append_assoc,
    Bytes.ofChars_nil, List.nil_append]

/- Characters before a comma and others, as bytes. -/
theorem ofChars_comma
    (before after : List Char)
    (rest : Bytes) :
    ofChars (before ++ ',' :: after) ++ rest =
      ofChars before ++ 0x2C :: (ofChars after ++ rest) := by
  rw [Bytes.ofChars_append, Bytes.ofChars_ascii (by decide),
    List.append_assoc, List.cons_append]
  rfl

/-
  A value reads back at a level of nesting: nothing after it
  is touched, given fuel for every character.
-/
def ReadsBack
    (level : Nat)
    (v : Json) : Prop :=
  ∀ fuel rest,
    (prettyChars level v).length ≤ fuel →
    parseValue fuel (ofChars (prettyChars level v) ++ rest) =
      (v, some rest)

/- Items read back up to the end of their array. -/
def ItemsReadBack
    (level : Nat)
    (vs : List Json) : Prop :=
  ∀ level' fuel rest,
    (prettyItems level vs).length ≤ fuel →
    parseItems fuel
        (ofChars (prettyItems level vs)
          ++ (ofChars (newLine level') ++ 0x5D :: rest)) =
      (vs, some rest)

/- Members read back up to the end of their object. -/
def MembersReadBack
    (level : Nat)
    (ms : List (Option String × Json)) : Prop :=
  ∀ level' fuel rest,
    (prettyMembers level ms).length ≤ fuel →
    parseMembers fuel
        (ofChars (prettyMembers level ms)
          ++ (ofChars (newLine level') ++ 0x7D :: rest)) =
      (ms, some rest)

/- A value of one character or more reads back if so. -/
theorem ReadsBack.of_succ
    {level : Nat}
    {v : Json}
    (hLength : 0 < (prettyChars level v).length)
    (hRead :
      ∀ fuel rest,
        (prettyChars level v).length ≤ fuel + 1 →
        parseValue (fuel + 1)
            (ofChars (prettyChars level v) ++ rest) =
          (v, some rest)) :
    ReadsBack level v := by
  intro fuel rest hFuel
  cases fuel with
  | zero => omega
  | succ fuel => exact hRead fuel rest hFuel

theorem readsBack_text
    (level : Nat)
    (s : String) :
    ReadsBack level (.text (some s)) := by
  refine ReadsBack.of_succ (by exact Nat.succ_pos _) ?_
  intro fuel rest _
  exact parseValue_quote fuel s rest

theorem readsBack_array
    {level : Nat}
    {v : Json}
    {vs : List Json}
    (hItems : ItemsReadBack (level + 1) (v :: vs)) :
    ReadsBack level (.array (v :: vs)) := by
  refine ReadsBack.of_succ (by exact Nat.succ_pos _) ?_
  intro fuel rest hFuel
  rw [prettyChars] at hFuel ⊢
  simp only [List.length_append, List.length_cons] at hFuel
  rw [ofChars_bracketed (by decide) (by decide)]
  exact parseValue_array (skipBlanks_cons _ (by decide))
    (hItems level fuel rest (by omega))

theorem readsBack_object
    {level : Nat}
    {m : Option String × Json}
    {ms : List (Option String × Json)}
    (hMembers : MembersReadBack (level + 1) (m :: ms)) :
    ReadsBack level (.object (m :: ms)) := by
  refine ReadsBack.of_succ (by exact Nat.succ_pos _) ?_
  intro fuel rest hFuel
  rw [prettyChars] at hFuel ⊢
  simp only [List.length_append, List.length_cons] at hFuel
  rw [ofChars_bracketed (by decide) (by decide)]
  exact parseValue_object (skipBlanks_cons _ (by decide))
    (hMembers level fuel rest (by omega))

/- A value on a new line reads back. -/
theorem ReadsBack.onLine
    {level : Nat}
    {v : Json}
    (hValue : ReadsBack level v)
    (fuel : Nat)
    (rest : Bytes)
    (hFuel :
      (newLine level ++ prettyChars level v).length ≤
        fuel + 1) :
    parseValue fuel
        (ofChars (newLine level ++ prettyChars level v)
          ++ rest) =
      (v, some rest) := by
  have hLine := length_newLine level
  rw [List.length_append] at hFuel
  rw [Bytes.ofChars_append, List.append_assoc,
    parseValue_newLine]
  exact hValue fuel rest (by omega)

theorem itemsReadBack_one
    {level : Nat}
    {v : Json}
    (hValue : ReadsBack level v) :
    ItemsReadBack level [v] := by
  intro level' fuel rest hFuel
  rw [prettyItems] at hFuel ⊢
  cases fuel with
  | zero => simp [newLine] at hFuel
  | succ fuel =>
      exact parseItems_last
        (hValue.onLine fuel
          (ofChars (newLine level') ++ 0x5D :: rest) hFuel)
        (skipBlanks_newLine level' (0x5D :: rest))

theorem itemsReadBack_cons
    {level : Nat}
    {v w : Json}
    {vs : List Json}
    (hValue : ReadsBack level v)
    (hItems : ItemsReadBack level (w :: vs)) :
    ItemsReadBack level (v :: w :: vs) := by
  intro level' fuel rest hFuel
  rw [prettyItems] at hFuel ⊢
  cases fuel with
  | zero => simp [newLine] at hFuel
  | succ fuel =>
      have hLine := length_newLine level
      rw [List.length_append, List.length_cons] at hFuel
      rw [ofChars_comma]
      have hOthers := hItems level' fuel rest (by omega)
      exact parseItems_more
        (hValue.onLine fuel _ (by omega))
        (skipBlanks_cons _ (by decide)) hOthers

/- A member on a new line reads back up to what follows. -/
theorem ReadsBack.afterName
    {level : Nat}
    {v : Json}
    (hValue : ReadsBack level v)
    (k : String)
    (fuel : Nat)
    (rest : Bytes)
    (hFuel :
      (newLine level ++ quote k
        ++ ':' :: ' ' :: prettyChars level v).length ≤
        fuel + 1) :
    ∃ bs value,
      ofChars (newLine level ++ quote k
          ++ ':' :: ' ' :: prettyChars level v) ++ rest =
        ofChars (newLine level) ++ 0x22 :: bs ∧
      parseText bs = some (some k, 0x3A :: value) ∧
      parseValue fuel value = (v, some rest) := by
  rcases parseText_name k (prettyChars level v) rest with
    ⟨bs, hBytes, hText⟩
  simp only [List.length_append, List.length_cons] at hFuel
  refine ⟨bs, _, ?_, hText, ?_⟩
  · rw [List.append_assoc, Bytes.ofChars_append,
      List.append_assoc, hBytes]
  · rw [parseValue_space]
    exact hValue fuel rest (by omega)

theorem membersReadBack_one
    {level : Nat}
    {k : String}
    {v : Json}
    (hValue : ReadsBack level v) :
    MembersReadBack level [(some k, v)] := by
  intro level' fuel rest hFuel
  rw [prettyMembers, Option.getD_some] at hFuel ⊢
  cases fuel with
  | zero => simp [newLine] at hFuel
  | succ fuel =>
      rcases hValue.afterName k fuel
          (ofChars (newLine level') ++ 0x7D :: rest) hFuel with
        ⟨bs, value, hBytes, hName, hRead⟩
      rw [hBytes, parseMembers_newLine]
      exact parseMembers_last (skipBlanks_cons _ (by decide))
        hName (skipBlanks_cons _ (by decide)) hRead
        (skipBlanks_newLine level' (0x7D :: rest))

theorem membersReadBack_cons
    {level : Nat}
    {k : String}
    {v : Json}
    {m : Option String × Json}
    {ms : List (Option String × Json)}
    (hValue : ReadsBack level v)
    (hMembers : MembersReadBack level (m :: ms)) :
    MembersReadBack level ((some k, v) :: m :: ms) := by
  intro level' fuel rest hFuel
  rw [prettyMembers, Option.getD_some] at hFuel ⊢
  cases fuel with
  | zero => simp [newLine] at hFuel
  | succ fuel =>
      have hLine := length_newLine level
      have hSplit :
          newLine level ++ quote k
              ++ ':' :: ' ' :: prettyChars level v
              ++ ',' :: prettyMembers level (m :: ms) =
            (newLine level ++ quote k
              ++ ':' :: ' ' :: prettyChars level v)
              ++ ',' :: prettyMembers level (m :: ms) := by
        simp only [List.append_assoc, List.cons_append]
      rw [hSplit, List.length_append, List.length_cons]
        at hFuel
      rw [hSplit, ofChars_comma]
      have hOthers := hMembers level' fuel rest (by omega)
      rcases hValue.afterName k fuel
          (0x2C :: (ofChars (prettyMembers level (m :: ms))
            ++ (ofChars (newLine level') ++ 0x7D :: rest)))
          (by omega) with
        ⟨bs, value, hBytes, hName, hRead⟩
      rw [hBytes, parseMembers_newLine]
      exact parseMembers_more (skipBlanks_cons _ (by decide))
        hName (skipBlanks_cons _ (by decide)) hRead
        (skipBlanks_cons _ (by decide)) hOthers

mutual

/- Every textual value reads back. -/
theorem readsBack
    (level : Nat) :
    ∀ v, isTextual v = true → ReadsBack level v
  | .null, _ =>
      ReadsBack.of_succ (Nat.succ_pos _) fun _ _ _ => rfl
  | .bool true, _ =>
      ReadsBack.of_succ (Nat.succ_pos _) fun _ _ _ => rfl
  | .bool false, _ =>
      ReadsBack.of_succ (Nat.succ_pos _) fun _ _ _ => rfl
  | .text (some s), _ => readsBack_text level s
  | .array [], _ =>
      ReadsBack.of_succ (Nat.succ_pos _) fun _ _ _ => rfl
  | .array (v :: vs), hTextual =>
      readsBack_array
        (itemsReadBack (level + 1) (v :: vs)
          (List.cons_ne_nil v vs) hTextual)
  | .object [], _ =>
      ReadsBack.of_succ (Nat.succ_pos _) fun _ _ _ => rfl
  | .object (m :: ms), hTextual =>
      readsBack_object
        (membersReadBack (level + 1) (m :: ms)
          (List.cons_ne_nil m ms) hTextual)

/- Textual items read back. -/
theorem itemsReadBack
    (level : Nat) :
    ∀ vs,
      vs ≠ [] → textualItems vs = true →
      ItemsReadBack level vs
  | [v], _, hTextual => by
      rw [textualItems, Bool.and_eq_true] at hTextual
      exact itemsReadBack_one (readsBack level v hTextual.1)
  | v :: w :: vs, _, hTextual => by
      rw [textualItems, Bool.and_eq_true] at hTextual
      exact itemsReadBack_cons (readsBack level v hTextual.1)
        (itemsReadBack level (w :: vs)
          (List.cons_ne_nil w vs) hTextual.2)

/- Textual members read back. -/
theorem membersReadBack
    (level : Nat) :
    ∀ ms,
      ms ≠ [] → textualMembers ms = true →
      MembersReadBack level ms
  | [(some k, v)], _, hTextual => by
      rw [textualMembers, Bool.and_eq_true,
        Bool.and_eq_true] at hTextual
      exact membersReadBack_one
        (readsBack level v hTextual.1.2)
  | (some k, v) :: m :: ms, _, hTextual => by
      rw [textualMembers, Bool.and_eq_true,
        Bool.and_eq_true] at hTextual
      exact membersReadBack_cons
        (readsBack level v hTextual.1.2)
        (membersReadBack level (m :: ms)
          (List.cons_ne_nil m ms) hTextual.2)

end

------------------------------------------------------------
-- Documents
------------------------------------------------------------

/- A character is at least one byte. -/
theorem length_le_length_ofChars
    (cs : List Char) :
    cs.length ≤ (ofChars cs).length := by
  induction cs with
  | nil => exact Nat.le_refl 0
  | cons c cs ih =>
      have hChar : 0 < (String.utf8EncodeChar c).length := by
        rw [String.length_utf8EncodeChar]
        exact Char.utf8Size_pos c
      rw [Bytes.ofChars_cons, List.length_append,
        List.length_cons]
      omega

/-
  A written value is read back whatever follows it. The
  document is closed if that is nothing but blanks.
-/
theorem parse_pretty_append
    (v : Json)
    (rest : Bytes)
    (hTextual : isTextual v = true) :
    parse (Bytes.ofText v.pretty ++ rest) =
      { value := v
        closed := (skipBlanks rest).isEmpty } := by
  have hFuel :
      (prettyChars 0 v).length ≤
        2 * (ofChars (prettyChars 0 v) ++ rest).length
          + 2 := by
    have hLength := length_le_length_ofChars (prettyChars 0 v)
    rw [List.length_append]
    omega
  unfold parse pretty
  rw [Bytes.ofText_ofList,
    readsBack 0 v hTextual _ rest hFuel]

theorem parse_pretty
    (v : Json)
    (hTextual : isTextual v = true) :
    parse (Bytes.ofText v.pretty) =
      { value := v, closed := true } := by
  have hRead := parse_pretty_append v [] hTextual
  rwa [List.append_nil] at hRead

end Json
end WorkspaceClient
