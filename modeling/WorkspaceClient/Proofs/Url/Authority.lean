import Mathlib.Data.List.TakeWhile
import WorkspaceClient.Proofs.Url.Host
import WorkspaceClient.Url.Parser

/-
  This file shows that an authority is cut at the same places
  where its parts were put together: the user behind which
  an at sign stands, the host, and the port.

  Key definitions include:
    * `Url.isServerChar`
    * `Url.password?`
    * `Url.IsShownPort`

  Main declarations:
    * `Url.splitPort_append`
    * `Url.Host.splitPort_text`
    * `Url.splitAuthority_text`
    * `Url.parsePort_text`
-/

namespace WorkspaceClient
namespace Url

------------------------------------------------------------
-- Hosts
------------------------------------------------------------

/- Which characters end an authority is seen from a few. -/
theorem endsAuthority_eq_false
    {p : Char → Bool}
    {c : Char}
    (hNone : ['/', '\\', '?', '#'].any p = false)
    (h : p c = true) :
    endsAuthority c = false := by
  rw [List.any_eq_false] at hNone
  unfold endsAuthority isSlash
  simp only [Bool.or_eq_false_iff, beq_eq_false_iff_ne]
  refine ⟨⟨⟨?_, ?_⟩, ?_⟩, ?_⟩ <;>
  · rintro rfl
    exact hNone _ (by simp) h

/- A character that ends neither an authority nor a user. -/
def isServerChar
    (c : Char) : Bool :=
  !endsAuthority c && c != '@' && 0x20 < c.toNat

theorem isServerChar_iff
    {c : Char} :
    isServerChar c = true ↔
      endsAuthority c = false ∧ c ≠ '@' ∧ 0x20 < c.toNat := by
  simp only [isServerChar, Bool.and_eq_true, Bool.not_eq_true',
    bne_iff_ne, decide_eq_true_eq, and_assoc]

/- Characters at which no host ends are passed over. -/
theorem splitPort_append
    {inBrackets : Bool}
    {cs : List Char}
    (hInside :
      ∀ c ∈ cs,
        c ≠ '[' ∧ c ≠ ']' ∧ (c = ':' → inBrackets = true))
    (rest : List Char) :
    splitPort inBrackets (cs ++ rest) =
      (cs ++ (splitPort inBrackets rest).1,
        (splitPort inBrackets rest).2) := by
  induction cs with
  | nil => rfl
  | cons c cs ih =>
      rw [List.forall_mem_cons] at hInside
      rcases hInside with ⟨⟨hOpen, hClose, hColon⟩, hRest⟩
      rw [List.cons_append, splitPort, if_neg]
      · dsimp only
        rw [if_neg hOpen, if_neg hClose, ih hRest]
        rfl
      · rintro ⟨hSame, hOutside⟩
        rw [hColon hSame] at hOutside
        cases hOutside

namespace Host

variable {host : Host}

theorem text_ne_nil
    (h : host.IsNormal) :
    host.text ≠ [] := by
  cases host with
  | domain name => exact h.1.nonempty
  | ipv4 address => exact (isName_ipv4Text address).nonempty
  | ipv6 pieces => exact List.cons_ne_nil _ _

/- A host ends neither early nor late. -/
theorem splitPort_text
    (h : host.IsNormal)
    (rest : List Char) :
    splitPort false (host.text ++ rest) =
      (host.text ++ (splitPort false rest).1,
        (splitPort false rest).2) := by
  have hName :
      ∀ {name : List Char},
        IsName name →
          ∀ c ∈ name,
            c ≠ '[' ∧ c ≠ ']' ∧ (c = ':' → false = true) := by
    intro name hName c hc
    have hChar := hName.chars c hc
    refine ⟨?_, ?_, ?_⟩ <;>
    · rintro rfl
      exact absurd hChar (by decide)
  cases host with
  | domain name => exact splitPort_append (hName h.1) rest
  | ipv4 address =>
      exact
        splitPort_append (hName (isName_ipv4Text address)) rest
  | ipv6 pieces =>
      have hInside :
          ∀ c ∈ ipv6Text pieces,
            c ≠ '[' ∧ c ≠ ']' ∧ (c = ':' → true = true) := by
        intro c hc
        rcases mem_ipv6Text_cases hc with hColon | hDigit
        · rw [hColon]
          decide
        · refine ⟨?_, ?_, fun _ => rfl⟩ <;>
          · rintro rfl
            exact absurd hDigit (by decide)
      have hText :
          text (ipv6 pieces) ++ rest =
            '[' :: (ipv6Text pieces ++ ']' :: rest) := by
        unfold text
        simp
      -- the colons of the address are hidden by the brackets
      rw [hText, splitPort]
      dsimp only
      rw [if_neg (by decide), if_pos rfl,
        splitPort_append hInside, splitPort]
      simp [text]

/- No character of a host ends an authority or a user. -/
theorem isServerChar_of_mem_text
    (h : host.IsNormal)
    {c : Char}
    (hMem : c ∈ host.text) :
    isServerChar c = true := by
  have hSigns : ['[', ':', ']'].all isServerChar = true := by
    decide
  rcases mem_text_cases h hMem with hName | hSign
  · rw [isServerChar_iff]
    have hAllowed := (isNameChar_iff.mp hName).2.1
    unfold isForbidden at hAllowed
    simp only [Bool.or_eq_false_iff, decide_eq_false_iff_not,
      Nat.not_le] at hAllowed
    refine
      ⟨endsAuthority_eq_false (by decide) hName, ?_,
        hAllowed.1.1⟩
    rintro rfl
    exact absurd hName (by decide)
  · exact List.all_eq_true.mp hSigns c hSign

end Host

------------------------------------------------------------
-- Users
------------------------------------------------------------

/- A part without the sign is the part behind the last one. -/
theorem afterLast_append
    {x : Char}
    {front cs : List Char}
    (hFront : front = [] ∨ front.getLast? = some x)
    (hNone : x ∉ cs) :
    afterLast x (front ++ cs) = cs := by
  have hRest :
      front.reverse.takeWhile (· != x) = [] := by
    rcases hFront with rfl | hLast
    · rfl
    · rcases List.getLast?_eq_some_iff.mp hLast with
        ⟨before, rfl⟩
      rw [List.reverse_append, List.reverse_singleton,
        List.singleton_append, List.takeWhile_cons_of_neg]
      simp
  have hAll : ∀ c ∈ cs.reverse, (c != x) = true := by
    intro c hc
    rw [List.mem_reverse] at hc
    rw [bne_iff_ne]
    rintro rfl
    exact hNone hc
  unfold afterLast
  rw [List.reverse_append, List.takeWhile_append_of_pos hAll,
    hRest, List.append_nil, List.reverse_reverse]

section

variable {u : Url}

/- A user before a host ends in an at sign. -/
theorem getLast?_userText
    (u : Url) :
    u.userText = [] ∨ u.userText.getLast? = some '@' := by
  unfold userText
  split
  · exact .inl rfl
  · exact .inr List.getLast?_concat

/- No character of a user ends an authority. -/
theorem clear_of_mem_userText
    (hUser : ∀ c ∈ u.username, isUserChar c = true)
    (hPassword : ∀ c ∈ u.password, isUserChar c = true)
    {c : Char}
    (h : c ∈ u.userText) :
    endsAuthority c = false ∧ 0x20 < c.toNat := by
  have hShown :
      ∀ d, isUserChar d = true →
        endsAuthority d = false ∧ 0x20 < d.toNat :=
    fun d hd =>
      ⟨endsAuthority_eq_false (by decide) hd,
        visible_of_isUserChar hd⟩
  unfold userText at h
  split at h
  · exact absurd h List.not_mem_nil
  · rw [List.mem_append, List.mem_append, List.mem_singleton]
      at h
    rcases h with (hName | hMore) | hSign
    · exact hShown c (hUser c hName)
    · split at hMore
      · exact absurd hMore List.not_mem_nil
      · rcases List.mem_cons.mp hMore with hColon | hInside
        · rw [hColon]
          decide
        · exact hShown c (hPassword c hInside)
    · rw [hSign]
      decide

/- The password of a URL, if there is one. -/
def password?
    (u : Url) : Option (List Char) :=
  if u.password.isEmpty then none else some u.password

theorem getD_password?
    (u : Url) :
    u.password?.getD [] = u.password := by
  unfold password?
  by_cases hEmpty : u.password = []
  · rw [hEmpty]
    rfl
  · rw [if_neg (by simpa using hEmpty)]
    rfl

/- Before the sign a user is a name and maybe a password. -/
theorem dropLast_userText
    (u : Url) :
    u.userText.dropLast =
      u.username ++ Text.marked ':' u.password? := by
  unfold userText password?
  by_cases hPassword : u.password = []
  · by_cases hName : u.username = []
    · rw [hName, hPassword]
      rfl
    · rw [if_neg (by simp [hName]), List.dropLast_concat,
        hPassword]
      rfl
  · rw [if_neg (by simp [hPassword]), List.dropLast_concat,
      if_neg (by simpa using hPassword),
      if_neg (by simpa using hPassword)]
    rfl

/- A user is cut at its first colon. -/
theorem splitAtFirst_userText
    (hUser : ∀ c ∈ u.username, isUserChar c = true) :
    Text.splitAtFirst (· == ':') u.userText.dropLast =
      (u.username, u.password?) := by
  have hNone : ':' ∉ u.username := fun hMem =>
    absurd (hUser ':' hMem) (by decide)
  rw [dropLast_userText, Text.splitAtFirst_marked hNone]

------------------------------------------------------------
-- Authorities
------------------------------------------------------------

/- The user that is read of an authority is encoded. -/
theorem shown_of_splitAuthority
    {cs : List Char}
    {authority : Authority}
    (h : splitAuthority cs = .ok authority) :
    (∀ c ∈ authority.username, isUserChar c = true) ∧
      ∀ c ∈ authority.password, isUserChar c = true := by
  unfold splitAuthority at h
  dsimp only at h
  split at h
  · cases h
  · cases h
    constructor <;>
    · exact fun c hc => shown_of_mem_encode (by decide) hc

theorem splitPort_portText
    (u : Url) :
    splitPort false u.portText =
      ([], u.port.map fun port => (toString port).toList) := by
  unfold portText
  cases u.port <;> rfl

theorem isServerChar_of_mem_portText
    {c : Char}
    (h : c ∈ u.portText) :
    isServerChar c = true := by
  have hSigns : (':' :: lowerDigits).all isServerChar = true := by
    decide
  apply List.all_eq_true.mp hSigns
  unfold portText at h
  split at h
  · rw [toList_toString] at h
    rcases List.mem_cons.mp h with hColon | hDigit
    · rw [hColon]
      exact List.mem_cons_self
    · exact
        List.mem_cons_of_mem _
          (mem_lowerDigits (by decide) (by decide) hDigit)
  · exact absurd h List.not_mem_nil

/- An authority is cut into its parts. -/
theorem splitAuthority_text
    (hUser : ∀ c ∈ u.username, isUserChar c = true)
    (hPassword : ∀ c ∈ u.password, isUserChar c = true)
    (hHost : u.host.IsNormal) :
    splitAuthority (u.userText ++ (u.host.text ++ u.portText)) =
      .ok
        { username := u.username
          password := u.password
          host := u.host.text
          port := u.port.map fun port =>
            (toString port).toList } := by
  have hSign : '@' ∉ u.host.text ++ u.portText := by
    rw [List.mem_append, not_or]
    constructor
    · intro hMem
      have hChar := Host.isServerChar_of_mem_text hHost hMem
      exact absurd hChar (by decide)
    · intro hMem
      have hChar := isServerChar_of_mem_portText hMem
      exact absurd hChar (by decide)
  have hServer :
      afterLast '@' (u.userText ++ (u.host.text ++ u.portText)) =
        u.host.text ++ u.portText :=
    afterLast_append (getLast?_userText u) hSign
  have hPort :
      splitPort false (u.host.text ++ u.portText) =
        (u.host.text,
          u.port.map fun port => (toString port).toList) := by
    rw [Host.splitPort_text hHost, splitPort_portText,
      List.append_nil]
  have hFront :
      (u.userText ++ (u.host.text ++ u.portText)).take
          ((u.userText ++ (u.host.text ++ u.portText)).length
            - (u.host.text ++ u.portText).length - 1) =
        u.userText.dropLast := by
    rw [List.length_append, Nat.add_sub_cancel,
      List.take_append_of_le_length (Nat.sub_le _ _),
      List.dropLast_eq_take]
  have hSome :
      (u.host.text ++ u.portText).isEmpty = false := by
    rw [List.isEmpty_eq_false_iff]
    exact
      List.append_ne_nil_of_left_ne_nil
        (Host.text_ne_nil hHost) _
  unfold splitAuthority
  rw [hServer]
  dsimp only
  rw [hPort]
  dsimp only
  rw [hFront, splitAtFirst_userText hUser, hSome,
    Bool.and_false, if_neg Bool.false_ne_true]
  dsimp only
  rw [getD_password?, encode_of_shown hUser,
    encode_of_shown hPassword]
  rfl

end

------------------------------------------------------------
-- Ports
------------------------------------------------------------

section

variable {default : Nat}
variable {port : Option Nat}

/- A port that is shown is a port and not the default one. -/
def IsShownPort
    (default : Nat)
    (port : Option Nat) : Prop :=
  ∀ p, port = some p → p ≤ 0xFFFF ∧ p ≠ default

/- The digits of a port are read as the port. -/
theorem parsePort_text
    (h : IsShownPort default port) :
    parsePort (some default)
        (port.map fun p => (toString p).toList) =
      .ok port := by
  cases port with
  | none => rfl
  | some p =>
      rcases h p rfl with ⟨hSmall, hOther⟩
      rw [Option.map_some, toList_toString]
      unfold parsePort
      dsimp only
      rw [all_isDigit_toDigits, digitsToNat_toDigits,
        if_neg (by simp), if_neg (by omega), if_neg]
      simp [hOther]

theorem isShownPort_none
    (default : Nat) :
    IsShownPort default none :=
  fun _ h => absurd h (Option.some_ne_none _).symm

theorem isShownPort_of_parsePort
    {digits? : Option (List Char)}
    (h : parsePort (some default) digits? = .ok port) :
    IsShownPort default port := by
  cases digits? with
  | none =>
      cases h
      exact isShownPort_none default
  | some digits =>
      unfold parsePort at h
      dsimp only at h
      split at h
      · cases h
      · split at h
        · cases h
        · next hSmall =>
            split at h
            · cases h
              exact isShownPort_none default
            · next hOther =>
                cases h
                intro p hp
                cases hp
                simp only [Bool.or_eq_true, decide_eq_true_eq,
                  Option.some.injEq, not_or] at hOther
                exact ⟨Nat.le_of_not_lt hSmall, hOther.2⟩

end

end Url
end WorkspaceClient
