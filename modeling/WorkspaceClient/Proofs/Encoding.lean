import WorkspaceClient.Proofs.Bytes.Canonical
import WorkspaceClient.Proofs.Credential
import WorkspaceClient.Proofs.Session

/-
  This file shows that nothing is lost or added when a
  cookie is stored as a token and when a certificate is
  cached: each of them has one stored text, and a text with
  blanks around it is the same as one without.

  Key definitions include:
    * `Credential.StoresExactly`

  Main declarations:
    * `Credential.decodeToken_eq_ok_iff`
    * `Session.caBytes_withCa_eq`
    * `Credential.storesExactly`
-/

namespace WorkspaceClient

------------------------------------------------------------
-- Certificates
------------------------------------------------------------

namespace Session

theorem caBytes_withCa_eq
    (s : Session)
    (pem : Bytes) :
    (s.withCa pem).caBytes =
      .ok (if pem = [] then none else some pem) := by
  by_cases hPem : pem = []
  · rw [if_pos hPem, hPem]
    rfl
  · rw [if_neg hPem, s.caBytes_withCa hPem]

end Session

------------------------------------------------------------
-- Tokens
------------------------------------------------------------

namespace Credential

/- Only one token stores a cookie, up to blanks. -/
theorem decodeToken_eq_ok_iff
    {token cookie : String} :
    decodeToken token = .ok cookie ↔
      encodeToken cookie = Text.trim token := by
  rw [encodeToken, ← Base64.decode_eq_ok_iff]
  unfold decodeToken
  cases Base64.decode (Bytes.ofText (Text.trim token)) with
  | error fault => simp
  | ok bytes =>
      rw [Except.ok.injEq, eq_comm (a := bytes),
        ← Bytes.toText?_eq_some_iff]
      cases hText : Bytes.toText? bytes <;> simp [hText]

/-
  A cookie and a certificate are stored exactly: the stored
  text can be read again, and no other text is read as the
  same, blanks around it apart.
-/
structure StoresExactly
    (token : String)
    (s : Session) : Prop where
  replayed :
    ∀ cookie, decodeToken (encodeToken cookie) = .ok cookie
  decoded :
    ∀ cookie,
      decodeToken token = .ok cookie ↔
        encodeToken cookie = Text.trim token
  same :
    ∀ token' cookie,
      decodeToken token = .ok cookie →
      decodeToken token' = .ok cookie →
        Text.trim token' = Text.trim token
  cached :
    ∀ pem,
      (s.withCa pem).caBytes =
        .ok (if pem = [] then none else some pem)
  certificate :
    ∀ pem,
      s.caBytes = .ok (some pem) ↔
        s.ca ≠ "" ∧ (s.withCa pem).ca = Text.trim s.ca

theorem storesExactly
    (token : String)
    (s : Session) :
    StoresExactly token s where
  replayed := by
    intro cookie
    rw [decodeToken_eq_ok_iff, encodeToken,
      Base64.trim_encode]
  decoded := fun _ => decodeToken_eq_ok_iff
  same := by
    intro token' cookie hToken hOther
    rw [← decodeToken_eq_ok_iff.mp hToken,
      ← decodeToken_eq_ok_iff.mp hOther]
  cached := s.caBytes_withCa_eq
  certificate := fun _ => Session.caBytes_eq_some_iff

/- A token with a bit that is not needed stores nothing. -/
example :
    decodeToken "YR==" =
      .error (.badEncoding (.badLastSymbol 1 82)) := by
  cbv

end Credential
end WorkspaceClient
