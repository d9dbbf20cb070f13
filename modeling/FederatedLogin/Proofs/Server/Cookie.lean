import FederatedLogin.Proofs.Text.Decimal
import FederatedLogin.Server.Login

/-! # Session cookies

A text can be sent as a header value if its characters can, as all but the control characters can
and the tab. In a session cookie all characters can, apart from the name that is configured for it.
-/

namespace FederatedLogin

namespace Http

theorem toList_loop (bytes : ByteArray) (i : Nat) (r : List UInt8) :
    ByteArray.toList.loop bytes i r = r.reverse ++ bytes.data.toList.drop i := by
  induction i, r using ByteArray.toList.loop.induct bytes with
  | case1 i r hi ih =>
    have hlen : i < bytes.data.toList.length := hi
    have hget : bytes.get! i = bytes.data.toList[i] := by
      simp [ByteArray.get!, getElem!_pos bytes.data i hi]
    rw [ByteArray.toList.loop, if_pos hi, ih, List.drop_eq_getElem_cons hlen, hget,
      List.reverse_cons, List.append_assoc, List.singleton_append]
  | case2 i r hi =>
    rw [ByteArray.toList.loop, if_neg hi, List.drop_eq_nil_of_le (Nat.le_of_not_lt hi),
      List.append_nil]

theorem toList_eq_data (bytes : ByteArray) : bytes.toList = bytes.data.toList :=
  toList_loop bytes 0 []

def isHeaderChar (c : Char) : Bool := (String.utf8EncodeChar c).all isHeaderByte

theorem isHeaderValue_ofList (s : List Char) : isHeaderValue (.ofList s) = s.all isHeaderChar := by
  rw [isHeaderValue, String.toUTF8_eq_toByteArray, String.toByteArray_ofList, toList_eq_data,
    List.utf8Encode, List.data_toByteArray, List.all_flatMap]
  rfl

theorem isHeaderValue_append (a b : String) :
    isHeaderValue (a ++ b) = (isHeaderValue a && isHeaderValue b) := by
  rw [← String.ofList_toList (s := a), ← String.ofList_toList (s := b), ← String.ofList_append,
    isHeaderValue_ofList, isHeaderValue_ofList, isHeaderValue_ofList, List.all_append]

theorem isHeaderValue_decimal (n : Int) : isHeaderValue (Text.decimal n) = true := by
  rw [Text.decimal, isHeaderValue_ofList]
  exact List.all_eq_true.mpr (Text.forall_mem_intDigits (by decide) (by decide) n)

theorem isHeaderValue_tokenText (bits : Nat) : isHeaderValue (Session.tokenText bits) = true := by
  rw [Session.tokenText, isHeaderValue_ofList]
  exact List.all_eq_true.mpr (Text.forall_mem_hexDigits (by decide) 64 bits)

/-! ## The characters that can be sent -/

theorem isHeaderByte_of_le {b : UInt8} (h : 0x80 ≤ b.toNat) : isHeaderByte b = true := by
  have hspace : 0x20 ≤ b := UInt8.le_iff_toNat_le.mpr (Nat.le_trans (by decide) h)
  have hdelete : b ≠ 0x7F := by
    rintro rfl
    exact absurd h (by decide)
  simp [isHeaderByte, hspace, hdelete]

theorem isHeaderByte_ofNat_iff {n : Nat} (h : n < 0x80) :
    isHeaderByte (.ofNat n) = true ↔ n = 0x09 ∨ 0x20 ≤ n ∧ n ≠ 0x7F := by
  have hall : ∀ n < 0x80, isHeaderByte (.ofNat n) = true ↔ n = 0x09 ∨ 0x20 ≤ n ∧ n ≠ 0x7F := by
    decide
  exact hall n h

theorem le_of_mem_utf8EncodeChar {c : Char} (h : 0x80 ≤ c.toNat) :
    ∀ b ∈ String.utf8EncodeChar c, 0x80 ≤ b.toNat := by
  have hc : ¬ c.val.toNat ≤ 127 := Nat.not_le.mpr h
  rw [String.utf8EncodeChar, if_neg hc]
  repeat' split
  all_goals
    simp only [List.forall_mem_cons, UInt8.toNat_ofNat', List.not_mem_nil, false_implies,
      implies_true, and_true]
    omega

/-- All characters can stand in a header value but the control characters other than the tab. -/
theorem isHeaderChar_iff {c : Char} :
    isHeaderChar c = true ↔ c = '\t' ∨ 0x20 ≤ c.toNat ∧ c.toNat ≠ 0x7F := by
  have htab : c = '\t' ↔ c.toNat = 0x09 := by
    rw [← Char.toNat_inj]
    rfl
  rw [htab, isHeaderChar]
  by_cases h : c.toNat < 0x80
  · have hc : c.val.toNat ≤ 127 := Nat.le_of_lt_succ h
    rw [String.utf8EncodeChar, if_pos hc, List.all_cons, List.all_nil, Bool.and_true]
    exact isHeaderByte_ofNat_iff h
  · have hle := Nat.not_lt.mp h
    refine iff_of_true (List.all_eq_true.mpr fun b hb => ?_) (.inr ?_)
    · exact isHeaderByte_of_le (le_of_mem_utf8EncodeChar hle b hb)
    · omega

/-- No control character is in a text, except tabs. -/
def IsSendable (s : String) : Prop := ∀ c ∈ s.toList, c = '\t' ∨ 0x20 ≤ c.toNat ∧ c.toNat ≠ 0x7F

instance (s : String) : Decidable (IsSendable s) := List.decidableBAll _ s.toList

theorem isHeaderValue_iff {s : String} : isHeaderValue s = true ↔ IsSendable s := by
  rw [IsSendable, ← String.ofList_toList (s := s), isHeaderValue_ofList, List.all_eq_true,
    String.toList_ofList]
  simp only [isHeaderChar_iff]

end Http

namespace Server

theorem isHeaderValue_sessionCookie (c : Config.SessionConfig) {s : Session} {bits : Nat}
    (hs : s.token = ⟨Session.tokenText bits⟩) (now : Instant) :
    Http.isHeaderValue (sessionCookie c s now) = Http.isHeaderValue c.cookieName := by
  have hequals : Http.isHeaderValue "=" = true := by decide +kernel
  have hattributes : Http.isHeaderValue "; Path=/; HttpOnly; SameSite=Lax; Max-Age=" = true := by
    decide +kernel
  have hsecure : Http.isHeaderValue (if c.cookieSecure then "; Secure" else "") = true := by
    cases c.cookieSecure <;> decide +kernel
  simp [sessionCookie, Http.isHeaderValue_append, hs, hequals, hattributes, hsecure,
    Http.isHeaderValue_decimal, Http.isHeaderValue_tokenText]

section Response

variable {c : Config.SessionConfig} {p : Provisioning.Provisioned} {bits : Nat}

theorem loginResponse_of_isSendable (now : Instant)
    (htoken : p.session.token = ⟨Session.tokenText bits⟩) (h : Http.IsSendable c.cookieName) :
    loginResponse c now (.ok p) = { Response.json 200 (loginSummary p) with
      setCookie := some (sessionCookie c p.session now) } := by
  have hsent : Http.isHeaderValue (sessionCookie c p.session now) = true := by
    rwa [isHeaderValue_sessionCookie c htoken, Http.isHeaderValue_iff]
  rw [loginResponse, Response.withCookie, if_pos hsent]

theorem loginResponse_of_not_isSendable (now : Instant)
    (htoken : p.session.token = ⟨Session.tokenText bits⟩) (h : ¬ Http.IsSendable c.cookieName) :
    loginResponse c now (.ok p) = .text 500 "failed to parse header value" := by
  have hsent : ¬ Http.isHeaderValue (sessionCookie c p.session now) = true := by
    rwa [isHeaderValue_sessionCookie c htoken, Http.isHeaderValue_iff]
  rw [loginResponse, Response.withCookie, if_neg hsent]

end Response

end Server

end FederatedLogin
