import Mathlib.Tactic.SplitIfs
import FederatedLogin.Oidc.Claims
import FederatedLogin.Proofs.Text.Lowered

/-! # Identities of OpenID Connect users

Claims have an identity unless subject and email are both empty or the key is zero. Claims without
an email get one that is made from the subject in lower case. It tells subjects apart as far as
their lower-case forms go, while the key that is kept is the subject itself.
-/

namespace FederatedLogin.Oidc

theorem isBarrier_underscore : Text.IsBarrier '_' :=
  ⟨by decide +kernel, by decide +kernel, by decide⟩

theorem isBarrier_at : Text.IsBarrier '@' :=
  ⟨by decide +kernel, by decide +kernel, by decide⟩

namespace Claims

variable {c c' : Claims} {i i' : Identity}

/-! ## The key and the email -/

theorem resolvedEmail_ne_empty (c : Claims) : c.resolvedEmail ≠ "" := by
  rw [resolvedEmail, Ne, Text.lower_eq_empty_iff]
  split
  next =>
    intro h
    simp [← String.toList_inj, String.toList_append] at h
  next h => rwa [String.isEmpty_iff] at h

theorem lower_resolvedEmail (c : Claims) : Text.lower c.resolvedEmail = c.resolvedEmail :=
  Text.lower_lower _

theorem key_ne_empty (c : Claims) : c.key ≠ "" := by
  rw [key]
  split
  next => exact c.resolvedEmail_ne_empty
  next h => rwa [String.isEmpty_iff] at h

/-- An email of one digit is left as it is by the change to lower case, and is made by it of no
other. -/
theorem key_eq_zero_iff (h : ¬ (c.subject = "" ∧ c.email = "")) :
    c.key = "0" ↔ c.subject = "0" ∨ c.subject = "" ∧ c.email = "0" := by
  have hzero {s : String} : Text.lower s = "0" ↔ s = "0" :=
    Text.lower_eq_digit_iff (d := '0') (by decide)
  rw [key]
  split
  next hsubject =>
    rw [String.isEmpty_iff] at hsubject
    have hemail : c.email ≠ "" := fun hemail => h ⟨hsubject, hemail⟩
    rw [resolvedEmail, if_neg (by rwa [String.isEmpty_iff]), hzero]
    simp [hsubject]
  next hsubject =>
    rw [String.isEmpty_iff] at hsubject
    simp [hsubject]

/-! ## The identity -/

def described (c : Claims) : Identity where
  provider := .openId
  externalId := c.key
  isPrivileged := false
  isSystemPrivileged := false
  displayName := c.displayName
  loginName := c.loginName
  email := c.resolvedEmail
  firstName := c.splitName.1
  lastName := c.splitName.2
  authKey := c.key
  organizations := []

theorem identity_eq (c : Claims) : c.identity =
    if c.subject = "" ∧ c.email = "" then .error .missingIdentity
    else if c.key = "0" then .error (.invalidExternalId c.key)
    else .ok c.described := by
  have hkey := c.key_ne_empty
  have hemail := c.resolvedEmail_ne_empty
  rw [identity]
  simp only [Bool.and_eq_true, String.isEmpty_iff]
  split
  next => rfl
  next =>
    split
    next hzero =>
      rw [Identity.new, if_pos (by simp [hzero])]
      rfl
    next hzero =>
      rw [Identity.new, if_neg (by simp [hkey, hzero]), if_neg (by simp [hemail])]
      rfl

theorem identity_eq_ok_iff : c.identity = .ok i ↔ ¬ (c.subject = "" ∧ c.email = "") ∧
    ¬ (c.subject = "0" ∨ c.subject = "" ∧ c.email = "0") ∧ i = c.described := by
  rw [identity_eq]
  split_ifs with hmissing hzero
  · simp [hmissing]
  · exact iff_of_false nofun fun h => h.2.1 ((key_eq_zero_iff hmissing).mp hzero)
  · constructor
    · rintro ⟨⟩
      exact ⟨hmissing, mt (key_eq_zero_iff hmissing).mpr hzero, rfl⟩
    · rintro ⟨-, -, rfl⟩
      rfl

theorem of_identity (h : c.identity = .ok i) :
    i.provider = .openId ∧ i.email = c.resolvedEmail ∧ i.authKey = c.key := by
  obtain ⟨-, -, rfl⟩ := identity_eq_ok_iff.mp h
  exact ⟨rfl, rfl, rfl⟩

/-! ## Claims without an email -/

/-- Claims that hold a subject and no email. -/
structure HasSubjectOnly (c : Claims) : Prop where
  email : c.email = ""
  subject_ne_empty : c.subject ≠ ""
  subject_ne_zero : c.subject ≠ "0"

theorem HasSubjectOnly.key_eq (h : c.HasSubjectOnly) : c.key = c.subject :=
  if_neg (by simpa [String.isEmpty_iff] using h.subject_ne_empty)

theorem resolvedEmail_of_email_eq (h : c.email = "") :
    c.resolvedEmail = "oidc_" ++ Text.lower c.subject ++ "@oidc.local" := by
  have htext : ("oidc_" ++ c.subject ++ "@" ++ emailDomain).toList =
      "oidc".toList ++ '_' :: (c.subject.toList ++ '@' :: emailDomain.toList) := by
    simp [String.toList_append]
  have hprefix : Text.lowerChars "oidc".toList = "oidc".toList := by decide +kernel
  have hdomain : Text.lowerChars emailDomain.toList = emailDomain.toList := by decide +kernel
  rw [resolvedEmail, if_pos (String.isEmpty_iff.mpr h), Text.lower, htext,
    Text.lowerChars_append isBarrier_underscore, Text.lowerChars_append isBarrier_at, hprefix,
    hdomain, ← String.toList_inj]
  simp [String.toList_append, Text.lower, Text.lowerChar, emailDomain]

theorem HasSubjectOnly.identity_of (h : c.HasSubjectOnly) : ∃ i, c.identity = .ok i :=
  ⟨_, identity_eq_ok_iff.mpr
    ⟨by simp [h.subject_ne_empty], by simp [h.subject_ne_empty, h.subject_ne_zero], rfl⟩⟩

theorem sameIgnoringCase_resolvedEmail_iff (h : c.email = "") (h' : c'.email = "") :
    Text.sameIgnoringCase c.resolvedEmail c'.resolvedEmail = true ↔
      Text.lower c.subject = Text.lower c'.subject := by
  rw [resolvedEmail, resolvedEmail, Text.sameIgnoringCase_lower_iff, ← resolvedEmail,
    ← resolvedEmail, resolvedEmail_of_email_eq h, resolvedEmail_of_email_eq h']
  constructor
  · intro he
    simpa [← String.toList_inj] using he
  · intro he
    rw [he]

end Claims

end FederatedLogin.Oidc
