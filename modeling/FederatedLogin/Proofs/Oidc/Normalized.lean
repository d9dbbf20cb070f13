import FederatedLogin.Proofs.Oidc.Identity
import FederatedLogin.Proofs.Provisioning.Sequential
import FederatedLogin.Proofs.Text.Parts

/-! # What claims make of an identity

Claims have an identity unless there is nothing to tell the person by or the key is zero. The
identity then has all that a store asks for, so that a run for it finds or makes a local user.
-/

namespace FederatedLogin

namespace Provisioning

theorem provision_makesNoTeamCall {i : Identity} (h : i.organizations = [])
    (client : ClientContext) (spare : SpareNames) :
    (provision i client spare).MakesOnly fun c => ¬ IsTeamCall c := by
  rw [provision_eq_joinAfter]
  refine (establish_makesNoTeamCall i client spare).bind fun established => ?_
  match established with
  | .error f => exact .done _
  | .ok p =>
    rw [joinAfter, h]
    exact .done _

end Provisioning

namespace Oidc

open Provisioning

namespace Claims

variable {c : Claims} {i : Identity} {name : String}

/-! ## The name to log in by -/

/-- A name that claims give to log in by, the first that is not empty of the preferred username, the
part of the email before its first `@` and, whatever it is, the subject. -/
inductive IsLoginName (c : Claims) : String → Prop where
  | preferred : c.preferredUsername ≠ "" → IsLoginName c c.preferredUsername
  | localPart (part rest : String) : c.preferredUsername = "" → part ≠ "" → '@' ∉ part.toList →
      c.email = part ++ "@" ++ rest → IsLoginName c part
  | subject : c.preferredUsername = "" →
      (∀ part rest, '@' ∉ part.toList → c.email = part ++ "@" ++ rest → part = "") →
      IsLoginName c c.subject

theorem emailLocalPart?_eq_some {part rest : String} (hpart : part ≠ "")
    (hat : '@' ∉ part.toList) (hemail : c.email = part ++ "@" ++ rest) :
    c.emailLocalPart? = some part := by
  have hbefore : Text.before '@' c.email = part := by
    rw [hemail]
    exact (Text.before_append '@' part rest).trans (Text.before_eq_self hat)
  have hne : part ≠ c.email := by
    intro h
    rw [h, hemail] at hat
    simp [String.toList_append] at hat
  simp [emailLocalPart?, hbefore, String.isEmpty_iff, hpart, hne]

/-- The local part of the email is what stands before its first `@`, unless that is nothing. -/
theorem emailLocalPart?_eq_none
    (h : ∀ part rest, '@' ∉ part.toList → c.email = part ++ "@" ++ rest → part = "") :
    c.emailLocalPart? = none := by
  rw [emailLocalPart?]
  by_cases hat : '@' ∈ c.email.toList
  · have hempty := h _ _ (Text.not_mem_before '@' c.email) (Text.before_append_after hat).symm
    simp [hempty]
  · simp [Text.before_eq_self hat]

theorem IsLoginName.eq_loginName (h : c.IsLoginName name) : name = c.loginName := by
  cases h with
  | preferred hpreferred => simp [loginName, hpreferred]
  | localPart part rest hpreferred hpart hat hemail =>
    simp [loginName, hpreferred, emailLocalPart?_eq_some hpart hat hemail]
  | subject hpreferred hemail => simp [loginName, hpreferred, emailLocalPart?_eq_none hemail]

theorem exists_isLoginName (c : Claims) : ∃ name, c.IsLoginName name := by
  by_cases hpreferred : c.preferredUsername = ""
  · by_cases hemail : ∀ part rest, '@' ∉ part.toList → c.email = part ++ "@" ++ rest → part = ""
    · exact ⟨_, .subject hpreferred hemail⟩
    · push Not at hemail
      obtain ⟨part, rest, hat, hemail, hpart⟩ := hemail
      exact ⟨_, .localPart part rest hpreferred hpart hat hemail⟩
  · exact ⟨_, .preferred hpreferred⟩

theorem isLoginName_iff : c.IsLoginName name ↔ name = c.loginName := by
  constructor
  · exact IsLoginName.eq_loginName
  · rintro rfl
    obtain ⟨name, h⟩ := c.exists_isLoginName
    rwa [← h.eq_loginName]

/-! ## The identity -/

/-- An identity that has of claims what they say, and what a store asks of it. -/
structure Describes (c : Claims) (i : Identity) : Prop where
  email : i.email = c.resolvedEmail
  email_ne_empty : i.email ≠ ""
  lower_email : Text.lower i.email = i.email
  authKey : i.authKey = if c.subject = "" then i.email else c.subject
  externalId : i.externalId = i.authKey
  authKey_ne_empty : i.authKey ≠ ""
  loginName : ∀ name, c.IsLoginName name ↔ i.loginName = name
  organizations : i.organizations = []
  grantsTeamAdmin : i.grantsTeamAdmin = false

theorem describes_described (c : Claims) : c.Describes c.described where
  email := rfl
  email_ne_empty := c.resolvedEmail_ne_empty
  lower_email := c.lower_resolvedEmail
  authKey := by simp [described, key, String.isEmpty_iff]
  externalId := rfl
  authKey_ne_empty := c.key_ne_empty
  loginName name := isLoginName_iff.trans eq_comm
  organizations := rfl
  grantsTeamAdmin := rfl

theorem identity_eq_missing_iff :
    c.identity = .error .missingIdentity ↔ c.subject = "" ∧ c.email = "" := by
  rw [identity_eq]
  split_ifs with hmissing hzero <;> simp [hmissing]

theorem identity_eq_invalid_iff : (∃ id, c.identity = .error (.invalidExternalId id)) ↔
    c.subject = "0" ∨ c.subject = "" ∧ c.email = "0" := by
  rw [identity_eq]
  split_ifs with hmissing hzero
  · simp [hmissing]
  · simpa using (key_eq_zero_iff hmissing).mp hzero
  · simpa using mt (key_eq_zero_iff hmissing).mpr hzero

/-- Claims without a subject and an email have no identity, nor have those whose key would be zero.
All others have one. It describes them, and a run for it asks for no team and, where it has the
store for itself, fails only for want of a username. -/
theorem identity_provisioned (c : Claims) :
    (c.identity = .error .missingIdentity ↔ c.subject = "" ∧ c.email = "") ∧
    ((∃ id, c.identity = .error (.invalidExternalId id)) ↔
      c.subject = "0" ∨ c.subject = "" ∧ c.email = "0") ∧
    ((∃ i, c.identity = .ok i) ↔ ¬ (c.subject = "" ∧ c.email = "") ∧
      ¬ (c.subject = "0" ∨ c.subject = "" ∧ c.email = "0")) ∧
    ∀ i, c.identity = .ok i → c.Describes i ∧ ∀ (client : ClientContext) (first second : Nat),
      let spare := ⟨Username.generated first, Username.generated second⟩
      (provision i client spare).MakesOnly (fun call => ¬ IsTeamCall call) ∧
      ∀ (source : Store.Source) (s : Store),
        (∃ p t, (provision i client spare).run source.answer s = (.ok p, t)) ↔
          HasSpare i spare s := by
  refine ⟨identity_eq_missing_iff, identity_eq_invalid_iff, ?_, fun i hi => ?_⟩
  · simp only [identity_eq_ok_iff, exists_and_left, exists_eq, and_true]
  · obtain ⟨-, -, rfl⟩ := identity_eq_ok_iff.mp hi
    refine ⟨c.describes_described, fun client first second => ⟨?_, fun source s => ?_⟩⟩
    · exact provision_makesNoTeamCall rfl client _
    · exact provision_succeeds_iff source client s c.resolvedEmail_ne_empty
        (Username.generated_ne_empty first) (Username.generated_ne_empty second)

example : (Claims.mk "" "Ada@Example.org" none "" "" "" "").identity.toOption.map
    (fun i => (i.authKey, i.loginName)) = some ("ada@example.org", "Ada") := by
  decide +kernel

end Claims

end Oidc

end FederatedLogin
