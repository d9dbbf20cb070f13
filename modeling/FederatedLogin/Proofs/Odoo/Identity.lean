import FederatedLogin.Odoo.Identity
import FederatedLogin.Proofs.Odoo.Requests
import FederatedLogin.Proofs.Store.Effect
import FederatedLogin.Proofs.Text.Decimal

/-! # Local emails of Odoo users

Users of different ids get different emails, also where the case of letters is ignored, as it is
when a local user is looked up. Whoever logs in has a positive id, and so the account has an
identity.
-/

namespace FederatedLogin.Odoo

theorem sameIgnoringCase_syntheticEmail_iff {a b : Int} :
    Text.sameIgnoringCase (syntheticEmail a) (syntheticEmail b) = true ↔ a = b := by
  rw [Text.sameIgnoringCase_iff]
  constructor
  · intro h
    simp only [syntheticEmail, Text.foldAscii_append] at h
    have h := List.append_cancel_left (List.append_cancel_right (List.append_cancel_right h))
    rw [Text.foldAscii_decimal, Text.foldAscii_decimal] at h
    exact Text.intDigits_injective h
  · rintro rfl
    rfl

theorem syntheticEmail_eq (uid : Int) :
    syntheticEmail uid = "odoo_" ++ Text.decimal uid ++ "@odoo.local" := by
  simp only [syntheticEmail, emailDomain, Provider.tag, String.append_assoc]
  rfl

theorem syntheticEmail_ne_empty (uid : Int) : syntheticEmail uid ≠ "" := by
  simp [syntheticEmail, emailDomain]

theorem Account.identity_eq_of_pos {a : Account} (h : 0 < a.uid) (identifier : String) :
    a.identity identifier = .ok {
      provider := .odoo
      externalId := Text.decimal a.uid
      isPrivileged := a.isAdmin
      isSystemPrivileged := a.isSystem
      displayName := a.name
      loginName := if Text.isAllBlank a.login then identifier else a.login
      email := syntheticEmail a.uid
      firstName := a.name
      lastName := ""
      authKey := Text.decimal a.uid
      organizations := Organization.settle a.companies } := by
  have hid : Text.decimal a.uid ≠ "0" := by
    rw [← Text.decimal_zero]
    exact fun he => Int.ne_of_gt h (Text.decimal_injective he)
  have hnew : Identity.new .odoo (Text.decimal a.uid) (syntheticEmail a.uid) = .ok _ :=
    (if_neg (by simp [String.isEmpty_iff, Text.decimal_ne_empty, hid])).trans
      (if_neg (by simp [String.isEmpty_iff, syntheticEmail_ne_empty]))
  rw [Account.identity, if_neg (Int.not_le.mpr h), hnew]
  rfl

theorem Account.identity_of_pos {a : Account} (h : 0 < a.uid) (identifier : String) :
    ∃ i, a.identity identifier = .ok i ∧ i.email = syntheticEmail a.uid :=
  ⟨_, a.identity_eq_of_pos h identifier, rfl⟩

theorem uid_pos_of_sessionIn? {d : Http.Delivery} {session : SessionInfo}
    (h : sessionIn? d = some session) : 0 < session.uid := by
  rw [sessionIn?, Option.bind_eq_some_iff] at h
  obtain ⟨_, _, h⟩ := h
  exact of_decide_eq_true (Option.filter_eq_some_iff.mp h).2

section Login

variable {s : Settings} {identifier : String} {secret : Secret String} {turns : Turns}
  {account : Account}

/-- A login that ends with an account has read a session of the same user and a profile. -/
theorem LoginPath.exists_standing
    (h : LoginPath s identifier secret turns (.ok (.authenticated account))) :
    ∃ first second rest session profile x, turns = first :: second :: rest ∧
      sessionIn? first.2 = some session ∧ rowIn? ProfileRow.ofJson? second.2 = some profile ∧
      StandingPath s session secret rest (.ok x) ∧ account = accountOf session.uid profile x := by
  generalize hx : Except.ok (Outcome.authenticated account) = result at h
  cases h with
  | failed => cases hx
  | rejected => cases hx
  | profileFailed => cases hx
  | @profiled _ _ session profile rest standing hsession hprofile hstanding =>
    cases standing with
    | error e => cases hx
    | ok x =>
      cases hx
      exact ⟨_, _, rest, session, profile, x, rfl, sessionRead_eq_ok_some_iff.mp hsession,
        firstRow_eq_ok_iff.mp hprofile, hstanding, rfl⟩

theorem LoginPath.uid_pos
    (h : LoginPath s identifier secret turns (.ok (.authenticated account))) : 0 < account.uid := by
  obtain ⟨_, _, _, _, _, _, _, hsession, _, _, rfl⟩ := h.exists_standing
  exact uid_pos_of_sessionIn? hsession

end Login

end FederatedLogin.Odoo
