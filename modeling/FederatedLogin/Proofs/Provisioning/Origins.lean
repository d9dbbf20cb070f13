import FederatedLogin.Proofs.Odoo.Identity
import FederatedLogin.Proofs.Oidc.Identity
import FederatedLogin.Proofs.Provisioning.Returned

/-! # Users across providers

Identities of two providers meet in one local user only where the claims of OpenID Connect carry the
very email that is made for the user at Odoo. An email that is made from a subject never is such a
one.
-/

namespace FederatedLogin

namespace Odoo

theorem foldAscii_syntheticEmail (uid : Int) :
    Text.foldAscii (syntheticEmail uid) = (syntheticEmail uid).toList := by
  have hprefix : Text.foldAscii "odoo_" = "odoo_".toList := by decide
  have hdomain : Text.foldAscii "@odoo.local" = "@odoo.local".toList := by decide
  rw [syntheticEmail_eq, Text.foldAscii_append, Text.foldAscii_append, Text.foldAscii_decimal,
    hprefix, hdomain]
  simp [String.toList_append, Text.decimal]

theorem Account.of_identity {a : Account} {typed : String} {i : Identity}
    (h : a.identity typed = .ok i) : i.provider = .odoo ∧ i.email = syntheticEmail a.uid := by
  by_cases hpos : 0 < a.uid
  · rw [a.identity_eq_of_pos hpos] at h
    cases h
    exact ⟨rfl, rfl⟩
  · rw [identity, if_pos (Int.not_lt.mp hpos)] at h
    cases h

end Odoo

namespace Oidc

/-- Claims have the email of a user at Odoo only if they carry it, in any case of its letters. -/
theorem Claims.sameIgnoringCase_syntheticEmail_iff {c : Claims} {uid : Int} :
    Text.sameIgnoringCase (Odoo.syntheticEmail uid) c.resolvedEmail = true ↔
      c.email ≠ "" ∧ Text.lower c.email = Odoo.syntheticEmail uid := by
  have hsame (s : String) : Text.sameIgnoringCase (Odoo.syntheticEmail uid) (Text.lower s) = true ↔
      Text.lower s = Odoo.syntheticEmail uid := by
    rw [Text.sameIgnoringCase_iff, Odoo.foldAscii_syntheticEmail, Text.foldAscii_lower,
      String.toList_inj, eq_comm]
  by_cases h : c.email = ""
  · -- one starts with "oidc_" and the other with "odoo_"
    have hne : c.resolvedEmail ≠ Odoo.syntheticEmail uid := by
      rw [resolvedEmail_of_email_eq h, Odoo.syntheticEmail_eq]
      intro he
      have he := congrArg String.toList he
      simp [String.toList_append] at he
    rw [resolvedEmail, hsame, ← resolvedEmail]
    exact iff_of_false hne fun hemail => hemail.1 h
  · have hresolved : c.resolvedEmail = Text.lower c.email := by
      rw [resolvedEmail, if_neg (by simpa [String.isEmpty_iff] using h)]
    rw [hresolved, hsame]
    exact (and_iff_right h).symm

end Oidc

namespace Provisioning

open Store (Call disturbed executes)

/-- What an identity is made of: an account at Odoo and what was typed, or claims. -/
inductive Origin where
  | odoo (account : Odoo.Account) (typed : String)
  | oidc (claims : Oidc.Claims)

namespace Origin

def provider : Origin → Provider
  | .odoo _ _ => .odoo
  | .oidc _ => .openId

def identity : Origin → Except IdentityError Identity
  | .odoo account typed => account.identity typed
  | .oidc claims => claims.identity

/-- Claims carry the email that is made for the user with an account. -/
def Carries (c : Oidc.Claims) (a : Odoo.Account) : Prop :=
  c.email ≠ "" ∧ Text.lower c.email = "odoo_" ++ Text.decimal a.uid ++ "@odoo.local"

/-- The origins are of two providers, and the claims carry the email for the account. -/
def Meets : Origin → Origin → Prop
  | .odoo a _, .oidc c | .oidc c, .odoo a _ => Carries c a
  | .odoo _ _, .odoo _ _ | .oidc _, .oidc _ => False

end Origin

section Origin

variable {o o' : Origin} {i i' : Identity}

theorem Origin.provider_of_identity (h : o.identity = .ok i) : i.provider = o.provider := by
  cases o with
  | odoo a typed => exact (Odoo.Account.of_identity h).1
  | oidc c => exact (Oidc.Claims.of_identity h).1

theorem Origin.meets_odoo_oidc_iff {a : Odoo.Account} {typed : String} {c : Oidc.Claims}
    (h : (Origin.odoo a typed).identity = .ok i) (h' : (Origin.oidc c).identity = .ok i') :
    Text.sameIgnoringCase i.email i'.email = true ↔ Origin.Carries c a := by
  rw [(Odoo.Account.of_identity h).2, (Oidc.Claims.of_identity h').2.1,
    Oidc.Claims.sameIgnoringCase_syntheticEmail_iff, Odoo.syntheticEmail_eq, Origin.Carries]

theorem Origin.meets_iff (h : o.identity = .ok i) (h' : o'.identity = .ok i')
    (hne : o.provider ≠ o'.provider) :
    Text.sameIgnoringCase i.email i'.email = true ↔ o.Meets o' := by
  match o, o' with
  | .odoo _ _, .odoo _ _ => exact absurd rfl hne
  | .oidc _, .oidc _ => exact absurd rfl hne
  | .odoo _ _, .oidc _ => exact meets_odoo_oidc_iff h h'
  | .oidc _, .odoo _ _ =>
    have hmeets := meets_odoo_oidc_iff h' h
    exact ⟨fun hsame => hmeets.mp (Text.sameIgnoringCase_symm hsame),
      fun hcarries => Text.sameIgnoringCase_symm (hmeets.mpr hcarries)⟩

end Origin

section Runs

variable {ι : Type} [DecidableEq ι] {faults : Call → Store.Fault → Prop} {runs : ι → Run}
  {origins : ι → Origin} {s : Store} {q : Pool ι} {log : List (Event ι)} {j k : ι}
  {p : Provisioned} {u : User}

theorem History.created_for (h : History (disturbed faults) runs s log q)
    (horigins : ∀ k, (origins k).identity = .ok (runs k).identity)
    (hu : (j, u) ∈ creations log) :
    u ∈ q.store.users ∧ u.email = (runs j).email ∧ u.authService = (origins j).provider := by
  obtain ⟨hmem, id, now, username, rfl⟩ := h.of_creation hu
  exact ⟨hmem, rfl, Origin.provider_of_identity (horigins j)⟩

/-- A run returns the user whom a run for the other provider has created if the origins meet. -/
theorem History.user_eq_iff_meets (h : History (disturbed faults) runs s log q) (hs : s.Sound)
    (horigins : ∀ k, (origins k).identity = .ok (runs k).identity)
    (hk : q.rest k = .done (.ok p)) (hu : (j, u) ∈ creations log)
    (hne : (origins j).provider ≠ (origins k).provider) :
    p.user = u ↔ (origins j).Meets (origins k) := by
  obtain ⟨hmem, hemail, -⟩ := h.created_for horigins hu
  obtain ⟨hpmem, hpemail⟩ := h.mem_users hk
  rw [← Origin.meets_iff (horigins j) (horigins k) hne]
  constructor
  · rintro rfl
    rw [hemail] at hpemail
    exact hpemail
  · intro hsame
    refine (h.sound hs).eq_of_email hpmem hmem ?_
    rw [hemail]
    exact Text.sameIgnoringCase_trans hpemail (Text.sameIgnoringCase_symm hsame)

theorem History.exists_creator (h : History (disturbed faults) runs .empty log q)
    (horigins : ∀ k, (origins k).identity = .ok (runs k).identity)
    (hk : q.rest k = .done (.ok p)) :
    ∃ j, (j, p.user) ∈ creations log ∧ p.user.authService = (origins j).provider := by
  obtain ⟨j, hj⟩ := h.exists_creation (h.mem_users hk).1
  exact ⟨j, hj, (h.created_for horigins hj).2.2⟩

/-- From the empty store on, a run for an identity of one provider returns a user whom a run for the
other provider has created if and only if the claims of the one carry the email that is made for the
account of the other. A run that meets with no such user returns one of its own provider. -/
theorem providers_meet_by_email (horigins : ∀ k, (origins k).identity = .ok (runs k).identity)
    (h : History (disturbed faults) runs .empty log q) (k : ι) (p : Provisioned)
    (hk : q.rest k = .done (.ok p)) :
    (∃ j, (j, p.user) ∈ creations log ∧ p.user.authService = (origins j).provider) ∧
    (∀ j u, (j, u) ∈ creations log → (origins j).provider ≠ (origins k).provider →
      (p.user = u ↔ (origins j).Meets (origins k))) ∧
    ((∀ j u, (j, u) ∈ creations log → ¬ (origins j).Meets (origins k)) →
      p.user.authService = (origins k).provider) := by
  obtain ⟨j, hj, hservice⟩ := h.exists_creator horigins hk
  refine ⟨⟨j, hj, hservice⟩, fun _ _ hu hne =>
    h.user_eq_iff_meets Store.sound_empty horigins hk hu hne, fun hnever => ?_⟩
  rw [hservice]
  by_cases hsame : (origins j).provider = (origins k).provider
  · exact hsame
  · exact absurd ((h.user_eq_iff_meets Store.sound_empty horigins hk hj hsame).mp rfl)
      (hnever j _ hj)

end Runs

/-- Somebody with an account at Odoo, somebody whose claims carry the email for that account, and
somebody whose claims carry none. -/
inductive Stranger where
  | owner
  | claimant
  | bystander
  deriving DecidableEq, Inhabited

namespace Stranger

def origin : Stranger → Origin
  | owner => .odoo ⟨42, "bob", "", none, false, false, []⟩ "bob"
  | claimant => .oidc ⟨"mallory", "Odoo_42@odoo.local", some false, "", "", "", ""⟩
  | bystander => .oidc ⟨"odoo_42", "", none, "", "", "", ""⟩

def run (k : Stranger) : Run where
  identity := match k with
    | owner => ⟨.odoo, "42", false, false, "", "bob", "odoo_42@odoo.local", "", "", "42", []⟩
    | claimant => ⟨.openId, "mallory", false, false, "", "Odoo_42", "odoo_42@odoo.local", "", "",
      "mallory", []⟩
    | bystander => ⟨.openId, "odoo_42", false, false, "", "odoo_42", "oidc_odoo_42@oidc.local", "",
      "", "odoo_42", []⟩
  client := ⟨none, none, false⟩
  firstSerial := 2 * k.ctorIdx
  secondSerial := 2 * k.ctorIdx + 1

def turns : List (Stranger × Fresh) :=
  let fresh (id : String) : Fresh := ⟨⟨id⟩, ⟨id⟩, ⟨id⟩, ⟨id⟩, ⟨0⟩⟩
  [(owner, fresh "1"), (owner, fresh "2"), (owner, fresh "3"), (claimant, fresh "4"),
    (claimant, fresh "5"), (bystander, fresh "6"), (bystander, fresh "7"), (bystander, fresh "8")]

def order : List Stranger :=
  [owner, owner, owner, claimant, claimant, bystander, bystander, bystander]

def result : Stranger → Provisioned
  | owner => ⟨user "2" owner "bob", true, session "3" "2", []⟩
  | claimant => ⟨user "2" owner "bob", false, session "5" "2", []⟩
  | bystander => ⟨user "7" bystander "odoo_42", true, session "8" "7", []⟩
where
  user (id : String) (k : Stranger) (username : String) : User :=
    .ofNew ⟨id⟩ ⟨0⟩ (newUser k.run.identity username)
  session (id user : String) : Session := .issue ⟨id⟩ ⟨id⟩ ⟨0⟩ ⟨user⟩ ⟨none, none, false⟩

def created : List (Stranger × User) :=
  [(owner, owner.result.user), (bystander, bystander.result.user)]

end Stranger

theorem strangers_finish : ∃ log q,
    Interleaving executes Stranger.run (.start Stranger.run .empty) log q ∧
      (∀ k, q.rest k = .done (.ok (Stranger.result k))) ∧
      log.map (·.run) = Stranger.order ∧ creations log = Stranger.created := by
  have h : ∀ k, ((Pool.start Stranger.run .empty).play? Stranger.run Stranger.turns).map
      (fun played => (played.2.rest k).result?) = some (some (.ok (Stranger.result k))) := by
    rintro (_ | _ | _) <;> decide +kernel
  have hlog : ((Pool.start Stranger.run .empty).play? Stranger.run Stranger.turns).map
      (fun played => (played.1.map (·.run), creations played.1)) =
        some (Stranger.order, Stranger.created) := by
    decide +kernel
  obtain ⟨log, q, hplay, hresults⟩ := Pool.exists_play? h
  rw [hplay] at hlog
  have hlog := Option.some.inj hlog
  exact ⟨log, q, .of_play? hplay, hresults, congrArg Prod.fst hlog, congrArg Prod.snd hlog⟩

theorem Stranger.identity_origin (k : Stranger) : k.origin.identity = .ok k.run.identity := by
  have h : k.origin.identity.toOption = some k.run.identity := by cases k <;> decide +kernel
  exact Program.toOption_eq_some_iff.mp h

/-- The claimant meets with the user of the owner, and the bystander with none. -/
theorem strangers_meet_by_email : ∃ log q,
    History (disturbed fun _ _ => False) Stranger.run .empty log q ∧
      (Stranger.result .claimant).user = (Stranger.result .owner).user ∧
      (Stranger.result .bystander).user ≠ (Stranger.result .owner).user ∧
      (Stranger.result .bystander).user.authService = .openId := by
  obtain ⟨log, q, hruns, hfinish, -, hcreations⟩ := strangers_finish
  have h := hruns.history.withFaults fun _ _ => False
  have hmem : (.owner, (Stranger.result .owner).user) ∈ creations log := by
    rw [hcreations]
    exact List.mem_cons_self
  have hcarries : (Stranger.origin .owner).Meets (Stranger.origin .claimant) := by
    constructor <;> decide +kernel
  have hlacks : ¬ (Stranger.origin .owner).Meets (Stranger.origin .bystander) :=
    fun hmeets => hmeets.1 rfl
  obtain ⟨-, hmeet, -⟩ :=
    providers_meet_by_email Stranger.identity_origin h .claimant _ (hfinish _)
  obtain ⟨-, hpart, hown⟩ :=
    providers_meet_by_email Stranger.identity_origin h .bystander _ (hfinish _)
  refine ⟨log, q, h, (hmeet .owner _ hmem (by decide)).mpr hcarries,
    fun heq => hlacks ((hpart .owner _ hmem (by decide)).mp heq), hown fun j u hu => ?_⟩
  rw [hcreations] at hu
  simp only [Stranger.created, List.mem_cons, Prod.mk.injEq, List.not_mem_nil, or_false] at hu
  obtain ⟨rfl, -⟩ | ⟨rfl, -⟩ := hu
  · exact hlacks
  · exact fun hmeets => hmeets

/-- Whoever brings the email of a user at Odoo among the claims gets that user. -/
theorem stranger_gets_user :
    ∃ (log : List (Event Stranger)) (q : Pool Stranger) (p : Provisioned),
      (∀ k : Stranger, k.origin.identity = .ok k.run.identity) ∧
        (Stranger.origin .owner).provider = .odoo ∧
        (Stranger.origin .claimant).provider = .openId ∧
        Interleaving executes Stranger.run (.start Stranger.run .empty) log q ∧
        log.map (·.run) = Stranger.order ∧ q.rest .claimant = .done (.ok p) ∧
        (.owner, p.user) ∈ creations log ∧
        p.user.authService ≠ (Stranger.origin .claimant).provider := by
  obtain ⟨log, q, hruns, hfinish, horder, hcreations⟩ := strangers_finish
  refine ⟨log, q, Stranger.result .claimant, Stranger.identity_origin, rfl, rfl, hruns, horder,
    hfinish _, ?_, by decide⟩
  rw [hcreations]
  exact List.mem_cons_self

end Provisioning

end FederatedLogin
