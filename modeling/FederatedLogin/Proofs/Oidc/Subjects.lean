import FederatedLogin.Proofs.Oidc.Identity
import FederatedLogin.Proofs.Provisioning.Returned

/-! # Subjects and local users

Where claims hold a subject and no email, the lower-case form of the subject decides which local
user somebody gets. Two people whose subjects differ in case alone are one local user, under the
subject of the one who came first.
-/

namespace FederatedLogin.Oidc

open Provisioning
open Store (Call disturbed executes)

namespace Claims

variable {c c' : Claims}

/-- Claims without an email have an identity whose key is the subject as it is, and whose email
tells it apart by its lower-case form. -/
theorem HasSubjectOnly.identities (h : c.HasSubjectOnly) (h' : c'.HasSubjectOnly) :
    ∃ i i', c.identity = .ok i ∧ c'.identity = .ok i' ∧ i.authKey = c.subject ∧
      i'.authKey = c'.subject ∧ (Text.sameIgnoringCase i.email i'.email = true ↔
        Text.lower c.subject = Text.lower c'.subject) := by
  obtain ⟨i, hi⟩ := h.identity_of
  obtain ⟨i', hi'⟩ := h'.identity_of
  obtain ⟨-, hemail, hkey⟩ := of_identity hi
  obtain ⟨-, hemail', hkey'⟩ := of_identity hi'
  refine ⟨i, i', hi, hi', hkey.trans h.key_eq, hkey'.trans h'.key_eq, ?_⟩
  rw [hemail, hemail', sameIgnoringCase_resolvedEmail_iff h.email h'.email]

end Claims

section Runs

variable {ι : Type} [DecidableEq ι] {faults : Call → Store.Fault → Prop} {runs : ι → Run}
  {claims : ι → Claims} {s : Store} {q : Pool ι} {log : List (Event ι)} {j k : ι}
  {p p' : Provisioned}

theorem userId_eq_iff (hclaims : ∀ k, (claims k).HasSubjectOnly)
    (hruns : ∀ k, (claims k).identity = .ok (runs k).identity) (hs : s.Sound)
    (h : History (disturbed faults) runs s log q) (hj : q.rest j = .done (.ok p))
    (hk : q.rest k = .done (.ok p')) :
    p.user.id = p'.user.id ↔ Text.lower (claims j).subject = Text.lower (claims k).subject := by
  have hemail (k : ι) : (runs k).email = (claims k).resolvedEmail :=
    (Claims.of_identity (hruns k)).2.1
  rw [h.userId_eq_iff hs hj hk, hemail, hemail,
    Claims.sameIgnoringCase_resolvedEmail_iff (hclaims j).email (hclaims k).email]

theorem authData_of_creation (hclaims : ∀ k, (claims k).HasSubjectOnly)
    (hruns : ∀ k, (claims k).identity = .ok (runs k).identity)
    (h : History (disturbed faults) runs s log q) {u : User} (hu : (k, u) ∈ creations log) :
    u.authData = some (claims k).subject := by
  obtain ⟨-, id, now, username, rfl⟩ := h.of_creation hu
  obtain ⟨-, -, hkey⟩ := Claims.of_identity (hruns k)
  exact congrArg some (hkey.trans (hclaims k).key_eq)

end Runs

/-- Claims that hold a subject and no email have identities, whose emails are the same ignoring the
case of ASCII letters if and only if the subjects are the same in lower case. Over a store that is
sound, such as the empty one, two runs for such claims return the same local user if and only if
that is so, in any order of the calls of any runs and whatever faults they meet with. The key that
is kept is the subject as it is. -/
theorem users_by_lower_subject :
    (∀ c c' : Claims, c.HasSubjectOnly → c'.HasSubjectOnly →
      ∃ i i', c.identity = .ok i ∧ c'.identity = .ok i' ∧ i.authKey = c.subject ∧
        i'.authKey = c'.subject ∧ (Text.sameIgnoringCase i.email i'.email = true ↔
          Text.lower c.subject = Text.lower c'.subject)) ∧
    ∀ (ι : Type) [DecidableEq ι] (faults : Call → Store.Fault → Prop) (runs : ι → Run)
      (claims : ι → Claims) (s : Store) (log : List (Event ι)) (q : Pool ι),
      (∀ k, (claims k).HasSubjectOnly) → (∀ k, (claims k).identity = .ok (runs k).identity) →
      s.Sound → History (disturbed faults) runs s log q →
      (∀ j k p p', q.rest j = .done (.ok p) → q.rest k = .done (.ok p') →
        (p.user.id = p'.user.id ↔
          Text.lower (claims j).subject = Text.lower (claims k).subject)) ∧
      ∀ k u, (k, u) ∈ creations log → u.authData = some (claims k).subject := by
  refine ⟨fun c c' h h' => h.identities h', ?_⟩
  intro ι _ faults runs claims s log q hclaims hruns hs h
  exact ⟨fun j k p p' hj hk => userId_eq_iff hclaims hruns hs h hj hk,
    fun k u hu => authData_of_creation hclaims hruns h hu⟩

/-- People of whom two have subjects that differ in case alone. -/
inductive Namesake where
  | ada
  | smallAda
  | bob
  deriving DecidableEq, Inhabited

namespace Namesake

def subject : Namesake → String
  | ada => "Ada"
  | smallAda => "ada"
  | bob => "bob"

def email : Namesake → String
  | ada | smallAda => "oidc_ada@oidc.local"
  | bob => "oidc_bob@oidc.local"

def claims (k : Namesake) : Claims := ⟨k.subject, "", none, "", "", "", ""⟩

def run (k : Namesake) : Run where
  identity := ⟨.openId, k.subject, false, false, "", k.subject, k.email, "", "", k.subject, []⟩
  client := ⟨none, none, false⟩
  firstSerial := 2 * k.ctorIdx
  secondSerial := 2 * k.ctorIdx + 1

def turns : List (Namesake × Fresh) :=
  let fresh (id : String) : Fresh := ⟨⟨id⟩, ⟨id⟩, ⟨id⟩, ⟨id⟩, ⟨0⟩⟩
  [(ada, fresh "1"), (ada, fresh "2"), (ada, fresh "3"), (smallAda, fresh "4"),
    (smallAda, fresh "5"), (bob, fresh "6"), (bob, fresh "7"), (bob, fresh "8")]

def order : List Namesake := [ada, ada, ada, smallAda, smallAda, bob, bob, bob]

def result : Namesake → Provisioned
  | ada => ⟨user "2" ada "ada", true, session "3" "2", []⟩
  | smallAda => ⟨user "2" ada "ada", false, session "5" "2", []⟩
  | bob => ⟨user "7" bob "bob", true, session "8" "7", []⟩
where
  user (id : String) (k : Namesake) (username : String) : User :=
    .ofNew ⟨id⟩ ⟨0⟩ (newUser k.run.identity username)
  session (id user : String) : Session := .issue ⟨id⟩ ⟨id⟩ ⟨0⟩ ⟨user⟩ ⟨none, none, false⟩

end Namesake

theorem namesakes_finish : ∃ log q,
    Interleaving executes Namesake.run (.start Namesake.run .empty) log q ∧
      (∀ k, q.rest k = .done (.ok (Namesake.result k))) ∧ log.map (·.run) = Namesake.order := by
  have h : ∀ k, ((Pool.start Namesake.run .empty).play? Namesake.run Namesake.turns).map
      (fun played => (played.2.rest k).result?) = some (some (.ok (Namesake.result k))) := by
    rintro (_ | _ | _) <;> decide +kernel
  have horder : ((Pool.start Namesake.run .empty).play? Namesake.run Namesake.turns).map
      (fun played => played.1.map (·.run)) = some Namesake.order := by
    decide +kernel
  obtain ⟨log, q, hplay, hresults⟩ := Pool.exists_play? h
  rw [hplay] at horder
  exact ⟨log, q, .of_play? hplay, hresults, Option.some.inj horder⟩

theorem Namesake.hasSubjectOnly (k : Namesake) : k.claims.HasSubjectOnly where
  email := rfl
  subject_ne_empty := by cases k <;> decide
  subject_ne_zero := by cases k <;> decide

theorem Namesake.identity_claims (k : Namesake) : k.claims.identity = .ok k.run.identity := by
  have h : k.claims.identity.toOption = some k.run.identity := by cases k <;> decide +kernel
  exact Program.toOption_eq_some_iff.mp h

/-- Two subjects that differ stand for one local user, also if one run follows the other. -/
theorem namesakes_share_user :
    Namesake.ada.claims.HasSubjectOnly ∧ Namesake.smallAda.claims.HasSubjectOnly ∧
      Namesake.ada.subject ≠ Namesake.smallAda.subject ∧
      (∀ k : Namesake, k.claims.identity = .ok k.run.identity) ∧
      Text.sameIgnoringCase Namesake.ada.run.email Namesake.smallAda.run.email = true ∧
      ∃ log q p p', Interleaving executes Namesake.run (.start Namesake.run .empty) log q ∧
        log.map (·.run) = Namesake.order ∧ q.rest .ada = .done (.ok p) ∧
        q.rest .smallAda = .done (.ok p') ∧ p.user.id = p'.user.id := by
  obtain ⟨log, q, h, hr, horder⟩ := namesakes_finish
  exact ⟨Namesake.hasSubjectOnly _, Namesake.hasSubjectOnly _, by decide, Namesake.identity_claims,
    by decide +kernel, log, q, _, _, h, horder, hr .ada, hr .smallAda, rfl⟩

/-- A third subject stands for another. -/
theorem namesakes_and_another : ∃ log q,
    Interleaving executes Namesake.run (.start Namesake.run .empty) log q ∧
      (∀ k, q.rest k = .done (.ok (Namesake.result k))) ∧
      (Namesake.result .ada).user.id = (Namesake.result .smallAda).user.id ∧
      (Namesake.result .ada).user.id ≠ (Namesake.result .bob).user.id := by
  obtain ⟨log, q, h, hr, -⟩ := namesakes_finish
  obtain ⟨husers, -⟩ := users_by_lower_subject.2 Namesake (fun _ _ => False) Namesake.run
    Namesake.claims .empty log q Namesake.hasSubjectOnly Namesake.identity_claims
    Store.sound_empty (h.history.withFaults _)
  exact ⟨log, q, h, hr, (husers .ada .smallAda _ _ (hr _) (hr _)).mpr (by decide +kernel),
    mt (husers .ada .bob _ _ (hr _) (hr _)).mp (by decide +kernel)⟩

end FederatedLogin.Oidc
