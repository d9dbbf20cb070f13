import Mathlib.Data.List.Forall2
import FederatedLogin.Proofs.Provisioning.Sequential
import FederatedLogin.Proofs.Store.Trace

/-! # Enrolment

Attempts for one identity add one user at most, under the name that the identity proposes or, where
that is in use, a generated one. Unless a conflict is made up, faults have no part in which of the
two it is, so that two ways to the same end differ in generated names alone.
-/

namespace FederatedLogin

theorem exists_of_forall₂ {α β : Type} {R : α → β → Prop} {l : List α} {l' : List β}
    (h : List.Forall₂ R l l') {a : α} (ha : a ∈ l) : ∃ b ∈ l', R a b := by
  induction h with
  | nil => cases ha
  | cons hab _ ih =>
    rcases List.mem_cons.mp ha with rfl | ha
    · exact ⟨_, List.mem_cons_self, hab⟩
    · obtain ⟨b, hb, hr⟩ := ih ha
      exact ⟨b, List.mem_cons_of_mem _ hb, hr⟩

def Username.IsGenerated (name : String) : Prop := ∃ serial, name = generated serial

/-- The same but for the id, the times and a generated username. -/
structure User.Alike (u v : User) : Prop where
  rest : { u with id := v.id, username := v.username, createdAt := v.createdAt,
                  updatedAt := v.updatedAt } = v
  username : u.username = v.username ∨
    Username.IsGenerated u.username ∧ Username.IsGenerated v.username

theorem User.Alike.refl (u : User) : u.Alike u := ⟨rfl, .inl rfl⟩

theorem User.Alike.email {u v : User} (h : u.Alike v) : u.email = v.email :=
  congrArg (·.email) h.rest

/-- Either an identity has a name to propose or it takes any name that is generated for it. -/
theorem Identity.localUsername_cases (i : Identity) :
    (∃ name, ∀ generated, i.localUsername generated = name) ∨
      ∀ generated, i.localUsername generated = generated := by
  unfold localUsername
  cases Username.clean (Text.before '@' i.loginName) with
  | none => exact .inr fun _ => rfl
  | some name => exact .inl ⟨name, fun _ => rfl⟩

namespace Store

open Program (Turn)
open Provisioning (createdUser?)

variable {faults : Call → Fault → Prop} {s t : Store} {turns : List (Turn Call.Answer)}

theorem users_of_disturbed {c : Call} {a : c.Answer} (h : disturbed faults s c a t) :
    t.users = s.users ++ (createdUser? ⟨c, a⟩).toList := by
  rcases h with h | ⟨fault, _, ha, rfl⟩
  · obtain ⟨_, _, he⟩ := effect_of_executes h
    cases he <;> simp [createdUser?]
  · cases fault <;> cases c <;> cases ha <;> simp [createdUser?]

theorem Trace.users (h : Trace (Store.disturbed faults) Eq s turns t) :
    t.users = s.users ++ turns.filterMap createdUser? := by
  induction h with
  | nil h => simp [h]
  | @cons s s' u t c a turns h hc _ ih =>
    rw [ih, users_of_disturbed hc, h, List.append_assoc, List.filterMap_cons]
    cases createdUser? ⟨c, a⟩ <;> rfl

theorem hasUsername_congr_users (h : t.users = s.users) (username : String) :
    t.hasUsername username = s.hasUsername username := by
  rw [hasUsername, h]
  rfl

/-- Only the store itself creates a user, where neither the email nor the username is in use. -/
theorem exists_of_created {new : NewUser} {u : User}
    (h : disturbed faults s (.createUser new) (.ok u) t) :
    s.userByEmail? new.email = none ∧ s.hasUsername new.username = false ∧
      ∃ id now, u = .ofNew id now new := by
  rcases h with h | ⟨fault, _, ha, _⟩
  · obtain ⟨fresh, _, he⟩ := effect_of_executes h
    cases he with
    | userCreated _ _ _ hfree hname =>
      exact ⟨userByEmail?_eq_none_iff.mpr hfree, hname, fresh.userId, fresh.now, rfl⟩
  · cases fault <;> cases ha

/-- A conflict over a user whose email is free is one over the username, unless it is made up. -/
theorem hasUsername_of_conflict {new : NewUser} {what : String}
    (h : disturbed faults s (.createUser new) (.error (.conflict what)) t)
    (hfaults : ∀ what, ¬ faults (.createUser new) (.fail (.conflict what)))
    (hfree : s.userByEmail? new.email = none) : s.hasUsername new.username = true := by
  rcases h with h | ⟨fault, hfault, ha, _⟩
  · obtain ⟨_, _, he⟩ := effect_of_executes h
    cases he with
    | emailTaken _ _ _ htaken => exact absurd (userByEmail?_eq_none_iff.mp hfree) htaken
    | usernameTaken _ _ _ _ hname => exact hname
  · cases fault with
    | fail error =>
      cases ha
      exact absurd hfault (hfaults what)
    | pass => cases ha
    | findNothing => cases ha

end Store

namespace Provisioning

open Store (Call Fault Trace disturbed)
open Program (Path Turn)

/-- A username that an identity may get: the one it proposes or, if that is in use, a generated
one. -/
inductive NamedFor (i : Identity) (s : Store) : String → Prop where
  | proposed {generated : String} : Username.IsGenerated generated →
      s.hasUsername (i.localUsername generated) = false → NamedFor i s (i.localUsername generated)
  | spare {generated other : String} : Username.IsGenerated generated →
      s.hasUsername (i.localUsername other) = true → NamedFor i s generated

/-- The users after attempts for an identity: those of before or, if none of them had the email, one
more. -/
inductive Enrolled (i : Identity) (s t : Store) : Prop where
  | kept : t.users = s.users → Enrolled i s t
  | added (id : UserId) (now : Instant) {username : String} : s.userByEmail? i.email = none →
      NamedFor i s username → t.users = s.users ++ [.ofNew id now (newUser i username)] →
      Enrolled i s t

section Enrolled

variable {i : Identity} {client : ClientContext} {spare : SpareNames} {s m t t' : Store}
  {turns : List (Turn Call.Answer)} {faults : Call → Fault → Prop}

theorem NamedFor.congr (h : t.users = s.users) {username : String} (hn : NamedFor i t username) :
    NamedFor i s username := by
  cases hn with
  | proposed hg hfree => exact .proposed hg (Store.hasUsername_congr_users h _ ▸ hfree)
  | spare hg htaken => exact .spare hg (Store.hasUsername_congr_users h _ ▸ htaken)

theorem Enrolled.of_users (h : Enrolled i s t) (ht : t'.users = t.users) : Enrolled i s t' := by
  cases h with
  | kept h => exact .kept (ht.trans h)
  | added id now hnone hname h => exact .added id now hnone hname (ht.trans h)

theorem Enrolled.trans (h : Enrolled i s m) (h' : Enrolled i m t) : Enrolled i s t := by
  cases h' with
  | kept h' => exact h.of_users h'
  | added id now hnone hname h' =>
    cases h with
    | kept h =>
      rw [Store.userByEmail?_congr_users h] at hnone
      exact .added id now hnone (hname.congr h) (h' ▸ congrArg (· ++ _) h)
    | @added id₀ now₀ username₀ hnone₀ _ h =>
      have hfound : m.userByEmail? i.email = some (.ofNew id₀ now₀ (newUser i username₀)) :=
        (Store.userByEmail?_congr_users h i.email).trans
          (Store.userByEmail?_snoc (u := .ofNew id₀ now₀ (newUser i username₀)) hnone₀)
      cases hnone.symm.trans hfound

theorem enrolled_of_userPath {r : Except Failure (User × Bool)}
    (hpath : UserPath i spare turns r) (htrace : Trace (disturbed faults) Eq s turns t)
    (hfirst : Username.IsGenerated spare.first) (hsecond : Username.IsGenerated spare.second)
    (hfaults : ∀ new what, ¬ faults (.createUser new) (.fail (.conflict what))) :
    Enrolled i s t := by
  have husers := htrace.users
  cases hpath with
  | created u =>
    obtain ⟨m, hfind, htrace⟩ := htrace.exists_of_cons
    obtain ⟨_, hcreate, _⟩ := htrace.exists_of_cons
    have hm : m.users = s.users := by simpa [createdUser?] using Store.users_of_disturbed hfind
    obtain ⟨hnone, hname, id, now, rfl⟩ := Store.exists_of_created hcreate
    rw [Store.userByEmail?_congr_users hm] at hnone
    rw [Store.hasUsername_congr_users hm] at hname
    dsimp only [newUser] at hname
    exact .added id now hnone (.proposed hfirst hname) husers
  | retried what u =>
    rw [conflictTurns, List.cons_append, List.cons_append, List.nil_append] at htrace
    obtain ⟨m, hfind, htrace⟩ := htrace.exists_of_cons
    obtain ⟨m', hrefuse, htrace⟩ := htrace.exists_of_cons
    obtain ⟨m'', hrefind, htrace⟩ := htrace.exists_of_cons
    obtain ⟨_, hcreate, _⟩ := htrace.exists_of_cons
    have hm : m.users = s.users := by simpa [createdUser?] using Store.users_of_disturbed hfind
    have hm' : m'.users = m.users := by
      simpa [createdUser?] using Store.users_of_disturbed hrefuse
    have hm'' : m''.users = m'.users := by
      simpa [createdUser?] using Store.users_of_disturbed hrefind
    obtain ⟨hnone, _, id, now, rfl⟩ := Store.exists_of_created hcreate
    rw [Store.userByEmail?_congr_users (hm''.trans hm')] at hnone
    dsimp only [newUser] at hnone
    have htaken := Store.hasUsername_of_conflict hrefuse (hfaults _) hnone
    rw [Store.userByEmail?_congr_users hm] at hnone
    rw [Store.hasUsername_congr_users hm] at htaken
    dsimp only [newUser] at htaken
    exact .added id now hnone (.spare hsecond htaken) husers
  | _ => exact .kept (husers.trans (List.append_nil _))

theorem enrolled_of_path {r : Except Failure Provisioned}
    (hpath : Path (provision i client spare) turns (.done r))
    (htrace : Trace (disturbed faults) Eq s turns t)
    (hfirst : Username.IsGenerated spare.first) (hsecond : Username.IsGenerated spare.second)
    (hfaults : ∀ new what, ¬ faults (.createUser new) (.fail (.conflict what))) :
    Enrolled i s t := by
  cases provisionPath_of_path hpath with
  | noUser huser => exact enrolled_of_userPath huser htrace hfirst hsecond hfaults
  | noSession e huser =>
    obtain ⟨m, hm, hrest⟩ := htrace.exists_append fun _ => rfl
    exact (enrolled_of_userPath huser hm hfirst hsecond hfaults).of_users
      (hrest.users.trans (List.append_nil _))
  | provisioned p huser hjoin =>
    obtain ⟨m, hm, hrest⟩ := htrace.exists_append fun _ => rfl
    refine (enrolled_of_userPath huser hm hfirst hsecond hfaults).of_users ?_
    have hjoined := joinTeams_filterMap (fun _ => createdUser?_of_isTeamCall) hjoin
    rw [hrest.users, List.filterMap_cons, hjoined]
    exact List.append_nil _

/-- Two names for one identity differ only if both are generated. -/
theorem NamedFor.alike {a b : String} (ha : NamedFor i s a) (hb : NamedFor i s b) :
    a = b ∨ Username.IsGenerated a ∧ Username.IsGenerated b := by
  rcases i.localUsername_cases with ⟨name, hname⟩ | hname
  · cases ha with
    | proposed _ ha =>
      cases hb with
      | proposed => exact .inl (by rw [hname, hname])
      | spare _ hb =>
        rw [hname] at ha hb
        cases ha.symm.trans hb
    | spare hga ha =>
      cases hb with
      | proposed _ hb =>
        rw [hname] at ha hb
        cases ha.symm.trans hb
      | spare hgb _ => exact .inr ⟨hga, hgb⟩
  · have hgenerated {c : String} (hc : NamedFor i s c) : Username.IsGenerated c := by
      cases hc with
      | @proposed generated hg => exact (hname generated).symm ▸ hg
      | spare hg => exact hg
    exact .inr ⟨hgenerated ha, hgenerated hb⟩

theorem Enrolled.alike (h : Enrolled i s t) (h' : Enrolled i s t')
    (ht : t.userByEmail? i.email ≠ none) (ht' : t'.userByEmail? i.email ≠ none) :
    List.Forall₂ User.Alike t.users t'.users := by
  have hsame : List.Forall₂ User.Alike s.users s.users :=
    List.forall₂_same.mpr fun u _ => .refl u
  cases h with
  | kept h =>
    cases h' with
    | kept h' => rwa [h, h']
    | added _ _ hnone => exact absurd ((Store.userByEmail?_congr_users h _).trans hnone) ht
  | added id now hnone hname h =>
    cases h' with
    | kept h' => exact absurd ((Store.userByEmail?_congr_users h' _).trans hnone) ht'
    | added id' now' _ hname' h' =>
      rw [h, h']
      exact List.rel_append hsame (.cons ⟨rfl, hname.alike hname'⟩ .nil)

end Enrolled

end Provisioning

end FederatedLogin
