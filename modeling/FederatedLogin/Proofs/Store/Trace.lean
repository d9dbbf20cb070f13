import FederatedLogin.Proofs.Program.Path
import FederatedLogin.Proofs.Store.Reachable
import FederatedLogin.Store.Fault

/-! # Traces

What becomes of a store over a list of turns, where a fault may answer a call in place of the store
and others may be at work between two calls. As long as no role is lowered a store only grows, and
so what an answer has told of it stays true.
-/

namespace FederatedLogin

namespace TeamRole

theorem includes_refl (r : TeamRole) : r.includes r = true := by
  cases r <;> rfl

theorem includes_member (r : TeamRole) : r.includes .member = true := by
  cases r <;> rfl

theorem admin_includes (r : TeamRole) : TeamRole.admin.includes r = true := by
  cases r <;> rfl

theorem includes_admin_iff {r : TeamRole} : r.includes .admin = true ↔ r = .admin := by
  cases r <;> simp [includes]

theorem ne_admin_iff {r : TeamRole} : r ≠ .admin ↔ r = .member := by
  cases r <;> simp

end TeamRole

namespace Store

open Program (Turn)

/-- Every call is executed or answered by one of the faults that it may meet with. -/
def disturbed (faults : Call → Fault → Prop) : Service := fun s c a t =>
  executes s c a t ∨ ∃ fault, faults c fault ∧ fault.answer? c = some a ∧ t = s

/-- Turns with a store. Others may change it before each of them and after the last. -/
inductive Trace (service : Service) (others : Store → Store → Prop) :
    Store → List (Turn Call.Answer) → Store → Prop where
  | nil {s t : Store} : others s t → Trace service others s [] t
  | cons {s s' t t' : Store} {c : Call} {a : c.Answer} {turns : List (Turn Call.Answer)} :
      others s s' → service s' c a t' → Trace service others t' turns t →
      Trace service others s (⟨c, a⟩ :: turns) t

section Trace

variable {service service' : Service} {others others' : Store → Store → Prop} {s t : Store}
  {turns early late : List (Turn Call.Answer)}

theorem Trace.mono (h : Trace service others s turns t)
    (hservice : ∀ s c a t, service s c a t → service' s c a t)
    (hothers : ∀ s t, others s t → others' s t) : Trace service' others' s turns t := by
  induction h with
  | nil h => exact .nil (hothers _ _ h)
  | cons h hc _ ih => exact .cons (hothers _ _ h) (hservice _ _ _ _ hc) ih

theorem Trace.disturbed (faults : Call → Fault → Prop) (h : Trace executes others s turns t) :
    Trace (disturbed faults) others s turns t :=
  h.mono (fun _ _ _ _ => .inl) fun _ _ => id

theorem Trace.exists_append (hrefl : ∀ s, others s s)
    (h : Trace service others s (early ++ late) t) :
    ∃ m, Trace service others s early m ∧ Trace service others m late t := by
  induction early generalizing s with
  | nil => exact ⟨s, .nil (hrefl s), h⟩
  | cons turn early ih =>
    cases h with
    | cons ho hc h =>
      obtain ⟨m, hm, ht⟩ := ih h
      exact ⟨m, .cons ho hc hm, ht⟩

/-- Others may have been at work for longer. -/
theorem Trace.preceded (htrans : ∀ s t u, others s t → others t u → others s u) {u : Store}
    (h : others s t) (ht : Trace service others t turns u) : Trace service others s turns u := by
  cases ht with
  | nil h' => exact .nil (htrans _ _ _ h h')
  | cons h' hc ht => exact .cons (htrans _ _ _ h h') hc ht

theorem Trace.exists_of_cons (h : Trace service Eq s (⟨c, a⟩ :: late) t) :
    ∃ m, service s c a m ∧ Trace service Eq m late t := by
  cases h with
  | cons ho hc h =>
    subst ho
    exact ⟨_, hc, h⟩

end Trace

/-! ## Growth -/

/-- A user is in a team, with a role that includes the given one. -/
def HasRole (s : Store) (team : TeamId) (user : UserId) (role : TeamRole) : Prop :=
  ∃ m ∈ s.memberships, m.team = team ∧ m.user = user ∧ m.role.includes role = true

/-- Users, teams and members stay, and no role is lowered. -/
structure Grows (s t : Store) : Prop where
  users : s.users <+: t.users
  teams : s.teams <+: t.teams
  roles : ∀ team user role, s.HasRole team user role → t.HasRole team user role

def Raises : Call → Prop
  | .setTeamRole _ _ role => role = .admin
  | .findUserByEmail _ | .createUser _ | .findTeamByName _ | .createTeam _ | .addUserToTeam _ _
  | .issueSession _ _ => True

section Grows

variable {faults : Call → Fault → Prop} {others : Store → Store → Prop} {s t : Store}
  {turns : List (Turn Call.Answer)} {c : Call} {a : c.Answer}

theorem Grows.refl (s : Store) : Grows s s :=
  ⟨List.prefix_rfl, List.prefix_rfl, fun _ _ _ => id⟩

theorem Grows.trans {u : Store} (h : Grows s t) (h' : Grows t u) : Grows s u :=
  ⟨h.users.trans h'.users, h.teams.trans h'.teams, fun team user role hr =>
    h'.roles team user role (h.roles team user role hr)⟩

theorem Effect.grows {fresh : Fresh} (h : Effect fresh s c a t) (hc : Raises c) : Grows s t := by
  cases h with
  | userCreated => exact { Grows.refl s with users := List.prefix_append _ _ }
  | teamCreated => exact { Grows.refl s with teams := List.prefix_append _ _ }
  | memberAdded =>
    refine { Grows.refl s with roles := fun team user role => ?_ }
    rintro ⟨m, hm, hk⟩
    exact ⟨m, List.mem_append_left _ hm, hk⟩
  | roleSet team₀ user₀ role₀ =>
    cases hc
    refine { Grows.refl s with roles := fun team user role => ?_ }
    rintro ⟨m, hm, ht, hu, hr⟩
    refine ⟨_, List.mem_map_of_mem hm, by simp [ht], by simp [hu], ?_⟩
    unfold setRoleOf
    split
    · exact TeamRole.admin_includes role
    · exact hr
  | _ => exact ⟨List.prefix_rfl, List.prefix_rfl, fun _ _ _ => id⟩

theorem grows_of_executes (h : executes s c a t) (hc : Raises c) : Grows s t := by
  obtain ⟨_, _, he⟩ := effect_of_executes h
  exact he.grows hc

theorem grows_of_disturbed (h : disturbed faults s c a t) (hc : Raises c) : Grows s t := by
  rcases h with h | ⟨_, _, _, rfl⟩
  · exact grows_of_executes h hc
  · exact .refl _

theorem sound_of_disturbed (h : disturbed faults s c a t) (hs : s.Sound) : t.Sound := by
  rcases h with h | ⟨_, _, _, rfl⟩
  · obtain ⟨_, hf, he⟩ := effect_of_executes h
    exact hs.effect hf he
  · exact hs

theorem Trace.grows (h : Trace (Store.disturbed faults) others s turns t)
    (hothers : ∀ s t, others s t → Grows s t) (hturns : ∀ x ∈ turns, Raises x.1) : Grows s t := by
  induction h with
  | nil h => exact hothers _ _ h
  | cons h hc _ ih =>
    obtain ⟨hc', hturns⟩ := List.forall_mem_cons.mp hturns
    exact ((hothers _ _ h).trans (grows_of_disturbed hc hc')).trans (ih hturns)

theorem Trace.sound (h : Trace (Store.disturbed faults) Eq s turns t) (hs : s.Sound) :
    t.Sound := by
  induction h with
  | nil h => exact h ▸ hs
  | cons h hc _ ih => exact ih (sound_of_disturbed hc (h ▸ hs))

end Grows

/-! ## What an answer tells -/

/-- What a turn tells of the store. -/
def Attests (t : Store) : Turn Call.Answer → Prop
  | ⟨.findUserByEmail email, .ok (some u)⟩ =>
    u ∈ t.users ∧ Text.sameIgnoringCase u.email email = true
  | ⟨.createUser new, .ok u⟩ => u ∈ t.users ∧ u.email = new.email
  | ⟨.findTeamByName name, .ok (some x)⟩ => x ∈ t.teams ∧ x.name = name
  | ⟨.createTeam new, .ok x⟩ => x ∈ t.teams ∧ x.name = new.name
  | ⟨.addUserToTeam team user, .ok m⟩ => t.HasRole team user m.role
  | ⟨.setTeamRole team user role, .ok ()⟩ => t.HasRole team user role
  | _ => True

section Attests

variable {faults : Call → Fault → Prop} {others : Store → Store → Prop} {s t : Store}
  {turns : List (Turn Call.Answer)}

theorem Attests.grows {x : Turn Call.Answer} (h : Attests s x) (hg : Grows s t) : Attests t x := by
  unfold Attests at h ⊢
  split
  next => exact ⟨hg.users.subset h.1, h.2⟩
  next => exact ⟨hg.users.subset h.1, h.2⟩
  next => exact ⟨hg.teams.subset h.1, h.2⟩
  next => exact ⟨hg.teams.subset h.1, h.2⟩
  next => exact hg.roles _ _ _ h
  next => exact hg.roles _ _ _ h
  next => trivial

theorem joins_of_membership? {team : TeamId} {user : UserId} {m : Membership}
    (h : s.membership? team user = some m) : m.team = team ∧ m.user = user := by
  rw [membership?] at h
  simpa [Membership.joins] using List.find?_some h

theorem Effect.attests {fresh : Fresh} {c : Call} {a : c.Answer} (h : Effect fresh s c a t) :
    Attests t ⟨c, a⟩ := by
  cases h with
  | userSought email =>
    cases hu : s.userByEmail? email with
    | none => trivial
    | some u => exact ⟨List.mem_of_find?_eq_some hu, email_of_userByEmail? hu⟩
  | userCreated => exact ⟨List.mem_append_right _ List.mem_cons_self, rfl⟩
  | teamSought name =>
    cases hx : s.teamByName? name with
    | none => trivial
    | some x => exact ⟨List.mem_of_find?_eq_some hx, by simpa using List.find?_some hx⟩
  | teamCreated => exact ⟨List.mem_append_right _ List.mem_cons_self, rfl⟩
  | memberAlready team user m _ _ hm =>
    obtain ⟨ht, hu⟩ := joins_of_membership? hm
    exact ⟨m, List.mem_of_find?_eq_some hm, ht, hu, TeamRole.includes_refl _⟩
  | memberAdded =>
    exact ⟨_, List.mem_append_right _ List.mem_cons_self, rfl, rfl, TeamRole.includes_refl _⟩
  | roleSet team user role hm =>
    obtain ⟨m, hm⟩ := Option.ne_none_iff_exists'.mp hm
    obtain ⟨ht, hu⟩ := joins_of_membership? hm
    refine ⟨_, List.mem_map_of_mem (List.mem_of_find?_eq_some hm), by simp [ht], by simp [hu], ?_⟩
    simp [setRoleOf, Membership.joins, ht, hu, TeamRole.includes_refl]
  | _ => trivial

theorem attests_of_answer? {fault : Fault} {c : Call} {a : c.Answer}
    (h : fault.answer? c = some a) (t : Store) : Attests t ⟨c, a⟩ := by
  cases fault with
  | pass => cases h
  | fail error =>
    cases h
    cases c <;> trivial
  | findNothing => cases c <;> cases h <;> trivial

theorem attests_of_disturbed {c : Call} {a : c.Answer} (h : disturbed faults s c a t) :
    Attests t ⟨c, a⟩ := by
  rcases h with h | ⟨_, _, ha, rfl⟩
  · obtain ⟨_, _, he⟩ := effect_of_executes h
    exact he.attests
  · exact attests_of_answer? ha _

/-- What the turns of a trace tell is true at its end. -/
theorem Trace.attests (h : Trace (Store.disturbed faults) others s turns t)
    (hothers : ∀ s t, others s t → Grows s t) (hturns : ∀ x ∈ turns, Raises x.1) :
    ∀ x ∈ turns, Attests t x := by
  induction h with
  | nil _ => exact List.forall_mem_nil _
  | cons h hc hrest ih =>
    obtain ⟨_, hturns⟩ := List.forall_mem_cons.mp hturns
    have hg := hrest.grows hothers hturns
    exact List.forall_mem_cons.mpr ⟨(attests_of_disturbed hc).grows hg, ih hturns⟩

end Attests

end Store

end FederatedLogin
