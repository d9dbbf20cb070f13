import Mathlib.Data.List.Induction
import FederatedLogin.Proofs.Provisioning.History

/-! # Where memberships come from

Runs give nobody a place in a team but a user with the email of an identity, in the team of one of
its organizations, and never a higher role than the identity grants. Call by call this follows from
what a run has been told before, which is true of the store.
-/

namespace FederatedLogin

def Identity.teamRole (i : Identity) : TeamRole := if i.grantsTeamAdmin then .admin else .member

theorem Identity.teamRole_eq_admin_iff {i : Identity} :
    i.teamRole = .admin ↔ i.grantsTeamAdmin = true := by
  simp [teamRole]

namespace Provisioning

open Store (Call Attests Effect Grows)
open Program (Turn)

/-- A user of an identity in a team of one of its organizations. -/
structure Brings (i : Identity) (t : Store) (team : TeamId) (user : UserId) : Prop where
  user : ∃ u ∈ t.users, u.id = user ∧ Text.sameIgnoringCase u.email i.email = true
  team : ∃ x ∈ t.teams, x.id = team ∧ x.name ∈ slugs i.organizations

/-- Teams and roles that a store has beyond another one come from some identities. -/
structure Accounted (who : Identity → Prop) (s t : Store) : Prop where
  teams : ∀ x ∈ t.teams, x ∈ s.teams ∨
    ∃ i, who i ∧ ∃ o ∈ i.organizations, x.name = Slug.ofName o.name ∧ x.displayName = o.name
  roles : ∀ team user role, t.HasRole team user role → s.HasRole team user role ∨
    ∃ i, who i ∧ i.teamRole.includes role = true ∧ Brings i t team user

section Accounted

variable {who who' : Identity → Prop} {i : Identity} {client : ClientContext} {s m t : Store}
  {early : List (Turn Call.Answer)} {name : String}

theorem Brings.grows {team : TeamId} {user : UserId} (h : Brings i s team user)
    (hg : Grows s t) : Brings i t team user := by
  obtain ⟨⟨u, hu, hid, he⟩, ⟨x, hx, hxid, hname⟩⟩ := h
  exact ⟨⟨u, hg.users.subset hu, hid, he⟩, ⟨x, hg.teams.subset hx, hxid, hname⟩⟩

theorem Accounted.refl (who : Identity → Prop) (s : Store) : Accounted who s s :=
  ⟨fun _ => .inl, fun _ _ _ => .inl⟩

theorem Accounted.mono (h : Accounted who s t) (hwho : ∀ i, who i → who' i) :
    Accounted who' s t where
  teams x hx := (h.teams x hx).imp_right fun ⟨i, hi, ho⟩ => ⟨i, hwho i hi, ho⟩
  roles team user role hr :=
    (h.roles team user role hr).imp_right fun ⟨i, hi, hb⟩ => ⟨i, hwho i hi, hb⟩

theorem Accounted.trans (h : Accounted who s m) (h' : Accounted who m t) (hg : Grows m t) :
    Accounted who s t where
  teams x hx := (h'.teams x hx).elim (h.teams x) .inr
  roles team user role hr := by
    rcases h'.roles team user role hr with hr | hnew
    · exact (h.roles team user role hr).imp_right fun ⟨i, hi, hrole, hb⟩ =>
        ⟨i, hi, hrole, hb.grows hg⟩
    · exact .inr hnew

theorem accounted_of_eq (hteams : t.teams = s.teams) (hmembers : t.memberships = s.memberships) :
    Accounted who s t where
  teams x hx := .inl (hteams ▸ hx)
  roles team user role hr := by
    rw [Store.HasRole, hmembers] at hr
    exact .inl hr

theorem KnowsUser.mem {u : User} (h : KnowsUser i early u) (hearly : ∀ x ∈ early, Attests s x) :
    u ∈ s.users ∧ Text.sameIgnoringCase u.email i.email = true := by
  rcases h with h | ⟨username, h⟩
  · exact hearly _ h
  · obtain ⟨hu, he⟩ := hearly _ h
    exact ⟨hu, Text.sameIgnoringCase_iff.mpr (congrArg Text.foldAscii he)⟩

theorem KnowsTeam.mem {x : Team} (h : KnowsTeam early name x)
    (hearly : ∀ x ∈ early, Attests s x) : x ∈ s.teams ∧ x.name = name := by
  rcases h with h | ⟨displayName, h⟩
  · exact hearly _ h
  · exact hearly _ h

/-- What a run has been told makes a place in a team one that its identity brings. -/
theorem brings_of_knows {u : User} {x : Team} (hu : KnowsUser i early u)
    (hname : name ∈ slugs i.organizations) (hx : KnowsTeam early name x)
    (hearly : ∀ x ∈ early, Attests s x) : Brings i s x.id u.id := by
  obtain ⟨hu, he⟩ := hu.mem hearly
  obtain ⟨hmem, rfl⟩ := hx.mem hearly
  exact ⟨⟨u, hu, rfl, he⟩, ⟨x, hmem, rfl, hname⟩⟩

theorem accounted_of_effect {fresh : Fresh} {c : Call} {a : c.Answer} (h : Effect fresh s c a t)
    (hasks : Asks i client early c) (hearly : ∀ x ∈ early, Attests s x) :
    Accounted (· = i) s t := by
  cases h with
  | teamCreated new =>
    refine { Accounted.refl _ _ with teams := fun x hx => ?_ }
    rcases List.mem_append.mp hx with hx | hx
    · exact .inl hx
    · cases hasks with
      | createTeam ho _ =>
        obtain rfl := List.mem_singleton.mp hx
        exact .inr ⟨i, rfl, _, ho, rfl, rfl⟩
  | memberAdded =>
    refine { Accounted.refl _ _ with roles := fun team user role hr => ?_ }
    obtain ⟨m, hm, rfl, rfl, hrole⟩ := hr
    rcases List.mem_append.mp hm with hm | hm
    · exact .inl ⟨m, hm, rfl, rfl, hrole⟩
    · cases hasks with
      | join hu hname hx =>
        obtain rfl := List.mem_singleton.mp hm
        have hb : Brings i s _ _ := brings_of_knows hu hname hx hearly
        refine .inr ⟨i, rfl, ?_, hb.user, hb.team⟩
        have hmember : role = .member := by cases role <;> first | rfl | cases hrole
        exact hmember ▸ TeamRole.includes_member _
  | roleSet team₀ user₀ role₀ =>
    refine { Accounted.refl _ _ with roles := fun team user role hr => ?_ }
    obtain ⟨_, hset, rfl, rfl, hrole⟩ := hr
    obtain ⟨m, hm, rfl⟩ := List.mem_map.mp hset
    rw [Store.setRoleOf_team, Store.setRoleOf_user]
    by_cases hjoins : m.joins team₀ user₀ = true
    · obtain ⟨hteam, huser⟩ : m.team = team₀ ∧ m.user = user₀ := by
        simpa [Membership.joins] using hjoins
      rw [hteam, huser]
      cases hasks with
      | grant hgrants hu hname hx _ _ =>
        have hb : Brings i s _ _ := brings_of_knows hu hname hx hearly
        refine .inr ⟨i, rfl, ?_, hb.user, hb.team⟩
        rw [Identity.teamRole, if_pos hgrants]
        exact TeamRole.admin_includes role
    · rw [Store.setRoleOf, if_neg hjoins] at hrole
      exact .inl ⟨m, hm, rfl, rfl, hrole⟩
  | _ => exact accounted_of_eq rfl rfl

theorem accounted_of_disturbed {faults : Call → Store.Fault → Prop} {c : Call} {a : c.Answer}
    (h : Store.disturbed faults s c a t) (hasks : Asks i client early c)
    (hearly : ∀ x ∈ early, Attests s x) : Accounted (· = i) s t := by
  rcases h with h | ⟨_, _, _, rfl⟩
  · obtain ⟨_, _, he⟩ := Store.effect_of_executes h
    exact accounted_of_effect he hasks hearly
  · exact .refl _ _

end Accounted

/-! ## In histories -/

section History

variable {ι : Type} [DecidableEq ι] {runs : ι → Run} {s : Store} {q : Pool ι}
  {log log' : List (Event ι)}

def RunsFor (runs : ι → Run) (log : List (Event ι)) (i : Identity) : Prop :=
  ∃ k, turnsOf k log ≠ [] ∧ (runs k).identity = i

theorem RunsFor.append {i : Identity} (h : RunsFor runs log i) (log' : List (Event ι)) :
    RunsFor runs (log ++ log') i := by
  obtain ⟨k, hk, hi⟩ := h
  refine ⟨k, ?_, hi⟩
  rw [turnsOf_append]
  exact List.append_ne_nil_of_left_ne_nil hk _

theorem runsFor_snoc (log : List (Event ι)) (e : Event ι) :
    RunsFor runs (log ++ [e]) (runs e.run).identity := by
  refine ⟨e.run, ?_, rfl⟩
  rw [turnsOf_append, turnsOf_cons_self e.run e.turn]
  exact List.append_ne_nil_of_right_ne_nil _ (List.cons_ne_nil _ _)

/-- Whatever the schedule and the faults, all that is new comes from the identities of the runs. -/
theorem History.accounted {faults : Call → Store.Fault → Prop}
    (h : History (Store.disturbed faults) runs s log q) :
    Accounted (RunsFor runs log) s q.store := by
  induction log using List.reverseRecOn generalizing q with
  | nil =>
    cases h.trace with
    | nil he => exact he ▸ .refl _ _
  | append_singleton log e ih =>
    obtain ⟨m, hm, htrace⟩ := h.exists_of_append
    obtain ⟨t, hc, htrace⟩ := htrace.exists_of_cons
    obtain rfl : t = q.store := by
      cases htrace with
      | nil he => exact he
    have hstep := accounted_of_disturbed hc h.asks (hm.attests e.run)
    have hnew : ∀ i, i = (runs e.run).identity → RunsFor runs (log ++ [e]) i := by
      rintro _ rfl
      exact runsFor_snoc log e
    exact ((ih hm).mono fun i hi => hi.append [e]).trans (hstep.mono hnew)
      (Store.grows_of_disturbed hc h.asks.raises)

end History

end Provisioning

end FederatedLogin
