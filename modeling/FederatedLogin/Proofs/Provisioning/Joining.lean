import FederatedLogin.Proofs.Provisioning.Memberships

/-! # Joining in company

Where no call fails by itself and others only let the store grow, nothing keeps a run from bringing
its user into the teams of its organizations: a team that others have created first is found, and a
role that is too low is raised.
-/

namespace FederatedLogin

theorem TeamRole.includes_trans {a b c : TeamRole} (h : a.includes b = true)
    (h' : b.includes c = true) : a.includes c = true := by
  cases a <;> cases b <;> first | exact h' | exact admin_includes c | cases h

namespace Store

open Program (Turn)

variable {s t : Store} {fresh : Fresh}

theorem HasRole.lower {team : TeamId} {user : UserId} {role role' : TeamRole}
    (h : s.HasRole team user role) (hr : role.includes role' = true) :
    s.HasRole team user role' := by
  obtain ⟨m, hm, ht, hu, hrole⟩ := h
  exact ⟨m, hm, ht, hu, TeamRole.includes_trans hrole hr⟩

theorem findTeamByName_eq {name : String} {a : Except StoreError (Option Team)}
    (h : executes s (.findTeamByName name) a t) : a = .ok (s.teamByName? name) ∧ t = s := by
  obtain ⟨_, _, he⟩ := effect_of_executes h
  cases he
  exact ⟨rfl, rfl⟩

theorem createTeam_cases {new : NewTeam} {a : Except StoreError Team} (hname : new.name ≠ "")
    (h : executes s (.createTeam new) a t) :
    (∃ x, a = .ok x) ∨ (∃ what, a = .error (.conflict what)) ∧ s.teamByName? new.name ≠ none ∧
      t = s := by
  obtain ⟨_, _, he⟩ := effect_of_executes h
  cases he with
  | teamUnnamed _ hn => exact absurd hn hname
  | teamNameTaken _ _ htaken => exact .inr ⟨⟨_, rfl⟩, htaken, rfl⟩
  | teamCreated => exact .inl ⟨_, rfl⟩

theorem setTeamRole_ok {team : TeamId} {user : UserId} {role role' : TeamRole}
    {a : Except StoreError Unit} (hrole : s.HasRole team user role')
    (h : executes s (.setTeamRole team user role) a t) : a = .ok () := by
  obtain ⟨_, _, he⟩ := effect_of_executes h
  cases he with
  | membershipUnknown _ _ _ hnone =>
    obtain ⟨m, hm, rfl, rfl, _⟩ := hrole
    exact absurd rfl (membership?_eq_none_iff.mp hnone m hm)
  | roleSet => rfl

theorem Grows.teamByName?_ne_none (hg : Grows s t) {name : String}
    (h : s.teamByName? name ≠ none) : t.teamByName? name ≠ none := by
  simp only [teamByName?, ne_eq, List.find?_eq_none, not_forall] at h ⊢
  obtain ⟨x, hx, hname⟩ := h
  exact ⟨x, hg.teams.subset hx, hname⟩

theorem Trace.attests_of_executes {turns : List (Turn Call.Answer)}
    (h : Trace executes Grows s turns t) (hturns : ∀ x ∈ turns, Raises x.1) :
    ∀ x ∈ turns, Attests t x :=
  (h.disturbed fun _ _ => False).attests (fun _ _ => id) hturns

theorem Trace.grows_of_executes {turns : List (Turn Call.Answer)}
    (h : Trace executes Grows s turns t) (hturns : ∀ x ∈ turns, Raises x.1) : Grows s t :=
  (h.disturbed fun _ _ => False).grows (fun _ _ => id) hturns

theorem Trace.exists_member {x : Team} {u : User} {a : Except StoreError Membership}
    {turns : List (Turn Call.Answer)}
    (h : Trace executes Grows s (⟨.addUserToTeam x.id u.id, a⟩ :: turns) t) (hx : x ∈ s.teams)
    (hu : u ∈ s.users) :
    ∃ m s', a = .ok m ∧ s'.HasRole x.id u.id m.role ∧ Trace executes Grows s' turns t := by
  cases h with | cons hothers hadd h =>
  obtain ⟨_, _, he⟩ := effect_of_executes hadd
  have hattests := he.attests
  cases he with
  | teamUnknown _ _ hnone =>
    exact absurd hnone (team?_ne_none_iff.mpr ⟨x, hothers.teams.subset hx, rfl⟩)
  | memberUnknown _ _ _ hnone =>
    exact absurd hnone (user?_ne_none_iff.mpr ⟨u, hothers.users.subset hu, rfl⟩)
  | memberAlready _ _ m => exact ⟨m, _, rfl, hattests, h⟩
  | memberAdded => exact ⟨_, _, rfl, hattests, h⟩

end Store

namespace Provisioning

open Store (Call Trace Grows Raises executes)
open Program (Path Turn path_done_iff path_call_done_iff path_bind_done_iff)

/-- A user has the role that an identity gives, in the team with a name. -/
def Placed (i : Identity) (t : Store) (user : UserId) (name : String) : Prop :=
  ∃ x ∈ t.teams, x.name = name ∧ t.HasRole x.id user i.teamRole

section Joining

variable {i : Identity} {client : ClientContext} {spare : SpareNames} {s t : Store} {u : User}
  {o : Organization} {os : List Organization} {turns : List (Turn Call.Answer)} {slug : String}

theorem Placed.grows {user : UserId} {name : String} (h : Placed i s user name) (hg : Grows s t) :
    Placed i t user name := by
  obtain ⟨x, hx, hname, hrole⟩ := h
  exact ⟨x, hg.teams.subset hx, hname, hg.roles _ _ _ hrole⟩

/-- The team is there at the end, whoever has created it. -/
theorem TeamPath.exists_team {found : Option Team} (hpath : TeamPath slug o turns found)
    (htrace : Trace executes Grows s turns t) (hslug : slug ≠ "") : ∃ x, found = some x := by
  cases hpath with
  | found x => exact ⟨x, rfl⟩
  | created x => exact ⟨x, rfl⟩
  | lookupFailed e =>
    cases htrace with | cons _ hseek _ =>
    cases (Store.findTeamByName_eq hseek).1
  | refused e hne =>
    cases htrace with | cons _ _ htrace =>
    cases htrace with | cons _ hcreate _ =>
    rcases Store.createTeam_cases hslug hcreate with ⟨x, hx⟩ | ⟨⟨what, he⟩, _⟩
    · cases hx
    · cases he
      exact absurd rfl (hne what)
  | relookupFailed what e =>
    cases htrace with | cons _ _ htrace =>
    cases htrace with | cons _ _ htrace =>
    cases htrace with | cons _ hseek _ =>
    cases (Store.findTeamByName_eq hseek).1
  | relooked what found =>
    cases htrace with | cons _ _ htrace =>
    cases htrace with | cons _ hcreate htrace =>
    cases htrace with | cons hothers hseek _ =>
    obtain ⟨he, rfl⟩ := Store.findTeamByName_eq hseek
    cases he
    rcases Store.createTeam_cases hslug hcreate with ⟨x, hx⟩ | ⟨_, htaken, rfl⟩
    · cases hx
    · exact Option.ne_none_iff_exists'.mp (hothers.teamByName?_ne_none htaken)

theorem hasRole_of_grantAdmin {team : TeamId} {user : UserId} {role : TeamRole}
    (hpath : Path (grantAdmin i team user role) turns (.done ()))
    (htrace : Trace executes Grows s turns t) (hturns : ∀ x ∈ turns, Raises x.1)
    (hrole : s.HasRole team user role) : t.HasRole team user i.teamRole := by
  have hkept := (htrace.grows_of_executes hturns).roles _ _ _ hrole
  unfold grantAdmin at hpath
  split at hpath
  next hgrants =>
    obtain ⟨hgrants, _⟩ := Bool.and_eq_true_iff.mp hgrants
    obtain ⟨_, rest, rfl, _⟩ := path_call_done_iff.mp hpath
    have hset := htrace.attests_of_executes hturns _ List.mem_cons_self
    cases htrace with | cons hothers hc _ =>
    obtain rfl := Store.setTeamRole_ok (hothers.roles _ _ _ hrole) hc
    rw [Identity.teamRole, if_pos hgrants]
    exact hset
  next hgrants =>
    refine hkept.lower ?_
    unfold Identity.teamRole
    split
    next hgranting => simpa [hgranting] using hgrants
    next => exact role.includes_member

theorem placed_of_joinTeam? {joined : Option String}
    (hpath : Path (joinTeam? i u.id o) turns (.done joined))
    (htrace : Trace executes Grows s turns t) (hturns : ∀ x ∈ turns, Raises x.1)
    (hu : u ∈ s.users) :
    joined.toList = slugs [o] ∧ ∀ name ∈ slugs [o], Placed i t u.id name := by
  unfold joinTeam? at hpath
  dsimp only at hpath
  split at hpath
  next hempty =>
    obtain ⟨_, he⟩ := path_done_iff.mp hpath
    cases he
    rw [slugs_singleton_of_eq (String.isEmpty_iff.mp hempty)]
    exact ⟨rfl, nofun⟩
  next hslug =>
    have hslug : Slug.ofName o.name ≠ "" := by simpa [String.isEmpty_iff] using hslug
    rw [slugs_singleton_of_ne hslug]
    -- the team
    obtain ⟨first, found, rest, rfl, hfirst, hrest⟩ := path_bind_done_iff.mp hpath
    obtain ⟨hfirsts, hrests⟩ := List.forall_mem_append.mp hturns
    obtain ⟨m, htfirst, htrest⟩ := htrace.exists_append .refl
    obtain ⟨x, rfl⟩ := (teamPath_of_path hfirst).exists_team htfirst hslug
    obtain ⟨hx, hname⟩ :=
      (teamPath_of_path hfirst).knowsTeam.mem (htfirst.attests_of_executes hfirsts)
    have hum := (htfirst.grows_of_executes hfirsts).users.subset hu
    -- the membership
    obtain ⟨_, after, rfl, hadded⟩ := path_call_done_iff.mp hrest
    obtain ⟨member, m', rfl, hrole, htafter⟩ := htrest.exists_member hx hum
    obtain ⟨_, hafters⟩ := List.forall_mem_cons.mp hrests
    -- the role
    obtain ⟨granted, _, last, rfl, hgranted, hdone⟩ :=
      (path_bind_done_iff (p := grantAdmin i x.id u.id member.role)).mp hadded
    obtain ⟨rfl, he⟩ := path_done_iff.mp hdone
    cases he
    rw [List.append_nil] at htafter hafters
    have hgrant := hasRole_of_grantAdmin hgranted htafter hafters hrole
    have hxt := (htrest.grows_of_executes hrests).teams.subset hx
    exact ⟨rfl, List.forall_mem_singleton.mpr ⟨x, hxt, hname, hgrant⟩⟩

theorem placed_of_joinTeams {names : List String}
    (hpath : Path (joinTeams i u.id os) turns (.done names))
    (htrace : Trace executes Grows s turns t) (hturns : ∀ x ∈ turns, Raises x.1)
    (hu : u ∈ s.users) : names = slugs os ∧ ∀ name ∈ slugs os, Placed i t u.id name := by
  induction os generalizing s turns names with
  | nil =>
    obtain ⟨_, he⟩ := path_done_iff.mp hpath
    cases he
    exact ⟨rfl, nofun⟩
  | cons o os ih =>
    obtain ⟨first, joined, rest, rfl, hfirst, hrest⟩ := path_bind_done_iff.mp hpath
    obtain ⟨others, names, last, rfl, hothers, hdone⟩ := path_bind_done_iff.mp hrest
    obtain ⟨rfl, he⟩ := path_done_iff.mp hdone
    cases he
    rw [List.append_nil] at htrace hturns
    obtain ⟨hfirsts, hotherss⟩ := List.forall_mem_append.mp hturns
    obtain ⟨m, htfirst, htrest⟩ := htrace.exists_append .refl
    have hum := (htfirst.grows_of_executes hfirsts).users.subset hu
    obtain ⟨hjoined, hplaced⟩ := placed_of_joinTeam? hfirst htfirst hfirsts hu
    obtain ⟨rfl, hrestPlaced⟩ := ih hothers htrest hotherss hum
    rw [slugs_cons, hjoined]
    refine ⟨rfl, List.forall_mem_append.mpr ⟨fun name hname => ?_, hrestPlaced⟩⟩
    exact (hplaced name hname).grows (htrest.grows_of_executes hotherss)

/-- A run that succeeds in company has its user in all the teams of its identity. -/
theorem placed_of_path {p : Provisioned}
    (hpath : Path (provision i client spare) turns (.done (.ok p)))
    (htrace : Trace executes Grows s turns t) (hturns : ∀ x ∈ turns, Raises x.1) :
    p.teams = slugs i.organizations ∧
      (p.user ∈ t.users ∧ Text.sameIgnoringCase p.user.email i.email = true) ∧
      ∀ name ∈ slugs i.organizations, Placed i t p.user.id name := by
  cases provisionPath_of_path hpath with
  | @provisioned first joined _ huser hjoin =>
    obtain ⟨hfirsts, hrests⟩ := List.forall_mem_append.mp hturns
    obtain ⟨m, htfirst, htrest⟩ := htrace.exists_append .refl
    obtain ⟨hu, hemail⟩ := huser.knowsUser.mem (htfirst.attests_of_executes hfirsts)
    have hgrows := htrest.grows_of_executes hrests
    obtain ⟨_, hjoins⟩ := List.forall_mem_cons.mp hrests
    cases htrest with | cons hothers hissue htjoin =>
    have hum := (hothers.trans (Store.grows_of_executes hissue trivial)).users.subset hu
    obtain ⟨hteams, hplaced⟩ := placed_of_joinTeams hjoin htjoin hjoins hum
    exact ⟨hteams, ⟨hgrows.users.subset hu, hemail⟩, hplaced⟩

end Joining

end Provisioning

end FederatedLogin
