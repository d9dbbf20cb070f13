import FederatedLogin.Proofs.Provisioning.Provided
import FederatedLogin.Proofs.Provisioning.Sequential
import FederatedLogin.Proofs.Store.Frame

/-! # What joining teams does to a store

Organizations are gone through one after another, and several may share a slug. In the end the
missing teams are there, the user is in the team of every slug, and nothing else has changed.
-/

namespace FederatedLogin

namespace Store

theorem Sound.mem_iff_teamByName? {s : Store} (h : s.Sound) {x : Team} {name : String} :
    s.teamByName? name = some x ↔ x ∈ s.teams ∧ x.name = name :=
  find?_key_eq_some_iff h.teamNames

end Store

/-- The role that an identity's user has in a team of one of its organizations, given the membership
before, if there was one. -/
def Identity.roleAfter (i : Identity) (before : Option Membership) : TeamRole :=
  if i.grantsTeamAdmin then .admin else (before.map (·.role)).getD .member

namespace Provisioning

open Store (Source)
open Program (bind_eq run_bind)

/-- What an identity makes of the membership that its user had in a team, if there was one. -/
structure Promotes (i : Identity) (before : Option Membership) (m : Membership) : Prop where
  role : m.role = i.roleAfter before
  kept : ∀ m', before = some m' → m = { m' with role := m.role }

theorem Promotes.trans {i : Identity} {before : Option Membership} {m m' : Membership}
    (h : Promotes i before m) (h' : Promotes i (some m) m') : Promotes i before m' where
  role := by
    rw [h'.role, Identity.roleAfter]
    split
    next hgrants => exact (if_pos hgrants).symm
    next => exact h.role
  kept m₀ hm₀ := by
    rw [h'.kept m rfl, h.kept m₀ hm₀]

/-! ## The place of a user in a team -/

/-- A store has come from another by a user's getting the place in a team that an identity gives. -/
structure Enrols (i : Identity) (team : TeamId) (user : UserId) (s t : Store) : Prop where
  users : t.users = s.users
  teams : t.teams = s.teams
  sessions : t.sessions = s.sessions
  place : ∃ m, t.membership? team user = some m ∧ Promotes i (s.membership? team user) m
  others : ∀ team' user', (team', user') ≠ (team, user) →
    t.membership? team' user' = s.membership? team' user'

section Enrols

variable {i : Identity} {source : Source} {s t : Store} {team : TeamId} {user : UserId}
  {m : Membership}

theorem enrols_admin (hgrants : i.grantsTeamAdmin = true)
    (hm : s.membership? team user = some m) : Enrols i team user s
      { s with memberships := s.memberships.map (Store.setRoleOf team user .admin) } where
  users := rfl
  teams := rfl
  sessions := rfl
  place := by
    refine ⟨{ m with role := .admin }, ?_, (if_pos hgrants).symm, ?_⟩
    · rw [Store.membership?_setRoleOf, hm, Option.map_some, Store.setRoleOf,
        if_pos (Store.joins_iff.mpr (Store.joins_of_membership? hm))]
    · intro m' hm'
      rw [Option.some.inj (hm.symm.trans hm')]
  others team' user' hne := by
    rw [Store.membership?_setRoleOf]
    cases hother : s.membership? team' user' with
    | none => rfl
    | some m' =>
      obtain ⟨rfl, rfl⟩ := Store.joins_of_membership? hother
      have hjoins : m'.joins team user ≠ true := by
        intro hj
        obtain ⟨rfl, rfl⟩ := Store.joins_iff.mp hj
        exact hne rfl
      rw [Option.map_some, Store.setRoleOf, if_neg hjoins]

theorem enrols_self (hrole : m.role = i.roleAfter (some m))
    (hm : s.membership? team user = some m) : Enrols i team user s s where
  users := rfl
  teams := rfl
  sessions := rfl
  place := by
    refine ⟨m, hm, ?_, ?_⟩
    · rw [hm, hrole]
    · intro m' hm'
      rw [Option.some.inj (hm.symm.trans hm')]
  others _ _ _ := rfl

theorem grantAdmin_enrols (source : Source) (hm : s.membership? team user = some m) :
    ∃ t, (grantAdmin i team user m.role).run source.answer s = ((), t) ∧
      Enrols i team user s t := by
  unfold grantAdmin
  split
  next h =>
    have hset : source.answer (.setTeamRole team user .admin) s =
        (.ok (), { s with memberships := s.memberships.map (Store.setRoleOf team user .admin) }) :=
      Store.setRole_of_member hm .admin
    refine ⟨_, ?_, enrols_admin (Bool.and_eq_true_iff.mp h).1 hm⟩
    rw [run_ask_bind, hset]
    rfl
  next h =>
    refine ⟨s, rfl, enrols_self ?_ hm⟩
    rw [Identity.roleAfter]
    split
    next hgrants =>
      have hadmin : m.role.includes .admin = true := by simpa [hgrants] using h
      exact TeamRole.includes_admin_iff.mp hadmin
    next => rfl

/-- Making a user a member, if it is not one, and then perhaps an administrator. -/
theorem addThenGrant_enrols (source : Source) (hteam : s.team? team ≠ none)
    (huser : s.user? user ≠ none) :
    ∃ m t t', source.answer (.addUserToTeam team user) s = (.ok m, t) ∧
      (grantAdmin i team user m.role).run source.answer t = ((), t') ∧
      Enrols i team user s t' := by
  obtain ⟨x, hteam⟩ := Option.ne_none_iff_exists'.mp hteam
  obtain ⟨u, huser⟩ := Option.ne_none_iff_exists'.mp huser
  cases hm : s.membership? team user with
  | some m =>
    have hadd : source.answer (.addUserToTeam team user) s = (.ok m, s) := by
      simp [Source.answer, Store.answer, Store.addMember, hteam, huser, hm]
    obtain ⟨t, hgrant, ht⟩ := grantAdmin_enrols (i := i) source hm
    exact ⟨m, s, t, hadd, hgrant, ht⟩
  | none =>
    have hadd : source.answer (.addUserToTeam team user) s =
        (.ok (.ofNew team user (source.fresh s).now), { s with memberships :=
          s.memberships ++ [.ofNew team user (source.fresh s).now] }) := by
      simp [Source.answer, Store.answer, Store.addMember, hteam, huser, hm]
    have hself := Store.membership?_snoc_self (m := .ofNew team user (source.fresh s).now) hm
    obtain ⟨t, hgrant, ht⟩ := grantAdmin_enrols (i := i) source hself
    refine ⟨_, _, t, hadd, hgrant, ht.users, ht.teams, ht.sessions, ?_, ?_⟩
    · obtain ⟨m, hm', hpromotes⟩ := ht.place
      rw [hself] at hpromotes
      refine ⟨m, hm', ?_⟩
      rw [hm]
      exact ⟨hpromotes.role, nofun⟩
    · intro team' user' hne
      rw [ht.others team' user' hne]
      exact Store.membership?_snoc_of_ne hne

end Enrols

/-! ## The team of an organization -/

/-- A store has come from another by finding the team of a slug, or by creating it for an
organization. -/
inductive Teams (slug : String) (o : Organization) (x : Team) (s t : Store) : Prop where
  | found : s.teamByName? slug = some x → t = s → Teams slug o x s t
  | created : s.teamByName? slug = none → x.name = slug → x.displayName = o.name →
      t = { s with teams := s.teams ++ [x] } → Teams slug o x s t

section Teams

variable {source : Source} {s t : Store} {slug : String} {o : Organization} {x : Team}

theorem findOrCreateTeam?_teams (source : Source) (o : Organization) (s : Store)
    (hslug : slug ≠ "") : ∃ x t,
      (findOrCreateTeam? slug o).run source.answer s = (some x, t) ∧ Teams slug o x s t := by
  have hsearch : source.answer (.findTeamByName slug) s = (.ok (s.teamByName? slug), s) := rfl
  rw [findOrCreateTeam?, run_ask_bind, hsearch]
  cases hfind : s.teamByName? slug with
  | some x => exact ⟨x, s, rfl, .found hfind rfl⟩
  | none =>
    let x : Team := .ofNew (source.fresh s).teamId (source.fresh s).now ⟨slug, o.name⟩
    have hcreate : source.answer (.createTeam ⟨slug, o.name⟩) s =
        (.ok x, { s with teams := s.teams ++ [x] }) := by
      simp [Source.answer, Store.answer, Store.createTeam, String.isEmpty_iff, hslug, hfind, x]
    dsimp only
    rw [run_ask_bind, hcreate]
    exact ⟨x, _, rfl, .created hfind rfl rfl rfl⟩

theorem Teams.mem (h : Teams slug o x s t) : x ∈ t.teams ∧ x.name = slug := by
  cases h with
  | found hfind ht =>
    subst ht
    exact ⟨List.mem_of_find?_eq_some hfind, by simpa using List.find?_some hfind⟩
  | created _ hname _ ht =>
    subst ht
    exact ⟨List.mem_append_right _ List.mem_cons_self, hname⟩

theorem Teams.frame (h : Teams slug o x s t) : t = { s with teams := t.teams } := by
  cases h with
  | found _ ht => rw [ht]
  | created _ _ _ ht => rw [ht]

theorem Teams.users (h : Teams slug o x s t) : t.users = s.users := by rw [h.frame]

theorem Teams.sessions (h : Teams slug o x s t) : t.sessions = s.sessions := by rw [h.frame]

theorem Teams.membership?_eq (h : Teams slug o x s t) (team : TeamId) (user : UserId) :
    t.membership? team user = s.membership? team user := by
  rw [h.frame]
  rfl

end Teams

/-! ## The teams of several organizations -/

/-- A store has come from another by bringing a user into the teams of organizations. The missing
ones have been created, each for the first organization of its slug. -/
structure Joined (i : Identity) (user : UserId) (os : List Organization) (s t : Store) : Prop where
  sound : t.Sound
  users : t.users = s.users
  sessions : t.sessions = s.sessions
  teams : ∃ added, t.teams = s.teams ++ added ∧
    (∀ name, (∃ x ∈ added, x.name = name) ↔ name ∈ slugs os ∧ s.teamByName? name = none) ∧
    ∀ x ∈ added, ∃ o, os.find? (Slug.ofName ·.name == x.name) = some o ∧ x.displayName = o.name
  placed : ∀ x ∈ t.teams, x.name ∈ slugs os →
    ∃ m, t.membership? x.id user = some m ∧ Promotes i (s.membership? x.id user) m
  others : ∀ team user', (user' = user → ∀ x ∈ t.teams, x.id = team → x.name ∉ slugs os) →
    t.membership? team user' = s.membership? team user'

section Joined

variable {i : Identity} {user : UserId} {source : Source} {s m t : Store}
  {os os' : List Organization} {o : Organization} {name : String}

theorem joined_self (hs : s.Sound) (hos : slugs os = []) : Joined i user os s s where
  sound := hs
  users := rfl
  sessions := rfl
  teams := by
    refine ⟨[], (List.append_nil _).symm, fun name => ?_, List.forall_mem_nil _⟩
    simp [hos]
  placed := by simp [hos]
  others _ _ _ := rfl

theorem Joined.teams_subset (h : Joined i user os s t) : s.teams ⊆ t.teams := by
  obtain ⟨added, ht, _, _⟩ := h.teams
  rw [ht]
  exact List.subset_append_left _ _

theorem Joined.exists_team (h : Joined i user os s t) (hname : name ∈ slugs os) :
    ∃ x ∈ t.teams, x.name = name := by
  obtain ⟨added, ht, hadded, _⟩ := h.teams
  cases hfind : s.teamByName? name with
  | some x =>
    exact ⟨x, h.teams_subset (List.mem_of_find?_eq_some hfind),
      by simpa using List.find?_some hfind⟩
  | none =>
    obtain ⟨x, hx, hxname⟩ := (hadded name).mpr ⟨hname, hfind⟩
    exact ⟨x, ht ▸ List.mem_append_right _ hx, hxname⟩

/-- A team that is there in the end was there as soon as its slug had come. -/
theorem Joined.mem_of_mem (h : Joined i user os s m) (h' : Joined i user os' m t) {x : Team}
    (hx : x ∈ t.teams) (hname : x.name ∈ slugs os) : x ∈ m.teams := by
  obtain ⟨y, hy, he⟩ := h.exists_team hname
  obtain rfl := h'.sound.eq_of_teamName (h'.teams_subset hy) hx he
  exact hy

theorem slugs_append (os os' : List Organization) : slugs (os ++ os') = slugs os ++ slugs os' := by
  rw [slugs, List.map_append, List.filter_append]
  rfl

theorem find?_eq_none_of_not_mem_slugs (hne : name ≠ "") (hname : name ∉ slugs os) :
    os.find? (Slug.ofName ·.name == name) = none := by
  rw [List.find?_eq_none]
  intro o ho he
  exact hname (mem_slugs.mpr ⟨hne, o, ho, by simpa using he⟩)

theorem Joined.teams_append (h : Joined i user os s m) (h' : Joined i user os' m t) :
    ∃ added, t.teams = s.teams ++ added ∧
      (∀ name, (∃ x ∈ added, x.name = name) ↔
        name ∈ slugs (os ++ os') ∧ s.teamByName? name = none) ∧
      ∀ x ∈ added, ∃ o, (os ++ os').find? (Slug.ofName ·.name == x.name) = some o ∧
        x.displayName = o.name := by
  obtain ⟨added, hm, hadded, hfirst⟩ := h.teams
  obtain ⟨added', ht, hadded', hfirst'⟩ := h'.teams
  -- a name is missing after the first organizations if it was before and is none of their slugs
  have hmissing : ∀ name, m.teamByName? name = none ↔
      s.teamByName? name = none ∧ ¬ ∃ x ∈ added, x.name = name := by
    intro name
    simp [Store.teamByName?, hm, List.find?_eq_none]
  refine ⟨added ++ added', ?_, ?_, ?_⟩
  · rw [ht, hm, List.append_assoc]
  · intro name
    have hor : (∃ x ∈ added ++ added', x.name = name) ↔
        (∃ x ∈ added, x.name = name) ∨ ∃ x ∈ added', x.name = name := by
      simp only [List.mem_append, or_and_right, exists_or]
    rw [hor, hadded' name, hmissing name, hadded name, slugs_append, List.mem_append]
    tauto
  · intro x hx
    rw [List.find?_append]
    rcases List.mem_append.mp hx with hx | hx
    · obtain ⟨o, ho, hdisplay⟩ := hfirst x hx
      exact ⟨o, by rw [ho, Option.some_or], hdisplay⟩
    · obtain ⟨o, ho, hdisplay⟩ := hfirst' x hx
      have hmem : x ∈ t.teams := ht ▸ List.mem_append_right _ hx
      have hnot : x.name ∉ slugs os := by
        intro hname
        have hnone := ((hadded' x.name).mp ⟨x, hx, rfl⟩).2
        obtain ⟨y, hy, hyname⟩ := h.exists_team hname
        exact absurd hnone (Option.ne_none_iff_exists'.mpr
          ⟨y, h.sound.mem_iff_teamByName?.mpr ⟨hy, hyname⟩⟩)
      rw [find?_eq_none_of_not_mem_slugs (h'.sound.teamName_ne x hmem) hnot, Option.none_or]
      exact ⟨o, ho, hdisplay⟩

theorem Joined.placed_append (h : Joined i user os s m) (h' : Joined i user os' m t) {x : Team}
    (hx : x ∈ t.teams) (hname : x.name ∈ slugs (os ++ os')) :
    ∃ n, t.membership? x.id user = some n ∧ Promotes i (s.membership? x.id user) n := by
  rw [slugs_append, List.mem_append] at hname
  -- what the first organizations make of the membership, if the team has the slug of one
  have hfirst : ∀ hin : x.name ∈ slugs os, ∃ n, m.membership? x.id user = some n ∧
      Promotes i (s.membership? x.id user) n :=
    fun hin => h.placed x (h.mem_of_mem h' hx hin) hin
  have hkept (hout : x.name ∉ slugs os) : m.membership? x.id user = s.membership? x.id user := by
    refine h.others x.id user fun _ y hy hid => ?_
    rwa [h'.sound.eq_of_teamId (h'.teams_subset hy) hx hid]
  by_cases hin' : x.name ∈ slugs os'
  · obtain ⟨n', hn', hpromotes'⟩ := h'.placed x hx hin'
    refine ⟨n', hn', ?_⟩
    by_cases hin : x.name ∈ slugs os
    · obtain ⟨n, hn, hpromotes⟩ := hfirst hin
      rw [hn] at hpromotes'
      exact hpromotes.trans hpromotes'
    · rwa [← hkept hin]
  · obtain ⟨n, hn, hpromotes⟩ := hfirst (hname.resolve_right hin')
    refine ⟨n, ?_, hpromotes⟩
    rw [h'.others x.id user fun _ y hy hid => ?_, hn]
    rwa [h'.sound.eq_of_teamId hy hx hid]

theorem Joined.append (h : Joined i user os s m) (h' : Joined i user os' m t) :
    Joined i user (os ++ os') s t where
  sound := h'.sound
  users := h'.users.trans h.users
  sessions := h'.sessions.trans h.sessions
  teams := h.teams_append h'
  placed _ := h.placed_append h'
  others team user' hother := by
    have hnot : user' = user → ∀ x ∈ t.teams, x.id = team → x.name ∉ slugs os ∧
        x.name ∉ slugs os' := by
      intro hu x hx hid
      have hname := hother hu x hx hid
      rw [slugs_append, List.mem_append] at hname
      exact not_or.mp hname
    rw [h'.others team user' fun hu x hx hid => (hnot hu x hx hid).2,
      h.others team user' fun hu x hx hid => (hnot hu x (h'.teams_subset hx) hid).1]

/-- Finding or creating the team of one organization and bringing the user in. -/
theorem joined_of_teams {x : Team} (ht : t.Sound) (hslug : Slug.ofName o.name ≠ "")
    (hteams : Teams (Slug.ofName o.name) o x s m) (henrols : Enrols i x.id user m t) :
    Joined i user [o] s t where
  sound := ht
  users := henrols.users.trans hteams.users
  sessions := henrols.sessions.trans hteams.sessions
  teams := by
    rw [henrols.teams, slugs_singleton_of_ne hslug]
    cases hteams with
    | found hfind hm =>
      refine ⟨[], by rw [hm, List.append_nil], fun name => ?_, List.forall_mem_nil _⟩
      simp only [List.not_mem_nil, false_and, exists_false, List.mem_singleton, false_iff]
      rintro ⟨rfl, hnone⟩
      rw [hfind] at hnone
      cases hnone
    | created hnone hname hdisplay hm =>
      refine ⟨[x], by rw [hm], fun name => ?_, ?_⟩
      · simp only [List.mem_singleton, exists_eq_left, hname]
        constructor
        · rintro rfl
          exact ⟨rfl, hnone⟩
        · rintro ⟨rfl, -⟩
          rfl
      · rw [List.forall_mem_singleton, hname]
        exact ⟨o, by simp, hdisplay⟩
  placed y hy hname := by
    obtain ⟨hx, hxname⟩ := hteams.mem
    rw [slugs_singleton_of_ne hslug, List.mem_singleton] at hname
    obtain rfl := ht.eq_of_teamName (henrols.teams ▸ hx) hy (hxname.trans hname.symm)
    obtain ⟨n, hn, hpromotes⟩ := henrols.place
    rw [hteams.membership?_eq] at hpromotes
    exact ⟨n, hn, hpromotes⟩
  others team user' hother := by
    obtain ⟨hx, hxname⟩ := hteams.mem
    have hne : (team, user') ≠ (x.id, user) := by
      rintro ⟨⟩
      refine hother rfl x (henrols.teams ▸ hx) rfl ?_
      rw [slugs_singleton_of_ne hslug, hxname]
      exact List.mem_singleton.mpr rfl
    rw [henrols.others team user' hne, hteams.membership?_eq]

theorem joinTeam?_joined (source : Source) (hs : s.Sound) (hu : s.user? user ≠ none)
    (o : Organization) : ∃ slug t, (joinTeam? i user o).run source.answer s = (slug, t) ∧
      slug.toList = slugs [o] ∧ Joined i user [o] s t := by
  unfold joinTeam?
  dsimp only
  split
  next hempty =>
    have hslugs := slugs_singleton_of_eq (String.isEmpty_iff.mp hempty)
    exact ⟨none, s, rfl, hslugs.symm, joined_self hs hslugs⟩
  next hslug =>
    have hslug : Slug.ofName o.name ≠ "" := by simpa [String.isEmpty_iff] using hslug
    obtain ⟨x, m, hfind, hteams⟩ := findOrCreateTeam?_teams source o s hslug
    have hm : m.Sound := by
      have h := hs.run source (findOrCreateTeam? (Slug.ofName o.name) o)
      rwa [hfind] at h
    have hteam : m.team? x.id ≠ none := Store.team?_ne_none_iff.mpr ⟨x, hteams.mem.1, rfl⟩
    have huser : m.user? user ≠ none := by
      rwa [Store.user?, hteams.users]
    obtain ⟨n, t, t', hadd, hgrant, henrols⟩ := addThenGrant_enrols (i := i) source hteam huser
    have ht : t.Sound := by
      have h := hm.effect (source.isNew m) (Store.effect_answer (source.fresh m) m
        (.addUserToTeam x.id user))
      rwa [show m.answer (source.fresh m) (.addUserToTeam x.id user) = _ from hadd] at h
    have ht' : t'.Sound := by
      have h := ht.run source (grantAdmin i x.id user n.role)
      rwa [hgrant] at h
    refine ⟨some (Slug.ofName o.name), t', ?_, (slugs_singleton_of_ne hslug).symm,
      joined_of_teams ht' hslug hteams henrols⟩
    rw [bind_eq, run_bind, hfind]
    dsimp only
    rw [run_ask_bind, hadd]
    dsimp only
    rw [bind_eq, run_bind, hgrant]
    rfl

theorem joinTeams_joined (source : Source) (hs : s.Sound) (hu : s.user? user ≠ none)
    (os : List Organization) : ∃ t, (joinTeams i user os).run source.answer s = (slugs os, t) ∧
      Joined i user os s t := by
  induction os generalizing s with
  | nil => exact ⟨s, rfl, joined_self hs rfl⟩
  | cons o os ih =>
    obtain ⟨slug, m, hrun, hslug, hm⟩ := joinTeam?_joined (i := i) source hs hu o
    have hu : m.user? user ≠ none := by rwa [Store.user?, hm.users]
    obtain ⟨t, hrest, ht⟩ := ih hm.sound hu
    refine ⟨t, ?_, hm.append ht⟩
    rw [joinTeams, bind_eq, run_bind, hrun, bind_eq, run_bind, hrest, slugs_cons, ← hslug]
    rfl

end Joined

end Provisioning

end FederatedLogin
