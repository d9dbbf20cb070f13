import Mathlib.Data.List.Nodup
import FederatedLogin.Proofs.Provisioning.Joining

/-! # What provided stores hold

Where identities have been provided for, a membership is there if it was there before or if one of
the identities gives it, and its role is the highest of those. So the store before and the
identities alone decide who is in which team.
-/

namespace FederatedLogin

namespace Store

section Sound

variable {t : Store} {u v : User} {x y : Team} {role : TeamRole}

theorem Sound.eq_of_userId (h : t.Sound) (hu : u ∈ t.users) (hv : v ∈ t.users)
    (he : u.id = v.id) : u = v :=
  List.inj_on_of_nodup_map h.userIds hu hv he

theorem Sound.eq_of_email (h : t.Sound) (hu : u ∈ t.users) (hv : v ∈ t.users)
    (he : Text.sameIgnoringCase u.email v.email = true) : u = v :=
  List.inj_on_of_nodup_map h.emails hu hv (Text.sameIgnoringCase_iff.mp he)

theorem Sound.eq_of_teamId (h : t.Sound) (hx : x ∈ t.teams) (hy : y ∈ t.teams)
    (he : x.id = y.id) : x = y :=
  List.inj_on_of_nodup_map h.teamIds hx hy he

theorem Sound.eq_of_teamName (h : t.Sound) (hx : x ∈ t.teams) (hy : y ∈ t.teams)
    (he : x.name = y.name) : x = y :=
  List.inj_on_of_nodup_map h.teamNames hx hy he

theorem Sound.filter_teamName (h : t.Sound) (hx : x ∈ t.teams) :
    t.teams.filter (·.name == x.name) = [x] := by
  have hmem : x ∈ t.teams.filter (·.name == x.name) := List.mem_filter.mpr ⟨hx, by simp⟩
  obtain ⟨y, hy⟩ := List.length_eq_one_iff.mp
    (Nat.le_antisymm (length_filter_key_le_one h.teamNames x.name) (List.length_pos_of_mem hmem))
  rw [hy] at hmem ⊢
  rw [List.mem_singleton.mp hmem]

theorem Sound.exists_of_hasRole (h : t.Sound) {team : TeamId} {user : UserId}
    (hrole : t.HasRole team user role) :
    (∃ u ∈ t.users, u.id = user) ∧ ∃ x ∈ t.teams, x.id = team := by
  obtain ⟨m, hm, rfl, rfl, _⟩ := hrole
  exact ⟨h.member_user m hm, h.member_team m hm⟩

theorem Sound.hasRole_iff (h : t.Sound) {m : Membership} (hm : m ∈ t.memberships) :
    t.HasRole m.team m.user role ↔ m.role.includes role = true := by
  constructor
  · rintro ⟨m', hm', hteam, huser, hrole⟩
    have he : (m'.team, m'.user) = (m.team, m.user) := Prod.ext hteam huser
    rwa [List.inj_on_of_nodup_map h.members hm' hm he] at hrole
  · intro hrole
    exact ⟨m, hm, rfl, rfl, hrole⟩

/-- A user is in the team with a name, in exactly one role. -/
structure Holds (t : Store) (name : String) (u : User) (role : TeamRole) : Prop where
  user : u ∈ t.users
  member : ∃ x ∈ t.teams, x.name = name ∧ ∃ m ∈ t.memberships, m.team = x.id ∧ m.user = u.id ∧
    m.role = role

theorem Sound.holds_iff (h : t.Sound) (hu : u ∈ t.users) (hx : x ∈ t.teams) :
    t.Holds x.name u role ↔
      t.HasRole x.id u.id .member ∧ (role = .admin ↔ t.HasRole x.id u.id .admin) := by
  constructor
  · rintro ⟨_, y, hy, hname, m, hm, hteam, huser, rfl⟩
    rw [← h.eq_of_teamName hy hx hname, ← hteam, ← huser, h.hasRole_iff hm, h.hasRole_iff hm]
    exact ⟨m.role.includes_member, TeamRole.includes_admin_iff.symm⟩
  · rintro ⟨⟨m, hm, hteam, huser, _⟩, hadmin⟩
    rw [← hteam, ← huser, h.hasRole_iff hm, TeamRole.includes_admin_iff] at hadmin
    have hrole : m.role = role := by
      cases hr : m.role with
      | admin => exact (hadmin.mpr hr).symm
      | member => exact (TeamRole.ne_admin_iff.mp fun he => by simp [hadmin.mp he] at hr).symm
    exact ⟨hu, x, hx, rfl, m, hm, hteam, huser, hrole⟩

theorem exists_holds_iff {name : String} : (∃ r, t.Holds name u r ∧ r.includes role = true) ↔
    u ∈ t.users ∧ ∃ x ∈ t.teams, x.name = name ∧ t.HasRole x.id u.id role := by
  constructor
  · rintro ⟨r, ⟨hu, x, hx, hname, m, hm, hteam, huser, rfl⟩, hrole⟩
    exact ⟨hu, x, hx, hname, m, hm, hteam, huser, hrole⟩
  · rintro ⟨hu, x, hx, hname, m, hm, hteam, huser, hrole⟩
    exact ⟨m.role, ⟨hu, x, hx, hname, m, hm, hteam, huser, rfl⟩, hrole⟩

end Sound

end Store

namespace Provisioning

open Store (Grows)

/-- A store has come from another by runs for some identities, and has all that they bring. -/
structure Provided (who : Identity → Prop) (s t : Store) : Prop where
  grows : Grows s t
  accounted : Accounted who s t
  placed : ∀ i, who i → ∃ u ∈ t.users, Text.sameIgnoringCase u.email i.email = true ∧
    ∀ name ∈ slugs i.organizations, Placed i t u.id name

/-- Somebody with an email ought to be in the team with a name, in a role that includes the given
one: so it was before, or an identity brings it. -/
def Due (who : Identity → Prop) (s : Store) (name email : String) (role : TeamRole) : Prop :=
  (∃ u r, s.Holds name u r ∧ r.includes role = true ∧
    Text.sameIgnoringCase u.email email = true) ∨
  ∃ i, who i ∧ name ∈ slugs i.organizations ∧ Text.sameIgnoringCase i.email email = true ∧
    i.teamRole.includes role = true

section Provided

variable {who : Identity → Prop} {s t : Store} {u : User} {x : Team} {name email : String}
  {role : TeamRole}

theorem Provided.teamName_iff (h : Provided who s t) (ht : t.Sound) :
    (∃ x ∈ t.teams, x.name = name) ↔
      (∃ x ∈ s.teams, x.name = name) ∨ ∃ i, who i ∧ name ∈ slugs i.organizations := by
  constructor
  · rintro ⟨x, hx, rfl⟩
    rcases h.accounted.teams x hx with hold | ⟨i, hi, o, ho, hname, _⟩
    · exact .inl ⟨x, hold, rfl⟩
    · exact .inr ⟨i, hi, mem_slugs.mpr ⟨ht.teamName_ne x hx, o, ho, hname.symm⟩⟩
  · rintro (⟨x, hx, hname⟩ | ⟨i, hi, hname⟩)
    · exact ⟨x, h.grows.teams.subset hx, hname⟩
    · obtain ⟨u, _, _, hplaced⟩ := h.placed i hi
      obtain ⟨x, hx, hname, _⟩ := hplaced name hname
      exact ⟨x, hx, hname⟩

theorem Provided.hasRole_iff (h : Provided who s t) (hs : s.Sound) (ht : t.Sound)
    (hu : u ∈ t.users) (hx : x ∈ t.teams) :
    t.HasRole x.id u.id role ↔ Due who s x.name u.email role := by
  constructor
  · intro hrole
    rcases h.accounted.roles _ _ _ hrole with hold | ⟨i, hi, hgiven, hbrings⟩
    · obtain ⟨⟨v, hv, huser⟩, y, hy, hteam⟩ := hs.exists_of_hasRole hold
      obtain rfl := ht.eq_of_userId (h.grows.users.subset hv) hu huser
      obtain rfl := ht.eq_of_teamId (h.grows.teams.subset hy) hx hteam
      obtain ⟨r, hr, hr'⟩ := Store.exists_holds_iff.mpr ⟨hv, y, hy, rfl, hold⟩
      exact .inl ⟨v, r, hr, hr', Text.sameIgnoringCase_refl _⟩
    · obtain ⟨⟨v, hv, huser, he⟩, y, hy, hteam, hname⟩ := hbrings
      obtain rfl := ht.eq_of_userId hv hu huser
      obtain rfl := ht.eq_of_teamId hy hx hteam
      exact .inr ⟨i, hi, hname, Text.sameIgnoringCase_symm he, hgiven⟩
  · rintro (⟨v, r, hr, hrole, he⟩ | ⟨i, hi, hname, he, hrole⟩)
    · obtain ⟨hv, y, hy, hname, hold⟩ := Store.exists_holds_iff.mp ⟨r, hr, hrole⟩
      obtain rfl := ht.eq_of_email (h.grows.users.subset hv) hu he
      obtain rfl := ht.eq_of_teamName (h.grows.teams.subset hy) hx hname
      exact h.grows.roles _ _ _ hold
    · obtain ⟨v, hv, hemail, hplaced⟩ := h.placed i hi
      obtain ⟨y, hy, hname, hnew⟩ := hplaced _ hname
      obtain rfl := ht.eq_of_email hv hu (Text.sameIgnoringCase_trans hemail he)
      obtain rfl := ht.eq_of_teamName hy hx hname
      exact hnew.lower hrole

theorem Provided.exists_team_of_due (h : Provided who s t) (ht : t.Sound)
    (hdue : Due who s name email role) : ∃ x ∈ t.teams, x.name = name := by
  refine (h.teamName_iff ht).mpr ?_
  rcases hdue with ⟨_, _, ⟨_, x, hx, hname, _⟩, _⟩ | ⟨i, hi, hname, _⟩
  · exact .inl ⟨x, hx, hname⟩
  · exact .inr ⟨i, hi, hname⟩

theorem Provided.exists_user_of_due (h : Provided who s t) (hdue : Due who s name email role) :
    ∃ u ∈ t.users, Text.sameIgnoringCase u.email email = true := by
  rcases hdue with ⟨u, _, ⟨hu, _⟩, _, he⟩ | ⟨i, hi, _, he, _⟩
  · exact ⟨u, h.grows.users.subset hu, he⟩
  · obtain ⟨u, hu, hemail, _⟩ := h.placed i hi
    exact ⟨u, hu, Text.sameIgnoringCase_trans hemail he⟩

theorem Due.congr {email' : String} (he : Text.sameIgnoringCase email email' = true) :
    Due who s name email role ↔ Due who s name email' role := by
  simp only [Due, Text.sameIgnoringCase_congr he]

/-- Who is in which team, in which role, follows from what is due. -/
theorem Provided.holds_iff (h : Provided who s t) (hs : s.Sound) (ht : t.Sound)
    (hu : u ∈ t.users) : t.Holds name u role ↔
      Due who s name u.email .member ∧ (role = .admin ↔ Due who s name u.email .admin) := by
  constructor
  · intro hholds
    obtain ⟨x, hx, rfl, _⟩ := hholds.member
    rwa [← h.hasRole_iff hs ht hu hx, ← h.hasRole_iff hs ht hu hx, ← ht.holds_iff hu hx]
  · rintro ⟨hdue, hrole⟩
    obtain ⟨x, hx, rfl⟩ := h.exists_team_of_due ht hdue
    rw [ht.holds_iff hu hx, h.hasRole_iff hs ht hu hx, h.hasRole_iff hs ht hu hx]
    exact ⟨hdue, hrole⟩

theorem Provided.exists_holds_iff (h : Provided who s t) (hs : s.Sound) (ht : t.Sound) :
    (∃ u, t.Holds name u role ∧ Text.sameIgnoringCase u.email email = true) ↔
      Due who s name email .member ∧ (role = .admin ↔ Due who s name email .admin) := by
  constructor
  · rintro ⟨u, hholds, he⟩
    rw [← Due.congr he, ← Due.congr he]
    exact (h.holds_iff hs ht hholds.user).mp hholds
  · rintro ⟨hdue, hrole⟩
    obtain ⟨u, hu, he⟩ := h.exists_user_of_due hdue
    rw [← Due.congr he] at hdue hrole
    exact ⟨u, (h.holds_iff hs ht hu).mpr ⟨hdue, hrole⟩, he⟩

end Provided

end Provisioning

end FederatedLogin
