import Mathlib.Data.List.Nodup
import FederatedLogin.Proofs.Store.Trace

/-! # What calls leave as it was

A call changes no more of a store than its answer tells: a failed call changes nothing, and one that
succeeds adds a record or sets one role. Over any run of calls the store therefore keeps every
record, unchanged but for the roles that calls have set.
-/

namespace FederatedLogin.Store

open Program (Turn)

/-! ## Memberships by their keys -/

section Membership

variable {s t : Store} {team team' : TeamId} {user user' : UserId} {m : Membership}

theorem joins_iff : m.joins team user = true ↔ m.team = team ∧ m.user = user := by
  simp [Membership.joins]

theorem membership?_snoc_self (h : s.membership? m.team m.user = none) :
    { s with memberships := s.memberships ++ [m] }.membership? m.team m.user = some m := by
  rw [membership?] at h ⊢
  rw [List.find?_append, h, Option.none_or, List.find?_singleton]
  exact if_pos (joins_iff.mpr ⟨rfl, rfl⟩)

theorem membership?_snoc_of_ne (h : (team, user) ≠ (m.team, m.user)) :
    { s with memberships := s.memberships ++ [m] }.membership? team user =
      s.membership? team user := by
  have hm : m.joins team user ≠ true := by
    intro hj
    obtain ⟨rfl, rfl⟩ := joins_iff.mp hj
    exact h rfl
  rw [membership?, List.find?_append, List.find?_singleton, if_neg hm, Option.or_none]
  rfl

theorem setRole_of_member (h : s.membership? team user = some m) (role : TeamRole) :
    s.setRole team user role =
      (.ok (), { s with memberships := s.memberships.map (setRoleOf team user role) }) := by
  rw [setRole, h]
  rfl

theorem membership?_setRoleOf (role : TeamRole) (team' : TeamId) (user' : UserId) :
    { s with memberships := s.memberships.map (setRoleOf team user role) }.membership? team' user' =
      (s.membership? team' user').map (setRoleOf team user role) := by
  have hkey : (fun m : Membership => m.joins team' user') ∘ setRoleOf team user role =
      fun m => m.joins team' user' := by
    funext m
    simp [Membership.joins]
  rw [membership?, membership?, List.find?_map, hkey]

theorem setRoleOf_eq_self (h : (m.team, m.user) ≠ (team, user)) (role : TeamRole) :
    setRoleOf team user role m = m := by
  have hm : m.joins team user ≠ true := by
    intro hj
    obtain ⟨rfl, rfl⟩ := joins_iff.mp hj
    exact h rfl
  rw [setRoleOf, if_neg hm]

end Membership

/-! ## Stores as maps -/

/-- No two records of a kind have one key, as in a map. -/
structure Keyed (s : Store) : Prop where
  users : (s.users.map (·.id)).Nodup
  teams : (s.teams.map (·.id)).Nodup
  memberships : (s.memberships.map fun m => (m.team, m.user)).Nodup
  sessions : (s.sessions.map (·.id)).Nodup

theorem Sound.keyed {s : Store} (h : s.Sound) : s.Keyed :=
  ⟨h.userIds, h.teamIds, h.members, h.sessionIds⟩

section Keyed

variable {s t : Store} {team : TeamId} {user : UserId} {c : Call} {a : c.Answer}

theorem Keyed.exists_map_setRoleOf {m : Membership} (h : s.Keyed)
    (hm : s.membership? team user = some m) (role : TeamRole) :
    ∃ before after, s.memberships = before ++ m :: after ∧
      s.memberships.map (setRoleOf team user role) = before ++ { m with role } :: after := by
  obtain ⟨rfl, rfl⟩ := joins_of_membership? hm
  obtain ⟨before, after, hsplit⟩ := List.append_of_mem (List.mem_of_find?_eq_some hm)
  have hkeys := h.memberships
  rw [hsplit, List.map_append, List.map_cons, List.nodup_middle, List.nodup_cons,
    ← List.map_append] at hkeys
  have hothers : ∀ x ∈ before ++ after, setRoleOf m.team m.user role x = x := by
    intro x hx
    refine setRoleOf_eq_self (fun hkey => hkeys.1 ?_) role
    exact List.mem_map.mpr ⟨x, hx, hkey⟩
  have hbefore : before.map (setRoleOf m.team m.user role) = before :=
    (List.map_congr_left fun x hx => hothers x (List.mem_append_left _ hx)).trans (List.map_id _)
  have hafter : after.map (setRoleOf m.team m.user role) = after :=
    (List.map_congr_left fun x hx => hothers x (List.mem_append_right _ hx)).trans (List.map_id _)
  have hself : setRoleOf m.team m.user role m = { m with role } :=
    if_pos (joins_iff.mpr ⟨rfl, rfl⟩)
  refine ⟨before, after, hsplit, ?_⟩
  rw [hsplit, List.map_append, List.map_cons, hbefore, hself, hafter]

theorem Keyed.effect (h : s.Keyed) {fresh : Fresh} (hf : fresh.IsNewTo s)
    (he : Effect fresh s c a t) : t.Keyed := by
  cases he with
  | userCreated => exact { h with users := nodup_map_snoc_iff.mpr ⟨h.users, hf.user⟩ }
  | teamCreated => exact { h with teams := nodup_map_snoc_iff.mpr ⟨h.teams, hf.team⟩ }
  | memberAdded _ _ _ _ hm =>
    exact { h with memberships :=
      nodup_map_snoc_iff.mpr ⟨h.memberships, membership?_eq_none_iff.mp hm⟩ }
  | roleSet =>
    refine { h with memberships := ?_ }
    simpa [List.map_map, Function.comp_def] using h.memberships
  | sessionIssued => exact { h with sessions := nodup_map_snoc_iff.mpr ⟨h.sessions, hf.session⟩ }
  | _ => exact h

/-- What a call may have changed, given the answer to it. -/
def Changes (s : Store) : (c : Call) → c.Answer → Store → Prop
  | _, .error _, t => t = s
  | .findUserByEmail _, .ok _, t => t = s
  | .findTeamByName _, .ok _, t => t = s
  | .createUser new, .ok u, t =>
    (∀ v ∈ s.users, v.id ≠ u.id) ∧ u = .ofNew u.id u.createdAt new ∧
      t = { s with users := s.users ++ [u] }
  | .createTeam new, .ok x, t =>
    (∀ y ∈ s.teams, y.id ≠ x.id) ∧ x = .ofNew x.id x.createdAt new ∧
      t = { s with teams := s.teams ++ [x] }
  | .addUserToTeam team user, .ok m, t =>
    t.membership? team user = some m ∧
      (s.membership? team user = some m ∧ t = s ∨
        s.membership? team user = none ∧ m = .ofNew team user m.joinedAt ∧
          t = { s with memberships := s.memberships ++ [m] })
  | .setTeamRole team user role, .ok _, t =>
    ∃ before m after, s.memberships = before ++ m :: after ∧ (m.team, m.user) = (team, user) ∧
      t = { s with memberships := before ++ { m with role } :: after }
  | .issueSession user client, .ok x, t =>
    (∀ y ∈ s.sessions, y.id ≠ x.id) ∧ x = .issue x.id x.token x.createdAt user.id client ∧
      t = { s with sessions := s.sessions ++ [x] }

theorem Keyed.changes (h : s.Keyed) {fresh : Fresh} (hf : fresh.IsNewTo s)
    (he : Effect fresh s c a t) : Changes s c a t := by
  cases he with
  | userSought => rfl
  | teamSought => rfl
  | userCreated => exact ⟨hf.user, rfl, rfl⟩
  | teamCreated => exact ⟨hf.team, rfl, rfl⟩
  | memberAlready _ _ m _ _ hm => exact ⟨hm, .inl ⟨hm, rfl⟩⟩
  | memberAdded team user _ _ hm => exact ⟨membership?_snoc_self hm, .inr ⟨hm, rfl, rfl⟩⟩
  | roleSet team user role hm =>
    obtain ⟨m, hm⟩ := Option.ne_none_iff_exists'.mp hm
    obtain ⟨before, after, hsplit, hset⟩ := h.exists_map_setRoleOf hm role
    obtain ⟨rfl, rfl⟩ := joins_of_membership? hm
    exact ⟨before, m, after, hsplit, rfl, by rw [hset]⟩
  | sessionIssued => exact ⟨hf.session, rfl, rfl⟩
  | _ => rfl

end Keyed

/-! ## Runs of calls -/

/-- What a turn has created, as a store of its own. -/
def added : Turn Call.Answer → Store
  | ⟨.createUser _, .ok u⟩ => { empty with users := [u] }
  | ⟨.createTeam _, .ok x⟩ => { empty with teams := [x] }
  | ⟨.issueSession _ _, .ok x⟩ => { empty with sessions := [x] }
  | _ => empty

def joining? (team : TeamId) (user : UserId) : Turn Call.Answer → Option Membership
  | ⟨.addUserToTeam team' user', .ok m⟩ => if (team', user') = (team, user) then some m else none
  | _ => none

def givenRole? (team : TeamId) (user : UserId) : Turn Call.Answer → Option TeamRole
  | ⟨.setTeamRole team' user' role, .ok _⟩ =>
    if (team', user') = (team, user) then some role else none
  | _ => none

def lastRole? (team : TeamId) (user : UserId) (turns : List (Turn Call.Answer)) :
    Option TeamRole :=
  (turns.filterMap (givenRole? team user)).getLast?

/-- A store has come from another by one turn. Only a member is given a role. -/
structure Turned (s : Store) (x : Turn Call.Answer) (t : Store) : Prop where
  users : t.users = s.users ++ (added x).users
  teams : t.teams = s.teams ++ (added x).teams
  sessions : t.sessions = s.sessions ++ (added x).sessions
  memberships : ∀ team user, t.membership? team user =
    ((s.membership? team user).or (joining? team user x)).map fun m =>
      { m with role := (givenRole? team user x).getD m.role }
  member : ∀ team user, givenRole? team user x ≠ none → s.membership? team user ≠ none

/-- A store has come from another by turns: what they have created is added in order, a user is in a
team since before or since the first turn that says so, and has the role set last. -/
structure Evolves (s : Store) (turns : List (Turn Call.Answer)) (t : Store) : Prop where
  keyed : t.Keyed
  users : t.users = s.users ++ turns.flatMap fun x => (added x).users
  teams : t.teams = s.teams ++ turns.flatMap fun x => (added x).teams
  sessions : t.sessions = s.sessions ++ turns.flatMap fun x => (added x).sessions
  memberships : ∀ team user, t.membership? team user =
    ((s.membership? team user).or (turns.findSome? (joining? team user))).map fun m =>
      { m with role := (lastRole? team user turns).getD m.role }

section Evolves

variable {s m t : Store} {team : TeamId} {user : UserId} {c : Call} {a : c.Answer}
  {turns : List (Turn Call.Answer)} {faults : Call → Fault → Prop}

theorem lastRole?_cons (x : Turn Call.Answer) (turns : List (Turn Call.Answer)) :
    lastRole? team user (x :: turns) = (lastRole? team user turns).or (givenRole? team user x) := by
  rw [lastRole?, lastRole?, List.filterMap_cons]
  cases givenRole? team user x with
  | none => rw [Option.or_none]
  | some role =>
    rw [List.getLast?_cons]
    cases (turns.filterMap (givenRole? team user)).getLast? <;> rfl

theorem Effect.member_of_givenRole? {fresh : Fresh} (h : Effect fresh s c a t)
    (hrole : givenRole? team user ⟨c, a⟩ ≠ none) : s.membership? team user ≠ none := by
  cases h with
  | roleSet team' user' role hm =>
    rw [givenRole?] at hrole
    split at hrole
    next hkey =>
      cases hkey
      exact hm
    next => exact absurd rfl hrole
  | _ => exact absurd rfl hrole

theorem Effect.membership?_eq {fresh : Fresh} (h : Effect fresh s c a t) (team : TeamId)
    (user : UserId) : t.membership? team user =
      ((s.membership? team user).or (joining? team user ⟨c, a⟩)).map fun m =>
        { m with role := (givenRole? team user ⟨c, a⟩).getD m.role } := by
  have hsame : ∀ found : Option Membership,
      found = (found.or none).map fun m =>
        { m with role := (none : Option TeamRole).getD m.role } := by
    intro found
    cases found <;> rfl
  cases h with
  | memberAlready team' user' m _ _ hm =>
    simp only [joining?, givenRole?]
    split
    next hkey =>
      cases hkey
      rw [hm]
      rfl
    next => exact hsame _
  | memberAdded team' user' _ _ hm =>
    simp only [joining?, givenRole?]
    split
    next hkey =>
      cases hkey
      rw [hm]
      exact membership?_snoc_self hm
    next hkey =>
      rw [membership?_snoc_of_ne fun hsym => hkey hsym.symm]
      exact hsame _
  | roleSet team' user' role =>
    simp only [membership?_setRoleOf, joining?, givenRole?, Option.or_none]
    refine Option.map_congr fun m hm => ?_
    obtain ⟨rfl, rfl⟩ := joins_of_membership? hm
    split
    next hkey =>
      cases hkey
      exact if_pos (joins_iff.mpr ⟨rfl, rfl⟩)
    next hkey => exact setRoleOf_eq_self (fun hsym => hkey hsym.symm) role
  | _ => exact hsame _

theorem Effect.turned {fresh : Fresh} (h : Effect fresh s c a t) : Turned s ⟨c, a⟩ t where
  users := by cases h <;> simp [added, empty]
  teams := by cases h <;> simp [added, empty]
  sessions := by cases h <;> simp [added, empty]
  memberships := h.membership?_eq
  member _ _ := h.member_of_givenRole?

theorem turned_of_answer? {fault : Fault} (h : fault.answer? c = some a) (s : Store) :
    Turned s ⟨c, a⟩ s := by
  have hnothing : added ⟨c, a⟩ = empty ∧ ∀ team user,
      joining? team user ⟨c, a⟩ = none ∧ givenRole? team user ⟨c, a⟩ = none := by
    cases fault with
    | pass => cases h
    | fail error =>
      cases h
      cases c <;> exact ⟨rfl, fun _ _ => ⟨rfl, rfl⟩⟩
    | findNothing => cases c <;> cases h <;> exact ⟨rfl, fun _ _ => ⟨rfl, rfl⟩⟩
  obtain ⟨hmade, hmember⟩ := hnothing
  refine ⟨?_, ?_, ?_, fun team user => ?_, fun team user hrole => ?_⟩
  · rw [hmade, empty, List.append_nil]
  · rw [hmade, empty, List.append_nil]
  · rw [hmade, empty, List.append_nil]
  · rw [(hmember team user).1, (hmember team user).2]
    cases s.membership? team user <;> rfl
  · exact absurd (hmember team user).2 hrole

theorem keyed_of_disturbed (hs : s.Keyed) (h : disturbed faults s c a t) : t.Keyed := by
  rcases h with h | ⟨_, _, _, rfl⟩
  · obtain ⟨_, hf, he⟩ := effect_of_executes h
    exact hs.effect hf he
  · exact hs

theorem turned_of_disturbed (h : disturbed faults s c a t) : Turned s ⟨c, a⟩ t := by
  rcases h with h | ⟨_, _, ha, rfl⟩
  · obtain ⟨_, _, he⟩ := effect_of_executes h
    exact he.turned
  · exact turned_of_answer? ha _

theorem Evolves.nil (hs : s.Keyed) : Evolves s [] s where
  keyed := hs
  users := (List.append_nil _).symm
  teams := (List.append_nil _).symm
  sessions := (List.append_nil _).symm
  memberships team user := by
    cases h : s.membership? team user <;> simp [lastRole?]

theorem Evolves.cons {x : Turn Call.Answer} (hx : Turned s x m) (h : Evolves m turns t) :
    Evolves s (x :: turns) t where
  keyed := h.keyed
  users := by rw [h.users, hx.users, List.flatMap_cons, List.append_assoc]
  teams := by rw [h.teams, hx.teams, List.flatMap_cons, List.append_assoc]
  sessions := by rw [h.sessions, hx.sessions, List.flatMap_cons, List.append_assoc]
  memberships team user := by
    rw [h.memberships, hx.memberships, lastRole?_cons, List.findSome?_cons]
    cases hbefore : s.membership? team user with
    | some n => cases lastRole? team user turns <;> simp
    | none =>
      have hnone : givenRole? team user x = none := by
        by_contra hrole
        exact hx.member team user hrole hbefore
      rw [hnone, Option.or_none]
      cases joining? team user x <;> simp

/-- Faults do not keep a run of calls from telling what it has made of the store. -/
theorem Keyed.evolves (hs : s.Keyed) (h : Trace (disturbed faults) Eq s turns t) :
    Evolves s turns t := by
  induction h with
  | nil he => exact he ▸ .nil hs
  | cons he hc _ ih =>
    subst he
    exact (ih (keyed_of_disturbed hs hc)).cons (turned_of_disturbed hc)

theorem mem_of_lastRole? {role : TeamRole} (h : lastRole? team user turns = some role) :
    ⟨.setTeamRole team user role, .ok ()⟩ ∈ turns := by
  obtain ⟨⟨c, a⟩, hx, hrole⟩ := List.mem_filterMap.mp (List.mem_of_getLast? h)
  unfold givenRole? at hrole
  split at hrole
  next heq =>
    cases heq
    split at hrole
    next hkey =>
      cases hkey
      cases hrole
      exact hx
    next => cases hrole
  next => cases hrole

theorem Evolves.membership?_eq (h : Evolves s turns t)
    (hturns : ∀ x ∈ turns, joining? team user x = none ∧ givenRole? team user x = none) :
    t.membership? team user = s.membership? team user := by
  have hrole : lastRole? team user turns = none := by
    rw [lastRole?, List.filterMap_eq_nil_iff.mpr fun x hx => (hturns x hx).2, List.getLast?_nil]
  rw [h.memberships, hrole, List.findSome?_eq_none_iff.mpr fun x hx => (hturns x hx).1,
    Option.or_none]
  cases s.membership? team user <;> rfl

/-- No record is lost or changed, but for the roles that turns have set. -/
theorem Evolves.keeps (h : Evolves s turns t) :
    (∀ u ∈ s.users, t.user? u.id = some u) ∧ (∀ x ∈ s.teams, t.team? x.id = some x) ∧
      (∀ x ∈ s.sessions, t.sessions.find? (·.id == x.id) = some x) ∧
      ∀ team user n, s.membership? team user = some n →
        ∃ role, t.membership? team user = some { n with role } ∧
          (role ≠ n.role → ⟨.setTeamRole team user role, .ok ()⟩ ∈ turns) := by
  refine ⟨fun u hu => ?_, fun x hx => ?_, fun x hx => ?_, fun team user n hn => ?_⟩
  · exact (find?_key_eq_some_iff h.keyed.users).mpr ⟨h.users ▸ List.mem_append_left _ hu, rfl⟩
  · exact (find?_key_eq_some_iff h.keyed.teams).mpr ⟨h.teams ▸ List.mem_append_left _ hx, rfl⟩
  · exact (find?_key_eq_some_iff h.keyed.sessions).mpr
      ⟨h.sessions ▸ List.mem_append_left _ hx, rfl⟩
  · refine ⟨(lastRole? team user turns).getD n.role, ?_, fun hne => ?_⟩
    · rw [h.memberships, hn, Option.some_or, Option.map_some]
    · cases hlast : lastRole? team user turns with
      | none => exact absurd (by rw [hlast, Option.getD_none]) hne
      | some role => exact mem_of_lastRole? hlast

end Evolves

/-- In every store whose records have keys of their own, a call changes only what its answer tells,
and nothing if it fails. Over any run of calls what has been created is added, no record is lost,
and none changes but a membership by the roles that are set. -/
theorem records_kept {s : Store} (hs : s.Keyed) :
    (∀ c a t, executes s c a t → t.Keyed ∧ Changes s c a t) ∧
    ∀ turns t, Trace executes Eq s turns t → Evolves s turns t ∧
      (∀ u ∈ s.users, t.user? u.id = some u) ∧ (∀ x ∈ s.teams, t.team? x.id = some x) ∧
      (∀ x ∈ s.sessions, t.sessions.find? (·.id == x.id) = some x) ∧
      ∀ team user m, s.membership? team user = some m →
        ∃ role, t.membership? team user = some { m with role } ∧
          (role ≠ m.role → ⟨.setTeamRole team user role, .ok ()⟩ ∈ turns) := by
  constructor
  · intro c a t hc
    obtain ⟨fresh, hf, he⟩ := effect_of_executes hc
    exact ⟨hs.effect hf he, hs.changes hf he⟩
  · intro turns t h
    have hevolves := hs.evolves (h.disturbed fun _ _ => False)
    exact ⟨hevolves, hevolves.keeps⟩

/-- The one who joins a team in the sample calls becomes its administrator, and has joined when it
had before. -/
theorem sampleCalls_keep_records :
    let s := empty.after (sampleCalls.take 5)
    let t := empty.after sampleCalls
    s.Keyed ∧ ∃ turns, Trace executes Eq s turns t ∧ Evolves s turns t ∧
      s.membership? ⟨"4"⟩ ⟨"3"⟩ = some ⟨⟨"4"⟩, ⟨"3"⟩, .member, ⟨0⟩⟩ ∧
      t.membership? ⟨"4"⟩ ⟨"3"⟩ = some ⟨⟨"4"⟩, ⟨"3"⟩, .admin, ⟨0⟩⟩ ∧
      turns.map (·.1.operation) = [.addUserToTeam, .setTeamRole, .issueSession] := by
  intro s t
  have hs : s.Keyed := (Reachable.start.after (by decide)).sound.keyed
  have htrace : Trace executes Eq s _ t :=
    .cons rfl (executes_answer (by decide) _) (.cons rfl (executes_answer (by decide) _)
      (.cons rfl (executes_answer (by decide) _) (.nil rfl)))
  exact ⟨hs, _, htrace, ((records_kept hs).2 _ _ htrace).1, by decide, by decide, rfl⟩

end FederatedLogin.Store
