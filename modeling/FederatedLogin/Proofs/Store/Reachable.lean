import FederatedLogin.Proofs.Store.Effect

/-! # Reachable stores

A store that clients have changed by calls alone, from the empty one, is sound: records have keys of
their own, and memberships and sessions refer to what is stored. A search by email or by team name
then has one match at most, so that the order in which the records are kept does not matter.
-/

namespace FederatedLogin

section Keys

variable {α κ : Type} {key : α → κ} {l l' : List α}

theorem forall_mem_snoc {P : α → Prop} {a : α} (hl : ∀ b ∈ l, P b) (ha : P a) :
    ∀ b ∈ l ++ [a], P b :=
  List.forall_mem_append.mpr ⟨hl, List.forall_mem_singleton.mpr ha⟩

theorem nodup_map_snoc_iff {a : α} :
    ((l ++ [a]).map key).Nodup ↔ (l.map key).Nodup ∧ ∀ b ∈ l, key b ≠ key a := by
  simp [List.nodup_append]

variable [BEq κ] [LawfulBEq κ]

theorem find?_key_eq_some_iff (hn : (l.map key).Nodup) {k : κ} {a : α} :
    l.find? (fun x => key x == k) = some a ↔ a ∈ l ∧ key a = k := by
  constructor
  · intro h
    exact ⟨List.mem_of_find?_eq_some h, by simpa using List.find?_some h⟩
  · rintro ⟨ha, rfl⟩
    induction l with
    | nil => cases ha
    | cons b l ih =>
      obtain ⟨hb, hn⟩ := List.nodup_cons.mp hn
      rcases List.mem_cons.mp ha with rfl | ha
      · simp
      · have hne : key b ≠ key a := fun he => hb (he ▸ List.mem_map_of_mem ha)
        rw [List.find?_cons, beq_false_of_ne hne]
        exact ih hn ha

/-- A search by a key that no two have in common does not depend on the order. -/
theorem find?_key_perm (hp : l.Perm l') (hn : (l'.map key).Nodup) (k : κ) :
    l.find? (fun x => key x == k) = l'.find? (fun x => key x == k) := by
  have hn' : (l.map key).Nodup := (hp.map key).nodup_iff.mpr hn
  apply Option.ext
  intro a
  rw [find?_key_eq_some_iff hn, find?_key_eq_some_iff hn', hp.mem_iff]

theorem length_filter_key_le_one (hn : (l.map key).Nodup) (k : κ) :
    (l.filter fun x => key x == k).length ≤ 1 := by
  have hc := List.nodup_iff_count.mp hn k
  rwa [List.count, List.countP_map, List.countP_eq_length_filter] at hc

end Keys

structure Fresh.IsNewTo (f : Fresh) (s : Store) : Prop where
  user : ∀ u ∈ s.users, u.id ≠ f.userId
  team : ∀ t ∈ s.teams, t.id ≠ f.teamId
  session : ∀ x ∈ s.sessions, x.id ≠ f.sessionId

instance (f : Fresh) (s : Store) : Decidable (f.IsNewTo s) :=
  decidable_of_iff ((∀ u ∈ s.users, u.id ≠ f.userId) ∧ (∀ t ∈ s.teams, t.id ≠ f.teamId) ∧
      ∀ x ∈ s.sessions, x.id ≠ f.sessionId)
    ⟨fun ⟨hu, ht, hx⟩ => ⟨hu, ht, hx⟩, fun h => ⟨h.user, h.team, h.session⟩⟩

namespace Store

/-- How a store may answer a call, and what becomes of it. -/
abbrev Service := Store → (c : Call) → c.Answer → Store → Prop

def executes : Service := fun s c a t =>
  ∃ fresh : Fresh, fresh.IsNewTo s ∧ s.answer fresh c = (a, t)

theorem executes_answer {fresh : Fresh} {s : Store} (hf : fresh.IsNewTo s) (c : Call) :
    executes s c (s.answer fresh c).1 (s.answer fresh c).2 :=
  ⟨fresh, hf, rfl⟩

theorem effect_of_executes {s t : Store} {c : Call} {a : c.Answer} (h : executes s c a t) :
    ∃ fresh : Fresh, fresh.IsNewTo s ∧ Effect fresh s c a t := by
  obtain ⟨fresh, hf, he⟩ := h
  have hc := effect_answer fresh s c
  rw [he] at hc
  exact ⟨fresh, hf, hc⟩

/-- A source of what calls take anew: ids that are not in use, and tokens in their form. -/
structure Source where
  fresh : Store → Fresh
  isNew (s : Store) : (fresh s).IsNewTo s
  token (s : Store) : ∃ bits, (fresh s).token = ⟨Session.tokenText bits⟩

def Source.answer (source : Source) (c : Call) (s : Store) : c.Answer × Store :=
  s.answer (source.fresh s) c

/-- The stores that calls in any order, whoever makes them, lead to. -/
inductive Reachable (service : Service) (start : Store) : Store → Prop where
  | start : Reachable service start start
  | call {s t : Store} {c : Call} {a : c.Answer} :
      Reachable service start s → service s c a t → Reachable service start t

def after (s : Store) : List (Fresh × Call) → Store
  | [] => s
  | (fresh, c) :: calls => (s.answer fresh c).2.after calls

def AllNew (s : Store) : List (Fresh × Call) → Prop
  | [] => True
  | (fresh, c) :: calls => fresh.IsNewTo s ∧ AllNew (s.answer fresh c).2 calls

instance decidableAllNew : (s : Store) → (calls : List (Fresh × Call)) → Decidable (AllNew s calls)
  | _, [] => isTrue trivial
  | s, (fresh, c) :: calls =>
    have := decidableAllNew (s.answer fresh c).2 calls
    inferInstanceAs (Decidable (fresh.IsNewTo s ∧ AllNew (s.answer fresh c).2 calls))

theorem Reachable.after {start s : Store} (h : Reachable executes start s)
    {calls : List (Fresh × Call)} (hn : AllNew s calls) :
    Reachable executes start (s.after calls) := by
  induction calls generalizing s with
  | nil => exact h
  | cons call calls ih =>
    obtain ⟨fresh, c⟩ := call
    exact ih (h.call (executes_answer hn.1 c)) hn.2

/-- What holds of the records of a store among each other. -/
structure Sound (s : Store) : Prop where
  userIds : (s.users.map (·.id)).Nodup
  emails : (s.users.map fun u => Text.foldAscii u.email).Nodup
  email_ne : ∀ u ∈ s.users, u.email ≠ ""
  usernames : (s.users.map (·.username)).Nodup
  username_ne : ∀ u ∈ s.users, u.username ≠ ""
  teamIds : (s.teams.map (·.id)).Nodup
  teamNames : (s.teams.map (·.name)).Nodup
  teamName_ne : ∀ t ∈ s.teams, t.name ≠ ""
  members : (s.memberships.map fun m => (m.team, m.user)).Nodup
  member_team : ∀ m ∈ s.memberships, ∃ t ∈ s.teams, t.id = m.team
  member_user : ∀ m ∈ s.memberships, ∃ u ∈ s.users, u.id = m.user
  sessionIds : (s.sessions.map (·.id)).Nodup
  session_user : ∀ x ∈ s.sessions, ∃ u ∈ s.users, u.id = x.userId

/-! ## Looking up by key -/

theorem user?_ne_none_iff {s : Store} {id : UserId} :
    s.user? id ≠ none ↔ ∃ u ∈ s.users, u.id = id := by
  simp [user?]

theorem team?_ne_none_iff {s : Store} {id : TeamId} :
    s.team? id ≠ none ↔ ∃ t ∈ s.teams, t.id = id := by
  simp [team?]

theorem membership?_eq_none_iff {s : Store} {team : TeamId} {user : UserId} :
    s.membership? team user = none ↔ ∀ m ∈ s.memberships, (m.team, m.user) ≠ (team, user) := by
  simp [membership?, Membership.joins]

theorem Sound.user?_id {s : Store} (h : s.Sound) {u : User} (hu : u ∈ s.users) :
    s.user? u.id = some u :=
  (find?_key_eq_some_iff h.userIds).mpr ⟨hu, rfl⟩

theorem Sound.team?_id {s : Store} (h : s.Sound) {t : Team} (ht : t ∈ s.teams) :
    s.team? t.id = some t :=
  (find?_key_eq_some_iff h.teamIds).mpr ⟨ht, rfl⟩

theorem Sound.membership?_ids {s : Store} (h : s.Sound) {m : Membership}
    (hm : m ∈ s.memberships) : s.membership? m.team m.user = some m :=
  (find?_key_eq_some_iff h.members).mpr ⟨hm, rfl⟩

/-! ## The invariant -/

theorem sound_empty : Sound empty := by
  constructor <;> simp [empty]

theorem Sound.addUser {s : Store} (h : s.Sound) {fresh : Fresh} (hf : fresh.IsNewTo s)
    {new : NewUser} (hn : new.username ≠ "") (he : new.email ≠ "")
    (hfree : s.usersWithEmail new.email = []) (hname : s.hasUsername new.username = false) :
    Sound { s with users := s.users ++ [User.ofNew fresh.userId fresh.now new] } := by
  have hemail : ∀ u ∈ s.users, Text.foldAscii u.email ≠ Text.foldAscii new.email := by
    intro u hu hsame
    have hmem := mem_usersWithEmail.mpr ⟨hu, Text.sameIgnoringCase_iff.mpr hsame⟩
    exact List.ne_nil_of_mem hmem hfree
  have husername : ∀ u ∈ s.users, u.username ≠ new.username := by
    intro u hu hsame
    exact Bool.false_ne_true (hname.symm.trans (hasUsername_iff.mpr ⟨u, hu, hsame⟩))
  refine { h with userIds := ?_, emails := ?_, email_ne := ?_, usernames := ?_, username_ne := ?_,
                  member_user := ?_, session_user := ?_ }
  · exact nodup_map_snoc_iff.mpr ⟨h.userIds, hf.user⟩
  · exact nodup_map_snoc_iff.mpr ⟨h.emails, hemail⟩
  · exact forall_mem_snoc h.email_ne he
  · exact nodup_map_snoc_iff.mpr ⟨h.usernames, husername⟩
  · exact forall_mem_snoc h.username_ne hn
  · intro m hm
    obtain ⟨u, hu, hid⟩ := h.member_user m hm
    exact ⟨u, List.mem_append_left _ hu, hid⟩
  · intro x hx
    obtain ⟨u, hu, hid⟩ := h.session_user x hx
    exact ⟨u, List.mem_append_left _ hu, hid⟩

theorem Sound.addTeam {s : Store} (h : s.Sound) {fresh : Fresh} (hf : fresh.IsNewTo s)
    {new : NewTeam} (hn : new.name ≠ "") (hfree : s.teamByName? new.name = none) :
    Sound { s with teams := s.teams ++ [Team.ofNew fresh.teamId fresh.now new] } := by
  have hname : ∀ t ∈ s.teams, t.name ≠ new.name := by simpa [teamByName?] using hfree
  refine { h with teamIds := ?_, teamNames := ?_, teamName_ne := ?_, member_team := ?_ }
  · exact nodup_map_snoc_iff.mpr ⟨h.teamIds, hf.team⟩
  · exact nodup_map_snoc_iff.mpr ⟨h.teamNames, hname⟩
  · exact forall_mem_snoc h.teamName_ne hn
  · intro m hm
    obtain ⟨t, ht, hid⟩ := h.member_team m hm
    exact ⟨t, List.mem_append_left _ ht, hid⟩

theorem Sound.addMember {s : Store} (h : s.Sound) {team : TeamId} {user : UserId} (now : Instant)
    (ht : s.team? team ≠ none) (hu : s.user? user ≠ none) (hm : s.membership? team user = none) :
    Sound { s with memberships := s.memberships ++ [Membership.ofNew team user now] } := by
  refine { h with members := ?_, member_team := ?_, member_user := ?_ }
  · exact nodup_map_snoc_iff.mpr ⟨h.members, membership?_eq_none_iff.mp hm⟩
  · exact forall_mem_snoc h.member_team (team?_ne_none_iff.mp ht)
  · exact forall_mem_snoc h.member_user (user?_ne_none_iff.mp hu)

@[simp] theorem setRoleOf_team (team : TeamId) (user : UserId) (role : TeamRole) (m : Membership) :
    (setRoleOf team user role m).team = m.team := by
  unfold setRoleOf; split <;> rfl

@[simp] theorem setRoleOf_user (team : TeamId) (user : UserId) (role : TeamRole) (m : Membership) :
    (setRoleOf team user role m).user = m.user := by
  unfold setRoleOf; split <;> rfl

theorem Sound.setRole {s : Store} (h : s.Sound) (team : TeamId) (user : UserId) (role : TeamRole) :
    Sound { s with memberships := s.memberships.map (setRoleOf team user role) } := by
  refine { h with members := ?_, member_team := ?_, member_user := ?_ }
  · simpa [List.map_map, Function.comp_def] using h.members
  · simpa using h.member_team
  · simpa using h.member_user

theorem Sound.addSession {s : Store} (h : s.Sound) {fresh : Fresh} (hf : fresh.IsNewTo s)
    {user : UserId} (client : ClientContext) (hu : s.user? user ≠ none) :
    Sound { s with sessions := s.sessions ++
      [Session.issue fresh.sessionId fresh.token fresh.now user client] } := by
  refine { h with sessionIds := ?_, session_user := ?_ }
  · exact nodup_map_snoc_iff.mpr ⟨h.sessionIds, hf.session⟩
  · exact forall_mem_snoc h.session_user (user?_ne_none_iff.mp hu)

theorem Sound.effect {s t : Store} (h : s.Sound) {fresh : Fresh} (hf : fresh.IsNewTo s) {c : Call}
    {a : c.Answer} (he : Effect fresh s c a t) : t.Sound := by
  cases he with
  | userCreated new hn hm hfree hname => exact h.addUser hf hn hm hfree hname
  | teamCreated new hn hfree => exact h.addTeam hf hn hfree
  | memberAdded team user ht hu hm => exact h.addMember fresh.now ht hu hm
  | roleSet team user role _ => exact h.setRole team user role
  | sessionIssued user client hu => exact h.addSession hf client hu
  | _ => exact h

theorem Reachable.sound {s : Store} (h : Reachable executes empty s) : s.Sound := by
  induction h with
  | start => exact sound_empty
  | call _ hc ih =>
    obtain ⟨fresh, hf, he⟩ := effect_of_executes hc
    exact ih.effect hf he

/-! ## Searching -/

theorem Sound.length_usersWithEmail_le_one {s : Store} (h : s.Sound) (email : String) :
    (s.usersWithEmail email).length ≤ 1 :=
  length_filter_key_le_one h.emails (Text.foldAscii email)

/-- In a sound store the order of the records has no part in a search. -/
theorem Sound.search_perm {s t : Store} (h : s.Sound) (hu : t.users.Perm s.users)
    (ht : t.teams.Perm s.teams) (email name : String) :
    t.userByEmail? email = s.userByEmail? email ∧ t.teamByName? name = s.teamByName? name :=
  ⟨find?_key_perm hu h.emails (Text.foldAscii email), find?_key_perm ht h.teamNames name⟩

/-- In every store that calls lead to from the empty one, the records have keys of their own and
refer to each other, every record is found by its ids, and every search has at most one match, which
is the same in any order of the records. -/
theorem reachable_keys_unique {s : Store} (h : Reachable executes empty s) :
    s.Sound ∧
    ((∀ u ∈ s.users, s.user? u.id = some u) ∧ (∀ t ∈ s.teams, s.team? t.id = some t) ∧
      ∀ m ∈ s.memberships, s.membership? m.team m.user = some m) ∧
    ((∀ email, (s.usersWithEmail email).length ≤ 1) ∧
      ∀ name, (s.teams.filter (·.name == name)).length ≤ 1) ∧
    ∀ t : Store, t.users.Perm s.users → t.teams.Perm s.teams → ∀ email name,
      t.userByEmail? email = s.userByEmail? email ∧ t.teamByName? name = s.teamByName? name :=
  have hs := h.sound
  ⟨hs, ⟨fun _ => hs.user?_id, fun _ => hs.team?_id, fun _ => hs.membership?_ids⟩,
    ⟨hs.length_usersWithEmail_le_one, length_filter_key_le_one hs.teamNames⟩,
    fun _ hu ht => hs.search_perm hu ht⟩

/-- Two users come, one of them under an email taken in capitals, then a team, a member who gets a
role, and a session. -/
def sampleCalls : List (Fresh × Call) :=
  let fresh (id : String) : Fresh := ⟨⟨id⟩, ⟨id⟩, ⟨id⟩, ⟨id⟩, ⟨0⟩⟩
  let ada : NewUser := ⟨"ada", "ada@x", "", "", .odoo, "1"⟩
  [(fresh "1", .createUser ada), (fresh "2", .createUser { ada with email := "ADA@X" }),
    (fresh "3", .createUser { ada with username := "bob", email := "bob@x" }),
    (fresh "4", .createTeam ⟨"crew", "Crew"⟩), (fresh "5", .addUserToTeam ⟨"4"⟩ ⟨"3"⟩),
    (fresh "6", .addUserToTeam ⟨"4"⟩ ⟨"none"⟩), (fresh "7", .setTeamRole ⟨"4"⟩ ⟨"3"⟩ .admin),
    (fresh "8", .issueSession (.ofNew ⟨"1"⟩ ⟨0⟩ ada) ⟨none, none, false⟩)]

theorem keys_unique_after_sampleCalls :
    let s := empty.after sampleCalls
    Reachable executes empty s ∧ s.Sound ∧
      (s.users.map (·.id.text) = ["1", "3"] ∧ s.memberships.length = 1 ∧ s.sessions.length = 1) ∧
      { s with users := s.users.reverse }.userByEmail? "BOB@x" = s.userByEmail? "BOB@x" :=
  have h : Reachable executes empty (empty.after sampleCalls) := Reachable.start.after (by decide)
  have hs := reachable_keys_unique h
  let t : Store :=
    { empty.after sampleCalls with users := (empty.after sampleCalls).users.reverse }
  ⟨h, hs.1, by decide, (hs.2.2.2 t (List.reverse_perm _) (List.Perm.refl _) "BOB@x" "").1⟩

end Store

end FederatedLogin
