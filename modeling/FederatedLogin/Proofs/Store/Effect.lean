import FederatedLogin.Store.Call

/-! # Effects of store calls

All that a call can come to, case by case: the answer, the store it leaves, and what the store
before must have been like. Later facts about the store are derived from these cases alone.
-/

namespace FederatedLogin

namespace Text

theorem sameIgnoringCase_iff {a b : String} :
    sameIgnoringCase a b = true ↔ foldAscii a = foldAscii b := by
  rw [sameIgnoringCase, beq_iff_eq]

theorem sameIgnoringCase_refl (a : String) : sameIgnoringCase a a = true :=
  sameIgnoringCase_iff.mpr rfl

theorem sameIgnoringCase_symm {a b : String} (h : sameIgnoringCase a b = true) :
    sameIgnoringCase b a = true :=
  sameIgnoringCase_iff.mpr (sameIgnoringCase_iff.mp h).symm

theorem sameIgnoringCase_trans {a b c : String} (h : sameIgnoringCase a b = true)
    (h' : sameIgnoringCase b c = true) : sameIgnoringCase a c = true :=
  sameIgnoringCase_iff.mpr ((sameIgnoringCase_iff.mp h).trans (sameIgnoringCase_iff.mp h'))

theorem sameIgnoringCase_congr {a b : String} (h : sameIgnoringCase a b = true) (c : String) :
    sameIgnoringCase c a = sameIgnoringCase c b := by
  rw [sameIgnoringCase, sameIgnoringCase, sameIgnoringCase_iff.mp h]

end Text

namespace Store

def usersWithEmail (s : Store) (email : String) : List User :=
  s.users.filter fun u => Text.sameIgnoringCase u.email email

theorem mem_usersWithEmail {s : Store} {email : String} {u : User} :
    u ∈ s.usersWithEmail email ↔ u ∈ s.users ∧ Text.sameIgnoringCase u.email email = true := by
  rw [usersWithEmail, List.mem_filter]

theorem userByEmail?_eq_head? (s : Store) (email : String) :
    s.userByEmail? email = (s.usersWithEmail email).head? := by
  rw [userByEmail?, usersWithEmail, List.head?_filter]

theorem userByEmail?_eq_none_iff {s : Store} {email : String} :
    s.userByEmail? email = none ↔ s.usersWithEmail email = [] := by
  rw [userByEmail?_eq_head?, List.head?_eq_none_iff]

theorem usersWithEmail_congr {a b : String} (h : Text.sameIgnoringCase a b = true) (s : Store) :
    s.usersWithEmail a = s.usersWithEmail b := by
  simp only [usersWithEmail, Text.sameIgnoringCase_congr h]

theorem userByEmail?_congr {a b : String} (h : Text.sameIgnoringCase a b = true) (s : Store) :
    s.userByEmail? a = s.userByEmail? b := by
  rw [userByEmail?_eq_head?, userByEmail?_eq_head?, usersWithEmail_congr h]

theorem mem_usersWithEmail_of_userByEmail? {s : Store} {email : String} {u : User}
    (h : s.userByEmail? email = some u) : u ∈ s.usersWithEmail email := by
  rw [userByEmail?_eq_head?] at h
  exact List.mem_of_mem_head? h

theorem usersWithEmail_eq_singleton {s : Store} {email : String} {u : User}
    (hle : (s.usersWithEmail email).length ≤ 1) (hu : s.userByEmail? email = some u) :
    s.usersWithEmail email = [u] := by
  rw [userByEmail?_eq_head?] at hu
  obtain ⟨others, hcons⟩ := List.head?_eq_some_iff.mp hu
  rw [hcons, List.length_cons] at hle
  have hnil : others = [] := List.eq_nil_of_length_eq_zero (by omega)
  rw [hcons, hnil]

theorem email_of_userByEmail? {s : Store} {email : String} {u : User}
    (h : s.userByEmail? email = some u) : Text.sameIgnoringCase u.email email = true :=
  (mem_usersWithEmail.mp (mem_usersWithEmail_of_userByEmail? h)).2

theorem hasUsername_iff {s : Store} {username : String} :
    s.hasUsername username = true ↔ ∃ u ∈ s.users, u.username = username := by
  simp [hasUsername]

def setRoleOf (team : TeamId) (user : UserId) (role : TeamRole) (m : Membership) : Membership :=
  if m.joins team user then { m with role } else m

/-- What a call comes to, given what is fresh. Errors leave the store alone. -/
inductive Effect (fresh : Fresh) (s : Store) : (c : Call) → c.Answer → Store → Prop where
  | userSought (email : String) :
      Effect fresh s (.findUserByEmail email) (.ok (s.userByEmail? email)) s
  | userIncomplete (new : NewUser) : new.username = "" ∨ new.email = "" →
      Effect fresh s (.createUser new) (.error (.invalid "username and email are required")) s
  | emailTaken (new : NewUser) : new.username ≠ "" → new.email ≠ "" →
      s.usersWithEmail new.email ≠ [] →
      Effect fresh s (.createUser new) (.error (.conflict ("email " ++ new.email ++ " is taken"))) s
  | usernameTaken (new : NewUser) : new.username ≠ "" → new.email ≠ "" →
      s.usersWithEmail new.email = [] → s.hasUsername new.username = true →
      Effect fresh s (.createUser new)
        (.error (.conflict ("username " ++ new.username ++ " is taken"))) s
  | userCreated (new : NewUser) : new.username ≠ "" → new.email ≠ "" →
      s.usersWithEmail new.email = [] → s.hasUsername new.username = false →
      Effect fresh s (.createUser new) (.ok (User.ofNew fresh.userId fresh.now new))
        { s with users := s.users ++ [User.ofNew fresh.userId fresh.now new] }
  | teamSought (name : String) :
      Effect fresh s (.findTeamByName name) (.ok (s.teamByName? name)) s
  | teamUnnamed (new : NewTeam) : new.name = "" →
      Effect fresh s (.createTeam new) (.error (.invalid "team name is required")) s
  | teamNameTaken (new : NewTeam) : new.name ≠ "" → s.teamByName? new.name ≠ none →
      Effect fresh s (.createTeam new) (.error (.conflict ("team " ++ new.name ++ " exists"))) s
  | teamCreated (new : NewTeam) : new.name ≠ "" → s.teamByName? new.name = none →
      Effect fresh s (.createTeam new) (.ok (Team.ofNew fresh.teamId fresh.now new))
        { s with teams := s.teams ++ [Team.ofNew fresh.teamId fresh.now new] }
  | teamUnknown (team : TeamId) (user : UserId) : s.team? team = none →
      Effect fresh s (.addUserToTeam team user) (.error (.notFound ("team " ++ team.text))) s
  | memberUnknown (team : TeamId) (user : UserId) : s.team? team ≠ none → s.user? user = none →
      Effect fresh s (.addUserToTeam team user) (.error (.notFound ("user " ++ user.text))) s
  | memberAlready (team : TeamId) (user : UserId) (m : Membership) : s.team? team ≠ none →
      s.user? user ≠ none → s.membership? team user = some m →
      Effect fresh s (.addUserToTeam team user) (.ok m) s
  | memberAdded (team : TeamId) (user : UserId) : s.team? team ≠ none → s.user? user ≠ none →
      s.membership? team user = none →
      Effect fresh s (.addUserToTeam team user) (.ok (Membership.ofNew team user fresh.now))
        { s with memberships := s.memberships ++ [Membership.ofNew team user fresh.now] }
  | membershipUnknown (team : TeamId) (user : UserId) (role : TeamRole) :
      s.membership? team user = none →
      Effect fresh s (.setTeamRole team user role)
        (.error (.notFound ("membership " ++ team.text ++ "/" ++ user.text))) s
  | roleSet (team : TeamId) (user : UserId) (role : TeamRole) :
      s.membership? team user ≠ none →
      Effect fresh s (.setTeamRole team user role) (.ok ())
        { s with memberships := s.memberships.map (setRoleOf team user role) }
  | ownerUnknown (user : User) (client : ClientContext) : s.user? user.id = none →
      Effect fresh s (.issueSession user client) (.error (.notFound ("user " ++ user.id.text))) s
  | sessionIssued (user : User) (client : ClientContext) : s.user? user.id ≠ none →
      Effect fresh s (.issueSession user client)
        (.ok (Session.issue fresh.sessionId fresh.token fresh.now user.id client))
        { s with sessions := s.sessions ++
            [Session.issue fresh.sessionId fresh.token fresh.now user.id client] }

section Operations

variable (fresh : Fresh) (s : Store)

theorem effect_createUser (new : NewUser) : Effect fresh s (.createUser new)
    (s.createUser fresh new).1 (s.createUser fresh new).2 := by
  unfold createUser
  split
  next h =>
    exact .userIncomplete new (by simpa [String.isEmpty_iff] using h)
  next h =>
    have hn : new.username ≠ "" ∧ new.email ≠ "" := by simpa [String.isEmpty_iff] using h
    split
    next he =>
      refine .emailTaken new hn.1 hn.2 fun hz => ?_
      simp [userByEmail?_eq_none_iff.mpr hz] at he
    next he =>
      have he : s.usersWithEmail new.email = [] :=
        userByEmail?_eq_none_iff.mp (by simpa using he)
      split
      next hu => exact .usernameTaken new hn.1 hn.2 he hu
      next hu => exact .userCreated new hn.1 hn.2 he (by simpa using hu)

theorem effect_createTeam (new : NewTeam) : Effect fresh s (.createTeam new)
    (s.createTeam fresh new).1 (s.createTeam fresh new).2 := by
  unfold createTeam
  split
  next h => exact .teamUnnamed new (by simpa [String.isEmpty_iff] using h)
  next h =>
    have hn : new.name ≠ "" := by simpa [String.isEmpty_iff] using h
    split
    next ht => exact .teamNameTaken new hn (Option.isSome_iff_ne_none.mp ht)
    next ht => exact .teamCreated new hn (by simpa using ht)

theorem effect_addMember (team : TeamId) (user : UserId) :
    Effect fresh s (.addUserToTeam team user)
      (s.addMember fresh team user).1 (s.addMember fresh team user).2 := by
  unfold addMember
  split
  next ht => exact .teamUnknown team user (Option.isNone_iff_eq_none.mp ht)
  next ht =>
    have ht : s.team? team ≠ none := by simpa using ht
    split
    next hu => exact .memberUnknown team user ht (Option.isNone_iff_eq_none.mp hu)
    next hu =>
      have hu : s.user? user ≠ none := by simpa using hu
      split
      next m hm => exact .memberAlready team user m ht hu hm
      next hm => exact .memberAdded team user ht hu hm

theorem effect_setRole (team : TeamId) (user : UserId) (role : TeamRole) :
    Effect fresh s (.setTeamRole team user role)
      (s.setRole team user role).1 (s.setRole team user role).2 := by
  unfold setRole
  split
  next hm => exact .membershipUnknown team user role (Option.isNone_iff_eq_none.mp hm)
  next hm => exact .roleSet team user role (by simpa using hm)

theorem effect_issueSession (user : User) (client : ClientContext) :
    Effect fresh s (.issueSession user client)
      (s.issueSession fresh user.id client).1 (s.issueSession fresh user.id client).2 := by
  unfold issueSession
  split
  next hu => exact .ownerUnknown user client (Option.isNone_iff_eq_none.mp hu)
  next hu => exact .sessionIssued user client (by simpa using hu)

theorem effect_answer (c : Call) : Effect fresh s c (s.answer fresh c).1 (s.answer fresh c).2 := by
  cases c with
  | findUserByEmail email => exact .userSought email
  | createUser new => exact effect_createUser fresh s new
  | findTeamByName name => exact .teamSought name
  | createTeam new => exact effect_createTeam fresh s new
  | addUserToTeam team user => exact effect_addMember fresh s team user
  | setTeamRole team user role => exact effect_setRole fresh s team user role
  | issueSession user client => exact effect_issueSession fresh s user client

end Operations

/-- A complete user is refused over the email wherever the email has a user. -/
theorem Effect.emailTaken_iff {fresh : Fresh} {s t : Store} {new : NewUser}
    {a : Except StoreError User} (h : Effect fresh s (.createUser new) a t)
    (hname : new.username ≠ "") (hemail : new.email ≠ "")
    (hfree : s.hasUsername new.username = false) :
    a = .error (.conflict ("email " ++ new.email ++ " is taken")) ↔
      s.usersWithEmail new.email ≠ [] := by
  cases h with
  | userIncomplete _ hn =>
    rcases hn with hn | hn
    · exact absurd hn hname
    · exact absurd hn hemail
  | emailTaken _ _ _ htaken => exact iff_of_true rfl htaken
  | usernameTaken _ _ _ _ hu => exact absurd (hu.symm.trans hfree) (by decide)
  | userCreated _ _ _ hnone _ => exact iff_of_false nofun (not_not_intro hnone)

theorem Effect.length_usersWithEmail_le_one {fresh : Fresh} {s t : Store} {c : Call} {a : c.Answer}
    (h : Effect fresh s c a t) {email : String} (hs : (s.usersWithEmail email).length ≤ 1) :
    (t.usersWithEmail email).length ≤ 1 := by
  cases h with
  | userCreated new _ _ hfree _ =>
    rw [usersWithEmail, List.filter_append, List.length_append]
    change (s.usersWithEmail email).length + _ ≤ 1
    by_cases hsame : Text.sameIgnoringCase new.email email = true
    · rw [← usersWithEmail_congr hsame, hfree]
      simpa using List.length_filter_le _ [User.ofNew fresh.userId fresh.now new]
    · have hnone : [User.ofNew fresh.userId fresh.now new].filter
          (fun u => Text.sameIgnoringCase u.email email) = [] :=
        List.filter_eq_nil_iff.mpr (List.forall_mem_singleton.mpr hsame)
      rw [hnone]
      exact hs
  | _ => exact hs

end Store

end FederatedLogin
