import FederatedLogin.Session
import FederatedLogin.Team

/-! # The store

Users, teams, memberships and sessions. Emails, usernames and team names are unique and not empty,
and a failed operation leaves the store as it was.
-/

namespace FederatedLogin

inductive StoreError where
  | conflict (what : String)
  | notFound (what : String)
  | invalid (what : String)
  | unavailable (what : String)
  deriving DecidableEq

def StoreError.message : StoreError → String
  | .conflict what => "conflict: " ++ what
  | .notFound what => "not found: " ++ what
  | .invalid what => "invalid: " ++ what
  | .unavailable what => "store unavailable: " ++ what

structure Store where
  users : List User
  teams : List Team
  memberships : List Membership
  sessions : List Session
  deriving DecidableEq

/-- What an operation may need anew: an id for what it creates, a token and the time. -/
structure Fresh where
  userId : UserId
  teamId : TeamId
  sessionId : SessionId
  token : Secret String
  now : Instant

namespace Store

def empty : Store := ⟨[], [], [], []⟩

/-! ## Looking up -/

def user? (s : Store) (id : UserId) : Option User := s.users.find? (·.id == id)

def team? (s : Store) (id : TeamId) : Option Team := s.teams.find? (·.id == id)

def membership? (s : Store) (team : TeamId) (user : UserId) : Option Membership :=
  s.memberships.find? (·.joins team user)

/-- The user with an email, in any case of its ASCII letters. -/
def userByEmail? (s : Store) (email : String) : Option User :=
  s.users.find? fun u => Text.sameIgnoringCase u.email email

def teamByName? (s : Store) (name : String) : Option Team := s.teams.find? (·.name == name)

def members (s : Store) (name : String) : List Membership :=
  match s.teamByName? name with
  | some team => s.memberships.filter (·.team == team.id)
  | none => []

def hasUsername (s : Store) (username : String) : Bool := s.users.any (·.username == username)

/-! ## Changing -/

def createUser (s : Store) (fresh : Fresh) (new : NewUser) : Except StoreError User × Store :=
  if new.username.isEmpty || new.email.isEmpty then
    (.error (.invalid "username and email are required"), s)
  else if (s.userByEmail? new.email).isSome then
    (.error (.conflict ("email " ++ new.email ++ " is taken")), s)
  else if s.hasUsername new.username then
    (.error (.conflict ("username " ++ new.username ++ " is taken")), s)
  else
    let user := User.ofNew fresh.userId fresh.now new
    (.ok user, { s with users := s.users ++ [user] })

def createTeam (s : Store) (fresh : Fresh) (new : NewTeam) : Except StoreError Team × Store :=
  if new.name.isEmpty then (.error (.invalid "team name is required"), s)
  else if (s.teamByName? new.name).isSome then
    (.error (.conflict ("team " ++ new.name ++ " exists")), s)
  else
    let team := Team.ofNew fresh.teamId fresh.now new
    (.ok team, { s with teams := s.teams ++ [team] })

/-- Makes a user a member of a team. One who is a member already stays as before. -/
def addMember (s : Store) (fresh : Fresh) (team : TeamId) (user : UserId) :
    Except StoreError Membership × Store :=
  if (s.team? team).isNone then (.error (.notFound ("team " ++ team.text)), s)
  else if (s.user? user).isNone then (.error (.notFound ("user " ++ user.text)), s)
  else match s.membership? team user with
    | some membership => (.ok membership, s)
    | none =>
      let membership := Membership.ofNew team user fresh.now
      (.ok membership, { s with memberships := s.memberships ++ [membership] })

def setRole (s : Store) (team : TeamId) (user : UserId) (role : TeamRole) :
    Except StoreError Unit × Store :=
  if (s.membership? team user).isNone then
    (.error (.notFound ("membership " ++ team.text ++ "/" ++ user.text)), s)
  else
    let update (m : Membership) : Membership := if m.joins team user then { m with role } else m
    (.ok (), { s with memberships := s.memberships.map update })

def issueSession (s : Store) (fresh : Fresh) (user : UserId) (client : ClientContext) :
    Except StoreError Session × Store :=
  if (s.user? user).isNone then (.error (.notFound ("user " ++ user.text)), s)
  else
    let session := Session.issue fresh.sessionId fresh.token fresh.now user client
    (.ok session, { s with sessions := s.sessions ++ [session] })

end Store

end FederatedLogin
