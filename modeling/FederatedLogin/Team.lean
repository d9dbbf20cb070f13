import FederatedLogin.Json.Record
import FederatedLogin.User

/-! # Teams

Local teams and the roles of their members.
-/

namespace FederatedLogin

structure TeamId where
  text : String
  deriving DecidableEq

inductive TeamRole where
  | member
  | admin
  deriving DecidableEq

namespace TeamRole

def all : List TeamRole := [.member, .admin]

def name : TeamRole → String
  | .member => "member"
  | .admin => "admin"

def ofName? (s : String) : Option TeamRole := all.find? (·.name == s)

def ofJson? (v : Json) : Option TeamRole := v.choiceName?.bind ofName?

/-- Whether a role permits all that another does. -/
def includes : TeamRole → TeamRole → Bool
  | .admin, _ => true
  | .member, .member => true
  | .member, .admin => false

end TeamRole

structure NewTeam where
  /-- The slug by which the team is found. -/
  name : String
  displayName : String
  deriving DecidableEq

structure Team where
  id : TeamId
  name : String
  displayName : String
  createdAt : Instant
  deriving DecidableEq

def Team.ofNew (id : TeamId) (now : Instant) (new : NewTeam) : Team where
  id
  name := new.name
  displayName := new.displayName
  createdAt := now

structure Membership where
  team : TeamId
  user : UserId
  role : TeamRole
  joinedAt : Instant
  deriving DecidableEq

namespace Membership

def ofNew (team : TeamId) (user : UserId) (now : Instant) : Membership :=
  ⟨team, user, .member, now⟩

def joins (m : Membership) (team : TeamId) (user : UserId) : Bool :=
  m.team == team && m.user == user

end Membership

end FederatedLogin
