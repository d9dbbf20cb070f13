import FederatedLogin.Identity
import FederatedLogin.Slug
import FederatedLogin.Store.Call

/-! # Provisioning

Turning an identity into a local user, a session and memberships of teams. The steps go one after
another and none is undone. A failure of the teams is passed over, and the organization with it.
-/

namespace FederatedLogin.Provisioning

open Store (Call Use)

/-- The steps whose failure ends a run. -/
inductive Operation where
  | findUser
  | createUser
  | issueSession
  deriving DecidableEq

def Operation.name : Operation → String
  | .findUser => "find user"
  | .createUser => "create user"
  | .issueSession => "issue session"

structure Failure where
  operation : Operation
  cause : StoreError
  deriving DecidableEq

def Failure.message (f : Failure) : String := f.operation.name ++ " failed: " ++ f.cause.message

/-- Generated usernames for one run: for an identity without a usable login, and for the second
attempt to create a user. -/
structure SpareNames where
  first : String
  second : String

structure Provisioned where
  user : User
  /-- Whether this run has created the user. -/
  created : Bool
  session : Session
  /-- The slugs of the organizations whose teams the user has been found or made a member of. -/
  teams : List String
  deriving DecidableEq

def ask (c : Call) : Use c.Answer := Program.ask c

/-! ## The user -/

def newUser (i : Identity) (username : String) : NewUser where
  username
  email := i.email
  firstName := i.firstName
  lastName := i.lastName
  authService := i.provider
  authData := i.authKey

/-- Looks again for a user who could not be created, and creates one under a generated name if
there is none: either the email was taken in the meantime or the username is. -/
def resolveConflict (i : Identity) (spare : SpareNames) : Use (Except Failure (User × Bool)) := do
  match ← ask (.findUserByEmail i.email) with
  | .error e => return .error ⟨.findUser, e⟩
  | .ok (some user) => return .ok (user, false)
  | .ok none =>
    match ← ask (.createUser (newUser i spare.second)) with
    | .error e => return .error ⟨.createUser, e⟩
    | .ok user => return .ok (user, true)

/-- Finds the user with the identity's email or creates one, and tells whether it was created. -/
def findOrCreateUser (i : Identity) (spare : SpareNames) : Use (Except Failure (User × Bool)) := do
  match ← ask (.findUserByEmail i.email) with
  | .error e => return .error ⟨.findUser, e⟩
  | .ok (some user) => return .ok (user, false)
  | .ok none =>
    match ← ask (.createUser (newUser i (i.localUsername spare.first))) with
    | .ok user => return .ok (user, true)
    | .error (.conflict _) => resolveConflict i spare
    | .error e => return .error ⟨.createUser, e⟩

/-! ## The teams -/

/-- Finds the team with a slug or creates it for an organization. There is no team where a call
fails, other than the creation of one that somebody else has created just before. -/
def findOrCreateTeam? (slug : String) (o : Organization) : Use (Option Team) := do
  match ← ask (.findTeamByName slug) with
  | .error _ => return none
  | .ok (some team) => return some team
  | .ok none =>
    match ← ask (.createTeam ⟨slug, o.name⟩) with
    | .ok team => return some team
    | .error (.conflict _) =>
      match ← ask (.findTeamByName slug) with
      | .ok team => return team
      | .error _ => return none
    | .error _ => return none

/-- Makes a member an administrator where the identity grants it and the present role is less. -/
def grantAdmin (i : Identity) (team : TeamId) (user : UserId) (role : TeamRole) : Use Unit := do
  if i.grantsTeamAdmin && !role.includes .admin then
    let _ ← ask (.setTeamRole team user .admin)
    return
  else return

/-- Brings the user into the team of an organization and returns the team's slug. -/
def joinTeam? (i : Identity) (user : UserId) (o : Organization) : Use (Option String) := do
  let slug := Slug.ofName o.name
  if slug.isEmpty then return none
  else
    match ← findOrCreateTeam? slug o with
    | none => return none
    | some team =>
      match ← ask (.addUserToTeam team.id user) with
      | .error _ => return none
      | .ok membership =>
        grantAdmin i team.id user membership.role
        return some slug

def joinTeams (i : Identity) (user : UserId) : List Organization → Use (List String)
  | [] => return []
  | o :: rest => do
    let slug ← joinTeam? i user o
    let slugs ← joinTeams i user rest
    return slug.toList ++ slugs

/-! ## The run -/

def provision (i : Identity) (client : ClientContext) (spare : SpareNames) :
    Use (Except Failure Provisioned) := do
  match ← findOrCreateUser i spare with
  | .error f => return .error f
  | .ok (user, created) =>
    match ← ask (.issueSession user client) with
    | .error e => return .error ⟨.issueSession, e⟩
    | .ok session =>
      let teams ← joinTeams i user.id i.organizations
      return .ok { user, created, session, teams }

end FederatedLogin.Provisioning
