import FederatedLogin.Program
import FederatedLogin.Store.Basic

/-! # Store calls

The operations of the store as data. A program of store calls can be run against a store,
interleaved with other programs, and exposed to failures of single calls.
-/

namespace FederatedLogin.Store

inductive Call where
  | findUserByEmail (email : String)
  | createUser (new : NewUser)
  | findTeamByName (name : String)
  | createTeam (new : NewTeam)
  | addUserToTeam (team : TeamId) (user : UserId)
  | setTeamRole (team : TeamId) (user : UserId) (role : TeamRole)
  | issueSession (user : User) (client : ClientContext)
  deriving DecidableEq

abbrev Call.Value : Call → Type
  | .findUserByEmail _ => Option User
  | .createUser _ => User
  | .findTeamByName _ => Option Team
  | .createTeam _ => Team
  | .addUserToTeam .. => Membership
  | .setTeamRole .. => Unit
  | .issueSession .. => Session

abbrev Call.Answer (c : Call) : Type := Except StoreError c.Value

abbrev Use := Program Call Call.Answer

def answer (fresh : Fresh) (s : Store) : (c : Call) → c.Answer × Store
  | .findUserByEmail email => (.ok (s.userByEmail? email), s)
  | .createUser new => s.createUser fresh new
  | .findTeamByName name => (.ok (s.teamByName? name), s)
  | .createTeam new => s.createTeam fresh new
  | .addUserToTeam team user => s.addMember fresh team user
  | .setTeamRole team user role => s.setRole team user role
  | .issueSession user client => s.issueSession fresh user.id client

end FederatedLogin.Store
