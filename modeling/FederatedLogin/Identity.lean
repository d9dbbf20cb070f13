import FederatedLogin.Provider
import FederatedLogin.Text.Decimal
import FederatedLogin.Username

/-! # Identities

What a provider says about the person who logs in, in one form for all providers. An identity has an
external id other than zero and an email; its organizations have ids other than zero, names, and no
id twice.
-/

namespace FederatedLogin

inductive IdentityError where
  | missingIdentity
  | invalidExternalId (id : String)
  deriving DecidableEq

def IdentityError.message : IdentityError → String
  | .missingIdentity => "identity payload carries neither a subject nor an email"
  | .invalidExternalId id => "invalid external user id: " ++ id

structure Organization where
  externalId : Int
  name : String
  deriving DecidableEq

namespace Organization

/-- Whether an organization can be told apart and named. -/
def isNamed (o : Organization) : Bool := o.externalId != 0 && !Text.isAllBlank o.name

/-- Keeps the named organizations, and of those with one id the first. -/
def settle (orgs : List Organization) : List Organization :=
  (orgs.foldl (fun (kept, seen) o =>
    if o.isNamed && !seen.contains o.externalId then (o :: kept, o.externalId :: seen)
    else (kept, seen)) (([] : List Organization), ([] : List Int))).1.reverse

end Organization

structure Identity where
  provider : Provider
  /-- The id of the person at the provider. -/
  externalId : String
  isPrivileged : Bool
  isSystemPrivileged : Bool
  displayName : String
  loginName : String
  email : String
  firstName : String
  lastName : String
  /-- The key that is stored with the local user. -/
  authKey : String
  organizations : List Organization
  deriving DecidableEq

namespace Identity

/-- An identity of which only the external id and the email are known. -/
def new (provider : Provider) (externalId email : String) : Except IdentityError Identity :=
  if externalId.isEmpty || externalId == "0" then .error (.invalidExternalId externalId)
  else if email.isEmpty then .error .missingIdentity
  else .ok {
    provider, externalId, email, authKey := externalId
    isPrivileged := false, isSystemPrivileged := false
    displayName := "", loginName := "", firstName := "", lastName := ""
    organizations := [] }

def withOrganizations (i : Identity) (orgs : List Organization) : Identity :=
  { i with organizations := Organization.settle orgs }

/-- A person administers teams only with both privileges. -/
def grantsTeamAdmin (i : Identity) : Bool := i.isPrivileged && i.isSystemPrivileged

/-- The username for a new local user: the login name up to any `@`, cleaned, or else the given
generated name. -/
def localUsername (generated : String) (i : Identity) : String :=
  (Username.clean (Text.before '@' i.loginName)).getD generated

end Identity

end FederatedLogin
