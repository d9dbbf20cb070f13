import FederatedLogin.Instant
import FederatedLogin.Json.Basic
import FederatedLogin.Provider

/-! # Users

Local users. The provider's key for the person is stored with the user and is taken out before the
record leaves the server.
-/

namespace FederatedLogin

structure UserId where
  text : String
  deriving DecidableEq

structure NewUser where
  username : String
  email : String
  firstName : String
  lastName : String
  authService : Provider
  authData : String
  deriving DecidableEq

structure User where
  id : UserId
  username : String
  email : String
  firstName : String
  lastName : String
  authService : Provider
  /-- The provider's key for the person. -/
  authData : Option String
  createdAt : Instant
  updatedAt : Instant
  deriving DecidableEq

namespace User

def ofNew (id : UserId) (now : Instant) (new : NewUser) : User where
  id
  username := new.username
  email := new.email
  firstName := new.firstName
  lastName := new.lastName
  authService := new.authService
  authData := some new.authData
  createdAt := now
  updatedAt := now

/-- The first and the last name as far as they are given, or else the username. -/
def displayName (u : User) : String :=
  if u.firstName.isEmpty then
    if u.lastName.isEmpty then u.username else u.lastName
  else if u.lastName.isEmpty then u.firstName
  else u.firstName ++ " " ++ u.lastName

/-- The record without the provider's key. -/
def sanitized (u : User) : User := { u with authData := none }

/-- Whether two users are the same person to one provider. Without a key nobody is. -/
def isSameIdentity (u v : User) : Bool :=
  u.authService == v.authService && u.authData.isSome && u.authData == v.authData

/-- The record with its instants as written by `instantText`. A missing key is left out. -/
def toJson (instantText : Instant → String) (u : User) : Json :=
  .ofMembers <|
    [("id", .string u.id.text), ("username", .string u.username), ("email", .string u.email),
      ("first_name", .string u.firstName), ("last_name", .string u.lastName),
      ("auth_service", .string u.authService.tag),
      ("created_at", .string (instantText u.createdAt)),
      ("updated_at", .string (instantText u.updatedAt))] ++
    (u.authData.map fun key => ("auth_data", .string key)).toList

end User

end FederatedLogin
