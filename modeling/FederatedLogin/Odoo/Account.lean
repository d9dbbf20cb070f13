import FederatedLogin.Identity
import FederatedLogin.Rpc.Loose

/-! # Odoo accounts

The rows and results in which Odoo describes a user, and the account gathered from them. Unset
fields arrive as `false` and ids as doubles or pairs, so every field is loose.
-/

namespace FederatedLogin.Odoo

open Rpc (Loose looseField)

structure Account where
  uid : Int
  login : String
  name : String
  email : Option String
  isAdmin : Bool
  isSystem : Bool
  companies : List Organization
  deriving DecidableEq

structure SessionInfo where
  uidField : Loose
  isSystemField : Loose
  isAdminField : Loose
  userCompanies : Json

def organization? (id : Loose) (name : Option String) : Option Organization := do
  return ⟨← id.id?, Text.trim (← name)⟩

/-- A company written as an object with `id` and `name`, or as an array that starts with them. -/
def companyOfEntry? : Json → Option Organization
  | .object members => do
    let id ← members.lookup "id"
    let name ← members.lookup "name"
    organization? (.ofJson id) name.string?
  | .array (id :: name :: _) => organization? (.ofJson id) name.string?
  | _ => none

/-- The companies in an object, whatever their keys, or in an array. -/
def companiesOf : Json → List Organization
  | .object members => members.filterMap fun (_, v) => companyOfEntry? v
  | .array items => items.filterMap companyOfEntry?
  | _ => []

namespace SessionInfo

def ofJson? (v : Json) : Option SessionInfo := do
  let r ← v.record? ["uid", "is_system", "is_admin", "user_companies"]
  return {
    uidField := looseField r "uid"
    isSystemField := looseField r "is_system"
    isAdminField := looseField r "is_admin"
    userCompanies := (r.get? "user_companies").getD .null }

def uid (s : SessionInfo) : Int := s.uidField.id?.getD 0

def isSystem (s : SessionInfo) : Bool := s.isSystemField.isSet

def isAdmin (s : SessionInfo) : Bool := s.isAdminField.isSet

def allowedCompanies (s : SessionInfo) : List Organization :=
  ((s.userCompanies.member? "allowed_companies").map companiesOf).getD []

end SessionInfo

structure ProfileRow where
  name : Loose
  login : Loose
  email : Loose

def ProfileRow.ofJson? (v : Json) : Option ProfileRow := do
  let r ← v.record? ["name", "login", "email"]
  return {
    name := looseField r "name"
    login := looseField r "login"
    email := looseField r "email" }

structure MembershipRow where
  companyIds : Loose
  isSystem : Loose
  isAdmin : Loose

def MembershipRow.ofJson? (v : Json) : Option MembershipRow := do
  let r ← v.record? ["company_ids", "is_system", "is_admin"]
  return {
    companyIds := looseField r "company_ids"
    isSystem := looseField r "is_system"
    isAdmin := looseField r "is_admin" }

structure CompanyRow where
  id : Loose
  name : Loose

namespace CompanyRow

def ofJson? (v : Json) : Option CompanyRow := do
  let r ← v.record? ["id", "name"]
  return { id := looseField r "id", name := looseField r "name" }

def organization? (r : CompanyRow) : Option Organization :=
  Odoo.organization? r.id r.name.nonEmptyText?

end CompanyRow

end FederatedLogin.Odoo
