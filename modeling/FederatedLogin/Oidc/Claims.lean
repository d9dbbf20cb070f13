import FederatedLogin.Identity
import FederatedLogin.Json.Record

/-! # OpenID Connect claims

The claims of a UserInfo document and the identity they stand for. The subject is the key of the
person, or else the email; either of them makes do for the other.
-/

namespace FederatedLogin.Oidc

/-- The standard claims, empty where they are missing. -/
structure Claims where
  subject : String
  email : String
  emailVerified : Option Bool
  preferredUsername : String
  name : String
  givenName : String
  familyName : String
  deriving DecidableEq

namespace Claims

def fields : List String :=
  ["sub", "email", "email_verified", "preferred_username", "name", "given_name", "family_name"]

def ofBytes? (s : Json.Bytes) : Option Claims := do
  let r ← Json.recordOfBytes? fields [] s
  return {
    subject := ← Json.plainText? r "sub"
    email := ← Json.plainText? r "email"
    emailVerified := ← r.read? "email_verified" Json.optionalFlag?
    preferredUsername := ← Json.plainText? r "preferred_username"
    name := ← Json.plainText? r "name"
    givenName := ← Json.plainText? r "given_name"
    familyName := ← Json.plainText? r "family_name" }

def toJson (c : Claims) : Json :=
  .ofMembers [("sub", .string c.subject), ("email", .string c.email),
    ("email_verified", (c.emailVerified.map Json.bool).getD .null),
    ("preferred_username", .string c.preferredUsername), ("name", .string c.name),
    ("given_name", .string c.givenName), ("family_name", .string c.familyName)]

def emailDomain : String := "oidc.local"

/-- The email in lower case, made from the subject where the claims hold none. -/
def resolvedEmail (c : Claims) : String :=
  Text.lower (if c.email.isEmpty then "oidc_" ++ c.subject ++ "@" ++ emailDomain else c.email)

def key (c : Claims) : String := if c.subject.isEmpty then c.resolvedEmail else c.subject

/-- The part of the email before its first `@`, if there is one and it is not empty. -/
def emailLocalPart? (c : Claims) : Option String :=
  let part := Text.before '@' c.email
  if part.isEmpty || part == c.email then none else some part

/-- The name to log in by: the preferred username, else the local part of the email, else the
subject. -/
def loginName (c : Claims) : String :=
  if !c.preferredUsername.isEmpty then c.preferredUsername
  else c.emailLocalPart?.getD c.subject

/-- The first and the last name. Without a given or a family name the full name is split after its
first word; one that has no second word is taken as it is. -/
def splitName (c : Claims) : String × String :=
  if !c.givenName.isEmpty || !c.familyName.isEmpty then (c.givenName, c.familyName)
  else match Text.words c.name with
    | first :: second :: rest => (first, " ".intercalate (second :: rest))
    | _ => (c.name, "")

def displayName (c : Claims) : String :=
  if c.name.isEmpty then Text.trim (c.splitName.1 ++ " " ++ c.splitName.2) else c.name

/-- The identity that claims stand for, which has neither organizations nor privileges. -/
def identity (c : Claims) : Except IdentityError Identity := do
  if c.subject.isEmpty && c.email.isEmpty then throw .missingIdentity
  let i ← Identity.new .openId c.key c.resolvedEmail
  return { i with
    loginName := c.loginName
    displayName := c.displayName
    firstName := c.splitName.1
    lastName := c.splitName.2 }

end Claims

end FederatedLogin.Oidc
