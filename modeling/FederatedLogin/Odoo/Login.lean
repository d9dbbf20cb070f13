import FederatedLogin.Odoo.Account
import FederatedLogin.Odoo.Rejection
import FederatedLogin.Odoo.Settings
import FederatedLogin.Rpc.Call
import FederatedLogin.Secret

/-! # Odoo logins

The steps of a login: credentials are checked, then the profile is fetched, then the memberships,
and at last the organizations they name. Each step makes one call at most, and the first failure
ends the login.
-/

namespace FederatedLogin.Odoo

inductive Step where
  | authenticate
  | fetchProfile
  | fetchMemberships
  | fetchOrganizations
  deriving DecidableEq

namespace Step

def all : List Step := [.authenticate, .fetchProfile, .fetchMemberships, .fetchOrganizations]

def name : Step → String
  | .authenticate => "authenticate"
  | .fetchProfile => "fetch_profile"
  | .fetchMemberships => "fetch_memberships"
  | .fetchOrganizations => "fetch_organizations"

def ofName? (s : String) : Option Step := all.find? (·.name == s)

def requestId : Step → Int
  | .authenticate => 1
  | .fetchProfile => 2
  | .fetchMemberships => 3
  | .fetchOrganizations => 4

end Step

/-- Why a login failed for other reasons than its credentials. -/
inductive LoginError where
  | transport (step : Step) (cause : Rpc.Failure)
  | protocol (step : Step) (reason : String)
  | userNotFound (uid : Int)

namespace LoginError

def step : LoginError → Step
  | .transport step _ => step
  | .protocol step _ => step
  | .userNotFound _ => .fetchProfile

/-- The message, up to what the transport says about a failure. -/
def message : LoginError → String
  | .transport step cause => "odoo " ++ step.name ++ " request failed: " ++ cause.messageHead
  | .protocol step reason => "odoo " ++ step.name ++ " failed: " ++ reason
  | .userNotFound uid => "odoo user " ++ Text.decimal uid ++ " not found"

end LoginError

inductive Outcome where
  | authenticated (account : Account)
  | invalidCredentials
  deriving DecidableEq

structure Standing where
  companies : List Organization
  isSystem : Bool
  isAdmin : Bool

/-! ## Reading replies -/

/-- What the answer to a step's call amounts to, apart from a failure of the call. -/
def replyOf (step : Step) : Except Rpc.Failure Rpc.Reply → Except LoginError Rpc.Reply
  | .ok reply => .ok reply
  | .error cause => .error (.transport step cause)

/-- The session a result describes, if it is that of a user. -/
def sessionOf? (result : Json) : Option SessionInfo :=
  (SessionInfo.ofJson? result).filter fun session => 0 < session.uid

/-- The session after a check of credentials, or nothing where they were rejected. -/
def sessionOfReply : Rpc.Reply → Except LoginError (Option SessionInfo)
  | .denied _ => .ok none
  | .response status response =>
    match response.error with
    | some error =>
      match judge status (some error) with
      | .invalidCredentials => .ok none
      | .serviceFailure => .error (.protocol .authenticate error.message)
    | none => .ok (response.usableResult?.bind sessionOf?)

def rowsOf? (row? : Json → Option α) : Json → Option (List α)
  | .array items => items.mapM row?
  | _ => none

/-- The rows in a reply, of which there are none where the result is missing. Results of another
shape fail every step but the fetch of the profile, to which they are no rows either. -/
def rowsOfReply (step : Step) (row? : Json → Option α) : Rpc.Reply → Except LoginError (List α)
  | .denied status => .error (.protocol step ("HTTP " ++ status.describe))
  | .response _ response =>
    match response.error, response.result with
    | some error, _ => .error (.protocol step error.message)
    | none, none => .ok []
    | none, some result =>
      match rowsOf? row? result with
      | some rows => .ok rows
      | none =>
        if step = .fetchProfile then .ok []
        else .error (.protocol step "unexpected result shape: ")

/-! ## Requests -/

def credentials (s : Settings) (identifier : String) (secret : Secret String) : Json :=
  .ofMembers [("db", .string s.database), ("login", .string identifier),
    ("password", .string secret.expose)]

structure Query where
  model : String
  domain : Json
  fields : List String

def Query.params (s : Settings) (uid : Int) (secret : Secret String) (q : Query) : Json :=
  .ofMembers [("service", .string "object"), ("method", .string "execute_kw"),
    ("args", .array [.string s.database, .int uid, .string secret.expose, .string q.model,
      .string "search_read", q.domain, .ofMembers [("fields", .array (q.fields.map .string))]])]

def idDomain (relation : String) (value : Json) : Json :=
  .array [.array [.array [.string "id", .string relation, value]]]

def profileQuery (uid : Int) : Query :=
  ⟨"res.users", idDomain "=" (.int uid), ["id", "name", "login", "email"]⟩

def membershipQuery (uid : Int) : Query :=
  ⟨"res.users", idDomain "=" (.int uid),
    ["id", "company_ids", "is_system", "is_admin", "groups_id"]⟩

def organizationQuery (ids : List Int) : Query :=
  ⟨"res.company", idDomain "in" (.array (ids.map .int)), ["id", "name"]⟩

/-! ## Steps -/

/-- A part of a login, which exchanges messages and may fail. -/
abbrev Attempt := ExceptT LoginError Http.Exchange

def call (step : Step) (endpoint : String) (params : Json) : Attempt Rpc.Reply :=
  .mk do return replyOf step (← Rpc.call endpoint (.call params step.requestId))

/-- Checks credentials. There is no session where they are rejected. -/
def authenticate (s : Settings) (identifier : String) (secret : Secret String) :
    Attempt (Option SessionInfo) := do
  let reply ← call .authenticate s.authenticateUrl (credentials s identifier secret)
  sessionOfReply reply

def fetch (s : Settings) (uid : Int) (secret : Secret String) (step : Step)
    (row? : Json → Option α) (q : Query) : Attempt (List α) := do
  let reply ← call step s.rpcUrl (q.params s uid secret)
  rowsOfReply step row? reply

def fetchProfile (s : Settings) (uid : Int) (secret : Secret String) : Attempt ProfileRow := do
  match ← fetch s uid secret .fetchProfile ProfileRow.ofJson? (profileQuery uid) with
  | row :: _ => return row
  | [] => throw (.userNotFound uid)

/-- Fetches the organizations with the given ids. Without any id there is nothing to ask. -/
def fetchOrganizations (s : Settings) (uid : Int) (secret : Secret String) (ids : List Int) :
    Attempt (List Organization) := do
  if ids.isEmpty then return []
  else
    let rows ← fetch s uid secret .fetchOrganizations CompanyRow.ofJson? (organizationQuery ids)
    return rows.filterMap CompanyRow.organization?

def fetchStanding (s : Settings) (uid : Int) (secret : Secret String) : Attempt Standing := do
  match ← fetch s uid secret .fetchMemberships MembershipRow.ofJson? (membershipQuery uid) with
  | row :: _ =>
    let companies ← fetchOrganizations s uid secret row.companyIds.ids
    return { companies, isSystem := row.isSystem.isSet, isAdmin := row.isAdmin.isSet }
  | [] => throw (.protocol .fetchMemberships ("no membership row for uid " ++ Text.decimal uid))

def SessionInfo.standing (session : SessionInfo) : Standing where
  companies := session.allowedCompanies
  isSystem := session.isSystem
  isAdmin := session.isAdmin

/-- The user's standing. Where organizations are synchronized it is fetched, and the session adds
its flags alone. -/
def standing (s : Settings) (session : SessionInfo) (secret : Secret String) :
    Attempt Standing := do
  if s.syncOrganizations then
    let fetched ← fetchStanding s session.uid secret
    return { fetched with
      isSystem := fetched.isSystem || session.isSystem
      isAdmin := fetched.isAdmin || session.isAdmin }
  else return session.standing

def accountOf (uid : Int) (profile : ProfileRow) (standing : Standing) : Account where
  uid
  login := profile.login.nonEmptyText?.getD ""
  name := profile.name.nonEmptyText?.getD ""
  email := profile.email.nonEmptyText?
  isAdmin := standing.isAdmin
  isSystem := standing.isSystem
  companies := standing.companies

/-- Logs a user in and gathers the account. Rejected credentials end the login without a failure. -/
def login (s : Settings) (identifier : String) (secret : Secret String) : Attempt Outcome := do
  match ← authenticate s identifier secret with
  | none => return .invalidCredentials
  | some session =>
    let profile ← fetchProfile s session.uid secret
    let standing ← standing s session secret
    return .authenticated (accountOf session.uid profile standing)

end FederatedLogin.Odoo
