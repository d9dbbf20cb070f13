import FederatedLogin.Odoo.Login
import FederatedLogin.Proofs.Program.Path

/-! # Paths of a login

Every course that a login can take, whatever the service delivers: the requests it makes, written
out in full, and how it ends, as a function of the deliveries.
-/

namespace FederatedLogin.Odoo

open Http (Delivery Request)
open Program (Path Turn path_done_iff path_call_done_iff path_exceptBind_done_iff
  path_exceptMap_done_iff)

abbrev Turns : Type := List (Turn fun _ : Request => Delivery)

/-! ## Requests -/

def rpcRequest (url : String) (id : Int) (params : Json) : Request :=
  ⟨.post, url, some (.ofMembers [("jsonrpc", .string "2.0"), ("method", .string "call"),
    ("params", params), ("id", .int id)])⟩

section Requests

variable (s : Settings) (identifier : String) (secret : Secret String) (uid : Int) (ids : List Int)

def authenticateRequest : Request :=
  rpcRequest (s.baseUrl ++ "/web/session/authenticate") 1
    (.ofMembers [("db", .string s.database), ("login", .string identifier),
      ("password", .string secret.expose)])

def searchRequest (id : Int) (model : String) (domain : Json) (fields : List String) : Request :=
  rpcRequest (s.baseUrl ++ s.jsonrpcPath) id
    (.ofMembers [("service", .string "object"), ("method", .string "execute_kw"),
      ("args", .array [.string s.database, .int uid, .string secret.expose, .string model,
        .string "search_read", domain, .ofMembers [("fields", .array (fields.map .string))]])])

def profileRequest : Request :=
  searchRequest s secret uid 2 "res.users"
    (.array [.array [.array [.string "id", .string "=", .int uid]]])
    ["id", "name", "login", "email"]

def membershipsRequest : Request :=
  searchRequest s secret uid 3 "res.users"
    (.array [.array [.array [.string "id", .string "=", .int uid]]])
    ["id", "company_ids", "is_system", "is_admin", "groups_id"]

def organizationsRequest : Request :=
  searchRequest s secret uid 4 "res.company"
    (.array [.array [.array [.string "id", .string "in", .array (ids.map .int)]]]) ["id", "name"]

end Requests

/-! ## Readings of deliveries -/

section Readings

variable (s : Settings) (uid : Int) (d : Delivery)

def sessionRead : Except LoginError (Option SessionInfo) :=
  replyOf .authenticate (Rpc.interpret s.authenticateUrl d) >>= sessionOfReply

def rowsRead {α : Type} (step : Step) (row? : Json → Option α) : Except LoginError (List α) :=
  replyOf step (Rpc.interpret s.rpcUrl d) >>= rowsOfReply step row?

/-- The first row, or a failure where there is none. -/
def firstRow {α : Type} (e : LoginError) : List α → Except LoginError α
  | row :: _ => .ok row
  | [] => .error e

def profileRead : Except LoginError ProfileRow :=
  rowsRead s d .fetchProfile ProfileRow.ofJson? >>= firstRow (.userNotFound uid)

def membershipRead : Except LoginError MembershipRow :=
  rowsRead s d .fetchMemberships MembershipRow.ofJson? >>=
    firstRow (.protocol .fetchMemberships ("no membership row for uid " ++ Text.decimal uid))

def organizationsRead : Except LoginError (List Organization) :=
  (rowsRead s d .fetchOrganizations CompanyRow.ofJson?).map
    (·.filterMap CompanyRow.organization?)

end Readings

/-! ## Steps -/

section Steps

variable {α : Type} {s : Settings} {identifier : String} {secret : Secret String} {uid : Int}
  {turns : Turns}

theorem path_call_iff {step : Step} {endpoint : String} {params : Json}
    {r : Except LoginError Rpc.Reply} :
    Path (call step endpoint params).run turns (.done r) ↔
      ∃ d, turns = [⟨rpcRequest endpoint step.requestId params, d⟩] ∧
        r = replyOf step (Rpc.interpret endpoint d) := by
  change Path (.call (rpcRequest endpoint step.requestId params) fun d =>
    .done (replyOf step (Rpc.interpret endpoint d))) turns (.done r) ↔ _
  rw [path_call_done_iff]
  constructor
  · rintro ⟨d, rest, rfl, h⟩
    obtain ⟨rfl, he⟩ := path_done_iff.mp h
    cases he
    exact ⟨d, rfl, rfl⟩
  · rintro ⟨d, rfl, rfl⟩
    exact ⟨d, [], rfl, .stay _⟩

theorem path_callThenRead_iff {step : Step} {endpoint : String} {params : Json}
    {read : Rpc.Reply → Except LoginError α} {r : Except LoginError α} :
    Path (call step endpoint params >>= fun reply => (read reply : Attempt α)).run turns (.done r) ↔
      ∃ d, turns = [⟨rpcRequest endpoint step.requestId params, d⟩] ∧
        r = (replyOf step (Rpc.interpret endpoint d) >>= read) := by
  rw [path_exceptBind_done_iff]
  constructor
  · rintro (⟨e, h, rfl⟩ | ⟨reply, first, second, rfl, h, hread⟩)
    · obtain ⟨d, rfl, he⟩ := path_call_iff.mp h
      exact ⟨d, rfl, by rw [← he]; rfl⟩
    · obtain ⟨d, rfl, he⟩ := path_call_iff.mp h
      obtain ⟨rfl, hr⟩ := (path_done_iff (a := read reply)).mp hread
      cases hr
      exact ⟨d, rfl, by rw [← he]; rfl⟩
  · rintro ⟨d, rfl, rfl⟩
    cases hreply : replyOf step (Rpc.interpret endpoint d) with
    | error e => exact .inl ⟨e, path_call_iff.mpr ⟨d, rfl, hreply.symm⟩, rfl⟩
    | ok reply =>
      exact .inr ⟨reply, _, [], rfl, path_call_iff.mpr ⟨d, rfl, hreply.symm⟩, .stay _⟩

theorem path_authenticate_iff {r : Except LoginError (Option SessionInfo)} :
    Path (authenticate s identifier secret).run turns (.done r) ↔
      ∃ d, turns = [⟨authenticateRequest s identifier secret, d⟩] ∧ r = sessionRead s d :=
  path_callThenRead_iff

theorem path_fetch_iff {step : Step} {row? : Json → Option α} {q : Query}
    {r : Except LoginError (List α)} :
    Path (fetch s uid secret step row? q).run turns (.done r) ↔
      ∃ d, turns = [⟨searchRequest s secret uid step.requestId q.model q.domain q.fields, d⟩] ∧
        r = rowsRead s d step row? :=
  path_callThenRead_iff

theorem turns_of_fetchProfile {r : Except LoginError ProfileRow}
    (h : Path (fetchProfile s uid secret).run turns (.done r)) :
    ∃ d, turns = [⟨profileRequest s secret uid, d⟩] ∧ r = profileRead s uid d := by
  rcases path_exceptBind_done_iff.mp h with
    ⟨e, hfetch, rfl⟩ | ⟨rows, first, second, rfl, hfetch, hrow⟩
  · obtain ⟨d, rfl, he⟩ := path_fetch_iff.mp hfetch
    exact ⟨d, rfl, by rw [profileRead, ← he]; rfl⟩
  · obtain ⟨d, rfl, he⟩ := path_fetch_iff.mp hfetch
    refine ⟨d, ?_⟩
    rw [profileRead, ← he]
    cases rows with
    | nil =>
      obtain ⟨rfl, hr⟩ := path_done_iff.mp hrow
      cases hr
      exact ⟨rfl, rfl⟩
    | cons row rows =>
      obtain ⟨rfl, hr⟩ := path_done_iff.mp hrow
      cases hr
      exact ⟨rfl, rfl⟩

theorem turns_of_fetchOrganizations {ids : List Int} {r : Except LoginError (List Organization)}
    (h : Path (fetchOrganizations s uid secret ids).run turns (.done r)) :
    (ids = [] ∧ turns = [] ∧ r = .ok []) ∨
      ids ≠ [] ∧ ∃ d, turns = [⟨organizationsRequest s secret uid ids, d⟩] ∧
        r = organizationsRead s d := by
  cases ids with
  | nil =>
    obtain ⟨rfl, hr⟩ := path_done_iff.mp h
    cases hr
    exact .inl ⟨rfl, rfl, rfl⟩
  | cons id ids =>
    refine .inr ⟨List.cons_ne_nil _ _, ?_⟩
    obtain ⟨rows, hfetch, rfl⟩ := path_exceptMap_done_iff.mp h
    obtain ⟨d, rfl, rfl⟩ := path_fetch_iff.mp hfetch
    exact ⟨d, rfl, rfl⟩

end Steps

/-! ## The login -/

/-- The standing of a user by the membership row, the organizations and the flags of the session. -/
def SessionInfo.standingWith (session : SessionInfo) (row : MembershipRow)
    (companies : List Organization) : Standing where
  companies
  isSystem := row.isSystem.isSet || session.isSystem
  isAdmin := row.isAdmin.isSet || session.isAdmin

inductive StandingPath (s : Settings) (session : SessionInfo) (secret : Secret String) :
    Turns → Except LoginError Standing → Prop where
  | unsynchronized : s.syncOrganizations = false →
      StandingPath s session secret [] (.ok session.standing)
  | membershipFailed {d : Delivery} {e : LoginError} : s.syncOrganizations = true →
      membershipRead s session.uid d = .error e →
      StandingPath s session secret [⟨membershipsRequest s secret session.uid, d⟩] (.error e)
  | withoutOrganizations {d : Delivery} {row : MembershipRow} : s.syncOrganizations = true →
      membershipRead s session.uid d = .ok row → row.companyIds.ids = [] →
      StandingPath s session secret [⟨membershipsRequest s secret session.uid, d⟩]
        (.ok (session.standingWith row []))
  | organized {d d' : Delivery} {row : MembershipRow} : s.syncOrganizations = true →
      membershipRead s session.uid d = .ok row → row.companyIds.ids ≠ [] →
      StandingPath s session secret [⟨membershipsRequest s secret session.uid, d⟩,
        ⟨organizationsRequest s secret session.uid row.companyIds.ids, d'⟩]
        ((organizationsRead s d').map (session.standingWith row))

/-- How a login can go. -/
inductive LoginPath (s : Settings) (identifier : String) (secret : Secret String) :
    Turns → Except LoginError Outcome → Prop where
  | failed {d : Delivery} {e : LoginError} : sessionRead s d = .error e →
      LoginPath s identifier secret [⟨authenticateRequest s identifier secret, d⟩] (.error e)
  | rejected {d : Delivery} : sessionRead s d = .ok none →
      LoginPath s identifier secret [⟨authenticateRequest s identifier secret, d⟩]
        (.ok .invalidCredentials)
  | profileFailed {d d' : Delivery} {session : SessionInfo} {e : LoginError} :
      sessionRead s d = .ok (some session) → profileRead s session.uid d' = .error e →
      LoginPath s identifier secret [⟨authenticateRequest s identifier secret, d⟩,
        ⟨profileRequest s secret session.uid, d'⟩] (.error e)
  | profiled {d d' : Delivery} {session : SessionInfo} {profile : ProfileRow}
      {turns : Turns} {r : Except LoginError Standing} :
      sessionRead s d = .ok (some session) → profileRead s session.uid d' = .ok profile →
      StandingPath s session secret turns r →
      LoginPath s identifier secret (⟨authenticateRequest s identifier secret, d⟩ ::
        ⟨profileRequest s secret session.uid, d'⟩ :: turns)
        (r.map fun standing => .authenticated (accountOf session.uid profile standing))

section Login

variable {s : Settings} {identifier : String} {secret : Secret String} {session : SessionInfo}
  {turns : Turns}

theorem turns_of_fetchStanding {r : Except LoginError Standing}
    (h : Path (fetchStanding s session.uid secret).run turns (.done r)) :
    ∃ d rest, turns = ⟨membershipsRequest s secret session.uid, d⟩ :: rest ∧
      ((∃ e, membershipRead s session.uid d = .error e ∧ rest = [] ∧ r = .error e) ∨
        ∃ row companies, membershipRead s session.uid d = .ok row ∧
          Path (fetchOrganizations s session.uid secret row.companyIds.ids).run rest
            (.done companies) ∧
          r = companies.map fun companies =>
            { companies, isSystem := row.isSystem.isSet, isAdmin := row.isAdmin.isSet }) := by
  rcases path_exceptBind_done_iff.mp h with
    ⟨e, hfetch, rfl⟩ | ⟨rows, first, rest, rfl, hfetch, hrow⟩
  · obtain ⟨d, rfl, he⟩ := path_fetch_iff.mp hfetch
    exact ⟨d, [], rfl, .inl ⟨e, by rw [membershipRead, ← he]; rfl, rfl, rfl⟩⟩
  · obtain ⟨d, rfl, he⟩ := path_fetch_iff.mp hfetch
    refine ⟨d, rest, rfl, ?_⟩
    rw [membershipRead, ← he]
    cases rows with
    | nil =>
      obtain ⟨rfl, hr⟩ := path_done_iff.mp hrow
      cases hr
      exact .inl ⟨_, rfl, rfl, rfl⟩
    | cons row rows =>
      obtain ⟨companies, horganizations, rfl⟩ := path_exceptMap_done_iff.mp hrow
      exact .inr ⟨row, companies, rfl, horganizations, rfl⟩

theorem standingPath_of_path {r : Except LoginError Standing}
    (h : Path (standing s session secret).run turns (.done r)) :
    StandingPath s session secret turns r := by
  unfold standing at h
  split at h
  next hsync =>
    obtain ⟨fetched, hfetch, rfl⟩ := path_exceptMap_done_iff.mp h
    obtain ⟨d, rest, rfl, ⟨e, he, rfl, rfl⟩ | ⟨row, companies, hrow, horganizations, rfl⟩⟩ :=
      turns_of_fetchStanding hfetch
    · exact .membershipFailed hsync he
    rcases turns_of_fetchOrganizations horganizations with ⟨hids, rfl, rfl⟩ | ⟨hids, d', rfl, rfl⟩
    · exact .withoutOrganizations hsync hrow hids
    · have hmap : ((organizationsRead s d').map fun companies =>
          { companies, isSystem := row.isSystem.isSet, isAdmin := row.isAdmin.isSet }).map
            (fun fetched : Standing =>
              { fetched with
                isSystem := fetched.isSystem || session.isSystem
                isAdmin := fetched.isAdmin || session.isAdmin }) =
          (organizationsRead s d').map (session.standingWith row) := by
        cases organizationsRead s d' <;> rfl
      rw [hmap]
      exact .organized hsync hrow hids
  next hsync =>
    obtain ⟨rfl, hr⟩ := path_done_iff.mp h
    cases hr
    exact .unsynchronized (Bool.eq_false_iff.mpr hsync)

theorem loginPath_of_path {r : Except LoginError Outcome}
    (h : Path (login s identifier secret).run turns (.done r)) :
    LoginPath s identifier secret turns r := by
  rcases path_exceptBind_done_iff.mp h with
    ⟨e, hsession, rfl⟩ | ⟨session?, first, rest, rfl, hsession, hrest⟩
  · obtain ⟨d, rfl, he⟩ := path_authenticate_iff.mp hsession
    exact .failed he.symm
  obtain ⟨d, rfl, hread⟩ := path_authenticate_iff.mp hsession
  cases session? with
  | none =>
    obtain ⟨rfl, hr⟩ := path_done_iff.mp hrest
    cases hr
    exact .rejected hread.symm
  | some session =>
    rcases path_exceptBind_done_iff.mp hrest with
      ⟨e, hprofile, rfl⟩ | ⟨profile, _, rest, rfl, hprofile, hstandings⟩
    · obtain ⟨d', rfl, he⟩ := turns_of_fetchProfile hprofile
      exact .profileFailed hread.symm he.symm
    · obtain ⟨d', rfl, hrow⟩ := turns_of_fetchProfile hprofile
      obtain ⟨standing, hstanding, rfl⟩ := path_exceptMap_done_iff.mp hstandings
      exact .profiled hread.symm hrow.symm (standingPath_of_path hstanding)

end Login

end FederatedLogin.Odoo
