import FederatedLogin.Proofs.Json.Values
import FederatedLogin.Proofs.Odoo.Identity
import FederatedLogin.Proofs.Odoo.ListedSession
import FederatedLogin.Proofs.Organizations
import FederatedLogin.Proofs.Rpc.Loose

/-! # Accounts of those who log in

Where every part of an account comes from: the id from the result of the authentication, the texts
from the first row of the profile, the flags from either side and the companies from one side alone.
Whatever the service sends in these places, the account has an identity.
-/

namespace FederatedLogin

namespace Rpc

/-! ## Loose fields -/

def textIn? (r : Record Json) (name : String) : Option String :=
  match r.get? name with
  | some (.string t) => if t = "" then none else some t
  | _ => none

section Fields

variable {r : Record Json} {name : String}

theorem isSet_looseField_iff :
    (looseField r name).isSet = true ↔ r.get? name = some (.bool true) := by
  unfold looseField
  cases r.get? name with
  | none => simp [Loose.isSet]
  | some v => simp [Loose.isSet_ofJson_iff]

theorem nonEmptyText?_looseField : (looseField r name).nonEmptyText? = textIn? r name := by
  unfold looseField textIn?
  cases r.get? name with
  | none => rfl
  | some v =>
    ext t
    rw [Option.map_some, Option.getD_some, Loose.nonEmptyText?_ofJson_eq_some_iff]
    cases v with
    | string s =>
      simp only [Json.string.injEq, Option.ite_none_left_eq_some, Option.some.injEq]
      constructor
      · rintro ⟨rfl, hs⟩
        exact ⟨hs, rfl⟩
      · rintro ⟨hs, rfl⟩
        exact ⟨rfl, hs⟩
    | _ => simp

theorem id?_looseField_eq_some_iff {id : Int} : (looseField r name).id? = some id ↔
    ∃ v, r.get? name = some v ∧ (Loose.ofJson v).id? = some id := by
  unfold looseField
  cases r.get? name with
  | none => exact iff_of_false nofun (by simp)
  | some v => simp

end Fields

end Rpc

namespace Odoo

open Http (Delivery Request)
open Program (Turn)
open Rpc (looseField textIn?)

/-! ## What the replies hold -/

def rowsIn (d : Delivery) : List Json :=
  match resultIn? d with
  | some (.array rows) => rows
  | _ => []

section Turns

variable (turns : Turns)

def sessionRecord? : Option (Record Json) :=
  (turns[0]?.bind fun t => resultIn? t.2).bind
    (Json.record? ["uid", "is_system", "is_admin", "user_companies"])

def profileRecord? : Option (Record Json) :=
  (turns[1]?.bind fun t => (rowsIn t.2).head?).bind (Json.record? ["name", "login", "email"])

def membershipRecord? : Option (Record Json) :=
  (turns[2]?.bind fun t => (rowsIn t.2).head?).bind
    (Json.record? ["company_ids", "is_system", "is_admin"])

/-- The rows of the companies, of which there are none where they are not asked for. -/
def companyRows : List Json := (turns[3]?.map fun t => rowsIn t.2).getD []

end Turns

/-- A field of a record is the literal true. -/
def HasTrue (r? : Option (Record Json)) (name : String) : Prop :=
  r?.bind (·.get? name) = some (.bool true)

def organizationOf? (v : Json) : Option Organization :=
  (CompanyRow.ofJson? v).bind CompanyRow.organization?

def allowedIn (r : Record Json) : List Organization :=
  (((r.get? "user_companies").bind (·.member? "allowed_companies")).map companiesOf).getD []

/-- Where the parts of an account come from. -/
structure Gathered (s : Settings) (turns : Turns) (a : Account) : Prop where
  uid_pos : 0 < a.uid
  uid : ∃ r v, sessionRecord? turns = some r ∧ r.get? "uid" = some v ∧
    (Rpc.Loose.ofJson v).id? = some a.uid
  texts : ∃ r, profileRecord? turns = some r ∧ a.login = (textIn? r "login").getD "" ∧
    a.name = (textIn? r "name").getD "" ∧ a.email = textIn? r "email"
  isAdmin : a.isAdmin = true ↔ HasTrue (sessionRecord? turns) "is_admin" ∨
    s.syncOrganizations = true ∧ HasTrue (membershipRecord? turns) "is_admin"
  isSystem : a.isSystem = true ↔ HasTrue (sessionRecord? turns) "is_system" ∨
    s.syncOrganizations = true ∧ HasTrue (membershipRecord? turns) "is_system"
  synchronized : s.syncOrganizations = true →
    a.companies = (companyRows turns).filterMap organizationOf?
  unsynchronized : s.syncOrganizations = false →
    ∃ r, sessionRecord? turns = some r ∧ a.companies = allowedIn r

section Rows

variable {α β : Type} {s : Settings} {d : Delivery} {step : Step} {row? : Json → Option α}

theorem exists_of_rowIn? {row : α} (h : rowIn? row? d = some row) :
    ∃ v, (rowsIn d).head? = some v ∧ row? v = some row := by
  rw [rowIn?, Option.bind_eq_some_iff] at h
  obtain ⟨rows, hrows, hhead⟩ := h
  obtain ⟨v, hv, hrows⟩ := Option.bind_eq_some_iff.mp hrows
  cases v with
  | array items =>
    rw [rowsIn, hv]
    cases items with
    | nil =>
      cases hrows
      cases hhead
    | cons v items =>
      obtain ⟨first, others, hfirst, _, rfl⟩ := Json.mapM_cons_eq_some_iff.mp hrows
      cases hhead
      exact ⟨v, rfl, hfirst⟩
  | _ => cases hrows

/-- Rows are read of a response, whatever its status. -/
theorem rowsRead_eq_ok_iff {rows : List α} : rowsRead s d step row? = .ok rows ↔
    ∃ status response, responseIn? d = some response ∧
      ReadsRows step row? (.response status response) (.ok rows) := by
  rw [rowsRead]
  rcases interpret_cases s.rpcUrl d with
    ⟨hnone, e, he⟩ | ⟨hnone, status, hdenied⟩ | ⟨status, response, hsome, hresponse⟩
  · simp [hnone, he, replyOf, bind, Except.bind]
  · simp [hnone, hdenied, replyOf, bind, Except.bind, rowsOfReply]
  rw [hresponse]
  change rowsOfReply step row? (.response status response) = .ok rows ↔ _
  constructor
  · intro h
    exact ⟨status, response, hsome, rowsOfReply_eq_iff.mp h⟩
  · rintro ⟨_, response', hsome', h⟩
    cases hsome.symm.trans hsome'
    have hrows := rowsOfReply_eq_iff.mpr h
    exact hrows

theorem filterMap_of_rowsRead {rows : List α} (h : rowsRead s d step row? = .ok rows)
    (hstep : step ≠ .fetchProfile) (f : α → Option β) :
    rows.filterMap f = (rowsIn d).filterMap fun v => (row? v).bind f := by
  obtain ⟨status, response, hsome, hreads⟩ := rowsRead_eq_ok_iff.mp h
  have hresult (he : response.error = none) : resultIn? d = response.result := by
    simp [resultIn?, hsome, he]
  cases hreads with
  | missing he hv =>
    rw [rowsIn, hresult he, hv]
    rfl
  | @rows _ _ v _ he hv hrows =>
    cases v with
    | array items =>
      rw [rowsIn, hresult he, hv]
      exact Json.filterMap_of_mapM hrows f
    | _ => cases hrows
  | passedOver hprofile => exact absurd hprofile hstep

theorem organizations_of_read {os : List Organization} (h : organizationsRead s d = .ok os) :
    os = (rowsIn d).filterMap organizationOf? := by
  rw [organizationsRead] at h
  cases hrows : rowsRead s d .fetchOrganizations CompanyRow.ofJson? with
  | error e =>
    rw [hrows] at h
    cases h
  | ok rows =>
    rw [hrows] at h
    cases h
    have hstep : Step.fetchOrganizations ≠ .fetchProfile := by decide
    exact filterMap_of_rowsRead hrows hstep _

end Rows

/-! ## The parts of an account -/

theorem exists_record {α : Type} {v? : Option Json} {read? : Json → Option α} {x : α}
    {names : List String} {make : Record Json → α}
    (hread : ∀ v, read? v = (v.record? names).bind fun r => some (make r))
    (h : ∃ v, v? = some v ∧ read? v = some x) :
    ∃ r, v?.bind (Json.record? names) = some r ∧ x = make r := by
  obtain ⟨v, rfl, hx⟩ := h
  rw [hread, Option.bind_eq_some_iff] at hx
  obtain ⟨r, hr, hx⟩ := hx
  exact ⟨r, hr, (Option.some.inj hx).symm⟩

section Records

variable {d : Delivery}

theorem exists_record_of_sessionIn? {session : SessionInfo} (h : sessionIn? d = some session) :
    ∃ r, (resultIn? d).bind
        (Json.record? ["uid", "is_system", "is_admin", "user_companies"]) = some r ∧
      session = ⟨looseField r "uid", looseField r "is_system", looseField r "is_admin",
        (r.get? "user_companies").getD .null⟩ := by
  rw [sessionIn?, Option.bind_eq_some_iff] at h
  obtain ⟨v, hv, h⟩ := h
  exact exists_record (fun _ => rfl)
    ⟨v, (Option.filter_eq_some_iff.mp hv).1, (Option.filter_eq_some_iff.mp h).1⟩

theorem exists_record_of_profile {profile : ProfileRow}
    (h : rowIn? ProfileRow.ofJson? d = some profile) :
    ∃ r, (rowsIn d).head?.bind (Json.record? ["name", "login", "email"]) = some r ∧
      profile = ⟨looseField r "name", looseField r "login", looseField r "email"⟩ :=
  exists_record (fun _ => rfl) (exists_of_rowIn? h)

theorem exists_record_of_membership {row : MembershipRow}
    (h : rowIn? MembershipRow.ofJson? d = some row) :
    ∃ r, (rowsIn d).head?.bind (Json.record? ["company_ids", "is_system", "is_admin"]) = some r ∧
      row = ⟨looseField r "company_ids", looseField r "is_system", looseField r "is_admin"⟩ :=
  exists_record (fun _ => rfl) (exists_of_rowIn? h)

end Records

section Login

variable {s : Settings} {identifier : String} {secret : Secret String} {turns rest : Turns}
  {session : SessionInfo} {r r' : Record Json}

/-- What the standing of a user is made of, where the result of the authentication is a record. -/
structure Stands (s : Settings) (r : Record Json) (turns : Turns) (x : Standing) : Prop where
  isAdmin : x.isAdmin = true ↔ HasTrue (some r) "is_admin" ∨
    s.syncOrganizations = true ∧ HasTrue (membershipRecord? turns) "is_admin"
  isSystem : x.isSystem = true ↔ HasTrue (some r) "is_system" ∨
    s.syncOrganizations = true ∧ HasTrue (membershipRecord? turns) "is_system"
  synchronized : s.syncOrganizations = true →
    x.companies = (companyRows turns).filterMap organizationOf?
  unsynchronized : s.syncOrganizations = false → x.companies = allowedIn r

theorem allowedCompanies_eq (uid isSystem isAdmin : Rpc.Loose) :
    (SessionInfo.mk uid isSystem isAdmin
      ((r.get? "user_companies").getD .null)).allowedCompanies = allowedIn r := by
  rw [SessionInfo.allowedCompanies, allowedIn]
  cases r.get? "user_companies" <;> rfl

theorem isSet_or_isSet_iff {name : String} :
    ((looseField r' name).isSet || (looseField r name).isSet) = true ↔
      HasTrue (some r) name ∨ HasTrue (some r') name := by
  rw [Bool.or_eq_true, Rpc.isSet_looseField_iff, Rpc.isSet_looseField_iff]
  exact or_comm

theorem stands_standingWith {first second third : Turn fun _ : Request => Delivery}
    {uid : Rpc.Loose} {row : MembershipRow} {companies : List Organization}
    (hsync : s.syncOrganizations = true)
    (hrow : rowIn? MembershipRow.ofJson? third.2 = some row)
    (hcompanies : companies = (companyRows (first :: second :: third :: rest)).filterMap
      organizationOf?) :
    Stands s r (first :: second :: third :: rest)
      (SessionInfo.standingWith ⟨uid, looseField r "is_system", looseField r "is_admin",
        (r.get? "user_companies").getD .null⟩ row companies) := by
  obtain ⟨r', hr', rfl⟩ := exists_record_of_membership hrow
  have hrecord : membershipRecord? (first :: second :: third :: rest) = some r' := hr'
  constructor
  · rw [hsync, hrecord, eq_self, true_and]
    exact isSet_or_isSet_iff
  · rw [hsync, hrecord, eq_self, true_and]
    exact isSet_or_isSet_iff
  · exact fun _ => hcompanies
  · intro hunsync
    cases hsync.symm.trans hunsync

theorem StandingPath.stands {first second : Turn fun _ : Request => Delivery} {uid : Rpc.Loose}
    {x : Standing}
    (h : StandingPath s ⟨uid, looseField r "is_system", looseField r "is_admin",
      (r.get? "user_companies").getD .null⟩ secret rest (.ok x)) :
    Stands s r (first :: second :: rest) x := by
  generalize hx : Except.ok x = result at h
  cases h with
  | unsynchronized hsync =>
    cases hx
    constructor
    · simp only [hsync, Bool.false_eq_true, false_and, or_false]
      exact Rpc.isSet_looseField_iff
    · simp only [hsync, Bool.false_eq_true, false_and, or_false]
      exact Rpc.isSet_looseField_iff
    · intro hsync'
      cases hsync.symm.trans hsync'
    · exact fun _ => allowedCompanies_eq _ _ _
  | membershipFailed => cases hx
  | withoutOrganizations hsync hrow _ =>
    cases hx
    exact stands_standingWith hsync (firstRow_eq_ok_iff.mp hrow) rfl
  | @organized d d' row hsync hrow _ =>
    cases hread : organizationsRead s d' with
    | error e =>
      rw [hread] at hx
      cases hx
    | ok companies =>
      rw [hread] at hx
      cases hx
      exact stands_standingWith hsync (firstRow_eq_ok_iff.mp hrow) (organizations_of_read hread)

theorem id?_eq_some_of_pos {session : SessionInfo} (h : 0 < session.uid) :
    session.uidField.id? = some session.uid := by
  unfold SessionInfo.uid at h ⊢
  cases hid : session.uidField.id? with
  | none => simp [hid] at h
  | some id => rfl

theorem gathered_of_standing {first second : Turn fun _ : Request => Delivery}
    {profile : ProfileRow} {x : Standing} (hsession : sessionIn? first.2 = some session)
    (hprofile : rowIn? ProfileRow.ofJson? second.2 = some profile)
    (hstanding : StandingPath s session secret rest (.ok x)) :
    Gathered s (first :: second :: rest) (accountOf session.uid profile x) := by
  have hpos := uid_pos_of_sessionIn? hsession
  obtain ⟨r, hr, rfl⟩ := exists_record_of_sessionIn? hsession
  obtain ⟨r', hr', rfl⟩ := exists_record_of_profile hprofile
  have hstands : Stands s r (first :: second :: rest) x := hstanding.stands
  have hrecord : sessionRecord? (first :: second :: rest) = some r := hr
  exact {
    uid_pos := hpos
    uid := by
      obtain ⟨v, hv, hid⟩ := Rpc.id?_looseField_eq_some_iff.mp (id?_eq_some_of_pos hpos)
      exact ⟨r, v, hrecord, hv, hid⟩
    texts := ⟨r', hr', by simp only [accountOf, Rpc.nonEmptyText?_looseField, and_self]⟩
    isAdmin := hrecord ▸ hstands.isAdmin
    isSystem := hrecord ▸ hstands.isSystem
    synchronized := hstands.synchronized
    unsynchronized := fun hsync => ⟨r, hrecord, hstands.unsynchronized hsync⟩ }

theorem LoginPath.gathered {account : Account}
    (h : LoginPath s identifier secret turns (.ok (.authenticated account))) :
    Gathered s turns account := by
  obtain ⟨_, _, _, _, _, _, rfl, hsession, hprofile, hstanding, rfl⟩ := h.exists_standing
  exact gathered_of_standing hsession hprofile hstanding

/-- The account is that of the user whose rows were asked for. -/
theorem LoginPath.sessionUser_eq {account : Account}
    (h : LoginPath s identifier secret turns (.ok (.authenticated account))) :
    sessionUser turns = account.uid := by
  obtain ⟨first, second, rest, session, _, _, rfl, hsession, _, _, rfl⟩ := h.exists_standing
  have hs : session? (first :: second :: rest) = some session := hsession
  rw [sessionUser, hs]
  rfl

end Login

/-- The identity of an account: its ids are the decimal id of the user, and its organizations settle
the companies. -/
structure Account.Identified (a : Account) (i : Identity) : Prop where
  externalId : i.externalId = Text.decimal a.uid
  authKey : i.authKey = Text.decimal a.uid
  email : i.email = "odoo_" ++ Text.decimal a.uid ++ "@odoo.local"
  grants : i.grantsTeamAdmin = true ↔ a.isAdmin = true ∧ a.isSystem = true
  organizations : Organization.Settled a.companies i.organizations

theorem Account.identified_of_pos (a : Account) (h : 0 < a.uid) (identifier : String) :
    ∃ i, a.identity identifier = .ok i ∧ a.Identified i :=
  ⟨_, a.identity_eq_of_pos h identifier, {
    externalId := rfl
    authKey := rfl
    email := syntheticEmail_eq a.uid
    grants := Bool.and_eq_true_iff
    organizations := Organization.settled_settle a.companies }⟩

/-- Whatever the service answers, the account of somebody who has logged in is gathered part by
part from the replies to requests about the same user, and it has an identity, whatever was
typed. -/
theorem authenticated_identified {σ : Type} (s : Settings) (identifier : String)
    (secret : Secret String) (upstream : Request → σ → Delivery × σ) (w : σ) (account : Account)
    (h : (Program.run upstream (login s identifier secret).run w).1 =
      .ok (.authenticated account)) :
    let turns := Program.turns upstream (login s identifier secret).run w
    turns.map (·.1) <+: [authenticateRequest s identifier secret,
        profileRequest s secret account.uid, membershipsRequest s secret account.uid,
        organizationsRequest s secret account.uid (organizationIds turns)] ∧
      Gathered s turns account ∧
      ∀ typed, ∃ i, account.identity typed = .ok i ∧ account.Identified i := by
  intro turns
  have hpath : LoginPath s identifier secret turns (.ok (.authenticated account)) :=
    h ▸ loginPath_of_path (Program.path_run upstream _ w)
  exact ⟨hpath.sessionUser_eq ▸ hpath.asks.inOrder, hpath.gathered,
    account.identified_of_pos hpath.uid_pos⟩

def syncSettings : Settings := { sampleSettings with syncOrganizations := true }

/-- The replies of a service that writes ids as doubles, unset fields as false and rows as lists. -/
def bobsReplies : List Delivery := [
  answering "\x7b\"result\":\x7b\"uid\":42.0,\"is_admin\":true,\"is_system\":\"true\"\x7d\x7d",
  answering "\x7b\"result\":[\x7b\"name\":\"Bob\",\"login\":false,\"email\":\"bob@x\"\x7d]\x7d",
  answering "\x7b\"result\":[\x7b\"company_ids\":[7,[9,\"x\"]],\"is_system\":true\x7d]\x7d",
  answering "\x7b\"result\":[[7,\" Acme \"],[9,\"Beta\"],[0,\"No\"],[7,\"Twice\"]]\x7d"]

/-- The account of a user who is an admin by the session and of the system by the memberships. -/
def bobsAccount : Account where
  uid := 42
  login := ""
  name := "Bob"
  email := some "bob@x"
  isAdmin := true
  isSystem := true
  companies := [⟨7, "Acme"⟩, ⟨9, "Beta"⟩, ⟨0, "No"⟩, ⟨7, "Twice"⟩]

theorem bobsAccount_identified :
    let x := (login syncSettings "bob" ⟨"secret"⟩).run
    (Program.run scripted x bobsReplies).1 = .ok (.authenticated bobsAccount) ∧
      Gathered syncSettings (Program.turns scripted x bobsReplies) bobsAccount ∧
      ∀ typed, ∃ i, bobsAccount.identity typed = .ok i ∧ bobsAccount.Identified i := by
  intro x
  have hlogin : (Program.run scripted x bobsReplies).1 = .ok (.authenticated bobsAccount) :=
    Program.toOption_eq_some_iff.mp (by decide +kernel)
  exact ⟨hlogin,
    (authenticated_identified syncSettings "bob" ⟨"secret"⟩ scripted bobsReplies _ hlogin).2⟩

example : Organization.settle bobsAccount.companies = [⟨7, "Acme"⟩, ⟨9, "Beta"⟩] := by
  decide

end Odoo

end FederatedLogin
