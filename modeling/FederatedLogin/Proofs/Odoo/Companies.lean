import FederatedLogin.Proofs.Odoo.Account

/-! # Companies from either side

The companies of a user come as rows that are fetched for them, or as entries in the result of the
authentication. Rows are read as records and entries by their shape, and an empty name is missing
from the one while it is there in the other. What differs is left out of an identity, which has the
same organizations either way.
-/

namespace FederatedLogin

namespace Organization

/-! ## What settling leaves out -/

theorem settle_filterMap_congr {α : Type} {items : List α} {f g : α → Option Organization}
    (h : ∀ v ∈ items, (f v).filter isNamed = (g v).filter isNamed) :
    settle (items.filterMap f) = settle (items.filterMap g) := by
  rw [← settle_filter (items.filterMap f), ← settle_filter (items.filterMap g),
    List.filter_filterMap, List.filter_filterMap, List.filterMap_congr h]

end Organization

namespace Odoo

open Http (Delivery)
open Organization (isNamed settle)
open Program (Path)
open Rpc (Loose looseField)

/-! ## Two readings of a company -/

/-- A company as the service may write it: an object, or a list of an id and a name at most. -/
inductive IsCompanyEntry : Json → Prop where
  | object (members : List (String × Json)) : IsCompanyEntry (.object members)
  | array {items : List Json} : items.length ≤ 2 → IsCompanyEntry (.array items)

theorem nonEmptyText?_ofJson {v : Json} (h : v ≠ .string "") :
    (Loose.ofJson v).nonEmptyText? = v.string? := by
  ext t
  rw [Loose.nonEmptyText?_ofJson_eq_some_iff]
  constructor
  · rintro ⟨rfl, _⟩
    rfl
  · intro ht
    cases v with
    | string s =>
      cases ht
      exact ⟨rfl, fun he => h (he ▸ rfl)⟩
    | _ => cases ht

/-- An empty name makes an organization in one reading alone, but not a named one. -/
theorem filter_organization? (id : Loose) (name : Json) :
    (organization? id (Loose.ofJson name).nonEmptyText?).filter isNamed =
      (organization? id name.string?).filter isNamed := by
  by_cases hname : name = .string ""
  · subst hname
    cases hid : id.id? with
    | none => simp [organization?, hid]
    | some n =>
      have hempty : Organization.isNamed ⟨n, Text.trim ""⟩ = false := Bool.and_false _
      have hsome : organization? id (Json.string? (.string "")) = some ⟨n, Text.trim ""⟩ := by
        simp [organization?, hid, Json.string?]
      rw [hsome, Option.filter_some, hempty]
      simp [organization?, hid, Loose.ofJson, Loose.nonEmptyText?]
  · rw [nonEmptyText?_ofJson hname]

theorem organization?_none (id : Loose) : organization? id none = none := by
  cases hid : id.id? <;> simp [organization?, hid]

theorem IsCompanyEntry.exists_row {v : Json} (h : IsCompanyEntry v) (hv : v.IsOrdered) :
    ∃ row, CompanyRow.ofJson? v = some row ∧
      row.organization?.filter isNamed = (Option.filter isNamed <| companyOfEntry? v) := by
  cases h with
  | object members =>
    cases hv with
    | object hkeys _ =>
      obtain ⟨r, hr, hget⟩ := Json.record?_object hkeys ["id", "name"]
      have hid := hget "id" List.mem_cons_self
      have hname := hget "name" (List.mem_cons_of_mem _ List.mem_cons_self)
      refine ⟨⟨looseField r "id", looseField r "name"⟩, by rw [CompanyRow.ofJson?, hr]; rfl, ?_⟩
      rw [CompanyRow.organization?, companyOfEntry?, looseField, looseField, hid, hname]
      cases members.lookup "id" with
      | none => rfl
      | some id =>
        cases members.lookup "name" with
        | none => exact congrArg _ (organization?_none _)
        | some name => exact filter_organization? (.ofJson id) name
  | @array items hl =>
    match items, hl with
    | [], _ => exact ⟨_, rfl, rfl⟩
    | [id], _ => exact ⟨_, rfl, congrArg _ (organization?_none _)⟩
    | [id, name], _ => exact ⟨_, rfl, filter_organization? (.ofJson id) name⟩

section Entries

variable {entries : List Json} (h : ∀ v ∈ entries, IsCompanyEntry v ∧ v.IsOrdered)
include h

theorem exists_companyRows : ∃ rows, entries.mapM CompanyRow.ofJson? = some rows := by
  refine Json.exists_mapM_eq_some fun v hv => ?_
  obtain ⟨row, hrow, _⟩ := (h v hv).1.exists_row (h v hv).2
  exact ⟨row, hrow⟩

theorem settle_organizations :
    settle (entries.filterMap organizationOf?) = settle (entries.filterMap companyOfEntry?) := by
  refine Organization.settle_filterMap_congr fun v hv => ?_
  obtain ⟨row, hrow, he⟩ := (h v hv).1.exists_row (h v hv).2
  rw [organizationOf?, hrow, Option.bind_some, he]

end Entries

/-! ## Two logins -/

section Turns

variable (turns : Turns)

def companiesFetched? : Option Json := turns[3]?.bind fun t => resultIn? t.2

def companiesAllowed? : Option Json :=
  ((sessionRecord? turns).bind (·.get? "user_companies")).bind (·.member? "allowed_companies")

end Turns

theorem isOrdered_resultIn? {d : Delivery} {v : Json} (h : resultIn? d = some v) :
    v.IsOrdered := by
  obtain ⟨response, hresponse, hresult⟩ := Option.bind_eq_some_iff.mp h
  have hv : response.result = some v := (Option.ite_none_left_eq_some.mp hresult).2
  cases d with
  | failed => cases hresponse
  | answered status body =>
    cases body with
    | none => cases hresponse
    | some bytes =>
      exact Rpc.Response.isOrdered_result (Option.ite_none_left_eq_some.mp hresponse).2 hv

theorem isOrdered_companiesFetched? {turns : Turns} {v : Json}
    (h : companiesFetched? turns = some v) : v.IsOrdered := by
  obtain ⟨_, _, h⟩ := Option.bind_eq_some_iff.mp h
  exact isOrdered_resultIn? h

theorem rowsRead_eq_ok {α : Type} {s : Settings} {d : Delivery} {step : Step}
    {row? : Json → Option α} {v : Json} {rows : List α} (h : resultIn? d = some v)
    (hrows : rowsOf? row? v = some rows) : rowsRead s d step row? = .ok rows := by
  obtain ⟨response, hresponse, hresult⟩ := Option.bind_eq_some_iff.mp h
  obtain ⟨he, hv⟩ := Option.ite_none_left_eq_some.mp hresult
  exact rowsRead_eq_ok_iff.mpr
    ⟨200, response, hresponse, .rows (Option.not_isSome_iff_eq_none.mp he) hv hrows⟩

section Login

variable {s : Settings} {identifier : String} {secret : Secret String} {turns : Turns}
  {r : Except LoginError Outcome} {entries : List Json}

/-- A login that fetches the companies does not fail over them. -/
theorem LoginPath.of_companiesFetched (h : LoginPath s identifier secret turns r)
    (hentries : ∀ v ∈ entries, IsCompanyEntry v)
    (hfetched : companiesFetched? turns = some (.array entries)) :
    ∃ a, r = .ok (.authenticated a) ∧
      settle a.companies = settle (entries.filterMap companyOfEntry?) := by
  have hordered : ∀ v ∈ entries, IsCompanyEntry v ∧ v.IsOrdered := fun v hv => by
    cases isOrdered_companiesFetched? hfetched with
    | array h => exact ⟨hentries v hv, h v hv⟩
  obtain ⟨rows, hrows⟩ := exists_companyRows hordered
  have hcompanies : rows.filterMap CompanyRow.organization? = entries.filterMap organizationOf? :=
    Json.filterMap_of_mapM hrows _
  rw [← settle_organizations hordered, ← hcompanies]
  cases h with
  | failed => cases hfetched
  | rejected => cases hfetched
  | profileFailed => cases hfetched
  | profiled hsession hprofile hstanding =>
    cases hstanding with
    | unsynchronized => cases hfetched
    | membershipFailed => cases hfetched
    | withoutOrganizations => cases hfetched
    | @organized _ d' _ _ _ _ =>
      have hread : rowsRead s d' .fetchOrganizations CompanyRow.ofJson? = .ok rows :=
        rowsRead_eq_ok hfetched hrows
      rw [organizationsRead, hread]
      exact ⟨_, rfl, rfl⟩

theorem LoginPath.of_profile (h : LoginPath s identifier secret turns r)
    (hsync : s.syncOrganizations = false) (hprofile : (profileRow? turns).isSome = true) :
    ∃ a, r = .ok (.authenticated a) := by
  cases h with
  | failed => cases hprofile
  | rejected => cases hprofile
  | @profileFailed _ d' _ _ _ he =>
    have hnone : rowIn? ProfileRow.ofJson? d' = none := rowIn?_eq_none he
    exact absurd hprofile (by simp [profileRow?, hnone])
  | profiled _ _ hstanding =>
    cases hstanding with
    | unsynchronized => exact ⟨_, rfl⟩
    | membershipFailed hsync' => cases hsync.symm.trans hsync'
    | withoutOrganizations hsync' => cases hsync.symm.trans hsync'
    | organized hsync' => cases hsync.symm.trans hsync'

theorem LoginPath.of_companiesAllowed (h : LoginPath s identifier secret turns r)
    (hsync : s.syncOrganizations = false) (hprofile : (profileRow? turns).isSome = true)
    (hallowed : companiesAllowed? turns = some (.array entries)) :
    ∃ a, r = .ok (.authenticated a) ∧ a.companies = entries.filterMap companyOfEntry? := by
  obtain ⟨a, rfl⟩ := h.of_profile hsync hprofile
  obtain ⟨record, hrecord, hcompanies⟩ := h.gathered.unsynchronized hsync
  rw [companiesAllowed?, hrecord, Option.bind_some] at hallowed
  refine ⟨a, rfl, ?_⟩
  rw [hcompanies, allowedIn, hallowed]
  rfl

end Login

/-- Two logins, one of which fetches the companies that the other is allowed by the result of the
authentication, both succeed, and their identities have the same organizations. If the companies are
all that their accounts differ in, the identities are the same. -/
theorem organizations_agree {s s' : Settings} {identifier identifier' : String}
    {secret secret' : Secret String} {turns turns' : Turns} {r r' : Except LoginError Outcome}
    {entries : List Json} (hentries : ∀ v ∈ entries, IsCompanyEntry v)
    (h : Path (login s identifier secret).run turns (.done r))
    (hfetched : companiesFetched? turns = some (.array entries))
    (h' : Path (login s' identifier' secret').run turns' (.done r'))
    (hsync : s'.syncOrganizations = false) (hprofile : (profileRow? turns').isSome = true)
    (hallowed : companiesAllowed? turns' = some (.array entries)) :
    ∃ a a', r = .ok (.authenticated a) ∧ r' = .ok (.authenticated a') ∧
      ∀ typed typed', ∃ i i', a.identity typed = .ok i ∧ a'.identity typed' = .ok i' ∧
        i.organizations = i'.organizations ∧
        { a with companies := a'.companies }.identity typed = .ok i := by
  have hpath : LoginPath s identifier secret turns r := loginPath_of_path h
  have hpath' : LoginPath s' identifier' secret' turns' r' := loginPath_of_path h'
  obtain ⟨a, rfl, hsettled⟩ := hpath.of_companiesFetched hentries hfetched
  obtain ⟨a', rfl, hcompanies⟩ := hpath'.of_companiesAllowed hsync hprofile hallowed
  rw [← hcompanies] at hsettled
  refine ⟨a, a', rfl, rfl, fun typed typed' => ?_⟩
  refine ⟨_, _, a.identity_eq_of_pos hpath.uid_pos typed,
    a'.identity_eq_of_pos hpath'.uid_pos typed', hsettled, ?_⟩
  have hpos : 0 < { a with companies := a'.companies }.uid := hpath.uid_pos
  rw [Account.identity_eq_of_pos hpos, ← hsettled]

/-- Objects and pairs, with a blank name and an empty one, with an id that has occurred before, and
without an id or a name. -/
def mixedEntries : List Json := [
  .object [("id", .int 7), ("name", .string " Acme "), ("x", .int 1)],
  .array [.number (.float ⟨false, 5066549580791808, -49⟩), .string "Beta"],
  .array [.int 3, .string " "],
  .object [("id", .int 5), ("name", .string "")],
  .array [.array [.int 7], .string "Twice"],
  .object [("name", .string "No id")],
  .array [.int 4],
  .array []]

def mixedText : String :=
  "[\x7b\"id\":7,\"name\":\" Acme \",\"x\":1\x7d,[9.0,\"Beta\"],[3,\" \"]," ++
    "\x7b\"id\":5,\"name\":\"\"\x7d,[[7],\"Twice\"],\x7b\"name\":\"No id\"\x7d,[4],[]]"

def repliesWithRows (rows : String) : List Delivery := [
  answering "\x7b\"result\":\x7b\"uid\":42\x7d\x7d",
  answering "\x7b\"result\":[\x7b\"name\":\"Bob\"\x7d]\x7d",
  answering "\x7b\"result\":[\x7b\"company_ids\":[7,9,3,5]\x7d]\x7d",
  answering ("\x7b\"result\":" ++ rows ++ "\x7d")]

def repliesWithAllowed (entries : String) : List Delivery := [
  answering ("\x7b\"result\":\x7b\"uid\":42,\"user_companies\":\x7b\"allowed_companies\":" ++
    entries ++ "\x7d\x7d\x7d"),
  answering "\x7b\"result\":[\x7b\"name\":\"Bob\"\x7d]\x7d"]

theorem mixedEntries_agree :
    let x := (login syncSettings "bob" ⟨"secret"⟩).run
    let x' := (login sampleSettings "bob" ⟨"secret"⟩).run
    let turns := Program.turns scripted x (repliesWithRows mixedText)
    let turns' := Program.turns scripted x' (repliesWithAllowed mixedText)
    (∀ v ∈ mixedEntries, IsCompanyEntry v) ∧
      companiesFetched? turns = some (.array mixedEntries) ∧
      companiesAllowed? turns' = some (.array mixedEntries) ∧
      sampleSettings.syncOrganizations = false ∧ (profileRow? turns').isSome = true ∧
      ∃ a a', (Program.run scripted x (repliesWithRows mixedText)).1 = .ok (.authenticated a) ∧
        (Program.run scripted x' (repliesWithAllowed mixedText)).1 = .ok (.authenticated a') ∧
        ∀ typed typed', ∃ i i', a.identity typed = .ok i ∧ a'.identity typed' = .ok i' ∧
          i.organizations = i'.organizations ∧
          { a with companies := a'.companies }.identity typed = .ok i := by
  intro x x' turns turns'
  have hentries : ∀ v ∈ mixedEntries, IsCompanyEntry v := by
    unfold mixedEntries
    simp only [List.forall_mem_cons, List.not_mem_nil, IsEmpty.forall_iff, implies_true, and_true]
    refine ⟨.object _, .array ?_, .array ?_, .object _, .array ?_, .object _, .array ?_,
      .array ?_⟩ <;> simp
  have hfetched : companiesFetched? turns = some (.array mixedEntries) := by decide +kernel
  have hallowed : companiesAllowed? turns' = some (.array mixedEntries) := by decide +kernel
  have hprofile : (profileRow? turns').isSome = true := by decide +kernel
  exact ⟨hentries, hfetched, hallowed, rfl, hprofile,
    organizations_agree hentries (Program.path_run scripted x _) hfetched
      (Program.path_run scripted x' _) rfl hprofile hallowed⟩

example : Organization.settle (mixedEntries.filterMap companyOfEntry?) =
    [⟨7, "Acme"⟩, ⟨9, "Beta"⟩] := by
  decide +kernel

end Odoo

end FederatedLogin
