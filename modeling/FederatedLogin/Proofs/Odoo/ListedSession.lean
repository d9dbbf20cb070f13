import FederatedLogin.Proofs.Odoo.Outcome

/-! # Sessions written as lists

A result that is no object can still be read as a session, since a record may also be written as a
list of its fields. Such a list logs a user in if its first item is the id of one; every other
result that is no object rejects the credentials.
-/

namespace FederatedLogin.Odoo

open Http (Delivery Request)

/-- A value lists the fields of a session, the first of which is the id of a user. -/
def ListsUser : Json → Prop
  | .array (uid :: rest) => rest.length < 4 ∧ 0 < (Rpc.Loose.ofJson uid).id?.getD 0
  | _ => False

section Session

variable {v : Json}

theorem ofJson?_eq_none_iff (hv : ∀ members, v ≠ .object members) :
    SessionInfo.ofJson? v = none ↔ ∀ items, v = .array items → 4 < items.length := by
  cases v with
  | object members => exact absurd rfl (hv members)
  | array items => simp [SessionInfo.ofJson?, Json.record?]
  | _ => exact iff_of_true rfl nofun

theorem ofJson?_list (uid : Json) {rest : List Json} (hl : rest.length < 4) :
    ∃ session, SessionInfo.ofJson? (.array (uid :: rest)) = some session ∧
      session.uidField = .ofJson uid := by
  have hrecord : Json.record? ["uid", "is_system", "is_admin", "user_companies"]
      (.array (uid :: rest)) = some (.ofItems ["uid", "is_system", "is_admin", "user_companies"]
        (uid :: rest)) := if_pos (Nat.succ_le_of_lt hl)
  exact ⟨_, by rw [SessionInfo.ofJson?, hrecord]; rfl, rfl⟩

theorem sessionOf?_eq_none_iff (hv : ∀ members, v ≠ .object members) :
    sessionOf? v = none ↔ ¬ ListsUser v := by
  cases v with
  | object members => exact absurd rfl (hv members)
  | array items =>
    cases items with
    | nil => exact iff_of_true rfl not_false
    | cons uid rest =>
      by_cases hl : rest.length < 4
      · obtain ⟨session, hs, hu⟩ := ofJson?_list uid hl
        simp [sessionOf?, hs, SessionInfo.uid, hu, ListsUser, hl]
      · have hs : SessionInfo.ofJson? (.array (uid :: rest)) = none :=
          (ofJson?_eq_none_iff hv).mpr fun items he => by
            cases he
            exact Nat.lt_succ_of_le (Nat.le_of_not_lt hl)
        simp [sessionOf?, hs, ListsUser, hl]
  | _ => exact iff_of_true rfl not_false

theorem isUsable_of_listsUser (h : ListsUser v) : Rpc.Response.isUsable v = true := by
  match v, h with
  | .array (_ :: _), _ => rfl

end Session

section Login

variable {s : Settings} {identifier : String} {secret : Secret String} {d : Delivery}
  {status : Http.Status} {response : Rpc.Response} {rest : Turns} {r : Except LoginError Outcome}

theorem sessionRead_of_response
    (hread : Reads s.authenticateUrl d (.ok (.response status response)))
    (he : response.error = none) :
    sessionRead s d = .ok (response.usableResult?.bind sessionOf?) := by
  rw [sessionRead, reads_iff.mp hread]
  change sessionOfReply (.response status response) = _
  rw [sessionOfReply, he]

/-- A response without an error whose result is no object opens a session if and only if the result
lists a user. -/
theorem usableResult?_bind_eq_none_iff
    (hresult : ∀ members, response.result ≠ some (.object members)) :
    response.usableResult?.bind sessionOf? = none ↔
      ∀ v, response.result = some v → ¬ ListsUser v := by
  cases hv : response.result with
  | none => simp [Rpc.Response.usableResult?, hv]
  | some v =>
    have hobject : ∀ members, v ≠ .object members := fun members he => hresult members (he ▸ hv)
    cases hu : Rpc.Response.isUsable v with
    | true => simpa [Rpc.Response.usableResult?, hv, hu] using sessionOf?_eq_none_iff hobject
    | false =>
      have hlists : ¬ ListsUser v := fun h =>
        Bool.false_ne_true (hu.symm.trans (isUsable_of_listsUser h))
      simpa [Rpc.Response.usableResult?, hv, hu] using hlists

theorem LoginPath.exists_eq_cons {turns : Turns} (h : LoginPath s identifier secret turns r) :
    ∃ d rest, turns = ⟨authenticateRequest s identifier secret, d⟩ :: rest := by
  cases h <;> exact ⟨_, _, rfl⟩

/-- A login ends with its first request if and only if the first reply opens no session. -/
theorem LoginPath.rest_eq_nil_iff
    (h : LoginPath s identifier secret (⟨authenticateRequest s identifier secret, d⟩ :: rest) r) :
    rest = [] ↔ ∀ session, sessionRead s d ≠ .ok (some session) := by
  cases h with
  | failed he => simp [he]
  | rejected hn => simp [hn]
  | profileFailed hs _ => simp [hs]
  | profiled hs _ _ => simp [hs]

theorem LoginPath.of_response
    (h : LoginPath s identifier secret (⟨authenticateRequest s identifier secret, d⟩ :: rest) r)
    (hread : Reads s.authenticateUrl d (.ok (.response status response)))
    (he : response.error = none) (hresult : ∀ members, response.result ≠ some (.object members)) :
    (r = .ok .invalidCredentials ↔ ∀ v, response.result = some v → ¬ ListsUser v) ∧
      (rest = [] ↔ ∀ v, response.result = some v → ¬ ListsUser v) := by
  rw [h.rejected_iff_sessionRead, h.rest_eq_nil_iff, ← usableResult?_bind_eq_none_iff hresult]
  simp only [mem_deliveries_authenticate_iff, exists_eq_left, sessionRead_of_response hread he,
    Except.ok.injEq, ne_eq, Option.eq_none_iff_forall_ne_some, and_self]

theorem LoginPath.of_error
    (h : LoginPath s identifier secret (⟨authenticateRequest s identifier secret, d⟩ :: rest) r)
    (hread : Reads s.authenticateUrl d (.ok (.response status response)))
    {e : Rpc.ErrorObject} (he : response.error = some e) :
    r = outcomeOfError .authenticate status e ∧ rest = [] := by
  refine ⟨h.ends.errorFirst _ _ _ _ ⟨d, mem_deliveries_authenticate_iff.mpr rfl, hread⟩ he, ?_⟩
  rw [h.rest_eq_nil_iff]
  intro session hs
  rw [sessionRead, reads_iff.mp hread] at hs
  change sessionOfReply (.response status response) = _ at hs
  rw [sessionOfReply, he] at hs
  dsimp only at hs
  split at hs <;> cases hs

end Login

/-- A login whose first reply has a result other than an object ends with its first request. If the
reply carries an error, the error decides. If not, the credentials are rejected, unless the result
lists a user, in which case the login goes on. -/
theorem rejects_unless_listsUser {σ : Type} (s : Settings) (identifier : String)
    (secret : Secret String) (upstream : Request → σ → Delivery × σ) (w : σ)
    {status : Http.Status} {response : Rpc.Response}
    (hread : Reads s.authenticateUrl (upstream (authenticateRequest s identifier secret) w).1
      (.ok (.response status response)))
    (hresult : ∀ members, response.result ≠ some (.object members)) :
    let x := (login s identifier secret).run
    let turns := Program.turns upstream x w
    let r := (Program.run upstream x w).1
    let rejected := ∀ v, response.result = some v → ¬ ListsUser v
    (∀ e, response.error = some e → r = outcomeOfError .authenticate status e ∧ turns.length = 1) ∧
    (response.error = none →
      (r = .ok .invalidCredentials ↔ rejected) ∧ (turns.length = 1 ↔ rejected)) ∧
    ∀ v, response.result = some v →
      (SessionInfo.ofJson? v = none ↔ ∀ items, v = .array items → 4 < items.length) := by
  intro x turns r rejected
  have h : LoginPath s identifier secret turns r :=
    loginPath_of_path (Program.path_run upstream x w)
  obtain ⟨d, rest, hturns⟩ := h.exists_eq_cons
  obtain rfl := Program.answer_of_turns_eq_cons hturns
  have hlength : turns.length = 1 ↔ rest = [] := by simp [hturns]
  rw [hturns] at h
  refine ⟨fun e he => ?_, fun he => ?_, fun v hv => ?_⟩
  · obtain ⟨hr, hrest⟩ := h.of_error hread he
    exact ⟨hr, hlength.mpr hrest⟩
  · obtain ⟨hr, hrest⟩ := h.of_response hread he hresult
    exact ⟨hr, hlength.trans hrest⟩
  · exact ofJson?_eq_none_iff fun members hobject => hresult members (hobject ▸ hv)

def scripted (_ : Request) (script : List Delivery) : Delivery × List Delivery :=
  (script.headD (.failed false), script.tail)

def answering (body : String) : Delivery := .answered 200 (some body.toUTF8.toList)

def sampleSettings : Settings := ⟨"http://odoo.test", "prod", "/jsonrpc", 8000, false⟩

/-- A list that starts with zero rejects the credentials, as an object with that id does. -/
theorem listed_zero_rejects :
    let upstream := [answering "\x7b\"result\":[0]\x7d"]
    let x := (login sampleSettings "bob" ⟨"secret"⟩).run
    Reads sampleSettings.authenticateUrl
        (scripted (authenticateRequest sampleSettings "bob" ⟨"secret"⟩) upstream).1
        (.ok (.response 200 ⟨none, none, some (.array [.int 0]), none⟩)) ∧
      (Program.run scripted x upstream).1 = .ok .invalidCredentials ∧
      (Program.turns scripted x upstream).length = 1 := by
  intro upstream x
  have hread : Reads sampleSettings.authenticateUrl
      (scripted (authenticateRequest sampleSettings "bob" ⟨"secret"⟩) upstream).1
      (.ok (.response 200 ⟨none, none, some (.array [.int 0]), none⟩)) :=
    .decoded (by decide) (by with_unfolding_all rfl)
  have hrejected : ∀ v, some (Json.array [.int 0]) = some v → ¬ ListsUser v := by
    rintro v ⟨⟩ ⟨_, hid⟩
    exact absurd hid (by decide)
  obtain ⟨_, hlogin, _⟩ :=
    rejects_unless_listsUser sampleSettings "bob" ⟨"secret"⟩ scripted upstream hread nofun
  obtain ⟨hr, hlength⟩ := hlogin rfl
  exact ⟨hread, hr.mpr hrejected, hlength.mpr hrejected⟩

/-- A result that is no object can log a user in: here it is the list of the number 42 alone, and
the login goes on to fetch the profile of user 42. -/
theorem listed_number_authenticates :
    let upstream :=
      [answering "\x7b\"result\":[42]\x7d", answering "\x7b\"result\":[[\"Bob\"]]\x7d"]
    let x := (login sampleSettings "bob" ⟨"secret"⟩).run
    (SessionInfo.ofJson? (.array [.int 42])).isSome = true ∧
      Reads sampleSettings.authenticateUrl
        (scripted (authenticateRequest sampleSettings "bob" ⟨"secret"⟩) upstream).1
        (.ok (.response 200 ⟨none, none, some (.array [.int 42]), none⟩)) ∧
      (Program.run scripted x upstream).1.toOption =
        some (.authenticated ⟨42, "", "Bob", none, false, false, []⟩) ∧
      (Program.turns scripted x upstream).length = 2 :=
  ⟨rfl, .decoded (by decide) (by with_unfolding_all rfl), by decide +kernel, by decide +kernel⟩

end FederatedLogin.Odoo
