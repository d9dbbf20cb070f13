import FederatedLogin.Proofs.Odoo.Requests

/-! # Outcomes of a login

How a login ends, reply by reply. Credentials are rejected by the first reply alone. A later reply
that is of no use fails the login: as a failure of the transport where nothing can be read of it,
and as one of the protocol where the service has answered.
-/

namespace FederatedLogin.Odoo

open Http (Delivery Request)
open Program (Turn)

/-! ## What is read of a delivery -/

/-- What a call makes of a delivery: a refusal by the status alone, nothing where the connection
fails, runs out of time or breaks off inside the body, or where the body is no envelope, and else
the response. -/
inductive Reads (endpoint : String) : Delivery → Except Rpc.Failure Rpc.Reply → Prop where
  | refused {status : Http.Status} (body : Option Http.Bytes) : status = 401 ∨ status = 403 →
      Reads endpoint (.answered status body) (.ok (.denied status))
  | unconnected (timedOut : Bool) :
      Reads endpoint (.failed timedOut) (.error (.transport endpoint timedOut))
  | brokenOff {status : Http.Status} : ¬ (status = 401 ∨ status = 403) →
      Reads endpoint (.answered status none) (.error (.transport endpoint false))
  | undecodable {status : Http.Status} {bytes : Http.Bytes} : ¬ (status = 401 ∨ status = 403) →
      Rpc.Response.ofBytes? bytes = none →
      Reads endpoint (.answered status (some bytes)) (.error (.undecodable endpoint status))
  | decoded {status : Http.Status} {bytes : Http.Bytes} {response : Rpc.Response} :
      ¬ (status = 401 ∨ status = 403) → Rpc.Response.ofBytes? bytes = some response →
      Reads endpoint (.answered status (some bytes)) (.ok (.response status response))

theorem isDenial_iff {status : Http.Status} :
    status.isDenial = true ↔ status = 401 ∨ status = 403 := by
  simp [Http.Status.isDenial, Http.Status.unauthorized, Http.Status.forbidden]

theorem reads_interpret (endpoint : String) (d : Delivery) :
    Reads endpoint d (Rpc.interpret endpoint d) := by
  cases d with
  | failed timedOut => exact .unconnected timedOut
  | answered status body =>
    unfold Rpc.interpret
    dsimp only
    split
    next hs => exact .refused body (isDenial_iff.mp hs)
    next hs =>
      have hs := mt isDenial_iff.mpr hs
      split
      next => exact .brokenOff hs
      next bytes =>
        split
        next hb => exact .decoded hs hb
        next hb => exact .undecodable hs hb

theorem reads_iff {endpoint : String} {d : Delivery} {x : Except Rpc.Failure Rpc.Reply} :
    Reads endpoint d x ↔ Rpc.interpret endpoint d = x := by
  constructor
  · intro h
    cases h with
    | refused body hs => exact if_pos (isDenial_iff.mpr hs)
    | unconnected => rfl
    | brokenOff hs => exact if_neg (mt isDenial_iff.mp hs)
    | undecodable hs hb => simp [Rpc.interpret, mt isDenial_iff.mp hs, hb]
    | decoded hs hb => simp [Rpc.interpret, mt isDenial_iff.mp hs, hb]
  · rintro rfl
    exact reads_interpret endpoint d

/-! ## What a reply comes to -/

/-- The reply says that the credentials are wrong. -/
inductive Rejects : Rpc.Reply → Prop where
  | refused (status : Http.Status) : Rejects (.denied status)
  | error {status : Http.Status} {response : Rpc.Response} {e : Rpc.ErrorObject} :
      response.error = some e → judge status (some e) = .invalidCredentials →
      Rejects (.response status response)
  | unusable {status : Http.Status} {response : Rpc.Response} :
      response.error = none → response.usableResult? = none → Rejects (.response status response)
  | undecodable {status : Http.Status} {response : Rpc.Response} {v : Json} :
      response.error = none → response.usableResult? = some v → SessionInfo.ofJson? v = none →
      Rejects (.response status response)
  | nobody {status : Http.Status} {response : Rpc.Response} {v : Json} {session : SessionInfo} :
      response.error = none → response.usableResult? = some v →
      SessionInfo.ofJson? v = some session → session.uid ≤ 0 → Rejects (.response status response)

def rowCount? : Step → Json → Option Nat
  | .authenticate, _ => none
  | .fetchProfile, v => (rowsOf? ProfileRow.ofJson? v).map List.length
  | .fetchMemberships, v => (rowsOf? MembershipRow.ofJson? v).map List.length
  | .fetchOrganizations, v => (rowsOf? CompanyRow.ofJson? v).map List.length

/-- The reply fails a step of the user with an id, for the given reason. -/
inductive Complains (uid : Int) : Step → Rpc.Reply → String → Prop where
  | refused {step : Step} (status : Http.Status) : step ≠ .authenticate →
      Complains uid step (.denied status) ("HTTP " ++ status.describe)
  | error {step : Step} {status : Http.Status} {response : Rpc.Response} {e : Rpc.ErrorObject} :
      response.error = some e → (step = .authenticate → judge status (some e) = .serviceFailure) →
      Complains uid step (.response status response) e.message
  | shape {step : Step} {status : Http.Status} {response : Rpc.Response} {v : Json} :
      step = .fetchMemberships ∨ step = .fetchOrganizations → response.error = none →
      response.result = some v → rowCount? step v = none →
      Complains uid step (.response status response) "unexpected result shape: "
  | noMembership {status : Http.Status} {response : Rpc.Response} : response.error = none →
      (∀ v, response.result = some v → rowCount? .fetchMemberships v = some 0) →
      Complains uid .fetchMemberships (.response status response)
        ("no membership row for uid " ++ Text.decimal uid)

/-- The reply has no row for the profile: its result is missing, undecodable or empty. -/
inductive LacksProfile : Rpc.Reply → Prop where
  | missing {status : Http.Status} {response : Rpc.Response} :
      response.error = none → response.result = none → LacksProfile (.response status response)
  | undecodable {status : Http.Status} {response : Rpc.Response} {v : Json} :
      response.error = none → response.result = some v → rowCount? .fetchProfile v = none →
      LacksProfile (.response status response)
  | empty {status : Http.Status} {response : Rpc.Response} {v : Json} :
      response.error = none → response.result = some v → rowCount? .fetchProfile v = some 0 →
      LacksProfile (.response status response)

theorem sessionOfReply_eq_none_iff {reply : Rpc.Reply} :
    sessionOfReply reply = .ok none ↔ Rejects reply := by
  constructor
  · intro h
    match reply with
    | .denied status => exact .refused status
    | .response status response =>
      unfold sessionOfReply at h
      dsimp only at h
      split at h
      next e he =>
        split at h
        next hj => exact .error he hj
        next => cases h
      next he =>
        cases hv : response.usableResult? with
        | none => exact .unusable he hv
        | some v =>
          rw [hv] at h
          cases hs : SessionInfo.ofJson? v with
          | none => exact .undecodable he hv hs
          | some session =>
            refine .nobody he hv hs ?_
            simpa [sessionOf?, hs] using h
  · intro h
    cases h with
    | refused => rfl
    | error he hj => simp [sessionOfReply, he, hj]
    | unusable he hv => simp [sessionOfReply, he, hv]
    | undecodable he hv hs => simp [sessionOfReply, he, hv, sessionOf?, hs]
    | nobody he hv hs hu => simp [sessionOfReply, he, hv, sessionOf?, hs, hu]

theorem sessionOfReply_eq_error_iff (uid : Int) {reply : Rpc.Reply} {e : LoginError} :
    sessionOfReply reply = .error e ↔
      ∃ reason, e = .protocol .authenticate reason ∧ Complains uid .authenticate reply reason := by
  constructor
  · intro h
    unfold sessionOfReply at h
    split at h
    next => cases h
    next status response =>
      split at h
      next err he =>
        split at h
        next => cases h
        next hj =>
          cases h
          exact ⟨_, rfl, .error he fun _ => hj⟩
      next => cases h
  · rintro ⟨reason, rfl, h⟩
    cases h with
    | refused _ hne => exact absurd rfl hne
    | error he hj => simp [sessionOfReply, he, hj rfl]
    | shape hstep => simp at hstep

/-- How rows are read of a reply. -/
inductive ReadsRows {α : Type} (step : Step) (row? : Json → Option α) :
    Rpc.Reply → Except LoginError (List α) → Prop where
  | refused (status : Http.Status) :
      ReadsRows step row? (.denied status) (.error (.protocol step ("HTTP " ++ status.describe)))
  | error {status : Http.Status} {response : Rpc.Response} {e : Rpc.ErrorObject} :
      response.error = some e →
      ReadsRows step row? (.response status response) (.error (.protocol step e.message))
  | missing {status : Http.Status} {response : Rpc.Response} : response.error = none →
      response.result = none → ReadsRows step row? (.response status response) (.ok [])
  | rows {status : Http.Status} {response : Rpc.Response} {v : Json} {rows : List α} :
      response.error = none → response.result = some v → rowsOf? row? v = some rows →
      ReadsRows step row? (.response status response) (.ok rows)
  | passedOver {status : Http.Status} {response : Rpc.Response} {v : Json} :
      step = .fetchProfile → response.error = none → response.result = some v →
      rowsOf? row? v = none → ReadsRows step row? (.response status response) (.ok [])
  | shape {status : Http.Status} {response : Rpc.Response} {v : Json} :
      step ≠ .fetchProfile → response.error = none → response.result = some v →
      rowsOf? row? v = none → ReadsRows step row? (.response status response)
        (.error (.protocol step "unexpected result shape: "))

theorem rowsOfReply_eq_iff {α : Type} {step : Step} {row? : Json → Option α} {reply : Rpc.Reply}
    {x : Except LoginError (List α)} :
    rowsOfReply step row? reply = x ↔ ReadsRows step row? reply x := by
  constructor
  · rintro rfl
    unfold rowsOfReply
    split
    next status => exact .refused status
    next status response =>
      split
      next he => exact .error he
      next he hv => exact .missing he hv
      next v he hv =>
        split
        next hrows => exact .rows he hv hrows
        next hrows =>
          split
          next hstep => exact .passedOver hstep he hv hrows
          next hstep => exact .shape hstep he hv hrows
  · intro h
    cases h with
    | refused => rfl
    | error he => simp [rowsOfReply, he]
    | missing he hv => simp [rowsOfReply, he, hv]
    | rows he hv hrows => simp [rowsOfReply, he, hv, hrows]
    | passedOver hstep he hv hrows => simp [rowsOfReply, he, hv, hrows, hstep]
    | shape hstep he hv hrows => simp [rowsOfReply, he, hv, hrows, hstep]

theorem firstRow_bind_eq_error_iff {α : Type} {x : Except LoginError (List α)} {e e' : LoginError} :
    (x >>= firstRow e) = .error e' ↔ x = .error e' ∨ x = .ok [] ∧ e' = e := by
  match x with
  | .error _ => simp [bind, Except.bind]
  | .ok [] => simp [bind, Except.bind, firstRow, eq_comm]
  | .ok (row :: rows) => simp [bind, Except.bind, firstRow]

section Rows

variable {uid : Int} {reply : Rpc.Reply} {e : LoginError}

theorem profile_eq_error_iff :
    (rowsOfReply .fetchProfile ProfileRow.ofJson? reply >>= firstRow (.userNotFound uid)) =
        .error e ↔
      (∃ reason, e = .protocol .fetchProfile reason ∧ Complains uid .fetchProfile reply reason) ∨
        e = .userNotFound uid ∧ LacksProfile reply := by
  rw [firstRow_bind_eq_error_iff, rowsOfReply_eq_iff, rowsOfReply_eq_iff]
  constructor
  · rintro (h | ⟨h, rfl⟩)
    · cases h with
      | refused status => exact .inl ⟨_, rfl, .refused status nofun⟩
      | error he => exact .inl ⟨_, rfl, .error he nofun⟩
      | shape hne => exact absurd rfl hne
    · cases h with
      | missing he hv => exact .inr ⟨rfl, .missing he hv⟩
      | rows he hv hrows => exact .inr ⟨rfl, .empty he hv (by simp [rowCount?, hrows])⟩
      | passedOver _ he hv hrows =>
        exact .inr ⟨rfl, .undecodable he hv (by simp [rowCount?, hrows])⟩
  · rintro (⟨reason, rfl, h⟩ | ⟨rfl, h⟩)
    · cases h with
      | refused status => exact .inl (.refused status)
      | error he => exact .inl (.error he)
      | shape hstep => simp at hstep
    · cases h with
      | missing he hv => exact .inr ⟨.missing he hv, rfl⟩
      | undecodable he hv hrows =>
        exact .inr ⟨.passedOver rfl he hv (by simpa [rowCount?] using hrows), rfl⟩
      | empty he hv hrows =>
        exact .inr ⟨.rows he hv (by simpa [rowCount?] using hrows), rfl⟩

theorem membership_eq_error_iff :
    (rowsOfReply .fetchMemberships MembershipRow.ofJson? reply >>=
        firstRow (.protocol .fetchMemberships ("no membership row for uid " ++ Text.decimal uid))) =
        .error e ↔
      ∃ reason, e = .protocol .fetchMemberships reason ∧
        Complains uid .fetchMemberships reply reason := by
  rw [firstRow_bind_eq_error_iff, rowsOfReply_eq_iff, rowsOfReply_eq_iff]
  constructor
  · rintro (h | ⟨h, rfl⟩)
    · cases h with
      | refused status => exact ⟨_, rfl, .refused status nofun⟩
      | error he => exact ⟨_, rfl, .error he nofun⟩
      | shape _ he hv hrows =>
        exact ⟨_, rfl, .shape (.inl rfl) he hv (by simp [rowCount?, hrows])⟩
    · cases h with
      | missing he hv => exact ⟨_, rfl, .noMembership he (by simp [hv])⟩
      | rows he hv hrows => exact ⟨_, rfl, .noMembership he (by simp [hv, rowCount?, hrows])⟩
      | passedOver hstep => cases hstep
  · rintro ⟨reason, rfl, h⟩
    cases h with
    | refused status => exact .inl (.refused status)
    | error he => exact .inl (.error he)
    | shape _ he hv hrows =>
      exact .inl (.shape nofun he hv (by simpa [rowCount?] using hrows))
    | @noMembership _ response he hrows =>
      refine .inr ⟨?_, rfl⟩
      cases hv : response.result with
      | none => exact .missing he hv
      | some v => exact .rows he hv (by simpa [rowCount?] using hrows v hv)

theorem organizations_eq_error_iff (uid : Int) :
    rowsOfReply .fetchOrganizations CompanyRow.ofJson? reply = .error e ↔
      ∃ reason, e = .protocol .fetchOrganizations reason ∧
        Complains uid .fetchOrganizations reply reason := by
  rw [rowsOfReply_eq_iff]
  constructor
  · intro h
    cases h with
    | refused status => exact ⟨_, rfl, .refused status nofun⟩
    | error he => exact ⟨_, rfl, .error he nofun⟩
    | shape _ he hv hrows =>
      exact ⟨_, rfl, .shape (.inr rfl) he hv (by simp [rowCount?, hrows])⟩
  · rintro ⟨reason, rfl, h⟩
    cases h with
    | refused status => exact .refused status
    | error he => exact .error he
    | shape _ he hv hrows => exact .shape nofun he hv (by simpa [rowCount?] using hrows)

end Rows

/-! ## What a step fails over -/

/-- A step of the user with an id fails over what it has read. -/
def FailsBy (uid : Int) (step : Step) : Except Rpc.Failure Rpc.Reply → LoginError → Prop
  | .error cause, e => e = .transport step cause
  | .ok reply, e => (∃ reason, e = .protocol step reason ∧ Complains uid step reply reason) ∨
      e = .userNotFound uid ∧ step = .fetchProfile ∧ LacksProfile reply

def Settings.urlOf (s : Settings) : Step → String
  | .authenticate => s.baseUrl ++ "/web/session/authenticate"
  | .fetchProfile | .fetchMemberships | .fetchOrganizations => s.baseUrl ++ s.jsonrpcPath

theorem replyOf_bind_eq_error_iff {α : Type} {step : Step} {x : Except Rpc.Failure Rpc.Reply}
    {read : Rpc.Reply → Except LoginError α} {uid : Int} {e : LoginError}
    (h : ∀ reply, read reply = .error e ↔ FailsBy uid step (.ok reply) e) :
    (replyOf step x >>= read) = .error e ↔ FailsBy uid step x e := by
  cases x with
  | error cause => simp [replyOf, bind, Except.bind, FailsBy, eq_comm]
  | ok reply => exact h reply

section Readings

variable {s : Settings} {d : Delivery} {uid : Int} {e : LoginError}

theorem sessionRead_eq_error_iff : sessionRead s d = .error e ↔
    FailsBy uid .authenticate (Rpc.interpret (s.urlOf .authenticate) d) e :=
  replyOf_bind_eq_error_iff fun reply => by
    simp [FailsBy, sessionOfReply_eq_error_iff uid]

theorem profileRead_eq_error_iff : profileRead s uid d = .error e ↔
    FailsBy uid .fetchProfile (Rpc.interpret (s.urlOf .fetchProfile) d) e := by
  rw [profileRead, rowsRead, bind_assoc]
  exact replyOf_bind_eq_error_iff fun reply => by simp [FailsBy, profile_eq_error_iff]

theorem membershipRead_eq_error_iff : membershipRead s uid d = .error e ↔
    FailsBy uid .fetchMemberships (Rpc.interpret (s.urlOf .fetchMemberships) d) e := by
  rw [membershipRead, rowsRead, bind_assoc]
  exact replyOf_bind_eq_error_iff fun reply => by simp [FailsBy, membership_eq_error_iff]

theorem organizationsRead_eq_error_iff : organizationsRead s d = .error e ↔
    FailsBy uid .fetchOrganizations (Rpc.interpret (s.urlOf .fetchOrganizations) d) e := by
  have hrows : rowsRead s d .fetchOrganizations CompanyRow.ofJson? = .error e ↔
      FailsBy uid .fetchOrganizations (Rpc.interpret (s.urlOf .fetchOrganizations) d) e :=
    replyOf_bind_eq_error_iff fun reply => by simp [FailsBy, organizations_eq_error_iff uid]
  rw [← hrows, organizationsRead]
  cases rowsRead s d .fetchOrganizations CompanyRow.ofJson? <;> simp [Except.map]

end Readings

/-! ## The login -/

def deliveries (turns : Turns) : List (Step × Delivery) := Step.all.zip (turns.map (·.2))

/-- What a step of a login has read. -/
def HasRead (s : Settings) (turns : Turns) (step : Step)
    (x : Except Rpc.Failure Rpc.Reply) : Prop :=
  ∃ d, (step, d) ∈ deliveries turns ∧ Reads (s.urlOf step) d x

/-- How a login ends where a reply carries an error, whatever else the reply carries. -/
def outcomeOfError (step : Step) (status : Http.Status) (e : Rpc.ErrorObject) :
    Except LoginError Outcome :=
  if step = .authenticate ∧ judge status (some e) = .invalidCredentials then .ok .invalidCredentials
  else .error (.protocol step e.message)

/-- The end of a login by what its steps have read. -/
structure Ends (s : Settings) (turns : Turns) (r : Except LoginError Outcome) : Prop where
  rejected : r = .ok .invalidCredentials ↔
    ∃ reply, HasRead s turns .authenticate (.ok reply) ∧ Rejects reply
  later : ∀ step x, HasRead s turns step x → step ≠ .authenticate → r ≠ .ok .invalidCredentials
  errorFirst : ∀ step status response e, HasRead s turns step (.ok (.response status response)) →
    response.error = some e → r = outcomeOfError step status e
  transport : ∀ step cause, r = .error (.transport step cause) ↔
    HasRead s turns step (.error cause)
  protocol : ∀ step reason, r = .error (.protocol step reason) ↔
    ∃ reply, HasRead s turns step (.ok reply) ∧ Complains (sessionUser turns) step reply reason
  protocolFirst : ∀ reason, r = .error (.protocol .authenticate reason) ↔
    ∃ status response e, HasRead s turns .authenticate (.ok (.response status response)) ∧
      response.error = some e ∧ judge status (some e) = .serviceFailure ∧ reason = e.message
  userNotFound : ∀ uid, r = .error (.userNotFound uid) ↔
    (∃ session, session? turns = some session ∧ session.uid = uid) ∧
      ∃ reply, HasRead s turns .fetchProfile (.ok reply) ∧ LacksProfile reply

section Login

variable {s : Settings} {identifier : String} {secret : Secret String} {turns : Turns}

theorem StandingPath.error_iff {session : SessionInfo} {r : Except LoginError Standing}
    (h : StandingPath s session secret turns r) {e : LoginError} :
    r = .error e ↔
      ∃ p ∈ [Step.fetchMemberships, .fetchOrganizations].zip (turns.map (·.2)),
        FailsBy session.uid p.1 (Rpc.interpret (s.urlOf p.1) p.2) e := by
  cases h with
  | unsynchronized => simp
  | membershipFailed _ he =>
    simp [← membershipRead_eq_error_iff, he]
  | withoutOrganizations _ hrow => simp [← membershipRead_eq_error_iff, hrow]
  | @organized _ d' _ _ hrow =>
    cases horganizations : organizationsRead s d' <;>
      simp [← membershipRead_eq_error_iff, ← organizationsRead_eq_error_iff, hrow, horganizations,
        Except.map]

theorem LoginPath.error_iff {r : Except LoginError Outcome}
    (h : LoginPath s identifier secret turns r) {e : LoginError} :
    r = .error e ↔
      ∃ step x, HasRead s turns step x ∧ FailsBy (sessionUser turns) step x e := by
  have hsteps : r = .error e ↔ ∃ p ∈ deliveries turns,
      FailsBy (sessionUser turns) p.1 (Rpc.interpret (s.urlOf p.1) p.2) e := by
    cases h with
    | failed he => simp [deliveries, Step.all, ← sessionRead_eq_error_iff, he]
    | rejected hn => simp [deliveries, Step.all, ← sessionRead_eq_error_iff, hn]
    | profileFailed hs he =>
      have huid := sessionRead_eq_ok_some_iff.mp hs
      simp [deliveries, Step.all, sessionUser, session?, huid, ← sessionRead_eq_error_iff,
        ← profileRead_eq_error_iff, hs, he]
    | @profiled _ _ _ _ _ standing hs hp hstanding =>
      have huid := sessionRead_eq_ok_some_iff.mp hs
      have herror := hstanding.error_iff (e := e)
      cases standing <;>
        simpa [deliveries, Step.all, sessionUser, session?, huid, ← sessionRead_eq_error_iff,
          ← profileRead_eq_error_iff, hs, hp, Except.map] using herror
  rw [hsteps]
  constructor
  · rintro ⟨⟨step, d⟩, hd, hf⟩
    exact ⟨step, _, ⟨d, hd, reads_iff.mpr rfl⟩, hf⟩
  · rintro ⟨step, x, ⟨d, hd, hx⟩, hf⟩
    exact ⟨(step, d), hd, reads_iff.mp hx ▸ hf⟩

theorem sessionRead_eq_none_iff {d : Delivery} : sessionRead s d = .ok none ↔
    ∃ reply, Reads (s.urlOf .authenticate) d (.ok reply) ∧ Rejects reply := by
  simp only [reads_iff, ← sessionOfReply_eq_none_iff]
  change (replyOf .authenticate (Rpc.interpret (s.urlOf .authenticate) d) >>= _) = _ ↔ _
  cases Rpc.interpret (s.urlOf .authenticate) d with
  | error cause => exact iff_of_false nofun nofun
  | ok reply => simp [replyOf, bind, Except.bind]

theorem mem_deliveries_authenticate_iff {t : Turn fun _ : Request => Delivery} {d : Delivery} :
    (.authenticate, d) ∈ deliveries (t :: turns) ↔ d = t.2 := by
  have hlater : (.authenticate, d) ∉
      [Step.fetchProfile, .fetchMemberships, .fetchOrganizations].zip (turns.map (·.2)) :=
    fun h => absurd (List.of_mem_zip h).1 (by simp)
  simp only [deliveries, Step.all, List.map_cons, List.zip_cons_cons, List.mem_cons, Prod.mk.injEq,
    true_and, hlater, or_false]

theorem LoginPath.rejected_iff_sessionRead {r : Except LoginError Outcome}
    (h : LoginPath s identifier secret turns r) :
    r = .ok .invalidCredentials ↔
      ∃ d, (.authenticate, d) ∈ deliveries turns ∧ sessionRead s d = .ok none := by
  cases h with
  | failed he => simp [mem_deliveries_authenticate_iff, he]
  | rejected hn => simp [mem_deliveries_authenticate_iff, hn]
  | profileFailed hs he => simp [mem_deliveries_authenticate_iff, hs]
  | @profiled _ _ _ _ _ standing hs _ _ =>
    cases standing <;> simp [mem_deliveries_authenticate_iff, hs, Except.map]

theorem LoginPath.rejected_iff {r : Except LoginError Outcome}
    (h : LoginPath s identifier secret turns r) :
    r = .ok .invalidCredentials ↔
      ∃ reply, HasRead s turns .authenticate (.ok reply) ∧ Rejects reply := by
  rw [h.rejected_iff_sessionRead]
  constructor
  · rintro ⟨d, hd, hn⟩
    obtain ⟨reply, hr, hj⟩ := sessionRead_eq_none_iff.mp hn
    exact ⟨reply, ⟨d, hd, hr⟩, hj⟩
  · rintro ⟨reply, ⟨d, hd, hr⟩, hj⟩
    exact ⟨d, hd, sessionRead_eq_none_iff.mpr ⟨reply, hr, hj⟩⟩

theorem LoginPath.transport_iff {r : Except LoginError Outcome}
    (h : LoginPath s identifier secret turns r) {step : Step} {cause : Rpc.Failure} :
    r = .error (.transport step cause) ↔ HasRead s turns step (.error cause) := by
  rw [h.error_iff]
  constructor
  · rintro ⟨step', x, hx, hf⟩
    match x with
    | .error cause' =>
      cases hf
      exact hx
    | .ok reply => simp [FailsBy] at hf
  · intro hx
    exact ⟨step, _, hx, rfl⟩

theorem LoginPath.protocol_iff {r : Except LoginError Outcome}
    (h : LoginPath s identifier secret turns r) {step : Step} {reason : String} :
    r = .error (.protocol step reason) ↔ ∃ reply, HasRead s turns step (.ok reply) ∧
      Complains (sessionUser turns) step reply reason := by
  rw [h.error_iff]
  constructor
  · rintro ⟨step', x, hx, hf⟩
    match x with
    | .error cause => cases hf
    | .ok reply =>
      rcases hf with ⟨reason', he, hc⟩ | ⟨he, _⟩
      · cases he
        exact ⟨reply, hx, hc⟩
      · cases he
  · rintro ⟨reply, hx, hc⟩
    exact ⟨step, _, hx, .inl ⟨reason, rfl, hc⟩⟩

/-- Who logs in is known as soon as a second request is made. -/
theorem Asks.exists_session {r : Except LoginError Outcome} (h : Asks s identifier secret turns r)
    {step : Step} {d : Delivery} (hd : (step, d) ∈ deliveries turns) (hne : step ≠ .authenticate) :
    2 ≤ turns.length ∧ ∃ session, session? turns = some session ∧
      session.uid = sessionUser turns := by
  have hlength : 2 ≤ turns.length := by
    match turns, hd with
    | [_], hd => simp [deliveries, Step.all, hne] at hd
    | _ :: _ :: _, _ => simp
  obtain ⟨session, hs⟩ := Option.isSome_iff_exists.mp (h.profile.mp hlength)
  exact ⟨hlength, session, hs, by simp [sessionUser, hs]⟩

theorem LoginPath.userNotFound_iff {r : Except LoginError Outcome}
    (h : LoginPath s identifier secret turns r) {uid : Int} :
    r = .error (.userNotFound uid) ↔
      (∃ session, session? turns = some session ∧ session.uid = uid) ∧
        ∃ reply, HasRead s turns .fetchProfile (.ok reply) ∧ LacksProfile reply := by
  rw [h.error_iff]
  constructor
  · rintro ⟨step, x, hx, hf⟩
    match x with
    | .error cause => cases hf
    | .ok reply =>
      rcases hf with ⟨reason, he, hc⟩ | ⟨he, rfl, hl⟩
      · cases he
      · cases he
        obtain ⟨d, hd, hread⟩ := hx
        exact ⟨(h.asks.exists_session hd nofun).2, reply, ⟨d, hd, hread⟩, hl⟩
  · rintro ⟨⟨session, hs, rfl⟩, reply, hx, hl⟩
    exact ⟨.fetchProfile, _, hx, .inr ⟨by simp [sessionUser, hs], rfl, hl⟩⟩

theorem LoginPath.ends {r : Except LoginError Outcome} (h : LoginPath s identifier secret turns r) :
    Ends s turns r where
  rejected := h.rejected_iff
  later step x hx hne hr := by
    obtain ⟨d, hd, _⟩ := hx
    have hlength := (h.asks.exists_session hd hne).1
    have hone := h.asks.rejected hr
    omega
  errorFirst step status response e hx he := by
    unfold outcomeOfError
    split
    next hj =>
      obtain ⟨rfl, hj⟩ := hj
      exact h.rejected_iff.mpr ⟨_, hx, .error he hj⟩
    next hj =>
      refine h.protocol_iff.mpr ⟨_, hx, .error he fun hstep => ?_⟩
      cases hv : judge status (some e) with
      | invalidCredentials => exact absurd ⟨hstep, hv⟩ hj
      | serviceFailure => rfl
  transport _ _ := h.transport_iff
  protocol _ _ := h.protocol_iff
  protocolFirst reason := by
    rw [h.protocol_iff]
    constructor
    · rintro ⟨reply, hx, hc⟩
      cases hc with
      | refused _ hne => exact absurd rfl hne
      | error he hj => exact ⟨_, _, _, hx, he, hj rfl, rfl⟩
      | shape hstep => simp at hstep
    · rintro ⟨status, response, e, hx, he, hj, rfl⟩
      exact ⟨_, hx, .error he fun _ => hj⟩
  userNotFound _ := h.userNotFound_iff

end Login

/-- Whatever the service answers, the end of a login follows from what its steps have read. -/
theorem login_ends {σ : Type} (s : Settings) (identifier : String) (secret : Secret String)
    (upstream : Request → σ → Delivery × σ) (w : σ) :
    let x := (login s identifier secret).run
    Ends s (Program.turns upstream x w) (Program.run upstream x w).1 :=
  (loginPath_of_path (Program.path_run upstream _ w)).ends

end FederatedLogin.Odoo
