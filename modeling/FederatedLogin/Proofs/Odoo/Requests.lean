import FederatedLogin.Proofs.Odoo.Path

/-! # Requests of a login

A login makes its four requests in a fixed order, none of them twice, and each only where the
replies before it call for it. What the replies say is read off the deliveries here, apart from the
failures that the login makes of them.
-/

namespace FederatedLogin.Odoo

open Http (Delivery Request)
open Program (Turn)

/-! ## What a delivery brings -/

/-- The response in a delivery that is no refusal. -/
def responseIn? : Delivery → Option Rpc.Response
  | .answered status (some bytes) => if status.isDenial then none else Rpc.Response.ofBytes? bytes
  | .answered _ none | .failed _ => none

def resultIn? (d : Delivery) : Option Json :=
  (responseIn? d).bind fun response => if response.error.isSome then none else response.result

def sessionIn? (d : Delivery) : Option SessionInfo :=
  ((resultIn? d).filter Rpc.Response.isUsable).bind fun result =>
    (SessionInfo.ofJson? result).filter fun session => 0 < session.uid

def rowIn? {α : Type} (row? : Json → Option α) (d : Delivery) : Option α :=
  ((resultIn? d).bind (rowsOf? row?)).bind List.head?

theorem interpret_cases (endpoint : String) (d : Delivery) :
    (responseIn? d = none ∧ ∃ e, Rpc.interpret endpoint d = .error e) ∨
    (responseIn? d = none ∧ ∃ status, Rpc.interpret endpoint d = .ok (.denied status)) ∨
    ∃ status response, responseIn? d = some response ∧
      Rpc.interpret endpoint d = .ok (.response status response) := by
  cases d with
  | failed timedOut => exact .inl ⟨rfl, _, rfl⟩
  | answered status body =>
    by_cases hs : status.isDenial = true
    · refine .inr (.inl ⟨?_, status, by simp [Rpc.interpret, hs]⟩)
      cases body <;> simp [responseIn?, hs]
    cases body with
    | none => exact .inl ⟨rfl, _, by simp only [Rpc.interpret, hs]; rfl⟩
    | some bytes =>
      cases hr : Rpc.Response.ofBytes? bytes with
      | none => exact .inl ⟨by simp [responseIn?, hr], _, by simp only [Rpc.interpret, hs, hr]; rfl⟩
      | some response =>
        refine .inr (.inr ⟨status, response, ?_, ?_⟩)
        · simp [responseIn?, hs, hr]
        · simp [Rpc.interpret, hs, hr]

theorem sessionRead_eq_ok_some_iff {s : Settings} {d : Delivery} {session : SessionInfo} :
    sessionRead s d = .ok (some session) ↔ sessionIn? d = some session := by
  unfold sessionRead sessionIn? resultIn?
  rcases interpret_cases s.authenticateUrl d with
    ⟨hnone, e, he⟩ | ⟨hnone, status, hdenied⟩ | ⟨status, response, hsome, hresponse⟩
  · rw [hnone, he]
    exact iff_of_false nofun nofun
  · rw [hnone, hdenied]
    exact iff_of_false nofun nofun
  rw [hsome, hresponse]
  change sessionOfReply (.response status response) = _ ↔ _
  obtain ⟨version, id, result, error⟩ := response
  cases error with
  | some error =>
    refine iff_of_false ?_ nofun
    simp only [sessionOfReply]
    cases judge status (some error) <;> simp
  | none => exact ⟨Except.ok.inj, congrArg _⟩

theorem rowsRead_eq_ok_cons_iff {α : Type} {s : Settings} {d : Delivery} {step : Step}
    {row? : Json → Option α} {row : α} {rows : List α} :
    rowsRead s d step row? = .ok (row :: rows) ↔
      (resultIn? d).bind (rowsOf? row?) = some (row :: rows) := by
  unfold rowsRead resultIn?
  rcases interpret_cases s.rpcUrl d with
    ⟨hnone, e, he⟩ | ⟨hnone, status, hdenied⟩ | ⟨status, response, hsome, hresponse⟩
  · rw [hnone, he]
    exact iff_of_false nofun nofun
  · rw [hnone, hdenied]
    exact iff_of_false nofun nofun
  rw [hsome, hresponse]
  change rowsOfReply step row? (.response status response) = _ ↔ _
  obtain ⟨version, id, result, error⟩ := response
  cases error with
  | some error => exact iff_of_false (by simp [rowsOfReply]) nofun
  | none =>
    cases result with
    | none => exact iff_of_false (by simp [rowsOfReply]) nofun
    | some result =>
      change _ ↔ rowsOf? row? result = some (row :: rows)
      cases hrows : rowsOf? row? result with
      | some found => simp [rowsOfReply, hrows]
      | none =>
        refine iff_of_false ?_ nofun
        simp only [rowsOfReply, hrows]
        split <;> simp

theorem firstRow_eq_ok_iff {α : Type} {s : Settings} {d : Delivery} {step : Step}
    {row? : Json → Option α} {e : LoginError} {row : α} :
    (rowsRead s d step row? >>= firstRow e) = .ok row ↔ rowIn? row? d = some row := by
  rw [rowIn?, Option.bind_eq_some_iff]
  constructor
  · intro h
    cases hrows : rowsRead s d step row? with
    | error e' => rw [hrows] at h; cases h
    | ok rows =>
      rw [hrows] at h
      cases rows with
      | nil => cases h
      | cons first rows =>
        cases h
        exact ⟨_, rowsRead_eq_ok_cons_iff.mp hrows, rfl⟩
  · rintro ⟨rows, hrows, hhead⟩
    obtain ⟨others, rfl⟩ := List.head?_eq_some_iff.mp hhead
    rw [rowsRead_eq_ok_cons_iff.mpr hrows]
    rfl

/-! ## The order of the requests -/

section Turns

variable (turns : Turns)

def session? : Option SessionInfo := turns[0]?.bind fun t => sessionIn? t.2

def sessionUser : Int := ((session? turns).map (·.uid)).getD 0

def profileRow? : Option ProfileRow := turns[1]?.bind fun t => rowIn? ProfileRow.ofJson? t.2

def membershipRow? : Option MembershipRow :=
  turns[2]?.bind fun t => rowIn? MembershipRow.ofJson? t.2

/-- The ids of the organizations in the third reply, in its order. -/
def organizationIds : List Int := ((membershipRow? turns).map (·.companyIds.ids)).getD []

end Turns

/-- Which requests a login makes, and after which replies. -/
structure Asks (s : Settings) (identifier : String) (secret : Secret String)
    (turns : Turns) (r : Except LoginError Outcome) : Prop where
  inOrder : turns.map (·.1) <+: [authenticateRequest s identifier secret,
    profileRequest s secret (sessionUser turns), membershipsRequest s secret (sessionUser turns),
    organizationsRequest s secret (sessionUser turns) (organizationIds turns)]
  authenticate : 1 ≤ turns.length
  profile : 2 ≤ turns.length ↔ (session? turns).isSome
  memberships : 3 ≤ turns.length ↔
    (session? turns).isSome ∧ (profileRow? turns).isSome ∧ s.syncOrganizations
  organizations : 4 ≤ turns.length ↔ ((session? turns).isSome ∧ (profileRow? turns).isSome ∧
    s.syncOrganizations) ∧ organizationIds turns ≠ []
  rejected : r = .ok .invalidCredentials → turns.length = 1

def callId? (r : Request) : Option Json := r.body.bind (·.member? "id")

theorem callId?_rpcRequest (url : String) (id : Int) (params : Json) :
    callId? (rpcRequest url id params) = some (.int id) := by
  rfl

section Login

variable {s : Settings} {identifier : String} {secret : Secret String} {turns : Turns}

theorem nodup_requests (uid : Int) (ids : List Int) : [authenticateRequest s identifier secret,
    profileRequest s secret uid, membershipsRequest s secret uid,
    organizationsRequest s secret uid ids].Nodup := by
  have hids : ([authenticateRequest s identifier secret, profileRequest s secret uid,
      membershipsRequest s secret uid,
      organizationsRequest s secret uid ids].map callId?).Nodup := by
    simp [authenticateRequest, profileRequest, membershipsRequest, organizationsRequest,
      searchRequest, callId?_rpcRequest, Json.int]
  exact List.Pairwise.of_map callId? (fun _ _ hne he => hne (congrArg callId? he)) hids

theorem sessionIn?_eq_none {d : Delivery} {r : Except LoginError (Option SessionInfo)}
    (h : sessionRead s d = r) (hr : ∀ session, r ≠ .ok (some session)) : sessionIn? d = none := by
  refine Option.eq_none_iff_forall_ne_some.mpr fun session hs => ?_
  exact hr session (h.symm.trans (sessionRead_eq_ok_some_iff.mpr hs))

theorem rowIn?_eq_none {α : Type} {d : Delivery} {step : Step} {row? : Json → Option α}
    {e e' : LoginError} (h : (rowsRead s d step row? >>= firstRow e) = .error e') :
    rowIn? row? d = none := by
  refine Option.eq_none_iff_forall_ne_some.mpr fun row hrow => ?_
  cases h.symm.trans (firstRow_eq_ok_iff.mpr hrow)

theorem asks_of_sessionIn?_eq_none {d : Delivery} (hs : sessionIn? d = none)
    (r : Except LoginError Outcome) :
    Asks s identifier secret [⟨authenticateRequest s identifier secret, d⟩] r := by
  constructor <;> simp [session?, hs]

theorem StandingPath.asks {d d' : Delivery} {session : SessionInfo} {profile : ProfileRow}
    {rest : Turns} {r : Except LoginError Standing} {outcome : Except LoginError Outcome}
    (h : StandingPath s session secret rest r)
    (hs : sessionIn? d = some session) (hp : rowIn? ProfileRow.ofJson? d' = some profile)
    (hr : outcome ≠ .ok .invalidCredentials) :
    Asks s identifier secret (⟨authenticateRequest s identifier secret, d⟩ ::
      ⟨profileRequest s secret session.uid, d'⟩ :: rest) outcome := by
  have hfirst (rest : Turns) :
      session? (⟨authenticateRequest s identifier secret, d⟩ :: rest) = some session := hs
  have hsecond (t : Turn fun _ : Request => Delivery) (rest : Turns) :
      profileRow? (t :: ⟨profileRequest s secret session.uid, d'⟩ :: rest) = some profile := hp
  cases h with
  | unsynchronized hsync =>
    constructor <;> simp [sessionUser, hfirst, hsecond, hsync, hr]
  | membershipFailed hsync he =>
    have hm := rowIn?_eq_none he
    constructor <;>
      simp [sessionUser, organizationIds, membershipRow?, hfirst, hsecond, hsync, hm, hr]
  | withoutOrganizations hsync hrow hids =>
    have hm := firstRow_eq_ok_iff.mp hrow
    constructor <;>
      simp [sessionUser, organizationIds, membershipRow?, hfirst, hsecond, hsync, hm, hids, hr]
  | organized hsync hrow hids =>
    have hm := firstRow_eq_ok_iff.mp hrow
    constructor <;>
      simp [sessionUser, organizationIds, membershipRow?, hfirst, hsecond, hsync, hm, hids, hr]

theorem LoginPath.asks {r : Except LoginError Outcome} (h : LoginPath s identifier secret turns r) :
    Asks s identifier secret turns r := by
  cases h with
  | failed he => exact asks_of_sessionIn?_eq_none (sessionIn?_eq_none he (by simp)) _
  | rejected hn => exact asks_of_sessionIn?_eq_none (sessionIn?_eq_none hn (by simp)) _
  | profileFailed hs he =>
    have hs := sessionRead_eq_ok_some_iff.mp hs
    have hp := rowIn?_eq_none he
    constructor <;> simp [sessionUser, session?, profileRow?, hs, hp]
  | @profiled _ _ _ _ _ standing hs hp hstanding =>
    refine hstanding.asks (sessionRead_eq_ok_some_iff.mp hs) (firstRow_eq_ok_iff.mp hp) ?_
    cases standing <;> simp [Except.map]

theorem Asks.nodup {r : Except LoginError Outcome} (h : Asks s identifier secret turns r) :
    (turns.map (·.1)).Nodup :=
  h.inOrder.sublist.nodup (nodup_requests _ _)

end Login

/-- Whatever the service answers, a login makes its requests in order and none twice, each if and
only if the replies before it call for it, and one alone where the credentials are rejected. -/
theorem login_asks {σ : Type} (s : Settings) (identifier : String) (secret : Secret String)
    (upstream : Request → σ → Delivery × σ) (w : σ) :
    let x := (login s identifier secret).run
    let turns := Program.turns upstream x w
    Asks s identifier secret turns (Program.run upstream x w).1 ∧ (turns.map (·.1)).Nodup :=
  have h := (loginPath_of_path (Program.path_run upstream _ w)).asks
  ⟨h, h.nodup⟩

end FederatedLogin.Odoo
