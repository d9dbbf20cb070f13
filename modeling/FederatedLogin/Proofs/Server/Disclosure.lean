import FederatedLogin.Proofs.Odoo.Outcome
import FederatedLogin.Proofs.Provisioning.Conduct
import FederatedLogin.Proofs.Server.Secrecy

/-! # What a failed login discloses

Failures have kinds, and the kind of a failure is all that the client is told of it. What Odoo and
the store have said stays behind: two failures of one kind are answered alike, at whatever servers,
and whatever has been received there.
-/

namespace FederatedLogin

open Program (Path Turn path_done_iff path_bind_done_iff path_run)

/-! ## Kinds of failures -/

inductive StoreError.Kind where
  | conflict
  | notFound
  | invalid
  | unavailable
  deriving DecidableEq

namespace StoreError

def kind : StoreError → Kind
  | .conflict _ => .conflict
  | .notFound _ => .notFound
  | .invalid _ => .invalid
  | .unavailable _ => .unavailable

/-- The error of a kind that says nothing. -/
def Kind.bare : Kind → StoreError
  | .conflict => .conflict ""
  | .notFound => .notFound ""
  | .invalid => .invalid ""
  | .unavailable => .unavailable ""

end StoreError

namespace Server

/-- The kinds of failures of a login whose request is in order. -/
inductive Failure.Kind where
  | rejected
  | identity
  | transport (step : Odoo.Step)
  | protocol (step : Odoo.Step)
  | userNotFound (uid : Int)
  | store (kind : StoreError.Kind)
  deriving DecidableEq

namespace Failure

/-- The kind of a failure, other than one over the request or the configuration. -/
def kind? : Failure → Option Kind
  | .invalidRequest _ | .configuration _ => none
  | .invalidCredentials => some .rejected
  | .identity _ => some .identity
  | .odoo (.transport step _) => some (.transport step)
  | .odoo (.protocol step _) => some (.protocol step)
  | .odoo (.userNotFound uid) => some (.userNotFound uid)
  | .provisioning cause => some (.store cause.cause.kind)

namespace Kind

def status : Kind → Http.Status
  | .rejected | .identity | .userNotFound _ => 401
  | .transport _ | .protocol _ => 502
  | .store .conflict => 409
  | .store .notFound => 404
  | .store .invalid => 400
  | .store .unavailable => 503

/-- The failure of a kind in which nobody has said anything. -/
def bare : Kind → Failure
  | .rejected => .invalidCredentials
  | .identity => .identity .missingIdentity
  | .transport step => .odoo (.transport step (.transport "" false))
  | .protocol step => .odoo (.protocol step "")
  | .userNotFound uid => .odoo (.userNotFound uid)
  | .store kind => .provisioning ⟨.findUser, kind.bare⟩

theorem kind?_bare (k : Kind) : k.bare.kind? = some k := by
  cases k with
  | store kind => cases kind <;> rfl
  | rejected | identity | transport | protocol | userNotFound => rfl

theorem status_bare (k : Kind) : k.bare.status = k.status := by
  cases k with
  | store kind => cases kind <;> rfl
  | rejected | identity | transport | protocol | userNotFound => rfl

end Kind

/-- The client is told what it would be told if nobody had said anything. -/
theorem response_eq_bare {f : Failure} {k : Kind} (h : f.kind? = some k) :
    f.response = k.bare.response := by
  cases f with
  | invalidRequest | configuration => cases h
  | invalidCredentials | identity =>
    cases h
    rfl
  | odoo cause =>
    cases cause <;> cases h <;> rfl
  | provisioning cause =>
    obtain ⟨operation, cause⟩ := cause
    cases cause <;> cases h <;> rfl

end Failure

/-! ## What the turns show -/

/-- What the turns of a failed login show of the kind of its failure: how a reply of Odoo was read,
or that an answer of the store was fatal. An account that Odoo authenticates has an identity. -/
def Shows (s : Odoo.Settings) (turns : List (Turn Call.Answer)) : Failure.Kind → Prop
  | .rejected =>
      ∃ reply, Odoo.HasRead s (exchanges turns) .authenticate (.ok reply) ∧ Odoo.Rejects reply
  | .identity => False
  | .transport step => ∃ cause, Odoo.HasRead s (exchanges turns) step (.error cause)
  | .protocol step => ∃ reason reply, Odoo.HasRead s (exchanges turns) step (.ok reply) ∧
      Odoo.Complains (Odoo.sessionUser (exchanges turns)) step reply reason
  | .userNotFound uid =>
      (∃ session, Odoo.session? (exchanges turns) = some session ∧ session.uid = uid) ∧
      ∃ reply, Odoo.HasRead s (exchanges turns) .fetchProfile (.ok reply) ∧
        Odoo.LacksProfile reply
  | .store kind => ∃ early t f, uses turns = early ++ [t] ∧
      Provisioning.Fatal early t f ∧ f.cause.kind = kind

section Shows

variable {s : Odoo.Settings} {c : Credentials} {client : ClientContext}
  {spare : Provisioning.SpareNames} {turns : List (Turn Call.Answer)} {f : Failure}
  {k : Failure.Kind}

theorem path_logIn_done {r : Except Failure Provisioning.Provisioned}
    (h : Path (logIn s c client spare) turns (.done r)) : ∃ outcome,
      Odoo.LoginPath s c.identifier c.secret (exchanges turns) outcome ∧
      Path (provisionOutcome c.identifier client spare outcome) (uses turns) (.done r) := by
  rw [logIn_eq] at h
  obtain ⟨first, outcome, rest, rfl, hfirst, hrest⟩ := path_bind_done_iff.mp h
  obtain ⟨exchanged, rfl, hexchanged⟩ := path_ofExchange_done_iff.mp hfirst
  obtain ⟨used, rfl, hused⟩ := path_ofUse_done_iff.mp hrest
  rw [exchanges_append, uses_append]
  exact ⟨outcome, Odoo.loginPath_of_path hexchanged, hused⟩

def failureOf? : Except Odoo.LoginError Odoo.Outcome → Option Failure
  | .error cause => some (.odoo cause)
  | .ok .invalidCredentials => some .invalidCredentials
  | .ok (.authenticated _) => none

theorem exists_kind_of_failureOf? {outcome : Except Odoo.LoginError Odoo.Outcome}
    (h : failureOf? outcome = some f) :
    ∃ k, f.kind? = some k ∧ ∀ kind, k ≠ .store kind := by
  match outcome with
  | .error (.transport step _) =>
    cases h
    exact ⟨.transport step, rfl, nofun⟩
  | .error (.protocol step _) =>
    cases h
    exact ⟨.protocol step, rfl, nofun⟩
  | .error (.userNotFound uid) =>
    cases h
    exact ⟨.userNotFound uid, rfl, nofun⟩
  | .ok .invalidCredentials =>
    cases h
    exact ⟨.rejected, rfl, nofun⟩

theorem shows_iff_of_ends {outcome : Except Odoo.LoginError Odoo.Outcome}
    (hends : Odoo.Ends s (exchanges turns) outcome) (hk : ∀ kind, k ≠ .store kind) :
    Shows s turns k ↔ (failureOf? outcome).bind Failure.kind? = some k := by
  cases k with
  | store kind => exact absurd rfl (hk kind)
  | identity =>
    rcases outcome with (_ | _ | _) | (_ | _) <;> simp [Shows, failureOf?, Failure.kind?]
  | rejected =>
    simp only [Shows, ← hends.rejected]
    rcases outcome with (_ | _ | _) | (_ | _) <;> simp [failureOf?, Failure.kind?]
  | transport step =>
    simp only [Shows, ← hends.transport]
    rcases outcome with (_ | _ | _) | (_ | _) <;> simp [failureOf?, Failure.kind?]
  | protocol step =>
    simp only [Shows, ← hends.protocol]
    rcases outcome with (_ | _ | _) | (_ | _) <;> simp [failureOf?, Failure.kind?]
  | userNotFound uid =>
    simp only [Shows, ← hends.userNotFound]
    rcases outcome with (_ | _ | _) | (_ | _) <;> simp [failureOf?, Failure.kind?]

theorem shows_store_iff {i : Identity} {found : Except Provisioning.Failure (User × Bool)}
    {g : Provisioning.Failure} {kind : StoreError.Kind}
    (h : Provisioning.Conduct i client spare found (uses turns) (.error g)) :
    Shows s turns (.store kind) ↔ g.cause.kind = kind := by
  constructor
  · rintro ⟨early, t, f, hturns, hf, rfl⟩
    obtain ⟨he, -⟩ := h.stops early t [] f hturns hf
    cases he
    rfl
  · rintro rfl
    obtain ⟨early, t, hturns, hf⟩ := h.fails g rfl
    exact ⟨early, t, g, hturns, hf, rfl⟩

/-- A login fails with Odoo's failure, and the store is left alone, or else over the store. -/
theorem failure_cases {outcome : Except Odoo.LoginError Odoo.Outcome} {exchanged : Odoo.Turns}
    {used : List (Turn Store.Call.Answer)}
    (hlogin : Odoo.LoginPath s c.identifier c.secret exchanged outcome)
    (h : Path (provisionOutcome c.identifier client spare outcome) used (.done (.error f))) :
    failureOf? outcome = some f ∧ used = [] ∨
      failureOf? outcome = none ∧ ∃ g i, f = .provisioning g ∧
        Path (Provisioning.provision i client spare) used (.done (.error g)) := by
  match outcome with
  | .error cause =>
    obtain ⟨rfl, he⟩ := path_done_iff.mp h
    cases he
    exact .inl ⟨rfl, rfl⟩
  | .ok .invalidCredentials =>
    obtain ⟨rfl, he⟩ := path_done_iff.mp h
    cases he
    exact .inl ⟨rfl, rfl⟩
  | .ok (.authenticated account) =>
    obtain ⟨i, hi, -⟩ := account.identity_of_pos hlogin.uid_pos c.identifier
    have hidentity : identityOf c.identifier (.ok (.authenticated account)) = .ok i := by
      rw [identityOf, hi]
      rfl
    unfold provisionOutcome at h
    rw [hidentity] at h
    obtain ⟨_, result, _, rfl, hprovision, hdone⟩ := path_bind_done_iff.mp h
    obtain ⟨rfl, he⟩ := path_done_iff.mp hdone
    rw [List.append_nil]
    cases result with
    | ok p => cases he
    | error g =>
      cases he
      exact .inr ⟨rfl, g, i, rfl, hprovision⟩

/-- A login whose request is in order fails in the kind that its turns show. -/
theorem kind?_iff_shows (h : Path (logIn s c client spare) turns (.done (.error f))) :
    (∃ k, f.kind? = some k) ∧ ∀ k, Shows s turns k ↔ f.kind? = some k := by
  obtain ⟨outcome, hlogin, hrest⟩ := path_logIn_done h
  -- the exchanges decide every kind but those of the store, which its uses decide
  have hodoo : ∀ {k}, (¬ ∃ kind, k = .store kind) →
      (Shows s turns k ↔ (failureOf? outcome).bind Failure.kind? = some k) := fun hk =>
    shows_iff_of_ends hlogin.ends (not_exists.mp hk)
  rcases failure_cases hlogin hrest with ⟨hf, hunused⟩ | ⟨hnone, g, i, rfl, hprovision⟩
  · obtain ⟨k₀, hk₀, hne⟩ := exists_kind_of_failureOf? hf
    refine ⟨⟨k₀, hk₀⟩, fun k => ?_⟩
    by_cases hk : ∃ kind, k = .store kind
    · obtain ⟨kind, rfl⟩ := hk
      refine iff_of_false ?_ fun he => hne kind (Option.some.inj (hk₀.symm.trans he))
      rintro ⟨early, t, _, hturns, -⟩
      exact List.append_ne_nil_of_right_ne_nil early (List.cons_ne_nil t [])
        (hturns.symm.trans hunused)
    · rw [hodoo hk, hf, Option.bind_some]
  · obtain ⟨found, hconduct⟩ := Provisioning.exists_conduct hprovision
    refine ⟨⟨_, rfl⟩, fun k => ?_⟩
    by_cases hk : ∃ kind, k = .store kind
    · obtain ⟨kind, rfl⟩ := hk
      rw [shows_store_iff hconduct, Failure.kind?, Option.some_inj, Failure.Kind.store.injEq]
    · rw [hodoo hk, hnone]
      exact iff_of_false nofun fun he => hk ⟨_, (Option.some.inj he).symm⟩

end Shows

/-! ## Two failures -/

structure IsLoginWith (r : Request) (c : Credentials) : Prop where
  target : Route.ofTarget? r.target = some .odooLogin
  method : r.method = "POST"
  size : r.body.length ≤ App.maxBodySize
  credentials : Credentials.ofBytes r.body = .ok c

/-- The circumstances in which a server that has Odoo to ask answers a request. Whoever answers its
calls may answer anything. -/
structure Circumstances where
  app : App
  settings : Odoo.Settings
  configured : app.providers.odoo = .ok settings
  State : Type
  answer : (c : Call) → State → c.Answer × State
  start : State
  spare : Provisioning.SpareNames
  now : Instant

namespace Circumstances

variable (x : Circumstances) (r : Request)

def outcome : Except Failure Provisioning.Provisioned :=
  (Program.run x.answer (x.app.attempt r x.spare) x.start).1

def response : Response := (Program.run x.answer (x.app.handle r x.spare x.now) x.start).1

def turns : List (Turn Call.Answer) :=
  Program.turns x.answer (x.app.handle r x.spare x.now) x.start

end Circumstances

/-- A login fails in the way of a kind, which is seen from its turns, and the client is told of
nothing else. -/
structure FailsAs (x : Circumstances) (r : Request) (f : Failure) (k : Failure.Kind) : Prop where
  kind : f.kind? = some k
  shown : ∀ k', Shows x.settings (x.turns r) k' ↔ k' = k
  response : x.response r = k.bare.response
  status : (x.response r).status = k.status

section Circumstances

variable {x : Circumstances} {r : Request} {c : Credentials} {f : Failure}

theorem IsLoginWith.attempt_eq (hr : IsLoginWith r c) :
    x.app.attempt r x.spare = logIn x.settings c (clientContext r.headers) x.spare := by
  rw [App.attempt, accept, x.configured, hr.credentials]
  rfl

theorem IsLoginWith.handle_eq (hr : IsLoginWith r c) : x.app.handle r x.spare x.now =
    x.app.attempt r x.spare >>= fun result => return loginResponse x.app.session x.now result :=
  App.handle_eq hr.target hr.method hr.size

theorem IsLoginWith.response_eq (hr : IsLoginWith r c) (hf : x.outcome r = .error f) :
    x.response r = f.response := by
  rw [Circumstances.response, hr.handle_eq, Program.bind_eq, Program.run_bind]
  change loginResponse x.app.session x.now (x.outcome r) = _
  rw [hf]
  rfl

theorem IsLoginWith.path_logIn (hr : IsLoginWith r c) (hf : x.outcome r = .error f) :
    Path (logIn x.settings c (clientContext r.headers) x.spare) (x.turns r) (.done (.error f)) := by
  have hturns : x.turns r = Program.turns x.answer (x.app.attempt r x.spare) x.start := by
    rw [Circumstances.turns, hr.handle_eq, Program.bind_eq, Program.turns_bind]
    exact List.append_nil _
  rw [hturns, ← hf, ← hr.attempt_eq]
  exact path_run x.answer _ x.start

theorem IsLoginWith.exists_failsAs (hr : IsLoginWith r c) (hf : x.outcome r = .error f) :
    ∃ k, FailsAs x r f k := by
  obtain ⟨⟨k, hk⟩, hshows⟩ := kind?_iff_shows (hr.path_logIn hf)
  have hresponse := hr.response_eq hf
  refine ⟨k, hk, fun k' => ?_, ?_, ?_⟩
  · rw [hshows, hk, Option.some_inj, eq_comm]
  · rw [hresponse, Failure.response_eq_bare hk]
  · rw [hresponse, Failure.response_eq_bare hk]
    exact k.status_bare

end Circumstances

/-- The response to a failure is given by its kind, and its status is the one of the kind. So it is
for the failures of logins by one request, in whatever circumstances, the addresses of Odoo and all
that Odoo and the stores have said included: every such failure has a kind, the one that its turns
show, and two of one kind are answered alike. -/
theorem failures_answered_by_kind {r : Request} {c : Credentials} (hr : IsLoginWith r c) :
    (∀ (x : Circumstances) (f : Failure), x.outcome r = .error f → ∃ k, FailsAs x r f k) ∧
    (∀ (x y : Circumstances) (f g : Failure), x.outcome r = .error f → y.outcome r = .error g →
      f.kind? = g.kind? → y.response r = x.response r) ∧
    ∀ k : Failure.Kind, k.bare.kind? = some k ∧ k.bare.response.status = k.status ∧
      ∀ f : Failure, f.kind? = some k → f.response = k.bare.response := by
  refine ⟨fun x f => hr.exists_failsAs, ?_, fun k => ?_⟩
  · intro x y f g hf hg hkind
    obtain ⟨k, hk⟩ := hr.exists_failsAs hf
    obtain ⟨k', hk'⟩ := hr.exists_failsAs hg
    obtain rfl : k = k' := Option.some.inj (hk.kind.symm.trans (hkind.trans hk'.kind))
    rw [hk.response, hk'.response]
  · exact ⟨k.kind?_bare, k.status_bare, fun f => Failure.response_eq_bare⟩

/-- The circumstances of Bob's login at a server that asks Odoo at an address, where the replies and
the faults of an empty store are given. -/
def sampleCircumstances (address : String) (script : List Http.Reply) (faults : Store.Faults) :
    Circumstances where
  app := { sampleApp with
    providers := ⟨.ok ⟨address, "prod", "/jsonrpc", 8000, false⟩, none⟩ }
  settings := ⟨address, "prod", "/jsonrpc", 8000, false⟩
  configured := rfl
  State := World .scripted
  answer := World.answer
  start := ⟨(⟨true, script, []⟩ : Http.Peer), ⟨.empty, faults, [], lengthening.fresh⟩⟩
  spare := ⟨Username.generated 0, Username.generated 1⟩
  now := ⟨0⟩

def failureIn? {α : Type} : Except Failure α → Option (Option Failure.Kind × String)
  | .error f => some (f.kind?, f.message)
  | .ok _ => none

theorem exists_of_failureIn? {α : Type} {result : Except Failure α} {k : Option Failure.Kind}
    {message : String} (h : failureIn? result = some (k, message)) :
    ∃ f, result = .error f ∧ f.kind? = k ∧ f.message = message := by
  match result with
  | .error f =>
    cases h
    exact ⟨f, rfl, rfl, rfl⟩

/-- A locked database and a refusal are answered alike at two servers, and so are a store that finds
no users and one that issues no sessions. -/
theorem outages_answered_alike :
    let r := (sampleVisit "42" "bob" 0).request
    let session := sampleVisit.answer "\x7b\"uid\":42\x7d"
    let profile := sampleVisit.answer "[\x7b\"login\":\"bob\"\x7d]"
    let locked : Http.Reply := .respond 200
      "\x7b\"error\":\x7b\"code\":200,\"message\":\"db prod is locked\"\x7d\x7d".toUTF8.toList
    let x := sampleCircumstances "http://[::1]:8069" [session, locked] []
    let y := sampleCircumstances "http://[::2]:8070" [session, .respond 403 []] []
    let x' := sampleCircumstances "http://[::1]:8069" [session, profile]
      [(.findUserByEmail, .fail (.unavailable "pool exhausted on db-3"))]
    let y' := sampleCircumstances "http://[::2]:8070" [session, profile]
      [(.issueSession, .fail (.unavailable "db-4 is gone"))]
    IsLoginWith r ⟨"bob", ⟨"secret"⟩⟩ ∧
    (∃ f g, x.outcome r = .error f ∧ y.outcome r = .error g ∧
      f.message = "odoo fetch_profile failed: db prod is locked" ∧
      g.message = "odoo fetch_profile failed: HTTP 403 Forbidden" ∧
      y.response r = x.response r ∧ (x.response r).status = 502) ∧
    ∃ f g, x'.outcome r = .error f ∧ y'.outcome r = .error g ∧
      f.message = "find user failed: store unavailable: pool exhausted on db-3" ∧
      g.message = "issue session failed: store unavailable: db-4 is gone" ∧
      y'.response r = x'.response r ∧ (x'.response r).status = 503 := by
  intro r session profile locked x y x' y'
  have hread : (Credentials.ofBytes r.body).toOption.map (fun c => (c.identifier, c.secret)) =
      some ("bob", ⟨"secret"⟩) := by
    decide +kernel
  have hcredentials : Credentials.ofBytes r.body = .ok ⟨"bob", ⟨"secret"⟩⟩ := by
    obtain ⟨⟨identifier, secret⟩, hc, he⟩ := Option.map_eq_some_iff.mp hread
    cases he
    exact Program.toOption_eq_some_iff.mp hc
  have hr : IsLoginWith r ⟨"bob", ⟨"secret"⟩⟩ :=
    ⟨by decide +kernel, rfl, by decide +kernel, hcredentials⟩
  obtain ⟨hfails, halike, -⟩ := failures_answered_by_kind hr
  have hpair : ∀ {x y : Circumstances} {k : Failure.Kind} {message message' : String},
      failureIn? (x.outcome r) = some (some k, message) →
      failureIn? (y.outcome r) = some (some k, message') →
      ∃ f g, x.outcome r = .error f ∧ y.outcome r = .error g ∧ f.message = message ∧
        g.message = message' ∧ y.response r = x.response r ∧ (x.response r).status = k.status := by
    intro x y k message message' hx hy
    obtain ⟨f, hf, hkind, hmessage⟩ := exists_of_failureIn? hx
    obtain ⟨g, hg, hkind', hmessage'⟩ := exists_of_failureIn? hy
    obtain ⟨k', hk⟩ := hfails x f hf
    cases hkind.symm.trans hk.kind
    exact ⟨f, g, hf, hg, hmessage, hmessage', halike x y f g hf hg (hkind.trans hkind'.symm),
      hk.status⟩
  have hx : failureIn? (x.outcome r) = some (some (.protocol .fetchProfile),
      "odoo fetch_profile failed: db prod is locked") := by
    decide +kernel
  have hy : failureIn? (y.outcome r) = some (some (.protocol .fetchProfile),
      "odoo fetch_profile failed: HTTP 403 Forbidden") := by
    decide +kernel
  have hx' : failureIn? (x'.outcome r) = some (some (.store .unavailable),
      "find user failed: store unavailable: pool exhausted on db-3") := by
    decide +kernel
  have hy' : failureIn? (y'.outcome r) = some (some (.store .unavailable),
      "issue session failed: store unavailable: db-4 is gone") := by
    decide +kernel
  exact ⟨hr, hpair hx hy, hpair hx' hy'⟩

end Server

end FederatedLogin
