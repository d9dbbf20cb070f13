import FederatedLogin.Proofs.Server.Logins

/-! # What a login comes to

A login that fails leaves the store as it was, and one that is refused before Odoo is asked sends
nothing. A login that Odoo authenticates always succeeds: it adds one session, and a user if there
was none.
-/

namespace FederatedLogin

namespace Server

/-! ## Refusals -/

inductive Lacks (c : Config.OdooConfig) : Odoo.SettingsError → Prop where
  | baseUrl : c.baseUrl = none → Lacks c .missingBaseUrl
  | database : c.baseUrl ≠ none → c.database = none → Lacks c .missingDatabase

/-- Why a body is refused. The identifier is looked at before the secret. -/
inductive Refuses (body : Json.Bytes) : String → Prop where
  | malformed : LoginBody.ofBytes? body = none → Refuses body "malformed login body: "
  | noIdentifier {b : LoginBody} : LoginBody.ofBytes? body = some b →
      Text.isAllBlank b.identifier = true → Refuses body "identifier is required"
  | noSecret {b : LoginBody} : LoginBody.ofBytes? body = some b →
      Text.isAllBlank b.identifier = false → (∀ x, b.secret = some x → x.isBlank = true) →
      Refuses body "secret is required"

theorem ofConfig_eq_error_iff {c : Config.OdooConfig} {cause : Odoo.SettingsError} :
    Odoo.Settings.ofConfig c = .error cause ↔ Lacks c cause := by
  unfold Odoo.Settings.ofConfig
  constructor
  · intro h
    split at h
    next hu =>
      cases h
      exact .baseUrl hu
    next hu hd =>
      cases h
      exact .database (by simp [hu]) hd
    next => cases h
  · rintro (h | ⟨hu, hd⟩)
    · rw [h]
    · obtain ⟨url, hu⟩ := Option.ne_none_iff_exists'.mp hu
      rw [hu, hd]

theorem credentials_eq_error_iff {b : LoginBody} {f : Failure} :
    b.credentials = .error f ↔
      Text.isAllBlank b.identifier = true ∧ f = .invalidRequest "identifier is required" ∨
      Text.isAllBlank b.identifier = false ∧ (∀ x, b.secret = some x → x.isBlank = true) ∧
        f = .invalidRequest "secret is required" := by
  have hid : (Text.trim b.identifier).isEmpty = Text.isAllBlank b.identifier :=
    Bool.eq_iff_iff.mpr (String.isEmpty_iff.trans Text.trim_eq_empty_iff)
  unfold LoginBody.credentials
  dsimp only
  rw [hid]
  cases Text.isAllBlank b.identifier with
  | true => simp [eq_comm (a := f)]
  | false =>
    cases hs : b.secret with
    | none => simp [eq_comm (a := f)]
    | some x => cases hx : x.isBlank <;> simp [Option.filter, hx, eq_comm (a := f)]

theorem ofBytes_eq_error_iff {body : Json.Bytes} {f : Failure} :
    Credentials.ofBytes body = .error f ↔
      ∃ reason, f = .invalidRequest reason ∧ Refuses body reason := by
  unfold Credentials.ofBytes
  cases hb : LoginBody.ofBytes? body with
  | none =>
    constructor
    · intro h
      cases h
      exact ⟨_, rfl, .malformed hb⟩
    · rintro ⟨_, rfl, h⟩
      cases h with
      | malformed _ => rfl
      | noIdentifier hb' _ | noSecret hb' _ _ => cases hb.symm.trans hb'
  | some b =>
    dsimp only
    rw [credentials_eq_error_iff]
    constructor
    · rintro (⟨hi, rfl⟩ | ⟨hi, hs, rfl⟩)
      · exact ⟨_, rfl, .noIdentifier hb hi⟩
      · exact ⟨_, rfl, .noSecret hb hi hs⟩
    · rintro ⟨_, rfl, h⟩
      cases h with
      | malformed hb' => cases hb.symm.trans hb'
      | noIdentifier hb' hi =>
        cases hb.symm.trans hb'
        exact .inl ⟨hi, rfl⟩
      | noSecret hb' hi hs =>
        cases hb.symm.trans hb'
        exact .inr ⟨hi, hs, rfl⟩

/-- A request is refused for what the configuration lacks or else for what is wrong with its
body. -/
theorem accept_eq_error_iff {c : Config.OdooConfig} {body : Json.Bytes} {f : Failure} :
    accept (Odoo.Settings.ofConfig c) body = .error f ↔
      (∃ cause, f = .configuration cause ∧ Lacks c cause) ∨
      (∀ cause, ¬ Lacks c cause) ∧ ∃ reason, f = .invalidRequest reason ∧ Refuses body reason := by
  simp only [← ofConfig_eq_error_iff, ← ofBytes_eq_error_iff]
  unfold accept
  cases Odoo.Settings.ofConfig c with
  | error cause => simp [bind, Except.bind, Except.mapError, eq_comm]
  | ok settings =>
    cases Credentials.ofBytes body with
    | error f' => simp [bind, Except.bind, Except.mapError]
    | ok credentials => simp [bind, Except.bind, Except.mapError, pure, Except.pure]

/-! ## What a login comes to -/

/-- A login with an account at Odoo has turned one store into another. -/
structure LoggedIn (v : Visit) (account : Odoo.Account) (s : Store)
    (p : Provisioning.Provisioned) (t : Store) : Prop where
  users : t.users = s.users ++ if p.created then [p.user] else []
  created_iff : p.created = true ↔ s.userByEmail? (Odoo.syntheticEmail account.uid) = none
  found : t.userByEmail? (Odoo.syntheticEmail account.uid) = some p.user
  sessions : t.sessions = s.sessions ++ [p.session]
  owner : p.session.userId = p.user.id
  client : p.session.client = clientContext v.request.headers

/-- All that a login can come to. A login that is refused has asked for nothing. -/
inductive Concludes (app : App) (v : Visit) (s : Store) :
    Except Failure Provisioning.Provisioned → World v.upstream → Prop where
  | refused {f : Failure} : accept app.providers.odoo v.request.body = .error f →
      v.turns app s = [] → Concludes app v s (.error f) (v.world s)
  | unauthenticated {settings : Odoo.Settings} {c : Credentials} {f : Failure}
      {t : World v.upstream} : accept app.providers.odoo v.request.body = .ok (settings, c) →
      app.authenticated? v = none → f = .invalidCredentials ∨ (∃ cause, f = .odoo cause) →
      t.store.store = s → Concludes app v s (.error f) t
  | loggedIn {account : Odoo.Account} {p : Provisioning.Provisioned} {t : World v.upstream} :
      app.authenticated? v = some account → LoggedIn v account s p t.store.store →
      Concludes app v s (.ok p) t

section Outcome

variable {app : App} {v : Visit} {s : Store}

theorem exists_loggedIn {account : Odoo.Account} (h : app.authenticated? v = some account)
    (hfree : s.hasUsername v.spare.second = false) : ∃ p, (v.outcome app s).1 = .ok p ∧
      LoggedIn v account s p (v.outcome app s).2.store.store := by
  obtain ⟨i, hemail, hresult, hstore⟩ := outcome_of_authenticated (s := s) h
  obtain ⟨p, t, hrun, hsettled, -⟩ := Provisioning.provision_run v.source i
    (clientContext v.request.headers) v.spare s (hemail ▸ Odoo.syntheticEmail_ne_empty _)
    (Username.generated_ne_empty _) (Username.generated_ne_empty _) fun _ _ => hfree
  have hprovisioned : v.provisioned i s = (.ok p, t) := hrun
  obtain ⟨hsessions, howner, hclient⟩ := Provisioning.provision_session hrun
  rw [hresult, hstore, hprovisioned]
  exact ⟨p, rfl, {
    users := hsettled.users
    created_iff := hemail ▸ hsettled.created_iff
    found := hemail ▸ hsettled.found
    sessions := hsessions
    owner := howner
    client := hclient }⟩

theorem concludes_outcome (app : App) (v : Visit) (s : Store)
    (hfree : s.hasUsername v.spare.second = false) :
    Concludes app v s (v.outcome app s).1 (v.outcome app s).2 := by
  cases ha : accept app.providers.odoo v.request.body with
  | error f =>
    obtain ⟨houtcome, hturns⟩ := outcome_of_accept_error (s := s) ha
    rw [houtcome]
    exact .refused ha hturns
  | ok accepted =>
    cases hv : app.authenticated? v with
    | none =>
      obtain ⟨f, hf, hs, hkind⟩ := outcome_of_unauthenticated (s := s) ha hv
      rw [hf]
      exact .unauthenticated ha hv hkind hs
    | some account =>
      obtain ⟨p, hp, hlogged⟩ := exists_loggedIn hv hfree
      rw [hp]
      exact .loggedIn hv hlogged

theorem authenticated?_of_accept_error {f : Failure}
    (ha : accept app.providers.odoo v.request.body = .error f) : app.authenticated? v = none := by
  rw [App.authenticated?, ha]
  rfl

theorem Concludes.refused_iff {r : Except Failure Provisioning.Provisioned} {t : World v.upstream}
    (h : Concludes app v s r t) (f : Failure) (hcredentials : f ≠ .invalidCredentials)
    (hodoo : ∀ cause, f ≠ .odoo cause) :
    r = .error f ↔ accept app.providers.odoo v.request.body = .error f := by
  cases h with
  | refused ha _ => simp [ha]
  | unauthenticated ha _ hkind _ =>
    simp only [ha, reduceCtorEq, iff_false, Except.error.injEq]
    rintro rfl
    rcases hkind with rfl | ⟨cause, rfl⟩
    · exact hcredentials rfl
    · exact hodoo cause rfl
  | loggedIn hv _ =>
    refine iff_of_false nofun fun ha => ?_
    rw [authenticated?_of_accept_error ha] at hv
    cases hv

section Config

variable {c : Config.Resolved} {granted : Entitlements}
  {r : Except Failure Provisioning.Provisioned} {t : World v.upstream} {f : Failure}

theorem accept_ofConfig_eq_error_iff :
    accept (App.ofConfig c granted).providers.odoo v.request.body = .error f ↔
      (∃ cause, f = .configuration cause ∧ Lacks c.odoo cause) ∨
      (∀ cause, ¬ Lacks c.odoo cause) ∧
        ∃ reason, f = .invalidRequest reason ∧ Refuses v.request.body reason :=
  accept_eq_error_iff

theorem Concludes.configuration_iff (h : Concludes (App.ofConfig c granted) v s r t)
    {cause : Odoo.SettingsError} : r = .error (.configuration cause) ↔ Lacks c.odoo cause := by
  rw [h.refused_iff (.configuration cause) nofun nofun, accept_ofConfig_eq_error_iff]
  simp

theorem Concludes.invalidRequest_iff (h : Concludes (App.ofConfig c granted) v s r t)
    {reason : String} : r = .error (.invalidRequest reason) ↔
      (∀ cause, ¬ Lacks c.odoo cause) ∧ Refuses v.request.body reason := by
  rw [h.refused_iff (.invalidRequest reason) nofun nofun, accept_ofConfig_eq_error_iff]
  simp

theorem Concludes.unasked (h : Concludes (App.ofConfig c granted) v s r t)
    (hrefused : (∃ cause, Lacks c.odoo cause) ∨ ∃ reason, Refuses v.request.body reason) :
    v.turns (App.ofConfig c granted) s = [] ∧ t = v.world s := by
  have haccept : ∃ f,
      accept (App.ofConfig c granted).providers.odoo v.request.body = .error f := by
    simp only [accept_ofConfig_eq_error_iff]
    by_cases hlacks : ∃ cause, Lacks c.odoo cause
    · obtain ⟨cause, hlacks⟩ := hlacks
      exact ⟨_, .inl ⟨cause, rfl, hlacks⟩⟩
    · obtain ⟨reason, hreason⟩ := hrefused.resolve_left hlacks
      exact ⟨_, .inr ⟨not_exists.mp hlacks, reason, rfl, hreason⟩⟩
  obtain ⟨f, hf⟩ := haccept
  cases h with
  | refused _ hturns => exact ⟨hturns, rfl⟩
  | unauthenticated ha _ _ _ =>
    rw [hf] at ha
    cases ha
  | loggedIn hv _ =>
    rw [authenticated?_of_accept_error hf] at hv
    cases hv

/-- A login that fails leaves the store as it was, and never fails over the store. -/
theorem Concludes.failed (h : Concludes (App.ofConfig c granted) v s (.error f) t) :
    t.store.store = s ∧ ∀ cause, f ≠ .provisioning cause := by
  cases h with
  | refused ha _ =>
    refine ⟨rfl, ?_⟩
    rintro cause rfl
    simp [accept_ofConfig_eq_error_iff] at ha
  | unauthenticated _ _ hkind hs =>
    refine ⟨hs, ?_⟩
    rintro cause rfl
    simp at hkind

end Config

theorem Concludes.exists_ok_iff {r : Except Failure Provisioning.Provisioned} {t : World v.upstream}
    (h : Concludes app v s r t) :
    (∃ p, r = .ok p) ↔ ∃ account, app.authenticated? v = some account := by
  cases h with
  | refused ha _ => simp [authenticated?_of_accept_error ha]
  | unauthenticated _ hv _ _ => simp [hv]
  | loggedIn hv _ => simp [hv]

theorem Concludes.loggedIn_of_ok {p : Provisioning.Provisioned} {t : World v.upstream}
    (h : Concludes app v s (.ok p) t) :
    ∃ account, app.authenticated? v = some account ∧ LoggedIn v account s p t.store.store := by
  cases h with
  | loggedIn hv hlogged => exact ⟨_, hv, hlogged⟩

end Outcome

/-- Of a server that handles requests one after another, whoever answers those that it makes, a
login fails over its configuration or its body before anything is asked, a login that fails leaves
the store as it was, and one that Odoo authenticates succeeds, with one session to the user who has
been found or created. -/
theorem login_all_or_nothing (c : Config.Resolved) (granted : Entitlements) (start : Store)
    (before : List Visit) (v : Visit)
    (hvs : (App.ofConfig c granted).NamesAnew start (before ++ [v])) :
    let app := App.ofConfig c granted
    let s := app.after start before
    ∃ r t, v.outcome app s = (r, t) ∧
      (v.IsLogin → app.serve s v = (loginResponse app.session v.now r, t.store.store)) ∧
      (∀ cause, r = .error (.configuration cause) ↔ Lacks c.odoo cause) ∧
      (∀ reason, r = .error (.invalidRequest reason) ↔
        (∀ cause, ¬ Lacks c.odoo cause) ∧ Refuses v.request.body reason) ∧
      ((∃ cause, Lacks c.odoo cause) ∨ (∃ reason, Refuses v.request.body reason) →
        v.turns app s = [] ∧ t = v.world s) ∧
      (∀ f, r = .error f → t.store.store = s ∧ ∀ cause, f ≠ .provisioning cause) ∧
      ((∃ p, r = .ok p) ↔ ∃ account, app.authenticated? v = some account) ∧
      ∀ p, r = .ok p → ∃ account, app.authenticated? v = some account ∧
        LoggedIn v account s p t.store.store := by
  intro app s
  have hfree : s.hasUsername v.spare.second = false := (namesAnew_append.mp hvs).2.1
  have h := concludes_outcome app v s hfree
  refine ⟨(v.outcome app s).1, (v.outcome app s).2, rfl, fun hl => hl.serve_eq, ?_⟩
  generalize (v.outcome app s).1 = r at h ⊢
  generalize (v.outcome app s).2 = t at h ⊢
  refine ⟨fun cause => h.configuration_iff, fun reason => h.invalidRequest_iff,
    h.unasked, ?_, h.exists_ok_iff, ?_⟩
  · rintro f rfl
    exact h.failed
  · rintro p rfl
    exact h.loggedIn_of_ok

def sampleConfig : Config.Resolved where
  http := ⟨"0.0.0.0", 8080⟩
  logging := ⟨"info"⟩
  odoo := ⟨some "https://[::1]:8069", some "prod", "/jsonrpc", 8000, false⟩
  oidc := ⟨false, none, none, none, none⟩
  session := sampleApp.session

/-- A person who logs in again gets a second session, and is the user of before. -/
theorem second_login_adds_session :
    let app := App.ofConfig sampleConfig fun _ => false
    let first := sampleVisit "42" "bob" 0
    let again := sampleVisit "42" "robert" 1
    app.NamesAnew .empty [first, again] ∧ ∃ p t,
      again.outcome app (app.after .empty [first]) = (.ok p, t) ∧ p.created = false ∧
        p.session.userId = p.user.id ∧ t.store.store.users.length = 1 ∧
        t.store.store.sessions.length = 2 := by
  intro app first again
  have hvs : app.NamesAnew .empty ([first] ++ [again]) := by decide +kernel
  obtain ⟨r, t, houtcome, -, -, -, -, -, hok, hlogged⟩ :=
    login_all_or_nothing sampleConfig (fun _ => false) .empty [first] again hvs
  have hv : app.authenticated? again = some ⟨42, "robert", "", none, false, false, []⟩ := by
    decide +kernel
  have hbefore : (app.after .empty [first]).users.length = 1 ∧
      (app.after .empty [first]).sessions.length = 1 ∧
      (app.after .empty [first]).userByEmail? (Odoo.syntheticEmail 42) ≠ none := by
    decide +kernel
  obtain ⟨p, rfl⟩ := hok.mpr ⟨_, hv⟩
  obtain ⟨account, haccount, h⟩ := hlogged p rfl
  cases hv.symm.trans haccount
  have hcreated : p.created = false := Bool.eq_false_iff.mpr (mt h.created_iff.mp hbefore.2.2)
  refine ⟨hvs, p, t, houtcome, hcreated, h.owner, ?_, ?_⟩
  · rw [h.users, hcreated]
    simpa using hbefore.1
  · rw [h.sessions, List.length_append, hbefore.2.1]
    rfl

end Server

end FederatedLogin
