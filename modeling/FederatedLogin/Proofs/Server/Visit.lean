import FederatedLogin.Proofs.Odoo.Identity
import FederatedLogin.Proofs.Provisioning.Sequential
import FederatedLogin.Proofs.Server.Action
import FederatedLogin.Proofs.Store.Watched
import FederatedLogin.Server.Router

/-! # Visits

A request that is answered while nothing else happens, whoever answers the requests to Odoo. A
login that gets as far as an account is provisioned under the email that belongs to the id at Odoo,
and any other visit leaves the store as it was.
-/

namespace FederatedLogin.Server

/-- A request that comes to the server, with whoever answers the requests that are made for it, and
what is made anew. The serials are those of the usernames generated for it. -/
structure Visit where
  request : Request
  upstream : Http.Upstream
  peer : upstream.State
  source : Store.Source
  firstSerial : Nat
  secondSerial : Nat
  now : Instant

namespace Visit

def spare (v : Visit) : Provisioning.SpareNames :=
  ⟨Username.generated v.firstSerial, Username.generated v.secondSerial⟩

/-- The world at the time of a visit. The store has no faults. -/
def world (v : Visit) (s : Store) : World v.upstream := ⟨v.peer, ⟨s, [], [], v.source.fresh⟩⟩

/-- A login request that is not too large to be read. -/
structure IsLogin (v : Visit) : Prop where
  target : Route.ofTarget? v.request.target = some .odooLogin
  method : v.request.method = "POST"
  size : v.request.body.length ≤ App.maxBodySize

instance (v : Visit) : Decidable v.IsLogin :=
  decidable_of_iff (Route.ofTarget? v.request.target = some .odooLogin ∧ v.request.method = "POST" ∧
      v.request.body.length ≤ App.maxBodySize)
    ⟨fun ⟨ht, hm, hs⟩ => ⟨ht, hm, hs⟩, fun h => ⟨h.target, h.method, h.size⟩⟩

end Visit

def accountIn? : Except Odoo.LoginError Odoo.Outcome → Option Odoo.Account
  | .ok (.authenticated account) => some account
  | .ok .invalidCredentials | .error _ => none

def Visit.provisioned (v : Visit) (i : Identity) (s : Store) :
    Except Provisioning.Failure Provisioning.Provisioned × Store :=
  (Provisioning.provision i (clientContext v.request.headers) v.spare).run v.source.answer s

/-- The part of a login before its response. -/
def App.attempt (app : App) (r : Request) (spare : Provisioning.SpareNames) :
    Action (Except Failure Provisioning.Provisioned) :=
  match accept app.providers.odoo r.body with
  | .error f => return .error f
  | .ok (settings, c) => logIn settings c (clientContext r.headers) spare

/-- What a login comes to in a visit, and the world that it leaves. -/
def Visit.outcome (app : App) (v : Visit) (s : Store) :
    Except Failure Provisioning.Provisioned × World v.upstream :=
  (app.attempt v.request v.spare).run (v.world s)

def Visit.turns (app : App) (v : Visit) (s : Store) : List (Program.Turn Call.Answer) :=
  (app.attempt v.request v.spare).turns (v.world s)

namespace App

variable (app : App)

def serve (s : Store) (v : Visit) : Response × Store :=
  let (response, after) := (app.handle v.request v.spare v.now).run (v.world s)
  (response, after.store.store)

/-- The account that Odoo authenticates, where a login gets that far. -/
def authenticated? (v : Visit) : Option Odoo.Account :=
  (accept app.providers.odoo v.request.body).toOption.bind fun (settings, c) =>
    accountIn? (v.upstream.run (Odoo.login settings c.identifier c.secret).run v.peer).1

/-- The account of the person whom Odoo authenticates in a visit, if all that is fetched about the
person is. -/
def account? (v : Visit) : Option Odoo.Account :=
  if v.IsLogin then app.authenticated? v else none

end App

/-! ## One visit -/

section Visit

variable {app : App} {s : Store} {v : Visit} {account : Odoo.Account}

theorem accountIn?_eq_some_iff {r : Except Odoo.LoginError Odoo.Outcome} :
    accountIn? r = some account ↔ r = .ok (.authenticated account) := by
  match r with
  | .ok (.authenticated _) => simp [accountIn?]
  | .ok .invalidCredentials => exact iff_of_false nofun nofun
  | .error _ => exact iff_of_false nofun nofun

theorem authenticated?_eq_some_iff : app.authenticated? v = some account ↔ ∃ settings c,
    accept app.providers.odoo v.request.body = .ok (settings, c) ∧
    (v.upstream.run (Odoo.login settings c.identifier c.secret).run v.peer).1 =
      .ok (.authenticated account) := by
  rw [App.authenticated?, Option.bind_eq_some_iff]
  constructor
  · rintro ⟨⟨settings, c⟩, ha, hlogin⟩
    exact ⟨settings, c, Program.toOption_eq_some_iff.mp ha, accountIn?_eq_some_iff.mp hlogin⟩
  · rintro ⟨settings, c, ha, hlogin⟩
    exact ⟨(settings, c), by rw [ha]; rfl, accountIn?_eq_some_iff.mpr hlogin⟩

theorem account?_eq_some_iff :
    app.account? v = some account ↔ v.IsLogin ∧ app.authenticated? v = some account :=
  Option.ite_none_right_eq_some

theorem uid_pos_of_login {settings : Odoo.Settings} {c : Credentials} {u : Http.Upstream}
    {peer : u.State} (h : (u.run (Odoo.login settings c.identifier c.secret).run peer).1 =
      .ok (.authenticated account)) : 0 < account.uid := by
  have hpath := Program.path_run u.answer (Odoo.login settings c.identifier c.secret).run peer
  rw [Http.Upstream.run] at h
  rw [h] at hpath
  exact (Odoo.loginPath_of_path hpath).uid_pos

section Answers

variable {r : Request} {spare : Provisioning.SpareNames} {now : Instant}

theorem App.login_eq (hsize : r.body.length ≤ App.maxBodySize) :
    app.login r spare now =
      app.attempt r spare >>= fun result => return loginResponse app.session now result := by
  rw [App.login, if_neg (Nat.not_lt.mpr hsize), App.attempt]
  cases accept app.providers.odoo r.body <;> rfl

theorem App.handle_eq (htarget : Route.ofTarget? r.target = some .odooLogin)
    (hmethod : r.method = "POST") (hsize : r.body.length ≤ App.maxBodySize) :
    app.handle r spare now =
      app.attempt r spare >>= fun result => return loginResponse app.session now result := by
  have hhead : (r.method == "HEAD") = false := by rw [hmethod]; rfl
  have hmethods : (!Route.odooLogin.methods.contains r.method) = false := by
    rw [hmethod]
    rfl
  rw [App.handle, htarget]
  simp only [hmethods, hhead, Bool.false_eq_true, if_false, bind_pure, App.login_eq hsize]

end Answers

theorem Visit.IsLogin.handle_eq (h : v.IsLogin) : app.handle v.request v.spare v.now =
    app.attempt v.request v.spare >>= fun result =>
      return loginResponse app.session v.now result :=
  App.handle_eq h.target h.method h.size

/-- A request of another kind asks nothing of anybody. -/
theorem handle_eq_done (h : ¬ v.IsLogin) : ∃ r, app.handle v.request v.spare v.now = .done r := by
  unfold App.handle
  split
  next => exact ⟨_, rfl⟩
  next route hr =>
    split
    next => exact ⟨_, rfl⟩
    next hm =>
      cases route with
      | health => exact ⟨_, rfl⟩
      | providers => exact ⟨_, rfl⟩
      | odooLogin =>
        have hsize : v.request.body.length > App.maxBodySize := by
          refine Nat.lt_of_not_le fun hs => h ⟨hr, ?_, hs⟩
          simpa [Route.methods] using hm
        have hlogin : app.login v.request v.spare v.now = .done App.bodyTooLarge := if_pos hsize
        dsimp only
        rw [hlogin]
        exact ⟨_, rfl⟩

theorem Visit.run_provision (v : Visit) (i : Identity) (s : Store) (peer : v.upstream.State) :
    ∃ t, (Action.ofUse (Provisioning.provision i (clientContext v.request.headers) v.spare)).run
      ⟨peer, ⟨s, [], [], v.source.fresh⟩⟩ = ((v.provisioned i s).1, t) ∧
      t.store.store = (v.provisioned i s).2 := by
  obtain ⟨hr, ht⟩ := Store.Watched.run_of_no_faults (w := ⟨s, [], [], v.source.fresh⟩)
    (Provisioning.provision i (clientContext v.request.headers) v.spare) rfl rfl
  rw [run_ofUse]
  exact ⟨_, Prod.ext hr rfl, ht⟩

theorem Visit.IsLogin.serve_eq (h : v.IsLogin) : app.serve s v =
    (loginResponse app.session v.now (v.outcome app s).1, (v.outcome app s).2.store.store) := by
  rw [App.serve, h.handle_eq, run_actionBind]
  rfl

section Login

variable {settings : Odoo.Settings} {c : Credentials}

theorem outcome_of_accept_error {f : Failure}
    (ha : accept app.providers.odoo v.request.body = .error f) :
    v.outcome app s = (.error f, v.world s) ∧ v.turns app s = [] := by
  rw [Visit.outcome, Visit.turns, App.attempt, ha]
  exact ⟨rfl, rfl⟩

theorem outcome_of_accept_ok
    (ha : accept app.providers.odoo v.request.body = .ok (settings, c)) :
    ((v.outcome app s).1, (v.outcome app s).2.store.store) =
      match identityOf c.identifier
        (v.upstream.run (Odoo.login settings c.identifier c.secret).run v.peer).1 with
      | .error f => (.error f, s)
      | .ok i => ((v.provisioned i s).1.mapError .provisioning, (v.provisioned i s).2) := by
  rw [Visit.outcome, App.attempt, ha]
  dsimp only
  rw [logIn, run_actionBind, run_ofExchange]
  dsimp only [Visit.world]
  generalize v.upstream.run (Odoo.login settings c.identifier c.secret).run v.peer = x
  obtain ⟨outcome, peer⟩ := x
  cases hi : identityOf c.identifier outcome with
  | error f => rfl
  | ok i =>
    obtain ⟨t, hrun, ht⟩ := v.run_provision i s peer
    dsimp only
    rw [run_actionBind, hrun]
    exact Prod.ext rfl ht

theorem outcome_of_unauthenticated
    (ha : accept app.providers.odoo v.request.body = .ok (settings, c))
    (hnone : app.authenticated? v = none) : ∃ f, (v.outcome app s).1 = .error f ∧
      (v.outcome app s).2.store.store = s ∧ (f = .invalidCredentials ∨ ∃ e, f = .odoo e) := by
  have houtcome := outcome_of_accept_ok (s := s) ha
  match hr : (v.upstream.run (Odoo.login settings c.identifier c.secret).run v.peer).1 with
  | .error e =>
    rw [hr] at houtcome
    obtain ⟨h, hs⟩ := Prod.ext_iff.mp houtcome
    exact ⟨_, h, hs, .inr ⟨e, rfl⟩⟩
  | .ok .invalidCredentials =>
    rw [hr] at houtcome
    obtain ⟨h, hs⟩ := Prod.ext_iff.mp houtcome
    exact ⟨_, h, hs, .inl rfl⟩
  | .ok (.authenticated account) =>
    rw [authenticated?_eq_some_iff.mpr ⟨settings, c, ha, hr⟩] at hnone
    cases hnone

end Login

/-- An authenticated person is provisioned under the email that belongs to the id. -/
theorem outcome_of_authenticated (h : app.authenticated? v = some account) : ∃ i,
    i.email = Odoo.syntheticEmail account.uid ∧
    (v.outcome app s).1 = (v.provisioned i s).1.mapError .provisioning ∧
    (v.outcome app s).2.store.store = (v.provisioned i s).2 := by
  obtain ⟨settings, c, ha, hlogin⟩ := authenticated?_eq_some_iff.mp h
  obtain ⟨i, hi, hemail⟩ := Odoo.Account.identity_of_pos (uid_pos_of_login hlogin) c.identifier
  have hidentity : identityOf c.identifier (.ok (.authenticated account)) = .ok i := by
    rw [identityOf, hi]
    rfl
  have houtcome := outcome_of_accept_ok (s := s) ha
  rw [hlogin, hidentity] at houtcome
  exact ⟨i, hemail, Prod.ext_iff.mp houtcome⟩

theorem serve_of_account? (h : app.account? v = some account) : ∃ i,
    i.email = Odoo.syntheticEmail account.uid ∧
    app.serve s v =
      (loginResponse app.session v.now ((v.provisioned i s).1.mapError .provisioning),
        (v.provisioned i s).2) := by
  obtain ⟨hl, hv⟩ := account?_eq_some_iff.mp h
  obtain ⟨i, hemail, hresult, hstore⟩ := outcome_of_authenticated (s := s) hv
  exact ⟨i, hemail, by rw [hl.serve_eq, hresult, hstore]⟩

theorem serve_of_account?_eq_none (h : app.account? v = none) : (app.serve s v).2 = s := by
  by_cases hl : v.IsLogin
  · rw [hl.serve_eq]
    cases ha : accept app.providers.odoo v.request.body with
    | error f => rw [(outcome_of_accept_error ha).1]; rfl
    | ok accepted =>
      have hnone : app.authenticated? v = none := (if_pos hl).symm.trans h
      obtain ⟨f, -, hs, -⟩ := outcome_of_unauthenticated (s := s) ha hnone
      exact hs
  · obtain ⟨r, hr⟩ : ∃ r, app.handle v.request v.spare v.now = .done r := handle_eq_done hl
    rw [App.serve, hr]
    rfl

end Visit

end FederatedLogin.Server
