import FederatedLogin.Proofs.Odoo.Secrecy
import FederatedLogin.Proofs.Server.Logins

/-! # What the secret of a login request decides

Two requests to log in that differ in nothing but the secret are answered alike, and they do the
same to the store, as long as Odoo, who sees the secret in the places where a password is sent,
answers alike.
-/

namespace FederatedLogin.Server

open Http (Upstream)
open Odoo (AnswersAlike ExchangesAlike SameCourse SameScript)

/-! ## Requests that differ in the secret -/

/-- Two requests that differ in the body alone. Their bodies name the same identifier and hold
secrets, neither of which is blank. -/
structure SameIdentifier (r r' : Request) : Prop where
  method : r'.method = r.method
  target : r'.target = r.target
  headers : r'.headers = r.headers
  bodies : ∃ identifier secret secret',
    LoginBody.ofBytes? r.body = some ⟨identifier, some secret⟩ ∧
    LoginBody.ofBytes? r'.body = some ⟨identifier, some secret'⟩ ∧
    secret.isBlank = false ∧ secret'.isBlank = false

theorem credentials_of_not_isBlank {identifier : String} {secret : Secret String}
    (h : secret.isBlank = false) : LoginBody.credentials ⟨identifier, some secret⟩ =
      if (Text.trim identifier).isEmpty then .error (.invalidRequest "identifier is required")
      else .ok ⟨Text.trim identifier, secret⟩ := by
  have hfilter : (some secret).filter (fun secret => !secret.isBlank) = some secret :=
    Option.filter_some_pos (by simp [h])
  rw [LoginBody.credentials]
  dsimp only
  rw [hfilter]

/-- Both requests are refused for the same reason, or both are accepted with the same identifier. -/
theorem SameIdentifier.accept {r r' : Request} (h : SameIdentifier r r')
    (odoo : Except Odoo.SettingsError Odoo.Settings) :
    (∃ f, accept odoo r.body = .error f ∧ accept odoo r'.body = .error f) ∨
    ∃ settings identifier secret secret',
      accept odoo r.body = .ok (settings, ⟨identifier, secret⟩) ∧
      accept odoo r'.body = .ok (settings, ⟨identifier, secret'⟩) := by
  obtain ⟨identifier, secret, secret', hb, hb', hs, hs'⟩ := h.bodies
  unfold Server.accept Credentials.ofBytes
  rw [hb, hb']
  dsimp only
  rw [credentials_of_not_isBlank hs, credentials_of_not_isBlank hs']
  cases odoo with
  | error cause => exact .inl ⟨_, rfl, rfl⟩
  | ok settings =>
    cases (Text.trim identifier).isEmpty with
    | true => exact .inl ⟨_, rfl, rfl⟩
    | false => exact .inr ⟨_, _, _, _, rfl, rfl⟩

/-! ## Actions that differ in the secret -/

/-- Two runs of actions in worlds whose upstreams have states that stand in a relation. They have
one result, use the store in the same way, and exchange the same messages but for the secret. -/
structure RunsAlike {α : Type} {u u' : Upstream} (S : u.State → u'.State → Prop) (a a' : Action α)
    (w : World u) (w' : World u') : Prop where
  result : (a'.run w').1 = (a.run w).1
  peer : S (a.run w).2.peer (a'.run w').2.peer
  store : (a'.run w').2.store = (a.run w).2.store
  exchanged : SameCourse (exchanges (a.turns w)) (exchanges (a'.turns w'))
  used : uses (a'.turns w') = uses (a.turns w)

/-- Two actions that run alike wherever requests are answered alike that differ in a secret. -/
def Indistinct {α : Type} (a a' : Action α) : Prop :=
  ∀ (u u' : Upstream) (S : u.State → u'.State → Prop) (w : World u) (w' : World u'),
    AnswersAlike u u' S → S w.peer w'.peer → w'.store = w.store → RunsAlike S a a' w w'

namespace Indistinct

variable {α β : Type}

theorem done (a : α) : Indistinct (.done a) (.done a) :=
  fun _ _ _ _ _ _ hp hw => ⟨rfl, hp, hw, ⟨rfl, rfl⟩, rfl⟩

theorem map {a a' : Action α} (h : Indistinct a a') (f : α → β) :
    Indistinct (a >>= fun x => return f x) (a' >>= fun x => return f x) := by
  intro u u' S w w' hS hp hw
  have hruns := h u u' S w w' hS hp hw
  constructor
  case result => rw [run_actionMap, run_actionMap, hruns.result]
  case peer =>
    rw [run_actionMap, run_actionMap]
    exact hruns.peer
  case store => rw [run_actionMap, run_actionMap, hruns.store]
  case exchanged =>
    rw [turns_actionMap, turns_actionMap]
    exact hruns.exchanged
  case used => rw [turns_actionMap, turns_actionMap, hruns.used]

theorem ofExchange_bind_ofUse {x x' : Http.Exchange α}
    (h : ∀ {u u' : Upstream} {S : u.State → u'.State → Prop} {p : u.State} {p' : u'.State},
      AnswersAlike u u' S → S p p' → ExchangesAlike S x x' p p') (use : α → Store.Use β) :
    Indistinct (.ofExchange x >>= fun a => .ofUse (use a))
      (.ofExchange x' >>= fun a => .ofUse (use a)) := by
  intro u u' S w w' hS hp hw
  have halike := h hS hp
  constructor
  case result => rw [run_exchangeThenUse, run_exchangeThenUse, halike.result, hw]
  case peer =>
    rw [run_exchangeThenUse, run_exchangeThenUse]
    exact halike.state
  case store => rw [run_exchangeThenUse, run_exchangeThenUse, halike.result, hw]
  case exchanged =>
    rw [turns_exchangeThenUse, turns_exchangeThenUse, exchanges_append, exchanges_append]
    exact halike.course
  case used =>
    rw [turns_exchangeThenUse, turns_exchangeThenUse, uses_append, uses_append, halike.result, hw]

end Indistinct

/-! ## Logins -/

def provisionOutcome (identifier : String) (client : ClientContext)
    (spare : Provisioning.SpareNames) (outcome : Except Odoo.LoginError Odoo.Outcome) :
    Store.Use (Except Failure Provisioning.Provisioned) :=
  match identityOf identifier outcome with
  | .error f => return .error f
  | .ok identity => do
    let result ← Provisioning.provision identity client spare
    return result.mapError .provisioning

theorem logIn_eq (settings : Odoo.Settings) (c : Credentials) (client : ClientContext)
    (spare : Provisioning.SpareNames) : logIn settings c client spare =
      .ofExchange (Odoo.login settings c.identifier c.secret).run >>= fun outcome =>
        .ofUse (provisionOutcome c.identifier client spare outcome) := by
  unfold logIn
  refine congrArg _ (funext fun outcome => ?_)
  unfold provisionOutcome
  cases identityOf c.identifier outcome with
  | error f => rfl
  | ok identity =>
    exact (Program.translate_bind _ (Provisioning.provision identity client spare) fun result =>
      .done (result.mapError Failure.provisioning)).symm

namespace App

variable {app : App} {r : Request} {spare : Provisioning.SpareNames} {now : Instant}

/-- Answers a request to log in, whatever its size. -/
def respond (app : App) (r : Request) (spare : Provisioning.SpareNames) (now : Instant) :
    Action Response :=
  app.attempt r spare >>= fun result => return loginResponse app.session now result

end App

namespace SameIdentifier

variable {app : App} {r r' : Request} {spare : Provisioning.SpareNames} {now : Instant}

theorem attempt (h : SameIdentifier r r') :
    Indistinct (app.attempt r spare) (app.attempt r' spare) := by
  unfold App.attempt
  rcases h.accept app.providers.odoo with
    ⟨f, ha, ha'⟩ | ⟨settings, identifier, secret, secret', ha, ha'⟩
  · rw [ha, ha']
    exact .done _
  · rw [ha, ha', h.headers]
    dsimp only
    rw [logIn_eq, logIn_eq]
    exact .ofExchange_bind_ofUse
      (Odoo.login_exchangesAlike settings identifier secret secret') _

/-- The route and the method are those of both requests, and only a login looks at the body. -/
theorem handle (h : SameIdentifier r r') (hsize : r.body.length ≤ App.maxBodySize)
    (hsize' : r'.body.length ≤ App.maxBodySize) :
    Indistinct (app.handle r spare now) (app.handle r' spare now) := by
  have hlogin : Indistinct (app.login r spare now) (app.login r' spare now) := by
    rw [App.login_eq hsize, App.login_eq hsize']
    exact h.attempt.map _
  unfold App.handle
  rw [h.target, h.method]
  cases Route.ofTarget? r.target with
  | none => exact .done _
  | some route =>
    dsimp only
    split
    · exact .done _
    · cases route with
      | health => exact .done _
      | providers => exact .done _
      | odooLogin => exact hlogin.map _

end SameIdentifier

/-- Two requests to log in that differ in nothing but secrets that are not blank have one response
and one effect on the store, and what is sent to Odoo for them differs in the places of the secret
alone, whoever answers there as long as the answers are alike. So it is already for the login at
Odoo, whatever its secrets. -/
theorem secret_indistinct (app : App) {r r' : Request} (h : SameIdentifier r r')
    (spare : Provisioning.SpareNames) (now : Instant) :
    (∀ {u u' : Upstream} {S : u.State → u'.State → Prop}, AnswersAlike u u' S →
      ∀ settings identifier secret secret' p p', S p p' →
        ExchangesAlike S (Odoo.login settings identifier secret).run
          (Odoo.login settings identifier secret').run p p') ∧
    Indistinct (app.attempt r spare) (app.attempt r' spare) ∧
    Indistinct (app.respond r spare now) (app.respond r' spare now) ∧
    (r.body.length ≤ App.maxBodySize → r'.body.length ≤ App.maxBodySize →
      Indistinct (app.handle r spare now) (app.handle r' spare now)) :=
  ⟨fun hS settings identifier secret secret' _ _ hp =>
      Odoo.login_exchangesAlike settings identifier secret secret' hS hp,
    h.attempt, h.attempt.map _, h.handle⟩

/-- Bob logs in with one password or another, and the response is the same. -/
theorem passwords_indistinct :
    let v := sampleVisit "42" "bob" 0
    let r' : Request := { v.request with
      body := "\x7b\"identifier\":\"bob\",\"password\":\"hunter2\"\x7d".toUTF8.toList }
    let x := (sampleApp.handle v.request v.spare v.now).run (v.world .empty)
    let x' := (sampleApp.handle r' v.spare v.now).run (v.world .empty)
    SameIdentifier v.request r' ∧ x.1.status = 200 ∧ x.2.peer.received.length = 2 ∧ x'.1 = x.1 ∧
      x'.2.store = x.2.store := by
  intro v r' x x'
  have hread : ∀ {body : Json.Bytes} {b : String × Option (Secret String)},
      (LoginBody.ofBytes? body).map (fun b => (b.identifier, b.secret)) = some b →
        LoginBody.ofBytes? body = some ⟨b.1, b.2⟩ := by
    intro body b h
    obtain ⟨b', hb', rfl⟩ := Option.map_eq_some_iff.mp h
    exact hb'
  have hb : LoginBody.ofBytes? v.request.body = some ⟨"bob", some ⟨"secret"⟩⟩ :=
    hread (b := ("bob", some ⟨"secret"⟩)) (by decide +kernel)
  have hb' : LoginBody.ofBytes? r'.body = some ⟨"bob", some ⟨"hunter2"⟩⟩ :=
    hread (b := ("bob", some ⟨"hunter2"⟩)) (by decide +kernel)
  have hsame : SameIdentifier v.request r' :=
    ⟨rfl, rfl, rfl, "bob", _, _, hb, hb', by decide, by decide⟩
  have hindistinct := (secret_indistinct sampleApp hsame v.spare v.now).2.2.2
    (by decide +kernel) (by decide +kernel)
  have hruns := hindistinct .scripted .scripted SameScript (v.world .empty) (v.world .empty)
    Odoo.answersAlike_scripted ⟨rfl, rfl⟩ rfl
  exact ⟨hsame, by decide +kernel, by decide +kernel, hruns.result, hruns.store⟩

end FederatedLogin.Server
