import FederatedLogin.Proofs.Config.Usable
import FederatedLogin.Server.Providers

/-! # Looking up endpoints

A lookup asks for one document, if at all. It keeps the endpoints that are configured and takes the
others from the document; with no document to read it fails, and the providers stay as they are
configured.
-/

namespace FederatedLogin.Oidc

open Program (Turn)

/-! ## Documents -/

/-- The texts that a discovery document has for the endpoints. One that it lacks is empty. -/
structure DiscoveryTexts where
  authorization : String
  token : String
  userinfo : String

def IsDocument (body : Http.Bytes) (t : DiscoveryTexts) : Prop :=
  ∃ r, Json.recordOfBytes?
      ["authorization_endpoint", "token_endpoint", "userinfo_endpoint"] [] body = some r ∧
    Json.plainText? r "authorization_endpoint" = some t.authorization ∧
    Json.plainText? r "token_endpoint" = some t.token ∧
    Json.plainText? r "userinfo_endpoint" = some t.userinfo

inductive Delivers : Http.Delivery → DiscoveryTexts → Prop where
  | document {status : Http.Status} {body : Http.Bytes} {t : DiscoveryTexts} :
      status.isSuccess = true → IsDocument body t → Delivers (.answered status (some body)) t

/-- What is delivered is no document, and what is reported then. -/
inductive Fails : Http.Delivery → DiscoveryError → Prop where
  | transport (timedOut : Bool) : Fails (.failed timedOut) .unavailable
  | refused {status : Http.Status} (body : Option Http.Bytes) : status.isSuccess = false →
      Fails (.answered status body) (.refused status)
  | broken {status : Http.Status} : status.isSuccess = true →
      Fails (.answered status none) .unavailable
  | unreadable {status : Http.Status} {body : Http.Bytes} : status.isSuccess = true →
      (∀ t, ¬ IsDocument body t) → Fails (.answered status (some body)) .unavailable

/-- An endpoint after a lookup, from the one before and the text of the document. -/
inductive Fills (text : String) : Option String → Option String → Prop where
  | kept (url : String) : Fills text (some url) (some url)
  | found : text ≠ "" → Fills text none (some text)
  | missing : text = "" → Fills text none none

section Documents

variable {body : Http.Bytes} {t t' : DiscoveryTexts} {d : Http.Delivery} {f : DiscoveryError}
  {text : String} {before after : Option String}

def DiscoveryTexts.document (t : DiscoveryTexts) : DiscoveryDocument where
  authorization := if t.authorization.isEmpty then none else some t.authorization
  token := if t.token.isEmpty then none else some t.token
  userinfo := if t.userinfo.isEmpty then none else some t.userinfo

theorem ofBytes?_eq_some_iff {document : DiscoveryDocument} :
    DiscoveryDocument.ofBytes? body = some document ↔
      ∃ t, IsDocument body t ∧ document = t.document := by
  unfold DiscoveryDocument.ofBytes?
  constructor
  · intro h
    obtain ⟨r, hr, h⟩ := Option.bind_eq_some_iff.mp h
    obtain ⟨_, hnamed, h⟩ := Option.bind_eq_some_iff.mp h
    obtain ⟨_, hnamed', h⟩ := Option.bind_eq_some_iff.mp h
    obtain ⟨_, hnamed'', h⟩ := Option.bind_eq_some_iff.mp h
    obtain ⟨authorization, ha, rfl⟩ := Option.map_eq_some_iff.mp hnamed
    obtain ⟨token, ht, rfl⟩ := Option.map_eq_some_iff.mp hnamed'
    obtain ⟨userinfo, hu, rfl⟩ := Option.map_eq_some_iff.mp hnamed''
    exact ⟨⟨authorization, token, userinfo⟩, ⟨r, hr, ha, ht, hu⟩, (Option.some.inj h).symm⟩
  · rintro ⟨t, ⟨r, hr, ha, ht, hu⟩, rfl⟩
    simp [hr, ha, ht, hu, DiscoveryTexts.document]

/-- An endpoint that a document gives as an empty text is missing. -/
example : (DiscoveryDocument.ofBytes?
      "\x7b\"authorization_endpoint\":\"http://a\",\"token_endpoint\":\"\"\x7d".toUTF8.toList).map
    (fun d => (d.authorization, d.token, d.userinfo)) = some (some "http://a", none, none) := by
  decide +kernel

theorem IsDocument.ofBytes?_eq (h : IsDocument body t) :
    DiscoveryDocument.ofBytes? body = some t.document :=
  ofBytes?_eq_some_iff.mpr ⟨t, h, rfl⟩

theorem ofBytes?_eq_none (h : ∀ t, ¬ IsDocument body t) :
    DiscoveryDocument.ofBytes? body = none := by
  rw [Option.eq_none_iff_forall_ne_some]
  intro document hdocument
  obtain ⟨t, ht, -⟩ := ofBytes?_eq_some_iff.mp hdocument
  exact h t ht

theorem exists_delivers_or_fails (d : Http.Delivery) : (∃ t, Delivers d t) ∨ ∃ f, Fails d f := by
  cases d with
  | failed timedOut => exact .inr ⟨_, .transport timedOut⟩
  | answered status body =>
    cases hstatus : status.isSuccess with
    | false => exact .inr ⟨_, .refused body hstatus⟩
    | true =>
      cases body with
      | none => exact .inr ⟨_, .broken hstatus⟩
      | some body =>
        by_cases hbody : ∃ t, IsDocument body t
        · obtain ⟨t, ht⟩ := hbody
          exact .inl ⟨t, .document hstatus ht⟩
        · exact .inr ⟨_, .unreadable hstatus (not_exists.mp hbody)⟩

theorem fills_iff : Fills text before after ↔
    after = before.or (if text.isEmpty then none else some text) := by
  constructor
  · rintro (url | hfound | hmissing)
    · rfl
    · simp [hfound]
    · simp [hmissing]
  · rintro rfl
    cases before with
    | some url => exact .kept url
    | none =>
      by_cases htext : text = ""
      · subst htext
        exact .missing rfl
      · simpa [htext] using Fills.found htext

theorem Fills.again (h : Fills text before after) : Fills text after after := by
  cases h with
  | kept url => exact .kept url
  | found _ => exact .kept text
  | missing htext => exact .missing htext

end Documents

/-! ## Endpoints -/

namespace Endpoints

variable {e e' : Endpoints} {t : DiscoveryTexts} {d : Http.Delivery} {f : DiscoveryError}

/-- Nothing is to be looked up: no endpoint is missing, or there is nowhere to look. -/
def IsSettled (e : Endpoints) : Prop :=
  e.authorization ≠ none ∧ e.token ≠ none ∧ e.userinfo ≠ none ∨ e.discovery = none

/-- Endpoints come of others and the texts of a document. -/
structure FillsFrom (t : DiscoveryTexts) (e e' : Endpoints) : Prop where
  discovery : e'.discovery = e.discovery
  authorization : Fills t.authorization e.authorization e'.authorization
  token : Fills t.token e.token e'.token
  userinfo : Fills t.userinfo e.userinfo e'.userinfo

theorem fillsFrom_iff : FillsFrom t e e' ↔ e' = e.fill t.document := by
  constructor
  · intro h
    obtain ⟨_, _, _, _⟩ := e'
    obtain ⟨rfl, ha, ht, hu⟩ := h
    rw [fills_iff] at ha ht hu
    simp only at ha ht hu
    rw [ha, ht, hu]
    rfl
  · rintro rfl
    exact ⟨rfl, fills_iff.mpr rfl, fills_iff.mpr rfl, fills_iff.mpr rfl⟩

theorem FillsFrom.again (h : FillsFrom t e e') : FillsFrom t e' e' where
  discovery := rfl
  authorization := h.authorization.again
  token := h.token.again
  userinfo := h.userinfo.again

theorem ofDelivery_of_delivers (h : Delivers d t) : e.ofDelivery d = .ok (e.fill t.document) := by
  cases h with
  | document hstatus hbody => simp [ofDelivery, hstatus, hbody.ofBytes?_eq]

theorem ofDelivery_of_fails (h : Fails d f) : e.ofDelivery d = .error f := by
  cases h with
  | transport timedOut => rfl
  | refused body hstatus => simp [ofDelivery, hstatus]
  | broken hstatus => simp [ofDelivery, hstatus]
  | unreadable hstatus hbody => simp [ofDelivery, hstatus, ofBytes?_eq_none hbody]

theorem isComplete_iff : e.isComplete = true ↔
    e.authorization ≠ none ∧ e.token ≠ none ∧ e.userinfo ≠ none := by
  simp [isComplete, Option.isSome_iff_ne_none, and_assoc]

def lookup (url : String) : Http.Request := ⟨.get, url, none⟩

/-- What a lookup asks for, with what is delivered, and what it comes to. -/
inductive Looks (e : Endpoints) :
    List (Turn fun _ : Http.Request => Http.Delivery) → Except DiscoveryError Endpoints → Prop where
  | unneeded : e.IsSettled → Looks e [] (.ok e)
  | invalid {url : String} : ¬ e.IsSettled → e.discovery = some url →
      Http.Url.isValid url = false → Looks e [] (.error (.invalidEndpoint url))
  | failed {url : String} {d : Http.Delivery} {f : DiscoveryError} : ¬ e.IsSettled →
      e.discovery = some url → Http.Url.isValid url = true → Fails d f →
      Looks e [⟨lookup url, d⟩] (.error f)
  | filled {url : String} {d : Http.Delivery} {t : DiscoveryTexts} {e' : Endpoints} :
      ¬ e.IsSettled → e.discovery = some url → Http.Url.isValid url = true → Delivers d t →
      FillsFrom t e e' → Looks e [⟨lookup url, d⟩] (.ok e')

theorem resolve_of_not_isSettled {url : String} (h : ¬ e.IsSettled)
    (hurl : e.discovery = some url) : e.resolve =
      if Http.Url.isValid url then do return e.ofDelivery (← Http.send (lookup url))
      else .done (.error (.invalidEndpoint url)) := by
  have hcomplete : ¬ e.isComplete = true := fun hc => h (.inl (isComplete_iff.mp hc))
  rw [resolve, if_neg hcomplete, hurl]
  rfl

theorem resolve_of_isSettled (h : e.IsSettled) : e.resolve = .done (.ok e) := by
  rw [resolve]
  split
  next => rfl
  next hcomplete =>
    rcases h with h | h
    · exact absurd (isComplete_iff.mpr h) hcomplete
    · rw [h]

theorem exists_discovery (h : ¬ e.IsSettled) : ∃ url, e.discovery = some url :=
  Option.ne_none_iff_exists'.mp fun hnone => h (.inr hnone)

section Runs

variable {σ : Type} (upstream : Http.Request → σ → Http.Delivery × σ) (w : σ)

theorem looks_resolve (e : Endpoints) :
    Looks e (Program.turns upstream e.resolve w) (Program.run upstream e.resolve w).1 := by
  by_cases h : e.IsSettled
  · rw [resolve_of_isSettled h]
    exact .unneeded h
  · obtain ⟨url, hurl⟩ := exists_discovery h
    rw [resolve_of_not_isSettled h hurl]
    cases hvalid : Http.Url.isValid url with
    | false => exact .invalid h hurl hvalid
    | true =>
      change Looks e [⟨lookup url, (upstream (lookup url) w).1⟩]
        (e.ofDelivery (upstream (lookup url) w).1)
      rcases exists_delivers_or_fails (upstream (lookup url) w).1 with ⟨t, ht⟩ | ⟨f, hf⟩
      · rw [ofDelivery_of_delivers ht]
        exact .filled h hurl hvalid ht (fillsFrom_iff.mpr rfl)
      · rw [ofDelivery_of_fails hf]
        exact .failed h hurl hvalid hf

/-- Endpoints that are looked up once more, in the same document, stay as they are. -/
theorem resolve_again {turns : List (Turn fun _ : Http.Request => Http.Delivery)}
    (h : Looks e turns (.ok e'))
    (hsame : ∀ x ∈ turns, ∀ t, Delivers x.2 t → Delivers (upstream x.1 w).1 t) :
    (Program.run upstream e'.resolve w).1 = .ok e' := by
  by_cases hsettled : e'.IsSettled
  · rw [resolve_of_isSettled hsettled]
    rfl
  · cases h with
    | unneeded h => exact absurd h hsettled
    | @filled url d t _ _ hurl hvalid ht hfill =>
      have hagain : Delivers (upstream (lookup url) w).1 t :=
        hsame _ (List.mem_singleton.mpr rfl) t ht
      rw [resolve_of_not_isSettled hsettled (hfill.discovery.trans hurl), hvalid]
      change e'.ofDelivery (upstream (lookup url) w).1 = .ok e'
      rw [ofDelivery_of_delivers hagain, ← fillsFrom_iff.mp hfill.again]

/-- The providers take the endpoints that a lookup comes to, and keep theirs if it fails. -/
theorem run_resolveOidc {p : Server.Providers} (h : p.oidc = some e) :
    Program.turns upstream p.resolveOidc w = Program.turns upstream e.resolve w ∧
    (Program.run upstream p.resolveOidc w).1 =
      match (Program.run upstream e.resolve w).1 with
      | .ok resolved => { p with oidc := some resolved }
      | .error _ => p := by
  rw [Server.Providers.resolveOidc, h]
  dsimp only
  rw [Program.bind_eq, Program.turns_bind, Program.run_bind]
  cases (Program.run upstream e.resolve w).1 with
  | ok resolved => exact ⟨List.append_nil _, rfl⟩
  | error f => exact ⟨List.append_nil _, rfl⟩

end Runs

/-- A configuration that can be used never has an endpoint missing and nowhere to look. -/
theorem isComplete_of_isSettled {l : Config.Layer} {c : Config.Resolved} (h : l.resolve = .ok c)
    (henabled : c.oidc.enabled = true) (hsettled : (ofConfig c.oidc).IsSettled) :
    (ofConfig c.oidc).isComplete = true := by
  rcases hsettled with hsettled | hnone
  · exact isComplete_iff.mpr hsettled
  · have husable := (Config.Layer.usable_of_resolve h).oidc henabled
    have hdiscovery : c.oidc.discoveryEndpoint = none := hnone
    simpa [hdiscovery, isComplete, ofConfig, and_assoc] using husable

/-- Nothing is asked where no endpoint is missing or there is no discovery endpoint, and otherwise
at most the document there. Without a document the lookup fails, and with one it keeps the endpoints
that there are and takes the others from its texts, if they are not empty. A second lookup in the
same document changes nothing. The providers keep the configured endpoints where a lookup fails, and
under a configuration that loads, a lookup that leaves an endpoint out has read a document. -/
theorem resolve_looks {σ : Type} (upstream : Http.Request → σ → Http.Delivery × σ) (w : σ)
    (e : Endpoints) :
    let turns := Program.turns upstream e.resolve w
    let result := (Program.run upstream e.resolve w).1
    Looks e turns result ∧
    (∀ e', result = .ok e' → ∀ w',
      (∀ x ∈ turns, ∀ t, Delivers x.2 t → Delivers (upstream x.1 w').1 t) →
      (Program.run upstream e'.resolve w').1 = .ok e') ∧
    (∀ p : Server.Providers, p.oidc = some e →
      Program.turns upstream p.resolveOidc w = turns ∧
      (∀ e', result = .ok e' →
        (Program.run upstream p.resolveOidc w).1 = { p with oidc := some e' }) ∧
      ∀ f, result = .error f → (Program.run upstream p.resolveOidc w).1 = p) ∧
    ∀ (l : Config.Layer) (c : Config.Resolved), l.resolve = .ok c → c.oidc.enabled = true →
      ofConfig c.oidc = e → ∀ e', result = .ok e' → e'.isComplete = false →
      ∃ x ∈ turns, ∃ t, Delivers x.2 t ∧ FillsFrom t e e' := by
  intro turns result
  have hlooks : Looks e turns result := looks_resolve upstream w e
  refine ⟨hlooks, ?_, ?_, ?_⟩
  · intro e' he' w' hsame
    rw [he'] at hlooks
    exact resolve_again upstream w' hlooks hsame
  · intro p hp
    obtain ⟨hturns, hrun⟩ := run_resolveOidc upstream w hp
    refine ⟨hturns, fun e' he' => ?_, fun f hf => ?_⟩
    · rw [hrun, show (Program.run upstream e.resolve w).1 = .ok e' from he']
    · rw [hrun, show (Program.run upstream e.resolve w).1 = .error f from hf]
  · rintro l c hl henabled rfl e' he' hincomplete
    rw [he'] at hlooks
    generalize turns = turns at hlooks
    cases hlooks with
    | unneeded hsettled =>
      rw [isComplete_of_isSettled hl henabled hsettled] at hincomplete
      cases hincomplete
    | filled _ _ _ ht hfill => exact ⟨_, List.mem_singleton.mpr rfl, _, ht, hfill⟩

end Endpoints

end FederatedLogin.Oidc
