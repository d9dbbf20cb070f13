import FederatedLogin.Proofs.Config.Fields
import FederatedLogin.Proofs.Server.Outcome
import FederatedLogin.Proofs.Store.Watched
import FederatedLogin.Proofs.Text.Parts
import FederatedLogin.Proofs.Text.Words

/-! # What a login sends

A login that succeeds is answered with a cookie that carries the session, if the name that is
configured for the cookie can stand in it. With a name that holds a control character no cookie can
be sent, and the login fails after all when the session is there; one that holds an equals sign is
cut.
-/

namespace FederatedLogin

namespace Server

/-! ## Reading a cookie -/

/-- The name of a cookie, which stands before its first equals sign. -/
def cookieName (cookie : String) : String := Text.before '=' cookie

/-- The value of a cookie, from there to the first semicolon. -/
def cookieValue (cookie : String) : String := Text.before ';' (Text.after '=' cookie)

/-- What follows the value, from one semicolon to the next. -/
def cookieAttributes (cookie : String) : List String :=
  ((Text.after ';' (Text.after '=' cookie)).toList.splitOn ';').map fun piece =>
    Text.trim (.ofList piece)

def attributesFor (secure : Bool) (age : Int) : List String :=
  ["Path=/", "HttpOnly", "SameSite=Lax", "Max-Age=" ++ Text.decimal age] ++
    if secure then ["Secure"] else []

/-- A cookie carries a session under a name: it has the session's token as its value, and goes out
with a session's attributes. -/
structure Carries (c : Config.SessionConfig) (s : Session) (cookie : String) : Prop where
  name : cookieName cookie = c.cookieName
  value : cookieValue cookie = s.token.expose
  attributes : ∃ age : Int, 0 ≤ age ∧ age ≤ 2592000 ∧
    cookieAttributes cookie = attributesFor c.cookieSecure age

section Cookie

variable {c : Config.SessionConfig} {s : Session} {now : Instant} {age : Int} {secure : Bool}

theorem of_mem_attributesFor :
    ∀ a ∈ attributesFor secure age, Text.IsWord a ∧ ';' ∉ a.toList := by
  have hdigits : ∀ d ∈ (Text.decimal age).toList, Text.isBlank d = false ∧ d ≠ ';' := by
    rw [Text.decimal, String.toList_ofList]
    exact Text.forall_mem_intDigits (by decide) (by decide) age
  have hkey : Text.IsWord "Max-Age=" := by decide
  have hage : Text.IsWord ("Max-Age=" ++ Text.decimal age) ∧
      ';' ∉ ("Max-Age=" ++ Text.decimal age).toList := by
    refine ⟨⟨by simp, ?_⟩, ?_⟩ <;> rw [String.toList_append]
    · exact List.forall_mem_append.mpr ⟨hkey.not_blank, fun d hd => (hdigits d hd).1⟩
    · exact List.not_mem_append (by decide) fun hmem => (hdigits ';' hmem).2 rfl
  rw [attributesFor]
  refine List.forall_mem_append.mpr ⟨?_, ?_⟩
  · simp only [List.forall_mem_cons]
    exact ⟨by decide, by decide, by decide, hage, List.forall_mem_nil _⟩
  · cases secure <;> decide

theorem map_trim_splitOn {as : List String} (hne : as ≠ [])
    (has : ∀ a ∈ as, Text.IsWord a ∧ ';' ∉ a.toList) :
    (([';'].intercalate (as.map fun a => ' ' :: a.toList)).splitOn ';').map
      (fun piece => Text.trim (.ofList piece)) = as := by
  have hpieces : ∀ piece ∈ as.map fun a => ' ' :: a.toList, ';' ∉ piece := by
    intro piece hpiece
    obtain ⟨a, ha, rfl⟩ := List.mem_map.mp hpiece
    simpa using (has a ha).2
  rw [List.splitOn_intercalate ';' hpieces (by simpa using hne), List.map_map]
  refine (List.map_congr_left fun a ha => ?_).trans (List.map_id as)
  simpa using (has a ha).1.trim_append

def attributeText (as : List String) : String :=
  .ofList ([';'].intercalate (as.map fun a => ' ' :: a.toList))

theorem sessionCookie_eq (c : Config.SessionConfig) (s : Session) (now : Instant) :
    sessionCookie c s now = c.cookieName ++ String.singleton '=' ++ (s.token.expose ++
      String.singleton ';' ++ attributeText (attributesFor c.cookieSecure (s.maxAge now))) := by
  rw [← String.toList_inj]
  cases hsecure : c.cookieSecure <;>
    simp [sessionCookie, attributeText, attributesFor, hsecure, String.toList_append,
      List.intercalate]

/-- A session that has just been issued is kept for thirty days at most. -/
theorem maxAge_bounds (id : SessionId) (token : Secret String) (created : Instant) (user : UserId)
    (client : ClientContext) (hclock : created.nanoseconds ≤ now.nanoseconds) :
    0 ≤ (Session.issue id token created user client).maxAge now ∧
      (Session.issue id token created user client).maxAge now ≤ 2592000 := by
  have hspan : (created.addDays Session.lifetimeDays).nanoseconds - now.nanoseconds ≤
      2592000 * Instant.perSecond := by
    simp only [Instant.addDays, Session.lifetimeDays, Instant.secondsPerDay, Instant.perSecond]
    omega
  have hleft : now.secondsSince (created.addDays Session.lifetimeDays) ≤ 2592000 :=
    Int.tdiv_le_tdiv (by decide) hspan
  exact ⟨Int.le_max_left _ _, Int.max_le.mpr ⟨by decide, hleft⟩⟩

/-- The name of a session cookie ends at the first equals sign, be it one of the name's own. -/
theorem cookieName_sessionCookie (c : Config.SessionConfig) (s : Session) (now : Instant) :
    cookieName (sessionCookie c s now) = Text.before '=' c.cookieName := by
  rw [cookieName, sessionCookie_eq, Text.before_append]

theorem carries_sessionCookie (hname : '=' ∉ c.cookieName.toList)
    (htoken : ';' ∉ s.token.expose.toList) (hage : 0 ≤ s.maxAge now ∧ s.maxAge now ≤ 2592000) :
    Carries c s (sessionCookie c s now) := by
  have hafter : Text.after '=' (sessionCookie c s now) = s.token.expose ++ String.singleton ';' ++
      attributeText (attributesFor c.cookieSecure (s.maxAge now)) := by
    rw [sessionCookie_eq, Text.after_append hname]
  constructor
  case name => rw [cookieName_sessionCookie, Text.before_eq_self hname]
  case value => rw [cookieValue, hafter, Text.before_append, Text.before_eq_self htoken]
  case attributes =>
    refine ⟨s.maxAge now, hage.1, hage.2, ?_⟩
    rw [cookieAttributes, hafter, Text.after_append htoken, attributeText, String.toList_ofList]
    exact map_trim_splitOn (List.append_ne_nil_of_left_ne_nil (List.cons_ne_nil _ _) _)
      of_mem_attributesFor

end Cookie

/-! ## The session of a login -/

section Login

variable {app : App} {r : Request} {spare : Provisioning.SpareNames} {u : Http.Upstream}
  {w : World u} {p : Provisioning.Provisioned}

theorem exists_provision (h : ((app.attempt r spare).run w).1 = .ok p) :
    ∃ i, (w.store.run (Provisioning.provision i (clientContext r.headers) spare)).1 = .ok p := by
  rw [App.attempt] at h
  split at h
  next => cases h
  next settings c _ =>
    rw [logIn, run_actionBind, run_ofExchange] at h
    dsimp only at h
    split at h
    next => cases h
    next i _ =>
      rw [run_actionBind, run_ofUse] at h
      refine ⟨i, ?_⟩
      dsimp only at h
      generalize (w.store.run _).1 = result at h ⊢
      cases result with
      | error f => cases h
      | ok p' =>
        cases h
        rfl

theorem exists_issue (h : ((app.attempt r spare).run w).1 = .ok p) :
    ∃ s user client, p.session = .issue (w.store.fresh s).sessionId (w.store.fresh s).token
      (w.store.fresh s).now user client := by
  obtain ⟨i, hi⟩ := exists_provision h
  have hpath := Program.path_run Store.Watched.answer
    (Provisioning.provision i (clientContext r.headers) spare) w.store
  change (Program.run Store.Watched.answer _ w.store).1 = _ at hi
  rw [hi] at hpath
  have hmem := (Provisioning.provisionPath_of_path hpath).issue_mem
  obtain ⟨w', hfresh, ha⟩ := Store.Watched.exists_answer_of_mem_turns hmem
  rw [← hfresh]
  exact ⟨_, _, _, Store.Watched.issue_of_answer ha⟩

theorem token_maxAge_of_attempt {source : Store.Source} {now : Instant}
    (hfresh : w.store.fresh = source.fresh) (h : ((app.attempt r spare).run w).1 = .ok p)
    (hclock : p.session.createdAt.nanoseconds ≤ now.nanoseconds) :
    (∃ bits, p.session.token = ⟨Session.tokenText bits⟩) ∧ ';' ∉ p.session.token.expose.toList ∧
      0 ≤ p.session.maxAge now ∧ p.session.maxAge now ≤ 2592000 := by
  obtain ⟨s, user, client, hsession⟩ := exists_issue h
  rw [hfresh] at hsession
  obtain ⟨bits, hbits⟩ := source.token s
  have htoken : p.session.token = ⟨Session.tokenText bits⟩ := by
    rw [hsession]
    exact hbits
  have hdigits : ∀ d ∈ Text.hexDigits 64 bits, d ≠ ';' :=
    Text.forall_mem_hexDigits (by decide) 64 bits
  refine ⟨⟨bits, htoken⟩, ?_, ?_⟩
  · rw [htoken]
    intro hmem
    exact hdigits ';' (by simpa [Secret.expose, Session.tokenText] using hmem) rfl
  · rw [hsession] at hclock ⊢
    exact maxAge_bounds _ _ _ _ _ hclock

theorem run_handle {v : Visit} {t : World u} (hv : v.IsLogin)
    (hp : (app.attempt v.request v.spare).run w = (.ok p, t)) :
    ((app.handle v.request v.spare v.now).run w).1 = loginResponse app.session v.now (.ok p) := by
  rw [hv.handle_eq, run_actionBind, hp]
  rfl

end Login

/-! ## The response to a login -/

/-- A name under which a cookie can be sent and is found again. -/
structure IsCookieName (name : String) : Prop where
  sendable : Http.IsSendable name
  whole : '=' ∉ name.toList

/-- A response that carries a session, in the one cookie that it sets. -/
structure Sends (c : Config.SessionConfig) (s : Session) (response : Response) : Prop where
  status : response.status = 200
  cookie : ∃ cookie, response.setCookie = some cookie ∧ Carries c s cookie

section Response

variable {c : Config.SessionConfig} {p : Provisioning.Provisioned} {bits : Nat}

theorem not_sends_of_text {s : Session} (status : Http.Status) (text : String) :
    ¬ Sends c s (.text status text) := by
  rintro ⟨-, cookie, hcookie, -⟩
  cases hcookie

theorem sends_loginResponse_iff {now : Instant}
    (htoken : p.session.token = ⟨Session.tokenText bits⟩)
    (hsemicolon : ';' ∉ p.session.token.expose.toList)
    (hage : 0 ≤ p.session.maxAge now ∧ p.session.maxAge now ≤ 2592000) :
    Sends c p.session (loginResponse c now (.ok p)) ↔ IsCookieName c.cookieName := by
  by_cases hsendable : Http.IsSendable c.cookieName
  · rw [loginResponse_of_isSendable now htoken hsendable]
    constructor
    · rintro ⟨-, cookie, hset, hcarries⟩
      obtain rfl := Option.some.inj hset
      refine ⟨hsendable, Text.before_eq_self_iff.mp ?_⟩
      exact (cookieName_sessionCookie c p.session now).symm.trans hcarries.name
    · rintro ⟨-, hwhole⟩
      exact ⟨rfl, _, rfl, carries_sessionCookie hwhole hsemicolon hage⟩
  · rw [loginResponse_of_not_isSendable now htoken hsendable]
    exact iff_of_false (not_sends_of_text _ _) fun h => hsendable h.sendable

end Response

/-- A login that succeeds, whoever has answered at Odoo's address and whatever faults the store has
met with, is answered with a cookie that carries the session if and only if the name that is
configured for it has no control character other than tabs and no equals sign. With another control
character in it, the answer is an error and sets no cookie; with an equals sign, the cookie is found
under the part of the name before that. -/
theorem login_sends_iff (c : Config.Resolved) (granted : Entitlements) {v : Visit}
    (hv : v.IsLogin) {w t : World v.upstream} (hfresh : w.store.fresh = v.source.fresh)
    {p : Provisioning.Provisioned}
    (hp : ((App.ofConfig c granted).attempt v.request v.spare).run w = (.ok p, t))
    (hclock : p.session.createdAt.nanoseconds ≤ v.now.nanoseconds) :
    let response := (((App.ofConfig c granted).handle v.request v.spare v.now).run w).1
    let name := c.session.cookieName
    (Sends c.session p.session response ↔ IsCookieName name) ∧
    (Http.IsSendable name → response.status = 200 ∧
      ∃ cookie, response.setCookie = some cookie ∧ cookieName cookie = Text.before '=' name) ∧
    (¬ Http.IsSendable name → response = .text 500 "failed to parse header value") := by
  intro response name
  have hresponse : response = loginResponse c.session v.now (.ok p) := run_handle hv hp
  obtain ⟨⟨bits, htoken⟩, hsemicolon, hage⟩ :=
    token_maxAge_of_attempt hfresh (congrArg Prod.fst hp) hclock
  rw [hresponse]
  refine ⟨sends_loginResponse_iff htoken hsemicolon hage, fun hsendable => ?_,
    loginResponse_of_not_isSendable v.now htoken⟩
  rw [loginResponse_of_isSendable v.now htoken hsendable]
  exact ⟨rfl, _, rfl, cookieName_sessionCookie c.session p.session v.now⟩

/-- What an administrator sets for a server that offers Odoo alone, with a name for its cookie. -/
def sampleLayer (name : String) : Config.Layer where
  logging := some ⟨some "info"⟩
  odoo := some ⟨some "https://[::1]:8069", some "prod", none, none, some false⟩
  session := some ⟨some name, none⟩

def namedConfig (name : String) : Config.Resolved :=
  { sampleConfig with session := ⟨name, false⟩ }

theorem resolve_sampleLayer {name : String} (h : name ≠ "") :
    (sampleLayer name).resolve = .ok (namedConfig name) := by
  have hname : Option.filter Config.nonEmpty (some name) = some name := by
    simp [Option.filter, Config.nonEmpty, h]
  have hsession : (Config.SessionLayer.mk (some name) none).resolve = ⟨name, false⟩ := by
    rw [Config.SessionLayer.resolve, hname]
    rfl
  have hodoo : (Config.OdooLayer.mk (some "https://[::1]:8069") (some "prod") none none
      (some false)).resolve = sampleConfig.odoo := by
    decide +kernel
  refine Config.Layer.resolve_eq_ok_iff.mpr ⟨?_, rfl⟩
  rw [namedConfig, ← hsession, Config.Layer.described]
  simp only [sampleLayer, Option.getD_some, hodoo]
  rfl

theorem exists_firstLogin (name : String) :
    let app := App.ofConfig (namedConfig name) fun _ => false
    let first := sampleVisit "42" "bob" 0
    first.IsLogin ∧ ∃ p t,
      (app.attempt first.request first.spare).run (first.world .empty) = (.ok p, t) ∧
      p.session.createdAt.nanoseconds ≤ first.now.nanoseconds ∧
      (app.serve .empty first).2.users = [p.user] ∧
      (app.serve .empty first).2.sessions = [p.session] := by
  intro app first
  have hlogin : first.IsLogin := by decide +kernel
  have hv : (App.ofConfig sampleConfig fun _ => false).authenticated? first =
      some ⟨42, "bob", "", none, false, false, []⟩ := by
    decide +kernel
  obtain ⟨p, hp, h⟩ : ∃ p, (first.outcome app .empty).1 = .ok p ∧
      LoggedIn first _ .empty p (first.outcome app .empty).2.store.store :=
    exists_loggedIn hv rfl
  have hrun : (app.attempt first.request first.spare).run (first.world .empty) =
      (.ok p, (first.outcome app .empty).2) := Prod.ext hp rfl
  obtain ⟨s, user, client, hsession⟩ := exists_issue (congrArg Prod.fst hrun)
  have hcreated : p.created = true := h.created_iff.mpr rfl
  have husers : (app.serve .empty first).2.users = [p.user] := by
    rw [hlogin.serve_eq, h.users, hcreated]
    rfl
  have hsessions : (app.serve .empty first).2.sessions = [p.session] := by
    rw [hlogin.serve_eq, h.sessions]
    rfl
  refine ⟨hlogin, p, _, hrun, ?_, husers, hsessions⟩
  rw [hsession]
  exact Int.le_of_eq rfl

/-- The default name, under which the cookie carries the session. -/
theorem firstLogin_sends :
    let app := App.ofConfig (namedConfig "FEDLINKAUTHTOKEN") fun _ => false
    let first := sampleVisit "42" "bob" 0
    ∃ p t, first.IsLogin ∧
      (app.attempt first.request first.spare).run (first.world .empty) = (.ok p, t) ∧
      p.session.createdAt.nanoseconds ≤ first.now.nanoseconds ∧
      Sends (namedConfig "FEDLINKAUTHTOKEN").session p.session (app.serve .empty first).1 := by
  intro app first
  obtain ⟨hlogin, p, t, hp, hclock, -, -⟩ := exists_firstLogin "FEDLINKAUTHTOKEN"
  refine ⟨p, t, hlogin, hp, hclock, ?_⟩
  obtain ⟨hsends, -, -⟩ := login_sends_iff (namedConfig "FEDLINKAUTHTOKEN") (fun _ => false) hlogin
    (w := first.world .empty) rfl hp hclock
  exact hsends.mpr ⟨by decide, by decide⟩

/-- A name with a line break in it, which can be configured. The session is there, but the answer is
an error. -/
theorem brokenName_sends_nothing :
    let app := App.ofConfig (namedConfig "fed\nlink") fun _ => false
    let first := sampleVisit "42" "bob" 0
    (sampleLayer "fed\nlink").resolve = .ok (namedConfig "fed\nlink") ∧ first.IsLogin ∧ ∃ p t,
      (app.attempt first.request first.spare).run (first.world .empty) = (.ok p, t) ∧
      p.session.createdAt.nanoseconds ≤ first.now.nanoseconds ∧
      (app.serve .empty first).2.users = [p.user] ∧
      (app.serve .empty first).2.sessions = [p.session] ∧
      (app.serve .empty first).1 = .text 500 "failed to parse header value" ∧
      ¬ Sends (namedConfig "fed\nlink").session p.session (app.serve .empty first).1 := by
  intro app first
  obtain ⟨hlogin, p, t, hp, hclock, husers, hsessions⟩ := exists_firstLogin "fed\nlink"
  have hfresh : (first.world .empty).store.fresh = lengthening.fresh := rfl
  obtain ⟨⟨bits, htoken⟩, -, -⟩ :=
    token_maxAge_of_attempt hfresh (congrArg Prod.fst hp) hclock
  have hresponse : (app.serve .empty first).1 = .text 500 "failed to parse header value" :=
    (run_handle hlogin hp).trans (loginResponse_of_not_isSendable first.now htoken (by decide))
  refine ⟨resolve_sampleLayer (by decide), hlogin, p, t, hp, hclock, husers, hsessions,
    hresponse, ?_⟩
  rw [hresponse]
  exact not_sends_of_text _ _

end Server

end FederatedLogin
