import FederatedLogin.Proofs.Lookup
import FederatedLogin.Proofs.Server.Cookie
import FederatedLogin.Proofs.Server.Visit

/-! # Logins one after another

A server that handles one request after another keeps one local user for every Odoo user who logs
in, whatever the names and addresses that Odoo tells of them.
-/

namespace FederatedLogin.Server

def Response.member? (key : String) (r : Response) : Option Json :=
  match r.body with
  | .json v => v.member? key
  | .text _ | .none => none

/-- The response tells a client who has been logged in, and whether the user is new. -/
structure LogsIn (r : Response) (id : UserId) (email : String) (create : Bool) : Prop where
  status : r.status = 200
  cookie : r.setCookie.isSome = true
  userId : r.member? "user_id" = some (.string id.text)
  email : r.member? "email" = some (.string email)
  create : r.member? "create" = some (.bool create)

/-! ## What a client is told -/

theorem lookup_insertMember (k k' : String) (v : Json) (ms : List (String × Json)) :
    (Json.insertMember k v ms).lookup k' = if k' = k then some v else ms.lookup k' := by
  induction ms with
  | nil => exact lookup_cons_eq_ite k k' v []
  | cons m ms ih =>
    obtain ⟨k₀, v₀⟩ := m
    rw [Json.insertMember]
    split
    next => exact lookup_cons_eq_ite k k' v _
    next =>
      split
      next hk =>
        subst hk
        rw [lookup_cons_eq_ite, lookup_cons_eq_ite]
        split <;> rfl
      next hk =>
        rw [lookup_cons_eq_ite, lookup_cons_eq_ite, ih]
        by_cases h : k' = k
        · rw [if_pos h, if_pos h, if_neg (h ▸ hk)]
        · rw [if_neg h, if_neg h]

theorem logsIn_of_ok {c : Config.SessionConfig} (hcookie : Http.isHeaderValue c.cookieName = true)
    {p : Provisioning.Provisioned} {bits : Nat} (ht : p.session.token = ⟨Session.tokenText bits⟩)
    (now : Instant) : LogsIn (loginResponse c now (.ok p)) p.user.id p.user.email p.created := by
  rw [loginResponse_of_isSendable now ht (Http.isHeaderValue_iff.mp hcookie)]
  constructor
  · rfl
  · rfl
  all_goals
    simp [Response.member?, Response.json, Response.ofBody, loginSummary, User.sanitized,
      Json.ofMembers, Json.member?, lookup_insertMember]

/-! ## The store between visits -/

namespace App

def after (app : App) (s : Store) : List Visit → Store
  | [] => s
  | v :: vs => app.after (app.serve s v).2 vs

/-- The response to a visit after others, where the store was empty at first. -/
def responseTo (app : App) (before : List Visit) (v : Visit) : Response :=
  (app.serve (app.after .empty before) v).1

/-- The ids of the people whom Odoo has authenticated in visits. -/
def uids (app : App) (vs : List Visit) : List Int :=
  vs.filterMap fun v => (app.account? v).map (·.uid)

/-- Whether the name that a visit falls back on is always a new one. -/
def NamesAnew (app : App) (s : Store) : List Visit → Prop
  | [] => True
  | v :: vs => s.hasUsername v.spare.second = false ∧ app.NamesAnew (app.serve s v).2 vs

instance decidableNamesAnew (app : App) :
    (s : Store) → (vs : List Visit) → Decidable (app.NamesAnew s vs)
  | _, [] => isTrue trivial
  | s, v :: vs =>
    have := decidableNamesAnew app (app.serve s v).2 vs
    inferInstanceAs (Decidable (s.hasUsername v.spare.second = false ∧
      app.NamesAnew (app.serve s v).2 vs))

end App

/-- The users of a store are the people with the given ids, each under the email that belongs to the
id. -/
structure Keeps (s : Store) (uids : List Int) : Prop where
  sound : s.Sound
  uid_of_user : ∀ u ∈ s.users, ∃ uid ∈ uids, u.email = Odoo.syntheticEmail uid
  user_of_uid : ∀ uid ∈ uids, ∃ u ∈ s.users, u.email = Odoo.syntheticEmail uid

section Keeps

variable {app : App} {s : Store} {uids : List Int} {uid : Int} {u : User} {v : Visit}
  {account : Odoo.Account}

theorem keeps_empty : Keeps .empty [] := ⟨Store.sound_empty, nofun, nofun⟩

theorem Keeps.userByEmail?_eq_none_iff (h : Keeps s uids) :
    s.userByEmail? (Odoo.syntheticEmail uid) = none ↔ uid ∉ uids := by
  rw [Store.userByEmail?, List.find?_eq_none]
  constructor
  · intro hnone hmem
    obtain ⟨u, hu, he⟩ := h.user_of_uid uid hmem
    exact hnone u hu (he ▸ Text.sameIgnoringCase_refl _)
  · intro hmem u hu hsame
    obtain ⟨uid', hmem', he⟩ := h.uid_of_user u hu
    rw [he, Odoo.sameIgnoringCase_syntheticEmail_iff] at hsame
    exact hmem (hsame ▸ hmem')

theorem Keeps.email_of_found (h : Keeps s uids)
    (hu : s.userByEmail? (Odoo.syntheticEmail uid) = some u) :
    u.email = Odoo.syntheticEmail uid := by
  obtain ⟨uid', _, he⟩ := h.uid_of_user u (List.mem_of_find?_eq_some hu)
  have hsame := Store.email_of_userByEmail? hu
  rw [he, Odoo.sameIgnoringCase_syntheticEmail_iff] at hsame
  rw [he, hsame]

theorem Keeps.settled {t : Store} {i : Identity} {created : Bool} (h : Keeps s uids)
    (hi : i.email = Odoo.syntheticEmail uid) (ht : Provisioning.Settled i s u created t)
    (hsound : t.Sound) : Keeps t (uids ++ [uid]) := by
  have hold : ∀ w ∈ s.users, ∃ uid' ∈ uids ++ [uid], w.email = Odoo.syntheticEmail uid' := by
    intro w hw
    obtain ⟨uid', hmem, he⟩ := h.uid_of_user w hw
    exact ⟨uid', List.mem_append_left _ hmem, he⟩
  have huser : ∀ w ∈ t.users, ∃ uid' ∈ uids ++ [uid], w.email = Odoo.syntheticEmail uid' := by
    intro w hw
    rw [ht.users] at hw
    cases created with
    | false => exact hold w (by simpa using hw)
    | true =>
      rcases List.mem_append.mp hw with hw | hw
      · exact hold w hw
      · rw [List.mem_singleton.mp hw]
        exact ⟨uid, List.mem_append_right _ (List.mem_singleton_self uid), (ht.email rfl).trans hi⟩
  refine ⟨hsound, huser, List.forall_mem_append.mpr ⟨?_, List.forall_mem_singleton.mpr ?_⟩⟩
  · intro uid' hmem
    obtain ⟨w, hw, he⟩ := h.user_of_uid uid' hmem
    exact ⟨w, ht.users ▸ List.mem_append_left _ hw, he⟩
  · obtain ⟨uid', _, he⟩ := huser u (List.mem_of_find?_eq_some ht.found)
    have hsame := Store.email_of_userByEmail? ht.found
    rw [he, hi, Odoo.sameIgnoringCase_syntheticEmail_iff] at hsame
    exact ⟨u, List.mem_of_find?_eq_some ht.found, hsame ▸ he⟩

theorem Keeps.serve_some (h : Keeps s uids) (hfree : s.hasUsername v.spare.second = false)
    (hv : app.account? v = some account) : ∃ p bits,
    (app.serve s v).1 = loginResponse app.session v.now (.ok p) ∧
    p.session.token = ⟨Session.tokenText bits⟩ ∧
    (app.serve s v).2.userByEmail? (Odoo.syntheticEmail account.uid) = some p.user ∧
    p.user.email = Odoo.syntheticEmail account.uid ∧
    (p.created = true ↔ account.uid ∉ uids) ∧
    Keeps (app.serve s v).2 (uids ++ [account.uid]) := by
  obtain ⟨i, hemail, hserve⟩ := serve_of_account? (s := s) hv
  obtain ⟨p, t, hrun, hsettled, bits, ht⟩ := Provisioning.provision_run v.source i
    (clientContext v.request.headers) v.spare s (hemail ▸ Odoo.syntheticEmail_ne_empty _)
    (Username.generated_ne_empty _) (Username.generated_ne_empty _) fun _ _ => hfree
  have hsound := h.sound.run v.source
    (Provisioning.provision i (clientContext v.request.headers) v.spare)
  rw [hserve, Visit.provisioned, hrun]
  rw [hrun] at hsound
  have hfound : t.userByEmail? (Odoo.syntheticEmail account.uid) = some p.user :=
    hemail ▸ hsettled.found
  have hkeeps := h.settled hemail hsettled hsound
  refine ⟨p, bits, rfl, ht, hfound, hkeeps.email_of_found hfound, ?_, hkeeps⟩
  rw [hsettled.created_iff, hemail, h.userByEmail?_eq_none_iff]

theorem Keeps.serve (h : Keeps s uids) (hfree : s.hasUsername v.spare.second = false) :
    Keeps (app.serve s v).2 (uids ++ app.uids [v]) := by
  cases hv : app.account? v with
  | none =>
    rw [serve_of_account?_eq_none hv]
    simpa [App.uids, hv] using h
  | some account =>
    obtain ⟨_, _, _, _, _, _, _, hkeeps⟩ := h.serve_some hfree hv
    simpa [App.uids, hv] using hkeeps

theorem serve_keepsUsers (app : App) (s : Store) (v : Visit) :
    s.users <+: (app.serve s v).2.users := by
  cases hv : app.account? v with
  | none =>
    have hs : (app.serve s v).2 = s := serve_of_account?_eq_none hv
    exact ⟨[], by rw [hs, List.append_nil]⟩
  | some account =>
    obtain ⟨i, _, hserve⟩ := serve_of_account? (s := s) hv
    rw [hserve]
    exact Store.run_keepsUsers v.source _ s

end Keeps

section Sequence

variable {app : App} {s : Store} {uids : List Int} {before rest vs : List Visit}

theorem after_append : app.after s (before ++ rest) = app.after (app.after s before) rest := by
  induction before generalizing s with
  | nil => rfl
  | cons v before ih => exact ih

theorem namesAnew_append : app.NamesAnew s (before ++ rest) ↔
    app.NamesAnew s before ∧ app.NamesAnew (app.after s before) rest := by
  induction before generalizing s with
  | nil => exact (and_iff_right trivial).symm
  | cons v before ih =>
    rw [List.cons_append, App.NamesAnew, App.NamesAnew, ih, and_assoc, App.after]

theorem after_keepsUsers (app : App) (s : Store) (vs : List Visit) :
    s.users <+: (app.after s vs).users := by
  induction vs generalizing s with
  | nil => exact List.prefix_rfl
  | cons v vs ih => exact (serve_keepsUsers app s v).trans (ih _)

theorem Keeps.after (h : Keeps s uids) (hvs : app.NamesAnew s vs) :
    Keeps (app.after s vs) (uids ++ app.uids vs) := by
  induction vs generalizing s uids with
  | nil => rwa [App.uids, List.filterMap_nil, List.append_nil]
  | cons v vs ih =>
    have huids : uids ++ app.uids (v :: vs) = (uids ++ app.uids [v]) ++ app.uids vs := by
      rw [List.append_assoc, App.uids, App.uids, App.uids, ← List.filterMap_append]
      rfl
    rw [huids]
    exact ih (h.serve hvs.1) hvs.2

/-- An authenticated person is told of the user whom the store finds under the email ever after. -/
theorem exists_logsIn {v : Visit} {account : Odoo.Account}
    (hcookie : Http.isHeaderValue app.session.cookieName = true)
    (hvs : app.NamesAnew .empty (before ++ v :: rest)) (hv : app.account? v = some account) :
    ∃ u, (app.after .empty (before ++ v :: rest)).userByEmail?
        (Odoo.syntheticEmail account.uid) = some u ∧
      LogsIn (app.responseTo before v) u.id (Odoo.syntheticEmail account.uid)
        (decide (account.uid ∉ app.uids before)) := by
  obtain ⟨hbefore, hfree, _⟩ := namesAnew_append.mp hvs
  obtain ⟨p, bits, hr, ht, hfound, hemail, hcreated, _⟩ :=
    (keeps_empty.after hbefore).serve_some hfree hv
  rw [List.nil_append] at hcreated
  refine ⟨p.user, ?_, ?_⟩
  · rw [after_append]
    exact Store.userByEmail?_mono (after_keepsUsers app _ rest) hfound
  · have hcreate : p.created = decide (account.uid ∉ app.uids before) :=
      Bool.eq_iff_iff.mpr (hcreated.trans decide_eq_true_iff.symm)
    rw [App.responseTo, hr, ← hemail, ← hcreate]
    exact logsIn_of_ok hcookie ht v.now

end Sequence

/-- Of a server that handles requests one after another, every login that Odoo authenticates
succeeds, under the email that belongs to the id at Odoo. Two logins are those of one local user if
and only if they have one id, and the first login of an id is the one that creates the user. -/
theorem logins_keep_users {app : App} {vs : List Visit}
    (hcookie : Http.isHeaderValue app.session.cookieName = true)
    (hvs : app.NamesAnew .empty vs) (before : List Visit) (v : Visit) (rest : List Visit)
    (account : Odoo.Account) (h : vs = before ++ v :: rest) (hv : app.account? v = some account) :
    (∃ id, LogsIn (app.responseTo before v) id
      ("odoo_" ++ Text.decimal account.uid ++ "@odoo.local")
      (decide (account.uid ∉ app.uids before))) ∧
    ∀ before' v' rest' account', vs = before' ++ v' :: rest' → app.account? v' = some account' →
      ((app.responseTo before v).member? "user_id" = (app.responseTo before' v').member? "user_id" ↔
        account.uid = account'.uid) := by
  obtain ⟨u, hu, hlog⟩ := exists_logsIn hcookie (h ▸ hvs) hv
  rw [← h] at hu
  refine ⟨⟨u.id, Odoo.syntheticEmail_eq account.uid ▸ hlog⟩, ?_⟩
  intro before' v' rest' account' h' hv'
  obtain ⟨u', hu', hlog'⟩ := exists_logsIn hcookie (h' ▸ hvs) hv'
  rw [← h'] at hu'
  have hkeeps := keeps_empty.after hvs
  rw [hlog.userId, hlog'.userId]
  constructor
  · intro hid
    injection hid with hid
    injection hid with hid
    have hids : u.id = u'.id := congrArg UserId.mk hid
    have huser : u = u' := Option.some_inj.mp <| by
      rw [← hkeeps.sound.user?_id (List.mem_of_find?_eq_some hu), hids,
        hkeeps.sound.user?_id (List.mem_of_find?_eq_some hu')]
    apply Odoo.sameIgnoringCase_syntheticEmail_iff.mp
    rw [← hkeeps.email_of_found hu, ← hkeeps.email_of_found hu', huser]
    exact Text.sameIgnoringCase_refl _
  · intro huid
    rw [huid, hu', Option.some_inj] at hu
    rw [hu]

def unused (texts : List String) : String := .ofList ((texts.map String.toList).flatten ++ ['x'])

theorem ne_unused {texts : List String} {text : String} (h : text ∈ texts) :
    text ≠ unused texts := by
  intro he
  have hpart := (List.sublist_flatten_of_mem (List.mem_map_of_mem (f := String.toList) h)).length_le
  have hlength := congrArg (fun t => t.toList.length) he
  simp only [unused, String.toList_ofList, List.length_append, List.length_singleton] at hlength
  omega

/-- A source of ids that are longer than those in use. -/
def lengthening : Store.Source where
  fresh s := ⟨⟨unused (s.users.map (·.id.text))⟩, ⟨unused (s.teams.map (·.id.text))⟩,
    ⟨unused (s.sessions.map (·.id.text))⟩, ⟨Session.tokenText s.sessions.length⟩, ⟨0⟩⟩
  isNew _ := {
    user := fun _ h he =>
      ne_unused (List.mem_map_of_mem (f := (·.id.text)) h) (congrArg UserId.text he)
    team := fun _ h he =>
      ne_unused (List.mem_map_of_mem (f := (·.id.text)) h) (congrArg TeamId.text he)
    session := fun _ h he =>
      ne_unused (List.mem_map_of_mem (f := (·.id.text)) h) (congrArg SessionId.text he) }
  token s := ⟨s.sessions.length, rfl⟩

def sampleApp : App where
  providers := ⟨.ok ⟨"https://[::1]:8069", "prod", "/jsonrpc", 8000, false⟩, none⟩
  granted _ := false
  session := ⟨"FEDLINKAUTHTOKEN", false⟩

/-- A login of a person of whom Odoo tells the id and the login name. -/
def sampleVisit (uid name : String) (serial : Nat) : Visit where
  request := ⟨"POST", "/auth/odoo/login", [],
    "\x7b\"identifier\":\"bob\",\"secret\":\"secret\"\x7d".toUTF8.toList⟩
  upstream := .scripted
  peer := {
    reachable := true
    script := [answer ("\x7b\"uid\":" ++ uid ++ "\x7d"),
      answer ("[\x7b\"login\":\"" ++ name ++ "\"\x7d]")]
    received := [] : Http.Peer }
  source := lengthening
  firstSerial := 2 * serial
  secondSerial := 2 * serial + 1
  now := ⟨0⟩
where
  answer (result : String) : Http.Reply :=
    .respond 200 ("\x7b\"result\":" ++ result ++ "\x7d").toUTF8.toList

/-- Two people share a login name. When the first of them comes again under another name, it is as
the same user. -/
theorem sampleVisits_two_users :
    let first := sampleVisit "42" "bob" 0
    let second := sampleVisit "7" "bob" 1
    let third := sampleVisit "42" "robert" 2
    Http.isHeaderValue sampleApp.session.cookieName = true ∧
      sampleApp.NamesAnew .empty [first, second, third] ∧
      sampleApp.account? first = some ⟨42, "bob", "", none, false, false, []⟩ ∧
      sampleApp.account? second = some ⟨7, "bob", "", none, false, false, []⟩ ∧
      sampleApp.account? third = some ⟨42, "robert", "", none, false, false, []⟩ ∧
      (∃ id, LogsIn (sampleApp.responseTo [first, second] third) id "odoo_42@odoo.local" false) ∧
      (sampleApp.responseTo [first, second] third).member? "user_id" =
        (sampleApp.responseTo [] first).member? "user_id" ∧
      (sampleApp.responseTo [first, second] third).member? "user_id" ≠
        (sampleApp.responseTo [first] second).member? "user_id" := by
  intro first second third
  have hcookie : Http.isHeaderValue sampleApp.session.cookieName = true := by decide +kernel
  have hvs : sampleApp.NamesAnew .empty [first, second, third] := by decide +kernel
  have hfirst : sampleApp.account? first = some ⟨42, "bob", "", none, false, false, []⟩ := by
    decide +kernel
  have hsecond : sampleApp.account? second = some ⟨7, "bob", "", none, false, false, []⟩ := by
    decide +kernel
  have hthird : sampleApp.account? third = some ⟨42, "robert", "", none, false, false, []⟩ := by
    decide +kernel
  obtain ⟨⟨id, hid⟩, hsame⟩ :=
    logins_keep_users hcookie hvs [first, second] third [] _ rfl hthird
  have hemail : "odoo_" ++ Text.decimal 42 ++ "@odoo.local" = "odoo_42@odoo.local" := by
    decide +kernel
  have huids : sampleApp.uids [first, second] = [42, 7] := by
    simp [App.uids, hfirst, hsecond]
  rw [huids] at hid
  refine ⟨hcookie, hvs, hfirst, hsecond, hthird, ⟨id, hemail ▸ hid⟩, ?_, ?_⟩
  · exact (hsame [] first [second, third] _ rfl hfirst).mpr rfl
  · exact mt (hsame [first] second [third] _ rfl hsecond).mp (by decide)

end FederatedLogin.Server
