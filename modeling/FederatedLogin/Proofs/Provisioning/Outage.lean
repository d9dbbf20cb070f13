import FederatedLogin.Proofs.Provisioning.Retry
import FederatedLogin.Proofs.Provisioning.Rounds
import FederatedLogin.Proofs.Provisioning.Teamwork

/-! # Outages

Calls for the teams may be answered by faults. A run succeeds all the same, and a fault costs it no
more than the organization that the call was for: the others fare as in a run for them alone.
-/

namespace FederatedLogin

namespace Store

def memberIn? (s : Store) (name : String) (user : UserId) : Option Membership :=
  (s.teamByName? name).bind fun x => s.membership? x.id user

/-- Two stores have the same team of a name, and the same place of a user in it. -/
structure SameAt (name : String) (user : UserId) (s t : Store) : Prop where
  team : t.teamByName? name = s.teamByName? name
  member : t.memberIn? name user = s.memberIn? name user

section SameAt

variable {name : String} {user : UserId} {s m t : Store}

theorem SameAt.trans (h : SameAt name user s m) (h' : SameAt name user m t) :
    SameAt name user s t :=
  ⟨h'.team.trans h.team, h'.member.trans h.member⟩

theorem sameAt_of_membership? (hteam : t.teamByName? name = s.teamByName? name)
    (hmember : ∀ x, s.teamByName? name = some x →
      t.membership? x.id user = s.membership? x.id user) : SameAt name user s t where
  team := hteam
  member := by
    rw [memberIn?, memberIn?, hteam]
    cases hfind : s.teamByName? name with
    | none => rfl
    | some x => exact hmember x hfind

theorem sameAt_of_eq (hteams : t.teams = s.teams) (hmembers : t.memberships = s.memberships) :
    SameAt name user s t :=
  sameAt_of_membership? (by rw [teamByName?, hteams]; rfl)
    fun x _ => by rw [membership?, hmembers]; rfl

/-- A team that a store has got later has had no members before. -/
theorem Sound.memberIn?_eq (hs : s.Sound) (ht : t.Sound) (hteams : s.teams ⊆ t.teams) {x : Team}
    (hx : x ∈ t.teams) (user : UserId) : s.memberIn? x.name user = s.membership? x.id user := by
  rw [memberIn?]
  cases hfind : s.teamByName? x.name with
  | some y =>
    obtain ⟨hy, hname⟩ := hs.mem_iff_teamByName?.mp hfind
    rw [ht.eq_of_teamName (hteams hy) hx hname]
    rfl
  | none =>
    refine (membership?_eq_none_iff.mpr fun m hm hkey => ?_).symm
    obtain ⟨y, hy, hid⟩ := hs.member_team m hm
    obtain rfl := ht.eq_of_teamId (hteams hy) hx (hid.trans (congrArg Prod.fst hkey))
    rw [hs.mem_iff_teamByName?.mpr ⟨hy, rfl⟩] at hfind
    cases hfind

end SameAt

end Store

namespace Provisioning

open Store (Call Trace Evolves SameAt Source Watched disturbed executes added)
open Program (Turn bind_eq run_bind path_run turns_bind)

variable {i : Identity} {user : UserId} {o : Organization} {os os' : List Organization}
  {s m t t' : Store} {w : Watched} {source : Source} {turns : List (Turn Call.Answer)}
  {name : String} {may : Call → Store.Fault → Prop}

/-! ## What rounds leave alone -/

theorem added_of_isTeamCall {x : Turn Call.Answer} (h : IsTeamCall x.1) :
    (added x).users = [] ∧ (added x).sessions = [] := by
  obtain ⟨c, a⟩ := x
  cases c <;> cases a <;> first | exact ⟨rfl, rfl⟩ | cases h

theorem users_sessions_of_isTeamCall (h : Evolves s turns t)
    (hturns : ∀ x ∈ turns, IsTeamCall x.1) : t.users = s.users ∧ t.sessions = s.sessions := by
  rw [h.users, h.sessions,
    List.flatMap_eq_nil_iff.mpr fun x hx => (added_of_isTeamCall (hturns x hx)).1,
    List.flatMap_eq_nil_iff.mpr fun x hx => (added_of_isTeamCall (hturns x hx)).2]
  exact ⟨List.append_nil _, List.append_nil _⟩

theorem RoundCall.name_of_added {c : Call} {a : c.Answer} (h : RoundCall user o turns c)
    (hattests : t.Attests ⟨c, a⟩) : ∀ x ∈ (added ⟨c, a⟩).teams, x.name = Slug.ofName o.name := by
  cases h with
  | createTeam =>
    cases a with
    | error e => exact List.forall_mem_nil _
    | ok x => exact List.forall_mem_singleton.mpr hattests.2
  | _ => cases a <;> exact List.forall_mem_nil _

theorem RoundCall.not_about {c : Call} (h : RoundCall user o turns c) {team : TeamId}
    (hteam : ∀ x, KnowsTeam turns (Slug.ofName o.name) x → x.id ≠ team) (user' : UserId)
    (a : c.Answer) : Store.joining? team user' ⟨c, a⟩ = none ∧
      Store.givenRole? team user' ⟨c, a⟩ = none := by
  cases h with
  | join hx =>
    cases a with
    | error e => exact ⟨rfl, rfl⟩
    | ok m => exact ⟨if_neg fun hkey => hteam _ hx (congrArg Prod.fst hkey), rfl⟩
  | grant hx =>
    cases a with
    | error e => exact ⟨rfl, rfl⟩
    | ok m => exact ⟨rfl, if_neg fun hkey => hteam _ hx (congrArg Prod.fst hkey)⟩
  | _ => cases a <;> exact ⟨rfl, rfl⟩

theorem RoundPath.sameAt {joined : Option String} (h : RoundPath user o turns joined)
    (ht : Trace (disturbed may) Eq s turns t) (hs : s.Sound) (hne : Slug.ofName o.name ≠ name)
    (user' : UserId) : SameAt name user' s t := by
  have hevolves := hs.keyed.evolves ht
  have hsound := ht.sound hs
  have hraises : ∀ x ∈ turns, Store.Raises x.1 := fun x hx => (h.calls x hx).raises
  have hattests := ht.attests (fun s _ he => he ▸ .refl s) hraises
  have hgrows := ht.grows (fun s _ he => he ▸ .refl s) hraises
  refine Store.sameAt_of_membership? ?_ fun y hy => hevolves.membership?_eq fun x hx => ?_
  · have hnew : (turns.flatMap fun x => (added x).teams).find? (·.name == name) = none := by
      refine List.find?_eq_none.mpr fun x hx hname => hne ?_
      obtain ⟨turn, hturn, hx⟩ := List.mem_flatMap.mp hx
      rw [← (h.calls _ hturn).name_of_added (hattests _ hturn) x hx]
      simpa using hname
    rw [Store.teamByName?, hevolves.teams, List.find?_append, hnew, Option.or_none]
    rfl
  · obtain ⟨hmem, rfl⟩ := hs.mem_iff_teamByName?.mp hy
    refine (h.calls x hx).not_about (fun z hz hid => hne ?_) user' x.2
    obtain ⟨hz, hzname⟩ := hz.mem hattests
    rw [← hzname, hsound.eq_of_teamId hz (hgrows.teams.subset hmem) hid]

/-! ## Rounds one after another -/

/-- What a state of the store and its faults must be like for a user to join teams. -/
structure Ready (source : Source) (user : UserId) (w : Watched) : Prop where
  fresh : w.fresh = source.fresh
  sound : w.store.Sound
  user : w.store.user? user ≠ none

theorem trace_of_watched {α : Type} (hw : Ready source user w) (p : Store.Use α) :
    Trace (disturbed fun _ _ => True) Eq w.store (p.turns Watched.answer w) (w.run p).2.store :=
  Watched.trace_run p hw.fresh fun _ _ _ => trivial

/-- Whatever the faults, users and sessions stay as they are while teams are joined. -/
theorem Ready.users_sessions {α : Type} {p : Store.Use α} (hw : Ready source user w)
    (hp : p.MakesOnly IsTeamCall) :
    (w.run p).2.store.users = w.store.users ∧ (w.run p).2.store.sessions = w.store.sessions :=
  users_sessions_of_isTeamCall (hw.sound.keyed.evolves (trace_of_watched hw p))
    (hp.of_path (path_run Watched.answer p w))

theorem Ready.run {α : Type} {p : Store.Use α} (hw : Ready source user w)
    (hp : p.MakesOnly IsTeamCall) : Ready source user (w.run p).2 where
  fresh := (Watched.fresh_run p w).trans hw.fresh
  sound := (trace_of_watched hw p).sound hw.sound
  user := by
    rw [Store.user?, (hw.users_sessions hp).1]
    exact hw.user

theorem Ready.joined (hw : Ready source user w) (h : (Round.of i user o w).struck = false) :
    (w.run (joinTeam? i user o)).1.toList = slugs [o] ∧
      Joined i user [o] w.store (w.run (joinTeam? i user o)).2.store := by
  obtain ⟨slug, t, hrun, hslug, hj⟩ := joinTeam?_joined (i := i) source hw.sound hw.user o
  obtain ⟨hresult, hstore⟩ := Watched.run_of_not_isStruck hw.fresh h
  rw [hrun] at hresult hstore
  rw [hresult, hstore]
  exact ⟨hslug, hj⟩

theorem Ready.sameAt (hw : Ready source user w) (hne : Slug.ofName o.name ≠ name) :
    SameAt name user w.store (w.run (joinTeam? i user o)).2.store :=
  (Round.path_of i user o w).sameAt (trace_of_watched hw _) hw.sound hne user

/-! ## One team over all rounds -/

/-- What joining the teams of organizations makes of the team with one name, and of the user's place
in it. -/
structure Follows (i : Identity) (user : UserId) (os : List Organization) (name : String)
    (s t : Store) : Prop where
  kept : name ∉ slugs os → SameAt name user s t
  placed : name ∈ slugs os → ∃ x m, t.teamByName? name = some x ∧ t.memberIn? name user = some m ∧
    Promotes i (s.memberIn? name user) m ∧ (∀ y, s.teamByName? name = some y → x = y) ∧
    (s.teamByName? name = none →
      ∃ o, os.find? (Slug.ofName ·.name == name) = some o ∧ x.displayName = o.name)

theorem follows_nil (h : SameAt name user s t) : Follows i user [] name s t :=
  ⟨fun _ => h, nofun⟩

theorem Follows.append (h : Follows i user os name s m) (h' : Follows i user os' name m t) :
    Follows i user (os ++ os') name s t where
  kept hname := by
    rw [slugs_append, List.mem_append, not_or] at hname
    exact (h.kept hname.1).trans (h'.kept hname.2)
  placed hname := by
    have hne : name ≠ "" := (mem_slugs.mp hname).1
    rw [slugs_append, List.mem_append] at hname
    by_cases hin' : name ∈ slugs os'
    · obtain ⟨x', m', hx', hm', hpromotes', hkept', hfirst'⟩ := h'.placed hin'
      by_cases hin : name ∈ slugs os
      · obtain ⟨x, n, hx, hn, hpromotes, hkept, hfirst⟩ := h.placed hin
        rw [hn] at hpromotes'
        obtain rfl := hkept' x hx
        refine ⟨x', m', hx', hm', hpromotes.trans hpromotes', hkept, fun hnone => ?_⟩
        obtain ⟨o, ho, hdisplay⟩ := hfirst hnone
        exact ⟨o, by rw [List.find?_append, ho, Option.some_or], hdisplay⟩
      · have hsame := h.kept hin
        rw [hsame.member] at hpromotes'
        rw [hsame.team] at hkept' hfirst'
        refine ⟨x', m', hx', hm', hpromotes', hkept', ?_⟩
        rwa [List.find?_append, find?_eq_none_of_not_mem_slugs hne hin, Option.none_or]
    · obtain ⟨x, n, hx, hn, hpromotes, hkept, hfirst⟩ := h.placed (hname.resolve_right hin')
      have hsame := h'.kept hin'
      refine ⟨x, n, hsame.team.trans hx, hsame.member.trans hn, hpromotes, hkept, fun hnone => ?_⟩
      obtain ⟨o, ho, hdisplay⟩ := hfirst hnone
      exact ⟨o, by rw [List.find?_append, ho, Option.some_or], hdisplay⟩

theorem Joined.follows (h : Joined i user os s t) (hs : s.Sound) (name : String) :
    Follows i user os name s t where
  kept hname := by
    obtain ⟨added, ht, hadded, _⟩ := h.teams
    have hnew : added.find? (·.name == name) = none := by
      refine List.find?_eq_none.mpr fun x hx he => hname ?_
      exact ((hadded name).mp ⟨x, hx, by simpa using he⟩).1
    refine Store.sameAt_of_membership? ?_ fun y hy => h.others y.id user fun _ x hx hid hin => ?_
    · rw [Store.teamByName?, ht, List.find?_append, hnew, Option.or_none]
      rfl
    · obtain ⟨hmem, rfl⟩ := hs.mem_iff_teamByName?.mp hy
      rw [h.sound.eq_of_teamId hx (h.teams_subset hmem) hid] at hin
      exact hname hin
  placed hname := by
    obtain ⟨x, hx, rfl⟩ := h.exists_team hname
    obtain ⟨m, hm, hpromotes⟩ := h.placed x hx hname
    have hfound : t.teamByName? x.name = some x := h.sound.mem_iff_teamByName?.mpr ⟨hx, rfl⟩
    rw [← hs.memberIn?_eq h.sound h.teams_subset hx] at hpromotes
    refine ⟨x, m, hfound, by rw [Store.memberIn?, hfound]; exact hm, hpromotes, ?_, ?_⟩
    · intro y hy
      obtain ⟨hmem, hyname⟩ := hs.mem_iff_teamByName?.mp hy
      exact h.sound.eq_of_teamName hx (h.teams_subset hmem) hyname.symm
    · intro hnone
      obtain ⟨added, ht, _, hfirst⟩ := h.teams
      rw [ht, List.mem_append] at hx
      refine hfirst x (hx.resolve_left fun hmem => ?_)
      rw [hs.mem_iff_teamByName?.mpr ⟨hmem, rfl⟩] at hnone
      cases hnone

/-- A team whose name is the slug of no failing organization, and the user's place in it, come to
what the surviving organizations make of them. -/
theorem Ready.follows (hw : Ready source user w)
    (hname : name ∉ slugs (failing (rounds i user os w))) :
    Follows i user (surviving (rounds i user os w)) name w.store
      (w.run (joinTeams i user os)).2.store := by
  induction os generalizing w with
  | nil => exact follows_nil ⟨rfl, rfl⟩
  | cons o os ih =>
    have hrest := hw.run (joinTeam?_makesOnly i user o)
    rw [run_joinTeams_cons]
    rw [rounds, failing_cons] at hname
    rw [rounds, surviving_cons]
    cases hstruck : (Round.of i user o w).struck with
    | false =>
      rw [hstruck, if_neg Bool.false_ne_true] at hname
      exact ((hw.joined hstruck).2.follows hw.sound name).append (ih hrest hname)
    | true =>
      rw [hstruck, if_pos rfl, Round.organization_of, slugs_cons, List.mem_append, not_or,
        slugs_singleton_of_ne (Round.slug_ne_of_struck hstruck), List.mem_singleton] at hname
      exact (follows_nil (hw.sameAt (Ne.symm hname.1))).append (ih hrest hname.2)

/-- But for the slugs of failing organizations, the surviving ones are reported. -/
theorem Ready.reported_eq (hw : Ready source user w) {names : List String}
    (hnames : slugs (failing (rounds i user os w)) ⊆ names) :
    (reported (rounds i user os w)).filter (· ∉ names) =
      (slugs (surviving (rounds i user os w))).filter (· ∉ names) := by
  induction os generalizing w with
  | nil => rfl
  | cons o os ih =>
    have hrest := hw.run (joinTeam?_makesOnly i user o)
    rw [reported_cons, List.filter_append, rounds, surviving_cons]
    rw [rounds, failing_cons] at hnames
    cases hstruck : (Round.of i user o w).struck with
    | false =>
      rw [hstruck, if_neg Bool.false_ne_true] at hnames
      rw [if_neg Bool.false_ne_true, Round.organization_of, slugs_cons, List.filter_append,
        (hw.joined hstruck).1, ih hrest hnames]
    | true =>
      rw [hstruck, if_pos rfl, Round.organization_of, slugs_cons] at hnames
      obtain ⟨ho, hos⟩ := List.append_subset.mp hnames
      have hnone : (w.run (joinTeam? i user o)).1.toList.filter (· ∉ names) = [] := by
        refine List.filter_eq_nil_iff.mpr fun name hname => ?_
        simpa using ho ((Round.toList_sublist i user o w).subset hname)
      rw [if_pos rfl, hnone, List.nil_append, ih hrest hos]

/-! ## With faults and without -/

/-- In two stores that have come from one, the team with a name is the same, and so is the place of
a user in it, up to the ids and times of what is new. -/
structure SamePlace (s t t' : Store) (name : String) (user : UserId) : Prop where
  display : (t.teamByName? name).map (·.displayName) = (t'.teamByName? name).map (·.displayName)
  role : (t.memberIn? name user).map (·.role) = (t'.memberIn? name user).map (·.role)
  keptTeam : ∀ x, s.teamByName? name = some x →
    t.teamByName? name = some x ∧ t'.teamByName? name = some x
  keptMember : ∀ m, s.memberIn? name user = some m → ∃ role,
    t.memberIn? name user = some { m with role } ∧ t'.memberIn? name user = some { m with role }

theorem Follows.samePlace (h : Follows i user os name s t) (h' : Follows i user os name s t') :
    SamePlace s t t' name user := by
  by_cases hname : name ∈ slugs os
  · obtain ⟨x, m, hx, hm, hpromotes, hkept, hfirst⟩ := h.placed hname
    obtain ⟨x', m', hx', hm', hpromotes', hkept', hfirst'⟩ := h'.placed hname
    have hrole : m'.role = m.role := hpromotes'.role.trans hpromotes.role.symm
    refine ⟨?_, ?_, fun y hy => ?_, fun n hn => ⟨m.role, ?_, ?_⟩⟩
    · rw [hx, hx', Option.map_some, Option.map_some]
      cases hbefore : s.teamByName? name with
      | some y => rw [hkept y hbefore, hkept' y hbefore]
      | none =>
        obtain ⟨o, ho, hdisplay⟩ := hfirst hbefore
        obtain ⟨o', ho', hdisplay'⟩ := hfirst' hbefore
        rw [hdisplay, hdisplay', Option.some.inj (ho.symm.trans ho')]
    · rw [hm, hm', Option.map_some, Option.map_some, hrole]
    · exact ⟨hkept y hy ▸ hx, hkept' y hy ▸ hx'⟩
    · rw [hm, ← hpromotes.kept n hn]
    · rw [hm', ← hrole, ← hpromotes'.kept n hn]
  · have hsame := h.kept hname
    have hsame' := h'.kept hname
    refine ⟨?_, ?_, fun y hy => ?_, fun n hn => ⟨n.role, ?_, ?_⟩⟩
    · rw [hsame.team, hsame'.team]
    · rw [hsame.member, hsame'.member]
    · exact ⟨hsame.team.trans hy, hsame'.team.trans hy⟩
    · exact hsame.member.trans hn
    · exact hsame'.member.trans hn

section WithOrganizations

variable (i) (os)

theorem resolveConflict_withOrganizations (spare : SpareNames) :
    resolveConflict { i with organizations := os } spare = resolveConflict i spare := by
  refine congrArg (Program.call (Call.findUserByEmail i.email)) (funext fun found => ?_)
  match found with
  | .error e => rfl
  | .ok (some u) => rfl
  | .ok none =>
    refine congrArg (Program.call (Call.createUser (newUser i spare.second)))
      (funext fun created => ?_)
    match created with
    | .error e => rfl
    | .ok u => rfl

theorem findOrCreateUser_withOrganizations (spare : SpareNames) :
    findOrCreateUser { i with organizations := os } spare = findOrCreateUser i spare := by
  refine congrArg (Program.call (Call.findUserByEmail i.email)) (funext fun found => ?_)
  match found with
  | .error e => rfl
  | .ok (some u) => rfl
  | .ok none =>
    refine congrArg (Program.call (Call.createUser (newUser i (i.localUsername spare.first))))
      (funext fun created => ?_)
    match created with
    | .ok u => rfl
    | .error (.conflict what) => exact resolveConflict_withOrganizations i os spare
    | .error (.notFound what) => rfl
    | .error (.invalid what) => rfl
    | .error (.unavailable what) => rfl

theorem establish_withOrganizations (client : ClientContext) (spare : SpareNames) :
    establish { i with organizations := os } client spare = establish i client spare := by
  rw [establish, findOrCreateUser_withOrganizations, establish]

theorem joinTeams_withOrganizations (user : UserId) (os' : List Organization) :
    joinTeams { i with organizations := os } user os' = joinTeams i user os' := by
  induction os' with
  | nil => rfl
  | cons o os' ih =>
    rw [joinTeams, joinTeams, ih]
    rfl

end WithOrganizations

theorem isTeamCall_of_operation {c : Call} (h : c.operation ∈ Round.operations) :
    IsTeamCall c := by
  cases c <;> trivial

def roundsOf (i : Identity) (client : ClientContext) (spare : SpareNames) (user : UserId)
    (w : Watched) : List Round :=
  rounds i user i.organizations (w.run (establish i client spare)).2

/-- How a run that faults have met with compares to one without faults for the organizations that
they have spared. -/
structure Isolates (i : Identity) (s : Store) (rs : List Round) (p : Provisioned) (t : Store)
    (p' : Provisioned) (t' : Store) : Prop where
  organizations : rs.map (·.organization) = i.organizations
  calls : ∀ r ∈ rs, (r.turns.map (·.1.operation)).Sublist Round.operations ∧
    (r.slug = "" → r.turns = [])
  teams : p.teams = reported rs
  selection : p.teams.Sublist (slugs i.organizations)
  spared : p'.teams = slugs (surviving rs)
  rest : { p' with teams := p.teams } = p
  entries : p.teams.filter (· ∉ slugs (failing rs)) = p'.teams.filter (· ∉ slugs (failing rs))
  places : ∀ name, name ∉ slugs (failing rs) → SamePlace s t t' name p.user.id
  placed : ∀ name, name ∉ slugs (failing rs) → name ∈ slugs (surviving rs) →
    t.memberIn? name p.user.id ≠ none

section Outage

variable {client : ClientContext} {spare : SpareNames} {p : Provisioned} {w' : Watched}

theorem run_establish (i : Identity) (client : ClientContext) (spare : SpareNames)
    (hw : w.fresh = source.fresh) (hfaults : ∀ f ∈ w.faults, f.1 ∈ Round.operations) :
    (w.run (establish i client spare)).1 =
        ((establish i client spare).run source.answer w.store).1 ∧
      (w.run (establish i client spare)).2.store =
        ((establish i client spare).run source.answer w.store).2 :=
  Watched.run_of_not_isStruck hw <| Watched.isStruck_eq_false
    (establish_makesNoTeamCall i client spare)
    fun f hf _ hc he => hc (isTeamCall_of_operation (he ▸ hfaults f hf))

theorem run_provision (h : (w.run (establish i client spare)).1 = .ok p) :
    w.run (provision i client spare) =
      (.ok { p with teams := reported (roundsOf i client spare p.user.id w) },
        ((w.run (establish i client spare)).2.run (joinTeams i p.user.id i.organizations)).2) := by
  rw [roundsOf, ← run_joinTeams, provision_eq_joinAfter, Watched.run, bind_eq, run_bind]
  rw [Watched.run] at h
  rw [h, joinAfter, bind_eq, run_bind]
  rfl

theorem turns_provision (h : (w.run (establish i client spare)).1 = .ok p) :
    (provision i client spare).turns Watched.answer w =
      (establish i client spare).turns Watched.answer w ++
        (roundsOf i client spare p.user.id w).flatMap (·.turns) := by
  rw [Watched.run] at h
  rw [roundsOf, ← turns_joinTeams, provision_eq_joinAfter, bind_eq, turns_bind, h, joinAfter,
    bind_eq, turns_bind]
  exact congrArg (_ ++ ·) (List.append_nil _)

theorem provision_run_withOrganizations {names : List String}
    (h : (establish i client spare).run source.answer s = (.ok p, m))
    (hjoin : (joinTeams i p.user.id os).run source.answer m = (names, t)) :
    (provision { i with organizations := os } client spare).run source.answer s =
      (.ok { p with teams := names }, t) := by
  rw [← establish_withOrganizations i os] at h
  rw [← joinTeams_withOrganizations i os] at hjoin
  exact provision_run_eq h hjoin

theorem user?_ne_none_of_establish (hm : m.Sound)
    (h : (establish i client spare).run source.answer s = (.ok p, m)) :
    m.user? p.user.id ≠ none := by
  have hjoin : (joinTeams i p.user.id []).run source.answer m = ([], m) := rfl
  obtain ⟨hsessions, huser, -⟩ := provision_session (provision_run_withOrganizations h hjoin)
  have hsession : p.session ∈ m.sessions := hsessions ▸ List.mem_append_right _ List.mem_cons_self
  rw [Store.user?_ne_none_iff, ← huser]
  exact hm.session_user p.session hsession

theorem ready_of_establish (hw : w.fresh = source.fresh) (hs : w.store.Sound)
    (hfaults : ∀ f ∈ w.faults, f.1 ∈ Round.operations)
    (h : (w.run (establish i client spare)).1 = .ok p) :
    (establish i client spare).run source.answer w.store =
        (.ok p, (w.run (establish i client spare)).2.store) ∧
      Ready source p.user.id (w.run (establish i client spare)).2 := by
  obtain ⟨hresult, hstore⟩ := run_establish i client spare hw hfaults
  have hrun : (establish i client spare).run source.answer w.store =
      (.ok p, (w.run (establish i client spare)).2.store) :=
    Prod.ext (hresult.symm.trans h) hstore.symm
  have hsound := hs.run source (establish i client spare)
  rw [← hstore] at hsound
  exact ⟨hrun, (Watched.fresh_run _ w).trans hw, hsound, user?_ne_none_of_establish hsound hrun⟩

theorem sameAt_of_establish
    (h : (establish i client spare).run source.answer s = (.ok p, m)) (name : String)
    (user : UserId) : SameAt name user s m := by
  obtain ⟨hteams, hmembers⟩ := teams_run source (establish_makesNoTeamCall i client spare) s
  rw [h] at hteams hmembers
  exact Store.sameAt_of_eq hteams hmembers

/-- Faults of the teams, and other organizations, change nothing in a result but the teams. -/
theorem withoutTeams_run (hw : w.fresh = source.fresh)
    (hfaults : ∀ f ∈ w.faults, f.1 ∈ Round.operations) :
    withoutTeams (w.run (provision i client spare)).1 = withoutTeams
      ((provision { i with organizations := os } client spare).run source.answer w.store).1 := by
  rw [Watched.run, withoutTeams_provision, withoutTeams_provision, establish_withOrganizations i os,
    ← (run_establish i client spare hw hfaults).1, Watched.run]

/-- A run whose calls for the teams may meet with faults, and which succeeds. -/
theorem provision_isolates (hw : w.fresh = source.fresh) (hs : w.store.Sound)
    (hfaults : ∀ f ∈ w.faults, f.1 ∈ Round.operations)
    (h : w.run (provision i client spare) = (.ok p, w')) :
    (provision i client spare).turns Watched.answer w =
        (establish i client spare).turns Watched.answer w ++
          (roundsOf i client spare p.user.id w).flatMap (·.turns) ∧
      ∃ p' t', (provision { i with
            organizations := surviving (roundsOf i client spare p.user.id w) } client spare).run
          source.answer w.store = (.ok p', t') ∧
        Isolates i w.store (roundsOf i client spare p.user.id w) p w'.store p' t' := by
  -- the run as far as its session
  have hresult := withoutTeams_provision Watched.answer i client spare w
  rw [← Watched.run, h] at hresult
  obtain ⟨q, hq⟩ : ∃ q, (w.run (establish i client spare)).1 = .ok q :=
    exists_ok_of_withoutTeams hresult.symm
  obtain ⟨hok, rfl⟩ := Prod.ext_iff.mp (h.symm.trans (run_provision hq))
  obtain rfl := Except.ok.inj hok
  obtain ⟨hrun, hready⟩ := ready_of_establish hw hs hfaults hq
  have hkept (name : String) := follows_nil (i := i) (sameAt_of_establish hrun name q.user.id)
  -- its rounds, and those of the run without faults
  obtain ⟨t', hjoin, hjoined⟩ := joinTeams_joined (i := i) source hready.sound hready.user
    (surviving (roundsOf i client spare q.user.id w))
  have hfollows (name : String)
      (hname : name ∉ slugs (failing (roundsOf i client spare q.user.id w))) :=
    (hkept name).append (hready.follows hname)
  refine ⟨turns_provision (p := q) hq, _, t', provision_run_withOrganizations hrun hjoin, ?_⟩
  exact {
    organizations := organizations_rounds
    calls := fun r hr => by
      obtain ⟨_, hpath⟩ := roundPath_of_mem hr
      exact ⟨hpath.operations, hpath.eq_nil⟩
    teams := rfl
    selection := reported_sublist
    spared := rfl
    rest := rfl
    entries := hready.reported_eq (List.Subset.refl _)
    places := fun name hname => (hfollows name hname).samePlace
      ((hkept name).append (hjoined.follows hready.sound name))
    placed := fun name hname hsurviving => by
      obtain ⟨_, n, _, hn, _⟩ := (hfollows name hname).placed hsurviving
      exact Option.ne_none_iff_exists'.mpr ⟨n, hn⟩ }

end Outage

def Attempt.rounds (a : Attempt) (i : Identity) (s : Store) (user : UserId) : List Round :=
  roundsOf i a.client (a.run i).spare user (a.watched s)

/-- Faults that strike calls for the teams alone have no part in the result of an attempt but for
its teams, so they do not make it fail. Each organization has its own round of calls, in which none
is made twice but for a second search, and none at all where there is no slug. The organizations
whose teams have been joined are reported, in their order. A team with the slug of no organization
that a fault has struck comes out as in the same attempt without faults for the other organizations
alone, and so do the user's place in it and the entries of its slug in the report. -/
theorem organizations_isolated {s : Store} {i : Identity} {a : Attempt}
    (hs : Store.Reachable executes .empty s)
    (hfaults : ∀ f ∈ a.faults, f.1 ∈ Round.operations) :
    (i.email ≠ "" → HasSpare i (a.run i).spare s → ∃ p t, a.outcome i s = (.ok p, t)) ∧
    (∀ os, withoutTeams (a.outcome i s).1 =
      withoutTeams ({ a with faults := [] }.outcome { i with organizations := os } s).1) ∧
    ∀ p t, a.outcome i s = (.ok p, t) →
      (a.run i).program.turns Watched.answer (a.watched s) =
        (establish i a.client (a.run i).spare).turns Watched.answer (a.watched s) ++
          (a.rounds i s p.user.id).flatMap (·.turns) ∧
      ∃ p' t', { a with faults := [] }.outcome
          { i with organizations := surviving (a.rounds i s p.user.id) } s = (.ok p', t') ∧
        Isolates i s (a.rounds i s p.user.id) p t p' t' := by
  have hfresh : (a.watched s).fresh = a.source.fresh := rfl
  have hclean (i : Identity) : { a with faults := [] }.outcome i s =
      (a.run i).program.run a.source.answer s :=
    Attempt.outcome_eq_run rfl i s
  have hsame (os : List Organization) : withoutTeams (a.outcome i s).1 =
      withoutTeams ({ a with faults := [] }.outcome { i with organizations := os } s).1 := by
    rw [hclean]
    exact withoutTeams_run hfresh hfaults
  refine ⟨fun hemail hspare => ?_, hsame, fun p t h => ?_⟩
  · obtain ⟨q, m, hrun, -⟩ := provision_run a.source i a.client (a.run i).spare s hemail
      (Username.generated_ne_empty _) (Username.generated_ne_empty _) hspare
    have hok := hsame i.organizations
    rw [hclean, show (a.run i).program.run a.source.answer s = (.ok q, m) from hrun] at hok
    obtain ⟨p, hp⟩ := exists_ok_of_withoutTeams hok
    exact ⟨p, _, Prod.ext hp rfl⟩
  · obtain ⟨hresult, rfl⟩ := Prod.ext_iff.mp h
    obtain ⟨hturns, p', t', hrun, hisolates⟩ :=
      provision_isolates hfresh hs.sound hfaults (Prod.ext hresult rfl)
    exact ⟨hturns, p', t', (hclean _).trans hrun, hisolates⟩

/-- An administrator who belongs to four organizations. -/
def affiliate : Identity :=
  { newcomer with
    organizations := [⟨7, "Night Watch"⟩, ⟨8, "!"⟩, ⟨9, "Day Shift"⟩, ⟨10, "Harbour"⟩] }

/-- The first team cannot be created, and in the last one nobody is made an administrator. -/
def outage : Attempt :=
  attempt 0 [(.createTeam, .fail (.conflict "busy")), (.setTeamRole, .pass),
    (.setTeamRole, .fail (.unavailable "down"))]

theorem affiliate_isolated :
    Store.Reachable executes .empty bobStore ∧
    ∃ p t p' t', outage.outcome affiliate bobStore = (.ok p, t) ∧
      Isolates affiliate bobStore (outage.rounds affiliate bobStore p.user.id) p t p' t' ∧
      p.teams = ["day-shift", "harbour"] ∧ p'.teams = ["day-shift"] ∧
      t.memberships.map (·.role) = [.admin, .member] := by
  have hstart : Store.Reachable executes .empty bobStore := Store.Reachable.start.after (by decide)
  obtain ⟨hsucceeds, -, hisolates⟩ :=
    organizations_isolated (i := affiliate) (a := outage) hstart (by decide)
  obtain ⟨p, t, hrun⟩ := hsucceeds (by decide) fun _ _ => by decide +kernel
  obtain ⟨-, p', t', -, h⟩ := hisolates p t hrun
  have hcheck : ∀ x, outage.outcome affiliate bobStore = x →
      x.1.toOption.map (fun p => (p.teams,
          slugs (surviving (outage.rounds affiliate bobStore p.user.id)))) =
        some (["day-shift", "harbour"], ["day-shift"]) ∧
      x.2.memberships.map (·.role) = [.admin, .member] := by
    rintro _ rfl
    decide +kernel
  obtain ⟨hresult, hroles⟩ := hcheck _ hrun
  obtain ⟨hteams, hspared⟩ := Prod.ext_iff.mp (Option.some.inj hresult)
  exact ⟨hstart, p, t, p', t', hrun, h, hteams, h.spared.trans hspared, hroles⟩

end Provisioning

end FederatedLogin
