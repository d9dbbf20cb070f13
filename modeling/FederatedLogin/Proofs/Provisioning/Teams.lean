import FederatedLogin.Proofs.Provisioning.Privileges
import FederatedLogin.Proofs.Provisioning.Provided

/-! # Teams of interleaved runs

Runs that race for the same teams and the same memberships leave what they would leave one after
another. No team is created twice, no member is lost and no role is lost, whichever of them comes
first.
-/

namespace FederatedLogin.Provisioning

open Store (Grows Trace executes)
open Program (Path)

variable {ι : Type} [DecidableEq ι] {runs : ι → Run} {results results' : ι → Provisioned}
  {s : Store} {q q' : Pool ι} {log log' : List (Event ι)} {u : User} {name : String}

def OfRuns (runs : ι → Run) (i : Identity) : Prop := ∃ k, (runs k).identity = i

section

variable (h : History executes runs s log q)
include h

theorem History.sound_of_executes (hs : s.Sound) : q.store.Sound :=
  (h.withFaults fun _ _ => False).sound hs

variable (hr : ∀ k, q.rest k = .done (.ok (results k)))
include hr

theorem History.placed (k : ι) :
    (results k).teams = slugs (runs k).identity.organizations ∧
      ((results k).user ∈ q.store.users ∧
        Text.sameIgnoringCase (results k).user.email (runs k).identity.email = true) ∧
      ∀ name ∈ slugs (runs k).identity.organizations,
        Placed (runs k).identity q.store (results k).user.id name := by
  have hpath : Path (provision (runs k).identity (runs k).client (runs k).spare) (turnsOf k log)
      (.done (.ok (results k))) := hr k ▸ h.follows k
  have hview : Trace executes Grows s (turnsOf k log) q.store :=
    trace_turnsOf (fun _ _ _ _ => Store.grows_of_executes) h.trace h.raises k
  exact placed_of_path hpath hview (h.raises_turnsOf k)

theorem History.provided : Provided (OfRuns runs) s q.store where
  grows := (h.withFaults fun _ _ => False).grows
  accounted := (h.withFaults fun _ _ => False).accounted.mono
    fun _ ⟨k, _, hk⟩ => ⟨k, hk⟩
  placed := by
    rintro _ ⟨k, rfl⟩
    obtain ⟨_, ⟨hu, he⟩, hplaced⟩ := h.placed hr k
    exact ⟨_, hu, he, hplaced⟩

/-- What is due to a user is due by runs that have returned the user. -/
theorem History.due_iff (hs : s.Sound) (hu : u ∈ q.store.users) {role : TeamRole} :
    Due (OfRuns runs) s name u.email role ↔
      (∃ r, s.Holds name u r ∧ r.includes role = true) ∨
      ∃ k, name ∈ slugs (runs k).identity.organizations ∧ (results k).user = u ∧
        (runs k).identity.teamRole.includes role = true := by
  have ht := h.sound_of_executes hs
  constructor
  · rintro (⟨v, r, hv, hrole, he⟩ | ⟨_, ⟨k, rfl⟩, hname, he, hrole⟩)
    · obtain rfl := ht.eq_of_email ((h.provided hr).grows.users.subset hv.user) hu he
      exact .inl ⟨r, hv, hrole⟩
    · obtain ⟨_, ⟨hv, hve⟩, _⟩ := h.placed hr k
      exact .inr ⟨k, hname, ht.eq_of_email hv hu (Text.sameIgnoringCase_trans hve he), hrole⟩
  · rintro (⟨r, hv, hrole⟩ | ⟨k, hname, rfl, hrole⟩)
    · exact .inl ⟨u, r, hv, hrole, Text.sameIgnoringCase_refl _⟩
    · obtain ⟨_, ⟨_, he⟩, _⟩ := h.placed hr k
      exact .inr ⟨_, ⟨k, rfl⟩, hname, Text.sameIgnoringCase_symm he, hrole⟩

theorem History.holds_iff (hs : s.Sound) {role : TeamRole} : q.store.Holds name u role ↔
    ((∃ r, s.Holds name u r) ∨
      ∃ k, name ∈ slugs (runs k).identity.organizations ∧ (results k).user = u) ∧
    (role = .admin ↔ s.Holds name u .admin ∨
      ∃ k, name ∈ slugs (runs k).identity.organizations ∧ (results k).user = u ∧
        (runs k).identity.grantsTeamAdmin = true) := by
  have hp := h.provided hr
  by_cases hu : u ∈ q.store.users
  · rw [hp.holds_iff hs (h.sound_of_executes hs) hu, h.due_iff hr hs hu, h.due_iff hr hs hu]
    simp only [TeamRole.includes_member, and_true, TeamRole.includes_admin_iff,
      Identity.teamRole_eq_admin_iff, exists_eq_right]
  · refine iff_of_false (fun hholds => hu hholds.user) fun ⟨hjoined, _⟩ => hu ?_
    rcases hjoined with ⟨r, hholds⟩ | ⟨k, _, rfl⟩
    · exact hp.grows.users.subset hholds.user
    · exact (h.placed hr k).2.1.1

theorem History.exists_team (hs : s.Sound) {k : ι}
    (hname : name ∈ slugs (runs k).identity.organizations) :
    ∃ x, q.store.teams.filter (·.name == name) = [x] ∧ (x ∈ s.teams ∨
      ∃ j, ∃ o ∈ (runs j).identity.organizations, Slug.ofName o.name = name ∧
        x.displayName = o.name) := by
  obtain ⟨x, hx, rfl, _⟩ := (h.placed hr k).2.2 name hname
  refine ⟨x, (h.sound_of_executes hs).filter_teamName hx, ?_⟩
  refine ((h.provided hr).accounted.teams x hx).imp_right ?_
  rintro ⟨_, ⟨j, rfl⟩, o, ho, hslug, hdisplay⟩
  exact ⟨j, o, ho, hslug.symm, hdisplay⟩

/-- Two schedules of the same runs leave the same roles to the same emails. -/
theorem History.exists_holds_iff (hs : s.Sound) (h' : History executes runs s log' q')
    (hr' : ∀ k, q'.rest k = .done (.ok (results' k))) {email : String} {role : TeamRole} :
    (∃ u, q.store.Holds name u role ∧ Text.sameIgnoringCase u.email email = true) ↔
      ∃ u, q'.store.Holds name u role ∧ Text.sameIgnoringCase u.email email = true := by
  rw [(h.provided hr).exists_holds_iff hs (h.sound_of_executes hs),
    (h'.provided hr').exists_holds_iff hs (h'.sound_of_executes hs)]

end

/-- Runs that all succeed over one store, whatever the order of their calls, each return the slugs
of their organizations. For each of these there is one team. Who is in which team, and in which
role, is given by the store before, the identities and the users returned, and does not depend on
the order, in which no call lowers a role. -/
theorem teams_independent_of_schedule (hs : Store.Reachable executes .empty s)
    (h : History executes runs s log q) (hr : ∀ k, q.rest k = .done (.ok (results k))) :
    (∀ k, (results k).teams = slugs (runs k).identity.organizations) ∧
    (∀ k, ∀ name ∈ slugs (runs k).identity.organizations,
      ∃ x, q.store.teams.filter (·.name == name) = [x] ∧ (x ∈ s.teams ∨
        ∃ j, ∃ o ∈ (runs j).identity.organizations, Slug.ofName o.name = name ∧
          x.displayName = o.name)) ∧
    (∀ name u role, q.store.Holds name u role ↔
      ((∃ r, s.Holds name u r) ∨
        ∃ k, name ∈ slugs (runs k).identity.organizations ∧ (results k).user = u) ∧
      (role = .admin ↔ s.Holds name u .admin ∨
        ∃ k, name ∈ slugs (runs k).identity.organizations ∧ (results k).user = u ∧
          (runs k).identity.grantsTeamAdmin = true)) ∧
    (∀ log' (q' : Pool ι) (results' : ι → Provisioned), History executes runs s log' q' →
      (∀ k, q'.rest k = .done (.ok (results' k))) → ∀ name email role,
        (∃ u, q.store.Holds name u role ∧ Text.sameIgnoringCase u.email email = true) ↔
          ∃ u, q'.store.Holds name u role ∧ Text.sameIgnoringCase u.email email = true) ∧
    ∀ e ∈ log, ∀ m m', executes m e.turn.1 e.turn.2 m' →
      ∀ team user role, m.HasRole team user role → m'.HasRole team user role :=
  ⟨fun k => (h.placed hr k).1, fun _ _ hname => h.exists_team hr hs.sound hname,
    fun _ _ _ => h.holds_iff hr hs.sound,
    fun _ _ _ h' hr' _ _ _ => h.exists_holds_iff hr hs.sound h' hr',
    fun e he _ _ hc => (Store.grows_of_executes hc (h.raises e he)).roles⟩

/-- Both of those who have raced for one team are in it, each in the role that is theirs. -/
theorem colleagues_share_team : ∃ log q,
    Interleaving executes colleagues (.start colleagues .empty) log q ∧
      (∀ k, q.rest k = .done (.ok (colleaguesResult k))) ∧
      (∃ x, q.store.teams.filter (·.name == "night-watch") = [x]) ∧
      q.store.Holds "night-watch" (colleaguesResult 0).user .admin ∧
      q.store.Holds "night-watch" (colleaguesResult 1).user .member := by
  obtain ⟨log, q, h, _, hr⟩ := colleagues_finish
  obtain ⟨_, hteam, hholds, _⟩ := teams_independent_of_schedule .start h.history hr
  have hslugs : ∀ k, slugs (colleagues k).identity.organizations = ["night-watch"] := by
    decide +kernel
  have hname (k : Fin 2) : "night-watch" ∈ slugs (colleagues k).identity.organizations :=
    hslugs k ▸ List.mem_cons_self
  obtain ⟨x, hx, _⟩ := hteam 0 "night-watch" (hname 0)
  refine ⟨log, q, h, hr, ⟨x, hx⟩, (hholds _ _ _).mpr ?_, (hholds _ _ _).mpr ?_⟩
  · exact ⟨.inr ⟨0, hname 0, rfl⟩, iff_of_true rfl (.inr ⟨0, hname 0, rfl, rfl⟩)⟩
  · refine ⟨.inr ⟨1, hname 1, rfl⟩, iff_of_false nofun ?_⟩
    have hnone : ∀ k, (colleaguesResult k).user = (colleaguesResult 1).user →
        (colleagues k).identity.grantsTeamAdmin = false := by
      decide
    rintro (⟨hu, _⟩ | ⟨k, _, hk, hgrants⟩)
    · cases hu
    · exact Bool.false_ne_true ((hnone k hk).symm.trans hgrants)

end FederatedLogin.Provisioning
