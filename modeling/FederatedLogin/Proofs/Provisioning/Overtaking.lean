import FederatedLogin.Proofs.Provisioning.Race

/-! # Overtaken runs

A run that meets a conflict looks for its user again, and attempts once more to create it if there
is still none. If another run creates the user between these two calls, the attempt is refused and
the run fails, though the user is there. In no other way does a run fail.
-/

namespace FederatedLogin.Provisioning

open Store (executes)

variable {ι : Type} [DecidableEq ι] {runs : ι → Run} {p q : Pool ι} {log : List (Event ι)} {k : ι}

/-- Whether, between a run's second lookup and its second attempt to create its user, another run
has created the user. -/
def Overtaken (runs : ι → Run) (log : List (Event ι)) (k : ι) : Prop :=
  ∃ before between after what answer,
    log = before ++ ⟨k, .findUserByEmail (runs k).email, .ok none⟩ :: (between ++
      ⟨k, .createUser (newUser (runs k).identity (runs k).spare.second), answer⟩ :: after) ∧
    turnsOf k before = conflictTurns (runs k).identity (runs k).spare what ∧
    turnsOf k between = [] ∧
    ∃ j u, (j, u) ∈ creations between ∧ Text.sameIgnoringCase u.email (runs k).email = true

theorem Interleaving.exists_creation_of_taken (h : Interleaving executes runs p log q)
    {email : String} (hp : p.store.usersWithEmail email = [])
    (hq : q.store.usersWithEmail email ≠ []) :
    ∃ j u, (j, u) ∈ creations log ∧ Text.sameIgnoringCase u.email email = true := by
  obtain ⟨u, hu⟩ := List.exists_mem_of_ne_nil _ hq
  obtain ⟨hstored, hsame⟩ := Store.mem_usersWithEmail.mp hu
  rw [h.users] at hstored
  rcases List.mem_append.mp hstored with hold | hnew
  · exact absurd hp (List.ne_nil_of_mem (Store.mem_usersWithEmail.mpr ⟨hold, hsame⟩))
  · obtain ⟨⟨j, v⟩, hmem, rfl⟩ := List.mem_map.mp hnew
    exact ⟨j, v, hmem, hsame⟩

theorem Run.NamesAnew.second {r : Run} {s : Store}
    (h : r.NamesAnew s (.createUser (newUser r.identity r.spare.second))) :
    s.hasUsername r.spare.second = false :=
  h (.inr rfl)

/-- The second lookup finds nobody, and the second attempt meets a user of the email. -/
theorem Overtaken.of_turnsOf (h : Interleaving executes runs p log q) (hemail : (runs k).email ≠ "")
    {what : String} (ht : turnsOf k log = conflictTurns (runs k).identity (runs k).spare what ++
      [⟨.findUserByEmail (runs k).email, .ok none⟩,
        ⟨.createUser (newUser (runs k).identity (runs k).spare.second),
          .error (Failure.emailTaken (runs k).email).cause⟩]) : Overtaken runs log k := by
  obtain ⟨before, rest, rfl, hbefore, hrest, _, hlookup, _, hafter⟩ := h.exists_moment ht
  obtain ⟨between, after, rfl, hbetween, _, hn, hcreate, hanew, _⟩ :=
    hafter.exists_moment (show turnsOf k rest = [] ++ _ :: [] from hrest)
  refine ⟨before, between, after, what, _, rfl, hbefore, hbetween, ?_⟩
  have htaken := (hcreate.emailTaken_iff (runs k).second_ne_empty hemail hanew.second).mp rfl
  refine hn.exists_creation_of_taken ?_ htaken
  generalize hnone : (none : Option User) = found at hlookup
  cases hlookup
  exact Store.userByEmail?_eq_none_iff.mp hnone.symm

variable {s : Store} {r : Except Failure Provisioned}

/-- The store refuses an overtaken run its user, and the run ends with that. -/
theorem Overtaken.eq_emailTaken (ho : Overtaken runs log k)
    (h : Interleaving executes runs (.start runs s) log q) (hemail : (runs k).email ≠ "")
    (hr : q.rest k = .done r) : r = .error (.emailTaken (runs k).email) := by
  obtain ⟨before, between, after, what, answer, rfl, hbefore, hbetween, j, u, hmade, hsame⟩ := ho
  obtain ⟨_, _, _, hafter⟩ := h.moment
  obtain @⟨t, _, _, _, _, hn, hcreate, hanew, _⟩ := hafter.moment
  have htaken : t.usersWithEmail (runs k).email ≠ [] := by
    have hstored : u ∈ t.users := by
      rw [hn.users]
      exact List.mem_append_right _ (List.mem_map_of_mem hmade)
    exact List.ne_nil_of_mem (Store.mem_usersWithEmail.mpr ⟨hstored, hsame⟩)
  have hanswer : answer = .error (Failure.emailTaken (runs k).email).cause :=
    (hcreate.emailTaken_iff (runs k).second_ne_empty hemail hanew.second).mpr htaken
  subst hanswer
  have hpath := hr ▸ h.path_start k
  rw [turnsOf_append, hbefore, turnsOf_cons_self, turnsOf_append, hbetween,
    turnsOf_cons_self] at hpath
  exact eq_of_retryRefused hpath

/-- A run fails if and only if it is overtaken, and then over its email. Every other run has got the
user of its email, as has the store in any case. -/
theorem fails_iff_overtaken (h : Interleaving executes runs (.start runs s) log q)
    (hemail : (runs k).email ≠ "") (hr : q.rest k = .done r) :
    (Overtaken runs log k ↔ r = .error (.emailTaken (runs k).email)) ∧
    ∃ u, q.store.userByEmail? (runs k).email = some u ∧
      (¬ Overtaken runs log k → ∃ p, r = .ok p ∧ p.user = u) := by
  have hiff : Overtaken runs log k ↔ r = .error (.emailTaken (runs k).email) := by
    refine ⟨fun ho => ho.eq_emailTaken h hemail hr, ?_⟩
    rintro rfl
    have hpath := h.provisionPath hr
    generalize ht : turnsOf k log = turns at hpath
    cases hpath with
    | noUser hu =>
      obtain ⟨_, _, what, rfl⟩ := hu.eq_emailTaken h hemail (ht ▸ List.Subset.refl _)
      exact .of_turnsOf h hemail ht
  obtain ⟨u, hu, hf | hp⟩ := h.outcome hemail hr
  · exact ⟨hiff, u, hu, fun ho => absurd (hiff.mpr hf) ho⟩
  · exact ⟨hiff, u, hu, fun _ => hp⟩

/-- Of three runs for one person, the overtaken one fails over the email of that person. -/
theorem rivals_failure_overtaken : ∃ log q,
    Interleaving executes rivals (.start rivals bobStore) log q ∧ (∀ k, (rivals k).email ≠ "") ∧
      (∀ k, q.rest k = .done (rivalsResult k)) ∧
      Overtaken rivals log 1 ∧ ¬ Overtaken rivals log 2 := by
  obtain ⟨log, q, h, hr⟩ := rivals_finish
  have hemail : ∀ k, (rivals k).email ≠ "" := by decide
  refine ⟨log, q, h, hemail, hr, ?_, fun ho => ?_⟩
  · exact (fails_iff_overtaken h (hemail 1) (hr 1)).1.mpr rfl
  · cases (fails_iff_overtaken h (hemail 2) (hr 2)).1.mp ho

/-- Runs can fail with no fault of the store: this one is refused the email that another has got for
the same person, where a third lookup would have found the user. -/
theorem rivals_one_fails : Store.Reachable executes .empty bobStore ∧ ∃ log q,
    Interleaving executes rivals (.start rivals bobStore) log q ∧ (∀ k, (rivals k).email ≠ "") ∧
      (∀ k, ∃ r, q.rest k = .done r) ∧
      q.rest 1 = .done (.error (.emailTaken "odoo_42@odoo.local")) ∧
      q.store.userByEmail? "odoo_42@odoo.local" = some rivalsResult.winner := by
  obtain ⟨log, q, h, hr⟩ := rivals_finish
  have hstart : Store.Reachable executes .empty bobStore := Store.Reachable.start.after (by decide)
  refine ⟨hstart, log, q, h, by decide, fun k => ⟨_, hr k⟩, hr 1, ?_⟩
  exact h.userByEmail?_of_ok (k := 0) (by decide) (hr 0)

end FederatedLogin.Provisioning
