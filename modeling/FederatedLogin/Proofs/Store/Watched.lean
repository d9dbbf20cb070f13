import FederatedLogin.Proofs.Store.Trace

/-! # Stores with faults

What a run comes to where faults await its calls. It is a trace in which faults may answer, and as
long as none does it is a run with the store itself.
-/

namespace FederatedLogin.Store

theorem Faults.take_fst (op : Operation) (faults : Faults) :
    (op, (faults.take op).1) ∈ faults ∨ (faults.take op).1 = .pass := by
  unfold take
  split
  next fault h =>
    obtain ⟨early, late, hfaults, _⟩ := List.lookup_eq_some_iff.mp h
    rw [hfaults]
    exact .inl (List.mem_append_right _ List.mem_cons_self)
  next => exact .inr rfl

theorem Faults.take_snd_subset (op : Operation) (faults : Faults) :
    (faults.take op).2 ⊆ faults := by
  unfold take
  split
  next => exact List.eraseP_subset
  next => exact List.Subset.refl _

namespace Watched

variable {α : Type} {w : Watched} {source : Source} {may : Call → Fault → Prop}

theorem disturbed_answer (hw : w.fresh = source.fresh)
    (hmay : ∀ c fault, (c.operation, fault) ∈ w.faults → may c fault) (c : Call) :
    disturbed may w.store c (answer c w).1 (answer c w).2.store ∧
      (answer c w).2.fresh = source.fresh ∧
      ∀ c' fault, (c'.operation, fault) ∈ (answer c w).2.faults → may c' fault := by
  have hrest : ∀ c' fault, (c'.operation, fault) ∈ (w.faults.take c.operation).2 → may c' fault :=
    fun c' fault h => hmay c' fault (Faults.take_snd_subset c.operation w.faults h)
  unfold answer
  dsimp only
  split
  next a ha =>
    refine ⟨.inr ⟨_, ?_, ha, rfl⟩, hw, hrest⟩
    rcases Faults.take_fst c.operation w.faults with h | h
    · exact hmay c _ h
    · rw [h] at ha
      cases ha
  next => exact ⟨.inl (executes_answer (hw ▸ source.isNew w.store) c), hw, hrest⟩

/-- A run is a trace in which no other faults are met with than those that await it. -/
theorem trace_run (p : Use α) (hw : w.fresh = source.fresh)
    (hmay : ∀ c fault, (c.operation, fault) ∈ w.faults → may c fault) :
    Trace (disturbed may) Eq w.store (p.turns answer w) (w.run p).2.store := by
  induction p generalizing w with
  | done a => exact .nil rfl
  | call c next ih =>
    obtain ⟨hstep, hw, hmay⟩ := disturbed_answer hw hmay c
    exact .cons rfl hstep (ih _ hw hmay)

theorem fresh_answer (c : Call) (w : Watched) : (answer c w).2.fresh = w.fresh := by
  unfold answer
  dsimp only
  split <;> rfl

theorem fresh_run (p : Use α) (w : Watched) : (w.run p).2.fresh = w.fresh := by
  induction p generalizing w with
  | done a => rfl
  | call c next ih => exact (ih _ _).trans (fresh_answer c w)

theorem exists_answer_of_mem_turns {p : Use α} {c : Call} {a : c.Answer}
    (h : ⟨c, a⟩ ∈ p.turns answer w) : ∃ w' : Watched, w'.fresh = w.fresh ∧ (answer c w').1 = a := by
  induction p generalizing w with
  | done _ => cases h
  | call c' next ih =>
    rcases List.mem_cons.mp h with he | h
    · cases he
      exact ⟨w, rfl, rfl⟩
    · obtain ⟨w', hw', ha⟩ := ih _ h
      exact ⟨w', hw'.trans (fresh_answer c' w), ha⟩

theorem issue_of_answer {u : User} {client : ClientContext} {session : Session}
    (h : (answer (.issueSession u client) w).1 = .ok session) :
    session = .issue (w.fresh w.store).sessionId (w.fresh w.store).token (w.fresh w.store).now u.id
      client := by
  unfold answer at h
  dsimp only at h
  split at h
  next a ha =>
    generalize (w.faults.take _).1 = fault at ha
    subst h
    cases fault <;> cases ha
  next =>
    change (w.store.issueSession _ u.id client).1 = _ at h
    rw [issueSession] at h
    split at h
    next => cases h
    next =>
      cases h
      rfl

def isStruck : Use α → Watched → Bool
  | .done _, _ => false
  | .call c next, w =>
    ((w.faults.take c.operation).1.answer? c).isSome ||
      isStruck (next (answer c w).1) (answer c w).2

theorem isStruck_eq_false {P : Call → Prop} {p : Use α} (hp : p.MakesOnly P)
    (hfaults : ∀ f ∈ w.faults, ∀ c, P c → c.operation ≠ f.1) : isStruck p w = false := by
  induction hp generalizing w with
  | done a => rfl
  | @call c next hc _ ih =>
    have hpass : (w.faults.take c.operation).1 = .pass :=
      (Faults.take_fst c.operation w.faults).resolve_left fun h => hfaults _ h c hc rfl
    have hrest : (answer c w).2.faults ⊆ w.faults := by
      unfold answer
      dsimp only
      split <;> exact Faults.take_snd_subset c.operation w.faults
    rw [isStruck, hpass]
    exact ih _ fun f hf => hfaults f (hrest hf)

/-- A run in which no fault answers is one with the store itself. -/
theorem run_of_not_isStruck {p : Use α} (hw : w.fresh = source.fresh)
    (h : isStruck p w = false) :
    (w.run p).1 = (p.run source.answer w.store).1 ∧
      (w.run p).2.store = (p.run source.answer w.store).2 := by
  induction p generalizing w with
  | done a => exact ⟨rfl, rfl⟩
  | call c next ih =>
    obtain ⟨hpass, hrest⟩ := Bool.or_eq_false_iff.mp h
    have hexecuted : (answer c w).1 = (source.answer c w.store).1 ∧
        (answer c w).2.store = (source.answer c w.store).2 := by
      unfold answer
      dsimp only
      split
      next a ha =>
        rw [ha] at hpass
        cases hpass
      next =>
        rw [hw]
        exact ⟨rfl, rfl⟩
    have hnext : (next (answer c w).1).run source.answer (answer c w).2.store =
        (Program.call c next).run source.answer w.store := by
      rw [hexecuted.1, hexecuted.2]
      rfl
    rw [← hnext]
    exact ih _ ((fresh_answer c w).trans hw) hrest

theorem isStruck_of_no_faults (p : Use α) (h : w.faults = []) : isStruck p w = false := by
  induction p generalizing w with
  | done a => rfl
  | call c next ih =>
    have htake : w.faults.take c.operation = (.pass, []) := by rw [h]; rfl
    have hrest : (answer c w).2.faults = [] := by
      unfold answer
      rw [htake]
      rfl
    rw [isStruck, htake]
    exact ih _ hrest

theorem run_of_no_faults (p : Use α) (hw : w.fresh = source.fresh) (h : w.faults = []) :
    (w.run p).1 = (p.run source.answer w.store).1 ∧
      (w.run p).2.store = (p.run source.answer w.store).2 :=
  run_of_not_isStruck hw (isStruck_of_no_faults p h)

end Watched

end FederatedLogin.Store
