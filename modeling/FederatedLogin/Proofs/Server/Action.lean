import Mathlib.Data.List.Basic
import FederatedLogin.Proofs.Program.Path
import FederatedLogin.Server.Action

/-! # Runs of actions

An action that exchanges messages leaves the store alone, and one that uses the store sends nothing.
The turns of an action are told apart in the same way.
-/

namespace FederatedLogin.Server

open Program (Path Turn path_ask_done_iff path_translate_done_iff)

/-! ## Worlds -/

section Run

variable {α : Type} {u : Http.Upstream}

theorem run_ofExchange (x : Http.Exchange α) (w : World u) :
    (Action.ofExchange x).run w = ((u.run x w.peer).1, { w with peer := (u.run x w.peer).2 }) := by
  induction x generalizing w with
  | done a => rfl
  | call c next ih => exact ih _ _

theorem run_ofUse (use : Store.Use α) (w : World u) :
    (Action.ofUse use).run w =
      ((w.store.run use).1, { w with store := (w.store.run use).2 }) := by
  induction use generalizing w with
  | done a => rfl
  | call c next ih => exact ih _ _

theorem run_actionBind {β : Type} (a : Action α) (f : α → Action β) (w : World u) :
    (a >>= f).run w = (f (a.run w).1).run (a.run w).2 :=
  Program.run_bind World.answer a f w

theorem run_actionMap {β : Type} (a : Action α) (f : α → β) (w : World u) :
    (a >>= fun x => return f x).run w = (f (a.run w).1, (a.run w).2) :=
  run_actionBind a _ w

theorem run_exchangeThenUse {β : Type} (x : Http.Exchange α) (use : α → Store.Use β)
    (w : World u) : (Action.ofExchange x >>= fun a => .ofUse (use a)).run w =
      ((w.store.run (use (u.run x w.peer).1)).1,
        ⟨(u.run x w.peer).2, (w.store.run (use (u.run x w.peer).1)).2⟩) := by
  rw [run_actionBind, run_ofExchange, run_ofUse]

end Run

/-! ## Turns -/

def exchange? : Turn Call.Answer → Option (Turn fun _ : Http.Request => Http.Delivery)
  | ⟨.exchange request, d⟩ => some ⟨request, d⟩
  | ⟨.store _, _⟩ => none

def use? : Turn Call.Answer → Option (Turn Store.Call.Answer)
  | ⟨.exchange _, _⟩ => none
  | ⟨.store call, a⟩ => some ⟨call, a⟩

/-- The turns of an action in which messages are exchanged. -/
def exchanges (turns : List (Turn Call.Answer)) :
    List (Turn fun _ : Http.Request => Http.Delivery) :=
  turns.filterMap exchange?

/-- The turns of an action in which the store is used. -/
def uses (turns : List (Turn Call.Answer)) : List (Turn Store.Call.Answer) := turns.filterMap use?

def exchangeTurn (t : Turn fun _ : Http.Request => Http.Delivery) : Turn Call.Answer :=
  ⟨.exchange t.1, t.2⟩

def useTurn (t : Turn Store.Call.Answer) : Turn Call.Answer := ⟨.store t.1, t.2⟩

def Action.turns {α : Type} {u : Http.Upstream} (a : Action α) (w : World u) :
    List (Turn Call.Answer) :=
  Program.turns World.answer a w

section Turns

variable {α : Type} {turns : List (Turn Call.Answer)} {r : α} {u : Http.Upstream}

theorem path_ofExchange_done_iff {x : Http.Exchange α} :
    Path (Action.ofExchange x) turns (.done r) ↔
      ∃ exchanged, turns = exchanged.map exchangeTurn ∧ Path x exchanged (.done r) :=
  path_translate_done_iff fun _ _ _ => path_ask_done_iff

theorem path_ofUse_done_iff {use : Store.Use α} :
    Path (Action.ofUse use) turns (.done r) ↔
      ∃ used, turns = used.map useTurn ∧ Path use used (.done r) :=
  path_translate_done_iff fun _ _ _ => path_ask_done_iff

theorem turns_ofExchange (x : Http.Exchange α) (w : World u) :
    (Action.ofExchange x).turns w = (Program.turns u.answer x w.peer).map exchangeTurn := by
  induction x generalizing w with
  | done a => rfl
  | call c next ih => exact congrArg (_ :: ·) (ih _ _)

theorem turns_ofUse (use : Store.Use α) (w : World u) :
    (Action.ofUse use).turns w =
      (Program.turns Store.Watched.answer use w.store).map useTurn := by
  induction use generalizing w with
  | done a => rfl
  | call c next ih => exact congrArg (_ :: ·) (ih _ _)

theorem turns_actionBind {β : Type} (a : Action α) (f : α → Action β) (w : World u) :
    (a >>= f).turns w = a.turns w ++ (f (a.run w).1).turns (a.run w).2 :=
  Program.turns_bind World.answer a f w

theorem turns_actionMap {β : Type} (a : Action α) (f : α → β) (w : World u) :
    (a >>= fun x => return f x).turns w = a.turns w :=
  (turns_actionBind a _ w).trans (List.append_nil _)

theorem turns_exchangeThenUse {β : Type} (x : Http.Exchange α) (use : α → Store.Use β)
    (w : World u) : (Action.ofExchange x >>= fun a => .ofUse (use a)).turns w =
      (x.turns u.answer w.peer).map exchangeTurn ++
        ((use (u.run x w.peer).1).turns Store.Watched.answer w.store).map useTurn := by
  rw [turns_actionBind, turns_ofExchange, run_ofExchange, turns_ofUse]

variable (exchanged : List (Turn fun _ : Http.Request => Http.Delivery))
  (used : List (Turn Store.Call.Answer))

theorem exchanges_append :
    exchanges (exchanged.map exchangeTurn ++ used.map useTurn) = exchanged := by
  have hexchanged : exchange? ∘ exchangeTurn = some := rfl
  have hused : exchange? ∘ useTurn = fun _ => none := rfl
  rw [exchanges, List.filterMap_append, List.filterMap_map, List.filterMap_map, hexchanged, hused,
    List.filterMap_some, List.filterMap_none, List.append_nil]

theorem uses_append : uses (exchanged.map exchangeTurn ++ used.map useTurn) = used := by
  have hexchanged : use? ∘ exchangeTurn = fun _ => none := rfl
  have hused : use? ∘ useTurn = some := rfl
  rw [uses, List.filterMap_append, List.filterMap_map, List.filterMap_map, hexchanged, hused,
    List.filterMap_some, List.filterMap_none, List.nil_append]

end Turns

end FederatedLogin.Server
