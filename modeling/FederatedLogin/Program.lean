/-! # Programs of calls

A program asks its surroundings for one answer after another and ends with a result. Everything that
reaches outside is a program, so that one description serves a run against a real peer, a run with
faults and an interleaving of several runs.
-/

namespace FederatedLogin

/-- A computation that makes calls. The type of an answer depends on the call. -/
inductive Program (Call : Type) (Answer : Call → Type) (α : Type) : Type where
  | done (result : α)
  | call (request : Call) (next : Answer request → Program Call Answer α)

namespace Program

variable {Call : Type} {Answer : Call → Type} {α β σ : Type}

def ask (request : Call) : Program Call Answer (Answer request) := .call request .done

def bind : Program Call Answer α → (α → Program Call Answer β) → Program Call Answer β
  | .done a, f => f a
  | .call c next, f => .call c fun answer => (next answer).bind f

instance : Monad (Program Call Answer) where
  pure := .done
  bind := bind

theorem bind_done (p : Program Call Answer α) : p.bind .done = p := by
  induction p with
  | done a => rfl
  | call c next ih => simp only [bind, ih]

theorem bind_assoc {γ : Type} (p : Program Call Answer α) (f : α → Program Call Answer β)
    (g : β → Program Call Answer γ) : (p.bind f).bind g = p.bind fun a => (f a).bind g := by
  induction p with
  | done a => rfl
  | call c next ih => simp only [bind, ih]

instance : LawfulMonad (Program Call Answer) :=
  LawfulMonad.mk' _ bind_done (fun _ _ => rfl) fun p f g => bind_assoc p f g

def run (answer : (c : Call) → σ → Answer c × σ) : Program Call Answer α → σ → α × σ
  | .done a, s => (a, s)
  | .call c next, s => let (a, s) := answer c s; (next a).run answer s

theorem run_bind (answer : (c : Call) → σ → Answer c × σ) (p : Program Call Answer α)
    (f : α → Program Call Answer β) (s : σ) :
    (p.bind f).run answer s = (f (p.run answer s).1).run answer (p.run answer s).2 := by
  induction p generalizing s with
  | done a => rfl
  | call c next ih => simp only [bind, run, ih]

/-- Answers each call of a program by a program of other calls. -/
def translate {Call' : Type} {Answer' : Call' → Type}
    (f : (c : Call) → Program Call' Answer' (Answer c)) :
    Program Call Answer α → Program Call' Answer' α
  | .done a => .done a
  | .call c next => (f c).bind fun answer => (next answer).translate f

end Program

end FederatedLogin
