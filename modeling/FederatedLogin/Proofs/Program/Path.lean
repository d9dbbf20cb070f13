import FederatedLogin.Program

/-! # Paths of programs

A path is what a program does against given answers: the calls it makes, each with the answer it
gets, and what is left of it then. As nothing is said of who answers, what holds of every path of a
program holds in all surroundings, other programs at work there included.
-/

namespace FederatedLogin.Program

variable {Call : Type} {Answer : Call → Type} {α β σ : Type}

theorem bind_eq (p : Program Call Answer α) (f : α → Program Call Answer β) :
    p >>= f = p.bind f :=
  rfl

theorem translate_bind {Call' : Type} {Answer' : Call' → Type}
    (f : (c : Call) → Program Call' Answer' (Answer c)) (p : Program Call Answer α)
    (g : α → Program Call Answer β) :
    (p.bind g).translate f = (p.translate f).bind fun a => (g a).translate f := by
  induction p with
  | done a => rfl
  | call c next ih => simp only [bind, translate, ih, bind_assoc]

/-- A call with the answer to it. -/
abbrev Turn (Answer : Call → Type) : Type := (c : Call) × Answer c

/-- The turns that lead from a program to what is left of it. -/
inductive Path : Program Call Answer α → List (Turn Answer) → Program Call Answer α → Prop where
  | stay (p : Program Call Answer α) : Path p [] p
  | turn {c : Call} {next : Answer c → Program Call Answer α} {a : Answer c}
      {turns : List (Turn Answer)} {q : Program Call Answer α} :
      Path (next a) turns q → Path (.call c next) (⟨c, a⟩ :: turns) q

theorem path_done_iff {a : α} {turns : List (Turn Answer)} {q : Program Call Answer α} :
    Path (.done a) turns q ↔ turns = [] ∧ q = .done a := by
  constructor
  · intro h
    cases h
    exact ⟨rfl, rfl⟩
  · rintro ⟨rfl, rfl⟩
    exact .stay _

theorem path_call_done_iff {c : Call} {next : Answer c → Program Call Answer α}
    {turns : List (Turn Answer)} {r : α} :
    Path (.call c next) turns (.done r) ↔
      ∃ a rest, turns = ⟨c, a⟩ :: rest ∧ Path (next a) rest (.done r) := by
  constructor
  · intro h
    cases h with
    | turn h => exact ⟨_, _, rfl, h⟩
  · rintro ⟨a, rest, rfl, h⟩
    exact .turn h

theorem Path.tail {c : Call} {next : Answer c → Program Call Answer α} {a : Answer c}
    {turns : List (Turn Answer)} {q : Program Call Answer α}
    (h : Path (.call c next) (⟨c, a⟩ :: turns) q) : Path (next a) turns q := by
  cases h with
  | turn h => exact h

theorem path_append_iff {p q : Program Call Answer α} {early late : List (Turn Answer)} :
    Path p (early ++ late) q ↔ ∃ m, Path p early m ∧ Path m late q := by
  induction early generalizing p with
  | nil =>
    constructor
    · intro h
      exact ⟨p, .stay p, h⟩
    · rintro ⟨m, hp, h⟩
      cases hp
      exact h
  | cons t early ih =>
    constructor
    · intro h
      cases h with
      | turn h =>
        obtain ⟨m, hm, hq⟩ := ih.mp h
        exact ⟨m, .turn hm, hq⟩
    · rintro ⟨m, hm, hq⟩
      cases hm with
      | turn hm => exact .turn (ih.mpr ⟨m, hm, hq⟩)

theorem path_bind_done_iff {p : Program Call Answer α} {f : α → Program Call Answer β}
    {turns : List (Turn Answer)} {r : β} :
    Path (p >>= f) turns (.done r) ↔
      ∃ first a second, turns = first ++ second ∧ Path p first (.done a) ∧
        Path (f a) second (.done r) := by
  change Path (p.bind f) turns (.done r) ↔ _
  induction p generalizing turns with
  | done a =>
    constructor
    · intro h
      exact ⟨[], a, turns, rfl, .stay _, h⟩
    · rintro ⟨first, b, second, rfl, hp, hf⟩
      obtain ⟨rfl, he⟩ := path_done_iff.mp hp
      cases he
      exact hf
  | call c next ih =>
    rw [bind, path_call_done_iff]
    constructor
    · rintro ⟨a, rest, rfl, h⟩
      obtain ⟨first, b, second, rfl, hp, hf⟩ := (ih a).mp h
      exact ⟨_ :: first, b, second, rfl, .turn hp, hf⟩
    · rintro ⟨first, b, second, rfl, hp, hf⟩
      obtain ⟨a, rest, rfl, hn⟩ := path_call_done_iff.mp hp
      exact ⟨a, rest ++ second, rfl, (ih a).mpr ⟨rest, b, second, rfl, hn, hf⟩⟩

theorem path_ask_done_iff {c : Call} {turns : List (Turn Answer)} {a : Answer c} :
    Path (ask c) turns (.done a) ↔ turns = [⟨c, a⟩] := by
  rw [ask, path_call_done_iff]
  constructor
  · rintro ⟨b, rest, rfl, h⟩
    obtain ⟨rfl, he⟩ := path_done_iff.mp h
    cases he
    rfl
  · rintro rfl
    exact ⟨a, [], rfl, .stay _⟩

/-- Where every call is answered by one other call, a path through a translation is one through the
program itself. -/
theorem path_translate_done_iff {Call' : Type} {Answer' : Call' → Type}
    {f : (c : Call) → Program Call' Answer' (Answer c)} {lift : Turn Answer → Turn Answer'}
    (hf : ∀ (c : Call) (turns : List (Turn Answer')) (a : Answer c),
      Path (f c) turns (.done a) ↔ turns = [lift ⟨c, a⟩])
    {p : Program Call Answer α} {turns : List (Turn Answer')} {r : α} :
    Path (p.translate f) turns (.done r) ↔
      ∃ inner, turns = inner.map lift ∧ Path p inner (.done r) := by
  induction p generalizing turns with
  | done a =>
    rw [translate, path_done_iff]
    constructor
    · rintro ⟨rfl, he⟩
      cases he
      exact ⟨[], rfl, .stay _⟩
    · rintro ⟨inner, rfl, h⟩
      obtain ⟨rfl, he⟩ := path_done_iff.mp h
      cases he
      exact ⟨rfl, rfl⟩
  | call c next ih =>
    change Path (f c >>= fun a => (next a).translate f) turns (.done r) ↔ _
    rw [path_bind_done_iff]
    constructor
    · rintro ⟨first, a, rest, rfl, hc, hnext⟩
      obtain rfl := (hf c first a).mp hc
      obtain ⟨inner, rfl, h⟩ := (ih a).mp hnext
      exact ⟨⟨c, a⟩ :: inner, rfl, .turn h⟩
    · rintro ⟨inner, rfl, h⟩
      obtain ⟨a, rest, rfl, hnext⟩ := path_call_done_iff.mp h
      exact ⟨_, a, _, List.map_cons, (hf c _ a).mpr rfl, (ih a).mpr ⟨rest, rfl, hnext⟩⟩

theorem toOption_eq_some_iff {ε α : Type} {r : Except ε α} {a : α} :
    r.toOption = some a ↔ r = .ok a := by
  cases r <;> simp [Except.toOption]

theorem path_exceptBind_done_iff {ε : Type} {x : ExceptT ε (Program Call Answer) α}
    {f : α → ExceptT ε (Program Call Answer) β} {turns : List (Turn Answer)} {r : Except ε β} :
    Path (x >>= f).run turns (.done r) ↔
      (∃ e, Path x.run turns (.done (.error e)) ∧ r = .error e) ∨
      ∃ a first second, turns = first ++ second ∧ Path x.run first (.done (.ok a)) ∧
        Path (f a).run second (.done r) := by
  change Path (x.run >>= ExceptT.bindCont f) turns (.done r) ↔ _
  rw [path_bind_done_iff]
  constructor
  · rintro ⟨first, a, second, rfl, hx, hf⟩
    cases a with
    | error e =>
      obtain ⟨rfl, he⟩ := path_done_iff.mp hf
      cases he
      exact .inl ⟨e, by rwa [List.append_nil], rfl⟩
    | ok a => exact .inr ⟨a, first, second, rfl, hx, hf⟩
  · rintro (⟨e, hx, rfl⟩ | ⟨a, first, second, rfl, hx, hf⟩)
    · exact ⟨turns, .error e, [], (List.append_nil _).symm, hx, .stay _⟩
    · exact ⟨first, .ok a, second, rfl, hx, hf⟩

theorem path_exceptMap_done_iff {ε : Type} {x : ExceptT ε (Program Call Answer) α} {f : α → β}
    {turns : List (Turn Answer)} {r : Except ε β} :
    Path (x >>= fun a => pure (f a)).run turns (.done r) ↔
      ∃ a, Path x.run turns (.done a) ∧ r = a.map f := by
  rw [path_exceptBind_done_iff]
  constructor
  · rintro (⟨e, hx, rfl⟩ | ⟨a, first, second, rfl, hx, hf⟩)
    · exact ⟨.error e, hx, rfl⟩
    · obtain ⟨rfl, he⟩ := (path_done_iff (a := Except.ok (f a))).mp hf
      cases he
      exact ⟨.ok a, by rwa [List.append_nil], rfl⟩
  · rintro ⟨a, hx, rfl⟩
    cases a with
    | error e => exact .inl ⟨e, hx, rfl⟩
    | ok a => exact .inr ⟨a, turns, [], (List.append_nil _).symm, hx, .stay _⟩

def result? : Program Call Answer α → Option α
  | .done a => some a
  | .call _ _ => none

theorem result?_eq_some_iff {p : Program Call Answer α} {a : α} :
    p.result? = some a ↔ p = .done a := by
  cases p <;> simp [result?]

/-! ## Surroundings with a state -/

/-- The turns of a run against surroundings with a state. -/
def turns (answer : (c : Call) → σ → Answer c × σ) :
    Program Call Answer α → σ → List (Turn Answer)
  | .done _, _ => []
  | .call c next, s => ⟨c, (answer c s).1⟩ :: (next (answer c s).1).turns answer (answer c s).2

theorem path_run (answer : (c : Call) → σ → Answer c × σ) (p : Program Call Answer α) (s : σ) :
    Path p (p.turns answer s) (.done (p.run answer s).1) := by
  induction p generalizing s with
  | done a => exact .stay _
  | call c next ih => exact .turn (ih _ _)

theorem turns_bind (answer : (c : Call) → σ → Answer c × σ) (p : Program Call Answer α)
    (f : α → Program Call Answer β) (s : σ) :
    (p.bind f).turns answer s =
      p.turns answer s ++ (f (p.run answer s).1).turns answer (p.run answer s).2 := by
  induction p generalizing s with
  | done a => rfl
  | call c next ih => simp only [bind, turns, run, ih, List.cons_append]

theorem answer_of_turns_eq_cons {answer : (c : Call) → σ → Answer c × σ}
    {p : Program Call Answer α} {s : σ} {c : Call} {a : Answer c} {rest : List (Turn Answer)}
    (h : p.turns answer s = ⟨c, a⟩ :: rest) : a = (answer c s).1 := by
  cases p with
  | done _ => cases h
  | call _ _ =>
    cases h
    rfl

/-! ## What a program may call -/

/-- Every call that a program can come to make has a property. -/
inductive MakesOnly (P : Call → Prop) : Program Call Answer α → Prop where
  | done (a : α) : MakesOnly P (.done a)
  | call {c : Call} {next : Answer c → Program Call Answer α} : P c →
      (∀ a, MakesOnly P (next a)) → MakesOnly P (.call c next)

theorem MakesOnly.mono {P Q : Call → Prop} {p : Program Call Answer α} (hp : p.MakesOnly P)
    (h : ∀ c, P c → Q c) : p.MakesOnly Q := by
  induction hp with
  | done a => exact .done a
  | call hc _ ih => exact .call (h _ hc) ih

theorem MakesOnly.bind {P : Call → Prop} {p : Program Call Answer α}
    {f : α → Program Call Answer β} (hp : p.MakesOnly P) (hf : ∀ a, (f a).MakesOnly P) :
    (p >>= f).MakesOnly P := by
  induction hp with
  | done a => exact hf a
  | call hc _ ih => exact .call hc ih

theorem MakesOnly.of_path {P : Call → Prop} {p q : Program Call Answer α}
    {turns : List (Turn Answer)} (hp : p.MakesOnly P) (h : Path p turns q) :
    ∀ t ∈ turns, P t.1 := by
  induction h with
  | stay p => simp
  | turn _ ih =>
    cases hp with
    | call hc hnext => exact List.forall_mem_cons.mpr ⟨hc, ih (hnext _)⟩

/-- Every call that a program can come to make stands in a relation to the turns before it. -/
inductive CallsBy (P : List (Turn Answer) → Call → Prop) :
    List (Turn Answer) → Program Call Answer α → Prop where
  | done {early : List (Turn Answer)} (a : α) : CallsBy P early (.done a)
  | call {early : List (Turn Answer)} {c : Call} {next : Answer c → Program Call Answer α} :
      P early c → (∀ a, CallsBy P (early ++ [⟨c, a⟩]) (next a)) → CallsBy P early (.call c next)

section CallsBy

variable {P : List (Turn Answer) → Call → Prop} {early : List (Turn Answer)}

/-- The second of two programs in a row may rely on the turns of the first and on its result. -/
theorem CallsBy.bind {p : Program Call Answer α} {f : α → Program Call Answer β}
    (hp : CallsBy P early p)
    (hf : ∀ turns a, Path p turns (.done a) → CallsBy P (early ++ turns) (f a)) :
    CallsBy P early (p >>= f) := by
  induction hp with
  | @done early a =>
    have h := hf [] a (.stay _)
    rwa [List.append_nil] at h
  | call hc _ ih =>
    refine .call hc fun answer => ih answer fun turns a h => ?_
    have h := hf (⟨_, answer⟩ :: turns) a (.turn h)
    rwa [List.append_cons] at h

theorem CallsBy.of_path {p q : Program Call Answer α} {turns late : List (Turn Answer)}
    {t : Turn Answer} (hp : CallsBy P early p) (h : Path p (turns ++ t :: late) q) :
    P (early ++ turns) t.1 := by
  induction turns generalizing early p with
  | nil =>
    cases h with
    | turn _ =>
      cases hp with
      | call hc _ => rwa [List.append_nil]
  | cons first turns ih =>
    cases h with
    | turn h =>
      cases hp with
      | call _ hnext =>
        have h := ih (hnext _) h
        rwa [← List.append_cons] at h

end CallsBy

end FederatedLogin.Program
