/-!
# Programs that ask

A program does nothing by itself: it asks a question, goes on with the answer, and ends in a value.
Whoever runs it decides what the answers are, in what order programs of several kinds go on, and
what becomes of a program that is never answered.

- `Program`: the tree of questions and answers.
- `Program.bind`: one program after another.
- `Program.answered`: a program run with a function that answers every question.
-/

namespace GameFleet

universe u

/-- A program that asks questions `q : Q`, is answered in `A q`, and ends in a value. -/
inductive Program (Q : Type) (A : Q → Type) (α : Type) where
  | done (a : α)
  | ask (q : Q) (next : A q → Program Q A α)

namespace Program

variable {Q : Type} {A : Q → Type} {α β γ : Type}

/-- The program that goes on with the value of the first. -/
def bind : Program Q A α → (α → Program Q A β) → Program Q A β
  | done a, f => f a
  | ask q next, f => ask q fun a => bind (next a) f

instance : Monad (Program Q A) where
  pure := done
  bind := bind

/-- The program that only asks. -/
def request (q : Q) : Program Q A (A q) := ask q done

/-- The value of a program whose every question is answered, with a state that answering changes. -/
def answered {σ : Type} (answer : σ → (q : Q) → A q × σ) : σ → Program Q A α → α × σ
  | s, done a => (a, s)
  | s, ask q next =>
    let (a, s) := answer s q
    answered answer s (next a)

theorem bind_done (p : Program Q A α) : p.bind done = p := by
  induction p with
  | done a => rfl
  | ask q next ih => simp [bind, ih]

theorem bind_assoc (p : Program Q A α) (f : α → Program Q A β) (g : β → Program Q A γ) :
    (p.bind f).bind g = p.bind fun a => (f a).bind g := by
  induction p with
  | done a => rfl
  | ask q next ih => simp [bind, ih]

instance : LawfulMonad (Program Q A) :=
  LawfulMonad.mk' _ (fun p => bind_done p) (fun _ _ => rfl) bind_assoc

/-- Running one program after another is running the first and then the second. -/
theorem answered_bind {σ : Type} (answer : σ → (q : Q) → A q × σ) (p : Program Q A α)
    (f : α → Program Q A β) (s : σ) :
    answered answer s (p.bind f)
      = answered answer (answered answer s p).2 (f (answered answer s p).1) := by
  induction p generalizing s with
  | done a => rfl
  | ask q next ih => simp [bind, answered, ih]

end Program

end GameFleet
