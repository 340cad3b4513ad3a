/-!
Computations that ask their surroundings. A dialogue is either finished or puts a
question and goes on with the answer, so that whatever happens between two questions is
up to whoever answers them.
-/

set_option autoImplicit false

namespace Reconciler

/-- A computation of an `α` that puts questions of type `Q`; a question `q` is answered
by an `A q`. -/
inductive Dialogue (Q : Type) (A : Q → Type) (α : Type) where
  | done (a : α)
  | ask (q : Q) (next : A q → Dialogue Q A α)

namespace Dialogue

variable {Q : Type} {A : Q → Type} {α β σ : Type}

def bind : Dialogue Q A α → (α → Dialogue Q A β) → Dialogue Q A β
  | .done a, f => f a
  | .ask q next, f => .ask q fun r => bind (next r) f

instance : Monad (Dialogue Q A) where
  pure := .done
  bind := bind

def put (q : Q) : Dialogue Q A (A q) := .ask q .done

/-- Answers every question from a state that the answers change. -/
def run (answer : (q : Q) → σ → A q × σ) : Dialogue Q A α → σ → α × σ
  | .done a, s => (a, s)
  | .ask q next, s =>
    let (r, s) := answer q s
    run answer (next r) s

/-- Answers every question by a dialogue with other surroundings. -/
def interpret {P : Type} {B : P → Type} (answer : (q : Q) → Dialogue P B (A q)) :
    Dialogue Q A α → Dialogue P B α
  | .done a => .done a
  | .ask q next => (answer q).bind fun r => interpret answer (next r)

@[simp] theorem pure_def (a : α) : (pure a : Dialogue Q A α) = .done a := rfl

@[simp] theorem done_bind (a : α) (f : α → Dialogue Q A β) : ((.done a : Dialogue Q A α) >>= f) = f a :=
  rfl

@[simp] theorem ask_bind (q : Q) (next : A q → Dialogue Q A α) (f : α → Dialogue Q A β) :
    ((.ask q next : Dialogue Q A α) >>= f) = .ask q fun r => next r >>= f := rfl

theorem run_bind (answer : (q : Q) → σ → A q × σ) (d : Dialogue Q A α)
    (f : α → Dialogue Q A β) (s : σ) :
    run answer (d >>= f) s = run answer (f (run answer d s).1) (run answer d s).2 := by
  induction d generalizing s with
  | done a => rfl
  | ask q next ih => exact ih _ _

end Dialogue

end Reconciler
