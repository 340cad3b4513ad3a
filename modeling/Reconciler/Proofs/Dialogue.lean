import Reconciler.Dialogue

/-!
Dialogues held to their end. Whoever answers is a relation, so that what is shown of every
`Dialogue.Held` is shown of every way in which the questions may be answered.
-/

set_option autoImplicit false

namespace Reconciler.Dialogue

variable {Q : Type} {A : Q → Type} {α β σ τ : Type}

abbrev Exchange (A : Q → Type) : Type := (q : Q) × A q

theorem run_keeps {P : σ → Prop} {answer : (q : Q) → σ → A q × σ}
    (keeps : ∀ {q s}, P s → P (answer q s).2) (d : Dialogue Q A α) {s : σ} (holds : P s) :
    P (d.run answer s).2 := by
  induction d generalizing s with
  | done a => exact holds
  | ask q next ih => exact ih _ (keeps holds)

def transcript (answer : (q : Q) → σ → A q × σ) : Dialogue Q A α → σ → List (Exchange A)
  | .done _, _ => []
  | .ask q next, s =>
    ⟨q, (answer q s).1⟩ :: transcript answer (next (answer q s).1) (answer q s).2

/-- A way in which the dialogue can end, whatever it is answered. -/
inductive CanEnd : Dialogue Q A α → α → Prop
  | done (a : α) : CanEnd (.done a) a
  | ask {q : Q} {next : A q → Dialogue Q A α} {a : α} (answer : A q)
      (rest : CanEnd (next answer) a) : CanEnd (.ask q next) a

theorem canEnd_run (answer : (q : Q) → σ → A q × σ) (d : Dialogue Q A α) (s : σ) :
    d.CanEnd (d.run answer s).1 := by
  induction d generalizing s with
  | done a => exact .done a
  | ask q next ih => exact .ask _ (ih _ _)

/-- The dialogue was held to its end: what was asked and answered in turn, what came out of it,
and the surroundings before and after. -/
inductive Held (answers : σ → (q : Q) → A q → σ → Prop) :
    Dialogue Q A α → σ → List (Exchange A) → α → σ → Prop
  | done {a : α} {s : σ} : Held answers (.done a) s [] a s
  | ask {q : Q} {next : A q → Dialogue Q A α} {s s' s'' : σ} {answer : A q}
      {log : List (Exchange A)} {a : α} (answered : answers s q answer s')
      (rest : Held answers (next answer) s' log a s'') :
      Held answers (.ask q next) s (⟨q, answer⟩ :: log) a s''

namespace Held

variable {answers : σ → (q : Q) → A q → σ → Prop} {s s' : σ} {log : List (Exchange A)}

theorem of_done {a b : α} (held : Held answers (.done a : Dialogue Q A α) s log b s') :
    log = [] ∧ b = a ∧ s' = s := by
  cases held
  exact ⟨rfl, rfl, rfl⟩

theorem of_done_pair {a a' : α} {b b' : β}
    (held : Held answers (.done (a, b) : Dialogue Q A (α × β)) s log (a', b') s') :
    log = [] ∧ a' = a ∧ b' = b ∧ s' = s := by
  cases held
  exact ⟨rfl, rfl, rfl, rfl⟩

theorem of_ask {q : Q} {next : A q → Dialogue Q A α} {a : α}
    (held : Held answers (.ask q next) s log a s') : ∃ answer s₁ rest,
      log = ⟨q, answer⟩ :: rest ∧ answers s q answer s₁ ∧
        Held answers (next answer) s₁ rest a s' := by
  cases held with
  | ask answered rest => exact ⟨_, _, _, rfl, answered, rest⟩

theorem of_put {q : Q} {f : A q → Dialogue Q A α} {a : α}
    (held : Held answers (put q >>= f) s log a s') : ∃ answer s₁ rest,
      log = ⟨q, answer⟩ :: rest ∧ answers s q answer s₁ ∧ Held answers (f answer) s₁ rest a s' :=
  held.of_ask

theorem of_bind {d : Dialogue Q A α} {f : α → Dialogue Q A β} {b : β}
    (held : Held answers (d >>= f) s log b s') : ∃ a s₁ first second,
      log = first ++ second ∧ Held answers d s first a s₁ ∧ Held answers (f a) s₁ second b s' := by
  induction d generalizing s log with
  | done a => exact ⟨a, s, [], log, rfl, .done, held⟩
  | ask q next ih =>
    obtain ⟨answer, s₁, rest, rfl, answered, held⟩ := held.of_ask
    obtain ⟨a, s₂, first, second, rfl, earlier, later⟩ := ih answer held
    exact ⟨a, s₂, _, second, rfl, .ask answered earlier, later⟩

theorem bind {d : Dialogue Q A α} {f : α → Dialogue Q A β} {s₁ : σ} {first second : List (Exchange A)}
    {a : α} {b : β} (earlier : Held answers d s first a s₁)
    (later : Held answers (f a) s₁ second b s') :
    Held answers (d >>= f) s (first ++ second) b s' := by
  induction earlier with
  | done => exact later
  | ask answered _ ih => exact .ask answered (ih later)

/-- Whoever answers every question holds a dialogue to its end. -/
theorem of_transcript (world : τ → σ) (answer : (q : Q) → τ → A q × τ)
    (answered : ∀ t q, answers (world t) q (answer q t).1 (world (answer q t).2))
    (d : Dialogue Q A α) (t : τ) :
    Held answers d (world t) (d.transcript answer t) (d.run answer t).1 (world (d.run answer t).2) := by
  induction d generalizing t with
  | done a => exact .done
  | ask q next ih => exact .ask (answered t q) (ih _ _)

theorem of_run (world : τ → σ) (answer : (q : Q) → τ → A q × τ)
    (answered : ∀ t q, answers (world t) q (answer q t).1 (world (answer q t).2))
    (d : Dialogue Q A α) (t : τ) :
    ∃ log, Held answers d (world t) log (d.run answer t).1 (world (d.run answer t).2) :=
  ⟨_, of_transcript world answer answered d t⟩

end Held

end Reconciler.Dialogue
