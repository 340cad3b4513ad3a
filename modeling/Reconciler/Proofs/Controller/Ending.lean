import Reconciler.Proofs.Controller.Stage
import Reconciler.Proofs.Dialogue

/-!
How a reconcile can end, whoever answers its questions. What is counted of it and what its caller
is told are chosen together, and the only crash there is comes from a call that changed the state.
-/

set_option autoImplicit false

namespace Reconciler.Controller

variable {k : Kind}

/-- What a reconcile can come to: what is decided, with what is counted. -/
inductive Ending (requeueAfter : Duration) : Except Stop (Decision × Outcome) → Prop
  | skipped : Ending requeueAfter (.ok (.done, .skipped))
  | invalid : Ending requeueAfter (.ok (.done, .invalid))
  | done : Ending requeueAfter (.ok (.done, .done))
  | again : Ending requeueAfter (.ok (.again requeueAfter, .requeue))
  | failed (e : Error) : Ending requeueAfter (.error (.failed e))
  | stateChanged (kind name rule : String) (before after : Option State) :
      Ending requeueAfter (.error (.crashed (.stateChanged kind name rule before after)))

namespace Stage

variable {requeueAfter : Duration} {now : Instant} {key : ObjectKey}
  {result : Except Stop (Decision × Outcome)}

theorem ending_of_read {found : Except Error (Object k)}
    (ends : afterRead found = .finished result) : Ending requeueAfter result := by
  cases found with
  | error e =>
    cases e with
    | notFound =>
      cases ends
      exact .skipped
    | _ =>
      cases ends
      exact .failed _
  | ok o =>
    unfold afterRead at ends
    cases read : o.toResource <;> simp [read] at ends

theorem ending_of_check {r : Resource k} {alive : Except Interruption Unit}
    (ends : afterCheck r alive = .finished result) : Ending requeueAfter result := by
  cases alive with
  | error i =>
    cases ends
    exact .failed _
  | ok _ =>
    unfold afterCheck at ends
    cases chosen : k.handler.rule? r with
    | none =>
      simp only [chosen] at ends
      cases ends
      exact .done
    | some rule => simp [chosen] at ends

theorem ending_of_settled {rule : Rule k Operation Write} {called : Resource k}
    {outcome : CallOutcome}
    (ends : settled requeueAfter now rule called outcome = .finished result) :
    Ending requeueAfter result := by
  cases outcome with
  | ok _ => cases ends
  | error e =>
    cases e <;> cases ends
    exact .again

theorem ending_of_call {rule : Rule k Operation Write} {r : Resource k}
    {answer : Resource k × Except Interruption CallOutcome}
    (ends : afterCall requeueAfter now rule r answer = .finished result) :
    Ending requeueAfter result := by
  obtain ⟨called, ended⟩ := answer
  cases ended with
  | error i =>
    cases ends
    exact .failed _
  | ok outcome =>
    by_cases same : called.rawState = r.rawState
    · rw [afterCall_of_same outcome same] at ends
      exact ending_of_settled ends
    · rw [afterCall_of_changed outcome same] at ends
      cases ends
      exact .stateChanged ..

theorem ending_of_write {again : Bool} {written : Except Error Unit}
    (ends : (afterWrite requeueAfter again written : Stage k) = .finished result) :
    Ending requeueAfter result := by
  cases written with
  | error e =>
    cases ends
    exact .failed _
  | ok _ =>
    cases again <;> cases ends
    · exact .done
    · exact .again

theorem ending_of_asks {st : Stage k} {q : Query k} {next : q.Answer → Stage k}
    (asks : Asks requeueAfter now key st q next) {answer : q.Answer}
    (ends : next answer = .finished result) : Ending requeueAfter result := by
  cases asks with
  | reading => exact ending_of_read ends
  | recording e =>
    cases ends
    exact .invalid
  | choosing r => exact ending_of_check ends
  | calling r call => exact ending_of_call ends
  | passing r call => exact ending_of_call ends
  | updating again r => exact ending_of_write ends
  | deleting again r => exact ending_of_write ends
  | keeping again r => exact ending_of_write ends

theorem ending_of_work {st : Stage k} (ends : (st.work requeueAfter now key).CanEnd result) :
    st = .finished result ∨ Ending requeueAfter result := by
  generalize stands : st.work requeueAfter now key = d at ends
  induction ends generalizing st with
  | done result => exact .inl (finished_of_work stands)
  | ask answer rest ih =>
    obtain ⟨leads, asks, goes⟩ := asks_of_work stands
    rcases ih (goes answer).symm with finished | ending
    · exact .inr (ending_of_asks asks finished)
    · exact .inr ending

end Stage

/-- Whoever answers it, a reconcile ends in one of these ways. -/
theorem ending_of_reconcile {requeueAfter : Duration} {now : Instant} {key : ObjectKey}
    {result : Except Stop (Decision × Outcome)}
    (ends : (reconcile (k := k) requeueAfter now key).CanEnd result) :
    Ending requeueAfter result := by
  have worked : ((Stage.reading : Stage k).work requeueAfter now key).CanEnd result := ends
  rcases Stage.ending_of_work worked with finished | ending
  · cases finished
  · exact ending

end Reconciler.Controller
