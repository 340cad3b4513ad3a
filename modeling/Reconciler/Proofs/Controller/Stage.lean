import Reconciler.Controller

/-!
A reconcile as a machine. Between two questions a reconcile stands at a `Stage`; `asks_of_work`
says that the dialogue of a stage puts the question of that stage and goes on as the stage
that the answer leads to. Whatever a reconcile can do is read off `Asks`.
-/

set_option autoImplicit false

namespace Reconciler.Controller

variable {k : Kind}

inductive Stage (k : Kind) where
  | reading
  /-- About to note down that the object stands for no resource. -/
  | recording (e : Error)
  /-- About to look for a rule. -/
  | choosing (r : Resource k)
  /-- About to ask the provider, if the rule does. -/
  | asking (rule : Rule k Operation Write) (r : Resource k)
  /-- About to write the resource, if the rule does. -/
  | writing (w : Option Write) (again : Bool) (r : Resource k)
  | finished (result : Except Stop (Decision × Outcome))

namespace Stage

variable (requeueAfter : Duration) (now : Instant) (key : ObjectKey)

def decided (result : Except Stop Bool) : Except Stop (Decision × Outcome) :=
  result.map fun again => if again then (.again requeueAfter, .requeue) else (.done, .done)

def afterRead : Except Error (Object k) → Stage k
  | .error (.notFound ..) => .finished (.ok (.done, .skipped))
  | .error e => .finished (.error (.failed e))
  | .ok o =>
    match o.toResource with
    | .ok r => .choosing r
    | .error e => .recording e

def afterCheck (r : Resource k) : Except Interruption Unit → Stage k
  | .error i => .finished (.error (.failed i.toError))
  | .ok () =>
    match k.handler.rule? r with
    | none => .finished (.ok (.done, .done))
    | some rule => .asking rule r

def settled (rule : Rule k Operation Write) (called : Resource k) : CallOutcome → Stage k
  | .ok () => .writing rule.writeSuccess rule.requeues (rule.onSuccess now called)
  | .error .stillProcessing => .finished (.ok (.again requeueAfter, .requeue))
  | .error e => .writing rule.writeFailure true (rule.onFailure e now called)

def afterCall (rule : Rule k Operation Write) (r : Resource k)
    (answer : Resource k × Except Interruption CallOutcome) : Stage k :=
  match answer.2 with
  | .error i => .finished (.error (.failed i.toError))
  | .ok outcome =>
    if r.rawState ≠ answer.1.rawState then
      .finished (.error (.crashed
        (.stateChanged k.name answer.1.name rule.name r.rawState answer.1.rawState)))
    else settled requeueAfter now rule answer.1 outcome

def afterWrite (again : Bool) (written : Except Error Unit) : Stage k :=
  .finished (decided requeueAfter ((written.map fun _ => again).mapError .failed))

def readBack (stored : Except Error (Object k)) : Except Error Unit :=
  stored.bind fun o => o.toResource.map fun _ => ()

def work : Stage k → Work k (Except Stop (Decision × Outcome))
  | .reading => reconcile requeueAfter now key
  | .recording e =>
    .ask (.read (.record key (conversionFailure e now))) fun _ => .done (.ok (.done, .invalid))
  | .choosing r => drive requeueAfter now r
  | .asking rule r =>
    ((rule.perform now r).interpret meet).bind fun x => .done (decided requeueAfter x.2)
  | .writing w again r =>
    ((Rule.conclude w again r).interpret meet).bind fun x => .done (decided requeueAfter x.2)
  | .finished result => .done result

/-- The question of a stage and where the answers lead. -/
inductive Asks : Stage k → (q : Query k) → (q.Answer → Stage k) → Prop where
  | reading : Asks .reading (.read (.get key)) afterRead
  | recording (e : Error) :
      Asks (.recording e) (.read (.record key (conversionFailure e now)))
        fun _ => .finished (.ok (.done, .invalid))
  | choosing (r : Resource k) : Asks (.choosing r) .check (afterCheck r)
  | calling {rule : Rule k Operation Write} {op : Operation} (r : Resource k)
      (call : rule.call = some op) :
      Asks (.asking rule r) (.call op r) (afterCall requeueAfter now rule r)
  | passing {rule : Rule k Operation Write} (r : Resource k) (call : rule.call = none) :
      Asks (.asking rule r) .check
        fun alive => afterCall requeueAfter now rule r (r, alive.map fun _ => .ok ())
  | updating (again : Bool) (r : Resource k) :
      Asks (.writing (some .update) again r) (.commit (.replace (.ofResource r)))
        fun stored => afterWrite requeueAfter again (readBack stored)
  | deleting (again : Bool) (r : Resource k) :
      Asks (.writing (some .delete) again r)
        (.commit (.delete (.ofReference r.reference) (some r.metadata.version)))
        fun gone => afterWrite requeueAfter again gone
  | keeping (again : Bool) (r : Resource k) :
      Asks (.writing none again r) .check
        fun alive => afterWrite requeueAfter again (alive.mapError Interruption.toError)

theorem exists_asks (st : Stage k) :
    (∃ result, st = .finished result) ∨ ∃ q next, Asks requeueAfter now key st q next := by
  cases st with
  | reading => exact .inr ⟨_, _, .reading⟩
  | recording e => exact .inr ⟨_, _, .recording e⟩
  | choosing r => exact .inr ⟨_, _, .choosing r⟩
  | asking rule r =>
    cases call : rule.call with
    | some op => exact .inr ⟨_, _, .calling r call⟩
    | none => exact .inr ⟨_, _, .passing r call⟩
  | writing w again r =>
    cases w with
    | none => exact .inr ⟨_, _, .keeping again r⟩
    | some w =>
      cases w with
      | update => exact .inr ⟨_, _, .updating again r⟩
      | delete => exact .inr ⟨_, _, .deleting again r⟩
  | finished result => exact .inl ⟨result, rfl⟩

def proceed (rule : Rule k Operation Write) (r : Resource k)
    (answer : Resource k × Except Interruption CallOutcome) :
    Rule.Work k Operation Write (Resource k × Except Stop Bool) :=
  match answer.2 with
  | .error i => .done (answer.1, .error (.failed i.toError))
  | .ok outcome =>
    if r.rawState ≠ answer.1.rawState then
      .done (answer.1, .error (.crashed
        (.stateChanged k.name answer.1.name rule.name r.rawState answer.1.rawState)))
    else rule.settle now answer.1 outcome

theorem perform_of_call {rule : Rule k Operation Write} {op : Operation} (r : Resource k)
    (call : rule.call = some op) :
    rule.perform now r = .ask (.call op r) (proceed now rule r) := by
  unfold Rule.perform Rule.askProvider
  simp only [call]
  rfl

theorem perform_of_none {rule : Rule k Operation Write} (r : Resource k)
    (call : rule.call = none) :
    rule.perform now r =
      .ask .check fun alive => proceed now rule r (r, alive.map fun _ => .ok ()) := by
  unfold Rule.perform Rule.askProvider
  simp only [call]
  rfl

variable {requeueAfter now key}

theorem settle_eq (rule : Rule k Operation Write) (called : Resource k) (outcome : CallOutcome) :
    (((rule.settle now called outcome).interpret meet).bind fun x =>
      .done (decided requeueAfter x.2)) =
        work requeueAfter now key (settled requeueAfter now rule called outcome) := by
  cases outcome with
  | ok _ => rfl
  | error e => cases e <;> rfl

theorem proceed_eq (rule : Rule k Operation Write) (r : Resource k)
    (answer : Resource k × Except Interruption CallOutcome) :
    (((proceed now rule r answer).interpret meet).bind fun x =>
      .done (decided requeueAfter x.2)) =
        work requeueAfter now key (afterCall requeueAfter now rule r answer) := by
  obtain ⟨called, ended⟩ := answer
  cases ended with
  | error i => rfl
  | ok outcome =>
    by_cases changed : r.rawState = called.rawState
    · simp only [proceed, afterCall, changed, ne_eq, not_true_eq_false, if_false]
      exact settle_eq rule called outcome
    · simp only [proceed, afterCall, changed, ne_eq, not_false_eq_true, if_true]
      rfl

theorem afterRead_error (e : Error) : ∃ result, afterRead (.error e : Except Error (Object k)) =
    .finished result := by
  cases e <;> exact ⟨_, rfl⟩

theorem afterRead_ok {o : Object k} {r : Resource k} (read : o.toResource = .ok r) :
    afterRead (.ok o) = .choosing r := by
  simp only [afterRead, read]

theorem afterRead_unreadable {o : Object k} {e : Error} (unread : o.toResource = .error e) :
    afterRead (.ok o) = .recording e := by
  simp only [afterRead, unread]

theorem afterCheck_none {r : Resource k} (chosen : k.handler.rule? r = none) :
    afterCheck r (.ok ()) = .finished (.ok (.done, .done)) := by
  simp only [afterCheck, chosen]

theorem afterCheck_some {r : Resource k} {rule : Rule k Operation Write}
    (chosen : k.handler.rule? r = some rule) : afterCheck r (.ok ()) = .asking rule r := by
  simp only [afterCheck, chosen]

theorem afterCall_of_same {requeueAfter : Duration} {now : Instant}
    {rule : Rule k Operation Write} {r r' : Resource k} (outcome : CallOutcome)
    (same : r'.rawState = r.rawState) :
    afterCall requeueAfter now rule r (r', .ok outcome) =
      settled requeueAfter now rule r' outcome := by
  simp only [afterCall, same, ne_eq, not_true_eq_false, if_false]

theorem afterCall_of_changed {requeueAfter : Duration} {now : Instant}
    {rule : Rule k Operation Write} {r r' : Resource k} (outcome : CallOutcome)
    (changed : r'.rawState ≠ r.rawState) :
    afterCall requeueAfter now rule r (r', .ok outcome) =
      .finished (.error (.crashed
        (.stateChanged k.name r'.name rule.name r.rawState r'.rawState))) := by
  simp only [afterCall, changed.symm, ne_eq, not_false_eq_true, if_true]

theorem work_reading : work requeueAfter now key (.reading : Stage k) =
    .ask (.read (.get key)) fun found => work requeueAfter now key (afterRead found) := by
  refine congrArg (Dialogue.ask (Query.read (.get key))) (funext fun found => ?_)
  cases found with
  | error e => cases e <;> rfl
  | ok o =>
    simp only [Dialogue.bind, afterRead]
    cases o.toResource <;> rfl

theorem work_choosing (r : Resource k) : work requeueAfter now key (.choosing r) =
    .ask .check fun alive => work requeueAfter now key (afterCheck r alive) := by
  refine congrArg (Dialogue.ask Query.check) (funext fun alive => ?_)
  cases alive with
  | error i => rfl
  | ok _ =>
    simp only [Dialogue.bind, afterCheck]
    cases k.handler.rule? r <;> rfl

theorem work_eq {st : Stage k} {q : Query k} {next : q.Answer → Stage k}
    (asks : Asks requeueAfter now key st q next) :
    work requeueAfter now key st = .ask q fun answer => work requeueAfter now key (next answer) := by
  cases asks with
  | reading => exact work_reading
  | recording e => rfl
  | choosing r => exact work_choosing r
  | @calling rule op r call =>
    simp only [work, perform_of_call now r call]
    exact congrArg (Dialogue.ask (Query.call op r)) (funext fun answer => proceed_eq rule r answer)
  | @passing rule r call =>
    simp only [work, perform_of_none now r call]
    exact congrArg (Dialogue.ask Query.check) (funext fun alive => proceed_eq rule r _)
  | updating again r =>
    refine congrArg (Dialogue.ask (Query.commit (.replace (.ofResource r)))) (funext fun stored => ?_)
    cases stored with
    | error e => rfl
    | ok o =>
      simp only [readBack, Except.bind, Dialogue.bind]
      cases o.toResource <;> rfl
  | deleting again r => rfl
  | keeping again r => rfl

/-- A question that a dialogue of a stage puts is the question of that stage. -/
theorem asks_of_work {st : Stage k} {q : Query k}
    {next : q.Answer → Work k (Except Stop (Decision × Outcome))}
    (puts : work requeueAfter now key st = .ask q next) :
    ∃ leads, Asks requeueAfter now key st q leads ∧
      ∀ answer, next answer = work requeueAfter now key (leads answer) := by
  rcases exists_asks requeueAfter now key st with
    ⟨result, rfl⟩ | ⟨q', leads, asks⟩
  · cases puts
  · rw [work_eq asks] at puts
    cases puts
    exact ⟨leads, asks, fun _ => rfl⟩

theorem finished_of_work {st : Stage k} {result : Except Stop (Decision × Outcome)}
    (ended : work requeueAfter now key st = .done result) : st = .finished result := by
  rcases exists_asks requeueAfter now key st with
    ⟨result', rfl⟩ | ⟨q, leads, asks⟩
  · cases ended
    rfl
  · rw [work_eq asks] at ended
    cases ended

end Stage

end Reconciler.Controller
