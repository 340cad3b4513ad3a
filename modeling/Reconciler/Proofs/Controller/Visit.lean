import Mathlib.Logic.Relation
import Reconciler.Proofs.Context
import Reconciler.Proofs.Controller.Stage
import Reconciler.Proofs.Store.Served

/-!
Reconciles in a world. A `Visit` is a reconcile under way; `Visit.Step` answers its next
question as the store, the provider and the context may answer it, whatever the moment, and
logs what was done outside. Nothing is assumed of the provider but what its `Service` says.
-/

set_option autoImplicit false

namespace Reconciler

open Controller (Stage)

/-- How a provider with states of type `π` meets calls: as one that it ends, with the
resource it leaves, or as one that is cut short. -/
structure Service (k : Kind) (π : Type) where
  serves : Operation → Resource k → π → Resource k → CallOutcome → π → Prop
  leaves : Operation → Resource k → π → π → Prop

/-- The provider leaves the metadata and the lifecycle of resources alone. -/
def Service.Faithful {k : Kind} {π : Type} (service : Service k π) : Prop :=
  ∀ {op r p r' outcome p'}, service.serves op r p r' outcome p' →
    r'.metadata = r.metadata ∧ r'.lifecycle = r.lifecycle

/-- The provider leaves resources as they are. -/
def Service.Sparing {k : Kind} {π : Type} (service : Service k π) : Prop :=
  ∀ {op r p r' outcome p'}, service.serves op r p r' outcome p' → r' = r

theorem Service.Sparing.faithful {k : Kind} {π : Type} {service : Service k π}
    (sparing : service.Sparing) : service.Faithful := by
  intro op r p r' outcome p' serves
  obtain rfl := sparing serves
  exact ⟨rfl, rfl⟩

structure World (k : Kind) (π : Type) where
  store : MemoryStore k
  provider : π
  clock : Moment

/-- What a reconcile does outside itself. A call that was cut short has no end. -/
inductive Happening (k : Kind) where
  | called (op : Operation) (given : Resource k) (ended : Option (Resource k × CallOutcome))
  | accessed (c : StoreCall k) (before after : MemoryStore k)

namespace Happening

variable {k : Kind}

def isCall : Happening k → Bool
  | .called .. => true
  | .accessed .. => false

/-- A call that was not cut short, or a store call that left the store as it was. -/
def Settled : Happening k → Prop
  | .called _ _ ended => ended.isSome
  | .accessed _ before after => before = after

end Happening

variable {k : Kind} {π : Type}

/-- How a call on the store goes: it is performed at some moment, or it fails and leaves the
store as it was. -/
inductive World.Access (ctx : Context) (w : World k π) (c : StoreCall k) :
    c.Answer → World k π → Prop
  | performed (t : Moment) (wall : Instant) (later : w.clock.nanos ≤ t.nanos) :
      Access ctx w c (w.store.performUnder ctx t wall c).1
        { w with store := (w.store.performUnder ctx t wall c).2, clock := t }
  | failed (t : Moment) (e : Error) (later : w.clock.nanos ≤ t.nanos) :
      Access ctx w c (.error e) { w with clock := t }

namespace World.Access

variable {ctx : Context} {w w' : World k π} {c : StoreCall k}

theorem clock_le {answer : c.Answer} (access : w.Access ctx c answer w') :
    w.clock.nanos ≤ w'.clock.nanos := by
  cases access <;> assumption

theorem provider_eq {answer : c.Answer} (access : w.Access ctx c answer w') :
    w'.provider = w.provider := by
  cases access <;> rfl

theorem store_eq_of_error {e : Error} (access : w.Access ctx c (.error e) w') :
    w'.store = w.store := by
  generalize answered : (Except.error e : c.Answer) = answer at access
  cases access with
  | failed _ _ _ => rfl
  | performed t wall _ => exact MemoryStore.performUnder_error answered.symm

theorem read {key : ObjectKey} {found : (StoreCall.get key : StoreCall k).Answer}
    (access : w.Access ctx (.get key) found w') :
    w'.store = w.store ∧ ∀ o, found = .ok o → w.store.objects.get? key = some o := by
  cases access with
  | failed _ _ _ => exact ⟨rfl, fun o impossible => nomatch impossible⟩
  | performed t wall _ =>
    cases alive : ctx.check t with
    | error i =>
      rw [MemoryStore.performUnder_of_ended wall w.store _ alive]
      exact ⟨rfl, fun o impossible => nomatch impossible⟩
    | ok _ =>
      rw [MemoryStore.performUnder_of_live wall w.store _ alive]
      exact ⟨rfl, fun o there => MemoryStore.get_eq_ok.mp there⟩

end World.Access

/-- The answers to the questions of a reconcile, with what happens in the world for them. -/
inductive World.Answers (service : Service k π) (ctx : Context) (w : World k π) :
    (q : Query k) → q.Answer → List (Happening k) → World k π → Prop
  | checked (t : Moment) (later : w.clock.nanos ≤ t.nanos) :
      Answers service ctx w .check (ctx.check t) [] { w with clock := t }
  | refused {op : Operation} {r : Resource k} (t : Moment) (i : Interruption) (r' : Resource k)
      (later : w.clock.nanos ≤ t.nanos) (ended : ctx.check t = .error i) :
      Answers service ctx w (.call op r) (r', .error i) [] { w with clock := t }
  | abandoned {op : Operation} {r : Resource k} (t t' : Moment) (i : Interruption)
      (r' : Resource k) (p : π) (later : w.clock.nanos ≤ t.nanos) (waited : t.nanos ≤ t'.nanos)
      (live : ctx.check t = .ok ()) (leaves : service.leaves op r w.provider p) :
      Answers service ctx w (.call op r) (r', .error i) [.called op r none]
        { w with provider := p, clock := t' }
  | completed {op : Operation} {r : Resource k} (t t' : Moment) (r' : Resource k)
      (outcome : CallOutcome) (p : π) (later : w.clock.nanos ≤ t.nanos)
      (waited : t.nanos ≤ t'.nanos) (live : ctx.check t = .ok ())
      (serves : service.serves op r w.provider r' outcome p) :
      Answers service ctx w (.call op r) (r', .ok outcome) [.called op r (some (r', outcome))]
        { w with provider := p, clock := t' }
  | read {c : StoreCall k} {answer : c.Answer} {w' : World k π}
      (access : World.Access ctx w c answer w') :
      Answers service ctx w (.read c) answer [.accessed c w.store w'.store] w'
  | commit {c : StoreCall k} {answer : c.Answer} {w' : World k π}
      (access : World.Access ctx w c answer w') :
      Answers service ctx w (.commit c) answer [.accessed c w.store w'.store] w'

theorem World.Answers.clock_le {service : Service k π} {ctx : Context} {w w' : World k π}
    {q : Query k} {answer : q.Answer} {happenings : List (Happening k)}
    (answers : w.Answers service ctx q answer happenings w') : w.clock.nanos ≤ w'.clock.nanos := by
  cases answers with
  | checked t later => exact later
  | refused t i r' later => exact later
  | abandoned t t' i r' p later waited => exact Nat.le_trans later waited
  | completed t t' r' outcome p later waited => exact Nat.le_trans later waited
  | read access => exact access.clock_le
  | commit access => exact access.clock_le

/-- A reconcile under way: what is left of it and what it has done, oldest first. -/
structure Visit (k : Kind) where
  ctx : Context
  work : Controller.Work k (Except Stop (Decision × Outcome))
  log : List (Happening k)

namespace Visit

def start (ctx : Context) (requeueAfter : Duration) (wall : Instant) (key : ObjectKey) : Visit k :=
  { ctx, work := Controller.reconcile requeueAfter wall key, log := [] }

def Over (v : Visit k) : Prop := ∃ result, v.work = .done result

inductive Step (service : Service k π) : World k π × Visit k → World k π × Visit k → Prop
  | answered {w w' : World k π} {ctx : Context} {q : Query k}
      {next : q.Answer → Controller.Work k (Except Stop (Decision × Outcome))}
      {log happenings : List (Happening k)} {answer : q.Answer}
      (answers : w.Answers service ctx q answer happenings w') :
      Step service (w, ⟨ctx, .ask q next, log⟩) (w', ⟨ctx, next answer, log ++ happenings⟩)

abbrev Run (service : Service k π) : World k π × Visit k → World k π × Visit k → Prop :=
  Relation.ReflTransGen (Step service)

theorem Step.of_stage {service : Service k π} {w w' : World k π} {v v' : Visit k}
    {requeueAfter : Duration} {wall : Instant} {key : ObjectKey} {st : Stage k}
    (step : Step service (w, v) (w', v')) (stands : v.work = st.work requeueAfter wall key) :
    ∃ q next answer happenings, Stage.Asks requeueAfter wall key st q next ∧
      w.Answers service v.ctx q answer happenings w' ∧
      v' = ⟨v.ctx, (next answer).work requeueAfter wall key, v.log ++ happenings⟩ := by
  cases step with
  | @answered _ _ ctx q next log happenings answer answers =>
    obtain ⟨leads, asks, goes⟩ := Stage.asks_of_work stands.symm
    exact ⟨q, leads, answer, happenings, asks, answers, by rw [goes]⟩

/-- What every answer to the question of a stage keeps holds of a reconcile at every moment. -/
theorem Run.stage {service : Service k π} {ctx : Context} {requeueAfter : Duration}
    {wall : Instant} {key : ObjectKey} {w₀ w : World k π} {v : Visit k}
    {P : World k π → List (Happening k) → Stage k → Prop} (begins : P w₀ [] .reading)
    (keeps : ∀ {w w' log happenings st} {q : Query k} {next : q.Answer → Stage k}
      {answer : q.Answer}, P w log st → Stage.Asks requeueAfter wall key st q next →
        w.Answers service ctx q answer happenings w' → P w' (log ++ happenings) (next answer))
    (run : Run service (w₀, start ctx requeueAfter wall key) (w, v)) :
    ∃ st : Stage k, v.ctx = ctx ∧ v.work = st.work requeueAfter wall key ∧ P w v.log st := by
  generalize moment : (w, v) = m at run
  induction run generalizing w v with
  | refl =>
    obtain ⟨rfl, rfl⟩ := Prod.mk.inj moment
    exact ⟨.reading, rfl, rfl, begins⟩
  | @tail m _ _ step ih =>
    subst moment
    obtain ⟨st, context, stands, held⟩ := ih rfl
    obtain ⟨q, next, answer, happenings, asks, answers, rfl⟩ := step.of_stage stands
    rw [context] at answers
    exact ⟨next answer, context, rfl, keeps held asks answers⟩

theorem Over.no_step {service : Service k π} {w w' : World k π} {v v' : Visit k}
    (finished : v.Over) : ¬ Step service (w, v) (w', v') := by
  rintro ⟨answers⟩
  obtain ⟨result, ended⟩ := finished
  cases ended

/-- A dialogue answered to its end, by whatever answers as the world may, is a run of a
visit. -/
theorem run_of_dialogue {σ : Type} {service : Service k π} {ctx : Context}
    (world : σ → World k π) (answer : (q : Query k) → σ → q.Answer × σ)
    (answers : ∀ s q, ∃ happenings,
      (world s).Answers service ctx q (answer q s).1 happenings (world (answer q s).2))
    (d : Controller.Work k (Except Stop (Decision × Outcome))) (s : σ)
    (log : List (Happening k)) :
    ∃ log', Run service (world s, ⟨ctx, d, log⟩)
      (world (d.run answer s).2, ⟨ctx, .done (d.run answer s).1, log'⟩) := by
  induction d generalizing s log with
  | done result => exact ⟨log, .refl⟩
  | ask q next ih =>
    obtain ⟨happenings, answered⟩ := answers s q
    obtain ⟨log', rest⟩ := ih (answer q s).1 (answer q s).2 (log ++ happenings)
    exact ⟨log', .head (.answered answered) rest⟩

end Visit

end Reconciler
