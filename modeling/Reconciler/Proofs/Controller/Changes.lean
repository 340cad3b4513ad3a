import Reconciler.Proofs.Controller.History
import Reconciler.Proofs.Controller.Round

/-!
What a run makes of the store. A reconcile writes what it has worked out from an object that may
be long gone by then; but the store takes the write only while the object is still the one that
was read, and so it is the turn of the object that is stored. However users and reconciles
interleave, the store passes from one state to the next by a `Change`.
-/

set_option autoImplicit false

namespace Reconciler

open Controller (Stage)
open MemoryStore (Seen Evolves Kept Stands)

variable {k : Kind} {π : Type}

/-- What users may do to an object, by what is stored before and after. -/
abbrev Fairness (k : Kind) : Type := Option (Object k) → Option (Object k) → Prop

/-- The steps of a scene, where users do only what is fair. -/
inductive Scene.FairStep (set : Setting k π) (fair : Fairness k) : Scene k π → Scene k π → Prop
  | used {sc : Scene k π} {q : Request k} (deed : Deed set.key sc.world.store q)
      (allowed : fair (sc.world.store.objects.get? set.key)
        ((sc.world.store.after q).objects.get? set.key)) :
      FairStep set fair sc { sc with world := { sc.world with store := sc.world.store.after q } }
  | begun {sc : Scene k π} (ctx : Context) (requeueAfter : Duration) (wall : Instant)
      (free : set.overlapping = true ∨ ∀ v ∈ sc.visits, v.Over) :
      FairStep set fair sc
        { sc with visits := sc.visits ++ [.start ctx requeueAfter wall set.key] }
  | advanced {w w' : World k π} {v v' : Visit k} {before after : List (Visit k)}
      (step : Visit.Step set.service (w, v) (w', v')) :
      FairStep set fair ⟨w, before ++ v :: after⟩ ⟨w', before ++ v' :: after⟩

abbrev Scene.FairRun (set : Setting k π) (fair : Fairness k) : Scene k π → Scene k π → Prop :=
  Relation.ReflTransGen (FairStep set fair)

/-- One change of a store: a user's deed, or the turn of the object that is stored. -/
inductive MemoryStore.Change (key : ObjectKey) (fair : Fairness k) (s : MemoryStore k) :
    MemoryStore k → Prop
  | used {q : Request k} (deed : Deed key s q)
      (allowed : fair (s.objects.get? key) ((s.after q).objects.get? key)) :
      Change key fair s (s.after q)
  | turned {o : Object k} {r : Resource k} (stands : s.Stands key o r) (outcome : CallOutcome)
      (now : Instant) :
      Change key fair s (s.saved key o (r.turn outcome now).written (r.turn outcome now).left)

/-- What a reconcile is about to do is the turn of the resource it works on. -/
def Errand (key : ObjectKey) (s : MemoryStore k) : Stage k → Prop
  | .asking rule r => k.handler.rule? r = some rule
  | .writing w _ r' => ∃ o r outcome now, Seen key s o ∧ o.WellFormed r ∧
      (r.turn outcome now).written = w ∧ (r.turn outcome now).left = r'
  | .reading | .recording _ | .choosing _ | .finished _ => True

/-- The provider was asked only for what the table asks. -/
def Asked (log : List (Happening k)) : Prop :=
  ∀ {op r ended}, .called op r ended ∈ log → r.Asks op

theorem Next.asks {r : Resource k} {rule : Rule k Operation Write} (next : Next r rule)
    {op : Operation} (call : rule.call = some op) : r.Asks op := by
  cases next with
  | entering enters => cases call
  | activating asks lasting =>
    cases call
    exact asks
  | deleting asks =>
    cases call
    exact asks

/-- What is to be shown of a property of resources for every stored one to have it: those just
made have it, and what users fairly do and turns keep it. -/
structure Lasting (fair : Fairness k) (I : Resource k → Prop) : Prop where
  fresh : ∀ {o : Object k} {r}, o.WellFormed r → r.status = none → fair none (some o) → I r
  changed : ∀ {o : Object k} {r spec version created deleted}, o.WellFormed r → I r →
    (r.isDeleted = true → deleted.isSome) →
    fair (some o) (some (({ o with spec := spec } : Object k).restamp version created deleted)) →
    I (Resource.restamp { r with spec := k.mapSpec Reference.plain spec } (version.getD "")
      created deleted)
  turned : ∀ {r now outcome t version created deleted}, I r → Turned r now outcome t →
    t.written = some .update → deleted.isSome = r.isDeleted →
    I (t.left.stored.restamp version created deleted)

namespace MemoryStore

variable {key : ObjectKey} {fair : Fairness k} {I : Resource k → Prop} {s s' : MemoryStore k}

/-- What is stored under the key is a tended object of a resource with the property. -/
structure Bears (key : ObjectKey) (I : Resource k → Prop) (s : MemoryStore k) : Prop where
  sound : s.Sound
  held : ∀ {o}, s.objects.get? key = some o → ∃ r, o.Tended r ∧ I r

theorem Bears.of_fresh (past : List (Request k)) (stored : s = empty.afterAll past) {o : Object k}
    {r : Resource k} (found : s.objects.get? key = some o) (formed : o.WellFormed r)
    (fresh : o.status = none) (holds : I r) : s.Bears key I := by
  refine ⟨?_, fun {o'} found' => ?_⟩
  · rw [stored]
    exact sound_empty.afterAll past
  · obtain rfl := Option.some.inj (found.symm.trans found')
    exact ⟨r, formed.fresh fresh, holds⟩

theorem Bears.kept (bears : s.Bears key I) : s.Kept key where
  sound := bears.sound
  tended := by
    intro o found
    obtain ⟨r, tended, -⟩ := bears.held found
    exact ⟨r, tended⟩

theorem Bears.of_stands (bears : s.Bears key I) {o : Object k} {r : Resource k}
    (stands : s.Stands key o r) : o.Tended r ∧ I r := by
  obtain ⟨r', tended, holds⟩ := bears.held stands.found
  obtain rfl := stands.formed.unique tended.toWellFormed
  exact ⟨tended, holds⟩

theorem Bears.respec (bears : s.Bears key I) {o : Object k} {r : Resource k}
    (found : s.objects.get? key = some o) (tended : o.Tended r) {ctx : Context} {clock : Moment}
    (now : Instant) (live : ctx.check clock = .ok ()) (spec : k.Spec String)
    {I' : Resource k → Prop} (holds : ∀ version created deleted, deleted.isSome = r.isDeleted →
      I' (Resource.restamp { r with spec := k.mapSpec Reference.plain spec } version created
        deleted)) :
    (s.after (.call ctx clock now (.replace { o with spec := spec }))).Bears key I' := by
  have stands : s.Stands key o r := ⟨bears.sound, found, tended.toWellFormed⟩
  refine ⟨bears.sound.after _, fun {o'} found' => ?_⟩
  obtain rfl := Option.some.inj ((stands.get?_respec now live spec).symm.trans found')
  exact ⟨_, (tended.respec spec).restamp _ _ _, holds _ _ _ tended.isDeleted.symm⟩

theorem Change.sound (change : s.Change key fair s') (sound : s.Sound) : s'.Sound := by
  cases change with
  | used deed allowed => exact sound.after _
  | @turned o r stands outcome now =>
    have placed := (r.turned outcome now).metadata
    cases (r.turn outcome now).written with
    | none => exact sound
    | some w =>
      cases w with
      | update => exact (stands.rewritten placed).sound
      | delete => exact sound.erase key

theorem Change.bears (lasting : Lasting fair I) (change : s.Change key fair s')
    (bears : s.Bears key I) : s'.Bears key I := by
  refine ⟨change.sound bears.sound, fun {o'} found => ?_⟩
  cases change with
  | used deed allowed =>
    cases deed.left bears.sound with
    | same same => exact bears.held (same ▸ found)
    | gone gone => cases gone.symm.trans found
    | made absent formed fresh version created found' =>
      obtain rfl := Option.some.inj (found'.symm.trans found)
      have formed' := formed.restamp version created none
      rw [absent, found'] at allowed
      exact ⟨_, (formed.fresh fresh).restamp version created none,
        lasting.fresh formed' (formed.unobserved fresh) allowed⟩
    | changed was spec version created deleted marked found' =>
      obtain rfl := Option.some.inj (found'.symm.trans found)
      obtain ⟨r, tended, holds⟩ := bears.held was
      rw [was, found'] at allowed
      exact ⟨_, (tended.respec spec).restamp version created deleted,
        lasting.changed tended.toWellFormed holds (tended.isDeleted ▸ marked) allowed⟩
  | @turned o r stands outcome now =>
    have turned := r.turned outcome now
    rcases stands.of_saved turned.metadata found with ⟨-, rfl⟩ | ⟨written, rfl, -⟩
    · exact bears.held stands.found
    · obtain ⟨tended, holds⟩ := bears.of_stands stands
      have driven :=
        r.driven_of_turned (Resource.observable_of_written written) tended.driven turned
      exact ⟨_, (tended.written turned.metadata driven).restamp _ _ _,
        lasting.turned holds turned written tended.isDeleted.symm⟩

theorem Change.bears_of_run (lasting : Lasting fair I)
    (changes : Relation.ReflTransGen (Change key fair) s s') (bears : s.Bears key I) :
    s'.Bears key I := by
  induction changes with
  | refl => exact bears
  | tail _ change ih => exact change.bears lasting ih

end MemoryStore

theorem Round.bears {key : ObjectKey} {fair : Fairness k} {I : Resource k → Prop}
    {s : MemoryStore k} (lasting : Lasting fair I) (bears : s.Bears key I) (round : Round) :
    (round.after key s).Bears key I := by
  cases found : s.objects.get? key with
  | none =>
    rw [round.after_of_absent found]
    exact bears
  | some o =>
    obtain ⟨r, tended, -⟩ := bears.held found
    have stands : s.Stands key o r := ⟨bears.sound, found, tended.toWellFormed⟩
    rw [round.after_of_stands stands]
    exact (MemoryStore.Change.turned stands _ _).bears lasting bears

/-- Two rounds in which every call succeeds leave nothing to do for an object that is not marked
for deletion, and keep what lasts. -/
theorem Round.settle {key : ObjectKey} {fair : Fairness k} {I : Resource k → Prop}
    {s : MemoryStore k} (observable : (k.noFacts? : Option (k.Facts Reference)).isSome)
    (lasting : Lasting fair I) (bears : s.Bears key I) {o : Object k}
    (found : s.objects.get? key = some o) (unmarked : o.metadata.deletionTimestamp = none)
    {first second : Round} (done : first.outcome = .ok ()) (done' : second.outcome = .ok ()) :
    ∃ o' r', (second.after key (first.after key s)).Stands key o' r' ∧ r'.Rests ∧
      o'.spec = o.spec ∧ o'.Tended r' ∧ I r' := by
  obtain ⟨r, tended, -⟩ := bears.held found
  have stands : s.Stands key o r := ⟨bears.sound, found, tended.toWellFormed⟩
  have unwanted : r.wantsDeletion = false := by
    rw [Resource.wantsDeletion_of_driven tended.driven, tended.isDeleted, unmarked]
    rfl
  obtain ⟨o₂, r₂, stands₂, rests⟩ := Round.settles observable stands unwanted done done'
  have bears₁ := Round.bears lasting bears first
  have spec : o₂.spec = o.spec := by
    cases found₁ : (first.after key s).objects.get? key with
    | none => cases (second.after_of_absent found₁ ▸ found₁).symm.trans stands₂.found
    | some o₁ =>
      obtain ⟨r₁, tended₁, -⟩ := bears₁.held found₁
      have stands₁ : (first.after key s).Stands key o₁ r₁ :=
        ⟨bears₁.sound, found₁, tended₁.toWellFormed⟩
      exact (spec_after stands₁ stands₂.found).1.trans (spec_after stands found₁).1
  obtain ⟨tended₂, holds₂⟩ := (Round.bears lasting bears₁ second).of_stands stands₂
  exact ⟨o₂, r₂, stands₂, rests, spec, tended₂, holds₂⟩

section Answers

variable {service : Service k π} {ctx : Context} {requeueAfter : Duration} {wall : Instant}
  {key : ObjectKey} {s s' : MemoryStore k} {w w' : World k π}
  {log happenings : List (Happening k)} {st : Stage k} {q : Query k}
  {next : q.Answer → Stage k} {answer : q.Answer}

theorem Errand.later (errand : Errand key s st) (later : Evolves s s') : Errand key s' st := by
  cases st with
  | writing w again r' =>
    obtain ⟨o, r, outcome, now, seen, turn⟩ := errand
    exact ⟨o, r, outcome, now, seen.later later, turn⟩
  | _ => exact errand

theorem Errand.asked (errand : Errand key w.store st)
    (asks : Stage.Asks requeueAfter wall key st q next)
    (answers : w.Answers service ctx q answer happenings w') : Asked happenings := by
  intro op r ended listed
  cases answers with
  | checked t later => cases listed
  | refused t i r' later ended => cases listed
  | abandoned t t' i r' p later waited live leaves =>
    cases List.mem_singleton.mp listed
    cases asks with
    | calling r call => exact (Next.of_rule? errand).asks call
  | completed t t' r' outcome p later waited live serves =>
    cases List.mem_singleton.mp listed
    cases asks with
    | calling r call => exact (Next.of_rule? errand).asks call
  | read access => cases List.mem_singleton.mp listed
  | commit access => cases List.mem_singleton.mp listed

theorem Errand.of_check {r : Resource k} (alive : Except Interruption Unit) :
    Errand key s (Stage.afterCheck r alive) := by
  cases alive with
  | error i => trivial
  | ok _ =>
    cases chosen : k.handler.rule? r with
    | none =>
      rw [Stage.afterCheck_none chosen]
      trivial
    | some rule =>
      rw [Stage.afterCheck_some chosen]
      exact chosen

theorem Stage.settled_turn (requeueAfter : Duration) (wall : Instant) (r : Resource k)
    {rule : Rule k Operation Write} {outcome : CallOutcome}
    (asked : rule.call = none → outcome = .ok ()) :
    (∃ result, Stage.settled requeueAfter wall rule r outcome = .finished result) ∨
      ∃ again, Stage.settled requeueAfter wall rule r outcome =
        .writing (rule.turn outcome wall r).written again (rule.turn outcome wall r).left := by
  unfold Rule.turn
  cases call : rule.call with
  | none =>
    obtain rfl := asked call
    exact .inr ⟨_, rfl⟩
  | some op =>
    cases outcome with
    | ok _ => exact .inr ⟨_, rfl⟩
    | error e =>
      cases e with
      | stillProcessing => exact .inl ⟨_, rfl⟩
      | failed provider operation reason => exact .inr ⟨_, rfl⟩
      | unknownResource provider name => exact .inr ⟨_, rfl⟩

theorem Errand.of_settled {o : Object k} {r : Resource k} {rule : Rule k Operation Write}
    (seen : Seen key s o) (formed : o.WellFormed r) (chosen : k.handler.rule? r = some rule)
    {outcome : CallOutcome} (asked : rule.call = none → outcome = .ok ()) :
    Errand key s (Stage.settled requeueAfter wall rule r outcome) := by
  have turn : r.turn outcome wall = rule.turn outcome wall r := by
    simp only [Resource.turn, chosen]
  rcases Stage.settled_turn requeueAfter wall r asked with ⟨result, finished⟩ | ⟨again, writing⟩
  · rw [finished]
    trivial
  · rw [writing, ← turn]
    exact ⟨o, r, outcome, wall, seen, formed, rfl, rfl⟩

theorem Errand.step (sparing : service.Sparing) (pursuit : Pursuit key w.store log st)
    (errand : Errand key w.store st) (asks : Stage.Asks requeueAfter wall key st q next)
    (answers : w.Answers service ctx q answer happenings w') :
    Errand key w'.store (next answer) := by
  cases asks with
  | reading =>
    cases answer with
    | error e =>
      obtain ⟨result, finished⟩ := Stage.afterRead_error (k := k) e
      rw [finished]
      trivial
    | ok o =>
      cases read : o.toResource with
      | ok r =>
        rw [Stage.afterRead_ok read]
        trivial
      | error e =>
        rw [Stage.afterRead_unreadable read]
        trivial
  | recording e => trivial
  | choosing r => exact .of_check answer
  | calling r call =>
    obtain ⟨-, ⟨o, seen, tended⟩, -⟩ := pursuit
    cases answers with
    | refused t i r' later ended => trivial
    | abandoned t t' i r' p later waited live leaves => trivial
    | completed t t' r' outcome p later waited live serves =>
      obtain rfl := sparing serves
      rw [Stage.afterCall_of_same outcome rfl]
      exact .of_settled seen tended.toWellFormed errand fun none => by rw [call] at none; cases none
  | @passing rule r call =>
    obtain ⟨-, ⟨o, seen, tended⟩, -⟩ := pursuit
    cases answers with
    | checked t later =>
      cases ctx.check t with
      | error i => trivial
      | ok _ =>
        change Errand _ _ (Stage.afterCall requeueAfter wall rule r (r, .ok (.ok ())))
        rw [Stage.afterCall_of_same (.ok ()) rfl]
        exact .of_settled seen tended.toWellFormed errand fun _ => rfl
  | updating again r => trivial
  | deleting again r => trivial
  | keeping again r => trivial

theorem Errand.change (kept : w.store.Kept key) (pursuit : Pursuit key w.store log st)
    (errand : Errand key w.store st) (asks : Stage.Asks requeueAfter wall key st q next)
    (answers : w.Answers service ctx q answer happenings w') (fair : Fairness k) :
    w'.store = w.store ∨ w.store.Change key fair w'.store := by
  cases asks with
  | reading =>
    cases answers with
    | read access => exact .inl access.read.1
  | recording e => exact pursuit.elim
  | choosing r =>
    cases answers with
    | checked t later => exact .inl rfl
  | calling r call => cases answers <;> exact .inl rfl
  | passing r call =>
    cases answers with
    | checked t later => exact .inl rfl
  | updating again r' =>
    obtain ⟨o, r, outcome, now, seen, formed, written, left⟩ := errand
    have placed : r'.metadata = r.metadata := left ▸ (r.turned outcome now).metadata
    cases answers with
    | commit access =>
      rcases access.rewrites seen formed.read placed with same | ⟨found, after⟩
      · exact .inl same
      · -- The store has taken the write, so the object that was read is still the one stored.
        have turned : w.store.Change key fair _ := .turned ⟨kept.sound, found, formed⟩ outcome now
        rw [written, left] at turned
        exact .inr (after ▸ turned)
  | deleting again r' =>
    obtain ⟨o, r, outcome, now, seen, formed, written, left⟩ := errand
    have placed : r'.metadata = r.metadata := left ▸ (r.turned outcome now).metadata
    cases answers with
    | commit access =>
      rcases access.removes seen formed.read placed with same | ⟨found, after⟩
      · exact .inl same
      · have turned : w.store.Change key fair _ := .turned ⟨kept.sound, found, formed⟩ outcome now
        rw [written, left] at turned
        exact .inr (after ▸ turned)
  | keeping again r => exact pursuit.not_keeping.elim

end Answers

namespace Scene

variable {set : Setting k π} {fair : Fairness k} {sc sc' : Scene k π}

theorem FairStep.step (step : FairStep set fair sc sc') : Step set sc sc' := by
  cases step with
  | used deed allowed => exact .used deed
  | begun ctx requeueAfter wall free => exact .begun ctx requeueAfter wall free
  | advanced step => exact .advanced step

theorem Step.fairStep (step : Step set sc sc') : FairStep set (fun _ _ => True) sc sc' := by
  cases step with
  | used deed => exact .used deed trivial
  | begun ctx requeueAfter wall free => exact .begun ctx requeueAfter wall free
  | advanced step => exact .advanced step

theorem Run.fairRun (run : Run set sc sc') : FairRun set (fun _ _ => True) sc sc' :=
  Relation.ReflTransGen.mono (fun _ _ step => step.fairStep) _ _ run

theorem FairRun.run (run : FairRun set fair sc sc') : Run set sc sc' :=
  Relation.ReflTransGen.mono (fun _ _ step => step.step) _ _ run

def Bound (key : ObjectKey) (w : World k π) (log : List (Happening k)) (st : Stage k) : Prop :=
  Pursuit key w.store log st ∧ Errand key w.store st ∧ Asked log

theorem keeps_bound (sparing : set.service.Sparing) :
    Keeps set (fun w => w.store.Kept set.key) (Bound set.key) where
  start := by
    intro w kept
    refine ⟨Unwritten.nil, trivial, ?_⟩
    intro op r ended listed
    cases listed
  used := by
    intro w q kept deed
    refine ⟨kept.used deed, ?_⟩
    intro log st bound
    obtain ⟨pursuit, errand, asked⟩ := bound
    have later := Evolves.after kept.sound q
    exact ⟨pursuit.later later, errand.later later, asked⟩
  step := by
    intro w w' ctx requeueAfter wall log happenings st q next answer kept bound asks answers
    obtain ⟨pursuit, errand, asked⟩ := bound
    obtain ⟨kept', later, pursuit'⟩ := pursuit.step sparing.faithful kept asks answers
    refine ⟨kept', ⟨pursuit', errand.step sparing pursuit asks answers, ?_⟩, ?_⟩
    · intro op r ended listed
      rcases List.mem_append.mp listed with earlier | now
      · exact asked earlier
      · exact errand.asked asks answers now
    · intro log' st' _ beside
      exact ⟨beside.1.later later, beside.2.1.later later, beside.2.2⟩

abbrev Orderly (set : Setting k π) (sc : Scene k π) : Prop :=
  Holds set (fun w => w.store.Kept set.key) (Bound set.key) sc

theorem FairStep.change (step : FairStep set fair sc sc') (orderly : Orderly set sc) :
    sc'.world.store = sc.world.store ∨
      sc.world.store.Change set.key fair sc'.world.store := by
  cases step with
  | used deed allowed => exact .inr (.used deed allowed)
  | begun ctx requeueAfter wall free => exact .inl rfl
  | @advanced w w' v v' before after step =>
    obtain ⟨requeueAfter, wall, st, stands, pursuit, errand, -⟩ := orderly.visits v (by simp)
    obtain ⟨q, next, answer, happenings, asks, answers, -⟩ := step.of_stage stands
    exact errand.change orderly.world pursuit asks answers fair

/-- A run in which users are fair changes the store by one change after the other. -/
theorem FairRun.changes (sparing : set.service.Sparing) (run : FairRun set fair sc sc')
    (orderly : Orderly set sc) :
    Relation.ReflTransGen (MemoryStore.Change set.key fair) sc.world.store sc'.world.store := by
  induction run with
  | refl => exact .refl
  | tail earlier step ih =>
    rcases step.change ((FairRun.run earlier).holds (keeps_bound sparing) orderly) with same | change
    · rw [same]
      exact ih
    · exact ih.tail change

/-- What lasts is had by whatever is stored in a run from an object without a status. -/
theorem FairRun.bears_of_fresh {I : Resource k → Prop} (lasting : Lasting fair I)
    (sparing : set.service.Sparing) (past : List (Request k)) {w : World k π}
    (stored : w.store = MemoryStore.empty.afterAll past) {o : Object k} {r : Resource k}
    (found : w.store.objects.get? set.key = some o) (formed : o.WellFormed r)
    (fresh : o.status = none) (holds : I r) (run : FairRun set fair ⟨w, []⟩ sc) :
    Orderly set sc ∧ sc.world.store.Bears set.key I := by
  have bears : w.store.Bears set.key I := .of_fresh past stored found formed fresh holds
  have start : Orderly set ⟨w, []⟩ := .start bears.kept
  exact ⟨run.run.holds (keeps_bound sparing) start,
    MemoryStore.Change.bears_of_run lasting (run.changes sparing start) bears⟩

end Scene

end Reconciler
