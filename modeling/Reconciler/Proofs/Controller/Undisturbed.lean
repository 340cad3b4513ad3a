import Reconciler.Proofs.Controller.History

/-!
Reconciles that nothing disturbs. Such a reconcile makes at most one change to the store, and
that to the object it has read (`Treated`), whatever else the object holds and whatever state
it is in; of the provider it takes only that the metadata of resources is left alone.
-/

set_option autoImplicit false

namespace Reconciler

open Controller (Stage)
open MemoryStore (Seen replaced withConditions)

variable {k : Kind} {π : Type}

/-- The provider leaves the metadata of resources alone. -/
def Service.Placing (service : Service k π) : Prop :=
  ∀ {op r p r' outcome p'}, service.serves op r p r' outcome p' → r'.metadata = r.metadata

theorem Service.Faithful.placing {service : Service k π} (faithful : service.Faithful) :
    service.Placing := by
  intro op r p r' outcome p' served
  exact (faithful served).1

theorem Dummy.service_placing (k : Kind) : (Dummy.service k).Placing :=
  Service.Faithful.placing (service_faithful k)

/-- What a reconcile of the object under a key has made of a store. -/
inductive Treated (key : ObjectKey) (s s' : MemoryStore k) : Prop
  | spared (same : s' = s)
  | noted {o : Object k} {e : Error} {conditions : List (Condition String)}
      (found : s.objects.get? key = some o) (unread : o.toResource = .error e)
      (stored : s' = (s.write key (withConditions o conditions)).2)
  | rewritten {o : Object k} {r r' : Resource k} (found : s.objects.get? key = some o)
      (read : o.toResource = .ok r) (placed : r'.metadata = r.metadata)
      (stored : s' = (s.write key (replaced o (.ofResource r'))).2)
  | removed {o : Object k} {r : Resource k} (found : s.objects.get? key = some o)
      (read : o.toResource = .ok r) (left : s' = { s with objects := s.objects.erase key })

theorem Treated.get?_of_ne {key key' : ObjectKey} {s s' : MemoryStore k}
    (treated : Treated key s s') (apart : key' ≠ key) :
    s'.objects.get? key' = s.objects.get? key' := by
  cases treated with
  | spared same => rw [same]
  | noted found unread stored => rw [stored, MemoryStore.get?_write_of_ne _ _ apart]
  | rewritten found read placed stored => rw [stored, MemoryStore.get?_write_of_ne _ _ apart]
  | removed found read left => rw [left, SortedMap.get?_erase_of_ne _ apart]

def Undisturbed (key : ObjectKey) (s s' : MemoryStore k) : Stage k → Prop
  | .reading => s' = s
  | .recording e => s' = s ∧ ∃ o, s.objects.get? key = some o ∧ o.toResource = .error e
  | .choosing r => s' = s ∧ ∃ o, s.objects.get? key = some o ∧ o.toResource = .ok r
  | .asking rule r =>
    s' = s ∧ rule.Placing ∧ ∃ o, s.objects.get? key = some o ∧ o.toResource = .ok r
  | .writing _ _ r' =>
    s' = s ∧ ∃ o r, s.objects.get? key = some o ∧ o.toResource = .ok r ∧
      r'.metadata = r.metadata
  | .finished _ => Treated key s s'

namespace Undisturbed

theorem treated {key : ObjectKey} {s s' : MemoryStore k} {st : Stage k}
    (held : Undisturbed key s s' st) : Treated key s s' := by
  cases st with
  | reading => exact .spared held
  | recording e => exact .spared held.1
  | choosing r => exact .spared held.1
  | asking rule r => exact .spared held.1
  | writing write again r => exact .spared held.1
  | finished result => exact held

section Answers

variable {service : Service k π} {ctx : Context} {requeueAfter : Duration} {wall : Instant}
  {key : ObjectKey} {s : MemoryStore k} {w w' : World k π} {happenings : List (Happening k)}

theorem of_read {found : (Query.read (.get key) : Query k).Answer}
    (held : Undisturbed key s w.store .reading)
    (answers : w.Answers service ctx (.read (.get key)) found happenings w') :
    Undisturbed key s w'.store (Stage.afterRead found) := by
  have before : w.store = s := held
  cases answers with
  | read access =>
    obtain ⟨same, there⟩ := access.read
    rw [before] at same there
    rw [same]
    cases found with
    | error e =>
      obtain ⟨result, finished⟩ := Stage.afterRead_error (k := k) e
      rw [finished]
      exact Treated.spared rfl
    | ok o =>
      cases read : o.toResource with
      | ok r =>
        rw [Stage.afterRead_ok read]
        exact ⟨rfl, o, there o rfl, read⟩
      | error e =>
        rw [Stage.afterRead_unreadable read]
        exact ⟨rfl, o, there o rfl, read⟩

theorem of_record {e : Error} {condition : Condition String}
    {result : Except Stop (Decision × Outcome)}
    {flag : (Query.read (.record key condition) : Query k).Answer}
    (held : Undisturbed key s w.store (.recording e))
    (answers : w.Answers service ctx (.read (.record key condition)) flag happenings w') :
    Undisturbed key s w'.store (.finished result) := by
  obtain ⟨rfl, o, found, unread⟩ := held
  cases answers with
  | read access =>
    rcases access.store_cases with same | ⟨t, wall, performed⟩
    · exact .spared same
    · rcases w.store.after_record ctx t wall key condition with
        same | ⟨o', conditions, found', stored⟩
      · exact .spared (performed.trans same)
      · obtain rfl := Option.some.inj (found.symm.trans found')
        exact .noted found unread (performed.trans stored)

theorem of_check {r : Resource k} {alive : (Query.check : Query k).Answer}
    (held : Undisturbed key s w.store (.choosing r))
    (answers : w.Answers service ctx .check alive happenings w') :
    Undisturbed key s w'.store (Stage.afterCheck r alive) := by
  obtain ⟨same, o, found, read⟩ := held
  cases answers with
  | checked t later =>
    cases ctx.check t with
    | error i => exact Treated.spared same
    | ok _ =>
      cases chosen : k.handler.rule? r with
      | none =>
        rw [Stage.afterCheck_none chosen]
        exact Treated.spared same
      | some rule =>
        rw [Stage.afterCheck_some chosen]
        exact ⟨same, Rule.placing_of_rule? chosen, o, found, read⟩

theorem of_outcome {rule : Rule k Operation Write} {r called : Resource k}
    (held : Undisturbed key s w.store (.asking rule r)) (placed : called.metadata = r.metadata)
    (outcome : CallOutcome) :
    Undisturbed key s w.store (Stage.afterCall requeueAfter wall rule r (called, .ok outcome)) := by
  obtain ⟨same, placing, o, found, read⟩ := held
  by_cases state : called.rawState = r.rawState
  · rw [Stage.afterCall_of_same outcome state]
    have written : ∀ e, Undisturbed key s w.store
        (.writing rule.writeFailure true (rule.onFailure e wall called)) := by
      intro e
      exact ⟨same, o, r, found, read, (placing.failure e wall called).trans placed⟩
    cases outcome with
    | ok _ => exact ⟨same, o, r, found, read, (placing.success wall called).trans placed⟩
    | error e =>
      cases e with
      | stillProcessing => exact Treated.spared same
      | failed provider operation reason => exact written _
      | unknownResource provider name => exact written _
  · rw [Stage.afterCall_of_changed outcome state]
    exact Treated.spared same

theorem of_call (placing : service.Placing) {rule : Rule k Operation Write} {op : Operation}
    {r : Resource k} {answer : (Query.call op r).Answer}
    (held : Undisturbed key s w.store (.asking rule r))
    (answers : w.Answers service ctx (.call op r) answer happenings w') :
    Undisturbed key s w'.store (Stage.afterCall requeueAfter wall rule r answer) := by
  cases answers with
  | refused t i r' later ended => exact Treated.spared held.1
  | abandoned t t' i r' p later waited live leaves => exact Treated.spared held.1
  | completed t t' r' outcome p later waited live serves =>
    exact of_outcome (w := { w with provider := p, clock := t' }) held (placing serves) outcome

theorem of_pass {rule : Rule k Operation Write} {r : Resource k}
    {alive : (Query.check : Query k).Answer} (held : Undisturbed key s w.store (.asking rule r))
    (answers : w.Answers service ctx .check alive happenings w') :
    Undisturbed key s w'.store
      (Stage.afterCall requeueAfter wall rule r (r, alive.map fun _ => .ok ())) := by
  cases answers with
  | checked t later =>
    cases ctx.check t with
    | error i => exact Treated.spared held.1
    | ok _ => exact of_outcome (w := { w with clock := t }) held rfl (.ok ())

theorem of_update (sound : s.Sound) {again : Bool} {r' : Resource k}
    {result : Except Stop (Decision × Outcome)}
    {stored : (Query.commit (.replace (.ofResource r')) : Query k).Answer}
    (held : Undisturbed key s w.store (.writing (some .update) again r'))
    (answers : w.Answers service ctx (.commit (.replace (.ofResource r'))) stored happenings w') :
    Undisturbed key s w'.store (.finished result) := by
  obtain ⟨rfl, o, r, found, read, placed⟩ := held
  cases answers with
  | commit access =>
    rcases access.rewrites (.of_get? sound found) read placed with same | ⟨-, stored⟩
    · exact .spared same
    · exact .rewritten found read placed stored

theorem of_delete (sound : s.Sound) {again : Bool} {r' : Resource k}
    {result : Except Stop (Decision × Outcome)}
    {gone : (Query.commit (.delete (.ofReference r'.reference) (some r'.metadata.version)) :
      Query k).Answer}
    (held : Undisturbed key s w.store (.writing (some .delete) again r'))
    (answers : w.Answers service ctx
      (.commit (.delete (.ofReference r'.reference) (some r'.metadata.version))) gone happenings
      w') :
    Undisturbed key s w'.store (.finished result) := by
  obtain ⟨rfl, o, r, found, read, placed⟩ := held
  cases answers with
  | commit access =>
    rcases access.removes (.of_get? sound found) read placed with same | ⟨-, left⟩
    · exact .spared same
    · exact .removed found read left

theorem of_keep {again : Bool} {r' : Resource k} {result : Except Stop (Decision × Outcome)}
    {alive : (Query.check : Query k).Answer}
    (held : Undisturbed key s w.store (.writing none again r'))
    (answers : w.Answers service ctx .check alive happenings w') :
    Undisturbed key s w'.store (.finished result) := by
  cases answers with
  | checked t later => exact .spared held.1

theorem step (placing : service.Placing) (sound : s.Sound) {st : Stage k} {q : Query k}
    {next : q.Answer → Stage k} {answer : q.Answer} (held : Undisturbed key s w.store st)
    (asks : Stage.Asks requeueAfter wall key st q next)
    (answers : w.Answers service ctx q answer happenings w') :
    Undisturbed key s w'.store (next answer) := by
  cases asks with
  | reading => exact held.of_read answers
  | recording e => exact held.of_record answers
  | choosing r => exact held.of_check answers
  | calling r call => exact held.of_call placing answers
  | passing r call => exact held.of_pass answers
  | updating again r => exact held.of_update sound answers
  | deleting again r => exact held.of_delete sound answers
  | keeping again r => exact held.of_keep answers

end Answers

end Undisturbed

theorem World.Answers.sound {service : Service k π} {ctx : Context} {w w' : World k π}
    {q : Query k} {answer : q.Answer} {happenings : List (Happening k)}
    (answers : w.Answers service ctx q answer happenings w') (sound : w.store.Sound) :
    w'.store.Sound := by
  cases answers with
  | checked t later => exact sound
  | refused t i r' later ended => exact sound
  | abandoned t t' i r' p later waited live leaves => exact sound
  | completed t t' r' outcome p later waited live serves => exact sound
  | read access => exact (access.moves sound).1
  | commit access => exact (access.moves sound).1

/-- A volume was just made whose annotation tells when it was changed last. -/
def World.changedAt (text : String) : World .volume Dummy :=
  let o := Object.plainVolume
  let annotations := SortedMap.empty.insert Mapping.modifiedAnnotation text
  { plain with
    store := .afterAll .empty [.call .unbounded .zero default (.create
      { o with metadata := { o.metadata with annotations := some annotations } })] }

namespace Visit

variable {service : Service k π} {ctx : Context} {requeueAfter : Duration} {wall : Instant}
  {key : ObjectKey} {w₀ w : World k π} {v : Visit k}

/-- At every moment of an undisturbed reconcile, the store is as it was or the object that was
read has been changed, once. -/
theorem Run.treated (placing : service.Placing) (sound : w₀.store.Sound)
    (run : Run service (w₀, start ctx requeueAfter wall key) (w, v)) :
    Treated key w₀.store w.store := by
  obtain ⟨st, -, -, held⟩ := run.stage
    (P := fun w _ st => Undisturbed key w₀.store w.store st) rfl
    fun held asks answers => held.step placing sound asks answers
  exact held.treated

theorem Run.sound (run : Run service (w₀, start ctx requeueAfter wall key) (w, v))
    (sound : w₀.store.Sound) : w.store.Sound := by
  generalize moment : (w, v) = m at run
  induction run generalizing w v with
  | refl =>
    obtain ⟨rfl, -⟩ := Prod.mk.inj moment
    exact sound
  | @tail m _ _ step ih =>
    subst moment
    cases step with
    | answered answers => exact answers.sound (ih rfl)

/-- What a reconcile leaves in the place of an object that stood for a resource is that object,
or it stands for a resource just if the last change of the resource, where one is told, lies in
the years 0 to 9999. -/
theorem readable_iff_dated (placing : service.Placing) (past : List (Request k))
    (stored : w₀.store = MemoryStore.empty.afterAll past) {o : Object k} {r : Resource k}
    (found : w₀.store.objects.get? key = some o) (read : o.toResource = .ok r)
    (run : Run service (w₀, start ctx requeueAfter wall key) (w, v)) {o' : Object k}
    (left : w.store.objects.get? key = some o') :
    o' = o ∨ ((∃ r', o'.toResource = .ok r') ↔
      ∀ t, r.metadata.modifiedAt = some t → 0 ≤ t.year ∧ t.year ≤ 9999) := by
  have sound : w₀.store.Sound := stored ▸ MemoryStore.sound_empty.afterAll past
  cases run.treated placing sound with
  | spared same =>
    rw [same, found] at left
    exact .inl (Option.some.inj left).symm
  | noted found' unread _ =>
    obtain rfl := Option.some.inj (found.symm.trans found')
    rw [read] at unread
    cases unread
  | removed _ _ gone =>
    rw [gone, SortedMap.get?_erase_self] at left
    cases left
  | @rewritten o r r' found' read' placed written =>
    obtain rfl := Option.some.inj (found.symm.trans found')
    obtain rfl := Except.ok.inj (read.symm.trans read')
    rw [written, MemoryStore.get?_rewritten] at left
    obtain rfl := Option.some.inj left
    refine .inr ⟨?_, ?_⟩
    · rintro ⟨r'', reread⟩ t told
      by_contra far
      exact Object.toResource_ofResource_of_far (placed ▸ told) far _ _ _ r'' reread
    · intro dated
      have storable : r'.metadata.Storable :=
        placed ▸ Object.storable_of_toResource read dated
      exact ⟨_, Object.toResource_restamp (Object.toResource_ofResource storable) _ _ _⟩

/-- A volume last changed in a leap second is read again after a reconcile began to create it. -/
theorem leap_second_stays_readable :
    let w₀ := World.changedAt "2016-12-31T22:59:60.5-01:00"
    ∃ w v o', Run (Dummy.service .volume) (w₀, start .unbounded .zero default ⟨some "a", "v"⟩)
        (w, v) ∧ v.Over ∧
      w.store.objects.get? ⟨some "a", "v"⟩ = some o' ∧
      o'.lifecycle.state = some "creating" ∧ ∃ r', o'.toResource = .ok r' := by
  intro w₀
  obtain ⟨v, ended, run⟩ :=
    run_of_reconciled w₀ ⟨some "a", "v"⟩ .unbounded default .zero
  have before : (w₀.store.objects.get? ⟨some "a", "v"⟩).map
      (fun o => (o.lifecycle.state, o.toResource.toOption.bind (·.metadata.modifiedAt))) =
        some (none, some Object.leapSecond) := by decide +kernel
  have after : ((w₀.reconciled .unbounded default .zero ⟨some "a", "v"⟩).store.objects.get?
      ⟨some "a", "v"⟩).map (·.lifecycle.state) = some (some "creating") := by rfl
  obtain ⟨o, found, was⟩ := Option.map_eq_some_iff.mp before
  obtain ⟨o', left, creating⟩ := Option.map_eq_some_iff.mp after
  obtain ⟨fresh, changed⟩ := Prod.mk.inj was
  cases read : o.toResource with
  | error e => simp [read, Except.toOption] at changed
  | ok r =>
    have modified : r.metadata.modifiedAt = some Object.leapSecond := by
      simpa [read, Except.toOption] using changed
    refine ⟨_, v, o', run, ended, left, creating, ?_⟩
    rcases readable_iff_dated (Dummy.service_placing .volume) _ rfl found read run left with
      rfl | readable
    · rw [fresh] at creating
      cases creating
    · refine readable.mpr fun t told => ?_
      obtain rfl := Option.some.inj (modified.symm.trans told)
      decide

/-- A volume whose last change lies in the year 10000 of UTC is read, and after a reconcile began
to create it no more. -/
theorem year_10000_becomes_unreadable :
    let w₀ := World.changedAt "9999-12-31T23:59:59-01:00"
    ∃ w v o r o', Run (Dummy.service .volume) (w₀, start .unbounded .zero default ⟨some "a", "v"⟩)
        (w, v) ∧ v.Over ∧
      w₀.store.objects.get? ⟨some "a", "v"⟩ = some o ∧ o.toResource = .ok r ∧
      w.store.objects.get? ⟨some "a", "v"⟩ = some o' ∧ ∀ r', o'.toResource ≠ .ok r' := by
  intro w₀
  obtain ⟨v, ended, run⟩ :=
    run_of_reconciled w₀ ⟨some "a", "v"⟩ .unbounded default .zero
  have before : (w₀.store.objects.get? ⟨some "a", "v"⟩).map (·.toResource.isOk) = some true := by
    decide +kernel
  have after : ((w₀.reconciled .unbounded default .zero ⟨some "a", "v"⟩).store.objects.get?
      ⟨some "a", "v"⟩).map (·.toResource.isOk) = some false := by decide +kernel
  obtain ⟨o, found, readable⟩ := Option.map_eq_some_iff.mp before
  obtain ⟨o', left, unreadable⟩ := Option.map_eq_some_iff.mp after
  cases read : o.toResource with
  | error e => simp [read, Except.isOk, Except.toBool] at readable
  | ok r =>
    refine ⟨_, v, o, r, o', run, ended, found, read, left, ?_⟩
    intro r' read'
    simp [read', Except.isOk, Except.toBool] at unreadable

end Visit

end Reconciler
