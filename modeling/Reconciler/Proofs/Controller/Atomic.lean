import Reconciler.Proofs.Bench.Station
import Reconciler.Proofs.Controller.Visit
import Reconciler.Proofs.Mapping

/-!
A reconcile leaves nothing half written. `Course` tells what a reconcile may have done when
it stands at a stage: until it is over it has written nothing, and its last deed is the only
one that can be a write. Every answer to a question keeps it.
-/

set_option autoImplicit false

namespace Reconciler

open Controller (Stage)

namespace Visit

variable {k : Kind} {π : Type}

/-- What a call of the provider is based on: the object was there and stood for a resource,
and the context had not ended. -/
structure Grounds (ctx : Context) (key : ObjectKey) (w₀ : World k π) : Prop where
  found : ∃ o r, w₀.store.objects.get? key = some o ∧ o.toResource = .ok r
  live : ctx.check w₀.clock = .ok ()

/-- A log of a reconcile that has written nothing yet and was not told to stop. -/
structure Calm (ctx : Context) (key : ObjectKey) (w₀ : World k π) (log : List (Happening k)) :
    Prop where
  settled : ∀ h ∈ log, h.Settled
  oneCall : log.countP Happening.isCall ≤ 1
  grounds : ∀ h ∈ log, h.isCall → Grounds ctx key w₀
  kept : ∀ {op r r' outcome}, .called op r (some (r', outcome)) ∈ log →
    r'.rawState = r.rawState ∧ outcome ≠ .error .stillProcessing

/-- What a reconcile that is over has done, and how its answer tells. -/
structure Ended (ctx : Context) (requeueAfter : Duration) (key : ObjectKey) (w₀ w : World k π)
    (result : Except Stop (Decision × Outcome)) (log : List (Happening k)) : Prop where
  oneCall : log.countP Happening.isCall ≤ 1
  grounds : ∀ h ∈ log, h.isCall → Grounds ctx key w₀
  waiting : ∀ {op r r'}, .called op r (some (r', .error .stillProcessing)) ∈ log →
    r'.rawState = r.rawState →
      w.store = w₀.store ∧ result = .ok (.again requeueAfter, .requeue)
  broken : ∀ {op r r' outcome}, .called op r (some (r', outcome)) ∈ log →
    r'.rawState ≠ r.rawState → w.store = w₀.store ∧ ∃ rule,
      result = .error (.crashed (.stateChanged k.name r'.name rule r.rawState r'.rawState))
  written : (w.store = w₀.store ∧ ∀ {c s s'}, .accessed c s s' ∈ log → s = s') ∨
    ∃ earlier c, log = earlier ++ [.accessed c w₀.store w.store] ∧ (∀ h ∈ earlier, h.Settled) ∧
      ∀ e, result = .error (.failed e) → ∃ kind name reason, e = .conversion kind name reason

def Course (ctx : Context) (requeueAfter : Duration) (key : ObjectKey) (w₀ w : World k π)
    (log : List (Happening k)) : Stage k → Prop
  | .finished result => Ended ctx requeueAfter key w₀ w result log
  | .writing .. => w.store = w₀.store ∧ Calm ctx key w₀ log
  | .asking .. =>
    w.store = w₀.store ∧ Calm ctx key w₀ log ∧ log.countP Happening.isCall = 0 ∧
      Grounds ctx key w₀
  | .choosing r =>
    w.store = w₀.store ∧ Calm ctx key w₀ log ∧ log.countP Happening.isCall = 0 ∧
      w₀.clock.nanos ≤ w.clock.nanos ∧
      ∃ o, w₀.store.objects.get? key = some o ∧ o.toResource = .ok r
  | .reading | .recording _ =>
    w.store = w₀.store ∧ Calm ctx key w₀ log ∧ log.countP Happening.isCall = 0 ∧
      w₀.clock.nanos ≤ w.clock.nanos

section Calm

variable {ctx : Context} {requeueAfter : Duration} {key : ObjectKey} {w₀ w : World k π}
  {log : List (Happening k)}

theorem Calm.nil : Calm ctx key w₀ ([] : List (Happening k)) where
  settled := by simp
  oneCall := by simp
  grounds := by simp
  kept := by simp

theorem Calm.access (calm : Calm ctx key w₀ log) (c : StoreCall k) (s : MemoryStore k) :
    Calm ctx key w₀ (log ++ [.accessed c s s]) where
  settled h listed := by
    rcases List.mem_append.mp listed with listed | last
    · exact calm.settled h listed
    · rw [List.mem_singleton.mp last]
      rfl
  oneCall := by simpa [Happening.isCall] using calm.oneCall
  grounds h listed call := by
    rcases List.mem_append.mp listed with listed | last
    · exact calm.grounds h listed call
    · rw [List.mem_singleton.mp last] at call
      cases call
  kept listed := calm.kept (by simpa using listed)

theorem Calm.call (calm : Calm ctx key w₀ log) (first : log.countP Happening.isCall = 0)
    (grounds : Grounds ctx key w₀) (op : Operation) {r r' : Resource k} {outcome : CallOutcome}
    (same : r'.rawState = r.rawState) (ended : outcome ≠ .error .stillProcessing) :
    Calm ctx key w₀ (log ++ [.called op r (some (r', outcome))]) where
  settled h listed := by
    rcases List.mem_append.mp listed with listed | last
    · exact calm.settled h listed
    · rw [List.mem_singleton.mp last]
      rfl
  oneCall := by simp [first, Happening.isCall]
  grounds _ _ _ := grounds
  kept listed := by
    rcases List.mem_append.mp listed with listed | last
    · exact calm.kept listed
    · obtain ⟨rfl, rfl, rfl, rfl⟩ := by simpa using List.mem_singleton.mp last
      exact ⟨same, ended⟩

theorem Calm.unwritten (calm : Calm ctx key w₀ log) {c : StoreCall k} {s s' : MemoryStore k}
    (listed : .accessed c s s' ∈ log) : s = s' :=
  calm.settled _ listed

theorem Calm.ended (calm : Calm ctx key w₀ log) (store : w.store = w₀.store)
    (result : Except Stop (Decision × Outcome)) : Ended ctx requeueAfter key w₀ w result log where
  oneCall := calm.oneCall
  grounds := calm.grounds
  waiting listed _ := absurd rfl (calm.kept listed).2
  broken listed changed := absurd (calm.kept listed).1 changed
  written := .inl ⟨store, calm.unwritten⟩

/-- A write is the last deed of a reconcile, and only a conversion can still fail. -/
theorem Calm.ended_of_access (calm : Calm ctx key w₀ log) (c : StoreCall k)
    {result : Except Stop (Decision × Outcome)}
    (told : ∀ e, result = .error (.failed e) →
      w.store = w₀.store ∨ ∃ kind name reason, e = .conversion kind name reason) :
    Ended ctx requeueAfter key w₀ w result (log ++ [.accessed c w₀.store w.store]) where
  oneCall := by simpa [Happening.isCall] using calm.oneCall
  grounds h listed call := by
    rcases List.mem_append.mp listed with listed | last
    · exact calm.grounds h listed call
    · rw [List.mem_singleton.mp last] at call
      cases call
  waiting listed _ := absurd rfl (calm.kept (by simpa using listed)).2
  broken listed changed := absurd (calm.kept (by simpa using listed)).1 changed
  written := by
    by_cases store : w.store = w₀.store
    · refine .inl ⟨store, fun {c' s s'} listed => ?_⟩
      rcases List.mem_append.mp listed with listed | last
      · exact calm.unwritten listed
      · obtain ⟨-, rfl, rfl⟩ := by simpa using List.mem_singleton.mp last
        exact store.symm
    · exact .inr ⟨log, c, rfl, calm.settled, fun e failed => (told e failed).resolve_left store⟩

end Calm

section Answers

variable {service : Service k π} {ctx : Context} {requeueAfter : Duration} {wall : Instant}
  {key : ObjectKey} {w₀ w w' : World k π} {log happenings : List (Happening k)}

theorem Course.of_read {found : (Query.read (.get key) : Query k).Answer}
    (course : Course ctx requeueAfter key w₀ w log .reading)
    (answers : w.Answers service ctx (.read (.get key)) found happenings w') :
    Course ctx requeueAfter key w₀ w' (log ++ happenings) (Stage.afterRead found) := by
  obtain ⟨store, calm, uncalled, clock⟩ := course
  cases answers with
  | read access =>
    obtain ⟨same, there⟩ := access.read
    have clock' := Nat.le_trans clock access.clock_le
    have store' := same.trans store
    have calm' := calm.access (.get key) w₀.store
    rw [store', store]
    cases found with
    | error e =>
      obtain ⟨result, finished⟩ := Stage.afterRead_error (k := k) e
      rw [finished]
      exact calm'.ended store' result
    | ok o =>
      have uncalled' : (log ++ [Happening.accessed (.get key) w₀.store w₀.store]).countP
          Happening.isCall = 0 := by simpa [Happening.isCall] using uncalled
      have stored : w₀.store.objects.get? key = some o := store ▸ there o rfl
      cases read : o.toResource with
      | ok r =>
        rw [Stage.afterRead_ok read]
        exact ⟨store', calm', uncalled', clock', o, stored, read⟩
      | error e =>
        rw [Stage.afterRead_unreadable read]
        exact ⟨store', calm', uncalled', clock'⟩

theorem Course.of_record {e : Error} {c : StoreCall k} {answer : (Query.read c).Answer}
    (course : Course ctx requeueAfter key w₀ w log (.recording e))
    (answers : w.Answers service ctx (.read c) answer happenings w') :
    Course ctx requeueAfter key w₀ w' (log ++ happenings) (.finished (.ok (.done, .invalid))) := by
  obtain ⟨store, calm, -, -⟩ := course
  cases answers with
  | read access =>
    rw [store]
    exact calm.ended_of_access c (fun e failed => nomatch failed)

theorem Course.of_check {r : Resource k} {alive : (Query.check : Query k).Answer}
    (course : Course ctx requeueAfter key w₀ w log (.choosing r))
    (answers : w.Answers service ctx .check alive happenings w') :
    Course ctx requeueAfter key w₀ w' (log ++ happenings) (Stage.afterCheck r alive) := by
  obtain ⟨store, calm, uncalled, clock, o, stored, read⟩ := course
  cases answers with
  | checked t later =>
    rw [List.append_nil]
    cases alive : ctx.check t with
    | error i => exact calm.ended (w := { w with clock := t }) store _
    | ok _ =>
      have live := Context.check_mono (Nat.le_trans clock later) alive
      cases chosen : k.handler.rule? r with
      | none =>
        rw [Stage.afterCheck_none chosen]
        exact calm.ended (w := { w with clock := t }) store _
      | some rule =>
        rw [Stage.afterCheck_some chosen]
        exact ⟨store, calm, uncalled, ⟨o, r, stored, read⟩, live⟩

/-- An outcome of a call that left the state alone is noted down, or asked for again. -/
theorem Course.of_settled {rule : Rule k Operation Write} {called : Resource k}
    {outcome : CallOutcome} (store : w.store = w₀.store) (calm : Calm ctx key w₀ log)
    (ended : outcome ≠ .error .stillProcessing) :
    Course ctx requeueAfter key w₀ w log (Stage.settled requeueAfter wall rule called outcome) := by
  cases outcome with
  | ok _ => exact ⟨store, calm⟩
  | error e =>
    cases e with
    | stillProcessing => exact absurd rfl ended
    | failed provider operation reason => exact ⟨store, calm⟩
    | unknownResource provider name => exact ⟨store, calm⟩

theorem Course.of_call {rule : Rule k Operation Write} {op : Operation} {r : Resource k}
    {answer : (Query.call op r).Answer}
    (course : Course ctx requeueAfter key w₀ w log (.asking rule r))
    (answers : w.Answers service ctx (.call op r) answer happenings w') :
    Course ctx requeueAfter key w₀ w' (log ++ happenings)
      (Stage.afterCall requeueAfter wall rule r answer) := by
  obtain ⟨store, calm, uncalled, grounds⟩ := course
  cases answers with
  | refused t i r' later ended =>
    rw [List.append_nil]
    exact calm.ended (w := { w with clock := t }) store _
  | abandoned t t' i r' p later waited live leaves =>
    exact
      { oneCall := by simp [uncalled, Happening.isCall]
        grounds := fun _ _ _ => grounds
        waiting := fun listed same => absurd rfl (calm.kept (by simpa using listed)).2
        broken := fun listed changed => absurd (calm.kept (by simpa using listed)).1 changed
        written := .inl ⟨store, fun listed => calm.unwritten (by simpa using listed)⟩ }
  | completed t t' r' outcome p later waited live serves =>
    have only : ∀ {op' r₁ r₂ outcome'},
        .called op' r₁ (some (r₂, outcome')) ∈ log ++ [.called op r (some (r', outcome))] →
          (r₁ = r ∧ r₂ = r' ∧ outcome' = outcome) ∨ r₂.rawState = r₁.rawState ∧
            outcome' ≠ .error .stillProcessing := by
      intro op' r₁ r₂ outcome' listed
      rcases List.mem_append.mp listed with listed | last
      · exact .inr (calm.kept listed)
      · obtain ⟨-, rfl, rfl, rfl⟩ := by simpa using List.mem_singleton.mp last
        exact .inl ⟨rfl, rfl, rfl⟩
    have oneCall : (log ++ [Happening.called op r (some (r', outcome))]).countP
        Happening.isCall ≤ 1 := by
      simp [uncalled, Happening.isCall]
    have written : ∀ {c s s'},
        .accessed c s s' ∈ log ++ [.called op r (some (r', outcome))] → s = s' :=
      fun listed => calm.unwritten (by simpa using listed)
    by_cases same : r'.rawState = r.rawState
    · rw [Stage.afterCall_of_same outcome same]
      by_cases waits : outcome = .error .stillProcessing
      · subst waits
        exact
          { oneCall
            grounds := fun _ _ _ => grounds
            waiting := fun _ _ => ⟨store, rfl⟩
            broken := fun listed changed => by
              rcases only listed with ⟨rfl, rfl, -⟩ | ⟨same, -⟩
              · exact absurd same changed
              · exact absurd same changed
            written := .inl ⟨store, written⟩ }
      · exact Course.of_settled (w := { w with provider := p, clock := t' }) store
          (calm.call uncalled grounds op same waits) waits
    · rw [Stage.afterCall_of_changed outcome same]
      exact
        { oneCall
          grounds := fun _ _ _ => grounds
          waiting := fun listed same' => by
            rcases only listed with ⟨rfl, rfl, -⟩ | ⟨-, ended⟩
            · exact absurd same' same
            · exact absurd rfl ended
          broken := fun listed changed => by
            rcases only listed with ⟨rfl, rfl, rfl⟩ | ⟨same', -⟩
            · exact ⟨store, rule.name, rfl⟩
            · exact absurd same' changed
          written := .inl ⟨store, written⟩ }

theorem Course.of_pass {rule : Rule k Operation Write} {r : Resource k}
    {alive : (Query.check : Query k).Answer}
    (course : Course ctx requeueAfter key w₀ w log (.asking rule r))
    (answers : w.Answers service ctx .check alive happenings w') :
    Course ctx requeueAfter key w₀ w' (log ++ happenings)
      (Stage.afterCall requeueAfter wall rule r (r, alive.map fun _ => .ok ())) := by
  obtain ⟨store, calm, -, -⟩ := course
  cases answers with
  | checked t later =>
    rw [List.append_nil]
    cases alive : ctx.check t with
    | error i => exact calm.ended (w := { w with clock := t }) store _
    | ok _ =>
      change Course _ _ _ _ _ _ (Stage.afterCall requeueAfter wall rule r (r, .ok (.ok ())))
      rw [Stage.afterCall_of_same (.ok ()) rfl]
      exact Course.of_settled (w := { w with clock := t }) store calm nofun

theorem Course.of_update {again : Bool} {r : Resource k} {o : Object k}
    {stored : (Query.commit (.replace o) : Query k).Answer}
    (course : Course ctx requeueAfter key w₀ w log (.writing (some .update) again r))
    (answers : w.Answers service ctx (.commit (.replace o)) stored happenings w') :
    Course ctx requeueAfter key w₀ w' (log ++ happenings)
      (Stage.afterWrite requeueAfter again (Stage.readBack stored)) := by
  obtain ⟨store, calm⟩ := course
  cases answers with
  | commit access =>
    rw [store]
    refine calm.ended_of_access (.replace o) fun e failed => ?_
    cases stored with
    | error e => exact .inl (access.store_eq_of_error.trans store)
    | ok o' =>
      cases read : o'.toResource with
      | ok r' =>
        rw [Stage.readBack, Except.bind, read] at failed
        cases again <;> cases failed
      | error e' =>
        rw [Stage.readBack, Except.bind, read] at failed
        obtain rfl : e' = e := by cases failed; rfl
        exact .inr (Object.conversion_of_toResource read)

theorem Course.of_delete {again : Bool} {r : Resource k} {key' : ObjectKey}
    {version : Option String} {gone : (Query.commit (.delete key' version) : Query k).Answer}
    (course : Course ctx requeueAfter key w₀ w log (.writing (some .delete) again r))
    (answers : w.Answers service ctx (.commit (.delete key' version)) gone happenings w') :
    Course ctx requeueAfter key w₀ w' (log ++ happenings)
      (Stage.afterWrite requeueAfter again gone) := by
  obtain ⟨store, calm⟩ := course
  cases answers with
  | commit access =>
    rw [store]
    refine calm.ended_of_access (.delete key' version) fun e failed => ?_
    cases gone with
    | error e => exact .inl (access.store_eq_of_error.trans store)
    | ok _ => cases again <;> cases failed

theorem Course.of_keep {again : Bool} {r : Resource k} {alive : (Query.check : Query k).Answer}
    (course : Course ctx requeueAfter key w₀ w log (.writing none again r))
    (answers : w.Answers service ctx .check alive happenings w') :
    Course ctx requeueAfter key w₀ w' (log ++ happenings)
      (Stage.afterWrite requeueAfter again (alive.mapError Interruption.toError)) := by
  obtain ⟨store, calm⟩ := course
  cases answers with
  | checked t later =>
    rw [List.append_nil]
    exact calm.ended (w := { w with clock := t }) store _

theorem Course.step {st : Stage k} {q : Query k} {next : q.Answer → Stage k} {answer : q.Answer}
    (course : Course ctx requeueAfter key w₀ w log st)
    (asks : Stage.Asks requeueAfter wall key st q next)
    (answers : w.Answers service ctx q answer happenings w') :
    Course ctx requeueAfter key w₀ w' (log ++ happenings) (next answer) := by
  cases asks with
  | reading => exact course.of_read answers
  | recording e => exact course.of_record answers
  | choosing r => exact course.of_check answers
  | calling r call => exact course.of_call answers
  | passing r call => exact course.of_pass answers
  | updating again r => exact course.of_update answers
  | deleting again r => exact course.of_delete answers
  | keeping again r => exact course.of_keep answers

end Answers

section Runs

variable {service : Service k π} {ctx : Context} {requeueAfter : Duration} {wall : Instant}
  {key : ObjectKey} {w₀ w : World k π} {v : Visit k}

theorem Run.course (run : Run service (w₀, start ctx requeueAfter wall key) (w, v)) :
    ∃ st : Stage k, v.ctx = ctx ∧ v.work = st.work requeueAfter wall key ∧
      Course ctx requeueAfter key w₀ w v.log st :=
  run.stage ⟨rfl, .nil, rfl, Nat.le_refl _⟩ fun course asks answers => course.step asks answers

theorem Course.calm_or_ended {log : List (Happening k)} {st : Stage k}
    (course : Course ctx requeueAfter key w₀ w log st) :
    (w.store = w₀.store ∧ Calm ctx key w₀ log) ∨
      ∃ result, st = .finished result ∧ Ended ctx requeueAfter key w₀ w result log := by
  cases st with
  | reading => exact .inl ⟨course.1, course.2.1⟩
  | recording e => exact .inl ⟨course.1, course.2.1⟩
  | choosing r => exact .inl ⟨course.1, course.2.1⟩
  | asking rule r => exact .inl ⟨course.1, course.2.1⟩
  | writing change again r => exact .inl course
  | finished result => exact .inr ⟨result, rfl, course⟩

theorem eq_last_of_unsettled {earlier later front : List (Happening k)} {h last : Happening k}
    (split : earlier ++ h :: later = front ++ [last]) (settled : ∀ h ∈ front, h.Settled)
    (unsettled : ¬ h.Settled) : later = [] ∧ earlier = front ∧ h = last := by
  rcases List.eq_nil_or_concat later with rfl | ⟨init, end', rfl⟩
  · obtain ⟨front', last'⟩ := List.append_inj' split rfl
    exact ⟨rfl, front', List.singleton_inj.mp last'⟩
  · have inside : (earlier ++ h :: init) ++ [end'] = front ++ [last] := by simpa using split
    have front' := (List.append_inj' inside rfl).1
    exact absurd (settled h (by simp [← front'])) unsettled

/-- A reconcile asks the provider at most once and writes at most once, as its last deed and
after the call returned. It does not ask on behalf of an object that is missing or stands
for no resource, nor under a context that has ended. It writes nothing if the provider is
still at work, if the provider changed the state, or if it fails otherwise than by a
conversion. -/
theorem nothing_half_written (run : Run service (w₀, start ctx requeueAfter wall key) (w, v)) :
    v.log.countP Happening.isCall ≤ 1 ∧
    (∀ earlier later c s s', v.log = earlier ++ .accessed c s s' :: later → s ≠ s' →
      later = [] ∧ s = w₀.store ∧ s' = w.store ∧ ∀ h ∈ earlier, h.Settled) ∧
    ((∀ c s s', .accessed c s s' ∈ v.log → s = s') → w.store = w₀.store) ∧
    (¬ (∃ o r, w₀.store.get key = .ok o ∧ o.toResource = .ok r) ∨ ctx.check w₀.clock ≠ .ok () →
      v.log.countP Happening.isCall = 0) ∧
    (∀ op r r', .called op r (some (r', .error .stillProcessing)) ∈ v.log →
      r'.rawState = r.rawState →
        w.store = w₀.store ∧ v.work = .done (.ok (.again requeueAfter, .requeue))) ∧
    (∀ op r r' outcome, .called op r (some (r', outcome)) ∈ v.log → r'.rawState ≠ r.rawState →
      w.store = w₀.store ∧ ∃ rule, v.work = .done (.error (.crashed
        (.stateChanged k.name r'.name rule r.rawState r'.rawState)))) ∧
    (∀ e, v.work = .done (.error (.failed e)) →
      (∀ kind name reason, e ≠ .conversion kind name reason) → w.store = w₀.store) := by
  obtain ⟨st, -, stands, course⟩ := run.course
  have uncalled : (∀ h ∈ v.log, h.isCall → Grounds ctx key w₀) →
      (¬ (∃ o r, w₀.store.get key = .ok o ∧ o.toResource = .ok r) ∨
        ctx.check w₀.clock ≠ .ok ()) → v.log.countP Happening.isCall = 0 := by
    intro grounds groundless
    refine List.countP_eq_zero.mpr fun h listed call => ?_
    obtain ⟨⟨o, r, stored, read⟩, live⟩ := grounds h listed call
    rcases groundless with absent | ended
    · exact absent ⟨o, r, MemoryStore.get_eq_ok.mpr stored, read⟩
    · exact ended live
  rcases course.calm_or_ended with ⟨store, calm⟩ | ⟨result, rfl, ended⟩
  · refine ⟨calm.oneCall, ?_, fun _ => store, uncalled calm.grounds, ?_, ?_, fun _ _ _ => store⟩
    · intro earlier later c s s' split changed
      have listed : .accessed c s s' ∈ v.log := by simp [split]
      exact absurd (calm.unwritten listed) changed
    · intro op r r' listed same
      exact absurd rfl (calm.kept listed).2
    · intro op r r' outcome listed changed
      exact absurd (calm.kept listed).1 changed
  · have done : v.work = .done result := stands
    refine ⟨ended.oneCall, ?_, ?_, uncalled ended.grounds, ?_, ?_, ?_⟩
    · intro earlier later c s s' split changed
      rcases ended.written with ⟨-, unwritten⟩ | ⟨front, c', log, settled, -⟩
      · have listed : .accessed c s s' ∈ v.log := by simp [split]
        exact absurd (unwritten listed) changed
      · obtain ⟨last, rfl, same⟩ := eq_last_of_unsettled (split.symm.trans log) settled changed
        obtain ⟨-, rfl, rfl⟩ := Happening.accessed.inj same
        exact ⟨last, rfl, rfl, settled⟩
    · intro unwritten
      rcases ended.written with ⟨store, -⟩ | ⟨front, c, log, -, -⟩
      · exact store
      · exact (unwritten c w₀.store w.store (by simp [log])).symm
    · intro op r r' listed same
      obtain ⟨store, rfl⟩ := ended.waiting listed same
      exact ⟨store, done⟩
    · intro op r r' outcome listed changed
      obtain ⟨store, rule, rfl⟩ := ended.broken listed changed
      exact ⟨store, rule, done⟩
    · intro e failed unrelated
      rcases ended.written with ⟨store, -⟩ | ⟨front, c, -, -, told⟩
      · exact store
      · obtain ⟨kind, name, reason, conversion⟩ := told e (by
          rw [done] at failed
          exact (Dialogue.done.inj failed))
        exact absurd conversion (unrelated kind name reason)

/-- A volume is created at its provider and then not written: nothing of it is stored. -/
theorem unavailable_store_unchanged :
    let volume : Object .volume :=
      { Object.plainVolume with status := some ⟨⟨some "creating", []⟩, VolumeFacts.none⟩ }
    let s : Station .volume :=
      { now := .zero
        surroundings :=
          { shelf :=
              { store := (MemoryStore.empty.write ⟨some "a", "v"⟩ volume).2
                faults := [⟨"replace", .fail (.unavailable "down")⟩]
                log := [] }
            backend := default }
        metrics := none
        patience := .ofBackoff default }
    let pace : Pace := ⟨.zero, .zero, .zero, 1⟩
    let (answer, after) := s.reconcile pace default .unbounded ⟨some "a", "v"⟩
    answer = .error (.failed (.unavailable "down")) ∧
      after.surroundings.backend.calls = ["create a/v"] ∧
      after.surroundings.shelf.store = s.surroundings.shelf.store := by
  intro volume s pace
  obtain ⟨result, log, answered, run⟩ :=
    s.run_of_reconcile .unbounded default pace ⟨some "a", "v"⟩
  have failed : (s.reconcile pace default .unbounded ⟨some "a", "v"⟩).1 =
      .error (.failed (.unavailable "down")) := by rfl
  have told : result = .error (.failed (.unavailable "down")) := by
    rw [failed] at answered
    cases result <;> simp_all [Except.map]
  refine ⟨failed, by rfl, ?_⟩
  exact (nothing_half_written run).2.2.2.2.2.2 (.unavailable "down") (congrArg _ told) (by simp)

end Runs

end Visit

end Reconciler
