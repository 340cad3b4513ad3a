import Reconciler.Proofs.Controller.Undisturbed
import Reconciler.Proofs.Store.Paging
import Reconciler.Proofs.Sweep.Looks

/-!
Sweeps over a store that its own reconciles change. What is counted and kept is read off the looks
of a sweep. That these are looks at the keys that were stored when it began is due to the reconciles,
which change nothing but the object they are about, so that what is left to list is what was left
before.
-/

set_option autoImplicit false

namespace Reconciler

variable {k : Kind} {π : Type}

namespace Sweep

open Dialogue (Held)

/-- How the questions of a sweep are answered while its context has not ended. A reconcile runs
by itself, to whatever end, unless the clock cannot tell when its time is over. -/
inductive Answers (service : Service k π) (requeueAfter : Duration) (ctx : Context)
    (w : World k π) : (q : SweepQuery k) → q.Answer → World k π → Prop
  | clock (t : Moment) : Answers service requeueAfter ctx w .clock t { w with clock := t }
  | page (query : ListQuery) (t : Moment) (wall : Instant) (live : ctx.check t = .ok ()) :
      Answers service requeueAfter ctx w (.page query)
        (w.store.performUnder ctx t wall (.list query)).1 { w with clock := t }
  | visit {ctx' : Context} {wall : Instant} {key : ObjectKey}
      {result : Except Stop (Decision × Outcome)} {log : List (Happening k)} {w' : World k π}
      (run : Visit.Run service (w, .start ctx' requeueAfter wall key)
        (w', ⟨ctx', .done result, log⟩)) :
      Answers service requeueAfter ctx w (.visit key) (result.map (·.1)) w'
  | late (key : ObjectKey) :
      Answers service requeueAfter ctx w (.visit key) (.error (.crashed .momentOutOfRange)) w

section Answers

variable {service : Service k π} {requeueAfter : Duration} {ctx : Context} {w w' : World k π}

theorem Answers.of_page {query : ListQuery} {answer : Except Error (Page (Object k))}
    (answers : Answers service requeueAfter ctx w (.page query) answer w') :
    answer = w.store.list query ∧ w'.store = w.store := by
  cases answers with
  | page query t wall live => exact ⟨by rw [MemoryStore.performUnder_of_live _ _ _ live]; rfl, rfl⟩

theorem Answers.spared (placing : service.Placing) (sound : w.store.Sound) {q : SweepQuery k}
    {answer : q.Answer} (answers : Answers service requeueAfter ctx w q answer w') :
    w'.store.Sound ∧ ∀ key, key ∉ (Log.visits [⟨q, answer⟩]).map (·.1) →
      w'.store.objects.get? key = w.store.objects.get? key := by
  cases answers with
  | clock t => exact ⟨sound, fun _ _ => rfl⟩
  | page query t wall live => exact ⟨sound, fun _ _ => rfl⟩
  | visit run =>
    refine ⟨run.sound sound, fun key apart => (run.treated placing sound).get?_of_ne ?_⟩
    simpa [Log.visits] using apart
  | late => exact ⟨sound, fun _ _ => rfl⟩

/-- No object is changed in a sweep but those that are reconciled in it. -/
theorem spared_of_held (placing : service.Placing) {α : Type} {work : Work k α} {a : α}
    {log : Log k} (held : Held (Answers service requeueAfter ctx) work w log a w')
    (sound : w.store.Sound) :
    w'.store.Sound ∧ ∀ key, key ∉ (Log.visits log).map (·.1) →
      w'.store.objects.get? key = w.store.objects.get? key := by
  induction held with
  | done => exact ⟨sound, fun _ _ => rfl⟩
  | @ask q next w w₁ w' answer log a answered rest ih =>
    obtain ⟨sound₁, first⟩ := answered.spared placing sound
    obtain ⟨sound', later⟩ := ih sound₁
    refine ⟨sound', fun key apart => ?_⟩
    have split : Log.visits (⟨q, answer⟩ :: log) = Log.visits [⟨q, answer⟩] ++ Log.visits log :=
      Log.visits_append [⟨q, answer⟩] log
    rw [split, List.map_append, List.mem_append, not_or] at apart
    rw [later key apart.2, first key apart.1]

end Answers

/-- What became of a listed key: it was passed over at a moment, or reconciled with some
answer. -/
inductive Fate where
  | deferred (now : Moment)
  | reconciled (now : Moment) (answer : Except Stop Decision)

namespace Fate

def moment : Fate → Moment
  | .deferred now | .reconciled now _ => now

def isDeferred : Fate → Bool
  | .deferred _ => true
  | .reconciled .. => false

def isRequeued : Fate → Bool
  | .reconciled _ (.ok d) => d.requeue
  | _ => false

def isFailed : Fate → Bool
  | .reconciled _ (.error (.failed _)) => true
  | _ => false

/-- A key is passed over just before the moment that is set for it. -/
def Due (notBefore : Option Moment) : Fate → Prop
  | .deferred now => ∃ t, notBefore = some t ∧ now.nanos < t.nanos
  | .reconciled now _ => ∀ t, notBefore = some t → t.nanos ≤ now.nanos

def visit? (key : ObjectKey) : Fate → Option (ObjectKey × Except Stop Decision)
  | .deferred _ => none
  | .reconciled _ answer => some (key, answer)

theorem count_le (fate : Fate) : (if fate.isRequeued then 1 else 0) +
    (if fate.isFailed then 1 else 0) + (if fate.isDeferred then 1 else 0) ≤ 1 := by
  rcases fate with now | ⟨now, stop | d⟩
  · simp [isRequeued, isFailed, isDeferred]
  · cases stop <;> simp [isRequeued, isFailed, isDeferred]
  · cases again : d.requeue <;> simp [isRequeued, isFailed, isDeferred, again]

theorem countP_le (fates : List (ObjectKey × Fate)) :
    fates.countP (·.2.isRequeued) + fates.countP (·.2.isFailed) +
      fates.countP (·.2.isDeferred) ≤ fates.length := by
  induction fates with
  | nil => simp
  | cons e rest ih =>
    have once := count_le e.2
    simp only [List.countP_cons, List.length_cons]
    omega

end Fate

def Look.fate : Look → Fate
  | .passed now => .deferred now
  | .succeeded started d => .reconciled started (.ok d)
  | .stopped started stop => .reconciled started (.error stop)
  | .failed started e _ => .reconciled started (.error (.failed e))

theorem key_mem_of_visited {looks : List (ObjectKey × Look)} {key : ObjectKey}
    (visited : key ∈ (looks.filterMap fun e => e.2.visit? e.1).map (·.1)) :
    key ∈ looks.map (·.1) := by
  obtain ⟨v, among, rfl⟩ := List.mem_map.mp visited
  obtain ⟨e, looked, told⟩ := List.mem_filterMap.mp among
  have same : v.1 = e.1 := by
    cases look : e.2 with
    | passed => simp [look, Look.visit?] at told
    | _ =>
      simp only [look, Look.visit?, Option.some.injEq] at told
      rw [← told]
  exact same ▸ List.mem_map_of_mem looked

def fates (looks : List (ObjectKey × Look)) : List (ObjectKey × Fate) :=
  looks.map fun e => (e.1, e.2.fate)

section Looks

variable {requeueAfter : Duration} {p p₁ : Patience} {looks : List (ObjectKey × Look)}

theorem Step.due {key : ObjectKey} {look : Look}
    (step : Step requeueAfter p (.look key look) (some p₁)) :
    look.fate.Due (p.notBefore.get? key) := by
  cases step with
  | passed set early => exact ⟨_, set, early⟩
  | succeeded ripe | stopped ripe | failed ripe => exact ripe

theorem Step.get?_of_ne {key key' : ObjectKey} {look : Look}
    (step : Step requeueAfter p (.look key look) (some p₁)) (apart : key' ≠ key) :
    p₁.notBefore.get? key' = p.notBefore.get? key' := by
  cases step with
  | passed | stopped => rfl
  | succeeded => exact SortedMap.get?_erase_of_ne _ apart
  | failed => exact SortedMap.get?_insert_of_ne _ _ apart

/-- Where each key is looked at once, what becomes of it is due to what was kept at the start. -/
theorem Follows.due (follows : Follows requeueAfter p (looks.map .ofLook) (some p₁))
    (once : (looks.map (·.1)).Nodup) : ∀ e ∈ looks, e.2.fate.Due (p.notBefore.get? e.1) := by
  induction looks generalizing p with
  | nil => exact List.forall_mem_nil _
  | cons e looks ih =>
    obtain ⟨new, once⟩ := List.nodup_cons.mp once
    generalize told : (e :: looks).map Event.ofLook = events at follows
    cases follows with
    | nil => cases told
    | step step rest =>
      obtain ⟨rfl, rfl⟩ := List.cons.inj told
      refine List.forall_mem_cons.mpr ⟨step.due, fun e' later => ?_⟩
      have apart : e'.1 ≠ e.1 := fun same => new (List.mem_map.mpr ⟨e', later, same⟩)
      rw [← step.get?_of_ne apart]
      exact ih rest once e' later

end Looks

/-- What a sweep that came to its end has done about the keys that were stored when it began. -/
structure Handled (stored : List ObjectKey) (p p' : Patience) (log : Log k) (report : SweepReport)
    (fates : List (ObjectKey × Fate)) : Prop where
  each : fates.map (·.1) = stored
  once : stored.Nodup
  visited : log.visits = fates.filterMap fun e => e.2.visit? e.1
  due : ∀ e ∈ fates, ⟨.clock, e.2.moment⟩ ∈ log ∧ e.2.Due (p.notBefore.get? e.1)
  seen : report.seen = stored.length
  requeued : report.requeued = fates.countP (·.2.isRequeued)
  failed : report.failed = fates.countP (·.2.isFailed)
  deferred : report.deferred = fates.countP (·.2.isDeferred)
  counted : report.requeued + report.failed + report.deferred ≤ report.seen
  forgotten : ∀ key, key ∉ stored →
    p'.notBefore.get? key = none ∧ p'.backoff.counts.get? key = none

theorem Log.mem_of_mem_clocks {log : Log k} {now : Moment} (read : now ∈ log.clocks) :
    ⟨.clock, now⟩ ∈ log := by
  obtain ⟨⟨q, answer⟩, said, same⟩ := List.mem_filterMap.mp read
  cases q with
  | clock =>
    obtain rfl := Option.some.inj same
    exact said
  | page query => cases same
  | visit key => cases same

theorem visit?_fate (key : ObjectKey) (look : Look) : look.fate.visit? key = look.visit? key := by
  cases look <;> rfl

theorem moment_fate_mem (look : Look) : look.fate.moment ∈ look.moments := by
  cases look <;> exact List.mem_cons_self

theorem countP_fates {looks : List (ObjectKey × Look)} (told : Fate → Bool) (tells : Look → Bool)
    (same : ∀ e ∈ looks, told e.2.fate = tells e.2) :
    (fates looks).countP (told ·.2) = looks.countP (tells ·.2) := by
  rw [fates, List.countP_map]
  exact List.countP_congr fun e listed => by simp [same e listed]

theorem handled_of_leads {requeueAfter : Duration} {stored : List ObjectKey} (once : stored.Nodup)
    {p : Patience} {log : Log k} {s : Sweep} {looks : List (ObjectKey × Look)}
    (listed : looks.map (·.1) = stored)
    (leads : Leads requeueAfter log (starting p) s looks (.ok ())) :
    Handled stored p s.finish.patience log s.finish.report (fates looks) := by
  have each : (fates looks).map (·.1) = stored := by
    rw [← listed, fates, List.map_map]
    rfl
  have report : s.finish.report = counting .zero looks := leads.report
  have unstopped := leads.unstopped rfl
  have requeued : s.finish.report.requeued = (fates looks).countP (·.2.isRequeued) := by
    rw [report, countP_fates Fate.isRequeued Look.isRequeued fun e _ => by cases e.2 <;> rfl]
    exact Nat.zero_add _
  have failed : s.finish.report.failed = (fates looks).countP (·.2.isFailed) := by
    have same : ∀ e ∈ looks, e.2.fate.isFailed = e.2.isFailed := by
      intro e here
      have ended := unstopped e here
      cases look : e.2 with
      | stopped => simp [look, Look.isStopped] at ended
      | _ => rfl
    rw [report, countP_fates Fate.isFailed Look.isFailed same]
    exact Nat.zero_add _
  have deferred : s.finish.report.deferred = (fates looks).countP (·.2.isDeferred) := by
    rw [report, countP_fates Fate.isDeferred Look.isPassed fun e _ => by cases e.2 <;> rfl]
    exact Nat.zero_add _
  have seen : s.finish.report.seen = stored.length := by
    rw [report, ← listed, List.length_map]
    exact Nat.zero_add _
  refine ⟨each, once, ?_, ?_, seen, requeued, failed, deferred, ?_, ?_⟩
  · rw [leads.visits, fates, List.filterMap_map]
    exact List.filterMap_congr fun e _ => (visit?_fate e.1 e.2).symm
  · intro _ here
    obtain ⟨e, looked, rfl⟩ := List.mem_map.mp here
    refine ⟨Log.mem_of_mem_clocks ?_, leads.kept.due (listed ▸ once) e looked⟩
    rw [leads.clocks]
    exact List.mem_flatMap.mpr ⟨e, looked, moment_fate_mem e.2⟩
  · have few := Fate.countP_le (fates looks)
    rw [requeued, failed, deferred, seen, ← each, List.length_map]
    exact few
  · intro key unlisted
    have gone : s.live.contains key = false := by
      rw [← listed] at unlisted
      simpa [leads.live, starting] using unlisted
    exact ⟨SortedMap.get?_filter_of_failing fun _ => gone,
      SortedMap.get?_filter_of_failing fun _ => gone⟩

/-- The pages that were read up to the last one: together they list these keys. -/
structure Paged (keys : List ObjectKey) (log : Log k) : Prop where
  listed : log.listed = keys
  few : log.pages.length ≤ keys.length + 1
  ended : ∃ page, log.pages.getLast? = some (.ok page) ∧ page.next = none

theorem Paged.append {keys keys' : List ObjectKey} {log log' : Log k}
    {answer : Except Error (Page (Object k))} (listed : log.listed = keys)
    (one : log.pages = [answer]) (some : keys ≠ []) (later : Paged keys' log') :
    Paged (keys ++ keys') (log ++ log') := by
  obtain ⟨page, read, last⟩ := later.ended
  refine ⟨?_, ?_, page, ?_, last⟩
  · rw [Log.listed_append, listed, later.listed]
  · have more := List.length_pos_of_ne_nil some
    have few := later.few
    simp only [Log.pages_append, one, List.length_append, List.length_singleton]
    omega
  · simp [one, List.getLast?_cons, read]

section Paged

variable {service : Service k π} {requeueAfter : Duration} {ctx : Context} {s s' : Sweep}
  {w w' : World k π} {log : Log k} {result : Except Stop Unit}

theorem selected_of_spared {store store' : MemoryStore k} {query : ListQuery}
    {token : Option String} {init back : List (ObjectKey × Object k)} {last : ObjectKey × Object k}
    (spared : ∀ key, key ∉ (init ++ [last]).map (·.1) →
      store'.objects.get? key = store.objects.get? key)
    (left : store.selected (query.goingOn token) [] = init ++ last :: back)
    (parsed : Selector.parseOptional query.selector = .ok []) (told : last.1.Told) :
    store'.selected (query.goingOn (some last.1.text)) [] = back := by
  have ordered := store.sorted_selected (query.goingOn token) []
  rw [left] at ordered
  obtain ⟨-, -, early⟩ := List.pairwise_append.mp ordered
  refine MemoryStore.selected_goingOn parsed left told ?_
  intro key below
  refine spared key fun listed => ?_
  obtain ⟨e, here, rfl⟩ := List.mem_map.mp listed
  rcases List.mem_append.mp here with before | this
  · have above := Std.TransCmp.lt_trans below (early e before last List.mem_cons_self)
    simp [Std.ReflCmp.compare_self] at above
  · rw [List.mem_singleton.mp this] at below
    simp [Std.ReflCmp.compare_self] at below

theorem paged_of_turnPages (placing : service.Placing) {pageSize pages : Nat}
    {token : Option String} {entries : List (ObjectKey × Object k)} (sound : w.store.Sound)
    (left : w.store.selected ((firstPage pageSize).goingOn token) [] = entries)
    (told : ∀ e ∈ entries, e.1.Told) (enough : entries.length < pages)
    (held : Held (Answers service requeueAfter ctx)
      (turnPages requeueAfter pages ((firstPage pageSize).goingOn token) s) w log
      (s', result) w') :
    (∀ e, .error e ∉ log.pages) ∧ (result = .ok () → Paged (entries.map (·.1)) log) := by
  -- on the pages that may be turned: whatever the reconciles of a page have changed, the entries
  -- that it leaves out are left as they were, and there are fewer of them
  induction pages generalizing token entries s w log with
  | zero => omega
  | succ pages ih =>
    obtain ⟨answer, w₁, log, rfl, answered, held⟩ := held.of_put
    obtain ⟨rfl, same⟩ := answered.of_page
    have parsed : Selector.parseOptional (firstPage pageSize).selector = .ok [] := rfl
    obtain ⟨page, listed, shows⟩ := w.store.list_goingOn parsed token
    have stored : ∀ e ∈ entries, w.store.objects.get? e.1 = some e.2 := by
      intro e here
      rw [← left] at here
      exact ((MemoryStore.mem_selected parsed).mp here).1
    rw [left] at shows
    rw [listed] at held ⊢
    obtain ⟨⟨s₁, result₁⟩, w₂, log₁, log₂, rfl, first, held⟩ := held.of_bind
    obtain ⟨front, back, rfl, items, goes⟩ := shows.front
    have keys : page.items.map ObjectKey.ofObject = front.map (·.1) := by
      rw [items]
      exact MemoryStore.map_ofObject sound fun e here => stored e (List.mem_append_left _ here)
    obtain ⟨looks, -, leads, -, turned, all⟩ := looks_of_visitAll first
    rw [keys] at all
    have one : Log.pages (⟨.page ((firstPage pageSize).goingOn token), .ok page⟩ :: log₁) =
        [.ok page] := by
      rw [Log.pages_cons_page, turned]
    have shown : Log.listed (⟨.page ((firstPage pageSize).goingOn token), .ok page⟩ :: log₁) =
        front.map (·.1) := by
      simp [Log.listed, turned, keys]
    rw [← List.cons_append]
    cases result₁ with
    | error stop =>
      obtain ⟨rfl, rfl, rfl, rfl⟩ := held.of_done_pair
      rw [List.append_nil, one]
      exact ⟨fun e refused => by simp at refused, fun ended => by cases ended⟩
    | ok _ =>
      dsimp only at held
      rcases goes with ⟨rfl, last⟩ | ⟨init, last, rfl, next⟩
      · rw [last] at held
        obtain ⟨rfl, rfl, rfl, rfl⟩ := held.of_done_pair
        rw [List.append_nil, List.append_nil, one]
        refine ⟨fun e refused => by simp at refused, fun _ => ⟨shown, ?_, page, ?_, last⟩⟩
        · simp [one]
        · rw [one, List.getLast?_singleton]
      · rw [next] at held
        obtain ⟨sound₂, spared⟩ := spared_of_held placing first (same ▸ sound)
        have unlooked : ∀ key, key ∉ (init ++ [last]).map (·.1) →
            w₂.store.objects.get? key = w.store.objects.get? key := by
          intro key apart
          rw [← same]
          refine spared key fun visited => apart ?_
          rw [leads.visits] at visited
          rw [← all rfl]
          exact key_mem_of_visited visited
        have later := selected_of_spared unlooked
          (by rw [left, List.append_assoc, List.singleton_append]) parsed (told last (by simp))
        obtain ⟨answered', rest⟩ := ih sound₂ later
          (fun e here => told e (List.mem_append_right _ here)) (by simp at enough; omega) held
        refine ⟨fun e refused => ?_, fun ended => ?_⟩
        · rw [Log.pages_append, one] at refused
          rcases List.mem_append.mp refused with first | refused
          · simp at first
          · exact answered' e refused
        · rw [List.map_append]
          exact .append shown one (by simp) (rest ended)

end Paged

theorem selected_firstPage (store : MemoryStore k) (pageSize : Nat) :
    store.selected ((firstPage pageSize).goingOn none) [] = store.objects.entries := by
  simp [MemoryStore.selected, firstPage, ListQuery.goingOn, ListQuery.everything,
    Selector.selects]

/-- Where the keys of a store can be told from their text, a sweep over it that has enough pages
reads the last one, unless a reconcile is cancelled or crashes or the clock ends. It looks at
each key that was stored when it began, once and in their order: it passes over those that are
put off and reconciles the others. It counts what becomes of them, and forgets all other keys. -/
theorem run_handles_each_once {service : Service k π} (placing : service.Placing)
    (past : List (Request k)) {w w' : World k π} (made : w.store = .afterAll .empty past)
    (told : ∀ key o, w.store.objects.get? key = some o → key.Told) {pageSize pages : Nat}
    (enough : w.store.size < pages) {requeueAfter : Duration} {ctx : Context}
    {p p' : Patience} {result : Except Stop SweepReport} {log : Log k}
    (held : Held (Answers service requeueAfter ctx) (run requeueAfter pageSize pages p) w log
      (p', result) w') :
    (∃ stop, result = .error stop ∧ Stopped log (p.longest requeueAfter) stop) ∨
    ∃ report fates page, result = .ok report ∧ Handled w.store.keys p p' log report fates ∧
      log.pages.length ≤ w.store.size + 1 ∧
      log.pages.getLast? = some (.ok page) ∧ page.next = none := by
  have sound : w.store.Sound := made ▸ MemoryStore.sound_empty.afterAll past
  obtain ⟨⟨s, result₁⟩, w₁, log₁, log₂, rfl, turned, held⟩ := held.of_bind
  obtain ⟨rfl, rfl, rfl, rfl⟩ := held.of_done_pair
  rw [List.append_nil]
  have known : ∀ e ∈ w.store.objects.entries, e.1.Told := by
    intro e here
    exact told e.1 e.2 (SortedMap.get?_eq_some_iff.mpr here)
  obtain ⟨answered, paged⟩ := paged_of_turnPages placing sound
    (selected_firstPage w.store pageSize) known enough turned
  obtain ⟨looks, s₁, leads, -, -, ended⟩ := looks_of_turnPages turned
  rcases ended with ⟨rfl, rfl, listed⟩ | ⟨⟨stop, rfl⟩, -⟩
  · obtain ⟨shown, few, page, read, last⟩ := paged rfl
    have once : w.store.keys.Nodup :=
      SortedMap.nodup_of_sorted (List.pairwise_map.mpr w.store.objects.sorted)
    have handled := handled_of_leads once (listed.symm.trans shown) leads
    rw [List.length_map] at few
    exact .inr ⟨_, _, page, rfl, handled, few, read, last⟩
  · rcases leads.why stop rfl with why | ⟨e, refused⟩
    · exact .inl ⟨stop, rfl, why⟩
    · exact absurd refused (answered e)

def prompt (requeueAfter : Duration) (wall : Instant) :
    (q : SweepQuery k) → World k Dummy → q.Answer × World k Dummy
  | .clock, w => (w.clock, w)
  | .page query, w => ((w.store.performUnder .unbounded w.clock wall (.list query)).1, w)
  | .visit key, w =>
    let (result, w) :=
      (Controller.reconcile requeueAfter wall key).run (World.prompt .unbounded wall) w
    (result.map (·.1), w)

theorem answers_prompt (requeueAfter : Duration) (wall : Instant) (w : World k Dummy)
    (q : SweepQuery k) : Answers (Dummy.service k) requeueAfter .unbounded w q
      (prompt requeueAfter wall q w).1 (prompt requeueAfter wall q w).2 := by
  cases q with
  | clock => exact .clock w.clock
  | page query => exact .page query w.clock wall rfl
  | visit key =>
    obtain ⟨log, run⟩ := Visit.run_of_dialogue id (World.prompt .unbounded wall)
      (fun w q => World.prompt_answers .unbounded wall w q)
      (Controller.reconcile requeueAfter wall key) w []
    exact .visit run

/-- Of three volumes that are listed one by one, two begin to be created and one is passed over;
what was kept of a volume that is gone is forgotten. -/
theorem gone_volume_is_forgotten :
    let w : World .volume Dummy := { World.plain with
      store := .afterAll .empty MemoryStore.threeVolumes }
    let gone : ObjectKey := ⟨some "a", "gone"⟩
    let later : Moment := .ofSeconds 60
    let p : Patience := {
      backoff := (Backoff.standard.next gone).2
      notBefore := (SortedMap.empty.insert ⟨some "a", "v2"⟩ later).insert gone later }
    ∃ w' p' log fates, Held (Answers (Dummy.service .volume) .zero .unbounded) (run .zero 1 4 p) w
        log (p', .ok ⟨3, 2, 0, 1⟩) w' ∧
      Handled w.store.keys p p' log ⟨3, 2, 0, 1⟩ fates ∧
      p'.notBefore.get? gone = none ∧ p'.backoff.counts.get? gone = none := by
  intro w gone later p
  obtain ⟨log, held⟩ := Held.of_run id (prompt .zero default) (answers_prompt .zero default)
    (run (k := .volume) .zero 1 4 p) w
  have came : (((run (k := .volume) .zero 1 4 p).run (prompt .zero default) w).1.2).toOption =
      some ⟨3, 2, 0, 1⟩ := by decide +kernel
  have unlisted : gone ∉ w.store.keys := by decide +kernel
  generalize (run (k := .volume) .zero 1 4 p).run (prompt .zero default) w = outcome at held came
  obtain ⟨⟨p', result⟩, w'⟩ := outcome
  rcases run_handles_each_once (Dummy.service_placing .volume) MemoryStore.threeVolumes rfl
    MemoryStore.told_threeVolumes (by decide +kernel) held with
      ⟨stop, stopped, -⟩ | ⟨report, fates, page, ended, handled, -⟩
  · rw [stopped] at came
    cases came
  · rw [ended] at came held
    obtain rfl := Option.some.inj came
    exact ⟨w', p', log, fates, held, handled, handled.forgotten gone unlisted⟩

end Sweep

end Reconciler
