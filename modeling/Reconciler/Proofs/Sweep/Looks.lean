import Reconciler.Proofs.Dialogue
import Reconciler.Sweep

/-!
A sweep as the looks it takes at the keys that it is shown. They are read off what is said in it,
whoever answers; `Follows` tells which looks there can be, given what was kept before, and what is
kept after them. What a sweep counts, and why it may stop before its end, is read off its looks
too (`Leads`).
-/

set_option autoImplicit false

namespace Reconciler

namespace Patience

def delayAfter (requeueAfter : Duration) (p : Patience) (key : ObjectKey) (e : Error) : Duration :=
  (p.backoff.retry e key).1.getD requeueAfter

/-- The key need not be passed over any more. -/
def Ripe (p : Patience) (key : ObjectKey) (now : Moment) : Prop :=
  ∀ due, p.notBefore.get? key = some due → due.nanos ≤ now.nanos

def retain (p : Patience) (listed : List ObjectKey) : Patience :=
  ⟨p.backoff.retain listed, p.notBefore.filter fun key _ => listed.contains key⟩

theorem retain_reverse (p : Patience) (listed : List ObjectKey) :
    p.retain listed.reverse = p.retain listed := by
  simp [retain, Backoff.retain]

/-- No key is put off for longer after a failure. -/
def longest (requeueAfter : Duration) (p : Patience) : Duration :=
  ⟨max (max requeueAfter.nanos p.backoff.max.nanos) (Duration.ofSeconds 300).nanos⟩

theorem longest_eq {p p' : Patience} (limit : p'.backoff.max = p.backoff.max)
    (requeueAfter : Duration) : p'.longest requeueAfter = p.longest requeueAfter := by
  unfold longest
  rw [limit]

theorem delayAfter_le (requeueAfter : Duration) (p : Patience) (key : ObjectKey) (e : Error) :
    (p.delayAfter requeueAfter key e).nanos ≤ (p.longest requeueAfter).nanos := by
  have delayed : (p.backoff.delay (p.backoff.failures key)).nanos ≤ p.backoff.max.nanos := by
    unfold Backoff.delay
    generalize p.backoff.base.scale _ = scaled
    change (if _ then _ else _ : Duration).nanos ≤ _
    split <;> omega
  cases e <;>
    simp [delayAfter, Backoff.retry, Error.remedy, Backoff.next, longest, Duration.ofSeconds] <;>
      omega

end Patience

theorem Backoff.max_retry (b : Backoff) (e : Error) (key : ObjectKey) :
    (b.retry e key).2.max = b.max := by
  cases e <;> rfl

namespace Moment

variable {t : Moment} {d d' : Duration}

theorem after?_eq_none_iff : after? t d = none ↔ latestSecond < (add t d).seconds := by
  unfold after?
  split
  case isTrue told => exact iff_of_false nofun (Nat.not_lt.mpr told)
  case isFalse untold => exact iff_of_true rfl (Nat.lt_of_not_le untold)

theorem after?_eq_none_of_le (late : after? t d = none) (longer : d.nanos ≤ d'.nanos) :
    after? t d' = none := by
  have further : (add t d).seconds ≤ (add t d').seconds :=
    Nat.div_le_div_right (Nat.add_le_add_left longer _)
  exact after?_eq_none_iff.mpr (Nat.lt_of_lt_of_le (after?_eq_none_iff.mp late) further)

end Moment

namespace Sweep

open Dialogue (Held Exchange)

variable {k : Kind}

inductive Look where
  | passed (now : Moment)
  | succeeded (started : Moment) (d : Decision)
  /-- The reconcile, and with it the sweep, was cancelled or crashed. -/
  | stopped (started : Moment) (stop : Stop)
  /-- The reconcile failed; the clock was read again after that. -/
  | failed (started : Moment) (e : Error) (noticed : Moment)
  deriving DecidableEq

namespace Look

def moment : Look → Moment
  | passed now | succeeded now _ | stopped now _ | failed now _ _ => now

def moments : Look → List Moment
  | passed now | succeeded now _ | stopped now _ => [now]
  | failed started _ noticed => [started, noticed]

def visit? (key : ObjectKey) : Look → Option (ObjectKey × Except Stop Decision)
  | passed _ => none
  | succeeded _ d => some (key, .ok d)
  | stopped _ stop => some (key, .error stop)
  | failed _ e _ => some (key, .error (.failed e))

def isPassed : Look → Bool
  | passed _ => true
  | _ => false

def isRequeued : Look → Bool
  | succeeded _ d => d.requeue
  | _ => false

def isFailed : Look → Bool
  | failed .. => true
  | _ => false

def isStopped : Look → Bool
  | stopped .. => true
  | _ => false

end Look

def counting (r : SweepReport) (looks : List (ObjectKey × Look)) : SweepReport where
  seen := r.seen + looks.length
  requeued := r.requeued + looks.countP (·.2.isRequeued)
  failed := r.failed + looks.countP (·.2.isFailed)
  deferred := r.deferred + looks.countP (·.2.isPassed)

theorem counting_append (r : SweepReport) (looks looks' : List (ObjectKey × Look)) :
    counting r (looks ++ looks') = counting (counting r looks) looks' := by
  simp [counting, Nat.add_assoc]

abbrev Log (k : Kind) : Type := List (Exchange (SweepQuery.Answer (k := k)))

namespace Log

def visits (log : Log k) : List (ObjectKey × Except Stop Decision) :=
  log.filterMap fun
    | ⟨.visit key, answer⟩ => some (key, answer)
    | _ => none

def pages (log : Log k) : List (Except Error (Page (Object k))) :=
  log.filterMap fun
    | ⟨.page _, answer⟩ => some answer
    | _ => none

def clocks (log : Log k) : List Moment :=
  log.filterMap fun
    | ⟨.clock, now⟩ => some now
    | _ => none

def listed (log : Log k) : List ObjectKey :=
  log.pages.flatMap fun
    | .ok page => page.items.map .ofObject
    | .error _ => []

/-- The looks that a log tells of; `keys` are those of the last page that are still to come. -/
def looks : (keys : List ObjectKey) → Log k → List (ObjectKey × Look)
  | _, [] => []
  | _, ⟨.page _, .ok page⟩ :: log => looks (page.items.map .ofObject) log
  | keys, ⟨.page _, .error _⟩ :: log => looks keys log
  | keys, ⟨.visit _, _⟩ :: log => looks keys log
  | [], ⟨.clock, _⟩ :: log => looks [] log
  | key :: keys, ⟨.clock, now⟩ :: log =>
    match log with
    | ⟨.visit key, .ok d⟩ :: log => (key, .succeeded now d) :: looks keys log
    | ⟨.visit key, .error (.failed .cancelled)⟩ :: log =>
      (key, .stopped now (.failed .cancelled)) :: looks keys log
    | ⟨.visit key, .error (.failed e)⟩ :: ⟨.clock, later⟩ :: log =>
      (key, .failed now e later) :: looks keys log
    | ⟨.visit key, .error stop⟩ :: log => (key, .stopped now stop) :: looks keys log
    | log => (key, .passed now) :: looks keys log

variable (log log' : Log k)

@[simp] theorem pages_cons_page (query : ListQuery) (answer : Except Error (Page (Object k))) :
    pages (⟨.page query, answer⟩ :: log) = answer :: log.pages :=
  rfl

@[simp] theorem visits_append : visits (log ++ log') = log.visits ++ log'.visits :=
  List.filterMap_append

@[simp] theorem pages_append : pages (log ++ log') = log.pages ++ log'.pages :=
  List.filterMap_append

@[simp] theorem clocks_append : clocks (log ++ log') = log.clocks ++ log'.clocks :=
  List.filterMap_append

@[simp] theorem listed_append : listed (log ++ log') = log.listed ++ log'.listed := by
  simp [listed]

/-- The log does not begin with a visit, which belongs to the reading of the clock before it. -/
def Unvisited (log : Log k) : Prop :=
  ∀ key answer rest, log ≠ ⟨.visit key, answer⟩ :: rest

theorem unvisited_nil : Unvisited ([] : Log k) := by
  intro key answer rest same
  cases same

theorem unvisited_clock (now : Moment) : Unvisited (⟨.clock, now⟩ :: log) := by
  intro key answer rest same
  cases same

theorem unvisited_page (query : ListQuery) (answer : Except Error (Page (Object k))) :
    Unvisited (⟨.page query, answer⟩ :: log) := by
  intro key answer rest same
  cases same

variable {log}

theorem looks_passed (key : ObjectKey) (keys : List ObjectKey) (now : Moment)
    (unvisited : log.Unvisited) :
    looks (key :: keys) (⟨.clock, now⟩ :: log) = (key, .passed now) :: looks keys log := by
  rcases log with - | ⟨⟨query, answer⟩, log⟩
  · rfl
  · cases query with
    | clock => rfl
    | page query => rfl
    | visit key' => exact absurd rfl (unvisited key' answer log)

theorem looks_failed (key : ObjectKey) (keys : List ObjectKey) (now later : Moment) {e : Error}
    (uncancelled : e ≠ .cancelled) :
    looks (key :: keys) (⟨.clock, now⟩ :: ⟨.visit key, .error (.failed e)⟩ :: ⟨.clock, later⟩ :: log) =
      (key, .failed now e later) :: looks keys log := by
  cases e <;> first | rfl | exact absurd rfl uncancelled

end Log

/-- Why a sweep may stop before its end: a reconcile was cancelled or crashed, or the clock could
not tell when to try a key again. -/
inductive Stopped (log : Log k) (longest : Duration) : Stop → Prop
  | cancelled {key : ObjectKey} (answered : ⟨.visit key, .error (.failed .cancelled)⟩ ∈ log) :
      Stopped log longest (.failed .cancelled)
  | crashed {key : ObjectKey} {c : Crash} (answered : ⟨.visit key, .error (.crashed c)⟩ ∈ log) :
      Stopped log longest (.crashed c)
  | late {now : Moment} (answered : ⟨.clock, now⟩ ∈ log)
      (untold : Moment.after? now longest = none) : Stopped log longest (.crashed .momentOutOfRange)

theorem Stopped.mono {log log' : Log k} {longest : Duration} {stop : Stop}
    (stopped : Stopped log longest stop) (inside : log ⊆ log') : Stopped log' longest stop := by
  cases stopped with
  | cancelled answered => exact .cancelled (inside answered)
  | crashed answered => exact .crashed (inside answered)
  | late answered untold => exact .late (inside answered) untold

/-- What a log tells of keys that are to come: it tells of these looks and leaves those keys. -/
structure Reads (log : Log k) (keys : List ObjectKey) (looks : List (ObjectKey × Look))
    (left : List ObjectKey) : Prop where
  told : ∀ rest : Log k, rest.Unvisited → Log.looks keys (log ++ rest) = looks ++ Log.looks left rest
  unvisited : ∀ rest : Log k, rest.Unvisited → (log ++ rest).Unvisited

namespace Reads

variable {log log' : Log k} {keys left left' : List ObjectKey} {looks looks' : List (ObjectKey × Look)}

theorem nil (keys : List ObjectKey) : Reads ([] : Log k) keys [] keys :=
  ⟨fun _ _ => rfl, fun _ unvisited => unvisited⟩

theorem append (first : Reads log keys looks left) (second : Reads log' left looks' left') :
    Reads (log ++ log') keys (looks ++ looks') left' := by
  constructor
  · intro rest unvisited
    rw [List.append_assoc, first.told _ (second.unvisited rest unvisited),
      second.told rest unvisited, List.append_assoc]
  · intro rest unvisited
    rw [List.append_assoc]
    exact first.unvisited _ (second.unvisited rest unvisited)

theorem looks_eq (reads : Reads log keys looks left) : Log.looks keys log = looks := by
  have told := reads.told [] Log.unvisited_nil
  rw [List.append_nil] at told
  rw [told]
  cases left <;> exact List.append_nil looks

end Reads

/-- What happens to what is kept: a look at a key, or the end of a sweep that was shown keys. -/
inductive Event where
  | look (key : ObjectKey) (look : Look)
  | swept (listed : List ObjectKey)
  deriving DecidableEq

namespace Event

def ofLook (e : ObjectKey × Look) : Event := .look e.1 e.2

end Event

/-- What there can be next, given what is kept, and what is kept after it: nothing more, where the
clock cannot tell the moment that a failure sets. -/
inductive Step (requeueAfter : Duration) (p : Patience) : Event → Option Patience → Prop
  | passed {key : ObjectKey} {now due : Moment} (set : p.notBefore.get? key = some due)
      (early : now.nanos < due.nanos) : Step requeueAfter p (.look key (.passed now)) (some p)
  | succeeded {key : ObjectKey} {started : Moment} {d : Decision} (ripe : p.Ripe key started) :
      Step requeueAfter p (.look key (.succeeded started d))
        (some ⟨p.backoff.reset key, p.notBefore.erase key⟩)
  | stopped {key : ObjectKey} {started : Moment} {stop : Stop} (ripe : p.Ripe key started)
      (ends : stop = .failed .cancelled ∨ ∃ c, stop = .crashed c) :
      Step requeueAfter p (.look key (.stopped started stop)) (some p)
  | failed {key : ObjectKey} {started noticed due : Moment} {e : Error} (ripe : p.Ripe key started)
      (uncancelled : e ≠ .cancelled)
      (told : Moment.after? noticed (p.delayAfter requeueAfter key e) = some due) :
      Step requeueAfter p (.look key (.failed started e noticed))
        (some ⟨(p.backoff.retry e key).2, p.notBefore.insert key due⟩)
  | late {key : ObjectKey} {started noticed : Moment} {e : Error} (ripe : p.Ripe key started)
      (uncancelled : e ≠ .cancelled)
      (untold : Moment.after? noticed (p.delayAfter requeueAfter key e) = none) :
      Step requeueAfter p (.look key (.failed started e noticed)) none
  | swept {listed : List ObjectKey} : Step requeueAfter p (.swept listed) (some (p.retain listed))

/-- The looks and ends of sweeps that there can be one after another, and what is kept after
them. -/
inductive Follows (requeueAfter : Duration) : Patience → List Event → Option Patience → Prop
  | nil {p : Patience} : Follows requeueAfter p [] (some p)
  | step {p p₁ : Patience} {event : Event} {events : List Event} {p' : Option Patience}
      (step : Step requeueAfter p event (some p₁)) (rest : Follows requeueAfter p₁ events p') :
      Follows requeueAfter p (event :: events) p'
  | late {p : Patience} {event : Event} (step : Step requeueAfter p event none) :
      Follows requeueAfter p [event] none

theorem Follows.append {requeueAfter : Duration} {p p₁ : Patience} {events events' : List Event}
    {p' : Option Patience} (first : Follows requeueAfter p events (some p₁))
    (second : Follows requeueAfter p₁ events' p') :
    Follows requeueAfter p (events ++ events') p' := by
  generalize kept : some p₁ = r at first
  induction first with
  | nil =>
    obtain rfl := Option.some.inj kept
    exact second
  | step step _ ih => exact .step step (ih kept)
  | late => cases kept

theorem Step.limit {requeueAfter : Duration} {p p₁ : Patience} {event : Event}
    (step : Step requeueAfter p event (some p₁)) : p₁.backoff.max = p.backoff.max := by
  cases step with
  | passed | succeeded | stopped | swept => rfl
  | failed => exact p.backoff.max_retry _ _

theorem Follows.limit {requeueAfter : Duration} {p p₁ : Patience} {events : List Event}
    (follows : Follows requeueAfter p events (some p₁)) : p₁.backoff.max = p.backoff.max := by
  generalize kept : some p₁ = r at follows
  induction follows with
  | nil =>
    obtain rfl := Option.some.inj kept
    rfl
  | step step _ ih => exact (ih kept).trans step.limit
  | late => cases kept

/-- What lies between two moments of a sweep, as the looks in between tell it. -/
structure Leads (requeueAfter : Duration) (log : Log k) (s s' : Sweep)
    (looks : List (ObjectKey × Look)) (result : Except Stop Unit) : Prop where
  follows : Follows requeueAfter s.patience (looks.map .ofLook) (some s'.patience) ∨
    Follows requeueAfter s.patience (looks.map .ofLook) none ∧
      result = .error (.crashed .momentOutOfRange)
  live : s'.live = (looks.map (·.1)).reverse ++ s.live
  report : s'.report = counting s.report looks
  clocks : log.clocks = looks.flatMap (·.2.moments)
  visits : log.visits = looks.filterMap fun e => e.2.visit? e.1
  unstopped : result = .ok () → ∀ e ∈ looks, e.2.isStopped = false
  why : ∀ stop, result = .error stop →
    Stopped log (s.patience.longest requeueAfter) stop ∨ ∃ e, .error e ∈ log.pages

namespace Leads

variable {requeueAfter : Duration} {log log' : Log k} {s s' s'' : Sweep}
  {looks looks' : List (ObjectKey × Look)} {result : Except Stop Unit}

theorem refl (s : Sweep) : Leads requeueAfter ([] : Log k) s s [] (.ok ()) :=
  ⟨.inl .nil, rfl, rfl, rfl, rfl, fun _ => List.forall_mem_nil _, fun _ ended => by cases ended⟩

theorem kept (leads : Leads requeueAfter log s s' looks (.ok ())) :
    Follows requeueAfter s.patience (looks.map .ofLook) (some s'.patience) := by
  rcases leads.follows with kept | ⟨-, late⟩
  · exact kept
  · cases late

theorem append (first : Leads requeueAfter log s s' looks (.ok ()))
    (second : Leads requeueAfter log' s' s'' looks' result) :
    Leads requeueAfter (log ++ log') s s'' (looks ++ looks') result := by
  constructor
  case follows =>
    rw [List.map_append]
    rcases second.follows with further | ⟨further, late⟩
    · exact .inl (first.kept.append further)
    · exact .inr ⟨first.kept.append further, late⟩
  case live => simp [second.live, first.live]
  case report => rw [second.report, first.report, counting_append]
  case clocks => rw [Log.clocks_append, first.clocks, second.clocks, List.flatMap_append]
  case visits => rw [Log.visits_append, first.visits, second.visits, List.filterMap_append]
  case unstopped =>
    intro ok
    exact List.forall_mem_append.mpr ⟨first.unstopped rfl, second.unstopped ok⟩
  case why =>
    intro stop ended
    rw [← Patience.longest_eq first.kept.limit]
    rcases second.why stop ended with stopped | ⟨e, refused⟩
    · exact .inl (stopped.mono (List.subset_append_right _ _))
    · rw [Log.pages_append]
      exact .inr ⟨e, List.mem_append_right _ refused⟩

end Leads

theorem ripe_of_not_defers {s : Sweep} {key : ObjectKey} {now : Moment}
    (tried : (s.list key).defers key now = false) : s.patience.Ripe key now := by
  intro due set
  have here : (s.list key).patience.notBefore.get? key = some due := set
  unfold defers at tried
  rw [here] at tried
  exact Nat.le_of_not_lt (of_decide_eq_false tried)

theorem recordFailure_of_told {requeueAfter : Duration} {s : Sweep} {key : ObjectKey} {e : Error}
    {now due : Moment}
    (told : Moment.after? now (s.patience.delayAfter requeueAfter key e) = some due) :
    s.recordFailure requeueAfter key e now =
      ({ s with
          patience := ⟨(s.patience.backoff.retry e key).2, s.patience.notBefore.insert key due⟩
          report := { s.report with failed := s.report.failed + 1 } }, .ok ()) := by
  simp only [recordFailure]
  rw [show Moment.after? now ((s.patience.backoff.retry e key).1.getD requeueAfter) = _ from told]

theorem recordFailure_of_untold {requeueAfter : Duration} {s : Sweep} {key : ObjectKey} {e : Error}
    {now : Moment}
    (untold : Moment.after? now (s.patience.delayAfter requeueAfter key e) = none) :
    s.recordFailure requeueAfter key e now =
      ({ s with
          patience := ⟨(s.patience.backoff.retry e key).2, s.patience.notBefore⟩
          report := { s.report with failed := s.report.failed + 1 } },
        .error (.crashed .momentOutOfRange)) := by
  simp only [recordFailure]
  rw [show Moment.after? now ((s.patience.backoff.retry e key).1.getD requeueAfter) = _ from untold]

theorem conclude_of_failed {requeueAfter : Duration} {s : Sweep}
    {key : ObjectKey} {e : Error} (tried : e ≠ .cancelled) :
    conclude (k := k) requeueAfter s key (.error (.failed e)) =
      .ask .clock fun now => .done (s.recordFailure requeueAfter key e now) := by
  cases e <;> first | rfl | exact absurd rfl tried

section Held

variable {σ : Type} {answers : σ → (q : SweepQuery k) → q.Answer → σ → Prop}
  {requeueAfter : Duration} {s s' : Sweep} {w w' : σ} {log : Log k} {result : Except Stop Unit}

theorem look_of_visit {key : ObjectKey}
    (held : Held answers (visit requeueAfter (s.list key) key) w log (s', result) w') :
    ∃ look, Leads requeueAfter log s s' [(key, look)] result ∧
      (∀ keys, Reads log (key :: keys) [(key, look)] keys) ∧ log.pages = [] := by
  obtain ⟨now, w₁, log, rfl, -, held⟩ := held.of_put
  cases passed : (s.list key).defers key now with
  | true =>
    rw [if_pos passed] at held
    obtain ⟨rfl, rfl, rfl, rfl⟩ := held.of_done_pair
    refine ⟨.passed now,
      ⟨.inl ?_, rfl, rfl, rfl, rfl, fun _ => List.forall_mem_singleton.mpr rfl,
        fun _ ended => by cases ended⟩,
      fun keys => ⟨?_, ?_⟩, rfl⟩
    · unfold defers at passed
      split at passed
      · rename_i due set
        exact .step (.passed set (of_decide_eq_true passed)) .nil
      · cases passed
    · intro rest unvisited
      exact Log.looks_passed key keys now unvisited
    · intro rest _
      exact Log.unvisited_clock rest now
  | false =>
    have ripe := ripe_of_not_defers passed
    rw [if_neg (by rw [passed]; exact Bool.false_ne_true)] at held
    obtain ⟨answer, w₂, log, rfl, -, held⟩ := held.of_put
    rcases answer with (e | c) | d
    · by_cases cancelled : e = .cancelled
      · subst cancelled
        obtain ⟨rfl, rfl, rfl, rfl⟩ := held.of_done_pair
        refine ⟨.stopped now (.failed .cancelled),
          ⟨.inl (.step (.stopped ripe (.inl rfl)) .nil), rfl, rfl, rfl, rfl, nofun, ?_⟩,
          fun keys => ⟨fun rest _ => rfl, fun rest _ => Log.unvisited_clock _ now⟩, rfl⟩
        rintro _ ⟨⟩
        exact .inl (.cancelled (List.mem_cons_of_mem _ List.mem_cons_self))
      · rw [conclude_of_failed cancelled] at held
        obtain ⟨later, w₃, log, rfl, -, held⟩ := held.of_ask
        obtain ⟨rfl, ended, rfl⟩ := held.of_done
        refine ⟨.failed now e later, ?_, fun keys =>
          ⟨fun rest _ => Log.looks_failed key keys now later cancelled,
            fun rest _ => Log.unvisited_clock _ now⟩, rfl⟩
        cases told : Moment.after? later (s.patience.delayAfter requeueAfter key e) with
        | some due =>
          rw [@recordFailure_of_told requeueAfter (s.list key) key e later due told] at ended
          obtain ⟨rfl, rfl⟩ := Prod.mk.inj ended
          exact ⟨.inl (.step (.failed ripe cancelled told) .nil), rfl, rfl, rfl, rfl,
            fun _ => List.forall_mem_singleton.mpr rfl, fun _ ended => by cases ended⟩
        | none =>
          rw [@recordFailure_of_untold requeueAfter (s.list key) key e later told] at ended
          obtain ⟨rfl, rfl⟩ := Prod.mk.inj ended
          refine ⟨.inr ⟨.late (.late ripe cancelled told), rfl⟩, rfl, rfl, rfl, rfl, nofun, ?_⟩
          rintro _ ⟨⟩
          have untold := Moment.after?_eq_none_of_le told (s.patience.delayAfter_le _ key e)
          exact .inl (.late (by simp) untold)
    · obtain ⟨rfl, rfl, rfl, rfl⟩ := held.of_done_pair
      refine ⟨.stopped now (.crashed c),
        ⟨.inl (.step (.stopped ripe (.inr ⟨c, rfl⟩)) .nil), rfl, rfl, rfl, rfl, nofun, ?_⟩,
        fun keys => ⟨fun rest _ => rfl, fun rest _ => Log.unvisited_clock _ now⟩, rfl⟩
      rintro _ ⟨⟩
      exact .inl (.crashed (List.mem_cons_of_mem _ List.mem_cons_self))
    · obtain ⟨rfl, rfl, rfl, rfl⟩ := held.of_done_pair
      refine ⟨.succeeded now d,
        ⟨.inl (.step (.succeeded ripe) .nil), rfl, ?_, rfl, rfl,
          fun _ => List.forall_mem_singleton.mpr rfl, fun _ ended => by cases ended⟩,
        fun keys => ⟨fun rest _ => rfl, fun rest _ => Log.unvisited_clock _ now⟩, rfl⟩
      cases again : d.requeue <;> simp [recordSuccess, list, counting, Look.isRequeued, Look.isFailed,
        Look.isPassed, again]

theorem looks_of_visitAll {items : List (Object k)}
    (held : Held answers (visitAll requeueAfter s items) w log (s', result) w') :
    ∃ looks left, Leads requeueAfter log s s' looks result ∧
      Reads log (items.map .ofObject) looks left ∧ log.pages = [] ∧
      (result = .ok () → looks.map (·.1) = items.map .ofObject) := by
  induction items generalizing s w log with
  | nil =>
    obtain ⟨rfl, rfl, rfl, rfl⟩ := held.of_done_pair
    exact ⟨[], [], .refl _, .nil [], rfl, fun _ => rfl⟩
  | cons o items ih =>
    obtain ⟨⟨s₁, result₁⟩, w₁, log₁, log₂, rfl, first, held⟩ := held.of_bind
    obtain ⟨look, leads, reads, turned⟩ := look_of_visit first
    have read := reads (items.map .ofObject)
    cases result₁ with
    | error stop =>
      obtain ⟨rfl, rfl, rfl, rfl⟩ := held.of_done_pair
      rw [List.append_nil]
      exact ⟨_, _, leads, read, turned, fun ended => by cases ended⟩
    | ok _ =>
      obtain ⟨looks, left, leads', reads', turned', all⟩ := ih held
      refine ⟨_, left, leads.append leads', read.append reads', ?_, ?_⟩
      · rw [Log.pages_append, turned, turned', List.append_nil]
      · intro ended
        rw [List.map_append, all ended]
        rfl

theorem looks_of_turnPages {pages : Nat} {query : ListQuery}
    (held : Held answers (turnPages requeueAfter pages query s) w log (s', result) w') :
    ∃ looks s₁, Leads requeueAfter log s s₁ looks result ∧ (∀ keys, log.looks keys = looks) ∧
      log.Unvisited ∧
      (result = .ok () ∧ s' = s₁.finish ∧ log.listed = looks.map (·.1) ∨
        (∃ stop, result = .error stop) ∧ s' = s₁) := by
  induction pages generalizing query s w log with
  | zero =>
    obtain ⟨rfl, rfl, rfl, rfl⟩ := held.of_done_pair
    exact ⟨[], s, .refl s, fun keys => by cases keys <;> rfl, Log.unvisited_nil,
      .inl ⟨rfl, rfl, rfl⟩⟩
  | succ pages ih =>
    obtain ⟨answer, w₁, log, rfl, -, held⟩ := held.of_put
    have unvisited := Log.unvisited_page log query answer
    cases answer with
    | error e =>
      obtain ⟨rfl, rfl, rfl, rfl⟩ := held.of_done_pair
      exact ⟨[], s', ⟨.inl .nil, rfl, rfl, rfl, rfl, nofun, fun _ _ => .inr ⟨e, by simp⟩⟩,
        fun keys => by cases keys <;> rfl, unvisited, .inr ⟨⟨_, rfl⟩, rfl⟩⟩
    | ok page =>
      obtain ⟨⟨s₁, result₁⟩, w₂, log₁, log₂, rfl, first, held⟩ := held.of_bind
      obtain ⟨looks, left, leads, reads, turned, all⟩ := looks_of_visitAll first
      have asked : Leads requeueAfter [⟨.page query, .ok page⟩] s s [] (.ok ()) :=
        ⟨.inl .nil, rfl, rfl, rfl, rfl, fun _ => List.forall_mem_nil _, fun _ ended => by cases ended⟩
      have leads := asked.append leads
      have shown : Log.listed (⟨.page query, .ok page⟩ :: log₁) = page.items.map .ofObject := by
        simp [Log.listed, turned]
      cases result₁ with
      | error stop =>
        obtain ⟨rfl, rfl, rfl, rfl⟩ := held.of_done_pair
        rw [List.append_nil] at unvisited ⊢
        exact ⟨looks, s', leads, fun keys => reads.looks_eq, unvisited, .inr ⟨⟨stop, rfl⟩, rfl⟩⟩
      | ok _ =>
        dsimp only at held
        cases next : page.next with
        | none =>
          rw [next] at held
          obtain ⟨rfl, rfl, rfl, rfl⟩ := held.of_done_pair
          rw [List.append_nil] at unvisited ⊢
          refine ⟨looks, s₁, leads, fun keys => reads.looks_eq, unvisited, .inl ⟨rfl, rfl, ?_⟩⟩
          rw [shown, all rfl]
        | some token =>
          rw [next] at held
          obtain ⟨looks', s₂, leads', told, unvisited', ended⟩ := ih held
          refine ⟨looks ++ looks', s₂, leads.append leads', ?_, unvisited, ?_⟩
          · intro keys
            exact (reads.told log₂ unvisited').trans (congrArg _ (told left))
          · rcases ended with ⟨ok, finished, listed⟩ | stopped
            · refine .inl ⟨ok, finished, ?_⟩
              rw [← List.cons_append, Log.listed_append, shown, listed, List.map_append, all rfl]
            · exact .inr stopped

end Held

structure Swept (k : Kind) where
  log : Log k
  result : Except Stop SweepReport

namespace Swept

def looks (x : Swept k) : List (ObjectKey × Look) := x.log.looks []

/-- What happens in a sweep: its looks and, if it comes to its end, that end. -/
def events (x : Swept k) : List Event :=
  x.looks.map .ofLook ++
    match x.result with
    | .ok _ => [.swept x.log.listed]
    | .error _ => []

/-- What a sweep does, as its looks tell it. -/
structure Tells (requeueAfter : Duration) (x : Swept k) (p p' : Patience) : Prop where
  follows : Follows requeueAfter p x.events (some p') ∨
    Follows requeueAfter p x.events none ∧ x.result = .error (.crashed .momentOutOfRange)
  clocks : x.log.clocks = x.looks.flatMap (·.2.moments)
  visits : x.log.visits = x.looks.filterMap fun e => e.2.visit? e.1
  counted : ∀ report, x.result = .ok report → report = counting .zero x.looks
  listed : ∀ report, x.result = .ok report → x.log.listed = x.looks.map (·.1)
  unstopped : ∀ report, x.result = .ok report → ∀ e ∈ x.looks, e.2.isStopped = false

/-- Whoever answers, a sweep does what its looks tell. -/
theorem tells_of_held {σ : Type} {answers : σ → (q : SweepQuery k) → q.Answer → σ → Prop}
    {requeueAfter : Duration} {pageSize pages : Nat} {p p' : Patience} {w w' : σ} {log : Log k}
    {result : Except Stop SweepReport}
    (held : Held answers (run requeueAfter pageSize pages p) w log (p', result) w') :
    Tells requeueAfter ⟨log, result⟩ p p' := by
  obtain ⟨⟨s, result₁⟩, w₁, log₁, log₂, rfl, turned, held⟩ := held.of_bind
  obtain ⟨rfl, rfl, rfl, rfl⟩ := held.of_done_pair
  rw [List.append_nil]
  obtain ⟨looks, s₁, leads, told, -, ended⟩ := looks_of_turnPages turned
  have same : Swept.looks ⟨log₁, result₁.map fun _ => s.report⟩ = looks := told []
  rcases ended with ⟨rfl, rfl, listed⟩ | ⟨⟨stop, rfl⟩, rfl⟩
  · have live : s₁.finish.patience = s₁.patience.retain (Log.listed log₁) := by
      rw [listed, ← Patience.retain_reverse]
      have : s₁.live = (looks.map (·.1)).reverse := by rw [leads.live]; exact List.append_nil _
      rw [← this]
      rfl
    constructor
    case follows =>
      refine .inl ?_
      rw [events, same, live]
      exact leads.kept.append (.step .swept .nil)
    case clocks => rw [same]; exact leads.clocks
    case visits => rw [same]; exact leads.visits
    case counted =>
      intro report ok
      rw [same, ← Except.ok.inj ok]
      exact leads.report
    case listed =>
      intro report ok
      rw [same]
      exact listed
    case unstopped =>
      intro report ok
      rw [same]
      exact leads.unstopped rfl
  · constructor
    case follows =>
      rw [events, same]
      simp only [Except.map, List.append_nil]
      rcases leads.follows with kept | ⟨kept, late⟩
      · exact .inl kept
      · exact .inr ⟨kept, congrArg _ (Except.error.inj late)⟩
    case clocks => rw [same]; exact leads.clocks
    case visits => rw [same]; exact leads.visits
    case counted =>
      intro report ok
      cases ok
    case listed =>
      intro report ok
      cases ok
    case unstopped =>
      intro report ok
      cases ok

end Swept

end Sweep

end Reconciler
