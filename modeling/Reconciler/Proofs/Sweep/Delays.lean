import Mathlib.Data.List.Induction
import Reconciler.Proofs.Backoff
import Reconciler.Proofs.Sweep.Runs

/-!
Keys that failed, over any number of sweeps. The moment that a failure sets stays until the key is
tried again or a whole sweep does not list it, and its delay is told by the failures before it.
-/

set_option autoImplicit false

namespace Reconciler

theorem Error.fixed_delay {e : Error} {d : Duration} (fixed : e.remedy = .retryAfter d) :
    d = .ofSeconds 5 ∨ d = .ofSeconds 300 := by
  cases e <;> cases fixed
  case notFound | alreadyExists => exact .inl rfl
  case forbidden => exact .inr rfl

namespace Sweep

variable {k : Kind}

namespace Event

/-- A whole sweep did not list the key. -/
def drops (key : ObjectKey) : Event → Bool
  | .look .. => false
  | .swept listed => !listed.contains key

def clears (key : ObjectKey) : Event → Bool
  | .look key' (.succeeded ..) => key' = key
  | event => event.drops key

/-- A failure of the key that is backed off from. -/
def counts (key : ObjectKey) : Event → Bool
  | .look key' (.failed _ e _) => key' = key && e.remedy = .backOff
  | _ => false

def call? : Event → Option Backoff.Call
  | .look key (.succeeded ..) => some (.reset key)
  | .look key (.failed _ e _) => some (.retry e key)
  | .look .. => none
  | .swept listed => some (.retain listed)

variable {key : ObjectKey} {event : Event}

theorem forgets_of_call? {c : Backoff.Call} (asked : event.call? = some c) :
    c.forgets key = event.clears key ∧ c.counts key = event.counts key := by
  cases event with
  | look key' l => cases l <;> cases asked <;> exact ⟨rfl, rfl⟩
  | swept listed => cases asked; exact ⟨rfl, rfl⟩

theorem idle_of_call? (silent : event.call? = none) :
    event.clears key = false ∧ event.counts key = false := by
  cases event with
  | look key' l => cases l <;> cases silent <;> exact ⟨rfl, rfl⟩
  | swept listed => cases silent

end Event

/-- The failures of a key that were backed off from since it last succeeded, or was not listed by a
whole sweep. -/
def failuresSince (key : ObjectKey) (events : List Event) : Nat :=
  (events.reverse.takeWhile (!·.clears key)).countP (·.counts key)

/-- The delay after a failure of a key that failed this often before. -/
def delay (base max requeueAfter : Duration) (failures : Nat) (e : Error) : Duration :=
  match e.remedy with
  | .backOff => ⟨min (base.nanos * Nat.pow 2 (min failures 16)) max.nanos⟩
  | .retryAfter d => d
  | .awaitChange => requeueAfter

theorem failuresSince_append_singleton (key : ObjectKey) (events : List Event) (event : Event) :
    failuresSince key (events ++ [event]) =
      if event.clears key then 0
      else failuresSince key events + if event.counts key then 1 else 0 := by
  cases clears : event.clears key <;> simp [failuresSince, clears, List.countP_cons]

theorem failuresSince_eq_backoff (key : ObjectKey) (events : List Event) :
    failuresSince key events = Backoff.failuresSince key (events.filterMap Event.call?) := by
  induction events using List.reverseRecOn with
  | nil => rfl
  | append_singleton events event ih =>
    rw [failuresSince_append_singleton, List.filterMap_append, ih]
    cases asked : event.call? with
    | none =>
      obtain ⟨kept, uncounted⟩ := @Event.idle_of_call? key event asked
      simp [asked, kept, uncounted]
    | some c =>
      obtain ⟨forgets, counts⟩ := @Event.forgets_of_call? key event c asked
      simp [asked, Backoff.failuresSince_append_singleton, forgets, counts]

variable {requeueAfter : Duration} {p : Patience} {p' : Option Patience}

/-- What sweeps keep of failures is what their calls make of it. -/
theorem Follows.backoff {p₁ : Patience} {events : List Event}
    (follows : Follows requeueAfter p events (some p₁)) :
    p₁.backoff = p.backoff.afterAll (events.filterMap Event.call?) := by
  generalize kept : some p₁ = r at follows
  induction follows with
  | nil =>
    obtain rfl := Option.some.inj kept
    rfl
  | step step _ ih => cases step <;> exact ih kept
  | late => cases kept

theorem delayAfter_eq {base max : Duration} (bounded : max.nanos ≤ Duration.longest.nanos)
    {events : List Event}
    (kept : p.backoff = (Backoff.ofLimits base max).afterAll (events.filterMap Event.call?))
    (key : ObjectKey) (e : Error) :
    p.delayAfter requeueAfter key e = delay base max requeueAfter (failuresSince key events) e := by
  unfold Patience.delayAfter delay
  cases remedy : e.remedy with
  | backOff =>
    rw [Backoff.retry_of_backOff remedy, failuresSince_eq_backoff]
    change p.backoff.delay (p.backoff.failures key) = _
    rw [kept, Backoff.delay_afterAll, Backoff.min_scale bounded]
  | retryAfter d =>
    rw [Backoff.retry, remedy]
    rfl
  | awaitChange =>
    rw [Backoff.retry, remedy]
    rfl

theorem get?_retain {key : ObjectKey} {listed : List ObjectKey}
    (lists : Event.drops key (.swept listed) = false) :
    (p.retain listed).notBefore.get? key = p.notBefore.get? key := by
  have lives : listed.contains key = true := by simpa [Event.drops] using lists
  exact SortedMap.get?_filter_of_passing fun _ => lives

/-- The moment that is set for a key stays where the key is not tried and each whole sweep lists
it. -/
theorem Step.kept {key : ObjectKey} {due : Moment} {event : Event} {p₁ : Patience}
    (step : Step requeueAfter p event (some p₁)) (set : p.notBefore.get? key = some due)
    (lists : event.drops key = false)
    (untried : ∀ look, event = .look key look → look.isPassed = true) :
    p₁.notBefore.get? key = some due := by
  have apart {key' : ObjectKey} {look : Look} (here : event = .look key' look)
      (tried : look.isPassed = false) : key ≠ key' := by
    rintro rfl
    rw [untried look here] at tried
    cases tried
  cases step with
  | passed | stopped => exact set
  | succeeded => rw [SortedMap.get?_erase_of_ne _ (apart rfl rfl), set]
  | failed => rw [SortedMap.get?_insert_of_ne _ _ (apart rfl rfl), set]
  | swept => rw [get?_retain lists, set]

theorem Step.ripe {key : ObjectKey} {look : Look} (step : Step requeueAfter p (.look key look) p')
    (tried : look.isPassed = false) : p.Ripe key look.moment := by
  cases step with
  | passed => cases tried
  | succeeded ripe | stopped ripe | failed ripe | late ripe => exact ripe

theorem Look.moment_mem (look : Look) : look.moment ∈ look.moments := by
  cases look <;> exact List.mem_cons_self

namespace Follows

variable {key : ObjectKey} {due : Moment} {first second events : List Event} {p₁ : Patience}

theorem split (more : second ≠ []) (follows : Follows requeueAfter p (first ++ second) p') :
    ∃ p₁, Follows requeueAfter p first (some p₁) ∧ Follows requeueAfter p₁ second p' := by
  induction first generalizing p with
  | nil => exact ⟨p, .nil, follows⟩
  | cons event first ih =>
    generalize joined : event :: first ++ second = events at follows
    cases follows with
    | nil => cases joined
    | step step rest =>
      cases joined
      obtain ⟨p₁, former, latter⟩ := ih rest
      exact ⟨p₁, .step step former, latter⟩
    | late =>
      obtain ⟨-, none⟩ := List.cons.inj joined
      exact absurd (List.append_eq_nil_iff.mp none).2 more

theorem start (follows : Follows requeueAfter p (first ++ second) p') :
    ∃ r, Follows requeueAfter p first r := by
  cases second with
  | nil =>
    rw [List.append_nil] at follows
    exact ⟨p', follows⟩
  | cons event second =>
    obtain ⟨p₁, former, -⟩ := follows.split (List.cons_ne_nil _ _)
    exact ⟨some p₁, former⟩

theorem step_of_split {event : Event}
    (follows : Follows requeueAfter p (first ++ event :: second) p') :
    ∃ p₁ r, Follows requeueAfter p first (some p₁) ∧ Step requeueAfter p₁ event r := by
  obtain ⟨p₁, former, latter⟩ := follows.split (List.cons_ne_nil _ _)
  cases latter with
  | step step | late step => exact ⟨p₁, _, former, step⟩

theorem kept (follows : Follows requeueAfter p events (some p₁))
    (set : p.notBefore.get? key = some due) (listed : ∀ event ∈ events, event.drops key = false)
    (untried : ∀ look, .look key look ∈ events → look.isPassed = true) :
    p₁.notBefore.get? key = some due := by
  generalize ends : some p₁ = r at follows
  induction follows with
  | nil =>
    obtain rfl := Option.some.inj ends
    exact set
  | step step _ ih =>
    obtain ⟨lists, listed⟩ := List.forall_mem_cons.mp listed
    refine ih (step.kept set lists ?_) listed ?_ ends
    · rintro look rfl
      exact untried look List.mem_cons_self
    · intro look among
      exact untried look (List.mem_cons_of_mem _ among)
  | late => cases ends

theorem stopped_of_mem {started : Moment} {stop : Stop} (follows : Follows requeueAfter p events p')
    (among : .look key (.stopped started stop) ∈ events) :
    stop = .failed .cancelled ∨ ∃ c, stop = .crashed c := by
  obtain ⟨before, after, rfl⟩ := List.append_of_mem among
  obtain ⟨p₁, r, -, step⟩ := follows.step_of_split
  cases step with
  | stopped _ ends => exact ends

/-- A key is not tried before the moment that is set for it, unless a whole sweep does not list
it. -/
theorem due_le (follows : Follows requeueAfter p events p')
    (set : p.notBefore.get? key = some due) (listed : ∀ event ∈ events, event.drops key = false)
    (ordered : (events.flatMap Event.moments).Pairwise (·.nanos ≤ ·.nanos)) {look : Look}
    (among : .look key look ∈ events) (tried : look.isPassed = false) :
    due.nanos ≤ look.moment.nanos := by
  induction follows with
  | nil => cases among
  | @step p p₁ event events p' step _ ih =>
    obtain ⟨-, onwards, later⟩ := List.pairwise_append.mp ordered
    obtain ⟨lists, listed⟩ := List.forall_mem_cons.mp listed
    by_cases first : ∃ look', event = .look key look' ∧ look'.isPassed = false
    · -- the key is tried at once, so that whatever comes later comes late enough
      obtain ⟨look', rfl, tried'⟩ := first
      have ripe := step.ripe tried' due set
      rcases List.mem_cons.mp among with now | among
      · cases now
        exact ripe
      · have soon := later _ look'.moment_mem _ (List.mem_flatMap.mpr ⟨_, among, look.moment_mem⟩)
        exact ripe.trans soon
    · rcases List.mem_cons.mp among with now | among
      · exact absurd ⟨look, now.symm, tried⟩ first
      · refine ih (step.kept set lists ?_) listed onwards among
        intro look' here
        exact Bool.eq_true_of_not_eq_false fun tried' => first ⟨look', here, tried'⟩
  | late step =>
    cases List.mem_singleton.mp among
    exact step.ripe tried due set

end Follows

theorem Follows.left_alone {key : ObjectKey} {started noticed : Moment} {e : Error} {look : Look}
    {between rest : List Event}
    (follows : Follows requeueAfter p
      (.look key (.failed started e noticed) :: (between ++ .look key look :: rest)) p')
    (listed : ∀ event ∈ between, event.drops key = false)
    (ordered : ((between ++ .look key look :: rest).flatMap Event.moments).Pairwise
      (·.nanos ≤ ·.nanos)) :
    let due := Moment.add noticed (p.delayAfter requeueAfter key e)
    (look.moment.nanos < due.nanos → look.isPassed = true) ∧
    ((∀ earlier, .look key earlier ∈ between → earlier.moment.nanos < due.nanos) →
      due.nanos ≤ look.moment.nanos → look.isPassed = false) := by
  intro due
  generalize joined : between ++ .look key look :: rest = events at follows
  cases follows with
  | late => exact absurd joined (by simp)
  | @step _ p₁ _ _ _ failed follows =>
    subst joined
    have set : p₁.notBefore.get? key = some due := by
      cases failed with
      | failed ripe uncancelled told =>
        rw [SortedMap.get?_insert_self]
        unfold Moment.after? at told
        split at told
        · exact told.symm
        · cases told
    -- none of these looks tries the key before the moment
    have early {events events' : List Event}
        (here : events ++ events' = between ++ .look key look :: rest)
        (listed : ∀ event ∈ events, event.drops key = false) {l : Look}
        (among : .look key l ∈ events) (soon : l.moment.nanos < due.nanos) : l.isPassed = true := by
      rw [← here] at follows ordered
      obtain ⟨r, former⟩ := follows.start
      rw [List.flatMap_append] at ordered
      by_contra tried
      exact absurd (former.due_le set listed (List.pairwise_append.mp ordered).1 among
        (Bool.eq_false_of_not_eq_true tried)) (Nat.not_le.mpr soon)
    refine ⟨?_, ?_⟩
    · refine @early (between ++ [.look key look]) rest (by simp) ?_ look (by simp)
      intro event among
      rcases List.mem_append.mp among with among | here
      · exact listed event among
      · rw [List.mem_singleton.mp here]
        rfl
    · intro soon late
      obtain ⟨p₂, r, former, step⟩ := follows.step_of_split
      have kept := former.kept set listed fun l among => early rfl listed among (soon l among)
      cases step with
      | passed set' still =>
        cases kept.symm.trans set'
        exact absurd still (Nat.not_lt.mpr late)
      | succeeded | stopped | failed | late => rfl

section Sweeps

variable {σ : Type} {answers : σ → (q : SweepQuery k) → q.Answer → σ → Prop}
  {sweeps : List (Swept k)}

/-- A key that failed is left alone for its whole delay, whatever the sweeps are answered at
moments that do not go back. The delay is told by the error and by the failures of the key before
it. Unless a whole sweep does not list the key, each look at it before the delay is over passes it
over, and the first look after that tries it. -/
theorem left_alone_for_delay {base max : Duration} (bounded : max.nanos ≤ Duration.longest.nanos)
    (swept : Sweeps answers requeueAfter (.ofBackoff (.ofLimits base max)) sweeps)
    (ordered : (sweeps.flatMap (·.log.clocks)).Pairwise (·.nanos ≤ ·.nanos)) :
    (∀ x ∈ sweeps, ∃ before after, x.Tells requeueAfter before after) ∧
    (∀ key started e, .look key (.stopped started (.failed e)) ∈ sweeps.flatMap Swept.events →
      e = .cancelled) ∧
    ∀ before key started e noticed after,
      sweeps.flatMap Swept.events = before ++ .look key (.failed started e noticed) :: after →
      let due := Moment.add noticed (delay base max requeueAfter (failuresSince key before) e)
      e ≠ .cancelled ∧
      (∀ d, e.remedy = .retryAfter d → d = .ofSeconds 5 ∨ d = .ofSeconds 300) ∧
      ∀ between look rest, after = between ++ .look key look :: rest →
        (∀ event ∈ between, event.drops key = false) →
        (look.moment.nanos < due.nanos → look.isPassed = true) ∧
        ((∀ earlier, .look key earlier ∈ between → earlier.moment.nanos < due.nanos) →
          due.nanos ≤ look.moment.nanos → look.isPassed = false) := by
  obtain ⟨p', follows⟩ := swept.follows
  refine ⟨swept.tells, ?_, ?_⟩
  · intro key started e among
    rcases follows.stopped_of_mem among with cancelled | ⟨c, crashed⟩
    · exact Stop.failed.inj cancelled
    · cases crashed
  · intro before key started e noticed after told due
    have onwards : ((sweeps.flatMap Swept.events).flatMap Event.moments).Pairwise
        (·.nanos ≤ ·.nanos) := by
      rw [swept.moments]
      exact ordered
    rw [told] at follows onwards
    obtain ⟨p₁, earlier, follows⟩ := follows.split (List.cons_ne_nil _ _)
    have same : p₁.delayAfter requeueAfter key e =
        delay base max requeueAfter (failuresSince key before) e :=
      delayAfter_eq bounded earlier.backoff key e
    refine ⟨?_, fun d fixed => Error.fixed_delay fixed, ?_⟩
    · cases follows with
      | step step | late step =>
        cases step
        assumption
    · rintro between look rest rfl listed
      rw [List.flatMap_append] at onwards
      have alone := follows.left_alone listed
        (List.pairwise_append.mp (List.pairwise_append.mp onwards).2.1).2.1
      rw [same] at alone
      exact alone

/-- A volume whose reconcile fails at two and at seven seconds, both times for an outage, is left
alone up to, but not at, 17 seconds. -/
theorem left_alone_for_ten_seconds :
    let key : ObjectKey := ⟨some "a", "v"⟩
    let down : Error := .unavailable "down"
    let pace : Pace := ⟨.ofSeconds 60, .ofSeconds 60, .ofSeconds 30, 100⟩
    let sweeps := Station.unlucky.sweptAfter pace default .unbounded ([0, 4, 1, 9, 1].map .ofSeconds)
    let before : List Event := [.look key (.failed (.ofSeconds 2) down (.ofSeconds 2)), .swept [key],
      .look key (.passed (.ofSeconds 6)), .swept [key]]
    let between : List Event := [.swept [key], .look key (.passed (.ofSeconds 16)), .swept [key]]
    let look : Look := .succeeded (.ofSeconds 17) (.again (.ofSeconds 60))
    Duration.nanos (.ofSeconds 300) ≤ Duration.longest.nanos ∧
    Sweeps (Station.Answers pace default .unbounded) pace.requeueAfter (.ofBackoff .standard) sweeps ∧
    (sweeps.flatMap (·.log.clocks)).Pairwise (·.nanos ≤ ·.nanos) ∧
    sweeps.flatMap Swept.events = before ++ .look key (.failed (.ofSeconds 7) down (.ofSeconds 7)) ::
      (between ++ .look key look :: [.swept [key]]) ∧
    Moment.add (.ofSeconds 7)
      (delay (.ofSeconds 5) (.ofSeconds 300) pace.requeueAfter (failuresSince key before) down) =
        .ofSeconds 17 ∧
    look.isPassed = false := by
  intro key down pace sweeps before between look
  have bounded : Duration.nanos (.ofSeconds 300) ≤ Duration.longest.nanos := by decide
  have swept : Sweeps (Station.Answers pace default .unbounded) pace.requeueAfter
      (.ofBackoff .standard) sweeps := Station.sweeps_sweptAfter pace default .unbounded _ Station.unlucky
  have ordered : (sweeps.flatMap (·.log.clocks)).Pairwise (·.nanos ≤ ·.nanos) := by decide +kernel
  have told : sweeps.flatMap Swept.events = before ++
      .look key (.failed (.ofSeconds 7) down (.ofSeconds 7)) ::
        (between ++ .look key look :: [.swept [key]]) := by decide +kernel
  have due : Moment.add (.ofSeconds 7)
      (delay (.ofSeconds 5) (.ofSeconds 300) pace.requeueAfter (failuresSince key before) down) =
        .ofSeconds 17 := by decide +kernel
  obtain ⟨-, -, alone⟩ := left_alone_for_delay bounded swept ordered
  obtain ⟨-, -, alone⟩ := alone before key _ down _ _ told
  have late := (alone between look _ rfl (by decide +kernel)).2
  rw [due] at late
  refine ⟨bounded, swept, ordered, told, due, late ?_ (Nat.le_refl _)⟩
  intro earlier among
  rcases List.mem_cons.mp among with none | among
  · cases none
  rcases List.mem_cons.mp among with here | among
  · cases here
    decide
  · cases List.mem_singleton.mp among

end Sweeps

end Sweep

end Reconciler
