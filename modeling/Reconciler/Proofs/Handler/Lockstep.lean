import Reconciler.Proofs.Handler.Retry

/-!
Workspaces and volumes in lockstep. A volume that does not outgrow what was provisioned, or has
never been about to grow, meets with the rules it shares with workspaces only, and stays that way;
so a workspace of the same history goes through the same states, whatever the provider answers.
-/

set_option autoImplicit false

namespace Reconciler

namespace Condition

variable {τ : Type}

def timeless (c : Condition τ) : Condition τ := { c with since := default }

end Condition

namespace Lifecycle

variable {τ : Type} {l l' : Lifecycle τ}

def timeless (l : Lifecycle τ) : Lifecycle τ := ⟨l.state, l.conditions.map Condition.timeless⟩

theorem timeless_record (l : Lifecycle τ) (c : Condition τ) :
    (l.record c).timeless = l.timeless.record c.timeless := by
  simp [timeless, record, Condition.timeless]

theorem previous_timeless (l : Lifecycle τ) : l.timeless.previous = l.previous := by
  unfold previous timeless
  rw [← List.map_reverse]
  rcases l.conditions.reverse with _ | ⟨c, _ | ⟨c', cs⟩⟩ <;> rfl

theorem exists_mem_of_previous {s : τ} (before : l.previous = some s) :
    ∃ c ∈ l.conditions, c.state = s := by
  unfold previous at before
  split at before
  · rename_i latest c older backwards
    refine ⟨c, ?_, Option.some.inj before⟩
    rw [← List.mem_reverse, backwards]
    exact List.mem_cons_of_mem _ List.mem_cons_self
  · cases before

theorem timeless_enter {l l' : Lifecycle State} (same : l.timeless = l'.timeless) (s : State)
    (now now' : Instant) : (l.enter s now).timeless = (l'.enter s now').timeless := by
  unfold enter
  rw [timeless_record, timeless_record, same]
  rfl

theorem timeless_fail {l l' : Lifecycle State} (same : l.timeless = l'.timeless)
    (e : ProviderError) (now now' : Instant) :
    (l.fail e now).timeless = (l'.fail e now').timeless := by
  unfold fail
  rw [timeless_record, timeless_record, same]
  rfl

end Lifecycle

namespace Volume

/-- Nothing of what is wanted or on record makes the volume grow. -/
def Still (v : Volume) : Prop :=
  needsResize v = false ∨
    v.state ≠ .active ∧ v.state ≠ .updating ∧ ∀ c ∈ v.conditions, c.state ≠ .updating

variable {v v' : Volume}

theorem Still.of_settled (settled : v.outgrown = false) : v.Still := .inl settled

theorem Still.no_growth (still : v.Still) {s : State} (late : s = .active ∨ s = .updating)
    (state : v.rawState = some s) : v.outgrown = false := by
  rcases still with settled | ⟨inactive, unmoved, -⟩
  · exact settled
  · rcases late with rfl | rfl
    · exact absurd (Resource.state_of_rawState state) inactive
    · exact absurd (Resource.state_of_rawState state) unmoved

theorem Still.no_retry (still : v.Still) (failed : v.failedIn .updating = true) :
    v.outgrown = false := by
  rcases still with settled | ⟨-, -, unheard⟩
  · exact settled
  · have before := of_decide_eq_true (Bool.and_eq_true_iff.mp failed).2
    obtain ⟨c, listed, told⟩ := Lifecycle.exists_mem_of_previous before
    exact absurd told (unheard c listed)

theorem Still.recorded (still : v.Still) {s : State} {c : Condition State} (told : c.state = s)
    (inactive : s ≠ .active) (unmoved : s ≠ .updating)
    (records : v'.lifecycle = v.lifecycle.record c) (size : v'.outgrown = v.outgrown) :
    v'.Still := by
  subst told
  rcases still with settled | ⟨-, -, unheard⟩
  · exact .of_settled (size.trans settled)
  · have raw : v'.rawState = some c.state := congrArg Lifecycle.state records
    have state := Resource.state_of_rawState raw
    refine .inr ⟨state ▸ inactive, state ▸ unmoved, ?_⟩
    intro d listed
    have history : v'.conditions = v.conditions ++ [c] := congrArg Lifecycle.conditions records
    rw [history] at listed
    rcases List.mem_append.mp listed with old | new
    · exact unheard d old
    · rw [List.mem_singleton.mp new]
      exact unmoved

theorem Still.of_same (still : v.Still) (lifecycle : v'.lifecycle = v.lifecycle)
    (size : v'.outgrown = v.outgrown) : v'.Still := by
  rcases still with settled | ⟨inactive, unmoved, unheard⟩
  · exact .of_settled (size.trans settled)
  · have state : v'.state = v.state :=
      congrArg (fun raw => raw.getD .pending) (Resource.rawState_of_lifecycle lifecycle)
    have history : v'.conditions = v.conditions := congrArg Lifecycle.conditions lifecycle
    rw [← state] at inactive unmoved
    rw [← history] at unheard
    exact .inr ⟨inactive, unmoved, unheard⟩

end Volume

/-- A workspace and a volume of the same history, of which the volume does not grow. -/
structure Twins (w : Workspace) (v : Volume) : Prop where
  lifecycle : w.lifecycle.timeless = v.lifecycle.timeless
  mark : w.isDeleted = v.isDeleted
  still : v.Still

namespace Twins

variable {w w' : Workspace} {v v' : Volume}

theorem rawState (twins : Twins w v) : w.rawState = v.rawState := by
  have same : w.lifecycle.timeless.state = v.lifecycle.timeless.state := by rw [twins.lifecycle]
  exact same

theorem state (twins : Twins w v) : w.state = v.state :=
  congrArg (fun raw => raw.getD State.pending) twins.rawState

theorem wantsDeletion (twins : Twins w v) : w.wantsDeletion = v.wantsDeletion := by
  unfold Resource.wantsDeletion
  rw [twins.mark, twins.state]

theorem failedIn (twins : Twins w v) (s : State) : w.failedIn s = v.failedIn s := by
  have before : w.previousState = v.previousState := by
    unfold Resource.previousState
    rw [← Lifecycle.previous_timeless, twins.lifecycle, Lifecycle.previous_timeless]
  unfold Resource.failedIn
  rw [twins.state, before]

/-- What the volume enters without asking, the workspace enters too: it is about to be created. -/
theorem enters (twins : Twins w v) {s : State} (enters : v.Enters s) :
    w.Enters s ∧ s = .creating := by
  cases enters with
  | begin pending => exact ⟨.begin (twins.state.trans pending), rfl⟩
  | outgrow active small =>
    cases small.symm.trans (twins.still.no_growth (.inl rfl) active)
  | retryCreation failed unwanted =>
    exact ⟨.retryCreation ((twins.failedIn _).trans failed) (twins.wantsDeletion.trans unwanted),
      rfl⟩
  | retryGrowth failed small unwanted =>
    cases small.symm.trans (twins.still.no_retry failed)

theorem asks (twins : Twins w v) {op : Operation} (asks : v.Asks op) : w.Asks op := by
  cases asks with
  | create creating => exact .create (twins.rawState.trans creating)
  | grow updating small =>
    cases small.symm.trans (twins.still.no_growth (.inr rfl) updating)
  | delete wanted begun made large =>
    refine .delete (twins.wantsDeletion.trans wanted) ?_ ?_ fun _ => rfl
    · rw [twins.state]
      exact begun
    · rw [twins.rawState]
      exact made

theorem rests (twins : Twins w v) (rests : v.Rests) : w.Rests where
  begun := by
    rw [twins.state]
    exact rests.begun
  made := by
    rw [twins.rawState]
    exact rests.made
  large := fun _ => rfl
  unwanted := twins.wantsDeletion.trans rests.unwanted
  created := (twins.failedIn _).trans rests.created
  enlarged := fun _ => rfl

theorem enter (twins : Twins w v) (now now' : Instant) :
    Twins (w.enter .creating now) (v.enter .creating now') where
  lifecycle := by
    rw [w.lifecycle_enter rfl, v.lifecycle_enter rfl]
    exact Lifecycle.timeless_enter twins.lifecycle _ _ _
  mark := twins.mark
  still := twins.still.recorded (s := .creating) rfl (by decide) (by decide)
    (v.lifecycle_enter rfl _ _) (v.outgrown_enter _ _)

theorem fail (twins : Twins w v) (e : ProviderError) (now now' : Instant) :
    Twins (w.fail e now) (v.fail e now') where
  lifecycle := by
    rw [w.lifecycle_fail rfl, v.lifecycle_fail rfl]
    exact Lifecycle.timeless_fail twins.lifecycle _ _ _
  mark := twins.mark
  still := twins.still.recorded (s := .error) rfl (by decide) (by decide)
    (v.lifecycle_fail rfl _ _) (v.outgrown_mapLifecycle _)

theorem activate (twins : Twins w v) {op : Operation} (lasting : op ≠ .delete)
    (now now' : Instant) :
    Twins ((w.noting op).enter .active now) ((v.noting op).enter .active now') where
  lifecycle := by
    rw [(w.noting op).lifecycle_enter rfl, (v.noting op).lifecycle_enter rfl, w.lifecycle_noting,
      v.lifecycle_noting]
    exact Lifecycle.timeless_enter twins.lifecycle _ _ _
  mark := by
    have placed : (w.noting op).isDeleted = w.isDeleted :=
      congrArg Metadata.isDeleted (w.metadata_noting op)
    have placed' : (v.noting op).isDeleted = v.isDeleted :=
      congrArg Metadata.isDeleted (v.metadata_noting op)
    exact placed.trans (twins.mark.trans placed'.symm)
  still := by
    apply Volume.Still.of_settled
    rw [Resource.outgrown_enter]
    exact v.outgrown_noting lasting

theorem keptAs (twins : Twins w v) (kept : w.KeptAs w') (kept' : v.KeptAs v') : Twins w' v' where
  lifecycle := by
    rw [kept.lifecycle, kept'.lifecycle]
    exact twins.lifecycle
  mark := by
    rw [kept.isDeleted, kept'.isDeleted]
    exact twins.mark
  still := twins.still.of_same kept'.lifecycle kept'.outgrown

/-- Two turns that look the same from outside. -/
structure Match (t : Turn .workspace) (u : Turn .volume) : Prop where
  asked : t.asked = u.asked
  written : t.written = u.written
  again : t.again = u.again
  left : Twins t.left u.left

theorem turn (twins : Twins w v) (outcome : CallOutcome) (now now' : Instant) :
    Match (w.turn outcome now) (v.turn outcome now') := by
  have observable : (Kind.workspace.noFacts? : Option (Kind.workspace.Facts Reference)).isSome :=
    rfl
  have observable' : (Kind.volume.noFacts? : Option (Kind.volume.Facts Reference)).isSome := rfl
  have turned := v.turned outcome now'
  generalize v.turn outcome now' = u at turned ⊢
  cases turned with
  | rested idle =>
    have rests := twins.rests (.of_rule? observable' idle)
    have turn : w.turn outcome now = ⟨none, none, w, false⟩ := by
      simp only [Resource.turn, rests.rule?_eq_none]
    rw [turn]
    exact ⟨rfl, rfl, rfl, twins⟩
  | entered enters =>
    obtain ⟨enters', rfl⟩ := twins.enters enters
    rw [enters'.turn observable]
    exact ⟨rfl, rfl, rfl, twins.enter _ _⟩
  | activated asks lasting =>
    rw [(twins.asks asks).turn_done observable lasting]
    exact ⟨rfl, rfl, rfl, twins.activate lasting _ _⟩
  | deleted asks =>
    rw [(twins.asks asks).turn observable]
    exact ⟨rfl, rfl, rfl, twins⟩
  | awaited asks =>
    rw [(twins.asks asks).turn observable]
    exact ⟨rfl, rfl, rfl, twins⟩
  | failed asks final =>
    rw [(twins.asks asks).turn_failed observable final]
    exact ⟨rfl, rfl, rfl, twins.fail _ _ _⟩

end Twins

/-- What shows of a glance: what the handler answers, the calls of the provider, the writes to the
store, and the state and the history that it leaves, but for the times in it. -/
structure Sight where
  answer : Except Stop Bool
  calls : List Operation
  writes : List Write
  lifecycle : Lifecycle State

namespace Glance

variable {k : Kind}

def sight (glance : Glance k) (r : Resource k) : Sight :=
  ⟨glance.result r, glance.calls r, glance.writes r, (glance.left r).lifecycle.timeless⟩

/-- What shows of one glance after another, each at what the one before has left. -/
def sights : List (Glance k) → Resource k → List Sight
  | [], _ => []
  | glance :: later, r => glance.sight r :: sights later (glance.left r)

theorem sight_of_twins {w : Workspace} {v : Volume} (twins : Twins w v)
    {glance : Glance .workspace} {glance' : Glance .volume}
    (same : glance.outcome = glance'.outcome) :
    glance.sight w = glance'.sight v ∧ Twins (glance.left w) (glance'.left v) := by
  have turns := twins.turn glance.outcome glance.now glance'.now
  have kept := glance.keptAs_left w
  have kept' := glance'.keptAs_left v
  rw [← same] at kept'
  have left : Twins (glance.left w) (glance'.left v) := turns.left.keptAs kept kept'
  refine ⟨?_, left⟩
  unfold sight
  rw [result_eq, result_eq, calls_eq, calls_eq, writes_eq, writes_eq, ← same, turns.asked,
    turns.written, turns.again, left.lifecycle]

theorem sights_of_twins {w : Workspace} {v : Volume} (twins : Twins w v)
    {glances : List (Glance .workspace)} {glances' : List (Glance .volume)}
    (same : glances.map Glance.outcome = glances'.map Glance.outcome) :
    sights glances w = sights glances' v := by
  induction glances generalizing w v glances' with
  | nil =>
    obtain rfl := List.map_eq_nil_iff.mp same.symm
    rfl
  | cons glance later ih =>
    obtain ⟨glance', later', rfl, first, rest⟩ := List.map_eq_cons_iff.mp same.symm
    obtain ⟨seen, left⟩ := sight_of_twins twins first.symm
    rw [sights, sights, seen, ih left rest.symm]

/-- A workspace and a volume of one lifecycle, both marked for deletion or neither, are driven
alike: while calls of the provider end alike, the handlers answer the same, call the same, write the
same, and leave the same state and history. It takes a volume that is as large as it is wanted, or
one that is neither active nor growing and has never been about to grow. -/
theorem driven_in_lockstep {w : Workspace} {v : Volume} (lifecycle : w.lifecycle = v.lifecycle)
    (mark : w.isDeleted = v.isDeleted)
    (start : v.spec.sizeGb ≤ Volume.observedSize v ∨
      v.state ≠ .active ∧ v.state ≠ .updating ∧ ∀ c ∈ v.conditions, c.state ≠ .updating)
    {glances : List (Glance .workspace)} {glances' : List (Glance .volume)}
    (same : glances.map Glance.outcome = glances'.map Glance.outcome) :
    sights glances w = sights glances' v := by
  refine sights_of_twins ⟨congrArg Lifecycle.timeless lifecycle, mark, ?_⟩ same
  rcases start with large | unmoved
  · exact .of_settled (decide_eq_false (Nat.not_lt.mpr large))
  · exact .inr unmoved

def pending : Glance k := { calm with outcome := .error .stillProcessing }

def plainWorkspace : Workspace :=
  { metadata := .ofName "w" "t"
    spec := ⟨∅⟩
    status := none }

/-- The creation fails once, is tried again and takes two calls. -/
theorem created_in_lockstep :
    sights [calm, failing, calm, pending, calm, calm] plainWorkspace =
      sights [calm, failing, calm, pending, calm, calm] plainVolume ∧
    (sights [calm, failing, calm, pending, calm, calm] plainVolume).map Sight.calls =
      [[], [.create], [], [.create], [.create], []] := by
  have unmoved : Resource.state plainVolume ≠ .active ∧ Resource.state plainVolume ≠ .updating ∧
      ∀ c ∈ Resource.conditions plainVolume, c.state ≠ .updating := by decide
  exact ⟨driven_in_lockstep rfl rfl (.inr unmoved) rfl, rfl⟩

end Glance

end Reconciler
