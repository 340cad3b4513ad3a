import Reconciler.Proofs.Controller.Round

/-!
Deletion is carried through from any state. A marked object that is still to be created or to
grow is first made what it was to become, by one call of the provider that comes to an end, and
from then on only deleted: `Remaining` counts the rounds that are left, and `Departure` tells what
a round does to that number.
-/

set_option autoImplicit false

namespace Reconciler

open MemoryStore (Stands)

variable {k : Kind}

/-- A marked object by the number of rounds that remove it if nothing fails. -/
inductive Remaining (key : ObjectKey) (s : MemoryStore k) : Nat → Prop
  | gone (absent : s.objects.get? key = none) : Remaining key s 0
  | going {o : Object k} {r : Resource k} (stands : s.Stands key o r)
      (mark : r.isDeleted = true) (asks : r.Asks .delete) : Remaining key s 1
  | making {o : Object k} {r : Resource k} {op : Operation} (stands : s.Stands key o r)
      (mark : r.isDeleted = true) (asks : r.Asks op) (lasting : op ≠ .delete) : Remaining key s 2
  | entering {o : Object k} {r : Resource k} {state : State} (stands : s.Stands key o r)
      (mark : r.isDeleted = true) (enters : r.Enters state) : Remaining key s 3

/-- What is called in a round whose calls end like this, and how many rounds are left then. -/
inductive Departure (outcome : CallOutcome) : Nat → Calls → Nat → Prop
  | gone : Departure outcome 0 [] 0
  | entered : Departure outcome 3 [] 2
  | awaited {op : Operation} (lasting : op ≠ .delete)
      (pending : outcome = .error .stillProcessing) : Departure outcome 2 [(op, outcome)] 2
  | made {op : Operation} (lasting : op ≠ .delete)
      (final : outcome ≠ .error .stillProcessing) : Departure outcome 2 [(op, outcome)] 1
  | unfinished (failed : outcome ≠ .ok ()) : Departure outcome 1 [(.delete, outcome)] 1
  | deleted (done : outcome = .ok ()) : Departure outcome 1 [(.delete, outcome)] 0

section Rounds

variable {key : ObjectKey} {s : MemoryStore k} {o : Object k} {r : Resource k} {round : Round}
  {n n' : Nat}

theorem Remaining.absent (remaining : Remaining key s 0) : s.objects.get? key = none := by
  cases remaining with
  | gone absent => exact absent

variable (observable : (k.noFacts? : Option (k.Facts Reference)).isSome)

include observable

theorem Remaining.of_stands (stands : s.Stands key o r) (mark : r.isDeleted = true) :
    ∃ n ≤ 3, Remaining key s n := by
  rcases r.next_or_rests observable with ⟨rule, -, next⟩ | ⟨-, rests⟩
  · cases next with
    | entering enters => exact ⟨3, by decide, .entering stands mark enters⟩
    | activating asks lasting => exact ⟨2, by decide, .making stands mark asks lasting⟩
    | deleting asks => exact ⟨1, by decide, .going stands mark asks⟩
  · have wanted := Resource.wantsDeletion_of_mark mark
    rw [rests.unwanted] at wanted
    cases wanted

theorem Remaining.of_fail (stands : s.Stands key o r) (mark : r.isDeleted = true)
    (e : ProviderError) (now : Instant) :
    Remaining key (s.saved key o (some .update) (r.fail e now)) 1 := by
  have placed : (r.fail e now).metadata = r.metadata := rfl
  have mark' : (s.reread o (r.fail e now)).isDeleted = true := stands.isDeleted_reread.trans mark
  refine .going (stands.rewritten placed) mark' (.of_error mark' ?_)
  rw [MemoryStore.rawState_reread, r.rawState_fail observable]

theorem Remaining.of_making (stands : s.Stands key o r) (mark : r.isDeleted = true)
    {op : Operation} (asks : r.Asks op) (lasting : op ≠ .delete) (round : Round) :
    ∃ n', Departure round.outcome 2 (round.calls key s) n' ∧
      Remaining key (round.after key s) n' := by
  -- What a success leaves is known from `Round.made`; any other end is read off the turn.
  by_cases done : round.outcome = .ok ()
  · obtain ⟨op', o', r', calls, lasting', stands', same, active, large⟩ :=
      Round.made observable stands asks lasting done
    have mark' := same.trans mark
    rw [calls, ← done]
    refine ⟨1, .made lasting' ?_, .going stands' mark' (.of_active mark' active large)⟩
    rw [done]
    nofun
  rw [round.calls_of_stands stands, round.after_of_stands stands]
  cases ended : round.outcome with
  | ok _ => exact absurd ended done
  | error e =>
    by_cases pending : e = .stillProcessing
    · subst pending
      rw [asks.turn observable]
      exact ⟨2, .awaited lasting rfl, .making stands mark asks lasting⟩
    · rw [asks.turn_failed observable pending]
      refine ⟨1, .made lasting ?_, .of_fail observable stands mark e round.wall⟩
      exact fun same => pending (Except.error.inj same)

theorem Remaining.of_going (stands : s.Stands key o r) (mark : r.isDeleted = true)
    (asks : r.Asks .delete) (round : Round) :
    ∃ n', Departure round.outcome 1 (round.calls key s) n' ∧
      Remaining key (round.after key s) n' := by
  rw [round.calls_of_stands stands, round.after_of_stands stands]
  cases round.outcome with
  | ok _ =>
    rw [asks.turn observable]
    exact ⟨0, .deleted rfl, .gone (SortedMap.get?_erase_self _ _)⟩
  | error e =>
    by_cases pending : e = .stillProcessing
    · subst pending
      rw [asks.turn observable]
      exact ⟨1, .unfinished nofun, .going stands mark asks⟩
    · rw [asks.turn_failed observable pending]
      exact ⟨1, .unfinished nofun, .of_fail observable stands mark e round.wall⟩

/-- A round takes a marked object towards its removal, unless a call fails or is not over. -/
theorem Remaining.departs (remaining : Remaining key s n) (round : Round) :
    ∃ n', Departure round.outcome n (round.calls key s) n' ∧
      Remaining key (round.after key s) n' := by
  cases remaining with
  | gone absent =>
    rw [round.calls_of_absent absent, round.after_of_absent absent]
    exact ⟨0, .gone, .gone absent⟩
  | going stands mark asks => exact Remaining.of_going observable stands mark asks round
  | making stands mark asks lasting =>
    exact Remaining.of_making observable stands mark asks lasting round
  | entering stands mark enters =>
    obtain ⟨calls, o', r', op, stands', same, asks, lasting⟩ :=
      Round.entered observable stands enters round
    rw [calls]
    exact ⟨2, .entered, .making stands' (same.trans mark) asks lasting⟩

end Rounds

def makesAtLast : Operation × CallOutcome → Bool
  | (.delete, _) => false
  | (.create, outcome) | (.increaseSize, outcome) =>
    decide (outcome ≠ .error .stillProcessing)

/-- A deletion is followed by deletions only. -/
def OnlyDeletesAfter (c d : Operation × CallOutcome) : Prop := c.1 = .delete → d.1 = .delete

section Runs

variable {key : ObjectKey} {s : MemoryStore k} {n n' : Nat} {outcome : CallOutcome}
  {calls : Calls}

theorem Departure.lt_of_ok (departure : Departure (.ok ()) n calls n') : n' ≤ n - 1 := by
  cases departure with
  | gone => decide
  | entered => decide
  | awaited lasting pending => cases pending
  | made lasting final => decide
  | unfinished failed => exact absurd rfl failed
  | deleted done => decide

theorem Departure.only_deletes (departure : Departure outcome n calls n') (going : n ≤ 1) :
    n' ≤ 1 ∧ ∀ c ∈ calls, c.1 = .delete := by
  cases departure with
  | gone => simp
  | entered => exact absurd going (by decide)
  | awaited lasting pending => exact absurd going (by decide)
  | made lasting final => exact absurd going (by decide)
  | unfinished failed => simp
  | deleted done => simp

variable (observable : (k.noFacts? : Option (k.Facts Reference)).isSome)

include observable

theorem Remaining.run_down (remaining : Remaining key s n) (rounds : List Round)
    (done : ∀ round ∈ rounds, round.outcome = .ok ()) :
    ∃ n' ≤ n - rounds.length, Remaining key (Round.afterAll key rounds s) n' := by
  induction rounds generalizing s n with
  | nil => exact ⟨n, Nat.le_refl _, remaining⟩
  | cons round rounds ih =>
    obtain ⟨n₁, departure, remaining₁⟩ := remaining.departs observable round
    have first : n₁ ≤ n - 1 := (done round List.mem_cons_self ▸ departure).lt_of_ok
    obtain ⟨n₂, rest, remaining₂⟩ :=
      ih remaining₁ fun later listed => done later (List.mem_cons_of_mem _ listed)
    refine ⟨n₂, ?_, remaining₂⟩
    rw [List.length_cons]
    omega

theorem Remaining.callsOfAll_deletes (remaining : Remaining key s n) (going : n ≤ 1)
    (rounds : List Round) : ∀ c ∈ Round.callsOfAll key rounds s, c.1 = .delete := by
  induction rounds generalizing s n with
  | nil => exact List.forall_mem_nil _
  | cons round rounds ih =>
    obtain ⟨n', departure, remaining'⟩ := remaining.departs observable round
    obtain ⟨going', now⟩ := departure.only_deletes going
    exact List.forall_mem_append.mpr ⟨now, ih remaining' going'⟩

/-- Whatever the calls of the rounds come to, at most one that makes something comes to an end,
and none follows a deletion. -/
theorem Remaining.callsOfAll (remaining : Remaining key s n) (rounds : List Round) :
    (Round.callsOfAll key rounds s).countP makesAtLast ≤ 1 ∧
      (Round.callsOfAll key rounds s).Pairwise OnlyDeletesAfter := by
  have of_deletes {calls : Calls} (deletes : ∀ c ∈ calls, c.1 = .delete) :
      calls.countP makesAtLast = 0 ∧ calls.Pairwise OnlyDeletesAfter := by
    refine ⟨List.countP_eq_zero.mpr ?_, List.pairwise_of_forall_mem_list ?_⟩
    · rintro ⟨op, outcome⟩ listed
      obtain rfl : op = .delete := deletes _ listed
      exact Bool.false_ne_true
    · intro c _ d listed _
      exact deletes d listed
  induction rounds generalizing s n with
  | nil => exact ⟨Nat.zero_le _, .nil⟩
  | cons round rounds ih =>
    -- Once there is one round left only deletions follow, and the induction is not needed.
    rcases Nat.lt_or_ge 1 n with making | going
    · obtain ⟨n', departure, remaining'⟩ := remaining.departs observable round
      obtain ⟨rest, order⟩ := ih remaining'
      rw [Round.callsOfAll]
      generalize round.calls key s = calls at departure ⊢
      cases departure with
      | gone => exact absurd making (by decide)
      | entered => exact ⟨rest, order⟩
      | @awaited op lasting pending =>
        have unfinished : makesAtLast (op, round.outcome) = false := by
          rw [pending]
          cases op <;> rfl
        refine ⟨?_, List.pairwise_cons.mpr ⟨fun d _ deleted => absurd deleted lasting, order⟩⟩
        rw [List.singleton_append, List.countP_cons_of_neg (by simp [unfinished])]
        exact rest
      | @made op lasting final =>
        obtain ⟨none, order⟩ :=
          of_deletes (remaining'.callsOfAll_deletes observable (by decide) rounds)
        refine ⟨?_, List.pairwise_cons.mpr ⟨fun d _ deleted => absurd deleted lasting, order⟩⟩
        rw [List.singleton_append, List.countP_cons, none]
        split <;> decide
      | unfinished failed => exact absurd making (by decide)
      | deleted done => exact absurd making (by decide)
    · obtain ⟨none, order⟩ :=
        of_deletes (remaining.callsOfAll_deletes observable going (round :: rounds))
      exact ⟨none ▸ Nat.zero_le 1, order⟩

end Runs

namespace Round

/-- A volume or workspace that is marked for deletion is gone after three rounds in which every
call succeeds. Whatever the calls come to, at most one that makes something comes to an end, and
once a deletion was called nothing is made any more. -/
theorem deletion_carried_through (reconciled : k = .volume ∨ k = .workspace)
    (past : List (Request k)) {s : MemoryStore k} (stored : s = MemoryStore.empty.afterAll past)
    {key : ObjectKey} {o : Object k} {r : Resource k} (found : s.objects.get? key = some o)
    (formed : o.WellFormed r) (marked : o.metadata.deletionTimestamp.isSome)
    (rounds : List Round) :
    (3 ≤ rounds.length → (∀ round ∈ rounds, round.outcome = .ok ()) →
      (afterAll key rounds s).objects.get? key = none) ∧
    (callsOfAll key rounds s).countP makesAtLast ≤ 1 ∧
    (callsOfAll key rounds s).Pairwise OnlyDeletesAfter := by
  have observable : (k.noFacts? : Option (k.Facts Reference)).isSome := by
    rcases reconciled with rfl | rfl
    · rfl
    · rfl
  have stands : s.Stands key o r := by
    refine ⟨?_, found, formed⟩
    rw [stored]
    exact MemoryStore.sound_empty.afterAll past
  obtain ⟨n, few, remaining⟩ :=
    Remaining.of_stands observable stands (formed.isDeleted.trans marked)
  refine ⟨fun enough done => ?_, remaining.callsOfAll observable rounds⟩
  obtain ⟨n', left, remaining'⟩ := remaining.run_down observable rounds done
  obtain rfl : n' = 0 := by omega
  exact remaining'.absent

/-- An active volume of 5 GB was to have 10 GB when it was marked for deletion. -/
def markedStore : MemoryStore .volume :=
  .afterAll .empty
    [.call .unbounded .zero default (.create
      { Object.plainVolume with status := some ⟨⟨some "active", []⟩, ⟨5, none, none⟩⟩ }),
      .mark default ⟨some "a", "v"⟩]

/-- The volume grows before it is deleted. -/
theorem marked_volume_grows_and_goes :
    callsOfAll ⟨some "a", "v"⟩ (.replicate 3 calm) markedStore =
        [(.increaseSize, .ok ()), (.delete, .ok ())] ∧
      (afterAll ⟨some "a", "v"⟩ (.replicate 3 calm) markedStore).objects.get?
        ⟨some "a", "v"⟩ = none := by
  have made : markedStore.objects.get? ⟨some "a", "v"⟩ = some
      (({ Object.plainVolume with
        status := some ⟨⟨some "active", []⟩, ⟨5, none, none⟩⟩ } : Object .volume).restamp
          (some "2") (some default) (some default)) := by rfl
  have formed := deletion_carried_through (.inl rfl) _ rfl made
    ⟨rfl, rfl, fun told => nomatch told⟩ rfl (.replicate 3 calm)
  refine ⟨by rfl, formed.1 (by decide) ?_⟩
  intro round listed
  rw [List.eq_of_mem_replicate listed]
  rfl

end Round

end Reconciler
