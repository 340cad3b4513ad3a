import Reconciler.Proofs.Controller.Round

/-!
Rounds in which a resource enters a state. All that such a round does is one replacement, under
the key that the labels of the object name; where the object itself lies under another key, the
replacement is refused and everything stays as it is.
-/

set_option autoImplicit false

namespace Reconciler

open Controller (Stage)

variable {k : Kind} {round : Round} {key : ObjectKey} {s : MemoryStore k} {o : Object k}
  {r r' : Resource k} {state : State}

theorem Resource.Enters.rule? (observable : (k.noFacts? : Option (k.Facts Reference)).isSome)
    (enters : r.Enters state) :
    ∃ name applies, k.handler.rule? r = some (.entering name applies state) := by
  rcases r.next_or_rests observable with ⟨rule, chosen, next⟩ | ⟨-, rests⟩
  · cases next with
    | @entering name applies _ enters' => exact ⟨name, applies, enters.unique enters' ▸ chosen⟩
    | activating asks => exact absurd asks enters.not_asks
    | deleting asks => exact absurd asks enters.not_asks
  · exact absurd enters rests.no_enters

theorem Object.key_eq_iff (read : o.toResource = .ok r) :
    ObjectKey.ofObject o = .ofReference r.reference ↔
      o.metadata.namespaceName = some r.metadata.scope.namespaceName := by
  have name := (Mapping.of_readMetadata (toResource_eq_ok.mp read).1).1
  constructor
  · exact congrArg ObjectKey.namespaceName
  · intro home
    simp only [ObjectKey.ofObject, ObjectMeta.anyName, home, name]
    rfl

namespace MemoryStore

/-- How a replacement is refused under a key where its base does not lie. -/
def refusal (s : MemoryStore k) (key : ObjectKey) (base : String) : Error :=
  match s.objects.get? key with
  | none => .missing k key
  | some other => .stale k key base other.version

theorem replace_astray (sound : s.Sound) (found : s.objects.get? key = some o)
    (read : o.toResource = .ok r) (placed : r'.metadata = r.metadata)
    (astray : key ≠ .ofReference r.reference) :
    s.replace (.ofResource r') =
      .error (s.refusal (.ofReference r.reference) r.metadata.version) := by
  have seen := Seen.of_get? sound found
  have version := version_ofResource seen read placed
  have named : (Object.ofResource r').Named := by
    have name := (Mapping.of_readMetadata (Object.toResource_eq_ok.mp read).1).1
    have same : (Object.ofResource r').metadata.name = o.metadata.name := by
      rw [name, ← placed]
      rfl
    rw [Object.Named, same]
    exact sound.named found
  have target : writeKey (Object.ofResource r') = .ok (.ofReference r.reference) := by
    refine writeKey_eq_ok.mpr ⟨named, ?_⟩
    rw [Resource.reference, ← placed]
    rfl
  have base := (version_of_read seen read).1
  rw [base] at version
  unfold replace refusal
  rw [target]
  change Except.bind (s.get _) _ = _
  unfold get
  cases there : s.objects.get? (.ofReference r.reference) with
  | none => rfl
  | some other =>
    -- No two objects of a store have one version: the version read belongs to the object's own key.
    have stale : some r.metadata.version ≠ other.version := fun same =>
      astray (seen.same_of_version there (base.trans same)).1
    simp only [Except.bind, version, stale, ne_eq, not_false_eq_true, if_true]

end MemoryStore

namespace Round

variable (observable : (k.noFacts? : Option (k.Facts Reference)).isSome)

include observable

theorem run_of_refused {e : Error} (found : s.objects.get? key = some o)
    (read : o.toResource = .ok r) (enters : r.Enters state)
    (refused : s.replace (.ofResource (r.enter state round.wall)) = .error e) :
    round.run key s = (.error (.failed e), (s, [])) := by
  obtain ⟨name, applies, chosen⟩ := enters.rule? observable
  have got : s.perform round.wall (.get key) = (.ok o, s) := by
    rw [MemoryStore.perform, MemoryStore.get_eq_ok.mpr found]
  have replaced : s.perform round.wall (.replace (.ofResource (r.enter state round.wall))) =
      (.error e, s) := by
    rw [MemoryStore.perform, refused]
  change ((Stage.reading : Stage k).work round.requeueAfter round.wall key).run _ (s, []) = _
  rw [run_asks .reading]
  simp only [answer, got, Stage.afterRead_ok read]
  rw [run_asks (.choosing r)]
  change ((Stage.afterCheck r (.ok ())).work _ _ _).run _ (s, []) = _
  rw [Stage.afterCheck_some chosen, run_asks (.passing r rfl)]
  change ((Stage.afterCall _ _ _ r (r, .ok (.ok ()))).work _ _ _).run _ (s, []) = _
  rw [Stage.afterCall_of_same (.ok ()) rfl]
  change ((Stage.writing (some .update) true (r.enter state round.wall)).work _ _ _).run _ (s, []) = _
  rw [run_asks (.updating true _)]
  simp only [answer, replaced]
  rfl

/-- An object that lies elsewhere than its labels tell is left as it is. -/
theorem run_of_astray (round : Round) (sound : s.Sound) (found : s.objects.get? key = some o)
    (read : o.toResource = .ok r) (enters : r.Enters state)
    (astray : o.metadata.namespaceName ≠ some r.metadata.scope.namespaceName) :
    round.run key s =
      (.error (.failed (s.refusal (.ofReference r.reference) r.metadata.version)), (s, [])) := by
  refine run_of_refused observable found read enters
    (MemoryStore.replace_astray sound found read rfl fun here => astray ?_)
  exact (Object.key_eq_iff read).mp ((sound.keyed found).trans here)

theorem run_of_entering (round : Round) (stands : s.Stands key o r) (enters : r.Enters state) :
    round.result key s = .ok (.again round.requeueAfter, .requeue) ∧ round.calls key s = [] ∧
      ∃ o' r', (round.after key s).Stands key o' r' ∧ r'.rawState = some state := by
  have run := round.run_of_stands stands
  rw [enters.turn observable] at run
  refine ⟨congrArg Prod.fst run, congrArg (·.2.2) run, ?_⟩
  have after : round.after key s = s.saved key o (some .update) (r.enter state round.wall) :=
    congrArg (·.2.1) run
  rw [after]
  refine ⟨_, _, stands.rewritten rfl, ?_⟩
  rw [MemoryStore.rawState_reread, r.rawState_enter observable]

end Round

end Reconciler
