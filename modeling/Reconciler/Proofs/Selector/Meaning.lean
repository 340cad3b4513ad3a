import Reconciler.Proofs.Selector.Grammar
import Reconciler.Proofs.SortedMap

/-!
What selectors mean. A text that spells terms is read as the requirements that these stand for,
and a requirement asks of labels what its term says of them.
-/

set_option autoImplicit false

namespace Reconciler.Selector

open Requirement (isKeyChar isOperatorChar)

/-- A pattern, where it has a star, can be read. -/
def IsPattern (cs : List Char) : Prop :=
  '*' ∈ cs → ∃ tokens, Glob.compile (.ofList cs) = .ok tokens

/-- A pattern matches a text: by its wildcards if it has a star, and only itself otherwise. -/
def Matches (cs : List Char) (text : String) : Prop :=
  if '*' ∈ cs then
    ∃ tokens, Glob.compile (.ofList cs) = .ok tokens ∧ Glob.covers tokens text.toList = true
  else text = .ofList cs

def Relates (n bound : Binary64) : Operator → Prop
  | .greater => bound.lt n = true
  | .less => n.lt bound = true
  | .atLeast => bound.le n = true
  | .atMost => n.le bound = true
  | .equals | .doubleEquals | .notEquals => False

/-- The patterns of a term can be read, and so can its number if it compares numbers. -/
def Term.WellFormed : Term → Prop
  | .present key | .absent key => IsPattern key
  | .related key .equals value | .related key .doubleEquals value => IsPattern key ∧ IsPattern value
  | .related key .notEquals _ => IsPattern key
  | .related key _ value => IsPattern key ∧ ∃ bound, Binary64.read? (.ofList value) = some bound

def Term.Holds (labels : TextMap) : Term → Prop
  | .present key => ∃ k v, labels.get? k = some v ∧ Matches key k
  | .absent key => ∀ k v, labels.get? k = some v → ¬ Matches key k
  | .related key .equals value | .related key .doubleEquals value =>
    ∃ k v, labels.get? k = some v ∧ Matches key k ∧ Matches value v
  | .related key .notEquals value =>
    ∀ k v, labels.get? k = some v → Matches key k → v ≠ .ofList value
  | .related key op value =>
    ∃ k v n bound, labels.get? k = some v ∧ Matches key k ∧ Binary64.read? v = some n ∧
      Binary64.read? (.ofList value) = some bound ∧ Relates n bound op

/-- The requirement that a term stands for, if what is in it can be read. -/
def Term.requirement? : Term → Option Requirement
  | .present key => (Matcher.compile (.ofList key)).toOption.map .present
  | .absent key => (Matcher.compile (.ofList key)).toOption.map .absent
  | .related key op value =>
    (Matcher.compile (.ofList key)).toOption.bind fun key =>
      (Requirement.relate "" key op (.ofList value)).toOption

theorem toOption_eq_some_iff {ε α : Type} {x : Except ε α} {a : α} :
    x.toOption = some a ↔ x = .ok a := by
  cases x <;> simp [Except.toOption]

theorem toOption_map {ε α β : Type} (x : Except ε α) (f : α → β) :
    (x.map f).toOption = x.toOption.map f := by
  cases x <;> rfl

theorem toOption_bind {ε α β : Type} (x : Except ε α) (f : α → Except ε β) :
    (x >>= f).toOption = x.toOption.bind fun a => (f a).toOption := by
  cases x <;> rfl

theorem toOption_readKey (part : String) (cs : List Char) :
    (Requirement.readKey part cs).toOption =
      (key? cs).bind fun key => (Matcher.compile (.ofList key)).toOption := by
  unfold Requirement.readKey key?
  dsimp only
  split <;> rfl

/-- The part is only mentioned in errors. -/
theorem toOption_relate (part : String) (key : Matcher) (op : Operator) (value : String) :
    (Requirement.relate part key op value).toOption =
      (Requirement.relate "" key op value).toOption := by
  unfold Requirement.relate
  split
  · split <;> rfl
  · rfl

theorem toOption_read (cs : List Char) :
    (Requirement.read cs).toOption = (Term.read? cs).bind Term.requirement? := by
  unfold Requirement.read Term.read?
  dsimp only
  cases cs.dropWhile (!isOperatorChar ·) with
  | nil =>
    dsimp only
    rw [toOption_map, toOption_readKey]
    cases key? cs <;> rfl
  | cons c rest =>
    generalize cs.takeWhile (!isOperatorChar ·) = before
    dsimp only
    by_cases marked : before = [] ∧ c = '!' ∧ rest.head? ≠ some '='
    · rw [if_pos marked, if_pos marked, toOption_map, toOption_readKey]
      cases key? rest <;> rfl
    · rw [if_neg marked, if_neg marked]
      cases Operator.split? (c :: rest) with
      | none => rfl
      | some split =>
        dsimp only [Option.bind_some]
        rw [toOption_bind, toOption_readKey]
        cases key? before with
        | none => rfl
        | some key =>
          dsimp only [Option.bind_some]
          by_cases blank : Text.trim split.2 = []
          · rw [if_pos blank, Option.bind_none]
            exact Option.bind_eq_none_iff.mpr fun matcher _ => by rw [if_pos blank]; rfl
          · rw [if_neg blank, Option.bind_some, Term.requirement?]
            refine congrArg _ (funext fun matcher => ?_)
            rw [if_neg blank, toOption_relate]

theorem compile_of_plain {cs : List Char} (plain : '*' ∉ cs) :
    Matcher.compile (.ofList cs) = .ok (.exact (.ofList cs)) := by
  unfold Matcher.compile
  rw [String.toList_ofList, if_neg (by simpa using plain)]

theorem compile_of_star {cs : List Char} (star : '*' ∈ cs) :
    (Matcher.compile (.ofList cs)).toOption = (Glob.compile (.ofList cs)).toOption.map .glob := by
  unfold Matcher.compile
  rw [String.toList_ofList, if_pos (by simpa using star)]
  cases Glob.compile (.ofList cs) <;> rfl

theorem isPattern_iff {cs : List Char} :
    IsPattern cs ↔ ∃ m, (Matcher.compile (.ofList cs)).toOption = some m := by
  unfold IsPattern
  by_cases star : '*' ∈ cs
  · rw [compile_of_star star]
    cases read : Glob.compile (.ofList cs) with
    | ok tokens => simp [star, Except.toOption]
    | error fault => simp [star, Except.toOption]
  · rw [compile_of_plain star]
    simp [star, Except.toOption]

theorem covers_iff {cs : List Char} {m : Matcher}
    (read : (Matcher.compile (.ofList cs)).toOption = some m) (text : String) :
    m.covers text = true ↔ Matches cs text := by
  unfold Matches
  by_cases star : '*' ∈ cs
  · rw [compile_of_star star] at read
    obtain ⟨tokens, compiled, rfl⟩ := Option.map_eq_some_iff.mp read
    rw [if_pos star]
    constructor
    · intro covers
      exact ⟨tokens, toOption_eq_some_iff.mp compiled, covers⟩
    · rintro ⟨tokens', compiled', covers⟩
      rw [toOption_eq_some_iff, compiled'] at compiled
      obtain rfl := Except.ok.inj compiled
      exact covers
  · rw [compile_of_plain star] at read
    obtain rfl := Option.some.inj read
    rw [if_neg star]
    exact decide_eq_true_iff.trans eq_comm

theorem mem_valuesOf {key : List Char} {m : Matcher}
    (read : (Matcher.compile (.ofList key)).toOption = some m) (labels : TextMap) (v : String) :
    v ∈ Requirement.valuesOf m labels ↔ ∃ k, labels.get? k = some v ∧ Matches key k := by
  simp [Requirement.valuesOf, SortedMap.get?_eq_some_iff, covers_iff read]

theorem relate_of_equality {op : Operator} (equates : op = .equals ∨ op = .doubleEquals)
    (key : Matcher) (value : String) :
    (Requirement.relate "" key op value).toOption =
      (Matcher.compile value).toOption.map (.equals key) := by
  rcases equates with rfl | rfl <;> exact toOption_map _ _

theorem relate_of_comparison {op : Operator} {comparison : Comparison}
    (compares : op.comparison? = some comparison) (key : Matcher) (value : String) :
    (Requirement.relate "" key op value).toOption =
      (Binary64.read? value).map (.compares key comparison) := by
  unfold Requirement.relate
  rw [compares]
  cases Binary64.read? value <;> rfl

section Comparison

variable {key value : List Char} {op : Operator} {comparison : Comparison}

theorem wellFormed_of_comparison (compares : op.comparison? = some comparison) :
    (Term.related key op value).WellFormed ↔
      IsPattern key ∧ ∃ bound, Binary64.read? (.ofList value) = some bound := by
  cases op <;> first | exact Iff.rfl | cases compares

theorem relates_of_comparison (compares : op.comparison? = some comparison) (n bound : Binary64) :
    Relates n bound op ↔ comparison.holds n bound = true := by
  cases op <;> cases compares <;> exact Iff.rfl

theorem holds_of_comparison (compares : op.comparison? = some comparison) (labels : TextMap) :
    (Term.related key op value).Holds labels ↔
      ∃ k v n bound, labels.get? k = some v ∧ Matches key k ∧ Binary64.read? v = some n ∧
        Binary64.read? (.ofList value) = some bound ∧ Relates n bound op := by
  cases op <;> first | exact Iff.rfl | cases compares

end Comparison

/-- A term whose patterns and numbers can be read is one that stands for a requirement. -/
theorem Term.wellFormed_iff {t : Term} : t.WellFormed ↔ ∃ r, t.requirement? = some r := by
  have both {α : Type} {x : Option Matcher} {y : Option α} {f : Matcher → α → Requirement} :
      ((∃ m, x = some m) ∧ ∃ a, y = some a) ↔ ∃ r, (x.bind fun m => y.map (f m)) = some r := by
    cases x <;> cases y <;> simp
  cases t with
  | present key | absent key => simp [WellFormed, requirement?, isPattern_iff]
  | related key op value =>
    cases compares : op.comparison? with
    | some comparison =>
      simp only [wellFormed_of_comparison compares, requirement?, isPattern_iff,
        relate_of_comparison compares]
      exact both
    | none =>
      cases op with
      | equals | doubleEquals =>
        simp only [WellFormed, requirement?, isPattern_iff, relate_of_equality (.inl rfl),
          relate_of_equality (.inr rfl)]
        exact both
      | notEquals =>
        rw [WellFormed, isPattern_iff]
        change _ ↔ ∃ r, ((Matcher.compile (.ofList key)).toOption.bind fun m =>
          some (Requirement.notEquals m (.ofList value))) = some r
        cases (Matcher.compile (.ofList key)).toOption <;> simp
      | greater | less | atLeast | atMost => cases compares

theorem Term.holds_iff {t : Term} {r : Requirement} (stands : t.requirement? = some r)
    (labels : TextMap) : r.holds labels = true ↔ t.Holds labels := by
  cases t with
  | present key =>
    obtain ⟨m, read, rfl⟩ := Option.map_eq_some_iff.mp stands
    simp only [Requirement.holds, Bool.not_eq_true', List.isEmpty_eq_false_iff_exists_mem,
      mem_valuesOf read, Holds]
    exact exists_comm
  | absent key =>
    obtain ⟨m, read, rfl⟩ := Option.map_eq_some_iff.mp stands
    simp only [Requirement.holds, List.isEmpty_iff, List.eq_nil_iff_forall_not_mem,
      mem_valuesOf read, Holds, not_exists, not_and]
    exact forall_comm
  | related key op value =>
    obtain ⟨m, read, stands⟩ := Option.bind_eq_some_iff.mp stands
    cases compares : op.comparison? with
    | some comparison =>
      rw [relate_of_comparison compares] at stands
      obtain ⟨bound, number, rfl⟩ := Option.map_eq_some_iff.mp stands
      rw [holds_of_comparison compares]
      simp only [Requirement.holds, List.any_eq_true, mem_valuesOf read, number,
        relates_of_comparison compares]
      constructor
      · rintro ⟨v, ⟨k, found, covers⟩, stands⟩
        cases numbered : Binary64.read? v with
        | none => simp [numbered] at stands
        | some n =>
          rw [numbered] at stands
          exact ⟨k, v, n, bound, found, covers, numbered, rfl, stands⟩
      · rintro ⟨k, v, n, bound', found, covers, numbered, same, stands⟩
        obtain rfl := Option.some.inj same
        refine ⟨v, ⟨k, found, covers⟩, ?_⟩
        rw [numbered]
        exact stands
    | none =>
      cases op with
      | equals | doubleEquals =>
        rw [relate_of_equality (by simp)] at stands
        obtain ⟨m', read', rfl⟩ := Option.map_eq_some_iff.mp stands
        simp only [Requirement.holds, List.any_eq_true, mem_valuesOf read, covers_iff read', Holds]
        constructor
        · rintro ⟨v, ⟨k, found, covers⟩, covers'⟩
          exact ⟨k, v, found, covers, covers'⟩
        · rintro ⟨k, v, found, covers, covers'⟩
          exact ⟨v, ⟨k, found, covers⟩, covers'⟩
      | notEquals =>
        obtain rfl := Option.some.inj stands
        simp only [Requirement.holds, List.all_eq_true, mem_valuesOf read, Holds, decide_eq_true_eq]
        constructor
        · intro differ k v found covers
          exact differ v ⟨k, found, covers⟩
        · rintro differ v ⟨k, found, covers⟩
          exact differ k v found covers
      | greater | less | atLeast | atMost => cases compares

theorem PartsSpell.mapM_read {parts : List (List Char)} {terms : List Term}
    (spell : PartsSpell parts terms) :
    (((parts.map Text.trim).filter (· ≠ [])).mapM Requirement.read).toOption =
      terms.mapM Term.requirement? := by
  induction spell with
  | nil => rfl
  | @blank part parts terms blank _ ih =>
    rw [List.map_cons, List.filter_cons_of_neg (by simp [Text.trim_eq_nil_iff.mpr blank])]
    exact ih
  | @term part parts t terms spelled _ ih =>
    have filled : Text.trim part ≠ [] := by
      intro none
      have read := spelled.read?
      rw [none, read?_nil] at read
      cases read
    rw [List.map_cons, List.filter_cons_of_pos (by simp [filled]), List.mapM_cons, List.mapM_cons,
      toOption_bind, toOption_read, spelled.read?, ← ih]
    refine congrArg _ (funext fun r => ?_)
    rw [toOption_bind]
    rfl

theorem exists_partsSpell {parts : List (List Char)} {s : Selector}
    (read : ((parts.map Text.trim).filter (· ≠ [])).mapM Requirement.read = .ok s) :
    ∃ terms, PartsSpell parts terms := by
  induction parts generalizing s with
  | nil => exact ⟨[], .nil⟩
  | cons part parts ih =>
    by_cases blank : Text.trim part = []
    · rw [List.map_cons, List.filter_cons_of_neg (by simp [blank])] at read
      obtain ⟨terms, rest⟩ := ih read
      exact ⟨terms, .blank (Text.trim_eq_nil_iff.mp blank) rest⟩
    · rw [List.map_cons, List.filter_cons_of_pos (by simp [blank]), List.mapM_cons,
        ← toOption_eq_some_iff, toOption_bind] at read
      obtain ⟨r, first, read⟩ := Option.bind_eq_some_iff.mp read
      rw [toOption_bind] at read
      obtain ⟨rs, others, -⟩ := Option.bind_eq_some_iff.mp read
      rw [toOption_read] at first
      obtain ⟨t, spells, -⟩ := Option.bind_eq_some_iff.mp first
      obtain ⟨terms, rest⟩ := ih (toOption_eq_some_iff.mp others)
      exact ⟨t :: terms, .term (Term.spelled_of_read? spells) rest⟩

theorem toOption_parse {text : String} {terms : List Term} (spells : Spells text terms) :
    (parse text).toOption = terms.mapM Term.requirement? :=
  (spells_iff.mp spells).mapM_read

theorem mapM_requirement?_iff {terms : List Term} :
    (∃ s, terms.mapM Term.requirement? = some s) ↔ ∀ t ∈ terms, t.WellFormed := by
  induction terms with
  | nil => exact ⟨fun _ => List.forall_mem_nil _, fun _ => ⟨[], rfl⟩⟩
  | cons t terms ih =>
    rw [List.forall_mem_cons, Term.wellFormed_iff, ← ih, List.mapM_cons]
    cases t.requirement? <;> cases terms.mapM Term.requirement? <;> simp

theorem selects_iff {terms : List Term} {s : Selector} (read : terms.mapM Term.requirement? = some s)
    (labels : TextMap) : s.selects labels = true ↔ ∀ t ∈ terms, t.Holds labels := by
  induction terms generalizing s with
  | nil =>
    obtain rfl := Option.some.inj read
    exact ⟨fun _ => List.forall_mem_nil _, fun _ => rfl⟩
  | cons t terms ih =>
    rw [List.mapM_cons] at read
    obtain ⟨r, stands, read⟩ := Option.bind_eq_some_iff.mp read
    obtain ⟨rs, others, read⟩ := Option.bind_eq_some_iff.mp read
    obtain rfl := Option.some.inj read
    rw [List.forall_mem_cons, ← Term.holds_iff stands, ← ih others]
    simp [selects]

/-- A selector is read of a text exactly if the text spells terms between its commas whose patterns
and numbers can be read. There is one way only to take the terms, and the selector selects the
labels that all of them hold of. Texts that spell the same terms are read alike, whatever white
space and however many blank parts there are. -/
theorem parse_follows_grammar (text : String) :
    ((∃ s, parse text = .ok s) ↔ ∃ terms, Spells text terms ∧ ∀ t ∈ terms, t.WellFormed) ∧
    ∀ terms, Spells text terms →
      (∀ terms', Spells text terms' → terms' = terms) ∧
      (∀ s, parse text = .ok s → ∀ labels, s.selects labels = true ↔ ∀ t ∈ terms, t.Holds labels) ∧
      ∀ text', Spells text' terms → (parse text').toOption = (parse text).toOption := by
  refine ⟨⟨?_, ?_⟩, ?_⟩
  · rintro ⟨s, read⟩
    obtain ⟨terms, spell⟩ := exists_partsSpell read
    have spells := spells_iff.mpr spell
    refine ⟨terms, spells, mapM_requirement?_iff.mp ⟨s, ?_⟩⟩
    rw [← toOption_parse spells, read]
    rfl
  · rintro ⟨terms, spells, wellFormed⟩
    obtain ⟨s, read⟩ := mapM_requirement?_iff.mpr wellFormed
    rw [← toOption_parse spells] at read
    exact ⟨s, toOption_eq_some_iff.mp read⟩
  · intro terms spells
    refine ⟨?_, ?_, ?_⟩
    · intro terms' spells'
      rw [(spells_iff.mp spells).eq_filterMap, (spells_iff.mp spells').eq_filterMap]
    · intro s read
      refine selects_iff ?_
      rw [← toOption_parse spells, read]
      rfl
    · intro text' spells'
      rw [toOption_parse spells', toOption_parse spells]

/-- A selector with a comparison, an absent key and a pattern, spaced as one likes. -/
theorem spaced_selector_selects :
    let text := " size >= 10 , ,! legacy,tier=g*"
    let terms : List Term := [.related "size".toList .atLeast "10".toList, .absent "legacy".toList,
      .related "tier".toList .equals "g*".toList]
    let labels : TextMap := (SortedMap.empty.insert "size" "12.5").insert "tier" "gold"
    Spells text terms ∧ Spells "size>=10,!legacy,tier=g*" terms ∧
    ∃ s, parse text = .ok s ∧ parse "size>=10,!legacy,tier=g*" = .ok s ∧
      s.selects labels = true ∧ ∀ t ∈ terms, t.Holds labels := by
  intro text terms labels
  have parts : splitCommas text.toList =
      [" size >= 10 ".toList, " ".toList, "! legacy".toList, "tier=g*".toList] := by decide +kernel
  have parts' : splitCommas "size>=10,!legacy,tier=g*".toList =
      ["size>=10".toList, "!legacy".toList, "tier=g*".toList] := by decide +kernel
  have spells : Spells text terms := by
    rw [spells_iff, parts]
    exact .term (Term.spelled_of_read? (by decide +kernel))
      (.blank (Text.trim_eq_nil_iff.mp (by decide +kernel))
        (.term (Term.spelled_of_read? (by decide +kernel))
          (.term (Term.spelled_of_read? (by decide +kernel)) .nil)))
  have spells' : Spells "size>=10,!legacy,tier=g*" terms := by
    rw [spells_iff, parts']
    exact .term (Term.spelled_of_read? (by decide +kernel))
      (.term (Term.spelled_of_read? (by decide +kernel))
        (.term (Term.spelled_of_read? (by decide +kernel)) .nil))
  obtain ⟨-, means, alike⟩ := (parse_follows_grammar text).2 terms spells
  have selected : (parse text).toOption.map (·.selects labels) = some true := by decide +kernel
  obtain ⟨s, read, selects⟩ := Option.map_eq_some_iff.mp selected
  have read' := (alike _ spells').trans read
  rw [toOption_eq_some_iff] at read read'
  exact ⟨spells, spells', s, read, read', selects, (means s read labels).mp selects⟩

end Reconciler.Selector
