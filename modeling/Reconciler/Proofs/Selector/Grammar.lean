import Reconciler.Proofs.Text.Blank
import Reconciler.Selector

/-!
How selectors are spelled: terms between commas, with white space as one likes. A text spells one
list of terms at most, and the terms can be read off its parts one by one.
-/

set_option autoImplicit false

namespace Reconciler

namespace Operator

/-- The operator stands at the beginning of a text and no longer one does. -/
def Leads (op : Operator) (cs : List Char) : Prop :=
  op.symbol <+: cs ∧ ∀ other : Operator, other.symbol <+: cs → other.symbol.length ≤ op.symbol.length

theorem mem_all (op : Operator) : op ∈ all := by cases op <;> decide

theorem symbol_injective {op op' : Operator} (same : op.symbol = op'.symbol) : op = op' := by
  cases op <;> cases op' <;> first | rfl | cases same

theorem all_pairwise : all.Pairwise fun op op' => op'.symbol.length ≤ op.symbol.length := by decide

theorem Leads.unique {op op' : Operator} {cs : List Char} (leads : op.Leads cs)
    (leads' : op'.Leads cs) : op = op' := by
  have long := leads.2 op' leads'.1
  have long' := leads'.2 op leads.1
  exact symbol_injective (List.IsPrefix.eq_of_length
    (List.prefix_of_prefix_length_le leads.1 leads'.1 long') (Nat.le_antisymm long' long))

theorem leads_of_find? {cs : List Char} {op : Operator}
    (found : all.find? (fun op => op.symbol.isPrefixOf cs) = some op) : op.Leads cs := by
  obtain ⟨begins, earlier, later, split, none⟩ := List.find?_eq_some_iff_append.mp found
  refine ⟨List.isPrefixOf_iff_prefix.mp begins, ?_⟩
  intro other begins'
  have ordered := all_pairwise
  have among := mem_all other
  rw [split] at ordered among
  rcases List.mem_append.mp among with early | late
  · have absent := none other early
    rw [List.isPrefixOf_iff_prefix.mpr begins'] at absent
    cases absent
  · rcases List.mem_cons.mp late with rfl | late
    · exact Nat.le_refl _
    · exact (List.pairwise_cons.mp (List.pairwise_append.mp ordered).2.1).1 other late

theorem Leads.of_append {op : Operator} {cs more : List Char} (leads : op.Leads (cs ++ more))
    (begins : op.symbol <+: cs) : op.Leads cs :=
  ⟨begins, fun other begins' => leads.2 other (begins'.trans (List.prefix_append cs more))⟩

/-- The operator that is read is the longest one that stands there. -/
theorem split?_eq_some_iff {cs after : List Char} {op : Operator} :
    split? cs = some (op, after) ↔ cs = op.symbol ++ after ∧ op.Leads cs := by
  unfold split?
  constructor
  · intro read
    obtain ⟨op', found, same⟩ := Option.map_eq_some_iff.mp read
    obtain ⟨rfl, rfl⟩ := Prod.mk.inj same
    have leads := leads_of_find? found
    exact ⟨(List.prefix_iff_eq_append.mp leads.1).symm, leads⟩
  · rintro ⟨rfl, leads⟩
    obtain ⟨op', found⟩ : ∃ op',
        all.find? (fun other => other.symbol.isPrefixOf (op.symbol ++ after)) = some op' := by
      refine Option.isSome_iff_exists.mp (List.find?_isSome.mpr ⟨op, mem_all op, ?_⟩)
      exact List.isPrefixOf_iff_prefix.mpr (List.prefix_append _ _)
    obtain rfl := leads.unique (leads_of_find? found)
    rw [found, Option.map_some, List.drop_left]

theorem exists_symbol_eq_cons (op : Operator) :
    ∃ c rest, op.symbol = c :: rest ∧ Requirement.isOperatorChar c = true := by
  cases op <;> exact ⟨_, _, rfl, rfl⟩

end Operator

namespace Selector

open Text (Blank Tight)
open Requirement (isKeyChar isOperatorChar)

/-- What a part of a selector asks for, as it is written. -/
inductive Term where
  | present (key : List Char)
  | absent (key : List Char)
  | related (key : List Char) (op : Operator) (value : List Char)
  deriving DecidableEq

def IsKey (cs : List Char) : Prop := cs ≠ [] ∧ ∀ c ∈ cs, isKeyChar c = true

/-- A part of a selector spells a term; white space matters neither around the part nor around the
key, the operator and the value. -/
inductive Term.Spelled : Term → List Char → Prop
  | present {before key after : List Char} (isKey : IsKey key) (blank : Blank before)
      (blank' : Blank after) : Spelled (.present key) (before ++ key ++ after)
  | absent {before gap key after : List Char} (isKey : IsKey key) (blank : Blank before)
      (blank' : Blank after) (space : Blank gap) :
      Spelled (.absent key) (before ++ ('!' :: gap ++ key) ++ after)
  | related {before key gap gap' value after : List Char} {op : Operator} (isKey : IsKey key)
      (leads : op.Leads (op.symbol ++ gap' ++ value)) (filled : value ≠ []) (tight : Tight value)
      (blank : Blank before) (blank' : Blank after) (space : Blank gap) (space' : Blank gap') :
      Spelled (.related key op value) (before ++ (key ++ gap ++ (op.symbol ++ gap' ++ value)) ++ after)

/-- Parts of a selector spell terms; parts that are blank do not count. -/
inductive PartsSpell : List (List Char) → List Term → Prop
  | nil : PartsSpell [] []
  | blank {part : List Char} {parts : List (List Char)} {terms : List Term} (blank : Blank part)
      (rest : PartsSpell parts terms) : PartsSpell (part :: parts) terms
  | term {part : List Char} {parts : List (List Char)} {t : Term} {terms : List Term}
      (spelled : t.Spelled part) (rest : PartsSpell parts terms) :
      PartsSpell (part :: parts) (t :: terms)

def Spells (text : String) (terms : List Term) : Prop :=
  ∃ parts, parts ≠ [] ∧ (∀ part ∈ parts, ',' ∉ part) ∧ text.toList = [','].intercalate parts ∧
    PartsSpell parts terms

theorem toNat_of_isKeyChar {c : Char} (keyed : isKeyChar c = true) :
    c.toNat = 42 ∨ 45 ≤ c.toNat ∧ c.toNat ≤ 57 ∨ 65 ≤ c.toNat ∧ c.toNat ≤ 90 ∨ c.toNat = 95 ∨
      97 ≤ c.toNat ∧ c.toNat ≤ 122 := by
  have code (a b : Char) : a ≤ b ↔ a.toNat ≤ b.toNat := Iff.rfl
  have same (a b : Char) : a = b ↔ a.toNat = b.toNat := Char.toNat_inj.symm
  have digit : isDigit c = true ↔ 48 ≤ c.toNat ∧ c.toNat ≤ 57 := by
    unfold isDigit digit?
    split
    · rename_i within
      exact ⟨fun _ => within, fun _ => rfl⟩
    · rename_i outside
      exact ⟨nofun, fun within => absurd within outside⟩
  simp only [isKeyChar, Bool.or_eq_true, Bool.and_eq_true, decide_eq_true_eq, code, same, digit,
    Char.reduceToNat] at keyed
  omega

theorem not_blank_of_isKeyChar {c : Char} (keyed : isKeyChar c = true) : Text.isBlank c = false := by
  have code := toNat_of_isKeyChar keyed
  simp only [Text.isBlank, Bool.or_eq_false_iff, Bool.and_eq_false_iff, decide_eq_false_iff_not]
  omega

theorem toNat_of_isOperatorChar {c : Char} (operates : isOperatorChar c = true) :
    c.toNat = 33 ∨ 60 ≤ c.toNat ∧ c.toNat ≤ 62 := by
  have same (a b : Char) : a = b ↔ a.toNat = b.toNat := Char.toNat_inj.symm
  simp only [isOperatorChar, Bool.or_eq_true, decide_eq_true_eq, same, Char.reduceToNat] at operates
  omega

theorem not_operator_of_isKeyChar {c : Char} (keyed : isKeyChar c = true) :
    isOperatorChar c = false := by
  refine Bool.eq_false_iff.mpr fun operates => ?_
  have code := toNat_of_isKeyChar keyed
  have code' := toNat_of_isOperatorChar operates
  omega

theorem not_operator_of_isBlank {c : Char} (blank : Text.isBlank c = true) :
    isOperatorChar c = false := by
  refine Bool.eq_false_iff.mpr fun operates => ?_
  have code := toNat_of_isOperatorChar operates
  simp only [Text.isBlank, Bool.or_eq_true, Bool.and_eq_true, decide_eq_true_eq] at blank
  omega

theorem IsKey.tight {key : List Char} (isKey : IsKey key) : Tight key :=
  Text.tight_of_forall fun c among => not_blank_of_isKeyChar (isKey.2 c among)

def key? (cs : List Char) : Option (List Char) :=
  if Text.trim cs ≠ [] ∧ (Text.trim cs).all isKeyChar then some (Text.trim cs) else none

def Term.read? (cs : List Char) : Option Term :=
  let before := cs.takeWhile (!isOperatorChar ·)
  match cs.dropWhile (!isOperatorChar ·) with
  | [] => (key? cs).map .present
  | c :: rest =>
    if before = [] ∧ c = '!' ∧ rest.head? ≠ some '=' then (key? rest).map .absent
    else
      (Operator.split? (c :: rest)).bind fun split =>
        (key? before).bind fun key =>
          if Text.trim split.2 = [] then none else some (.related key split.1 (Text.trim split.2))

theorem key?_eq_some_iff {cs key : List Char} :
    key? cs = some key ↔ IsKey key ∧ ∃ before after, Blank before ∧ Blank after ∧
      cs = before ++ key ++ after := by
  unfold key?
  constructor
  · intro read
    split at read
    · rename_i isKey
      obtain rfl := Option.some.inj read
      exact ⟨⟨isKey.1, List.all_eq_true.mp isKey.2⟩, Text.exists_padding cs⟩
    · cases read
  · rintro ⟨isKey, before, after, blank, blank', rfl⟩
    rw [Text.trim_padded blank blank' isKey.tight, if_pos ⟨isKey.1, List.all_eq_true.mpr isKey.2⟩]

theorem key?_padded {before key after : List Char} (isKey : IsKey key) (blank : Blank before)
    (blank' : Blank after) : key? (before ++ key ++ after) = some key :=
  key?_eq_some_iff.mpr ⟨isKey, before, after, blank, blank', rfl⟩

theorem read?_of_plain {cs : List Char} (plain : ∀ c ∈ cs, isOperatorChar c = false) :
    Term.read? cs = (key? cs).map .present := by
  have dropped : cs.dropWhile (!isOperatorChar ·) = [] :=
    List.dropWhile_eq_nil_iff.mpr fun c among => by simp [plain c among]
  rw [Term.read?, dropped]

theorem read?_of_operator {before rest : List Char} {c : Char}
    (plain : ∀ c ∈ before, isOperatorChar c = false) (operates : isOperatorChar c = true) :
    Term.read? (before ++ c :: rest) =
      if before = [] ∧ c = '!' ∧ rest.head? ≠ some '=' then (key? rest).map .absent
      else
        (Operator.split? (c :: rest)).bind fun split =>
          (key? before).bind fun key =>
            if Text.trim split.2 = [] then none else some (.related key split.1 (Text.trim split.2)) := by
  have passed : ∀ c ∈ before, (!isOperatorChar c) = true := fun c among => by simp [plain c among]
  have dropped : (before ++ c :: rest).dropWhile (!isOperatorChar ·) = c :: rest := by
    rw [List.dropWhile_append_of_pos passed, List.dropWhile_cons_of_neg (by simp [operates])]
  have taken : (before ++ c :: rest).takeWhile (!isOperatorChar ·) = before := by
    rw [List.takeWhile_append_of_pos passed, List.takeWhile_cons_of_neg (by simp [operates]),
      List.append_nil]
  rw [Term.read?, dropped, taken]

theorem plain_or_operator (cs : List Char) : (∀ c ∈ cs, isOperatorChar c = false) ∨
    ∃ before c rest, cs = before ++ c :: rest ∧ (∀ c ∈ before, isOperatorChar c = false) ∧
      isOperatorChar c = true := by
  induction cs with
  | nil => exact .inl (List.forall_mem_nil _)
  | cons a cs ih =>
    cases operates : isOperatorChar a with
    | true => exact .inr ⟨[], a, cs, rfl, List.forall_mem_nil _, operates⟩
    | false =>
      rcases ih with plain | ⟨before, c, rest, rfl, plain, operates'⟩
      · exact .inl (List.forall_mem_cons.mpr ⟨operates, plain⟩)
      · exact .inr ⟨a :: before, c, rest, rfl, List.forall_mem_cons.mpr ⟨operates, plain⟩, operates'⟩

theorem IsKey.plain {key : List Char} (isKey : IsKey key) : ∀ c ∈ key, isOperatorChar c = false :=
  fun c among => not_operator_of_isKeyChar (isKey.2 c among)

theorem plain_of_blank {gap : List Char} (space : Blank gap) : ∀ c ∈ gap, isOperatorChar c = false :=
  fun c among => not_operator_of_isBlank (space c among)

theorem read?_nil : Term.read? [] = none := read?_of_plain (List.forall_mem_nil _)

theorem Term.Spelled.read? {t : Term} {cs : List Char} (spelled : t.Spelled cs) :
    Term.read? (Text.trim cs) = some t := by
  cases spelled with
  | @present before key after isKey blank blank' =>
    rw [Text.trim_padded blank blank' isKey.tight, read?_of_plain isKey.plain]
    have read := key?_padded isKey Text.blank_nil Text.blank_nil
    rw [List.nil_append, List.append_nil] at read
    rw [read]
    rfl
  | @absent before gap key after isKey blank blank' space =>
    have mark : Tight ['!'] := Text.tight_of_forall (List.forall_mem_singleton.mpr (by decide))
    have tight : Tight ('!' :: gap ++ key) := mark.append isKey.tight (by simp) isKey.1 gap
    have alone : (gap ++ key).head? ≠ some '=' := by
      intro equal
      have plain := List.forall_mem_append.mpr ⟨plain_of_blank space, isKey.plain⟩
      exact absurd (plain '=' (List.mem_of_mem_head? equal)) (by decide)
    have read := key?_padded isKey space Text.blank_nil
    rw [List.append_nil] at read
    have marked := @read?_of_operator [] (gap ++ key) '!' (List.forall_mem_nil _) (by decide)
    rw [if_pos ⟨rfl, rfl, alone⟩, read] at marked
    rw [Text.trim_padded blank blank' tight]
    exact marked
  | @related before key gap gap' value after op isKey leads filled tight blank blank' space space' =>
    obtain ⟨c, symbol, same, operates⟩ := op.exists_symbol_eq_cons
    have whole : Tight (key ++ gap ++ (op.symbol ++ gap' ++ value)) := by
      have joined := isKey.tight.append tight isKey.1 filled (gap ++ (op.symbol ++ gap'))
      simpa only [List.append_assoc] using joined
    have split : Operator.split? (c :: (symbol ++ gap' ++ value)) = some (op, gap' ++ value) := by
      rw [Operator.split?_eq_some_iff, ← List.cons_append, ← List.cons_append, ← same]
      exact ⟨List.append_assoc _ _ _, leads⟩
    have keyed := key?_padded isKey Text.blank_nil space
    rw [List.nil_append] at keyed
    have valued : Text.trim (gap' ++ value) = value := by
      have padded := Text.trim_padded space' Text.blank_nil tight
      rwa [List.append_nil] at padded
    have read := @read?_of_operator (key ++ gap) (symbol ++ gap' ++ value) c
      (List.forall_mem_append.mpr ⟨isKey.plain, plain_of_blank space⟩) operates
    rw [if_neg (by simp [isKey.1]), split, Option.bind_some, keyed, Option.bind_some, valued,
      if_neg filled] at read
    rw [Text.trim_padded blank blank' whole, same]
    exact read

theorem Term.spelled_of_read? {t : Term} {cs : List Char}
    (read : Term.read? (Text.trim cs) = some t) : t.Spelled cs := by
  obtain ⟨before, after, blank, blank', same⟩ := Text.exists_padding cs
  rw [same]
  generalize Text.trim cs = part at read
  clear same
  rcases plain_or_operator part with plain | ⟨first, c, rest, rfl, plain, operates⟩
  · rw [read?_of_plain plain] at read
    obtain ⟨key, keyed, rfl⟩ := Option.map_eq_some_iff.mp read
    obtain ⟨isKey, gap, gap', space, space', rfl⟩ := key?_eq_some_iff.mp keyed
    have spelled := Spelled.present isKey (blank.append space) (space'.append blank')
    simpa only [List.append_assoc] using spelled
  · rw [read?_of_operator plain operates] at read
    split at read
    · rename_i marked
      obtain ⟨rfl, rfl, -⟩ := marked
      obtain ⟨key, keyed, rfl⟩ := Option.map_eq_some_iff.mp read
      obtain ⟨isKey, gap, gap', space, space', rfl⟩ := key?_eq_some_iff.mp keyed
      have spelled := Spelled.absent isKey blank (space'.append blank') space
      simpa only [List.append_assoc, List.nil_append, List.cons_append] using spelled
    · obtain ⟨⟨op, valued⟩, split, read⟩ := Option.bind_eq_some_iff.mp read
      obtain ⟨key, keyed, read⟩ := Option.bind_eq_some_iff.mp read
      split at read
      · cases read
      · rename_i filled
        obtain rfl := Option.some.inj read
        obtain ⟨begins, leads⟩ := Operator.split?_eq_some_iff.mp split
        obtain ⟨isKey, gap₁, gap₂, space₁, space₂, rfl⟩ := key?_eq_some_iff.mp keyed
        obtain ⟨gap₃, gap₄, space₃, space₄, around⟩ := Text.exists_padding valued
        have tight := Text.tight_trim valued
        generalize Text.trim valued = value at filled tight around
        subst around
        rw [begins] at leads ⊢
        have leads : op.Leads (op.symbol ++ gap₃ ++ value) := by
          have parted : op.Leads ((op.symbol ++ gap₃ ++ value) ++ gap₄) := by
            simpa only [List.append_assoc] using leads
          refine parted.of_append ?_
          rw [List.append_assoc]
          exact List.prefix_append _ _
        have spelled := Spelled.related isKey leads filled tight (blank.append space₁)
          (space₄.append blank') space₂ space₃
        simpa only [List.append_assoc] using spelled

theorem exists_splitCommas_eq_cons (cs : List Char) :
    ∃ part parts, splitCommas cs = part :: parts := by
  induction cs with
  | nil => exact ⟨_, _, rfl⟩
  | cons c cs ih =>
    obtain ⟨part, parts, same⟩ := ih
    rw [splitCommas, same]
    dsimp only
    split <;> exact ⟨_, _, rfl⟩

theorem splitCommas_cons (c : Char) (cs : List Char) :
    splitCommas (c :: cs) = if c = ',' then [] :: splitCommas cs else
      (c :: (splitCommas cs).headD []) :: (splitCommas cs).tail := by
  obtain ⟨part, parts, same⟩ := exists_splitCommas_eq_cons cs
  rw [splitCommas, same]
  rfl

theorem splitCommas_append {part : List Char} (plain : ',' ∉ part) (cs : List Char) :
    splitCommas (part ++ ',' :: cs) = part :: splitCommas cs := by
  induction part with
  | nil => rw [List.nil_append, splitCommas_cons, if_pos rfl]
  | cons c part ih =>
    rw [List.cons_append, splitCommas_cons, if_neg (List.ne_of_not_mem_cons plain).symm,
      ih (List.not_mem_of_not_mem_cons plain)]
    rfl

theorem splitCommas_of_plain {part : List Char} (plain : ',' ∉ part) : splitCommas part = [part] := by
  induction part with
  | nil => rfl
  | cons c part ih =>
    rw [splitCommas_cons, if_neg (List.ne_of_not_mem_cons plain).symm,
      ih (List.not_mem_of_not_mem_cons plain)]
    rfl

theorem splitCommas_intercalate {parts : List (List Char)} (some : parts ≠ [])
    (plain : ∀ part ∈ parts, ',' ∉ part) : splitCommas ([','].intercalate parts) = parts := by
  induction parts with
  | nil => exact absurd rfl some
  | cons part parts ih =>
    obtain ⟨here, later⟩ := List.forall_mem_cons.mp plain
    cases parts with
    | nil =>
      rw [List.intercalate_singleton]
      exact splitCommas_of_plain here
    | cons next parts =>
      rw [List.intercalate_cons_cons, List.append_assoc]
      exact (splitCommas_append here _).trans (congrArg _ (ih (List.cons_ne_nil _ _) later))

theorem splitCommas_spec (cs : List Char) : (∀ part ∈ splitCommas cs, ',' ∉ part) ∧
    cs = [','].intercalate (splitCommas cs) := by
  induction cs with
  | nil => exact ⟨List.forall_mem_singleton.mpr (by simp), rfl⟩
  | cons c cs ih =>
    obtain ⟨part, parts, same⟩ := exists_splitCommas_eq_cons cs
    rw [same] at ih
    obtain ⟨plain, joined⟩ := ih
    rw [splitCommas_cons, same]
    by_cases comma : c = ','
    · rw [if_pos comma, List.intercalate_cons_cons, ← joined]
      subst comma
      exact ⟨List.forall_mem_cons.mpr ⟨by simp, plain⟩, rfl⟩
    · rw [if_neg comma]
      obtain ⟨here, later⟩ := List.forall_mem_cons.mp plain
      refine ⟨List.forall_mem_cons.mpr
        ⟨List.not_mem_cons_of_ne_of_not_mem (Ne.symm comma) here, later⟩, ?_⟩
      cases parts with
      | nil =>
        change c :: cs = [','].intercalate [c :: part]
        rw [List.intercalate_singleton, joined, List.intercalate_singleton]
      | cons next parts =>
        change c :: cs = [','].intercalate ((c :: part) :: next :: parts)
        rw [List.intercalate_cons_cons, joined, List.intercalate_cons_cons]
        rfl

theorem PartsSpell.eq_filterMap {parts : List (List Char)} {terms : List Term}
    (spell : PartsSpell parts terms) :
    terms = parts.filterMap fun part => Term.read? (Text.trim part) := by
  induction spell with
  | nil => rfl
  | blank blank _ ih =>
    rw [List.filterMap_cons_none (by rw [Text.trim_eq_nil_iff.mpr blank, read?_nil])]
    exact ih
  | term spelled _ ih =>
    simp only [List.filterMap_cons, spelled.read?]
    exact congrArg _ ih

theorem spells_iff {text : String} {terms : List Term} :
    Spells text terms ↔ PartsSpell (splitCommas text.toList) terms := by
  constructor
  · rintro ⟨parts, some, plain, joined, spell⟩
    rw [joined, splitCommas_intercalate some plain]
    exact spell
  · intro spell
    obtain ⟨plain, joined⟩ := splitCommas_spec text.toList
    obtain ⟨part, parts, same⟩ := exists_splitCommas_eq_cons text.toList
    exact ⟨_, by simp [same], plain, joined, spell⟩

end Selector

end Reconciler
