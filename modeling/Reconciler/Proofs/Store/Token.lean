import Mathlib.Data.List.TakeWhile
import Reconciler.Proofs.Store.Listing

/-!
Keys and their texts, which name the place where a listing goes on. Every text is that of the key
read from it; a key is read back from its text unless a slash stands where the text would be cut
before the namespace is over.
-/

set_option autoImplicit false

namespace Reconciler.ObjectKey

/-- The first slash of the text, if there is one, stands between the namespace and the name. -/
structure Unslashed (key : ObjectKey) : Prop where
  space : ∀ ns, key.namespaceName = some ns → '/' ∉ ns.toList
  name : key.namespaceName = none → '/' ∉ key.name.toList

/-- How a text is read: cut at its first slash, or as a name where it has none. -/
theorem parse_cases (text : String) :
    (∃ ns name, '/' ∉ ns.toList ∧ text = ns ++ "/" ++ name ∧ parse text = inNamespace ns name) ∨
      '/' ∉ text.toList ∧ parse text = ⟨none, text⟩ := by
  have whole : text.toList.takeWhile (· ≠ '/') ++ text.toList.dropWhile (· ≠ '/') = text.toList :=
    List.takeWhile_append_dropWhile
  cases cut : text.toList.dropWhile (· ≠ '/') with
  | nil =>
    refine .inr ⟨fun slash => ?_, ?_⟩
    · have plain := List.dropWhile_eq_nil_iff.mp cut '/' slash
      simp at plain
    · simp only [parse, cut]
  | cons c name =>
    have slash : c = '/' := by
      have there : text.toList.dropWhile (· ≠ '/') ≠ [] := by
        rw [cut]
        exact List.cons_ne_nil c name
      have first := List.head_dropWhile_not _ there
      simp only [cut, List.head_cons] at first
      simpa using first
    subst slash
    refine .inl ⟨String.ofList (text.toList.takeWhile (· ≠ '/')), String.ofList name, ?_, ?_, ?_⟩
    · rw [String.toList_ofList]
      intro slash
      have plain := List.mem_takeWhile_imp slash
      simp at plain
    · rw [cut] at whole
      apply String.toList_inj.mp
      simpa using whole.symm
    · simp only [parse, cut, inNamespace]

theorem parse_inNamespace {ns : String} (plain : '/' ∉ ns.toList) (name : String) :
    parse (ns ++ "/" ++ name) = inNamespace ns name := by
  have kept : ∀ c ∈ ns.toList, (decide (c ≠ '/')) = true := by
    intro c among
    refine decide_eq_true fun slash => plain ?_
    exact slash ▸ among
  have letters : (ns ++ "/" ++ name).toList = ns.toList ++ '/' :: name.toList := by simp
  have before : (ns ++ "/" ++ name).toList.takeWhile (· ≠ '/') = ns.toList := by
    rw [letters, List.takeWhile_append_of_pos kept]
    simp
  have after : (ns ++ "/" ++ name).toList.dropWhile (· ≠ '/') = '/' :: name.toList := by
    rw [letters, List.dropWhile_append_of_pos kept]
    simp
  simp only [parse, before, after, String.ofList_toList, inNamespace]

theorem parse_of_unslashed {text : String} (plain : '/' ∉ text.toList) :
    parse text = ⟨none, text⟩ := by
  rcases parse_cases text with ⟨ns, name, -, rfl, -⟩ | ⟨-, read⟩
  · exact absurd (by simp) plain
  · exact read

theorem text_parse (text : String) : (parse text).text = text := by
  rcases parse_cases text with ⟨ns, name, -, cut, read⟩ | ⟨-, read⟩
  · rw [read, cut]
    rfl
  · rw [read]
    rfl

theorem unslashed_inNamespace {ns : String} (plain : '/' ∉ ns.toList) (name : String) :
    (inNamespace ns name).Unslashed where
  space ns' same := by
    obtain rfl := Option.some.inj same
    exact plain
  name absent := nomatch absent

theorem unslashed_of_name {name : String} (plain : '/' ∉ name.toList) :
    (⟨none, name⟩ : ObjectKey).Unslashed where
  space _ absent := nomatch absent
  name _ := plain

theorem unslashed_parse (text : String) : (parse text).Unslashed := by
  rcases parse_cases text with ⟨ns, name, plain, -, read⟩ | ⟨plain, read⟩
  · rw [read]
    exact unslashed_inNamespace plain name
  · rw [read]
    exact unslashed_of_name plain

theorem told_iff (key : ObjectKey) : key.Told ↔ key.Unslashed := by
  constructor
  · intro told
    rw [← told]
    exact unslashed_parse key.text
  · rintro ⟨space, name⟩
    rcases key with ⟨- | ns, n⟩
    · exact parse_of_unslashed (name rfl)
    · exact parse_inNamespace (space ns rfl) n

/-- A text is that of the key read from it. A key is read back from its text if and only if there
is no slash in its namespace or, where it has none, in its name; no two of these keys have the
same text. -/
theorem read_back_iff_unslashed :
    (∀ text, (parse text).text = text) ∧
    (∀ key : ObjectKey, parse key.text = key ↔ key.Unslashed) ∧
    ∀ key key' : ObjectKey, key.Unslashed → key'.Unslashed → key.text = key'.text → key = key' := by
  refine ⟨text_parse, told_iff, ?_⟩
  intro key key' unslashed unslashed' same
  calc key = parse key.text := ((told_iff key).mpr unslashed).symm
    _ = parse key'.text := congrArg parse same
    _ = key' := (told_iff key').mpr unslashed'

/-- Of two keys with the same text, the one whose slash is in its name is read back; an empty
namespace is told from none. -/
theorem slash_read_back_in_name :
    text ⟨some "a", "b/c"⟩ = text ⟨some "a/b", "c"⟩ ∧
      parse (text ⟨some "a", "b/c"⟩) = ⟨some "a", "b/c"⟩ ∧
      parse (text ⟨some "a/b", "c"⟩) ≠ ⟨some "a/b", "c"⟩ ∧
      text ⟨some "", "a"⟩ ≠ text ⟨none, "a"⟩ := by
  obtain ⟨-, reads, apart⟩ := read_back_iff_unslashed
  refine ⟨by decide, (reads _).mpr (unslashed_inNamespace (by decide) "b/c"), ?_, ?_⟩
  · intro read
    exact ((reads ⟨some "a/b", "c"⟩).mp read).space "a/b" rfl (by decide)
  · intro same
    have alike := apart ⟨some "", "a"⟩ ⟨none, "a"⟩ (unslashed_inNamespace (by decide) "a")
      (unslashed_of_name (by decide)) same
    cases alike

end Reconciler.ObjectKey
