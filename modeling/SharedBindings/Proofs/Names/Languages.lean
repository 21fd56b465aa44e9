import Mathlib.Computability.Language
import Mathlib.Data.Char
import Mathlib.Order.Interval.Set.Basic
import SharedBindings.Proofs.Names.Spelling

/-!
# The languages of names

The names of a kind form a regular language over ASCII characters, and the check of a name is
membership in it. But for the two kinds of locals, which share theirs, no two of these languages have a
name in common, so it does not matter in which order the kinds are tried.
-/

open scoped Computability

namespace SharedBindings

namespace Names

/-- The texts of one character out of some. -/
def oneOf (characters : Set Char) : Language Char :=
  {text | ∃ character ∈ characters, text = [character]}

def letters : Set Char :=
  Set.Icc 'A' 'Z' ∪ Set.Icc 'a' 'z'

/-- The language `[A-Za-z_0-9]*`. -/
def continuations : Language Char :=
  (oneOf (letters ∪ {'_'} ∪ Set.Icc '0' '9'))∗

/-- The language `[A-Za-z_][A-Za-z_0-9]*`. -/
def words : Language Char :=
  oneOf (letters ∪ {'_'}) * continuations

variable {characters : Set Char} {rest : Language Char} {text tail : List Char}
  {first character : Char}

theorem nil_notMem_oneOf_mul : [] ∉ oneOf characters * rest := by
  intro member
  obtain ⟨_, ⟨_, _, rfl⟩, _, _, joined⟩ := Language.mem_mul.mp member
  contradiction

theorem cons_mem_oneOf_mul_iff :
    first :: tail ∈ oneOf characters * rest ↔ first ∈ characters ∧ tail ∈ rest := by
  rw [Language.mem_mul]
  constructor
  · intro ⟨_, ⟨character, allowed, single⟩, later, inRest, joined⟩
    rw [single, List.singleton_append] at joined
    obtain ⟨rfl, rfl⟩ := List.cons.inj joined
    exact ⟨allowed, inRest⟩
  · intro ⟨allowed, inRest⟩
    exact ⟨[first], ⟨first, allowed, rfl⟩, tail, inRest, rfl⟩

theorem mem_kstar_oneOf_iff :
    text ∈ (oneOf characters)∗ ↔ ∀ character ∈ text, character ∈ characters := by
  constructor
  · intro ⟨pieces, joined, single⟩ character member
    rw [joined, List.mem_flatten] at member
    obtain ⟨piece, inPieces, inPiece⟩ := member
    obtain ⟨only, allowed, isSingle⟩ := single piece inPieces
    rw [isSingle, List.mem_singleton] at inPiece
    exact inPiece ▸ allowed
  · intro allowed
    refine ⟨text.map fun character => [character], ?_, fun piece member => ?_⟩
    · rw [← List.flatMap_def, List.flatMap_singleton']
    · obtain ⟨character, inText, isSingle⟩ := List.mem_map.mp member
      exact ⟨character, allowed character inText, isSingle.symm⟩

theorem isUpper_iff_mem : character.isUpper = true ↔ character ∈ Set.Icc 'A' 'Z' :=
  decide_eq_true_iff

theorem isLower_iff_mem : character.isLower = true ↔ character ∈ Set.Icc 'a' 'z' := by
  change (decide ('a' ≤ character) && decide (character ≤ 'z')) = true ↔ _
  rw [Bool.and_eq_true, decide_eq_true_eq, decide_eq_true_eq, Set.mem_Icc]

theorem isDigit_iff_mem : character.isDigit = true ↔ character ∈ Set.Icc '0' '9' := by
  simp [Char.isDigit, Char.le_def]

theorem isAlpha_iff_mem : character.isAlpha = true ↔ character ∈ letters := by
  have letter : character.isAlpha = (character.isUpper || character.isLower) := rfl
  rw [letter, Bool.or_eq_true, isUpper_iff_mem, isLower_iff_mem, letters, Set.mem_union]

theorem opensWord_iff_mem : opensWord character = true ↔ character ∈ letters ∪ {'_'} := by
  rw [opensWord, Bool.or_eq_true, isAlpha_iff_mem, decide_eq_true_eq, Set.mem_union,
    Set.mem_singleton_iff]

theorem continuesWord_iff_mem :
    continuesWord character = true ↔ character ∈ letters ∪ {'_'} ∪ Set.Icc '0' '9' := by
  rw [continuesWord, Bool.or_eq_true, Char.isAlphanum, Bool.or_eq_true, isAlpha_iff_mem,
    isDigit_iff_mem, decide_eq_true_eq, or_right_comm, Set.mem_union, Set.mem_union,
    Set.mem_singleton_iff]

theorem all_continuesWord_iff_mem : text.all continuesWord = true ↔ text ∈ continuations := by
  rw [continuations, mem_kstar_oneOf_iff, List.all_eq_true]
  simp only [continuesWord_iff_mem]

theorem isWord_iff_mem : isWord text = true ↔ text ∈ words := by
  cases text with
  | nil => exact iff_of_false Bool.false_ne_true nil_notMem_oneOf_mul
  | cons first tail =>
      rw [isWord, Bool.and_eq_true, opensWord_iff_mem, all_continuesWord_iff_mem, words,
        cons_mem_oneOf_mul_iff]

end Names

namespace Kind

/-- The names of a kind. -/
def language : Kind → Language Char
  | .constant => Names.oneOf (Set.Icc 'A' 'Z') * Names.words
  | .globalVariable => Names.oneOf {'$'} * Names.words
  | .instanceVariable => Names.oneOf {'@'} * Names.words
  | .classVariable => Names.oneOf {'@'} * (Names.oneOf {'@'} * Names.words)
  | .localVariable | .localGlobal =>
      Names.oneOf (Set.Icc 'a' 'z' ∪ {'_'}) * Names.continuations

variable {kind other : Kind} {text : List Char} {name : String}

theorem isConstantWord_iff_mem :
    Names.isConstantWord text = true ↔ text ∈ Kind.constant.language := by
  cases text with
  | nil => exact iff_of_false Bool.false_ne_true Names.nil_notMem_oneOf_mul
  | cons first tail =>
      rw [Names.isConstantWord, Bool.and_eq_true, Names.isUpper_iff_mem, Names.isWord_iff_mem,
        language, Names.cons_mem_oneOf_mul_iff]

theorem isLocalWord_iff_mem :
    Names.isLocalWord text = true ↔ text ∈ Kind.localVariable.language := by
  cases text with
  | nil => exact iff_of_false Bool.false_ne_true Names.nil_notMem_oneOf_mul
  | cons first tail =>
      rw [Names.isLocalWord, Bool.and_eq_true, Bool.or_eq_true, Names.isLower_iff_mem,
        decide_eq_true_eq, Names.all_continuesWord_iff_mem, language, Names.cons_mem_oneOf_mul_iff,
        Set.mem_union, Set.mem_singleton_iff]

theorem sigil_mem_iff {sigil : Char} {rest : Language Char} :
    text ∈ Names.oneOf {sigil} * rest ↔ ∃ tail, text = sigil :: tail ∧ tail ∈ rest := by
  cases text with
  | nil => exact iff_of_false Names.nil_notMem_oneOf_mul (by simp)
  | cons first tail =>
      rw [Names.cons_mem_oneOf_mul_iff, Set.mem_singleton_iff]
      simp

theorem spells_iff_mem_language : kind.spells text = true ↔ text ∈ kind.language := by
  cases kind with
  | constant => rw [spells_constant, isConstantWord_iff_mem]
  | localVariable => rw [spells_localVariable, isLocalWord_iff_mem]
  | localGlobal => rw [spells_localGlobal, isLocalWord_iff_mem, language, language]
  | globalVariable =>
      simp only [spells_globalVariable_iff, Names.isWord_iff_mem, language, sigil_mem_iff]
  | instanceVariable =>
      simp only [spells_instanceVariable_iff, Names.isWord_iff_mem, language, sigil_mem_iff]
  | classVariable =>
      rw [spells_classVariable_iff, language, sigil_mem_iff]
      simp only [sigil_mem_iff, Names.isWord_iff_mem]
      constructor
      · intro ⟨rest, same, word⟩
        exact ⟨'@' :: rest, same, rest, rfl, word⟩
      · intro ⟨_, same, rest, again, word⟩
        exact ⟨rest, again ▸ same, word⟩

theorem accepts_iff_mem_language : kind.accepts name = true ↔ name.toList ∈ kind.language :=
  spells_iff_mem_language

/-- Two kinds that are not spelled alike have no name in common. -/
theorem notMem_language_of_unlike (unlike : kind.spelling ≠ other.spelling)
    (member : text ∈ kind.language) : text ∉ other.language := by
  intro alsoMember
  have spelled := spells_iff_mem_language.mpr member
  have alsoSpelled := spells_iff_mem_language.mpr alsoMember
  exact unlike ((spellingOf_of_spells spelled).symm.trans (spellingOf_of_spells alsoSpelled))

end Kind

namespace LocalPolicy

/-- What a name stands for if some kinds are tried: the one kind that has the name, if there is any, in
whichever order they are tried. -/
structure Classifies (kinds : List Kind) (name : String) (result : Option Kind) : Prop where
  found : ∀ kind, result = some kind ↔
    kind ∈ kinds ∧ name.toList ∈ kind.language ∧
      ∀ other ∈ kinds, name.toList ∈ other.language → other = kind
  missed : result = none ↔ ∀ kind ∈ kinds, name.toList ∉ kind.language
  anyOrder : ∀ order : List Kind, order.Perm kinds → order.find? (·.accepts name) = result

variable {policy : LocalPolicy} {name : String} {kind : Kind}

theorem classify_eq_none_iff :
    policy.classify name = none ↔ ∀ kind ∈ policy.candidateKinds, kind.accepts name = false := by
  simp [classify, List.find?_eq_none]

/-- No two kinds of a policy have a name in common. -/
theorem eq_of_accepts {other : Kind} (candidate : kind ∈ policy.candidateKinds)
    (accepted : kind.accepts name = true) (alsoCandidate : other ∈ policy.candidateKinds)
    (alsoAccepted : other.accepts name = true) : other = kind :=
  eq_of_mem_candidateKinds alsoCandidate candidate
    (Kind.spelling_eq_of_accepts alsoAccepted accepted)

theorem find?_eq_classify {order : List Kind} (sameKinds : order.Perm policy.candidateKinds) :
    order.find? (·.accepts name) = policy.classify name := by
  cases found : order.find? (·.accepts name) with
  | none =>
      refine (classify_eq_none_iff.mpr fun kind candidate => ?_).symm
      have refused := List.find?_eq_none.mp found kind (sameKinds.mem_iff.mpr candidate)
      simpa using refused
  | some kind =>
      have candidate := sameKinds.mem_iff.mp (List.mem_of_find?_eq_some found)
      exact (classify_eq_some_iff.mpr ⟨candidate, by simpa using List.find?_some found⟩).symm

theorem classifies (policy : LocalPolicy) (name : String) :
    Classifies policy.candidateKinds name (policy.classify name) where
  found kind := by
    simp only [classify_eq_some_iff, ← Kind.accepts_iff_mem_language]
    constructor
    · intro ⟨candidate, accepted⟩
      exact ⟨candidate, accepted, fun other => eq_of_accepts candidate accepted⟩
    · intro ⟨candidate, accepted, _⟩
      exact ⟨candidate, accepted⟩
  missed := by
    simp only [classify_eq_none_iff, ← Kind.accepts_iff_mem_language, Bool.not_eq_true]
  anyOrder _ := find?_eq_classify

end LocalPolicy

namespace Kind

/-- What a global is called by a host that uses local-style names. -/
structure NamesGlobal (global : String) (result : Option String) : Prop where
  found : ∀ name, result = some name ↔
    Kind.localGlobal.accepts name = true ∧ global = Kind.localGlobal.guestName name
  isGlobal : ∀ name, result = some name → Kind.globalVariable.accepts global = true

theorem namesGlobal (global : String) : NamesGlobal global (localNameOfGlobal? global) where
  found _ := localNameOfGlobal?_eq_some_iff
  isGlobal name isName := by
    obtain ⟨accepted, standsFor⟩ := localNameOfGlobal?_eq_some_iff.mp isName
    exact standsFor ▸ accepts_guestName_localGlobal accepted

end Kind

/-- Names are checked by their languages, classified by the one language that they are in, and a global
has a local-style name exactly if it is the global that this name stands for. -/
theorem names_follow_languages :
    (∀ (kind : Kind) (name : String), kind.accepts name = true ↔ name.toList ∈ kind.language) ∧
      [Kind.constant, .globalVariable, .instanceVariable, .classVariable, .localVariable].Pairwise
        (fun kind other => ∀ text, text ∈ kind.language → text ∉ other.language) ∧
      (∀ (policy : LocalPolicy) (name : String),
        LocalPolicy.Classifies
          [.classVariable, .instanceVariable, .globalVariable, .constant, policy.localKind] name
          (policy.classify name)) ∧
      ∀ global : String, Kind.NamesGlobal global (Kind.localNameOfGlobal? global) := by
  refine ⟨fun _ _ => Kind.accepts_iff_mem_language, ?_, LocalPolicy.classifies, Kind.namesGlobal⟩
  have unlike : [Kind.constant, .globalVariable, .instanceVariable, .classVariable,
      .localVariable].Pairwise fun kind other => kind.spelling ≠ other.spelling := by decide
  exact unlike.imp fun differ _ => Kind.notMem_language_of_unlike differ

end SharedBindings
