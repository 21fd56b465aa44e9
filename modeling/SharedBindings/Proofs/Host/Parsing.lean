import SharedBindings.Host.Settings
import SharedBindings.Proofs.Text.Padding

/-!
# Settings from texts

A text chooses the value of the word that it spells, and a missing text leaves the default. Parsing
fails just if one of the texts spells no word of its setting, and then the error carries that text as
it was given. So padding and letter case never make a difference to the settings.
-/

namespace SharedBindings.Settings

/-- What a setting is by its text. -/
inductive Reads {α : Type} (words : List (String × α)) (default : α) : Option String → α → Prop
  | missing : Reads words default none default
  | spelled {word text : String} {chosen : α} (listed : (word, chosen) ∈ words)
      (spells : Text.Spells word text) : Reads words default (some text) chosen

/-- A text that is given and spells none of the words. -/
def Misspelled {α : Type} (words : List (String × α)) (text? : Option String) (text : String) : Prop :=
  text? = some text ∧ ∀ pair ∈ words, ¬ Text.Spells pair.1 text

/-- Words that no two texts confuse. -/
structure Dictionary {α : Type} (words : List (String × α)) : Prop where
  distinct : (words.map Prod.fst).Nodup
  plain : ∀ pair ∈ words, Text.IsPlain pair.1

section Words

variable {α : Type} {words : List (String × α)} {setting : Setting} {default value : α}
  {text? other? : Option String} {text : String} {problem : HostError}

theorem Dictionary.lookup_eq_some_iff (dictionary : Dictionary words) :
    Entries.lookup (Text.bareWord text) words = some value ↔
      ∃ word, (word, value) ∈ words ∧ Text.Spells word text := by
  rw [← Entries.mem_iff_lookup dictionary.distinct]
  constructor
  · intro listed
    exact ⟨_, listed, (dictionary.plain _ listed).spells_iff.mpr rfl⟩
  · intro ⟨word, listed, spells⟩
    rwa [(dictionary.plain _ listed).spells_iff.mp spells]

theorem Dictionary.lookup_eq_none_iff (dictionary : Dictionary words) :
    Entries.lookup (Text.bareWord text) words = none ↔
      ∀ pair ∈ words, ¬ Text.Spells pair.1 text := by
  rw [Option.eq_none_iff_forall_ne_some]
  constructor
  · intro nothing pair listed spells
    exact nothing pair.2 (dictionary.lookup_eq_some_iff.mpr ⟨pair.1, listed, spells⟩)
  · intro misspelled chosen found
    obtain ⟨word, listed, spells⟩ := dictionary.lookup_eq_some_iff.mp found
    exact misspelled (word, chosen) listed spells

theorem Dictionary.readWord_eq_ok_iff (dictionary : Dictionary words) :
    readWord words setting default text? = .ok value ↔ Reads words default text? value := by
  cases text? with
  | none =>
      rw [readWord, Except.ok.injEq]
      constructor
      · intro isDefault
        exact isDefault ▸ .missing
      · intro reads
        cases reads
        rfl
  | some text =>
      have reads : Reads words default (some text) value ↔
          ∃ word, (word, value) ∈ words ∧ Text.Spells word text := by
        constructor
        · intro reads
          cases reads with
          | spelled listed spells => exact ⟨_, listed, spells⟩
        · intro ⟨_, listed, spells⟩
          exact .spelled listed spells
      rw [readWord, reads, ← dictionary.lookup_eq_some_iff]
      cases Entries.lookup (Text.bareWord text) words <;> simp

theorem Dictionary.readWord_eq_error_iff (dictionary : Dictionary words) :
    readWord words setting default text? = .error problem ↔
      ∃ text, Misspelled words text? text ∧ problem = .invalidSetting setting text := by
  cases text? with
  | none => simp [readWord, Misspelled]
  | some text =>
      simp only [readWord, Misspelled, Option.some.injEq, ← dictionary.lookup_eq_none_iff]
      cases found : Entries.lookup (Text.bareWord text) words with
      | none =>
          rw [Except.error.injEq]
          constructor
          · intro same
            exact ⟨text, ⟨rfl, found⟩, same.symm⟩
          · intro misspelled
            obtain ⟨_, ⟨same, _⟩, isProblem⟩ := misspelled
            rw [isProblem, same]
      | some chosen =>
          constructor
          · intro refused
            contradiction
          · intro misspelled
            obtain ⟨_, ⟨same, nothing⟩, _⟩ := misspelled
            rw [← same, found] at nothing
            contradiction

theorem readWord_of_restyled (restyled : Option.Rel Text.Spells text? other?) :
    readWord words setting default other? = .ok value ↔
      readWord words setting default text? = .ok value := by
  cases restyled with
  | none => exact Iff.rfl
  | some spells =>
      rw [readWord, readWord, Text.bareWord_eq_of_spells spells]
      cases Entries.lookup _ words <;> simp

theorem Dictionary.not_reads (dictionary : Dictionary words)
    (foreign : Text.HasInnerBlank text.toList ∨
      ∃ character ∈ text.toList, ¬ Text.IsBlank character ∧ 128 ≤ character.toNat) :
    ¬ Reads words default (some text) value := by
  intro reads
  cases reads with
  | spelled listed spells =>
      have plain := dictionary.plain _ listed
      rcases foreign with inner | ⟨character, member, solid, beyond⟩
      · exact plain.not_spells_of_hasInnerBlank inner spells
      · exact plain.not_spells_of_not_ascii member solid beyond spells

end Words

theorem dictionary_lazinessWords : Dictionary lazinessWords :=
  ⟨by decide, by decide⟩

theorem dictionary_localPolicyWords : Dictionary localPolicyWords :=
  ⟨by decide, by decide⟩

/-- What parsing makes of two texts that may be missing. -/
structure ParseOutcome (text? : Setting → Option String) (result : Except HostError Settings) :
    Prop where
  accepted : ∀ settings, result = .ok settings ↔
    Reads [("1", true), ("true", true), ("yes", true), ("0", false), ("false", false), ("no", false)]
        true (text? .laziness) settings.lazy ∧
      Reads [("transient", LocalPolicy.transient), ("persistent", .persistent),
        ("global", .globalBacked)] .transient (text? .localPolicy) settings.localPolicy
  /-- Laziness is complained about first, and the text of the complaint is the given one. -/
  refused : ∀ problem, result = .error problem ↔
    (∃ text, Misspelled lazinessWords (text? .laziness) text ∧
        problem = .invalidSetting .laziness text) ∨
      (∀ text, ¬ Misspelled lazinessWords (text? .laziness) text) ∧
        ∃ text, Misspelled localPolicyWords (text? .localPolicy) text ∧
          problem = .invalidSetting .localPolicy text
  anyStyle : ∀ other? : Setting → Option String,
    (∀ setting, Option.Rel Text.Spells (text? setting) (other? setting)) →
      ∀ settings, parse other? = .ok settings ↔ result = .ok settings
  exact : ∀ setting text, text? setting = some text →
    (Text.HasInnerBlank text.toList ∨
      ∃ character ∈ text.toList, ¬ Text.IsBlank character ∧ 128 ≤ character.toNat) →
    ∀ settings, result ≠ .ok settings

variable {text? other? : Setting → Option String} {settings : Settings} {problem : HostError}

theorem parse_eq_ok_iff_readWord :
    parse text? = .ok settings ↔
      readWord lazinessWords .laziness true (text? .laziness) = .ok settings.lazy ∧
        readWord localPolicyWords .localPolicy .transient (text? .localPolicy) =
          .ok settings.localPolicy := by
  rw [parse]
  cases readWord lazinessWords .laziness true (text? .laziness) with
  | error problem => simp
  | ok lazy =>
      cases readWord localPolicyWords .localPolicy .transient (text? .localPolicy) with
      | error problem => simp
      | ok localPolicy =>
          obtain ⟨givenLazy, givenPolicy⟩ := settings
          simp

theorem parse_eq_error_iff_readWord :
    parse text? = .error problem ↔
      readWord lazinessWords .laziness true (text? .laziness) = .error problem ∨
        (∀ earlier, readWord lazinessWords .laziness true (text? .laziness) ≠ .error earlier) ∧
          readWord localPolicyWords .localPolicy .transient (text? .localPolicy) = .error problem := by
  rw [parse]
  cases readWord lazinessWords .laziness true (text? .laziness) with
  | error earlier => simp
  | ok lazy =>
      cases readWord localPolicyWords .localPolicy .transient (text? .localPolicy) <;> simp

theorem parse_eq_ok_iff :
    parse text? = .ok settings ↔
      Reads lazinessWords true (text? .laziness) settings.lazy ∧
        Reads localPolicyWords .transient (text? .localPolicy) settings.localPolicy := by
  rw [parse_eq_ok_iff_readWord, dictionary_lazinessWords.readWord_eq_ok_iff,
    dictionary_localPolicyWords.readWord_eq_ok_iff]

theorem parse_eq_error_iff :
    parse text? = .error problem ↔
      (∃ text, Misspelled lazinessWords (text? .laziness) text ∧
          problem = .invalidSetting .laziness text) ∨
        (∀ text, ¬ Misspelled lazinessWords (text? .laziness) text) ∧
          ∃ text, Misspelled localPolicyWords (text? .localPolicy) text ∧
            problem = .invalidSetting .localPolicy text := by
  have noEarlier :
      (∀ earlier, readWord lazinessWords .laziness true (text? .laziness) ≠ .error earlier) ↔
        ∀ text, ¬ Misspelled lazinessWords (text? .laziness) text := by
    simp only [ne_eq, dictionary_lazinessWords.readWord_eq_error_iff]
    constructor
    · intro none text misspelled
      exact none _ ⟨text, misspelled, rfl⟩
    · intro none earlier ⟨text, misspelled, _⟩
      exact none text misspelled
  rw [parse_eq_error_iff_readWord, noEarlier, dictionary_lazinessWords.readWord_eq_error_iff,
    dictionary_localPolicyWords.readWord_eq_error_iff]

/-- Settings are read exactly, but for padding and letter case. -/
theorem parse_exact (text? : Setting → Option String) : ParseOutcome text? (parse text?) where
  accepted _ := parse_eq_ok_iff
  refused _ := parse_eq_error_iff
  anyStyle other? restyled settings := by
    rw [parse_eq_ok_iff_readWord, parse_eq_ok_iff_readWord,
      readWord_of_restyled (restyled .laziness), readWord_of_restyled (restyled .localPolicy)]
  exact setting text given foreign settings parsed := by
    obtain ⟨lazy, localPolicy⟩ := parse_eq_ok_iff.mp parsed
    cases setting with
    | laziness => exact dictionary_lazinessWords.not_reads foreign (given ▸ lazy)
    | localPolicy => exact dictionary_localPolicyWords.not_reads foreign (given ▸ localPolicy)

end SharedBindings.Settings
