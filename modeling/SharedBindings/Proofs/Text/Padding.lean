import Mathlib.Data.List.TakeWhile
import SharedBindings.Text.WhiteSpace

/-!
# Words under padding and letter case

A text spells a word if the word is what stands between white space in it, up to the case of ASCII
letters. A plain word is spelled by just the texts of which it is the bare word. No text that has white
space inside, or a character beyond ASCII that is not white space, spells a plain word.
-/

namespace SharedBindings.Text

/-- The code points of Unicode with the property `White_Space`. -/
def whiteSpaceCodes : List Nat :=
  [0x0009, 0x000A, 0x000B, 0x000C, 0x000D, 0x0020, 0x0085, 0x00A0, 0x1680, 0x2000, 0x2001, 0x2002,
    0x2003, 0x2004, 0x2005, 0x2006, 0x2007, 0x2008, 0x2009, 0x200A, 0x2028, 0x2029, 0x202F, 0x205F,
    0x3000]

def IsBlank (character : Char) : Prop :=
  character.toNat ∈ whiteSpaceCodes

/-- A text that is another one with white space around it. -/
def Pads (core text : List Char) : Prop :=
  ∃ left right, text = left ++ core ++ right ∧ (∀ character ∈ left, IsBlank character) ∧
    ∀ character ∈ right, IsBlank character

/-- A text that is a word with white space around it and in any letter case. -/
def Spells (word text : String) : Prop :=
  ∃ core, Pads core text.toList ∧ core.map Char.toLower = word.toList.map Char.toLower

/-- A word of small ASCII letters, digits and signs. -/
def IsPlain (word : String) : Prop :=
  ∀ character ∈ word.toList,
    ¬ IsBlank character ∧ character.toLower = character ∧ character.toNat < 128

instance : DecidablePred IsBlank := fun character =>
  inferInstanceAs (Decidable (character.toNat ∈ whiteSpaceCodes))

instance : DecidablePred IsPlain := fun word =>
  List.decidableBAll
    (fun character => ¬ IsBlank character ∧ character.toLower = character ∧ character.toNat < 128)
    word.toList

/-- White space that has something else on either side of it. -/
def HasInnerBlank (text : List Char) : Prop :=
  ∃ left blank right, text = left ++ blank :: right ∧ IsBlank blank ∧
    (∃ character ∈ left, ¬ IsBlank character) ∧ ∃ character ∈ right, ¬ IsBlank character

variable {character : Char} {core text left right : List Char} {word spelled : String}

theorem isWhiteSpace_iff : isWhiteSpace character = true ↔ IsBlank character := by
  simp only [isWhiteSpace, whiteSpaceRanges, IsBlank, whiteSpaceCodes, List.any_cons, List.any_nil,
    Bool.or_eq_true, Bool.and_eq_true, decide_eq_true_eq, Bool.or_false, List.mem_cons,
    List.not_mem_nil, or_false]
  omega

theorem toNat_toLower (character : Char) :
    character.toLower = character ∨
      65 ≤ character.toNat ∧ character.toNat ≤ 90 ∧
        character.toLower.toNat = character.toNat + 32 := by
  have smallest : 'A'.val.toNat = 65 := rfl
  have greatest : 'Z'.val.toNat = 90 := rfl
  unfold Char.toLower
  split
  · rename_i upper
    simp only [ge_iff_le, UInt32.le_iff_toNat_le, smallest, greatest] at upper
    refine .inr ⟨upper.1, upper.2, ?_⟩
    have distance : ('a'.val - 'A'.val).toNat = 32 := rfl
    change (character.val + ('a'.val - 'A'.val)).toNat = character.val.toNat + 32
    rw [UInt32.toNat_add, distance]
    omega
  · exact .inl rfl

theorem isWhiteSpace_toLower (character : Char) :
    isWhiteSpace character.toLower = isWhiteSpace character := by
  rcases toNat_toLower character with same | ⟨lowest, highest, moved⟩
  · rw [same]
  · rw [Bool.eq_iff_iff, isWhiteSpace_iff, isWhiteSpace_iff, IsBlank, IsBlank, moved]
    simp only [whiteSpaceCodes, List.mem_cons, List.not_mem_nil, or_false]
    omega

theorem toLower_of_not_ascii (beyond : 128 ≤ character.toNat) :
    character.toLower = character := by
  rcases toNat_toLower character with same | ⟨_, highest, _⟩
  · exact same
  · omega

theorem trim_append_of_blank (blank : ∀ character ∈ right, isWhiteSpace character = true) :
    trim (core ++ right) = trim core := by
  rw [trim, trim, List.dropWhile_append]
  by_cases allBlank : (core.dropWhile isWhiteSpace).isEmpty = true
  · rw [if_pos allBlank, List.isEmpty_iff.mp allBlank, List.dropWhile_eq_nil_iff.mpr blank]
  · rw [if_neg allBlank, List.reverse_append, List.dropWhile_append_of_pos]
    intro character member
    exact blank character (List.mem_reverse.mp member)

theorem trim_of_pads (pads : Pads core text) : trim text = trim core := by
  obtain ⟨left, right, rfl, blankLeft, blankRight⟩ := pads
  have dropped : trim (left ++ core) = trim core := by
    rw [trim, trim, List.dropWhile_append_of_pos]
    exact fun character member => isWhiteSpace_iff.mpr (blankLeft character member)
  rw [trim_append_of_blank, dropped]
  exact fun character member => isWhiteSpace_iff.mpr (blankRight character member)

theorem pads_trim (text : List Char) : Pads (trim text) text := by
  let rest := text.dropWhile isWhiteSpace
  have front : text.takeWhile isWhiteSpace ++ rest = text := List.takeWhile_append_dropWhile
  have back : trim text ++ (rest.reverse.takeWhile isWhiteSpace).reverse = rest := by
    rw [trim, ← List.reverse_append, List.takeWhile_append_dropWhile, List.reverse_reverse]
  refine ⟨text.takeWhile isWhiteSpace, (rest.reverse.takeWhile isWhiteSpace).reverse, ?_,
    fun character member => ?_, fun character member => ?_⟩
  · rw [List.append_assoc, back, front]
  · exact isWhiteSpace_iff.mp (List.mem_takeWhile_imp member)
  · exact isWhiteSpace_iff.mp (List.mem_takeWhile_imp (List.mem_reverse.mp member))

theorem trim_of_no_blank (solid : ∀ character ∈ core, ¬ IsBlank character) : trim core = core := by
  have kept {part : List Char} (within : part ⊆ core) : part.dropWhile isWhiteSpace = part := by
    refine List.dropWhile_eq_self_iff.mpr fun nonempty blank => ?_
    exact solid _ (within (List.getElem_mem nonempty)) (isWhiteSpace_iff.mp blank)
  rw [trim, kept (List.Subset.refl core), kept fun _ => List.mem_reverse.mp, List.reverse_reverse]

theorem lower_trim (text : List Char) : lower (trim text) = trim (lower text) := by
  have blind : isWhiteSpace ∘ Char.toLower = isWhiteSpace := funext isWhiteSpace_toLower
  simp only [lower, trim, List.dropWhile_map, ← List.map_reverse, blind]

/-- Padding and letter case do not tell in the bare word of a text. -/
theorem bareWord_eq_of_spells (spells : Spells word spelled) : bareWord spelled = bareWord word := by
  obtain ⟨core, pads, sameLetters⟩ := spells
  have sameCore : lower core = lower word.toList := sameLetters
  rw [bareWord, bareWord, trim_of_pads pads, lower_trim, lower_trim, sameCore]

theorem IsPlain.lower_eq (plain : IsPlain word) : lower word.toList = word.toList := by
  rw [lower, List.map_congr_left fun character member => (plain character member).2.1, List.map_id']

theorem IsPlain.trim_eq (plain : IsPlain word) : trim word.toList = word.toList :=
  trim_of_no_blank fun character member => (plain character member).1

theorem IsPlain.bareWord_eq (plain : IsPlain word) : bareWord word = word := by
  rw [bareWord, plain.trim_eq, plain.lower_eq, String.ofList_toList]

theorem IsPlain.spells_iff (plain : IsPlain word) :
    Spells word spelled ↔ bareWord spelled = word := by
  constructor
  · intro spells
    rw [bareWord_eq_of_spells spells, plain.bareWord_eq]
  · intro isWord
    refine ⟨trim spelled.toList, pads_trim spelled.toList, ?_⟩
    change lower (trim spelled.toList) = lower word.toList
    rw [plain.lower_eq, ← isWord, bareWord, String.toList_ofList]

/-- Trimming stops at anything that is not white space. -/
theorem dropWhile_append_of_solid (solid : ∃ character ∈ left, ¬ IsBlank character) :
    (left ++ right).dropWhile isWhiteSpace = left.dropWhile isWhiteSpace ++ right := by
  rw [List.dropWhile_append, if_neg]
  intro nothing
  obtain ⟨character, member, notBlank⟩ := solid
  have allBlank := List.dropWhile_eq_nil_iff.mp (List.isEmpty_iff.mp nothing)
  exact notBlank (isWhiteSpace_iff.mp (allBlank character member))

theorem HasInnerBlank.exists_mem_trim (inner : HasInnerBlank text) :
    ∃ character ∈ trim text, IsBlank character := by
  obtain ⟨left, blank, right, rfl, isBlank, solidLeft, solidRight⟩ := inner
  have solidBack : ∃ character ∈ right.reverse, ¬ IsBlank character := by
    obtain ⟨character, member, solid⟩ := solidRight
    exact ⟨character, List.mem_reverse.mpr member, solid⟩
  refine ⟨blank, ?_, isBlank⟩
  rw [trim, dropWhile_append_of_solid solidLeft, List.reverse_append, List.reverse_cons,
    List.append_assoc, dropWhile_append_of_solid solidBack]
  simp

/-- What a text has besides white space at its ends is in every word that it spells. -/
theorem Spells.mem_lower_of_mem_trim (spells : Spells word spelled)
    (member : character ∈ trim spelled.toList) : character.toLower ∈ lower (trim word.toList) := by
  have sameWord : lower (trim spelled.toList) = lower (trim word.toList) := by
    have sameBare := bareWord_eq_of_spells spells
    rwa [bareWord, bareWord, String.ofList_inj] at sameBare
  exact sameWord ▸ List.mem_map_of_mem member

theorem mem_trim_of_not_blank (member : character ∈ text) (solid : ¬ IsBlank character) :
    character ∈ trim text := by
  obtain ⟨left, right, joined, blankLeft, blankRight⟩ := pads_trim text
  rw [joined, List.mem_append, List.mem_append] at member
  rcases member with (inLeft | inside) | inRight
  · exact absurd (blankLeft character inLeft) solid
  · exact inside
  · exact absurd (blankRight character inRight) solid

theorem IsPlain.toLower_mem (plain : IsPlain word) (spells : Spells word spelled)
    (member : character ∈ trim spelled.toList) : character.toLower ∈ word.toList := by
  have inWord := spells.mem_lower_of_mem_trim member
  rwa [plain.trim_eq, plain.lower_eq] at inWord

theorem IsPlain.not_spells_of_hasInnerBlank (plain : IsPlain word)
    (inner : HasInnerBlank spelled.toList) : ¬ Spells word spelled := by
  intro spells
  obtain ⟨blank, inside, isBlank⟩ := inner.exists_mem_trim
  have notBlank := (plain _ (plain.toLower_mem spells inside)).1
  rw [← isWhiteSpace_iff, isWhiteSpace_toLower, isWhiteSpace_iff] at notBlank
  exact notBlank isBlank

theorem IsPlain.not_spells_of_not_ascii (plain : IsPlain word) (member : character ∈ spelled.toList)
    (solid : ¬ IsBlank character) (beyond : 128 ≤ character.toNat) : ¬ Spells word spelled := by
  intro spells
  have inWord := plain.toLower_mem spells (mem_trim_of_not_blank member solid)
  rw [toLower_of_not_ascii beyond] at inWord
  have within := (plain character inWord).2.2
  omega

end SharedBindings.Text
