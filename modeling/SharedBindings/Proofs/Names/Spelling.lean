import SharedBindings.Names.LocalPolicy

/-!
# Spellings tell kinds apart

The start of a name tells how it is spelled, and but for the two kinds of locals no two kinds are
spelled alike. So a name has at most one kind under a policy, and of the kinds that are read back
after a unit no two share a name.
-/

namespace SharedBindings

namespace Names

theorem ne_sigil_of_opensWord {character : Char} (opens : opensWord character = true) :
    character ≠ '$' ∧ character ≠ '@' := by
  constructor
  · rintro rfl
    contradiction
  · rintro rfl
    contradiction

theorem isUpper_of_isLocalStart {character : Char}
    (start : (character.isLower || character = '_') = true) : character.isUpper = false := by
  simp only [Bool.or_eq_true, decide_eq_true_eq] at start
  rcases start with lower | rfl
  · unfold Char.isLower at lower
    unfold Char.isUpper
    simp only [Bool.and_eq_true, decide_eq_true_eq, decide_eq_false_iff_not,
      UInt32.le_iff_toNat_le, ge_iff_le] at lower ⊢
    have smallest : 'a'.val.toNat = 97 := rfl
    have greatest : 'Z'.val.toNat = 90 := rfl
    omega
  · decide

theorem opensWord_of_isWord {first : Char} {rest : List Char} (word : isWord (first :: rest) = true) :
    opensWord first = true := by
  simp only [isWord, Bool.and_eq_true] at word
  exact word.1

end Names

namespace Kind

theorem spells_globalVariable_iff {text : List Char} :
    Kind.globalVariable.spells text = true ↔ ∃ rest, text = '$' :: rest ∧ Names.isWord rest = true := by
  constructor
  · intro spelled
    unfold spells at spelled
    split at spelled <;> simp_all
  · rintro ⟨rest, rfl, word⟩
    exact word

theorem spells_instanceVariable_iff {text : List Char} :
    Kind.instanceVariable.spells text = true ↔
      ∃ rest, text = '@' :: rest ∧ Names.isWord rest = true := by
  constructor
  · intro spelled
    unfold spells at spelled
    split at spelled <;> simp_all
  · rintro ⟨rest, rfl, word⟩
    exact word

theorem spells_classVariable_iff {text : List Char} :
    Kind.classVariable.spells text = true ↔
      ∃ rest, text = '@' :: '@' :: rest ∧ Names.isWord rest = true := by
  constructor
  · intro spelled
    unfold spells at spelled
    split at spelled <;> simp_all
  · rintro ⟨rest, rfl, word⟩
    exact word

theorem spells_constant (text : List Char) :
    Kind.constant.spells text = Names.isConstantWord text := by
  cases text <;> rfl

theorem spells_localVariable (text : List Char) :
    Kind.localVariable.spells text = Names.isLocalWord text := by
  cases text <;> rfl

theorem spells_localGlobal (text : List Char) :
    Kind.localGlobal.spells text = Names.isLocalWord text := by
  cases text <;> rfl

/-- The kind that stands for all kinds with its spelling: a local-style name is spelled like a
local. -/
def spelling : Kind → Kind
  | .localVariable | .localGlobal => .localVariable
  | .instanceVariable => .instanceVariable
  | .classVariable => .classVariable
  | .globalVariable => .globalVariable
  | .constant => .constant

/-- The spelling that the start of a text points to. -/
def spellingOf : List Char → Kind
  | '$' :: _ => .globalVariable
  | '@' :: '@' :: _ => .classVariable
  | '@' :: _ => .instanceVariable
  | first :: _ => if first.isUpper then .constant else .localVariable
  | [] => .localVariable

theorem spellingOf_of_opensWord {first : Char} {rest : List Char}
    (opens : Names.opensWord first = true) :
    spellingOf (first :: rest) = if first.isUpper then .constant else .localVariable := by
  obtain ⟨noDollar, noAt⟩ := Names.ne_sigil_of_opensWord opens
  simp [spellingOf, noAt]

theorem spellingOf_of_isLocalWord {text : List Char} (word : Names.isLocalWord text = true) :
    spellingOf text = .localVariable := by
  match text with
  | [] => rfl
  | first :: rest =>
      simp only [Names.isLocalWord, Bool.and_eq_true] at word
      rw [spellingOf_of_opensWord (Names.opensWord_of_isLocalStart word.1),
        Names.isUpper_of_isLocalStart word.1]
      rfl

theorem spellingOf_of_isConstantWord {text : List Char} (word : Names.isConstantWord text = true) :
    spellingOf text = .constant := by
  match text with
  | [] => contradiction
  | first :: rest =>
      simp only [Names.isConstantWord, Bool.and_eq_true] at word
      have letter : first.isAlpha = (first.isUpper || first.isLower) := rfl
      have opens : Names.opensWord first = true := by
        simp [Names.opensWord, letter, word.1]
      rw [spellingOf_of_opensWord opens, if_pos word.1]

theorem spellingOf_of_spells {kind : Kind} {text : List Char} (spelled : kind.spells text = true) :
    spellingOf text = kind.spelling := by
  cases kind with
  | globalVariable =>
      obtain ⟨rest, rfl, _⟩ := spells_globalVariable_iff.mp spelled
      rfl
  | classVariable =>
      obtain ⟨rest, rfl, _⟩ := spells_classVariable_iff.mp spelled
      rfl
  | instanceVariable =>
      obtain ⟨rest, rfl, word⟩ := spells_instanceVariable_iff.mp spelled
      match rest with
      | [] => contradiction
      | first :: _ =>
          -- A word does not start with a sigil, so there is no second one.
          obtain ⟨_, noAt⟩ := Names.ne_sigil_of_opensWord (Names.opensWord_of_isWord word)
          simp [spellingOf, noAt, spelling]
  | constant => exact spellingOf_of_isConstantWord (spells_constant text ▸ spelled)
  | localVariable => exact spellingOf_of_isLocalWord (spells_localVariable text ▸ spelled)
  | localGlobal => exact spellingOf_of_isLocalWord (spells_localGlobal text ▸ spelled)

theorem spelling_eq_of_accepts {kind other : Kind} {name : String}
    (first : kind.accepts name = true) (second : other.accepts name = true) :
    kind.spelling = other.spelling :=
  (spellingOf_of_spells first).symm.trans (spellingOf_of_spells second)

theorem refuses_of_unlike {kind other : Kind} {name : String} (accepted : kind.accepts name = true)
    (unlike : other.spelling ≠ kind.spelling) : other.accepts name = false := by
  cases alsoAccepted : other.accepts name with
  | false => rfl
  | true => exact absurd (spelling_eq_of_accepts alsoAccepted accepted) unlike

/-- What a local-style name stands for is a global. -/
theorem accepts_guestName_localGlobal {name : String}
    (accepted : Kind.localGlobal.accepts name = true) :
    Kind.globalVariable.accepts (Kind.localGlobal.guestName name) = true := by
  have word : Names.isWord name.toList = true :=
    Names.isWord_of_isLocalWord (spells_localGlobal name.toList ▸ accepted)
  rw [accepts, guestName, String.toList_append]
  exact spells_globalVariable_iff.mpr ⟨name.toList, rfl, word⟩

theorem eq_constant_of_accepts {kind : Kind} {name : String} (accepted : kind.accepts name = true)
    (constant : Kind.constant.accepts name = true) : kind = .constant := by
  have alike := spelling_eq_of_accepts accepted constant
  cases kind <;> first | rfl | contradiction

theorem constant_refuses {kind : Kind} {name : String} (accepted : kind.accepts name = true)
    (different : kind ≠ .constant) : Kind.constant.accepts name = false := by
  cases constant : Kind.constant.accepts name with
  | false => rfl
  | true => exact absurd (eq_constant_of_accepts accepted constant) different

theorem accepts_argumentsName : Kind.constant.accepts argumentsName = true := by
  decide

/-- A local-style name stands for the global with a dollar sign before it. -/
theorem localNameOfGlobal?_eq_some_iff {global name : String} :
    localNameOfGlobal? global = some name ↔
      Kind.localGlobal.accepts name = true ∧ global = Kind.localGlobal.guestName name := by
  have sameText : global = Kind.localGlobal.guestName name ↔
      global.toList = '$' :: name.toList := by
    rw [guestName, ← String.toList_inj, String.toList_append]
    rfl
  rw [accepts, spells_localGlobal, sameText]
  unfold localNameOfGlobal?
  split
  · rename_i rest text
    constructor
    · intro found
      split at found
      · rename_i word
        cases found
        simp [text, word]
      · contradiction
    · rintro ⟨word, same⟩
      rw [text, List.cons.injEq] at same
      rw [same.2, if_pos word, String.ofList_toList]
  · rename_i other
    simp only [reduceCtorEq, false_iff, not_and]
    exact fun _ same => other _ same

end Kind

namespace LocalPolicy

variable {policy : LocalPolicy} {kind other : Kind} {name : String}

theorem mem_candidateKinds_of_mem_resyncOrder (member : kind ∈ policy.resyncOrder) :
    kind ∈ policy.candidateKinds := by
  cases policy <;> cases kind <;> first | decide | contradiction

theorem eq_of_mem_candidateKinds (first : kind ∈ policy.candidateKinds)
    (second : other ∈ policy.candidateKinds) (alike : kind.spelling = other.spelling) :
    kind = other := by
  cases policy <;> cases kind <;> cases other <;>
    simp_all [candidateKinds, localKind, Kind.spelling]

theorem nodup_resyncOrder (policy : LocalPolicy) : policy.resyncOrder.Nodup := by
  cases policy <;> decide

/-- Where locals are the guest's own, the constants are read back last. -/
theorem exists_resyncOrder_eq_append (ownLocals : policy ≠ .globalBacked) :
    ∃ earlier, policy.resyncOrder = earlier ++ [.constant] ∧ .constant ∉ earlier := by
  cases policy with
  | transient => exact ⟨[.instanceVariable, .globalVariable, .classVariable], rfl, by decide⟩
  | persistent =>
      exact ⟨[.localVariable, .instanceVariable, .globalVariable, .classVariable], rfl, by decide⟩
  | globalBacked => exact absurd rfl ownLocals

theorem classify_eq_some_iff :
    policy.classify name = some kind ↔ kind ∈ policy.candidateKinds ∧ kind.accepts name = true := by
  constructor
  · intro classified
    exact ⟨List.mem_of_find?_eq_some classified, accepts_of_classify classified⟩
  · rintro ⟨candidate, accepted⟩
    cases found : policy.classify name with
    | none =>
        have refused := List.find?_eq_none.mp found kind candidate
        exact absurd accepted refused
    | some first =>
        have alike := Kind.spelling_eq_of_accepts (accepts_of_classify found) accepted
        rw [eq_of_mem_candidateKinds (List.mem_of_find?_eq_some found) candidate alike]

/-- A resync leaves out the locals of single units, and all but local-style names where these are
globals. -/
theorem mem_resyncOrder_iff (classified : policy.classify name = some kind) :
    kind ∈ policy.resyncOrder ↔
      ¬ (policy = .transient ∧ kind = .localVariable) ∧
        ¬ (policy = .globalBacked ∧ Kind.localGlobal.accepts name = false) := by
  obtain ⟨candidate, accepted⟩ := classify_eq_some_iff.mp classified
  cases policy with
  | transient => cases kind <;> simp_all [resyncOrder, candidateKinds, localKind]
  | persistent => cases kind <;> simp_all [resyncOrder, candidateKinds, localKind]
  | globalBacked =>
      simp only [resyncOrder, List.mem_singleton, reduceCtorEq, false_and, not_false_eq_true,
        true_and, Bool.not_eq_false]
      constructor
      · rintro rfl
        exact accepted
      · intro localStyle
        exact eq_of_mem_candidateKinds candidate (by decide)
          (Kind.spelling_eq_of_accepts accepted localStyle)

end LocalPolicy

end SharedBindings
