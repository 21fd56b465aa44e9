/-!
# Spellings of names

The three word shapes that names are built from. Only ASCII letters, ASCII digits and the
underscore occur in them.
-/

namespace SharedBindings.Names

/-- Holds of `[A-Za-z_]`. -/
def opensWord (character : Char) : Bool :=
  character.isAlpha || character = '_'

/-- Holds of `[A-Za-z_0-9]`. -/
def continuesWord (character : Char) : Bool :=
  character.isAlphanum || character = '_'

/-- Holds of `[A-Za-z_][A-Za-z_0-9]*`. -/
def isWord : List Char → Bool
  | [] => false
  | first :: rest => opensWord first && rest.all continuesWord

/-- Holds of `[A-Z][A-Za-z_][A-Za-z_0-9]*`, so of no single letter. -/
def isConstantWord : List Char → Bool
  | [] => false
  | first :: rest => first.isUpper && isWord rest

/-- Holds of `[a-z_][A-Za-z_0-9]*`. -/
def isLocalWord : List Char → Bool
  | [] => false
  | first :: rest => (first.isLower || first = '_') && rest.all continuesWord

theorem opensWord_of_isLocalStart {character : Char}
    (start : (character.isLower || character = '_') = true) : opensWord character = true := by
  simp only [opensWord, Bool.or_eq_true] at start ⊢
  rcases start with lower | underscore
  · have letter : character.isAlpha = (character.isUpper || character.isLower) := rfl
    exact .inl (by rw [letter, lower, Bool.or_true])
  · exact .inr underscore

theorem isWord_of_isLocalWord {text : List Char} (spelled : isLocalWord text = true) :
    isWord text = true := by
  cases text with
  | nil => contradiction
  | cons first rest =>
      simp only [isLocalWord, Bool.and_eq_true] at spelled
      simp only [isWord, Bool.and_eq_true]
      exact ⟨opensWord_of_isLocalStart spelled.1, spelled.2⟩

end SharedBindings.Names
