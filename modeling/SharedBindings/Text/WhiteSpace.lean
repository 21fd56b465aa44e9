/-!
# White space and letter case

Padding is what the Unicode property `White_Space` names; letter case is that of ASCII alone.
-/

namespace SharedBindings.Text

/-- The code points with the property `White_Space`, as inclusive ranges in ascending order. -/
def whiteSpaceRanges : List (Nat × Nat) :=
  [(0x0009, 0x000D), (0x0020, 0x0020), (0x0085, 0x0085), (0x00A0, 0x00A0), (0x1680, 0x1680),
    (0x2000, 0x200A), (0x2028, 0x2029), (0x202F, 0x202F), (0x205F, 0x205F), (0x3000, 0x3000)]

def isWhiteSpace (character : Char) : Bool :=
  whiteSpaceRanges.any fun range =>
    range.1 ≤ character.toNat && character.toNat ≤ range.2

def trim (text : List Char) : List Char :=
  ((text.dropWhile isWhiteSpace).reverse.dropWhile isWhiteSpace).reverse

def lower (text : List Char) : List Char :=
  text.map Char.toLower

def bareWord (text : String) : String :=
  String.ofList (lower (trim text.toList))

end SharedBindings.Text
