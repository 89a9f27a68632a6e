import RelyingParty.Text.CodeRange

/-!
# Blank text

A required text that holds nothing visible is as good as none, so every check for a missing
value asks whether the text is blank: whether each of its characters has the Unicode property
`White_Space`. The property is wider than the blanks of ASCII, and it leaves out characters that
merely look empty, such as the zero width space or the byte order mark.
-/

namespace RelyingParty.Text

/-- The ranges of the Unicode property `White_Space`. -/
def whiteSpaceRanges : List CodeRange :=
  [(0x9, 0xD), (0x20, 0x20), (0x85, 0x85), (0xA0, 0xA0), (0x1680, 0x1680), (0x2000, 0x200A),
   (0x2028, 0x2029), (0x202F, 0x202F), (0x205F, 0x205F), (0x3000, 0x3000)]

def isWhiteSpace (c : Char) : Bool := inRanges whiteSpaceRanges c

/-- Text without a visible character; the empty text is blank. -/
def isBlank (s : String) : Bool := s.toList.all isWhiteSpace

/-- The text without the white space at its two ends. -/
def strip (s : String) : String :=
  String.ofList ((s.toList.dropWhile isWhiteSpace).reverse.dropWhile isWhiteSpace).reverse

/-- One visible character is enough. -/
theorem isBlank_eq_false_iff {s : String} :
    isBlank s = false ↔ ∃ c ∈ s.toList, isWhiteSpace c = false := by
  simp [isBlank]

end RelyingParty.Text
