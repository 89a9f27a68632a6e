/-!
# Texts inside texts
-/

namespace RelyingParty.Text

/-- Whether `pattern` begins at some place of a list of characters. -/
def occursIn (pattern : List Char) : List Char → Bool
  | [] => pattern.isEmpty
  | c :: cs => pattern.isPrefixOf (c :: cs) || occursIn pattern cs

/-- Whether `pattern` occurs in `text`; the empty text occurs in every text. -/
def contains (pattern text : String) : Bool := occursIn pattern.toList text.toList

end RelyingParty.Text
