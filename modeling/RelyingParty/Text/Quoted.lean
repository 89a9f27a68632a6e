import RelyingParty.Text.DefaultIgnorable
import RelyingParty.Text.GraphemeExtend
import RelyingParty.Text.Unprintable

/-!
# Quoted text

How a text is shown inside a message: between double quotes, on one line, with every character
that would not show, or would change its neighbours, written as an escape. Since the quote and
the backslash are escaped too, the end of the text is always visible.
-/

namespace RelyingParty.Text

/-- The escape that names a code point: lower case hexadecimal, without padding. -/
def codePointEscape (c : Char) : List Char :=
  '\\' :: 'u' :: '\x7b' :: Nat.toDigits 16 c.toNat ++ ['\x7d']

/-- One character as it stands between the quotes. -/
def escape (c : Char) : List Char :=
  if c = '\x00' then ['\\', '0']
  else if c = '\t' then ['\\', 't']
  else if c = '\r' then ['\\', 'r']
  else if c = '\n' then ['\\', 'n']
  else if c = '"' ∨ c = '\\' then ['\\', c]
  else if ' ' ≤ c ∧ c ≤ '~' then [c]
  else if extendsGrapheme c || isDefaultIgnorable c || isUnprintable c then codePointEscape c
  else [c]

def quote (s : String) : String :=
  String.ofList ('"' :: s.toList.flatMap escape ++ ['"'])

end RelyingParty.Text
