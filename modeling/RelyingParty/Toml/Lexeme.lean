/-!
# The lexemes of TOML

Blanks, comments, line ends, keys and strings, each read from the front of a list of characters
and returned with the characters after it. The text has had its carriage returns before line
feeds removed, so a line ends in a line feed only, inside strings too.
-/

namespace RelyingParty.Toml

def isBlank (c : Char) : Bool := c = ' ' || c = '\t'

def skipBlanks (cs : List Char) : List Char := cs.dropWhile isBlank

/-- Everything from U+0020 on, and the tab. -/
def isCommentChar (c : Char) : Bool := c = '\t' || ' ' ≤ c

/-- What may stand in a string as itself: as in a comment, but for the delete character. -/
def isStringChar (c : Char) : Bool := isCommentChar c && c ≠ '\x7f'

/-- What a key or a number without quotes is made of. -/
def isBareChar (c : Char) : Bool := c.isAlphanum || c = '-' || c = '_'

/-- Drops a comment, if there is one. -/
def skipComment : List Char → List Char
  | '#' :: rest => rest.dropWhile isCommentChar
  | cs => cs

/-- The rest of a line must be blank but for a comment. -/
def endOfLine (cs : List Char) : Option (List Char) :=
  match skipComment (skipBlanks cs) with
  | [] => some []
  | '\n' :: rest => some rest
  | _ => none

/-- Drops blanks, comments and line ends. -/
def skipLines : Nat → List Char → List Char
  | 0, cs => cs
  | fuel + 1, cs =>
      match skipComment (skipBlanks cs) with
      | '\n' :: rest => skipLines fuel rest
      | rest => rest

/-- Blanks, comments and line ends before the next lexeme. -/
def skipSpace (cs : List Char) : List Char := skipLines cs.length cs

def hexValue? (c : Char) : Option Nat :=
  if '0' ≤ c ∧ c ≤ '9' then some (c.toNat - '0'.toNat)
  else if 'a' ≤ c ∧ c ≤ 'f' then some (c.toNat - 'a'.toNat + 10)
  else if 'A' ≤ c ∧ c ≤ 'F' then some (c.toNat - 'A'.toNat + 10)
  else none

/-- The character whose number is written by the next `count` hexadecimal digits. -/
def codePoint (count : Nat) (cs : List Char) : Option (Char × List Char) := do
  let digits ← (cs.take count).mapM hexValue?
  if digits.length < count then none
  let n := digits.foldl (fun n d => n * 16 + d) 0
  if h : n.isValidChar then some (Char.ofNatAux n h, cs.drop count) else none

/-- A backslash at the end of a line, blanks aside: the text goes on at the next character that
is neither a blank nor a line end. -/
def continuedLine (cs : List Char) : Option (List Char) :=
  match skipBlanks cs with
  | '\n' :: rest => some (rest.dropWhile fun c => isBlank c || c = '\n')
  | [] => some []
  | _ => none

/-- What an escape stands for, read after the backslash. Only a string of several lines can
continue a line. -/
def escape (multiline : Bool) : List Char → Option (List Char × List Char)
  | '"' :: rest => some (['"'], rest)
  | '\\' :: rest => some (['\\'], rest)
  | 'b' :: rest => some (['\x08'], rest)
  | 'f' :: rest => some (['\x0c'], rest)
  | 'n' :: rest => some (['\n'], rest)
  | 'r' :: rest => some (['\r'], rest)
  | 't' :: rest => some (['\t'], rest)
  | 'u' :: rest => (codePoint 4 rest).map fun (c, rest) => ([c], rest)
  | 'U' :: rest => (codePoint 8 rest).map fun (c, rest) => ([c], rest)
  | c :: rest =>
      if multiline && (isBlank c || c = '\n') then
        (continuedLine (c :: rest)).map fun rest => ([], rest)
      else none
  | [] => none

/-- The content of a string up to its closing delimiter. In a string of several lines three
delimiters close it, and up to two more before them belong to the content. -/
def stringBody (delimiter : Char) (multiline : Bool) :
    Nat → List Char → Option (List Char × List Char)
  | 0, _ => none
  | _ + 1, [] => none
  | fuel + 1, c :: rest =>
      let more (content rest : List Char) : Option (List Char × List Char) :=
        (stringBody delimiter multiline fuel rest).map fun (cs, rest) => (content ++ cs, rest)
      if c = '\n' then (if multiline then more ['\n'] rest else none)
      else if c = delimiter then
        if !multiline then some ([], rest)
        else if rest.take 2 = [delimiter, delimiter] then
          -- Of up to five delimiters in a row the last three close the string.
          let extra := ((rest.drop 2).take 2).takeWhile fun c => c = delimiter
          some (extra, rest.drop (2 + extra.length))
        else more [c] rest
      else if c = '\\' && delimiter = '"' then do
        let (content, rest) ← escape multiline rest
        more content rest
      else if isStringChar c then more [c] rest
      else none

/-- A string, read after its first delimiter, and whether it is one of several lines. A line end
right after the three delimiters that open such a string does not belong to it. -/
def string (delimiter : Char) (cs : List Char) : Option ((String × Bool) × List Char) :=
  let multiline : Bool := cs.take 2 = [delimiter, delimiter]
  let body :=
    if multiline then
      match cs.drop 2 with
      | '\n' :: rest => rest
      | rest => rest
    else cs
  (stringBody delimiter multiline (body.length + 1) body).map fun (content, rest) =>
    ((String.ofList content, multiline), rest)

/-- One part of a key: bare, or a string on one line. -/
def keyPart : List Char → Option (String × List Char)
  | [] => none
  | c :: rest =>
      if c = '"' ∨ c = '\'' then
        match string c rest with
        | some ((s, false), rest) => some (s, rest)
        | _ => none
      else
        let bare := (c :: rest).takeWhile isBareChar
        if bare.isEmpty then none
        else some (String.ofList bare, (c :: rest).dropWhile isBareChar)

/-- A key of parts with points between them, and the blanks after it. -/
def dottedKey : Nat → List Char → Option (List String × List Char)
  | 0, _ => none
  | fuel + 1, cs => do
      let (part, rest) ← keyPart cs
      match skipBlanks rest with
      | '.' :: rest =>
          let (parts, rest) ← dottedKey fuel (skipBlanks rest)
          some (part :: parts, rest)
      | rest => some ([part], rest)

def key (cs : List Char) : Option (List String × List Char) := dottedKey (cs.length + 1) cs

end RelyingParty.Toml
