import RelyingParty.Log.Event
import RelyingParty.Text.Blank
import RelyingParty.Text.Contains

/-!
# Log filters

The environment can give a list of directives, separated by commas: a level for all records, a
level for the targets that start with a name, or such a name alone, which admits everything from
it. Of the directives whose name a target starts with, the one with the longest name decides.
After a slash comes a text that every message shown must contain.
-/

namespace RelyingParty.Log

structure Directive where
  /-- What the target must start with; nothing for a level that holds everywhere. -/
  name : Option String
  threshold : Threshold
deriving DecidableEq, Repr

structure Filter where
  /-- Shorter names first. -/
  directives : List Directive
  /-- What a message must contain. -/
  pattern : Option String
deriving DecidableEq, Repr

namespace Directive

def everything : Threshold := .upTo .trace

/-- A directive from its text without blanks around it, or the part of it that makes no sense. -/
def ofText (text : String) : Except String Directive :=
  match text.splitOn "=" with
  | [name] =>
      match Threshold.ofName? name with
      | some threshold => .ok ⟨none, threshold⟩
      | none => .ok ⟨some name, everything⟩
  | [name, level] =>
      let level := Text.strip level
      if level.isEmpty then .ok ⟨some name, everything⟩
      else
        match Threshold.ofName? level with
        | some threshold => .ok ⟨some name, threshold⟩
        | none => .error level
  | _ => .error text

/-- The length of the name in bytes. -/
def size (d : Directive) : Nat := (d.name.map String.utf8ByteSize).getD 0

def appliesTo (d : Directive) (target : String) : Bool :=
  match d.name with
  | some name => target.startsWith name
  | none => true

/-- Adds a directive, in place of one with the same name. -/
def add (d : Directive) : List Directive → List Directive
  | [] => [d]
  | d' :: ds => if d'.name = d.name then d :: ds else d' :: add d ds

end Directive

namespace Filter

/-- A complaint about a part of the text. -/
def warning (part : String) : String :=
  "warning: invalid logging spec '" ++ part ++ "', ignoring it"

/-- The directives of a list of texts in their order, with complaints about those that are
none. -/
def directivesOf : List String → List Directive × List String
  | [] => ([], [])
  | text :: rest =>
      let (ds, warnings) := directivesOf rest
      let text := Text.strip text
      if text.isEmpty then (ds, warnings)
      else
        match Directive.ofText text with
        | .ok d => (d :: ds, warnings)
        | .error part => (ds, warning part :: warnings)

/-- A filter with at least one directive, in the order in which they are tried from the end. -/
def ofDirectives (ds : List Directive) (pattern : Option String) : Filter :=
  let distinct := ds.foldl (fun ds d => Directive.add d ds) []
  -- The sort is stable, so of names of one length the later one is tried first.
  let ordered :=
    if distinct.isEmpty then [⟨none, .upTo .error⟩]
    else distinct.mergeSort fun d e => d.size ≤ e.size
  ⟨ordered, pattern⟩

/-- The filter that a text describes, with complaints about what in it makes no sense. -/
def ofText (text : String) : Filter × List String :=
  match text.splitOn "/" with
  | [directives] =>
      let (ds, warnings) := directivesOf (directives.splitOn ",")
      (ofDirectives ds none, warnings)
  | [directives, pattern] =>
      let (ds, warnings) := directivesOf (directives.splitOn ",")
      (ofDirectives ds (some pattern), warnings)
  | _ =>
      (ofDirectives [] none,
        ["warning: invalid logging spec '" ++ text ++ "' (too many '/'s), ignoring it"])

/-- The filter that admits every record. -/
def all : Filter := ⟨[⟨none, .upTo .trace⟩], none⟩

/-- The largest threshold of any directive. -/
def threshold (f : Filter) : Threshold :=
  f.directives.foldl (fun t d => t.max d.threshold) .off

/-- The threshold for a target. -/
def thresholdFor (f : Filter) (target : String) : Threshold :=
  ((f.directives.reverse.find? fun d => d.appliesTo target).map Directive.threshold).getD .off

def admits (f : Filter) (e : Event) : Bool :=
  (f.thresholdFor e.target).admits e.level
    && (match f.pattern with
        | some pattern => Text.contains pattern e.message
        | none => true)

end Filter

end RelyingParty.Log
