import DocFilter.Pattern.Options
import DocFilter.Regex.Extended.Searcher

/-!
# Patterns

A pattern is a regular expression with its options, compiled under limits.  Lockstep search is
preferred; an expression that it cannot take is compiled for backtracking, unless what it lacked
was room for the program.  Two patterns are the same if their sources and options are.
-/

namespace DocFilter

open Regex

namespace Pattern

/-- What compiling and matching may use. -/
structure Limits where
  /-- The room of a compiled program, in bytes. -/
  size : Nat := 10485760
  /-- How deep an expression may nest for lockstep search. -/
  nest : Nat := 250
  /-- How often a backtracking search may return to an earlier branch. -/
  backtrack : Nat := 1000000
deriving DecidableEq, Repr

/-- The compiled form of a pattern. -/
inductive Matcher where
  | lockstep (program : Regex.Program)
  /-- With the number of returns that a search may make. -/
  | backtracking (searcher : Extended.Searcher) (limit : Nat)

/-- What can go wrong with a pattern. -/
inductive Error where
  /-- An option that does not exist. -/
  | unsupportedOption (option : Char)
  /-- An expression that does not compile. -/
  | invalid (source : String)
  /-- A search that returned too often. -/
  | aborted (source : String)
deriving DecidableEq, Repr

/-- The wording of an error, up to the colon behind which the engine's own diagnostic stands.  What
the engines report of an expression or a search is not modelled. -/
def Error.message : Error → String
  | .unsupportedOption c =>
      "unsupported regex option '" ++ String.ofList [c] ++ "' (expected any of \"imsxu\")"
  | .invalid source => "invalid regex pattern '" ++ source ++ "'"
  | .aborted source => "match against '" ++ source ++ "' aborted"

end Pattern

/-- A compiled regular expression with its source and options. -/
structure Pattern where
  source : String
  options : Pattern.Options
  matcher : Pattern.Matcher

namespace Pattern

/-- Compiles an expression for the search that suits it. -/
def Matcher.compile? (limits : Limits) (options : Options) (cs : List Char) : Option Matcher :=
  match Plain.compile { depth := limits.nest, room := limits.size } options.flags cs with
  | .ok program => some (.lockstep program)
  | .error .tooLarge => none
  | .error .refused =>
      (Extended.Searcher.compile? limits.size (options.inlineFlags ++ cs)).map fun s =>
        .backtracking s limits.backtrack

/-- Compiles a pattern.  The options are checked before the source is looked at. -/
def compile (source options : String) (limits : Limits := {}) : Except Error Pattern :=
  match Options.ofString options with
  | .error c => .error (.unsupportedOption c)
  | .ok o =>
      match Matcher.compile? limits o source.toList with
      | some matcher => .ok { source, options := o, matcher }
      | none => .error (.invalid source)

/-- Was the pattern compiled for backtracking? -/
def isBacktracking (p : Pattern) : Bool :=
  match p.matcher with
  | .lockstep _ => false
  | .backtracking _ _ => true

/-- Does the pattern match somewhere in a text? -/
def isMatch (p : Pattern) (text : String) : Except Error Bool :=
  match p.matcher with
  | .lockstep program => .ok (Search.isMatch program text.toList.toArray)
  | .backtracking searcher limit =>
      match searcher.search limit text.toList.toArray with
      | .found => .ok true
      | .notFound => .ok false
      | .aborted => .error (.aborted p.source)

/-- The source between slashes, followed by the options. -/
def text (p : Pattern) : String :=
  "/" ++ p.source ++ "/" ++ p.options.text

/-- Patterns are the same if their sources and options are. -/
instance : BEq Pattern where
  beq p q := p.source == q.source && p.options == q.options

end Pattern

end DocFilter
