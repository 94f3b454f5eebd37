import DocFilter.Regex.Reading
import DocFilter.Regex.Room
import DocFilter.Regex.Search

/-!
# Compiling plain terms

A term compiles under two limits: how deep it nests, and how much room its automaton takes.  Only
the second failure is told apart from all others, because a caller may try another reading of the
text after the others but not after that one.
-/

namespace DocFilter
namespace Regex
namespace Plain

/-- Why a plain term does not compile. -/
inductive Failure where
  /-- It cannot be read, nests too deeply, or needs a class that its flags do not admit. -/
  | refused
  /-- Its automaton takes too much room. -/
  | tooLarge
deriving DecidableEq, Repr

/-- The greatest nesting depth and the greatest room of an automaton, in bytes. -/
structure Bounds where
  depth : Nat := 250
  room : Nat := 10485760

/-- Compiles a term under flags. -/
def compileTerm (bounds : Bounds) (fs : Flags) (t : Term) : Except Failure Program :=
  if bounds.depth < t.depth then .error .refused
  else
    match Core.ofTerm? fs t with
    | none => .error .refused
    | some (c, _) =>
        if c.fits bounds.room then .ok (Program.ofCore c) else .error .tooLarge

/-- Compiles the term that a text writes. -/
def compile (bounds : Bounds) (fs : Flags) (cs : List Char) : Except Failure Program :=
  match Term.ofChars? fs.ignoreSpace cs with
  | none => .error .refused
  | some t => compileTerm bounds fs t

end Plain
end Regex
end DocFilter
