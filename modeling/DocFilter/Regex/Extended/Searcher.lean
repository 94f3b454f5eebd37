import DocFilter.Regex.Extended.Machine

/-!
# Compiling extended expressions

An expression without hard parts is searched in lockstep like a plain one.  Any other is searched
by backtracking.
-/

namespace DocFilter
namespace Regex
namespace Extended

/-- A compiled expression. -/
inductive Searcher where
  /-- For lockstep search. -/
  | lockstep (program : Regex.Program)
  /-- For backtracking search. -/
  | backtracking (program : Program)

namespace Searcher

/-- Compiles the expression that a text writes.  The room is what the program of an expression
without hard parts may take. -/
def compile? (room : Nat) (cs : List Char) : Option Searcher := do
  let t ← Term.ofChars? cs
  if t.hard then
    let program ← Program.ofTerm? t
    return .backtracking program
  else
    match Plain.compile { room } {} (t.spell 0) with
    | .ok program => return .lockstep program
    | .error _ => none

/-- Searches a text.  The limit is the number of returns that backtracking may make. -/
def search (limit : Nat) (text : Array Char) : Searcher → Machine.Outcome
  | .lockstep program => if Search.isMatch program text then .found else .notFound
  | .backtracking program => Machine.run program limit text

end Searcher

end Extended
end Regex
end DocFilter
