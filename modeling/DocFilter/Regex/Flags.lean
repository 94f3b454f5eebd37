/-!
# Flags of a regular expression

Flags change how the rest of an expression is read and what it means.  A change lists flags to
set or to clear; the last entry of a flag decides.
-/

namespace DocFilter
namespace Regex

/-- The flags that an expression can change. -/
inductive Flag where
  /-- Letters match in either case. -/
  | caseInsensitive
  /-- Anchors match at line ends too. -/
  | multiLine
  /-- The dot matches a line feed too. -/
  | dotAll
  /-- Greedy and lazy repetition change places. -/
  | swapGreed
  /-- Classes and word boundaries follow Unicode, not ASCII alone. -/
  | unicode
  /-- Lines may end in a carriage return too. -/
  | crlf
  /-- Blank characters and comments are skipped. -/
  | ignoreSpace
deriving DecidableEq, Repr

/-- The letter of a flag. -/
def Flag.ofChar? : Char → Option Flag
  | 'i' => some .caseInsensitive
  | 'm' => some .multiLine
  | 's' => some .dotAll
  | 'U' => some .swapGreed
  | 'u' => some .unicode
  | 'R' => some .crlf
  | 'x' => some .ignoreSpace
  | _ => none

/-- Flags with the state to give them, in the order written. -/
abbrev FlagChange := List (Flag × Bool)

/-- The state of all flags. -/
structure Flags where
  caseInsensitive : Bool := false
  multiLine : Bool := false
  dotAll : Bool := false
  swapGreed : Bool := false
  unicode : Bool := true
  crlf : Bool := false
  ignoreSpace : Bool := false
deriving DecidableEq, Repr

namespace Flags

/-- Gives one flag a state. -/
def set (fs : Flags) (f : Flag) (on : Bool) : Flags :=
  match f with
  | .caseInsensitive => { fs with caseInsensitive := on }
  | .multiLine => { fs with multiLine := on }
  | .dotAll => { fs with dotAll := on }
  | .swapGreed => { fs with swapGreed := on }
  | .unicode => { fs with unicode := on }
  | .crlf => { fs with crlf := on }
  | .ignoreSpace => { fs with ignoreSpace := on }

/-- Makes the changes of a list one after the other. -/
def apply (fs : Flags) (changes : FlagChange) : Flags :=
  changes.foldl (fun acc c => acc.set c.1 c.2) fs

end Flags

end Regex
end DocFilter
