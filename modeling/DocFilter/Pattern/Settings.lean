import DocFilter.Pattern.Basic
import DocFilter.Text.Blank

/-!
# Limits from settings

Each limit can be set by a text, that of an environment variable.  A text counts if, apart from
blank characters around it, it is a plus sign at most and then digits, and if the number it writes
is small enough; without such a text the limit has its default.
-/

namespace DocFilter
namespace Pattern

/-- The limits that can be set. -/
inductive Setting where
  | size
  | nest
  | backtrack
deriving DecidableEq, Repr

namespace Setting

/-- The environment variable of a setting. -/
def name : Setting → String
  | .size => "DOCQUERY_REGEX_SIZE_LIMIT"
  | .nest => "DOCQUERY_REGEX_NEST_LIMIT"
  | .backtrack => "DOCQUERY_REGEX_BACKTRACK_LIMIT"

/-- Numbers must be less than this: the nesting limit has 32 bits, the others have 64. -/
def bound : Setting → Nat
  | .size => UInt64.size
  | .nest => UInt32.size
  | .backtrack => UInt64.size

/-- The value of a setting that is not set. -/
def default : Setting → Nat
  | .size => ({} : Limits).size
  | .nest => ({} : Limits).nest
  | .backtrack => ({} : Limits).backtrack

end Setting

/-- The number that digits write. -/
def digitsValue (cs : List Char) : Nat :=
  cs.foldl (fun n c => n * 10 + (c.toNat - 48)) 0

/-- The number that a text writes, if it writes one. -/
def parseNumber (s : String) : Option Nat :=
  let digits :=
    match Text.trimChars s.toList with
    | '+' :: rest => rest
    | cs => cs
  if !digits.isEmpty && digits.all Char.isDigit then some (digitsValue digits) else none

/-- The value of a setting, given its text if there is one. -/
def Setting.read (setting : Setting) (s : Option String) : Nat :=
  match s.bind parseNumber with
  | some n => if n < setting.bound then n else setting.default
  | none => setting.default

/-- The limits that settings give. -/
def Limits.ofSettings (settings : Setting → Option String) : Limits :=
  { size := Setting.size.read (settings .size)
    nest := Setting.nest.read (settings .nest)
    backtrack := Setting.backtrack.read (settings .backtrack) }

/-- The limits that an environment gives, which has texts for the names of some variables. -/
def Limits.ofEnvironment (environment : String → Option String) : Limits :=
  ofSettings fun setting => environment setting.name

end Pattern
end DocFilter
