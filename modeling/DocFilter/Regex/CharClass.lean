import DocFilter.Regex.Flags
import DocFilter.Text.Blank
import DocFilter.Text.Folding
import DocFilter.Text.Numeric
import DocFilter.Text.Word

/-!
# Character classes

A class is written as a tree of items and set operations, and denotes a set of code points.
Case folding closes the set of a class with a name or in brackets before the class is negated,
and both operands of a set operation before the operation.  Without the Unicode flag every part
of a class must denote ASCII characters only.
-/

namespace DocFilter
namespace Regex

open Text

/-- The classes with a letter of their own. -/
inductive LetterClass where
  | digit
  | space
  | word
deriving DecidableEq, Repr

/-- The classes with an ASCII name. -/
inductive NamedClass where
  | alnum
  | alpha
  | ascii
  | blank
  | cntrl
  | digit
  | graph
  | lower
  | print
  | punct
  | space
  | upper
  | word
  | xdigit
deriving DecidableEq, Repr

/-- Operations on two sets. -/
inductive SetOp where
  | intersection
  | difference
  | symmetricDifference
deriving DecidableEq, Repr

/-- A class as it is written. -/
inductive ClassItem where
  /-- No character. -/
  | empty
  /-- The characters from the first to the second. -/
  | range (first last : Char)
  /-- A class with a letter, such as `\d`. -/
  | letter (kind : LetterClass) (negated : Bool)
  /-- A class with a name, such as `[:alpha:]`. -/
  | named (kind : NamedClass) (negated : Bool)
  /-- A class given by a property of its members. -/
  | property (members : Ranges) (negated : Bool)
  /-- A class in brackets. -/
  | bracketed (negated : Bool) (body : ClassItem)
  /-- Two or more items side by side. -/
  | union (items : List ClassItem)
  /-- Two operands of a set operation. -/
  | binary (op : SetOp) (left right : ClassItem)
deriving Repr

namespace LetterClass

/-- The members of the class. -/
def ranges (unicode : Bool) : LetterClass → Ranges
  | .digit => if unicode then decimalDigits else [(48, 57)]
  | .space => if unicode then whiteSpace else [(9, 13), (32, 32)]
  | .word => if unicode then wordChars else [(48, 57), (65, 90), (95, 95), (97, 122)]

end LetterClass

namespace NamedClass

/-- The class with a name. -/
def ofName? : List Char → Option NamedClass
  | ['a', 'l', 'n', 'u', 'm'] => some .alnum
  | ['a', 'l', 'p', 'h', 'a'] => some .alpha
  | ['a', 's', 'c', 'i', 'i'] => some .ascii
  | ['b', 'l', 'a', 'n', 'k'] => some .blank
  | ['c', 'n', 't', 'r', 'l'] => some .cntrl
  | ['d', 'i', 'g', 'i', 't'] => some .digit
  | ['g', 'r', 'a', 'p', 'h'] => some .graph
  | ['l', 'o', 'w', 'e', 'r'] => some .lower
  | ['p', 'r', 'i', 'n', 't'] => some .print
  | ['p', 'u', 'n', 'c', 't'] => some .punct
  | ['s', 'p', 'a', 'c', 'e'] => some .space
  | ['u', 'p', 'p', 'e', 'r'] => some .upper
  | ['w', 'o', 'r', 'd'] => some .word
  | ['x', 'd', 'i', 'g', 'i', 't'] => some .xdigit
  | _ => none

/-- The members of the class. -/
def ranges : NamedClass → Ranges
  | .alnum => [(48, 57), (65, 90), (97, 122)]
  | .alpha => [(65, 90), (97, 122)]
  | .ascii => [(0, 127)]
  | .blank => [(9, 9), (32, 32)]
  | .cntrl => [(0, 31), (127, 127)]
  | .digit => [(48, 57)]
  | .graph => [(33, 126)]
  | .lower => [(97, 122)]
  | .print => [(32, 126)]
  | .punct => [(33, 47), (58, 64), (91, 96), (123, 126)]
  | .space => [(9, 13), (32, 32)]
  | .upper => [(65, 90)]
  | .word => [(48, 57), (65, 90), (95, 95), (97, 122)]
  | .xdigit => [(48, 57), (65, 70), (97, 102)]

end NamedClass

/-- The set that an operation makes of two. -/
def SetOp.apply : SetOp → Ranges → Ranges → Ranges
  | .intersection, s, t => s.inter t
  | .difference, s, t => s.diff t
  | .symmetricDifference, s, t => s.symmDiff t

/-- The complement of a set if asked for. -/
def negateIf (negated : Bool) (s : Ranges) : Ranges :=
  if negated then s.complement else s

/-- The ASCII letters in the other case than a member, added to a set. -/
def closeUnderAsciiCase (s : Ranges) : Ranges :=
  let flipped := (s.inter [(65, 90)]).map fun r => (r.1 + 32, r.2 + 32)
  let flopped := (s.inter [(97, 122)]).map fun r => (r.1 - 32, r.2 - 32)
  (s.union flipped).union flopped

/-- Closes a set under case if the flags ask for it. -/
def foldCase (fs : Flags) (s : Ranges) : Ranges :=
  if fs.caseInsensitive then
    if fs.unicode then closeUnderFolding s else closeUnderAsciiCase s
  else s

/-- Does a set hold ASCII characters only? -/
def isAsciiSet (s : Ranges) : Bool :=
  s.all fun r => r.2 < 128

/-- Without the Unicode flag only ASCII sets are admitted. -/
def admitted (fs : Flags) (s : Ranges) : Option Ranges :=
  if fs.unicode || isAsciiSet s then some s else none

/-- The set that a property denotes, which the Unicode flag must admit. -/
def propertyRanges (fs : Flags) (members : Ranges) (negated : Bool) : Option Ranges :=
  if fs.unicode then some (negateIf negated (foldCase fs members)) else none

namespace ClassItem

mutual

/-- The set that an item denotes, if the flags admit it. -/
def ranges (fs : Flags) : ClassItem → Option Ranges
  | .empty => some []
  | .range a b =>
      if fs.unicode || b.toNat < 128 then some [(a.toNat, b.toNat)] else none
  | .letter k n => admitted fs (negateIf n (k.ranges fs.unicode))
  | .named k n => admitted fs (negateIf n (foldCase fs k.ranges))
  | .property members n => propertyRanges fs members n
  | .bracketed n body => do
      let s ← ranges fs body
      admitted fs (negateIf n (foldCase fs s))
  | .union items => rangesAll fs items
  | .binary op l r => do
      let s ← ranges fs l
      let t ← ranges fs r
      return op.apply (foldCase fs s) (foldCase fs t)

/-- The union of the sets of a list of items. -/
def rangesAll (fs : Flags) : List ClassItem → Option Ranges
  | [] => some []
  | x :: xs => do
      let s ← ranges fs x
      let t ← rangesAll fs xs
      return t.union s

end

mutual

/-- How deep brackets, unions and set operations nest in an item. -/
def depth : ClassItem → Nat
  | .bracketed _ body => depth body + 1
  | .union items => depthAll items + 1
  | .binary _ l r => max (depth l) (depth r) + 1
  | _ => 0

/-- The greatest depth in a list of items. -/
def depthAll : List ClassItem → Nat
  | [] => 0
  | x :: xs => max (depth x) (depthAll xs)

end

/-- Items side by side as one item. -/
def ofList : List ClassItem → ClassItem
  | [] => .empty
  | [x] => x
  | xs => .union xs

end ClassItem

end Regex
end DocFilter
