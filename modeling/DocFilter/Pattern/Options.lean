import DocFilter.Regex.Flags

/-!
# Pattern options

The options of a pattern are a set of five letters, given as text in any order and with any
repetition.  They are kept as the set, so the text written back is sorted and without repetition.
`canonicalText` makes that text from the one given, letter by letter.
-/

namespace DocFilter
namespace Pattern

/-- Which options are given. -/
structure Options where
  /-- Option `i`: letters match in either case. -/
  caseInsensitive : Bool := false
  /-- Option `m`: anchors match at line ends too. -/
  multiLine : Bool := false
  /-- Option `s`: the dot matches a line feed too. -/
  dotAll : Bool := false
  /-- Option `u`: classes follow Unicode, as they do without it. -/
  unicode : Bool := false
  /-- Option `x`: blank characters and comments are skipped. -/
  ignoreSpace : Bool := false
deriving DecidableEq, Repr

namespace Options

/-- The characters that are options. -/
def alphabet : List Char :=
  ['i', 'm', 's', 'u', 'x']

/-- Appends the letters of a text that are not there yet, or gives the first that is no option. -/
def collect (seen : List Char) : List Char → Except Char (List Char)
  | [] => .ok seen
  | c :: cs =>
      if c ∈ alphabet then collect (if c ∈ seen then seen else seen ++ [c]) cs
      else .error c

/-- The letters of a text without repetition and sorted, or the first that is no option. -/
def canonicalText (s : String) : Except Char String :=
  (collect [] s.toList).map fun cs => String.ofList cs.mergeSort

/-- Adds the option of a letter. -/
def add? (o : Options) : Char → Option Options
  | 'i' => some { o with caseInsensitive := true }
  | 'm' => some { o with multiLine := true }
  | 's' => some { o with dotAll := true }
  | 'u' => some { o with unicode := true }
  | 'x' => some { o with ignoreSpace := true }
  | _ => none

/-- Adds the options of letters one after the other, or gives the first letter that is none. -/
def addAll (o : Options) : List Char → Except Char Options
  | [] => .ok o
  | c :: cs =>
      match o.add? c with
      | some o => o.addAll cs
      | none => .error c

/-- The options that a text lists, or its first character that is no option. -/
def ofString (s : String) : Except Char Options :=
  addAll {} s.toList

/-- The letters of the options, in ascending order. -/
def letters (o : Options) : List Char :=
  (if o.caseInsensitive then ['i'] else []) ++ (if o.multiLine then ['m'] else []) ++
    (if o.dotAll then ['s'] else []) ++ (if o.unicode then ['u'] else []) ++
    (if o.ignoreSpace then ['x'] else [])

/-- The letters of the options as text. -/
def text (o : Options) : String :=
  String.ofList o.letters

/-- The flags that the options set.  Classes follow Unicode with or without the option. -/
def flags (o : Options) : Regex.Flags :=
  { caseInsensitive := o.caseInsensitive
    multiLine := o.multiLine
    dotAll := o.dotAll
    ignoreSpace := o.ignoreSpace }

/-- The options as a change of flags in front of an expression.  The Unicode option needs none. -/
def inlineFlags (o : Options) : List Char :=
  match { o with unicode := false }.letters with
  | [] => []
  | cs => '(' :: '?' :: cs ++ [')']

/-- The text of options is read back as the same options. -/
theorem ofString_text (o : Options) : ofString o.text = .ok o := by
  obtain ⟨i, m, s, u, x⟩ := o
  cases i <;> cases m <;> cases s <;> cases u <;> cases x <;> rfl

end Options

end Pattern
end DocFilter
