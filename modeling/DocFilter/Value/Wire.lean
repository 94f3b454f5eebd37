import DocFilter.Number.Layout
import DocFilter.Text.Base64
import DocFilter.Text.Quoted
import DocFilter.Value.Document

/-!
# Wire rendering

Values are written as compact JSON with entries in order.  Numbers that are not finite are written
as null.  A byte string becomes a document with key `$binary`, and a regular expression one with
key `$regex` and, unless it has no options, `$options`.
-/

namespace DocFilter
namespace Wire

open Number Text

/-- Doubles are written positionally from a hundred-thousandth to below ten to the sixteenth. -/
def doubles : Layout :=
  { leastPositional := -5, positionalBound := 16 }

/-- The text of a floating point number. -/
def double (x : Binary64) : List Char :=
  if x.isFinite then (doubles.writeBinary64 x).toList else "null".toList

/-- An entry of a JSON object: a quoted key, a colon and the text of the value. -/
def entry (k : String) (v : List Char) : List Char :=
  quoteChars k ++ ':' :: v

/-- Braces around a text. -/
def inBraces (cs : List Char) : List Char :=
  '\x7b' :: cs ++ ['\x7d']

/-- The text of a byte string. -/
def binary (bytes : List UInt8) : List Char :=
  inBraces (entry "$binary" (inBraces
    (entry "base64" (quoteChars (Base64.encode bytes)) ++ ',' ::
      entry "subType" (quoteChars "00"))))

/-- The text of a regular expression. -/
def regex (p : Pattern) : List Char :=
  let options := p.options.text
  inBraces (entry "$regex" (quoteChars p.source) ++
    if options.isEmpty then [] else ',' :: entry "$options" (quoteChars options))

mutual

/-- The text of a value. -/
def value : Value → List Char
  | .null => "null".toList
  | .bool b => if b then "true".toList else "false".toList
  | .int32 n => (toString n.toInt).toList
  | .int64 n => (toString n.toInt).toList
  | .double x => double x
  | .string s => quoteChars s
  | .binary bytes => binary bytes
  | .regex p => regex p
  | .array items => '[' :: values items ++ [']']
  | .document d => document d

/-- The text of a document. -/
def document : Document → List Char
  | ⟨entries⟩ => inBraces (members entries)

/-- The texts of values with commas between them. -/
def values : List Value → List Char
  | [] => []
  | [v] => value v
  | v :: vs => value v ++ ',' :: values vs

/-- The texts of entries with commas between them. -/
def members : List (String × Value) → List Char
  | [] => []
  | [(k, v)] => entry k (value v)
  | (k, v) :: rest => entry k (value v) ++ ',' :: members rest

end

end Wire

/-- The wire rendering of a value. -/
def Value.render (v : Value) : String :=
  String.ofList (Wire.value v)

/-- The wire rendering of a document. -/
def Document.render (d : Document) : String :=
  String.ofList (Wire.document d)

end DocFilter
