import DocFilter.Reference.Path
import DocFilter.Value.Basic

/-!
# Fields and references

A field has the name by which expressions know it and the path that it reads.  Resolving a field
gives a reference: to a path in the document, written after one dollar sign, or to a variable and a
path below it, written after two.
-/

namespace DocFilter

/-- A field that expressions can name. -/
structure Field where
  /-- The name. -/
  name : String
  /-- The path that the field reads. -/
  target : String
deriving DecidableEq, Repr

namespace Field

/-- The field whose name is its path. -/
def ofName (name : String) : Field := ⟨name, name⟩

/-- Does the path have more than one segment? -/
def isDotted (f : Field) : Bool :=
  Path.isDotted f.target

/-- The first segment of the path. -/
def rootSegment (f : Field) : String :=
  Path.root f.target

end Field

/-- What a field resolves to. -/
inductive Reference where
  /-- A path in the document. -/
  | path (segments : List String)
  /-- A variable and a path below it. -/
  | variable (name : String) (segments : List String)
deriving DecidableEq, Repr

namespace Reference

/-- The reference to a dotted path in the document. -/
def ofPath (path : String) : Reference :=
  .path (Path.split path)

/-- The reference with the first segment of its path taken as a variable. -/
def toVariable : Reference → Reference
  | .path [] => .variable "" []
  | .path (s :: ss) => .variable s ss
  | .variable name segments => .variable name segments

/-- Is this a reference to a variable? -/
def isVariable : Reference → Bool
  | .path _ => false
  | .variable _ _ => true

/-- The dotted path of the reference without dollar signs. -/
def raw : Reference → String
  | .path segments => Path.join segments
  | .variable name segments => Path.join (name :: segments)

/-- The text of the reference. -/
def text (r : Reference) : String :=
  (if r.isVariable then "$$" else "$") ++ r.raw

/-- The text of the reference as a value. -/
def toValue (r : Reference) : Value :=
  .string r.text

end Reference

end DocFilter
