import DocFilter.Reference.Field
import DocFilter.Value.Document

/-!
# The document model behind a scope

A context says which fields a document exposes and under which names it stores them.  It resolves a
field to a path, and renames the keys of whole documents alike.  Only the first segment of a path is
ever renamed, and keys that begin with a dollar sign are operators, which are kept.
-/

namespace DocFilter

/-- Why a field does not resolve. -/
inductive ResolveError where
  /-- The field that reads this path is not exposed. -/
  | invalidReference (target : String)
  /-- The name or the path is empty. -/
  | emptyField
deriving DecidableEq, Repr

/-- The wording of a resolution error. -/
def ResolveError.message : ResolveError → String
  | .invalidReference target => "invalid reference '" ++ target ++ "'"
  | .emptyField => "field name must not be empty"

/-- What a document exposes, and how it stores it. -/
structure Context where
  /-- The exposed names, or nothing if every field is exposed. -/
  exposed : Option (List String) := none
  /-- Stored names by property name. -/
  mappings : List (String × String) := []

namespace Context

/-- Stores a property under a name. -/
def withMapping (c : Context) (property stored : String) : Context :=
  { c with mappings := Assoc.put property stored c.mappings }

/-- Is a field exposed?  The first segment of its name decides. -/
def exposes (c : Context) (f : Field) : Bool :=
  match c.exposed with
  | none => true
  | some names => names.contains (Path.root f.name)

/-- The path under which a path is stored. -/
def mapPath (c : Context) (path : String) : String :=
  match Assoc.get? (Path.root path) c.mappings with
  | some stored => stored ++ Path.tail path
  | none => path

/-- Resolves a field to a path in the document. -/
def resolve (c : Context) (f : Field) : Except ResolveError Reference :=
  if f.name.isEmpty || f.target.isEmpty then .error .emptyField
  else if c.exposes f then .ok (.ofPath (c.mapPath f.target))
  else .error (.invalidReference f.target)

/-- The key under which a key of a document is stored. -/
def mapKey (c : Context) (key : String) : String :=
  match key.toList with
  | '$' :: _ => key
  | _ => c.mapPath key

mutual

/-- Renames the keys in a value. -/
def mapValue (c : Context) : Value → Value
  | .array items => .array (mapItems c items)
  | .document d => .document (mapDocument c d)
  | v => v

/-- Renames the keys in a document, at every depth.  Of entries that come to share a key the first
gives the place and the last the value. -/
def mapDocument (c : Context) : Document → Document
  | ⟨entries⟩ => .ofList (mapEntries c entries)

/-- Renames the keys in each value. -/
def mapItems (c : Context) : List Value → List Value
  | [] => []
  | v :: vs => mapValue c v :: mapItems c vs

/-- Renames the keys of entries and in their values. -/
def mapEntries (c : Context) : List (String × Value) → List (String × Value)
  | [] => []
  | (k, v) :: rest => (c.mapKey k, mapValue c v) :: mapEntries c rest

end

end Context

end DocFilter
