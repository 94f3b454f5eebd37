import DocFilter.Criteria.Builder
import DocFilter.Reference.Context

/-!
# Scopes

A scope is a context, or a set of names bound over another scope.  A field is resolved from the
outside in: the enclosing scope answers first, and a scope that binds the field turns the answer
into a variable.  A bound field need not be exposed by the context.
-/

namespace DocFilter

/-- A chain of bindings over a context. -/
inductive Scope where
  /-- The outermost scope, which binds nothing. -/
  | root (context : Context)
  /-- Names bound over another scope. -/
  | nested (names : List String) (parent : Scope)

namespace Scope

/-- The context at the root. -/
def context : Scope → Context
  | .root c => c
  | .nested _ parent => parent.context

/-- Does the scope itself bind a name? -/
def isBound (name : String) : Scope → Bool
  | .root _ => false
  | .nested names _ => names.contains name

/-- Do names bind a field?  They do if its name is among them, or if its path is dotted and begins
with one of them. -/
def binds (names : List String) (f : Field) : Bool :=
  names.contains f.name || (f.isDotted && names.contains f.rootSegment)

/-- A path that is not exposed as a reference after all. -/
def orPath (path : String) : Except ResolveError Reference → Except ResolveError Reference
  | .error (.invalidReference _) => .ok (.ofPath path)
  | r => r

/-- An answer as a variable. -/
def asVariable (path : String) (r : Except ResolveError Reference) :
    Except ResolveError Reference :=
  (orPath path r).map Reference.toVariable

/-- Resolves a field. -/
def resolve (f : Field) : Scope → Except ResolveError Reference
  | .root c => c.resolve f
  | .nested names parent =>
      let outer := parent.resolve f
      if binds names f then asVariable f.target outer else outer

/-- Resolves a name that is known to denote a variable. -/
def resolveName (name : String) : Scope → Except ResolveError Reference
  | .root c => asVariable name (c.resolve (.ofName name))
  | .nested _ parent => asVariable name (parent.resolveName name)

/-- Renames the keys of a document.  Bindings do not matter. -/
def mapDocument (s : Scope) (d : Document) : Document :=
  s.context.mapDocument d

/-- Compiles criteria and renames the keys of the result. -/
def mapCriteria (s : Scope) (c : Criteria) : Except Criteria.Error Document :=
  match c.compile with
  | .ok d => .ok (s.mapDocument d)
  | .error e => .error e

end Scope

end DocFilter
