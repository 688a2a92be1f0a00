import CodeWorkspace.Json.Value

/-!
# Option values

The compiler and parse options of a project depend on its language.  Here they are JSON values
that are carried along, compared and written, and never looked into.
-/

namespace CodeWorkspace

/-- The options of a project for one purpose. -/
structure Options where
  /-- The value that was supplied. -/
  value : Json.Value
  /-- It has the form of a value that was read. -/
  canonical : value.Canonical

namespace Options

/-- No options. -/
def unset : Options := ⟨.null, trivial⟩

instance : Inhabited Options := ⟨unset⟩

/-- Whether no options were supplied. -/
def isUnset (options : Options) : Bool :=
  match options.value with
  | .null => true
  | _ => false

/-- Equality of options as values. -/
def same (first second : Options) : Bool := first.value.same second.value

/-- The JSON form. -/
def tree (options : Options) : Json.Tree := options.value.tree

/-- Reads options from JSON. -/
def decoder : Json.Decoder Options := fun depth tree =>
  match read : Json.Value.read? depth tree with
  | none => none
  | some value => some ⟨value, Json.Value.canonical_of_read? read⟩

end Options

end CodeWorkspace
