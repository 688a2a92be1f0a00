import CodeWorkspace.Document
import CodeWorkspace.Json.Decoder
import CodeWorkspace.PathComparison
import CodeWorkspace.Reference

/-!
# Identities and words in JSON

Identities are written as their text, buffers as their number, and a choice among several words as
the word.
-/

namespace CodeWorkspace

open Json (Tree Decoder)

namespace ProjectId

/-- The JSON form. -/
def tree (id : ProjectId) : Tree := .text id.text

/-- Reads an identity from JSON. -/
def decoder : Decoder ProjectId := Decoder.text.andThen parse?

end ProjectId

namespace DocumentId

/-- The JSON form. -/
def tree (id : DocumentId) : Tree := .text id.text

/-- Reads an identity from JSON. -/
def decoder : Decoder DocumentId := Decoder.text.andThen parse?

end DocumentId

namespace BufferId

/-- The JSON form. -/
def tree (buffer : BufferId) : Tree := .natural buffer.number.toNat

/-- Reads a buffer from JSON. -/
def decoder : Decoder BufferId :=
  (Decoder.natural UInt64.size).map fun number => ⟨UInt64.ofNat number⟩

end BufferId

namespace DocumentCollection

/-- The word for a collection. -/
def word : DocumentCollection → String
  | .source => "Source"
  | .additional => "Additional"

/-- The JSON form. -/
def tree (collection : DocumentCollection) : Tree := .text collection.word

/-- Reads a collection from JSON. -/
def decoder : Decoder DocumentCollection :=
  Decoder.oneOf ([.source, .additional].map fun collection => (collection.word, collection))

end DocumentCollection

namespace SourceKind

/-- The word for a kind. -/
def word : SourceKind → String
  | .regular => "Regular"
  | .script => "Script"

/-- The JSON form. -/
def tree (kind : SourceKind) : Tree := .text kind.word

/-- Reads a kind from JSON. -/
def decoder : Decoder SourceKind :=
  Decoder.oneOf ([.regular, .script].map fun kind => (kind.word, kind))

end SourceKind

namespace ReferenceKind

/-- The word for a kind. -/
def word : ReferenceKind → String
  | .assembly => "Assembly"
  | .module => "Module"

/-- The JSON form. -/
def tree (kind : ReferenceKind) : Tree := .text kind.word

/-- Reads a kind from JSON. -/
def decoder : Decoder ReferenceKind :=
  Decoder.oneOf ([.assembly, .module].map fun kind => (kind.word, kind))

end ReferenceKind

namespace ReferenceHolder

/-- The word for a holder. -/
def word : ReferenceHolder → String
  | .direct => "Direct"
  | .converted => "Converted"

/-- The JSON form. -/
def tree (holder : ReferenceHolder) : Tree := .text holder.word

/-- Reads a holder from JSON. -/
def decoder : Decoder ReferenceHolder :=
  Decoder.oneOf ([.direct, .converted].map fun holder => (holder.word, holder))

end ReferenceHolder

namespace PathComparison

/-- The word for a comparison. -/
def word : PathComparison → String
  | .ordinal => "Ordinal"
  | .ignoreCase => "IgnoreCase"

/-- The JSON form. -/
def tree (comparison : PathComparison) : Tree := .text comparison.word

/-- Reads a comparison from JSON. -/
def decoder : Decoder PathComparison :=
  Decoder.oneOf ([.ordinal, .ignoreCase].map fun comparison => (comparison.word, comparison))

end PathComparison

/-- The JSON form of a list of texts. -/
def textsTree (texts : List String) : Tree := .array (texts.map Tree.text)

/-- The JSON form of a path that may be missing. -/
def pathTree (path? : Option String) : Tree := .nullable .text path?

end CodeWorkspace
