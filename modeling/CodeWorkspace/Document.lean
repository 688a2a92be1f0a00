import CodeWorkspace.Identity

/-!
# Documents

A document belongs to one of the two collections of a project.  Its text comes from a file or from
a buffer of the editor; which of them is recorded in its loader, together with how often a file
was loaded anew.  The text itself is not part of the model.
-/

namespace CodeWorkspace

/-- The two collections of documents that a project has. -/
inductive DocumentCollection where
  /-- Documents that are compiled. -/
  | source
  /-- Documents that are only handed to analyzers. -/
  | additional
  deriving DecidableEq, Inhabited

namespace DocumentCollection

/-- How a collection is called in messages. -/
def text : DocumentCollection → String
  | .source => "source"
  | .additional => "additional"

/-- Both collections, in the order in which they are worked through. -/
def all : List DocumentCollection := [.source, .additional]

end DocumentCollection

/-- How a source document is parsed. -/
inductive SourceKind where
  | regular
  | script
  deriving DecidableEq, Inhabited

/-- Where the text of a document comes from. -/
inductive Loader where
  /-- A file, with the number of reloads modulo `2 ^ 32`. -/
  | file (path : String) (generation : UInt32)
  /-- A buffer of the editor. -/
  | buffer (held : BufferId)
  deriving DecidableEq, Inhabited

namespace Loader

/-- The loader after the file changed.  The text of a buffer is the business of the editor. -/
def reloaded : Loader → Loader
  | .file path generation => .file path (generation + 1)
  | .buffer held => .buffer held

/-- Whether the text comes from a buffer. -/
def isBuffer : Loader → Bool
  | .file _ _ => false
  | .buffer _ => true

end Loader

/-- A document of a project. -/
structure Document where
  id : DocumentId
  /-- The name shown to the user. -/
  name : String
  /-- The path, which a document in a buffer may lack. -/
  path? : Option String
  /-- The folders under which the document is shown. -/
  folders : List String
  kind : SourceKind
  loader : Loader
  deriving DecidableEq, Inhabited

namespace Document

/-- The components of a path: what stands between slashes, without empty ones and, except at the
start, without single dots. -/
def pathComponents (path : String) : List (List Char) :=
  let pieces := path.toList.splitOn '/'
  let kept := pieces.drop 1 |>.filter fun piece => piece ≠ [] ∧ piece ≠ ['.']
  if pieces.head? = some [] then kept else pieces.take 1 ++ kept

/-- The name of the document at a path: the last component, or the whole path if that component
names no file. -/
def nameOfPath (path : String) : String :=
  match (pathComponents path).getLast? with
  | none => path
  | some component =>
    if component = ['.'] ∨ component = ['.', '.'] then path else String.ofList component

/-- A document in a file. -/
def ofFile (id : DocumentId) (path : String) (kind : SourceKind) (folders : List String) :
    Document :=
  { id, name := nameOfPath path, path? := some path, folders, kind, loader := .file path 0 }

/-- A document in a buffer, perhaps with the path of a file. -/
def ofBuffer (id : DocumentId) (buffer : BufferId) (path? : Option String) (kind : SourceKind)
    (folders : List String) : Document :=
  let name :=
    match path? with
    | some path => nameOfPath path
    | none => buffer.text
  { id, name, path?, folders, kind, loader := .buffer buffer }

/-- Whether the text comes from a buffer. -/
def isBuffered (document : Document) : Bool := document.loader.isBuffer

end Document

end CodeWorkspace
