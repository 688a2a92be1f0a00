import CodeWorkspace.Document
import CodeWorkspace.Fault

/-!
# Failures

Why the store does not commit a change, and why an operation on a workspace or on one of its
projects is turned down.  Every failure has one of five kinds, which its message begins with.
-/

namespace CodeWorkspace

/-- Why the store does not commit a change. -/
inductive StoreError where
  /-- The change cannot be made on the current snapshot. -/
  | fault (cause : Fault)
  /-- The store refuses it. -/
  | rejected (reason : String)
  deriving DecidableEq, Inhabited

/-- The message for an error of the store. -/
def StoreError.message : StoreError → String
  | .fault cause => cause.message
  | .rejected reason => "transition rejected: " ++ reason

/-- Something that an open project keeps track of. -/
inductive TrackedItem where
  | file (collection : DocumentCollection) (path : String)
  | buffer (collection : DocumentCollection) (held : BufferId)
  | metadataReference (path : String)
  | projectReference (target : ProjectId)
  | analyzer (path : String)
  deriving DecidableEq, Inhabited

/-- How an item is called in messages. -/
def TrackedItem.text : TrackedItem → String
  | .file collection path => collection.text ++ " document '" ++ path ++ "'"
  | .buffer collection held => collection.text ++ " document for " ++ held.text
  | .metadataReference path => "metadata reference '" ++ path ++ "'"
  | .projectReference target => "project reference to " ++ target.text
  | .analyzer path => "analyzer '" ++ path ++ "'"

/-- Why an operation is turned down. -/
inductive Failure where
  | blankLanguage
  | blankName
  | blankPath
  | selfReference (project : ProjectId)
  /-- The item is there already. -/
  | tracked (item : TrackedItem)
  /-- The item is not there. -/
  | untracked (item : TrackedItem)
  | unknownProject (id : ProjectId)
  /-- The change is seen to be impossible before the store is asked. -/
  | impossible (fault : Fault)
  | removed (id : ProjectId)
  | store (error : StoreError)
  deriving DecidableEq, Inhabited

namespace Failure

/-- The kinds of failures. -/
inductive Kind where
  | invalidArgument
  | duplicateEntry
  | notFound
  | removed
  | store
  deriving DecidableEq

/-- The kind of a failure. -/
def kind : Failure → Kind
  | .blankLanguage | .blankName | .blankPath | .selfReference _ => .invalidArgument
  | .tracked _ => .duplicateEntry
  | .untracked _ | .unknownProject _ => .notFound
  | .impossible fault =>
    match fault.kind with
    | .missing => .notFound
    | .duplicate => .duplicateEntry
    | .cyclic => .invalidArgument
  | .removed _ => .removed
  | .store _ => .store

/-- What failed, without the kind. -/
def detail : Failure → String
  | .blankLanguage => "project language must not be empty"
  | .blankName => "project name must not be empty"
  | .blankPath => "path must not be empty"
  | .selfReference project => "project " ++ project.text ++ " cannot reference itself"
  | .tracked item => item.text ++ " is already tracked"
  | .untracked item => item.text ++ " is not tracked"
  | .unknownProject id => "project " ++ id.text ++ " is not in the workspace"
  | .impossible fault => fault.message
  | .removed id => "project " ++ id.text ++ " has been removed"
  | .store error => error.message

/-- What the message of a failure of some kind begins with. -/
def Kind.opening : Kind → String
  | .invalidArgument => "invalid argument: "
  | .duplicateEntry => "duplicate entry: "
  | .notFound => "not found: "
  | .removed => ""
  | .store => "commit failed: "

/-- The message for a failure. -/
def message (failure : Failure) : String := failure.kind.opening ++ failure.detail

end Failure

end CodeWorkspace
