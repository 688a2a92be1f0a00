import CodeWorkspace.Identity

/-!
# Faults

Why a change to a snapshot cannot be made: it names something that is missing, adds something that
is already there, or closes a cycle of references between projects.
-/

namespace CodeWorkspace

/-- A reason why a change cannot be made. -/
inductive Fault where
  | projectNotFound (id : ProjectId)
  | duplicateProject (id : ProjectId)
  | documentNotFound (project : ProjectId) (id : DocumentId)
  | duplicateDocument (project : ProjectId) (id : DocumentId)
  | referenceNotFound (project : ProjectId) (reference : String)
  | duplicateReference (project : ProjectId) (reference : String)
  | cycleDetected (source target : ProjectId)
  deriving DecidableEq, Inhabited

namespace Fault

/-- The three classes of faults. -/
inductive Kind where
  | missing
  | duplicate
  | cyclic
  deriving DecidableEq

/-- The class of a fault. -/
def kind : Fault → Kind
  | .projectNotFound _ | .documentNotFound _ _ | .referenceNotFound _ _ => .missing
  | .duplicateProject _ | .duplicateDocument _ _ | .duplicateReference _ _ => .duplicate
  | .cycleDetected _ _ => .cyclic

/-- The message for a fault. -/
def message : Fault → String
  | .projectNotFound id => "project not found: " ++ id.text
  | .duplicateProject id => "duplicate project: " ++ id.text
  | .documentNotFound project id =>
    "document not found: " ++ id.text ++ " in project " ++ project.text
  | .duplicateDocument project id =>
    "duplicate document: " ++ id.text ++ " in project " ++ project.text
  | .referenceNotFound project reference =>
    "reference not found: '" ++ reference ++ "' in project " ++ project.text
  | .duplicateReference project reference =>
    "duplicate reference: '" ++ reference ++ "' in project " ++ project.text
  | .cycleDetected source target =>
    "project reference " ++ source.text ++ " -> " ++ target.text ++ " would create a cycle"

end Fault

end CodeWorkspace
