import CodeWorkspace.Text.Lowercase

/-!
# Comparing paths

Paths are compared by keys.  Where the file system tells upper case from lower case the key of a
path is the path itself, elsewhere it is the path in lower case.
-/

namespace CodeWorkspace

/-- When two paths count as one. -/
inductive PathComparison where
  /-- When they are equal. -/
  | ordinal
  /-- When they are equal in lower case. -/
  | ignoreCase
  deriving DecidableEq, Inhabited

/-- The key that stands for a path. -/
def PathComparison.key : PathComparison → String → String
  | .ordinal, path => path
  | .ignoreCase, path => Text.lowercase path

end CodeWorkspace
