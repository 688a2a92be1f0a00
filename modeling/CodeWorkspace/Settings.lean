import CodeWorkspace.PathComparison
import CodeWorkspace.Text.Blank

/-!
# Settings

What a workspace takes from the variables of its environment: how paths are compared, and what is
logged.
-/

namespace CodeWorkspace

/-- What can be set from outside. -/
structure Settings where
  comparison : PathComparison := .ordinal
  /-- Which messages are logged. -/
  logFilter : String := "info"
  deriving DecidableEq, Inhabited

namespace Settings

/-- The variable that turns off the difference between upper and lower case in paths. -/
def ignoreCaseVariable : String := "PROJGRAPH_CASE_INSENSITIVE_PATHS"

/-- The variable that says which messages are logged. -/
def logVariable : String := "PROJGRAPH_LOG"

/-- The values that turn the difference off. -/
def affirmations : List String := ["1", "true", "TRUE", "yes"]

/-- The settings under given variables. -/
def ofVariables (lookup : String → Option String) : Settings where
  comparison :=
    if (lookup ignoreCaseVariable).any fun value => Text.trim value ∈ affirmations then .ignoreCase
    else .ordinal
  logFilter := ((lookup logVariable).filter fun value => !Text.isBlank value).getD "info"

end Settings

end CodeWorkspace
