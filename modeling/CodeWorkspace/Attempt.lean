import CodeWorkspace.Fault

/-!
# Attempts

A change that is made step by step may fail in the middle.  An attempt keeps what was reached by
then together with the reason for stopping.  Whether what was reached is kept or thrown away is
for the caller to say.
-/

namespace CodeWorkspace

universe u v

/-- How far a change went, and why it went no further if it was not completed. -/
structure Attempt (α : Type u) where
  reached : α
  fault? : Option Fault := none

namespace Attempt

variable {α : Type u} {β : Type v}

/-- A completed change. -/
def done (reached : α) : Attempt α := { reached }

/-- A change that stopped. -/
def stopped (reached : α) (fault : Fault) : Attempt α := { reached, fault? := some fault }

/-- A change that either succeeds as a whole or leaves things as they were. -/
def ofExcept (start : α) : Except Fault α → Attempt α
  | .ok reached => done reached
  | .error fault => stopped start fault

/-- The completed change, or the reason why there is none. -/
def toExcept (attempt : Attempt α) : Except Fault α :=
  match attempt.fault? with
  | none => .ok attempt.reached
  | some fault => .error fault

/-- Carries what was reached into a larger value. -/
def map (change : α → β) (attempt : Attempt α) : Attempt β :=
  { reached := change attempt.reached, fault? := attempt.fault? }

@[simp]
theorem toExcept_stopped (reached : α) (fault : Fault) :
    (stopped reached fault).toExcept = .error fault := rfl

@[simp]
theorem toExcept_ofExcept (start : α) (result : Except Fault α) :
    (ofExcept start result).toExcept = result := by
  cases result <;> rfl

@[simp]
theorem toExcept_map (change : α → β) (attempt : Attempt α) :
    (attempt.map change).toExcept = attempt.toExcept.map change := by
  obtain ⟨reached, fault?⟩ := attempt
  cases fault? <;> rfl

end Attempt

end CodeWorkspace
