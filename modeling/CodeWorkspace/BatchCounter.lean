/-!
# Nested batches

A batch may be opened while another one is open.  Only when the outermost one is closed is there
something to do.
-/

namespace CodeWorkspace

/-- How many batches are open. -/
structure BatchCounter where
  depth : Nat := 0
  deriving DecidableEq, Inhabited

namespace BatchCounter

/-- Whether any batch is open. -/
def isOpen (counter : BatchCounter) : Bool := 0 < counter.depth

/-- Opens a batch. -/
def enter (counter : BatchCounter) : BatchCounter := ⟨counter.depth + 1⟩

/-- Whether closing a batch closes the outermost one. -/
def isOutermost (counter : BatchCounter) : Bool := counter.depth = 1

/-- Closes a batch, if one is open. -/
def exit (counter : BatchCounter) : BatchCounter := ⟨counter.depth - 1⟩

end BatchCounter

end CodeWorkspace
