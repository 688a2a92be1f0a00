import CodeWorkspace.Session.Basic

/-!
# Batches of a project

Inside of a batch changes wait until the outermost batch is closed.  If they cannot be committed
then, they go on waiting.
-/

namespace CodeWorkspace

namespace Session

/-- Opens a batch; answers how many are open. -/
def beginBatch (session : Session) : Except Failure Nat × Session :=
  if session.draft.removed then (.error (.removed session.draft.id), session)
  else
    let batches := session.draft.batches.enter
    (.ok batches.depth, { session with draft := { session.draft with batches } })

/-- Closes a batch; if it is the outermost one, commits all that waits. -/
def endBatch (session : Session) : Except Failure Unit × Session :=
  let outermost := session.draft.batches.isOutermost
  let left : Session :=
    { session with draft := { session.draft with batches := session.draft.batches.exit } }
  if outermost && !session.draft.removed then left.flushAndNotify else (.ok (), left)

/-- Commits what an earlier failure left waiting, unless a batch is open. -/
def commitPending (session : Session) : Except Failure Unit × Session :=
  if session.draft.removed then (.error (.removed session.draft.id), session)
  else if session.draft.isBatching then (.ok (), session)
  else session.flushAndNotify

end Session

end CodeWorkspace
