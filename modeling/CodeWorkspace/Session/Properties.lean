import CodeWorkspace.Session.Basic

/-!
# Properties of a project that is worked on

The draft takes over a new value at once, and the index of outputs follows it at once, whether a
batch is open or not.  If the value cannot be committed both go back.
-/

namespace CodeWorkspace

/-- The index of outputs after a property of a project changed, given what it was before and the
values that all properties have now. -/
def OutputIndex.follow (index : OutputIndex) (project : ProjectId) (before : Property)
    (properties : Properties) : OutputIndex :=
  if before.isOutput then
    let cleared :=
      match before.outputPath? with
      | some path => index.unregister project path
      | none => index
    properties.outputPaths.foldl (fun reached path => reached.register project path) cleared
  else index

namespace Session

/-- Gives a property its value in the draft and in the index of outputs. -/
def replaceProperty (session : Session) (property : Property) : Session :=
  let before := session.draft.properties.now property
  let properties := session.draft.properties.set property
  { host := { session.host with
      outputs := session.host.outputs.follow session.draft.id before properties }
    draft := { session.draft with properties } }

/-- Sets a property; answers whether its value changed. -/
def setProperty (session : Session) (property : Property) : Except Failure Bool × Session :=
  if property.outputPath?.any Text.isBlank then (.error .blankPath, session)
  else
    session.update fun ready =>
      if ready.draft.properties.holds property then ready.answer false
      else
        let before := ready.draft.properties.now property
        let replaced := ready.replaceProperty property
        if ready.draft.isBatching then
          { replaced with
            draft := { replaced.draft with
              changes := replaced.draft.changes.pushProperty property } }.answer true
        else
          match replaced.commit (.setProperty property) with
          | (.error failure, attempted) => (attempted.replaceProperty before).refuse failure
          | (.ok (), committed) => committed.answer true

end Session

end CodeWorkspace
