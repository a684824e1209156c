import Embedder.Machine.Import

/-!
# The text of modules

A module is shown with its name and where it comes from: as what found it described it or, without a
description, by its own attributes.
-/

namespace Embedder.Machine

/-- A place in the part of the machinery that shows modules. -/
def showPlace (line : Nat) : Frame := .place importFile line "_module_repr"

/-- A place in the part that shows descriptions. -/
def describePlace (line : Nat) : Frame := .place importFile line "_module_repr_from_spec"

/-- A module with a name and something more. -/
def moduleShown (name more : Points) : Points := pointsOf "<module " ++ name ++ more ++ [62]

/-- Something more in parentheses. -/
def parenthesized (s : Points) : Points := pointsOf " (" ++ s ++ pointsOf ")"

/-- The attribute of an object as it is shown. -/
def attrRepr (o : Obj) (name : String) : Exec Points := do
  let v ← getAttr o name
  holding v (innerRepr v)

/-- The text of a module by its description. -/
def describedModule (spec : Obj) : Exec Points := do
  let name ← inFrame (describePlace 586) (getAttr spec "name")
  holding name do
    let shown : Exec Points := if name = noneObj then pure (pointsOf "'?'") else innerRepr name
    let origin ← inFrame (describePlace 587) (getAttr spec "origin")
    holding origin do
      if origin = noneObj then do
        let loader ← inFrame (describePlace 588) (getAttr spec "loader")
        holding loader do
          if loader = noneObj then
            inFrame (describePlace 589) do pure (moduleShown (← shown) [])
          else
            inFrame (describePlace 591) do
              let s ← shown
              pure (moduleShown s (parenthesized (← innerRepr loader)))
      else do
        let located ← inFrame (describePlace 593) do
          let v ← getAttr spec "has_location"
          truthOf v
        if located then
          inFrame (describePlace 594) do
            let s ← shown
            pure (moduleShown s (pointsOf " from " ++ (← attrRepr spec "origin")))
        else
          inFrame (describePlace 596) do
            let s ← attrRepr spec "name"
            let v ← getAttr spec "origin"
            pure (moduleShown s (parenthesized (← holding v (innerStr v))))

/-- What a loader makes of a module; nothing if it leaves that to others. -/
def shownByLoader? (loader m : Obj) : Exec (Option Obj) := do
  let named (where_ : String) : Exec (Option Obj) := do
    let name ← attrRepr m "__name__"
    some <$> newStr (moduleShown name (parenthesized (pointsOf where_)))
  if loader = Builtin.builtinImporter.obj then named "built-in"
  else if loader = Builtin.frozenImporter.obj then named "frozen"
  else
    match ← attrOrNone? loader "module_repr" with
    | none => pure none
    | some f => recover (some <$> holding f (callObj f [m])) (raisedIs .exception) (pure none)

/-- The text of a module by its own attributes. -/
def plainModule (m loader : Obj) : Exec Points := do
  let attr (line : Nat) (name : String) : Exec (Option Points) := do
    match ← inFrame (showPlace line) (attrOrNone? m name) with
    | some v => do
      let place := if name = "__file__" then 317 else line
      some <$> holding v (inFrame (showPlace place) (innerRepr v))
    | none => pure none
  let name := (← attr 306 "__name__").getD (pointsOf "'?'")
  match ← attr 309 "__file__" with
  | some file => pure (moduleShown name (pointsOf " from " ++ file))
  | none =>
    if loader = noneObj then pure (moduleShown name [])
    else
      inFrame (showPlace 315) do
        pure (moduleShown name (parenthesized (← innerRepr loader)))

/-- The text of a module. -/
def moduleRepr (m : Obj) : Exec Points := do
  let loader ← inFrame (showPlace 296) (attrOrNone? m "__loader__")
  let loader := loader.getD noneObj
  holding loader do
    let spec ← inFrame (showPlace 297) (attrOrNone? m "__spec__")
    let spec := spec.getD noneObj
    holding spec do
      if ← inFrame (showPlace 297) (truth spec) then
        inFrame (showPlace 298) (describedModule spec)
      else
        match ← inFrame (showPlace 301) (shownByLoader? loader m) with
        | some r => textResult "__repr__" r
        | none => plainModule m loader

end Embedder.Machine
