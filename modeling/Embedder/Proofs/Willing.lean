import Embedder.Proofs.Process

/-!
# A willing guest

A guest that does whatever it is asked, at once and with one object, and whose state is whether it
is up. Runs of the bridge with it show what the bridge does by itself.
-/

namespace Embedder

/-- The one object of a willing guest. -/
def willingObj : Obj := ⟨0⟩

/-- Grant what is asked. -/
def granted {α : Type} (a : α) (up : Bool) : Outcome Bool α := ⟨.value a, up, []⟩

/-- A guest that does whatever it is asked. -/
def willing : Guest Bool where
  isUp up := up
  boot _ _ := true
  shutdown _ := ⟨true, false, []⟩
  retain _ up := up
  release _ up := ⟨(), up, []⟩
  releaseKept _ _ up := ⟨(), up, []⟩
  refcount _ _ := 1
  importModule _ := granted willingObj
  addModule _ := granted willingObj
  namespaceOf _ := granted willingObj
  lookup _ _ _ := some willingObj
  isCallable _ _ := true
  getAttr _ _ := granted willingObj
  length _ := granted 0
  str _ := granted willingObj
  text _ := granted ""
  newText _ := granted willingObj
  joinTexts _ _ := granted willingObj
  newList _ := granted willingObj
  newTuple _ := granted willingObj
  setListItem _ _ _ := granted ()
  setTupleItem _ _ _ := granted ()
  append _ _ := granted ()
  ofFloat _ := granted willingObj
  ofInt _ := granted willingObj
  ofBool _ := granted willingObj
  trueObj := willingObj
  falseObj := ⟨1⟩
  isFloat _ _ := false
  toFloat _ := granted Double.zero
  toInt _ := granted 0
  iterator _ := granted willingObj
  call _ _ := granted willingObj
  searchPath _ := some willingObj
  normalize p up := ⟨p, up, []⟩
  isStopIteration _ _ := false
  print _ up := ⟨none, up, []⟩

end Embedder
