import Embedder.Session
import Embedder.Invoke
import Embedder.Sequence

/-!
# Calls with numbers

`callFunction` resolves a function by name for one call. A `Binding` resolves it once: it owns a
reference to the callable and calls that same object until the interpreter it was made in stops.
-/

namespace Embedder

open Exception

variable {σ α β : Type} (G : Guest σ)

/-- Call a resolved function with a list of numbers and read the list it returns. -/
def CallableHandle.callWith (E : Encoder σ α) (D : Decoder σ β) (c : CallableHandle)
    (args : List α) : Attempt σ Failure (List β) := do
  let list ← Sequence.toList G E args
  list.within G do
    let result ← c.invokeOne G list
    result.within G (Sequence.fromList G D result)

/-- Call a function of a module by name. -/
def callFunction (E : Encoder σ α) (D : Decoder σ β) (moduleName function : String)
    (args : List α) : Attempt σ Failure (List β) :=
  Session.enter G do
    let m ← ModuleHandle.importAs G moduleName
    let c ← m.resolveCallable G function
    c.callWith G E D args

namespace Binding

/-- Resolve a function of a module and keep a reference to it. -/
def bind (moduleName function : String) : Attempt σ Failure Binding :=
  Session.enterAs G none fun generation => do
    let m ← ModuleHandle.importAs G moduleName
    let c ← m.resolveCallable G function
    let h ← (c.handle.promote G : Bridge σ Handle)
    (Bridge.debug "bound function"
      [.plain "function" c.qualifiedName, .count "generation" generation] : Bridge σ Unit)
    let callable ← (h.steal G : Bridge σ Obj)
    pure ⟨moduleName, function, callable, generation⟩

/-- Call a bound function. -/
def callAs (E : Encoder σ α) (D : Decoder σ β) (b : Binding) (args : List α) :
    Attempt σ Failure (List β) :=
  Session.enterAs G (some b.generation) fun _ => do
    let h ← (Handle.ofShared G b.callable : Bridge σ Handle)
    h.within G (CallableHandle.callWith G E D ⟨b.moduleName, b.function, h⟩ args)

end Binding

end Embedder
