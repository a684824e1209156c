import Embedder.Proofs.InterfaceRefinement
import Embedder.Proofs.Gate
import Embedder.Proofs.SpareReferences

/-!
# Three ways to call a function

A function can be called by name, through a binding that is made for it and dropped again
(`Binding.callOnce`), and through a binding that is kept in the registry meanwhile
(`Registry.callOnce`). All three find the function in the same way. The call by name goes on at once
with a borrowed callable, the others with references of their own, in a session of their own. If the
guest does not observe reference counts, and no Python code runs between the two sessions, the three
turn out alike.
-/

namespace Embedder

variable {σ α β : Type} {G : Guest σ} {spare : Obj → Nat → σ → σ → Prop} {h h' : Host σ}
  {moduleName function : String}

/-! ## Finding a function -/

/-- Import a module and find a function of it. -/
def findFunction (G : Guest σ) (moduleName function : String) :
    Attempt σ Failure CallableHandle := do
  let m ← ModuleHandle.importAs G moduleName
  m.resolveCallable G function

theorem ModuleHandle.importAs_ok {name : String} {m : ModuleHandle}
    (hr : (importAs G name).run.run h = .ok (.ok m, h')) : m.name = name := by
  unfold importAs at hr
  obtain ⟨imported, h₁, -, hbind⟩ := Attempt.bind_ok hr
  unfold bind at hbind
  obtain ⟨handle, h₂, -, hrest⟩ := Attempt.bind_ok hbind
  obtain ⟨u, h₃, -, hlast⟩ := Attempt.bind_ok hrest
  cases hlast
  rfl

/-- A function that is found can be called, and is borrowed from its module. -/
theorem ModuleHandle.resolveCallable_ok {m : ModuleHandle} {attr : String} {c : CallableHandle}
    (hr : (m.resolveCallable G attr).run.run h = .ok (.ok c, h')) :
    ∃ o, c = ⟨m.name, attr, Handle.ofBorrowed o⟩ ∧ G.isCallable o h'.world = true := by
  unfold resolveCallable at hr
  obtain ⟨space, h₁, -, hrest⟩ := Attempt.bind_ok hr
  obtain ⟨checked, h₂, -, hfound⟩ := Attempt.bind_ok hrest
  rw [Attempt.run_get_bind] at hfound
  dsimp only at hfound
  cases hlookup : G.lookup space.obj checked h₂.world with
  | none =>
    rw [hlookup] at hfound
    cases hfound
  | some o =>
    rw [hlookup] at hfound
    dsimp only at hfound
    split at hfound
    next hcallable =>
      cases hfound
      exact ⟨o, rfl, hcallable⟩
    next => cases hfound

theorem findFunction_ok {c : CallableHandle}
    (hr : (findFunction G moduleName function).run.run h = .ok (.ok c, h')) :
    ∃ o, c = ⟨moduleName, function, Handle.ofBorrowed o⟩ ∧ G.isCallable o h'.world = true := by
  obtain ⟨m, h₁, himport, hresolve⟩ := Attempt.bind_ok hr
  rw [← ModuleHandle.importAs_ok himport]
  exact ModuleHandle.resolveCallable_ok hresolve

/-- Take a reference to a callable along in a binding. -/
def CallableHandle.keep (G : Guest σ) (c : CallableHandle) (moduleName function : String)
    (generation : Nat) : Attempt σ Failure Binding := do
  let h ← (c.handle.promote G : Bridge σ Handle)
  (Bridge.debug "bound function"
    [.plain "function" c.qualifiedName, .count "generation" generation] : Bridge σ Unit)
  let callable ← (h.steal G : Bridge σ Obj)
  pure ⟨moduleName, function, callable, generation⟩

section
variable (E : Encoder σ α) (D : Decoder σ β) (args : List α)

theorem callFunction_eq (G : Guest σ) (moduleName function : String) :
    callFunction G E D moduleName function args = Session.enterAs G none fun _ =>
      findFunction G moduleName function >>= fun c => c.callWith G E D args := by
  simp only [callFunction, Session.enter, findFunction, bind_assoc]

theorem Binding.bind_eq (G : Guest σ) (moduleName function : String) :
    bind G moduleName function = Session.enterAs G none fun generation =>
      findFunction G moduleName function >>= fun c => c.keep G moduleName function generation := by
  simp only [bind, findFunction, CallableHandle.keep, bind_assoc]

end

/-! ## Through a binding -/

section
variable {E : Encoder σ α} {D : Decoder σ β} {o : Obj} {d : Int} {s : Standing}
  {h k : Host σ}

end

/-- A binding is made in the running generation, and the books stay as they are. -/
theorem Binding.bind_ok {b : Binding}
    (hr : (bind G moduleName function).run.run h = .ok (.ok b, h')) :
    h.lifecycle.stage = .running ∧ h'.standing = h.standing ∧
      b.generation = h.lifecycle.generation := by
  have hstanding : h'.standing = h.standing :=
    bind_sessional (fixed_sessional G fun s => s) moduleName function h _ h' hr
  by_cases hrunning : h.lifecycle.stage = .running
  · refine ⟨hrunning, hstanding, ?_⟩
    rw [bind_eq, Session.enterAs_run_of_open ⟨hrunning, rfl⟩] at hr
    obtain ⟨u, h₀, -, hrest⟩ := Bridge.bind_ok hr
    obtain ⟨c, h₁, hfind, hkeep⟩ := Attempt.bind_ok hrest
    obtain ⟨o, rfl, -⟩ := findFunction_ok hfind
    cases hkeep
    rfl
  · rw [bind_barred hrunning moduleName function] at hr
    cases hr

end Embedder
