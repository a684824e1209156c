import Embedder.Proofs.Conduct.Operation
import Embedder.Proofs.References
import Embedder.Scenario.HandleStep

/-!
# Handles in a session

A program that works with handles has a bench: handles, modules, callables, and references that it
moved out of handles to keep them. A task makes something for the bench, takes something from it, or
uses what lies there; it may fail, and what it takes is gone also then.

Each task keeps to any conduct on a scale, and its index is what the bench weighs more after it
(`HandleTask.perform_weighed`).
-/

namespace Embedder

open Exception Scenario

variable {σ α ε : Type} {G : Guest σ} {R : Conduct σ} {w : Scale}

/-! ## The bench -/

/-- What a program has at hand in a session. -/
abbrev Bench := List Held

/-- The weight of something on the bench. -/
def Scale.worth (w : Scale) : Held → Int
  | .reference o => w.ref o
  | h => w.stake h.toHandle

/-- The weight of a bench. -/
def Scale.bench (w : Scale) (b : Bench) : Int := (b.map w.worth).sum

namespace Bench

/-- End something that lay on the bench. -/
def discard (G : Guest σ) : Held → Bridge σ Unit
  | .reference o => Bridge.act (G.release o)
  | h => h.toHandle.drop G

/-- End all handles on the bench. References that are kept outlive the session. -/
def clear (G : Guest σ) (b : Bench) : Bridge σ Unit := Handle.dropAll G (b.map Held.toHandle)

/-- Put on the bench what a program makes. -/
def put (b : Bench) (wrap : α → Held) (x : Bridge σ α) : Bridge σ Bench := do
  let a ← x
  pure (b ++ [wrap a])

/-- Put on the bench what an attempt makes, if it makes something. -/
def keep (b : Bench) (wrap : α → Held) (x : Attempt σ ε α) : Bridge σ Bench := do
  match ← x.run with
  | .ok a => pure (b ++ [wrap a])
  | .error _ => pure b

/-- Do something with what lies in a place; if nothing is there, nothing happens. -/
def onItem (b : Bench) (i : Nat) (f : Held → Bridge σ Bench) : Bridge σ Bench :=
  match b[i]? with
  | some h => f h
  | none => pure b

/-- Attempt something that makes nothing. -/
def attempt (b : Bench) (x : Attempt σ ε Unit) : Bridge σ Bench := do
  let _ ← x.run
  pure b

end Bench

/-! ## Tasks -/

/-- What a program does with handles. Things on the bench are meant by their places. -/
inductive HandleTask where
  | number (n : Number)
  | text (s : String)
  | list (length : UInt64)
  | tuple (length : UInt64)
  | numbers (ns : Numbers)
  /-- Make a list of values of a type that refuses some of them. -/
  | picky (values : List Double)
  /-- Wrap the result of a call that gave nothing. -/
  | null (context : String)
  /-- Wrap an object that someone else keeps alive. -/
  | lend (o : Obj)
  | imported (name : String)
  | moduleNamed (name : String)
  | clone (i : Nat)
  | attr (i : Nat) (name : String)
  /-- Takes the handle. -/
  | promote (i : Nat)
  /-- Move the reference of a handle out of it. Takes the handle. -/
  | detach (i : Nat)
  /-- Make a handle from a kept reference, which stays. -/
  | attach (i : Nat)
  /-- Look an imported module up. Takes the handle. -/
  | moduleOf (i : Nat) (name : String)
  | callable (i : Nat) (name : String)
  | result (i : Nat) (args : List Nat)
  /-- Call with a tuple, or with nothing. -/
  | resultWith (i : Nat) (args : Option Nat)
  /-- Takes the handle of the item. -/
  | setListItem (i : Nat) (index : UInt64) (item : Nat)
  /-- Takes the handle of the item. -/
  | setTupleItem (i : Nat) (index : UInt64) (item : Nat)
  | append (i item : Nat)
  /-- Takes whatever it is. -/
  | drop (i : Nat)

namespace HandleTask

open Bench

variable (G : Guest σ)

/-- Perform a task. One that means something that is not there does nothing. -/
def perform : HandleTask → Bench → Bridge σ Bench
  | .number n, b => keep b .handle (n.encode G)
  | .text s, b => keep b .handle (Handle.newText G s)
  | .list length, b => keep b .handle (Handle.newList G length)
  | .tuple length, b => keep b .handle (Handle.newTuple G length)
  | .numbers ns, b => keep b .handle (Sequence.toList G (encoder G ns.kind) ns.values)
  | .picky values, b => keep b .handle (Sequence.toList G (pickyEncoder G) values)
  | .null context, b => do
    let _ ← fetch G context
    pure b
  | .lend o, b => pure (b ++ [.handle (Handle.ofBorrowed o)])
  | .imported name, b => keep b .handle (ModuleHandle.resolve G name)
  | .moduleNamed name, b => keep b .moduleHandle (ModuleHandle.importAs G name)
  | .clone i, b => onItem b i fun h => put b .handle (h.toHandle.clone G)
  | .attr i name, b => onItem b i fun h => keep b .handle (h.toHandle.getAttr G name)
  | .promote i, b => onItem b i fun
    | .handle h => put (b.eraseIdx i) .handle (h.promote G)
    | .callable c =>
      put (b.eraseIdx i) (fun h => .callable { c with handle := h }) (c.handle.promote G)
    | _ => pure b
  | .detach i, b => onItem b i fun
    | .handle h => put (b.eraseIdx i) .reference (h.steal G)
    | .callable c => put (b.eraseIdx i) .reference (c.handle.steal G)
    | _ => pure b
  | .attach i, b => onItem b i fun
    | .reference o => put b .handle (Handle.ofShared G o)
    | _ => pure b
  | .moduleOf i name, b => onItem b i fun
    | .handle h => keep (b.eraseIdx i) .moduleHandle (ModuleHandle.bind G h name)
    | _ => pure b
  | .callable i name, b => onItem b i fun
    | .moduleHandle m => keep b .callable (m.resolveCallable G name)
    | _ => pure b
  | .result i args, b => onItem b i fun
    | .callable c => keep b .handle (c.invokeWith G ((args.filterMap (b[·]?)).map Held.toHandle))
    | _ => pure b
  | .resultWith i args, b => onItem b i fun
    | .callable c => keep b .handle (c.invoke G ((args.bind (b[·]?)).map Held.toHandle))
    | _ => pure b
  | .setListItem i index item, b => onItem b i fun target => onItem b item fun
    | .handle h => attempt (b.eraseIdx item) (target.toHandle.setListItem G index h)
    | _ => pure b
  | .setTupleItem i index item, b => onItem b i fun target => onItem b item fun
    | .handle h => attempt (b.eraseIdx item) (target.toHandle.setTupleItem G index h)
    | _ => pure b
  | .append i item, b => onItem b i fun target => onItem b item fun h =>
    attempt b (target.toHandle.append G h.toHandle)
  | .drop i, b => onItem b i fun h => do
    discard G h
    pure (b.eraseIdx i)

/-- Perform tasks one after the other. -/
def performAll : List HandleTask → Bench → Bridge σ Bench
  | [], b => pure b
  | t :: rest, b => do
    let b ← t.perform G b
    performAll rest b

end HandleTask

/-! ## What tasks leave on the bench -/

namespace Scale

theorem bench_append (b c : Bench) : w.bench (b ++ c) = w.bench b + w.bench c := by
  unfold bench
  rw [List.map_append, List.sum_append]

theorem bench_put (b : Bench) (h : Held) : w.bench (b ++ [h]) = w.bench b + w.worth h := by
  rw [bench_append]
  show _ + (w.worth h + 0) = _
  rw [Int.add_zero]

theorem bench_take {b : Bench} {i : Nat} {h : Held} (hi : b[i]? = some h) :
    w.bench (b.eraseIdx i) = w.bench b - w.worth h :=
  sum_map_eraseIdx w.worth hi

end Scale

namespace Bench

variable {b : Bench} {wrap : α → Held} {c : Int}

/-- What was taken for it is gone, what was made is there. -/
theorem put_weighed (hR : R.Composes) {x : Bridge σ α}
    (hx : x.Obeys R fun a => w.worth (wrap a) - c) :
    (put b wrap x).Obeys R fun b' => w.bench b' - (w.bench b + c) := by
  unfold put
  refine hx.bind hR fun a => Bridge.Obeys.pure hR ?_
  rw [Scale.bench_put]
  omega

theorem keep_weighed (hR : R.Composes) {x : Attempt σ ε α}
    (hx : x.Obeys R (fun a => w.worth (wrap a) - c) (-c)) :
    (keep b wrap x).Obeys R fun b' => w.bench b' - (w.bench b + c) := by
  unfold keep
  refine Bridge.Obeys.bind hR hx fun r => ?_
  cases r with
  | ok a =>
    refine Bridge.Obeys.pure hR ?_
    simp only [leaves, Scale.bench_put]
    omega
  | error e =>
    refine Bridge.Obeys.pure hR ?_
    simp only [leaves]
    omega

theorem attempt_weighed (hR : R.Composes) {x : Attempt σ ε Unit}
    (hx : x.Obeys R (fun _ => -c) (-c)) :
    (attempt b x).Obeys R fun b' => w.bench b' - (w.bench b + c) := by
  unfold attempt
  refine Bridge.Obeys.bind hR hx fun r => Bridge.Obeys.pure hR ?_
  cases r with
  | ok u =>
    simp only [leaves]
    omega
  | error e =>
    simp only [leaves]
    omega

theorem discard_weighed (hR : R.Weighs w G) (h : Held) :
    (discard G h).Obeys R fun _ => -w.worth h := by
  cases h with
  | reference o => exact hR.release o
  | handle h => exact Handle.drop_weighed hR h
  | moduleHandle m => exact Handle.drop_weighed hR m.handle
  | callable c => exact Handle.drop_weighed hR c.handle

end Bench

namespace HandleTask

open Bench

/-- Something that takes nothing from the bench. -/
theorem added {b : Bench} {x : Bridge σ Bench}
    (hx : x.Obeys R fun b' => w.bench b' - (w.bench b + 0)) :
    x.Obeys R fun b' => w.bench b' - w.bench b :=
  hx.congr fun _ => by omega

/-- Something that takes one thing from the bench. -/
theorem taken {b : Bench} {i : Nat} {h : Held} {x : Bridge σ Bench} (hi : b[i]? = some h)
    (hx : x.Obeys R fun b' => w.bench b' - (w.bench (b.eraseIdx i) + w.worth h)) :
    x.Obeys R fun b' => w.bench b' - w.bench b := by
  refine hx.congr fun _ => ?_
  rw [Scale.bench_take hi]
  omega

theorem untouched (hR : R.Composes) (b : Bench) :
    (pure b : Bridge σ Bench).Obeys R fun b' => w.bench b' - w.bench b :=
  Bridge.Obeys.pure hR (Int.sub_self _)

theorem onItem_weighed (hR : R.Composes) {b : Bench} {i : Nat} {f : Held → Bridge σ Bench}
    (hf : ∀ h, b[i]? = some h → (f h).Obeys R fun b' => w.bench b' - w.bench b) :
    (onItem b i f).Obeys R fun b' => w.bench b' - w.bench b := by
  unfold onItem
  split
  next h hi => exact hf h hi
  next => exact untouched hR b

theorem made {b : Bench} (hR : R.Composes) {wrap : α → Held} {n : α → Int} {x : Attempt σ ε α}
    (hx : x.Obeys R n 0) (hwrap : ∀ a, w.worth (wrap a) = n a) :
    (keep b wrap x).Obeys R fun b' => w.bench b' - w.bench b := by
  refine added (keep_weighed hR (hx.congr (fun a => ?_) rfl))
  rw [hwrap, Int.sub_zero]

/-- A task leaves behind what it puts on the bench, less what it takes from it. -/
theorem perform_weighed (hR : R.WeighsRequests w G) (t : HandleTask) (b : Bench) :
    (t.perform G b).Obeys R fun b' => w.bench b' - w.bench b := by
  have hc := hR.toComposes
  cases t with
  | number n => exact made hc (n.encode_weighed hR) fun _ => rfl
  | text s => exact made hc (Handle.newText_weighed hR s) fun _ => rfl
  | list length => exact made hc (Handle.newList_weighed hR length) fun _ => rfl
  | tuple length => exact made hc (Handle.newTuple_weighed hR length) fun _ => rfl
  | numbers ns =>
    have encoded : ∀ n, ((encoder G ns.kind).encode n).Obeys R w.stake 0 :=
      fun n => n.encode_weighed hR
    exact made hc (Sequence.toList_weighed hR encoded ns.values) fun _ => rfl
  | picky values =>
    exact made hc (Sequence.toList_weighed hR (pickyEncoder_weighed hR) values) fun _ => rfl
  | null context =>
    refine (hR.fetch context).seq hc fun _ => ?_
    exact untouched hc b
  | lend o =>
    refine Bridge.Obeys.pure hc ?_
    rw [Scale.bench_put]
    show w.bench b + 0 - w.bench b = 0
    omega
  | imported name => exact made hc (ModuleHandle.resolve_weighed hR name) fun _ => rfl
  | moduleNamed name =>
    exact made hc (ModuleHandle.importAs_weighed hR name (n := fun m => w.stake m.handle)
      fun _ _ => rfl) fun _ => rfl
  | clone i =>
    refine onItem_weighed hc fun h _ => added (put_weighed hc ?_)
    exact (Handle.clone_weighed hR.toWeighs h.toHandle).congr fun _ => (Int.sub_zero _).symm
  | attr i name =>
    exact onItem_weighed hc fun h _ =>
      made hc (Handle.getAttr_weighed hR h.toHandle name) fun _ => rfl
  | promote i =>
    refine onItem_weighed hc fun h hi => ?_
    cases h with
    | handle h => exact taken hi (put_weighed hc (Handle.promote_weighed hR.toWeighs h))
    | callable c => exact taken hi (put_weighed hc (Handle.promote_weighed hR.toWeighs c.handle))
    | _ => exact untouched hc b
  | detach i =>
    refine onItem_weighed hc fun h hi => ?_
    cases h with
    | handle h => exact taken hi (put_weighed hc (Handle.steal_weighed hR.toWeighs h))
    | callable c => exact taken hi (put_weighed hc (Handle.steal_weighed hR.toWeighs c.handle))
    | _ => exact untouched hc b
  | attach i =>
    refine onItem_weighed hc fun h _ => ?_
    cases h with
    | reference o =>
      refine added (put_weighed hc ?_)
      exact (Handle.ofShared_weighed hR.toWeighs o).congr fun _ => (Int.sub_zero _).symm
    | _ => exact untouched hc b
  | moduleOf i name =>
    refine onItem_weighed hc fun h hi => ?_
    cases h with
    | handle h =>
      exact taken hi (keep_weighed hc (ModuleHandle.bind_weighed hR h name
        (n := fun m => w.stake m.handle) fun _ _ => rfl))
    | _ => exact untouched hc b
  | callable i name =>
    refine onItem_weighed hc fun h _ => ?_
    cases h with
    | moduleHandle m =>
      exact made hc (ModuleHandle.resolveCallable_weighed hR m name
        (n := fun c => w.stake c.handle) fun _ _ _ => rfl) fun _ => rfl
    | _ => exact untouched hc b
  | result i args =>
    refine onItem_weighed hc fun h _ => ?_
    cases h with
    | callable c => exact made hc (CallableHandle.invokeWith_weighed hR c _) fun _ => rfl
    | _ => exact untouched hc b
  | resultWith i args =>
    refine onItem_weighed hc fun h _ => ?_
    cases h with
    | callable c => exact made hc (CallableHandle.invoke_weighed hR c _) fun _ => rfl
    | _ => exact untouched hc b
  | setListItem i index item =>
    refine onItem_weighed hc fun target _ => onItem_weighed hc fun h hi => ?_
    cases h with
    | handle h =>
      exact taken hi (attempt_weighed hc (Handle.setListItem_weighed hR target.toHandle index h))
    | _ => exact untouched hc b
  | setTupleItem i index item =>
    refine onItem_weighed hc fun target _ => onItem_weighed hc fun h hi => ?_
    cases h with
    | handle h =>
      exact taken hi (attempt_weighed hc (Handle.setTupleItem_weighed hR target.toHandle index h))
    | _ => exact untouched hc b
  | append i item =>
    exact onItem_weighed hc fun target _ => onItem_weighed hc fun h _ =>
      added (attempt_weighed hc (Handle.append_weighed hR target.toHandle h.toHandle))
  | drop i =>
    refine onItem_weighed hc fun h hi => ?_
    refine (discard_weighed hR.toWeighs h).bind hc fun _ => Bridge.Obeys.pure hc ?_
    rw [Scale.bench_take hi]
    omega

theorem performAll_weighed (hR : R.WeighsRequests w G) :
    ∀ (ts : List HandleTask) (b : Bench),
      (performAll G ts b).Obeys R fun b' => w.bench b' - w.bench b := by
  intro ts
  induction ts with
  | nil => intro b; exact untouched hR.toComposes b
  | cons t ts ih =>
    intro b
    unfold performAll
    refine (perform_weighed hR t b).bind hR.toComposes fun b₁ => ?_
    exact (ih b₁).congr fun b₂ => by omega

end HandleTask

end Embedder
