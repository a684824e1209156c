import Embedder.Binding

/-!
# The registry of bindings

While an interpreter runs, bindings can be kept under ids. Ids count up from one and are not used
again before the next start. A look-up gives a `Ticket`: the binding lives until it is out of the
registry and its last ticket is dropped.
-/

namespace Embedder

namespace Ticket

variable {σ : Type} (G : Guest σ)

/-- The shared binding of a ticket. -/
def share? (t : Ticket) : Bridge σ (Option Share) := do
  let h ← get
  pure (h.shares.lookup t.serial)

/-- Replace the record of a ticket's binding. -/
def setShare (t : Ticket) (s : Share) : Bridge σ Unit :=
  modify fun h =>
    { h with shares := h.shares.map fun e => if e.1 = t.serial then (e.1, s) else e }

/-- Remove the record of a ticket's binding. -/
def removeShare (t : Ticket) : Bridge σ Unit :=
  modify fun h => { h with shares := h.shares.filter fun e => e.1 ≠ t.serial }

/-- Give a binding its first owner. -/
def ofBinding (b : Binding) : Bridge σ Ticket := do
  let serial := (← get).nextSerial
  modify fun h => { h with
    nextSerial := serial + 1
    shares := h.shares ++ [(serial, ⟨b, 1⟩)] }
  pure ⟨serial⟩

/-- One more owner. -/
def clone (t : Ticket) : Bridge σ Ticket := do
  match ← t.share? with
  | some s => t.setShare { s with owners := s.owners + 1 }
  | none => pure ()
  pure t

/-- One owner less, while the lifecycle is busy or not; the binding ends with its last owner. -/
def drop (busy : Bool) (t : Ticket) : Bridge σ Unit := do
  match ← t.share? with
  | none => pure ()
  | some s =>
    if s.owners ≤ 1 then do
      t.removeShare
      s.binding.drop G busy
    else t.setShare { s with owners := s.owners - 1 }

end Ticket

namespace Registry

variable {σ α β : Type} (G : Guest σ)

/-- Run a program on the registry, which exists while an interpreter runs. -/
def whileOpen (f : Registry → Attempt σ Failure α) : Attempt σ Failure α := do
  match (← get).registry with
  | none => throw .notRunning
  | some r => f r

/-- Replace the registry. -/
def put (r : Registry) : Bridge σ Unit := modify fun h => { h with registry := some r }

/-- The number that no id reaches. -/
def idBound : Int := 2 ^ 63 - 1

/-- Keep a binding under a new id. A binding that is refused ends. -/
def insert (b : Binding) : Attempt σ Failure Int := ExceptT.mk do
  match (← get).registry with
  | none => do
    b.drop G false
    pure (.error .notRunning)
  | some r =>
    if r.nextId < idBound then do
      let t ← Ticket.ofBinding b
      put ⟨r.entries ++ [(r.nextId, t)], r.nextId + 1⟩
      pure (.ok r.nextId)
    else do
      b.drop G false
      pure (.error (.invalidArgument "binding id counter overflow"))

/-- A claim on the binding with an id, which stays in the registry. -/
def find (id : Int) : Attempt σ Failure Ticket :=
  whileOpen fun r =>
    match r.entries.lookup id with
    | none => throw (.invalidBinding id)
    | some t => (t.clone : Bridge σ Ticket)

/-- Take the binding with an id out of the registry. -/
def remove (id : Int) : Attempt σ Failure Ticket :=
  whileOpen fun r =>
    match r.entries.lookup id with
    | none => throw (.invalidBinding id)
    | some t => do
      (put ⟨r.entries.filter fun e => e.1 ≠ id, r.nextId⟩ : Bridge σ Unit)
      pure t

/-- The number of bindings in the registry. -/
def size : Attempt σ Failure Nat := whileOpen fun r => pure r.entries.length

/-- Let go of the binding of a ticket. One without another owner is released now; any other ends
with its last ticket. -/
def letGoOne (t : Ticket) : Bridge σ Unit := do
  match ← t.share? with
  | none => pure ()
  | some s =>
    if s.owners ≤ 1 then do
      t.removeShare
      Bridge.act (G.releaseKept true s.binding.kept)
    else t.setShare { s with owners := s.owners - 1 }

/-- Let go of the bindings in some entries. -/
def letGo : List (Int × Ticket) → Bridge σ Unit
  | [] => pure ()
  | e :: rest => do
    letGoOne G e.2
    letGo rest

/-- Take the registry away, while the lifecycle is busy. -/
def destroy : Bridge σ Unit := do
  match (← get).registry with
  | none => pure ()
  | some r => do
    modify fun h => { h with registry := none }
    letGo G r.entries
    if 0 < r.entries.length then
      Bridge.debug "released registered bindings" [.count "count" r.entries.length]

end Registry

/-- Call the binding of a ticket. -/
def Ticket.call {σ α β : Type} (G : Guest σ) (E : Encoder σ α) (D : Decoder σ β) (t : Ticket)
    (args : List α) : Attempt σ Failure (List β) := do
  match ← (t.share? : Bridge σ (Option Share)) with
  | none => throw .notRunning
  | some s => s.binding.callAs G E D args

end Embedder
