import Embedder.Handle

/-!
# Taking exceptions from the interpreter

A call that raises leaves its exception pending. `drain` takes it and describes it for the host:
after it nothing is pending. Describing it runs Python code; what that raises is cleared, and only
the part of the report that needed it is replaced by something plainer.
-/

namespace Embedder.Exception

variable {σ α ε : Type} (G : Guest σ)

/-- End a reference, if there is one. -/
def release? : Option Obj → Bridge σ Unit
  | none => pure ()
  | some o => Bridge.act (G.release o)

/-- End the references of a pending exception. -/
def releasePending (p : Pending) : Bridge σ Unit := do
  Bridge.act (G.release p.kind)
  release? G p.value
  release? G p.trace

/-- Forget what is pending. -/
def clear : Bridge σ Unit := do
  match (← get).pending with
  | none => pure ()
  | some p => do
    modify fun h => { h with pending := none }
    releasePending G p

/-- Leave an exception pending, in place of any other. -/
def raise (p : Pending) : Bridge σ Unit := do
  clear G
  modify fun h => { h with pending := some p }

/-- Ask the guest for something. On failure, what it raised is pending. -/
def ask (f : σ → Outcome σ α) : Bridge σ (Option α) := do
  match ← Bridge.act f with
  | .value a => pure (some a)
  | .raised p => do
    raise G p
    pure none
  | .failed => pure none

/-- Whether an exception is pending. -/
def isPending : Bridge σ Bool := do pure (← get).pending.isSome

/-- Run a helper and forget whatever exception it leaves behind. -/
def silently (f : Bridge σ α) : Bridge σ α := do
  let r ← f
  clear G
  pure r

/-- Ask for a new reference and use it within a scope. -/
def withNew (f : σ → Outcome σ Obj) (body : Handle → Bridge σ (Option α)) :
    Bridge σ (Option α) := do
  match ← ask G f with
  | none => pure none
  | some o => do
    let h ← Handle.ofNew o
    h.owning G (body h)

/-- The contents of a text object. -/
def contents (h : Handle) : Bridge σ (Option String) := ask G (G.text h.obj)

/-- The text of an object. -/
def textOf (h : Handle) : Bridge σ (Option String) := withNew G (G.str h.obj) (contents G)

/-- An attribute that holds a text. -/
def textAttr (h : Handle) (name : String) : Bridge σ (Option String) :=
  withNew G (G.getAttr h.obj name) (contents G)

/-- The lines of a traceback, from the interpreter's own formatter, as one text. -/
def traceLines (trace : Handle) : Bridge σ (Option String) :=
  withNew G (G.importModule "traceback") fun moduleHandle =>
    withNew G (G.getAttr moduleHandle.obj "format_tb") fun format =>
      withNew G (G.newTuple 1) fun args => do
        let copy ← trace.clone G
        let o ← copy.steal G
        match ← ask G (G.setTupleItem args.obj 0 o) with
        | none => pure none
        | some () =>
          withNew G (G.call format.obj (some args.obj)) fun lines =>
            withNew G (G.newText "") fun separator =>
              withNew G (G.joinTexts separator.obj lines.obj) (contents G)

/-- A traceback with its heading. -/
def formatTrace (trace : Handle) : Bridge σ (Option String) := do
  let lines ← silently G (traceLines G trace)
  pure (lines.map ("Traceback (most recent call last):\n" ++ ·))

/-- A new reference to pass on. -/
def copyRef (h : Handle) : Bridge σ Obj := do
  let copy ← h.clone G
  copy.steal G

/-- A new reference to pass on, if there is a handle. -/
def copyRef? : Option Handle → Bridge σ (Option Obj)
  | none => pure none
  | some h => do
    let o ← copyRef G h
    pure (some o)

/-- Let the interpreter print an exception. -/
def print (kind : Handle) (value trace : Option Handle) : Bridge σ Unit := do
  let k ← copyRef G kind
  let v ← copyRef? G value
  let t ← copyRef? G trace
  match ← Bridge.act (G.print ⟨k, v, t⟩) with
  | none => pure ()
  | some status => Bridge.exit status

/-- An owned handle for a reference that may be missing. -/
def ofNew? : Option Obj → Bridge σ (Option Handle)
  | none => pure none
  | some o => do
    let h ← Handle.ofNew o
    pure (some h)

/-- End a handle that may be missing after a program. -/
def owning? (h : Option Handle) (body : Bridge σ α) : Bridge σ α :=
  match h with
  | none => body
  | some h => h.owning G body

/-- The text of an exception's value, if there is a value that has one. -/
def messageOf : Option Handle → Bridge σ (Option String)
  | none => pure none
  | some v => silently G (textOf G v)

/-- The lines of an exception's traceback with their heading, if there are any. -/
def tracebackOf : Option Handle → Bridge σ (Option String)
  | none => pure none
  | some t => formatTrace G t

/-- Print an exception, if that is wanted. -/
def printIfWanted (kind : Handle) (value trace : Option Handle) : Bridge σ Unit := do
  if (← get).printing then print G kind value trace else pure ()

/-- Describe an exception whose parts are in hand, and print it if that is wanted. -/
def describe (kind : Handle) (value trace : Option Handle) : Bridge σ ExceptionReport := do
  let name ← silently G (textAttr G kind "__name__")
  let message ← messageOf G value
  let traceback ← tracebackOf G trace
  let report : ExceptionReport := ⟨name.getD "Exception", message.getD "", traceback⟩
  printIfWanted G kind value trace
  clear G
  Bridge.debug "drained Python exception"
    [.plain "exception" report.typeName, .bare report.message]
  pure report

/-- Take the pending exception, if there is one. -/
def drain : Bridge σ (Option ExceptionReport) := do
  match (← get).pending with
  | none => pure none
  | some p => do
    modify fun h => { h with pending := none }
    let p ← Bridge.act (G.normalize p)
    let kind ← Handle.ofNew p.kind
    let value ← ofNew? p.value
    let trace ← ofNew? p.trace
    let report ← kind.owning G (owning? G value (owning? G trace (describe G kind value trace)))
    pure (some report)

/-- Take the exception of a call that signalled failure. -/
def fetch (context : String) : Bridge σ ExceptionReport := do
  match ← drain G with
  | some r => pure r
  | none => pure (ExceptionReport.missing context)

/-- Whether what is pending marks the end of an iterator: nothing, or a stop, which is cleared. -/
def takeStop : Bridge σ Bool := do
  match (← get).pending with
  | none => pure true
  | some p =>
    if ← Bridge.inspect (G.isStopIteration p) then do
      clear G
      pure true
    else pure false

/-- Ask the guest for something; on failure, take the exception. -/
def request (context : String) (f : σ → Outcome σ α) : Attempt σ ExceptionReport α :=
  ExceptT.mk do
    match ← ask G f with
    | some a => pure (.ok a)
    | none => do
      let r ← fetch G context
      pure (.error r)

/-- Ask for a new reference. -/
def requestNew (context : String) (f : σ → Outcome σ Obj) : Attempt σ ExceptionReport Handle := do
  let o ← request G context f
  (Handle.ofNew o : Bridge σ Handle)

/-- Ask for a borrowed reference. -/
def requestBorrowed (context : String) (f : σ → Outcome σ Obj) :
    Attempt σ ExceptionReport Handle := do
  let o ← request G context f
  pure (Handle.ofBorrowed o)

end Embedder.Exception
