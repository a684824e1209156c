import Embedder.Proofs.Process
import Embedder.Proofs.Threads.Ledger

/-!
# Many threads on one host

A process has one lifecycle, which many threads want. A session shares it with other sessions; a
start or a stop waits until it has it to itself. Who drops a binding does not wait: the lifecycle is
busy for it if a start or a stop has it or waits for it, and then its reference goes to the queue.

`Threads` is the host together with what its threads are at, and they go on by single moves in any
order (`Move`). A stop is many moves: it takes the registry away, comes to one ticket after the
other, then empties the queue in its deferred step and releases one reference after the other, and
then takes the interpreter down. So is the end of a binding: it loses its last owner, it looks at
the lifecycle, and if that was busy it puts its reference into the queue, which may be much later.
Between any two of these moves come the moves of others. What a move does to the host, a program of
the bridge does. A move that is not possible changes nothing.

A binding that finds the lifecycle free keeps starts and stops away until its reference is released,
so that is one move. A session may be entered while a start or a stop waits, and whoever waits may
be kept waiting: the moves allow more than a fair lock would.
-/

namespace Embedder

variable {σ α : Type}

/-- One owner less. If that was the last, the binding. -/
def Ticket.giveUp (t : Ticket) : Bridge σ (Option Binding) := do
  match ← t.share? with
  | none => pure none
  | some s =>
    if s.owners ≤ 1 then do
      t.removeShare
      pure (some s.binding)
    else do
      t.setShare { s with owners := s.owners - 1 }
      pure none

/-- A binding ends with its last owner. -/
theorem Ticket.drop_eq (G : Guest σ) (busy : Bool) (t : Ticket) : t.drop G busy = (do
    match ← t.giveUp with
    | none => pure ()
    | some b => b.drop G busy) := by
  unfold Ticket.drop giveUp
  rw [bind_assoc]
  refine bind_congr fun found => ?_
  cases found with
  | none => rfl
  | some s =>
    dsimp only
    split
    next => rfl
    next => rw [bind_assoc]; rfl

/-- Report that so many entries of the registry were let go of. -/
def Registry.reportLetGo (count : Nat) : Bridge σ Unit :=
  if 0 < count then Bridge.debug "released registered bindings" [.count "count" count] else pure ()

/-- The host goes on in the same generation. Some kept references are released, and there may be
more in the queue. -/
structure Grows (done : List Release) (h h' : Host (Watched σ)) : Prop where
  lifecycle : h'.lifecycle = h.lifecycle
  running : h'.world.running = h.world.running
  diary : h'.world.diary = h.world.diary ++ done
  waiting : h.waiting <+: h'.waiting

/-- Something that threads do, inside sessions or not, without a release of a kept reference. -/
structure Work (σ : Type) where
  run : Bridge (Watched σ) Unit
  grows : ∀ {h h' : Host (Watched σ)} {u : Unit}, run.run h = .ok (u, h') → Grows [] h h'

/-- What the one who has the lifecycle to itself is at. -/
inductive Phase where
  /-- It has just come. -/
  | begun
  /-- A stop tears the registry down, which had so many entries. Those that are left are still to
  be let go of. -/
  | tearing (count : Nat) (left : List (Int × Ticket))
  /-- The same, and in between it drops a ticket that others share. -/
  | parting (count : Nat) (t : Ticket) (left : List (Int × Ticket))
  /-- A stop is in its deferred step, with the settlement of this number. -/
  | settling (j : Nat)
  /-- It is about to go. -/
  | going

/-- Whether a stop tears the registry down. -/
def Phase.tears : Phase → Bool
  | .tearing .. | .parting .. => true
  | .begun | .settling _ | .going => false

/-- A binding that has lost its last owner. -/
structure Ending where
  binding : Binding
  /-- If that was while a stop tore the registry down: the number that the settlement of that stop
  has. -/
  teardown : Option Nat

/-- A host and what its threads are at. -/
structure Threads (σ : Type) where
  host : Host (Watched σ)
  /-- The open sessions, each by the number of its settlement. -/
  sessions : List Nat
  /-- How many starts and stops wait for the lifecycle. -/
  asking : Nat
  /-- The start or the stop that has the lifecycle to itself. -/
  holder : Option Phase
  /-- Bindings that are about to look at the lifecycle. -/
  ending : List Ending
  /-- Bindings that have found it busy. -/
  deferring : List Ending
  ledger : Ledger

inductive Move (σ : Type) where
  /-- A start or a stop comes to wait. -/
  | ask
  /-- It has the lifecycle to itself. -/
  | acquire
  /-- It is a start. -/
  | launch (thread : ThreadId) (config : Config)
  /-- It is a stop, which takes the registry away. -/
  | unfile
  /-- The stop comes to the ticket at a place among those that are left, in whatever order. -/
  | letGo (i : Nat)
  /-- It drops the shared ticket that it came to. -/
  | part
  /-- It empties the queue. -/
  | collect
  /-- It takes the interpreter down. -/
  | finalize (thread : ThreadId)
  /-- It, or a start, goes. -/
  | finish
  /-- A session is entered; it empties the queue. -/
  | enter (expected : Option Nat)
  /-- A settlement comes to the next reference that it took. -/
  | settle (j : Nat)
  /-- The session at a place among those that are open ends. -/
  | leave (i : Nat)
  /-- A binding loses the only owner it had. -/
  | loseBinding (b : Binding)
  /-- A binding loses one of its owners. -/
  | loseTicket (t : Ticket)
  /-- A binding that has lost its last owner looks at the lifecycle. -/
  | look (i : Nat)
  /-- A binding that has found the lifecycle busy puts its reference into the queue. -/
  | push (i : Nat)
  | work (x : Work σ)

namespace Threads

def fresh (world : σ) : Threads σ where
  host := Host.fresh (Watched.begin world)
  sessions := []
  asking := 0
  holder := none
  ending := []
  deferring := []
  ledger := Ledger.empty

/-- Whether one who does not wait finds the lifecycle busy. -/
def busy (s : Threads σ) : Bool := s.holder.isSome || decide (0 < s.asking)

/-- If a stop tears the registry down: the number that its settlement gets. -/
def teardown (s : Threads σ) : Option Nat :=
  if s.holder.any Phase.tears then some s.ledger.settlements.length else none

/-- Whether nothing is left of a settlement. -/
def Settled (s : Threads σ) (j : Nat) : Prop :=
  ∀ c ∈ s.ledger.settlements[j]?, c.left = []

instance (s : Threads σ) (j : Nat) : Decidable (s.Settled j) :=
  inferInstanceAs (Decidable (∀ c ∈ s.ledger.settlements[j]?, c.left = []))

/-- A program runs on the host, and the ledger notes what it did. -/
def does (s : Threads σ) (arrival teardown : Option Nat) (x : Bridge (Watched σ) α)
    (next : α → Threads σ → Threads σ) : Except Exit (Threads σ) := do
  let (a, h) ← x.run s.host
  pure (next a { s with host := h, ledger := s.ledger.note arrival teardown s.host h })

/-- All that waits is taken out of the queue. -/
def take (s : Threads σ) (byStop : Bool) : Threads σ :=
  { s with
    host := { s.host with waiting := [] }
    ledger := s.ledger.take byStop s.host }

/-- Make a move. -/
def step (G : Guest σ) : Move σ → Threads σ → Except Exit (Threads σ)
  | .ask, s => .ok { s with asking := s.asking + 1 }
  | .acquire, s =>
    match s.holder, s.sessions with
    | none, [] =>
      if 0 < s.asking then .ok { s with asking := s.asking - 1, holder := some .begun } else .ok s
    | _, _ => .ok s
  | .launch thread config, s =>
    match s.holder with
    | some .begun =>
      s.does none none (Interpreter.launch G.watched thread config).run fun _ s =>
        { s with holder := some .going }
    | _ => .ok s
  | .unfile, s =>
    match s.holder with
    | some .begun =>
      if s.host.lifecycle.stage = .running then
        let entries := s.host.registry.elim [] (·.entries)
        .ok { s with
          host := { s.host with registry := none }
          holder := some (.tearing entries.length entries) }
      else .ok { s with holder := some .going }
    | _ => .ok s
  | .letGo i, s =>
    match s.holder with
    | some (.tearing count left) =>
      match left[i]? with
      | none => .ok s
      | some (_, t) =>
        -- a ticket that others share cannot be unwrapped, and is dropped next
        if ((s.host.shares.lookup t.serial).any fun share => 1 < share.owners) then
          .ok { s with holder := some (.parting count t (left.eraseIdx i)) }
        else
          s.does none s.teardown (Registry.letGoOne G.watched t) fun _ s =>
            { s with holder := some (.tearing count (left.eraseIdx i)) }
    | _ => .ok s
  | .part, s =>
    match s.holder with
    | some (.parting count t left) =>
      s.does none s.teardown (t.drop G.watched true) fun _ s =>
        { s with holder := some (.tearing count left) }
    | _ => .ok s
  | .collect, s =>
    match s.holder with
    | some (.tearing count []) =>
      s.does none none (Registry.reportLetGo count) fun _ s =>
        { s.take true with holder := some (.settling s.ledger.settlements.length) }
    | _ => .ok s
  | .finalize thread, s =>
    match s.holder with
    | some (.settling j) =>
      if s.Settled j then
        s.does none none (Interpreter.finalize G.watched s.host.lifecycle thread) fun _ s =>
          { s with holder := some .going }
      else .ok s
    | _ => .ok s
  | .finish, s =>
    match s.holder with
    | some .going => .ok { s with holder := none }
    | _ => .ok s
  | .enter expected, s =>
    let life := s.host.lifecycle
    match s.holder with
    | none =>
      if life.stage = .running ∧ expected.all (· = life.generation) then
        .ok { s.take false with sessions := s.sessions ++ [s.ledger.settlements.length] }
      else .ok s
    | _ => .ok s
  | .settle j, s =>
    match s.ledger.settlements[j]? with
    | some c =>
      match c.left with
      | (k, n) :: _ =>
        s.does (some n) s.teardown (Session.settleOne G.watched c.byStop c.generation k) fun _ s =>
          { s with ledger := s.ledger.strike j }
      | [] => .ok s
    | none => .ok s
  | .leave i, s =>
    match s.sessions[i]? with
    | some j => if s.Settled j then .ok { s with sessions := s.sessions.eraseIdx i } else .ok s
    | none => .ok s
  | .loseBinding b, s => .ok { s with ending := s.ending ++ [⟨b, s.teardown⟩] }
  | .loseTicket t, s =>
    s.does none s.teardown t.giveUp fun last s' =>
      { s' with ending := s'.ending ++ (last.map (⟨·, s.teardown⟩)).toList }
  | .look i, s =>
    match s.ending[i]? with
    | some e =>
      let s' := { s with ending := s.ending.eraseIdx i }
      if s.busy then .ok { s' with deferring := s.deferring ++ [e] }
      else s'.does none none (e.binding.drop G.watched false) fun _ s => s
    | none => .ok s
  | .push i, s =>
    match s.deferring[i]? with
    | some e =>
      { s with deferring := s.deferring.eraseIdx i }.does none e.teardown
        (e.binding.drop G.watched true) fun _ s => s
    | none => .ok s
  | .work x, s => s.does none s.teardown x.run fun _ s => s

/-- Make moves one after the other. -/
def run (G : Guest σ) : List (Move σ) → Threads σ → Except Exit (Threads σ)
  | [], s => .ok s
  | m :: rest, s => do
    let s ← step G m s
    run G rest s

end Threads

end Embedder
