import Embedder.Proofs.Conduct.Session

/-!
# References that go over

References go over between the bridge and the interpreter with the calls that the bridge makes: a
new reference comes with an answer, a stolen one goes away with an argument, an exception brings the
references of its parts (`Transfer`). A noting guest does what the guest does and takes notes of
this, call by call, by what the call is documented to do with references. The bridge cannot look
into the notes, so what they can say of runs with a noting guest is what the bridge does with any
guest.
-/

namespace Embedder

/-- A reference to an object came or went. -/
inductive Transfer where
  /-- The bridge made one more for itself. -/
  | made (o : Obj)
  /-- One came with an answer. -/
  | took (o : Obj)
  /-- The bridge passed one on, and the interpreter keeps it. -/
  | gave (o : Obj)
  /-- The bridge passed one on, and the call that was to keep it gave it up. -/
  | spent (o : Obj)
  /-- The bridge gave one up. -/
  | ended (o : Obj)
  deriving DecidableEq, Repr

variable {σ ρ α : Type} {G : Guest σ} {note : List Transfer → ρ → ρ}

namespace Reply

/-- What comes with an answer that brings no new reference: the parts of an exception. -/
def transfers : Reply α → List Transfer
  | .value _ => []
  | .raised p => p.refs.map .took
  | .failed => []

/-- What comes with a new reference. -/
def transfersNew : Reply Obj → List Transfer
  | .value o => [.took o]
  | r => r.transfers

/-- What goes with a stolen item: it is stored, or else the call gives it up. -/
def transfersItem (item : Obj) : Reply Unit → List Transfer
  | .value () => [.gave item]
  | r => .spent item :: r.transfers

end Reply

/-- The state of a guest with notes. -/
structure Noted (σ ρ : Type) where
  inner : σ
  notes : ρ

namespace Noted

/-- Take note of some transfers. -/
def add (note : List Transfer → ρ → ρ) (ts : List Transfer) (w : Noted σ ρ) : Noted σ ρ :=
  { w with notes := note ts w.notes }

/-- The guest acts, and notes are taken of what went over with its answer. -/
def act (note : List Transfer → ρ → ρ) (f : σ → Effect σ α) (passed : α → List Transfer)
    (w : Noted σ ρ) : Effect (Noted σ ρ) α :=
  let e := f w.inner
  ⟨e.value, add note (passed e.value) ⟨e.world, w.notes⟩, e.notices⟩

end Noted

open Noted in
/-- The guest that takes notes. -/
def Guest.noting (G : Guest σ) (note : List Transfer → ρ → ρ) : Guest (Noted σ ρ) where
  isUp w := G.isUp w.inner
  boot n w := { w with inner := G.boot n w.inner }
  shutdown := act note G.shutdown fun _ => []
  retain o w := add note [.made o] { w with inner := G.retain o w.inner }
  release o := act note (G.release o) fun _ => [.ended o]
  releaseKept busy k := act note (G.releaseKept busy k) fun _ => [.ended k.obj]
  refcount o w := G.refcount o w.inner
  importModule name := act note (G.importModule name) Reply.transfersNew
  addModule name := act note (G.addModule name) Reply.transfers
  namespaceOf o := act note (G.namespaceOf o) Reply.transfers
  lookup o name w := G.lookup o name w.inner
  isCallable o w := G.isCallable o w.inner
  getAttr o name := act note (G.getAttr o name) Reply.transfersNew
  length o := act note (G.length o) Reply.transfers
  str o := act note (G.str o) Reply.transfersNew
  text o := act note (G.text o) Reply.transfers
  newText s := act note (G.newText s) Reply.transfersNew
  joinTexts separator texts := act note (G.joinTexts separator texts) Reply.transfersNew
  newList n := act note (G.newList n) Reply.transfersNew
  newTuple n := act note (G.newTuple n) Reply.transfersNew
  setListItem list i item := act note (G.setListItem list i item) (Reply.transfersItem item)
  setTupleItem tuple i item := act note (G.setTupleItem tuple i item) (Reply.transfersItem item)
  append list item := act note (G.append list item) Reply.transfers
  ofFloat d := act note (G.ofFloat d) Reply.transfersNew
  ofInt n := act note (G.ofInt n) Reply.transfersNew
  ofBool b := act note (G.ofBool b) Reply.transfersNew
  trueObj := G.trueObj
  falseObj := G.falseObj
  isFloat o w := G.isFloat o w.inner
  toFloat o := act note (G.toFloat o) Reply.transfers
  toInt o := act note (G.toInt o) Reply.transfers
  iterator o := act note (G.iterator o) Reply.transfersNew
  call f args := act note (G.call f args) Reply.transfersNew
  searchPath w := G.searchPath w.inner
  normalize p := act note (G.normalize p) fun q => p.refs.map .gave ++ q.refs.map .took
  isStopIteration p w := G.isStopIteration p w.inner
  print p := act note (G.print p) fun _ => p.refs.map .gave

theorem Guest.Act.of_noting {f : Noted σ ρ → Effect (Noted σ ρ) α}
    (hf : (G.noting note).Act f) :
    ∃ (g : σ → Effect σ α) (passed : α → List Transfer), G.Act g ∧ f = Noted.act note g passed := by
  cases hf with
  | release o => exact ⟨G.release o, fun _ => [.ended o], .release o, rfl⟩
  | normalize p =>
    exact ⟨G.normalize p, fun q => p.refs.map .gave ++ q.refs.map .took, .normalize p, rfl⟩
  | print p => exact ⟨G.print p, fun _ => p.refs.map .gave, .print p, rfl⟩
  | _ =>
    refine ⟨_, _, ?_, rfl⟩
    constructor

/-! ## What references come to -/

/-- One reference to an object, as far as it is one to `o`. -/
def Obj.ref (x o : Obj) : Int := if x = o then 1 else 0

/-- References to some objects, as far as they are to `o`. -/
def Obj.refs (xs : List Obj) (o : Obj) : Int := (xs.map fun x => x.ref o).sum

@[simp] theorem Obj.refs_nil (o : Obj) : Obj.refs [] o = 0 := rfl

namespace Transfer

/-- What a transfer adds to the references that the bridge holds to an object. -/
def gain (o : Obj) : Transfer → Int
  | .made x | .took x => x.ref o
  | .gave x | .spent x | .ended x => -x.ref o

/-- What some transfers add together. -/
def net (ts : List Transfer) (o : Obj) : Int := (ts.map (gain o)).sum

@[simp] theorem net_nil (o : Obj) : net [] o = 0 := rfl

@[simp] theorem net_cons (t : Transfer) (ts : List Transfer) (o : Obj) :
    net (t :: ts) o = t.gain o + net ts o := List.sum_cons

theorem net_append (ts us : List Transfer) (o : Obj) : net (ts ++ us) o = net ts o + net us o := by
  unfold net
  rw [List.map_append, List.sum_append]

@[simp] theorem gain_made (o x : Obj) : gain o (.made x) = x.ref o := rfl

@[simp] theorem gain_took (o x : Obj) : gain o (.took x) = x.ref o := rfl

@[simp] theorem gain_gave (o x : Obj) : gain o (.gave x) = -x.ref o := rfl

@[simp] theorem gain_spent (o x : Obj) : gain o (.spent x) = -x.ref o := rfl

@[simp] theorem gain_ended (o x : Obj) : gain o (.ended x) = -x.ref o := rfl

/-- Several references that came. -/
theorem net_took (xs : List Obj) (o : Obj) : net (xs.map .took) o = Obj.refs xs o := by
  induction xs with
  | nil => rfl
  | cons x xs ih =>
    rw [List.map_cons, net_cons, ih, gain_took]
    rfl

/-- Several references that went. -/
theorem net_gave (xs : List Obj) (o : Obj) : net (xs.map .gave) o = -Obj.refs xs o := by
  induction xs with
  | nil => rfl
  | cons x xs ih =>
    rw [List.map_cons, net_cons, ih, gain_gave, ← Int.neg_add]
    rfl

/-- What the bridge itself adds to an object's reference count with a transfer. -/
def count (o : Obj) : Transfer → Int
  | .made x => x.ref o
  | .ended x => -x.ref o
  | _ => 0

/-- What goes over to the interpreter with a transfer, less what comes from it. -/
def hand (o : Obj) : Transfer → Int
  | .gave x | .spent x => x.ref o
  | .took x => -x.ref o
  | _ => 0

/-- What the bridge itself added to an object's reference count. -/
def counted (ts : List Transfer) (o : Obj) : Int := (ts.map (count o)).sum

/-- The references to an object that were handed to containers and calls, less those taken from
them. -/
def handed (ts : List Transfer) (o : Obj) : Int := (ts.map (hand o)).sum

/-- What was counted is what the bridge holds, or was handed over. -/
theorem counted_eq (ts : List Transfer) (o : Obj) : counted ts o = net ts o + handed ts o := by
  induction ts with
  | nil => rfl
  | cons t ts ih =>
    have hone : count o t = gain o t + hand o t := by
      cases t with
      | made x => exact (Int.add_zero _).symm
      | took x => exact (Int.add_right_neg _).symm
      | gave x => exact (Int.add_left_neg _).symm
      | spent x => exact (Int.add_left_neg _).symm
      | ended x => exact (Int.add_zero _).symm
    have hcounted : counted (t :: ts) o = count o t + counted ts o := List.sum_cons
    have hhanded : handed (t :: ts) o = hand o t + handed ts o := List.sum_cons
    rw [hcounted, hhanded, net_cons, ih, hone]
    omega

end Transfer

/-- The state of a guest with a ledger of transfers. -/
abbrev Ledgered (σ : Type) := Noted σ (List Transfer)

/-- Some transfers at the end of a ledger. -/
def Transfer.record (ts notes : List Transfer) : List Transfer := notes ++ ts

/-- The guest that writes down every transfer, the oldest first. -/
def Guest.ledgered (G : Guest σ) : Guest (Ledgered σ) := G.noting Transfer.record

end Embedder
