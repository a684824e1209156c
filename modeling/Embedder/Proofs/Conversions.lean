import Embedder.Proofs.Balance
import Embedder.Proofs.Conduct.Operation
import Embedder.Proofs.Reading

/-!
# Numbers are read exactly where they are numbers

The interpreter has its own rules for what is a number. A float and an integer are what they are, any
other object is asked to convert itself, and an integer that does not fit what was asked for is an
error (`Guest.ConvertsNumbers`). The host sees the answer through a sentinel. As a conversion that
fails leaves an exception, the sentinel is told from the number that looks like it, so to read a
number is to request it (`Scalar.checked_run`).

The decoders accept exactly what is a number of their kind, with its value. What they refuse comes
with a report: of the exception that the conversion raised, or of an object of the wrong kind, which
is called by the name that its class gives, if it gives one (`Scalar.decoding_laws`).
-/

namespace Embedder

open Exception

variable {σ α β γ δ ε : Type} {G : Guest σ} {h h' : Host σ} {o : Handle}

/-! ## What is documented of conversions -/

/-- What a conversion makes of the answer to a question that it asks first: of a value what it stands
for, if it stands for anything, and of an exception nothing else. Where there is no number there is
an exception. -/
def Reply.Passes (f : α → Option β) : Reply α → Reply β → Prop
  | .value a, r =>
    match f a with
    | some b => r = .value b
    | none => ∃ p, r = .raised p
  | .raised p, r => r = .raised p
  | .failed, r => ∃ p, r = .raised p

/-- The 64-bit word for an integer, if it is in range. -/
def int64? (i : Int) : Option Int64 :=
  if -2 ^ 63 ≤ i ∧ i < 2 ^ 63 then some (Int64.ofInt i) else none

/-- What can be seen of an object as a number. -/
structure NumberView (σ : Type) where
  /-- The value of a float, also if its class is derived from that of floats. -/
  float : Obj → σ → Option Double
  /-- The value of an integer or a truth value. -/
  int : Obj → σ → Option Int
  /-- What comes of the conversion to a float that a class defines, if it defines one. -/
  floating : Obj → σ → Option (Reply Double)
  /-- What comes of the conversion to an index that a class defines, if it defines one. -/
  index : Obj → σ → Option (Reply Int)

namespace NumberView

/-- An object as an integer: by itself, or by its conversion to an index. -/
def integer (V : NumberView σ) (o : Obj) (w : σ) : Reply Int :=
  match V.int o w with
  | some i => .value i
  | none => (V.index o w).getD .failed

theorem integer_of_int {V : NumberView σ} {o : Obj} {w : σ} {i : Int} (hint : V.int o w = some i) :
    V.integer o w = .value i := by
  rw [integer, hint]

theorem integer_of_index {V : NumberView σ} {o : Obj} {w : σ} (hint : V.int o w = none) :
    V.integer o w = (V.index o w).getD .failed := by
  rw [integer, hint]

/-- An object stands for a float: by itself, by its own conversion, or as an integer that is not too
large. -/
inductive IsReal (V : NumberView σ) (o : Obj) (w : σ) : Double → Prop where
  | float {x : Double} (float : V.float o w = some x) : IsReal V o w x
  | floating {x : Double} (noFloat : V.float o w = none)
      (converts : V.floating o w = some (.value x)) : IsReal V o w x
  | integer {i : Int} {x : Double} (noFloat : V.float o w = none)
      (noConversion : V.floating o w = none) (integer : V.integer o w = .value i)
      (fits : Double.ofInt? i = some x) : IsReal V o w x

/-- An object's own conversion to a float raises. -/
def RealRaises (V : NumberView σ) (o : Obj) (w : σ) (p : Pending) : Prop :=
  V.float o w = none ∧
    (V.floating o w = some (.raised p) ∨ V.floating o w = none ∧ V.integer o w = .raised p)

end NumberView

/-- What is documented of the conversions of a guest. -/
structure Guest.ConvertsNumbers (G : Guest σ) (V : NumberView σ) : Prop where
  truths : G.trueObj ≠ G.falseObj
  isFloat : ∀ o w, G.isFloat o w = (V.float o w).isSome
  toInt : ∀ o w, (V.integer o w).Passes int64? (G.toInt o w).value
  toFloat_float : ∀ {o w x}, V.float o w = some x → (G.toFloat o w).value = .value x
  toFloat_floating : ∀ {o w r}, V.float o w = none → V.floating o w = some r →
    r.Passes some (G.toFloat o w).value
  toFloat_integer : ∀ {o w}, V.float o w = none → V.floating o w = none →
    (V.integer o w).Passes Double.ofInt? (G.toFloat o w).value

/-- The words are the integers in range. -/
theorem int64?_eq_some_iff {i : Int} {n : Int64} : int64? i = some n ↔ i = n.toInt := by
  rw [int64?]
  constructor
  · intro h
    split at h
    next hrange =>
      cases h
      rw [Int64.toInt_ofInt_of_le (by omega) (by omega)]
    next => cases h
  · rintro rfl
    have hlow := n.le_toInt
    have hhigh := n.toInt_lt
    rw [if_pos ⟨hlow, hhigh⟩, Int64.ofInt_toInt]

namespace Reply.Passes

variable {f : α → Option β} {r : Reply α} {r' : Reply β}

theorem eq_value_iff (hr : r.Passes f r') {b : β} :
    r' = .value b ↔ ∃ a, r = .value a ∧ f a = some b := by
  cases r with
  | value a =>
    rw [Passes] at hr
    cases hf : f a with
    | some c =>
      rw [hf] at hr
      subst hr
      simp [hf]
    | none =>
      rw [hf] at hr
      obtain ⟨p, rfl⟩ := hr
      simp [hf]
  | raised p =>
    cases hr
    simp
  | failed =>
    obtain ⟨p, rfl⟩ := hr
    simp

/-- No conversion fails without an exception. -/
theorem ne_failed (hr : r.Passes f r') : r' ≠ .failed := by
  cases r with
  | value a =>
    rw [Passes] at hr
    split at hr
    next => rw [hr]; nofun
    next =>
      obtain ⟨p, rfl⟩ := hr
      nofun
  | raised p =>
    cases hr
    nofun
  | failed =>
    obtain ⟨p, rfl⟩ := hr
    nofun

end Reply.Passes

namespace Guest.ConvertsNumbers

variable {V : NumberView σ} {i : Int64} {x : Double} {obj : Obj} {w : σ}

theorem toInt_eq_iff (hG : G.ConvertsNumbers V) :
    (G.toInt obj w).value = .value i ↔ V.integer obj w = .value i.toInt := by
  rw [(hG.toInt obj w).eq_value_iff]
  constructor
  · rintro ⟨n, hn, hi⟩
    rw [hn, int64?_eq_some_iff.1 hi]
  · intro hn
    exact ⟨i.toInt, hn, int64?_eq_some_iff.2 rfl⟩

theorem toFloat_eq_iff (hG : G.ConvertsNumbers V) :
    (G.toFloat obj w).value = .value x ↔ V.IsReal obj w x := by
  constructor
  · intro hx
    cases hfloat : V.float obj w with
    | some y =>
      rw [hG.toFloat_float hfloat] at hx
      cases hx
      exact .float hfloat
    | none =>
      cases hfloating : V.floating obj w with
      | some r =>
        obtain ⟨y, rfl, hy⟩ := (hG.toFloat_floating hfloat hfloating).eq_value_iff.1 hx
        cases hy
        exact .floating hfloat hfloating
      | none =>
        obtain ⟨n, hn, hy⟩ := (hG.toFloat_integer hfloat hfloating).eq_value_iff.1 hx
        exact .integer hfloat hfloating hn hy
  · rintro (hfloat | ⟨hfloat, hfloating⟩ | ⟨hfloat, hfloating, hn, hy⟩)
    · exact hG.toFloat_float hfloat
    · exact (hG.toFloat_floating hfloat hfloating).eq_value_iff.2 ⟨x, rfl, rfl⟩
    · exact (hG.toFloat_integer hfloat hfloating).eq_value_iff.2 ⟨_, hn, hy⟩

theorem toInt_ne_failed (hG : G.ConvertsNumbers V) : (G.toInt obj w).value ≠ .failed :=
  (hG.toInt obj w).ne_failed

theorem toFloat_ne_failed (hG : G.ConvertsNumbers V) : (G.toFloat obj w).value ≠ .failed := by
  cases hfloat : V.float obj w with
  | some y =>
    rw [hG.toFloat_float hfloat]
    nofun
  | none =>
    cases hfloating : V.floating obj w with
    | some r => exact (hG.toFloat_floating hfloat hfloating).ne_failed
    | none => exact (hG.toFloat_integer hfloat hfloating).ne_failed

end Guest.ConvertsNumbers

/-! ## The sentinel -/

namespace Scalar

/-- The sentinel stands for a failure exactly if an exception is pending, so a checked number is a
requested one. -/
theorem checked_run [DecidableEq β] {sentinel : β} {context : String} {f : σ → Outcome σ β}
    (hf : (f h.world).value ≠ .failed) (hp : h.pending = none) :
    (checked G sentinel context f).run.run h = h.requested G context f := by
  have hafter : (h.after (f h.world)).pending = none := hp
  unfold checked Host.requested
  refine (Bridge.run_bind (ask_run f hp)).trans ?_
  cases hv : (f h.world).value with
  | failed => exact absurd hv hf
  | value b =>
    dsimp only [Reply.answer?, Reply.left?, Option.getD_some]
    rw [Host.pend_self hafter]
    by_cases hb : b = sentinel
    · -- the number that looks like a failure: no exception is pending
      rw [if_pos hb, isPending, bind_assoc, Bridge.run_get_bind, pure_bind, hafter]
      rfl
    · rw [if_neg hb]
      rfl
  | raised p =>
    dsimp only [Reply.answer?, Reply.left?, Option.getD_none]
    rw [if_pos rfl, isPending, bind_assoc, Bridge.run_get_bind, pure_bind]
    show (fetch G context >>= fun r => pure (Except.error r)).run
      ((h.after (f h.world)).pend (some p)) = _
    rw [Bridge.run_bind_pure, fetch_run_of_some rfl]
    show Except.map _ (((h.after (f h.world)).pend none).taken G p) = _
    rw [Host.pend_self hafter]

end Scalar

/-! ## The name of a class -/

/-- The name of an object's class: the text of the attribute `__name__` of its attribute
`__class__`. -/
def Guest.classNameOf (G : Guest σ) (obj : Obj) : StateT σ Option String := do
  let cls ← asking (G.getAttr obj "__class__")
  let name ← asking (G.getAttr cls "__name__")
  modify fun w => (G.release cls w).world
  let told ← asking (G.str name)
  let text ← asking (G.text told)
  modify fun w => (G.release told w).world
  modify fun w => (G.release name w).world
  pure text

/-- The attempt comes to what calls of the guest give, in the form `φ`, if all of them answer, and
otherwise to an error. -/
def Attempt.Follows (φ : γ → α) (x : Attempt σ ε α) (c : StateT σ Option γ) : Prop :=
  ∀ h r h', h.pending = none → x.run.run h = .ok (r, h') →
    h'.pending = none ∧ r.toOption.map (·, h'.world) = (c.run h.world).map fun y => (φ y.1, y.2)

namespace Attempt.Follows

variable {φ : γ → α} {x : Attempt σ ε α} {c : StateT σ Option γ}

theorem bind {ψ : δ → β} {f : α → Attempt σ ε β} {d : γ → StateT σ Option δ} (hx : x.Follows φ c)
    (hf : ∀ b, (f (φ b)).Follows ψ (d b)) : (x >>= f).Follows ψ (c >>= d) := by
  intro h r h' hp hr
  rcases Attempt.bind_cases hr with ⟨e, rfl, hxr⟩ | ⟨a, h₁, hxr, hfr⟩
  · obtain ⟨hp', hc⟩ := hx h _ h' hp hxr
    have hnone : c.run h.world = none := Option.map_eq_none_iff.1 hc.symm
    refine ⟨hp', ?_⟩
    rw [StateT.run_bind, hnone]
    rfl
  · obtain ⟨hp₁, hc⟩ := hx h _ h₁ hp hxr
    obtain ⟨⟨b, w⟩, hb, heq⟩ := Option.map_eq_some_iff.1 hc.symm
    cases heq
    obtain ⟨hp', hd⟩ := hf b h₁ r h' hp₁ hfr
    refine ⟨hp', ?_⟩
    rw [StateT.run_bind, hb]
    exact hd

theorem request (context : String) (f : σ → Outcome σ α) :
    (Exception.request G context f).Follows id (asking f) := by
  intro h r h' hp hr
  have hasking : (asking f).run h.world = (f h.world).value.answer?.map (·, (f h.world).world) := rfl
  rw [request_run hp] at hr
  refine ⟨requested_pending hp hr, ?_⟩
  rw [hasking]
  cases requested_ok hr with
  | value gave =>
    rw [gave]
    rfl
  | failed gave =>
    rw [gave]
    rfl
  | raised gave taken =>
    rw [gave]
    rfl

/-- A new reference has a handle. -/
theorem requestNew (context : String) (f : σ → Outcome σ Obj) :
    (Exception.requestNew G context f).Follows (⟨·, .owned⟩) (asking f) := by
  have hlast : asking f = asking f >>= pure := (bind_pure _).symm
  rw [hlast]
  refine (request context f).bind fun obj h r h' hp hr => ?_
  cases hr
  exact ⟨hp, rfl⟩

/-- A handle that is owned for what happens ends with it. -/
theorem within {obj : Obj} (hx : x.Follows φ c) :
    (Handle.within G ⟨obj, .owned⟩ x).Follows φ (do
      let a ← c
      modify fun w => (G.release obj w).world
      pure a) := by
  intro h r h' hp hr
  have hrun : (Handle.owning G ⟨obj, .owned⟩ x.run).run h = .ok (r, h') := hr
  rw [Handle.run_owning] at hrun
  obtain ⟨⟨r', k⟩, hxr, heq⟩ := map_ok hrun
  cases heq
  obtain ⟨hpk, hc⟩ := hx h r' k hp hxr
  refine ⟨hpk, ?_⟩
  rw [StateT.run_bind]
  cases r' with
  | error e =>
    have hnone : c.run h.world = none := Option.map_eq_none_iff.1 hc.symm
    rw [hnone]
    rfl
  | ok a =>
    obtain ⟨⟨b, w⟩, hb, heq⟩ := Option.map_eq_some_iff.1 hc.symm
    cases heq
    rw [hb]
    rfl

end Attempt.Follows

namespace Scalar

/-- The class of an object tells its name. -/
theorem toldClassName_follows (o : Handle) :
    (toldClassName G o).Follows id (G.classNameOf o.obj) := by
  have hprogram : G.classNameOf o.obj = (do
      let cls ← asking (G.getAttr o.obj "__class__")
      let name ← (do
        let name ← asking (G.getAttr cls "__name__")
        modify fun w => (G.release cls w).world
        pure name)
      let text ← (do
        let told ← asking (G.str name)
        let text ← asking (G.text told)
        modify fun w => (G.release told w).world
        pure text)
      modify fun w => (G.release name w).world
      pure text) := by
    simp only [Guest.classNameOf, bind_assoc, pure_bind]
  unfold toldClassName
  rw [hprogram, Handle.getAttr_eq (by decide)]
  refine (Attempt.Follows.requestNew _ _).bind fun cls => ?_
  rw [Handle.getAttr_eq (by decide)]
  refine (Attempt.Follows.requestNew _ _).within.bind fun name => ?_
  have hstr : (Handle.str G ⟨name, .owned⟩).Follows id (do
      let told ← asking (G.str name)
      let text ← asking (G.text told)
      modify fun w => (G.release told w).world
      pure text) :=
    (Attempt.Follows.requestNew _ _).bind fun told => (Attempt.Follows.request _ (G.text told)).within
  exact hstr.within

/-- The report of an object of the wrong kind. -/
def mistaken (expected : String) (found : Option String) : ExceptionReport :=
  ⟨"TypeError", "expected " ++ expected ++ ", found '" ++ found.getD "object" ++ "'", none⟩

theorem wrongKind_ok {expected : String} {r : ExceptionReport} (hp : h.pending = none)
    (hr : (wrongKind G o expected).run h = .ok (r, h')) :
    r = mistaken expected ((G.classNameOf o.obj).run' h.world) := by
  obtain ⟨found, h₁, hfound, hlast⟩ := Bridge.bind_ok hr
  obtain ⟨rfl, rfl⟩ := Bridge.pure_ok hlast
  obtain ⟨told, h₂, htold, hrest⟩ := Bridge.bind_ok (x := (toldClassName G o).run) hfound
  obtain ⟨-, hname⟩ := toldClassName_follows o h told h₂ hp htold
  have hrun' : (G.classNameOf o.obj).run' h.world = told.toOption := by
    have hfirst := congrArg (Option.map Prod.fst) hname
    rw [Option.map_map, Option.map_map] at hfirst
    exact hfirst.symm.trans Option.map_id'
  rw [hrun']
  cases told with
  | ok s =>
    obtain ⟨rfl, -⟩ := Bridge.pure_ok hrest
    rfl
  | error e =>
    obtain ⟨rfl, -⟩ := Bridge.pure_ok hrest
    rfl

/-! ## The decoders -/

end Scalar

/-- What is made of an object, if it comes to anything. -/
def Decoder.Gives (D : Decoder σ β) (o : Handle) (h : Host σ) (r : Except ExceptionReport β) : Prop :=
  ∃ h', (D.decode o).run.run h = .ok (r, h')

/-- The report of the exception that a call raises: what the guest tells of it, once it is
normalized. -/
def Guest.Reports (G : Guest σ) (f : σ → Outcome σ α) (w : σ) (r : ExceptionReport) : Prop :=
  ∃ p, (f w).value = .raised p ∧
    G.Describes (G.normalize p (f w).world).value (G.normalize p (f w).world).world r

/-- How a decoder decides: it accepts these values of an object and no others, and what it gives for
any other object is such a report. Nothing is pending afterwards, no handle is left, and there is an
answer unless printing an exception ended the process. -/
structure Decoder.Decides (G : Guest σ) (D : Decoder σ β) (o : Handle) (h : Host σ)
    (accepts : β → Prop) (reports : ExceptionReport → Prop) : Prop where
  accepts : ∀ b, D.Gives o h (.ok b) ↔ accepts b
  refuses : ∀ r, D.Gives o h (.error r) → reports r
  settled : Ends ((D.decode o).run.run h) fun y => y.2.pending = none ∧ y.2.live = h.live
  returns : ∀ e, (D.decode o).run.run h = .error e →
    h.printing = true ∧ ∃ p w, (G.print p w).value = some e.status

/-- A tidy decoder leaves nothing behind. -/
theorem Sequence.Tidy.decides {D : Decoder σ β} (hD : Sequence.Tidy G D) (hp : h.pending = none)
    {accepts : β → Prop} {reports : ExceptionReport → Prop}
    (haccepts : ∀ b, D.Gives o h (.ok b) ↔ accepts b)
    (hrefuses : ∀ r, D.Gives o h (.error r) → reports r) : D.Decides G o h accepts reports where
  accepts := haccepts
  refuses := hrefuses
  settled := by
    rintro ⟨r, k⟩ hr
    obtain ⟨hpending, hlive⟩ := hD.lawful _ (balanced_lawful G) o h r k hr
    refine ⟨hpending hp, ?_⟩
    rw [leaves_zero] at hlive
    exact hlive.trans (Int.add_zero _)
  returns := by
    intro e he
    have hsurvives := hD.surviving o h
    rw [he] at hsurvives
    cases hsurvives with
    | printed on ended => exact ⟨on, _, _, ended⟩

namespace Scalar

variable {V : NumberView σ}

/-- A requested number is accepted where the call gives it. -/
theorem gives_ok_iff {D : Decoder σ β} {context : String} {f : σ → Outcome σ β}
    (hrun : (D.decode o).run.run h = h.requested G context f) {b : β} :
    D.Gives o h (.ok b) ↔ (f h.world).value = .value b := by
  constructor
  · rintro ⟨h', hr⟩
    rw [hrun] at hr
    cases requested_ok hr with
    | value gave => exact gave
  · intro gave
    exact ⟨_, hrun.trans (requested_of_value gave)⟩

/-- A requested number is refused with the report of the exception. -/
theorem reports_of_gives {D : Decoder σ β} {context : String} {f : σ → Outcome σ β}
    (hrun : (D.decode o).run.run h = h.requested G context f) (hf : (f h.world).value ≠ .failed)
    {r : ExceptionReport} (hr : D.Gives o h (.error r)) : G.Reports f h.world r := by
  obtain ⟨h', hr⟩ := hr
  rw [hrun] at hr
  cases requested_ok hr with
  | failed gave => exact absurd gave hf
  | @raised p _ _ gave taken =>
    obtain ⟨rfl, -⟩ := drained_ok taken
    exact ⟨p, gave, G.describe_report _ _⟩

theorem decodeFloat_run (hG : G.ConvertsNumbers V) (hp : h.pending = none) :
    ((decodeFloat G).decode o).run.run h = h.requested G "PyFloat_AsDouble" (G.toFloat o.obj) :=
  checked_run hG.toFloat_ne_failed hp

theorem decodeInt_run_of_float (hfloat : G.isFloat o.obj h.world = true) :
    ((decodeInt G).decode o).run.run h =
      ((wrongKind G o "int").run h).map fun y => (.error y.1, y.2) := by
  have hlook : (Bridge.inspect (G.isFloat o.obj)).run h = .ok (true, h) := by
    rw [← hfloat]
    rfl
  refine (Bridge.run_bind hlook).trans ?_
  rw [if_pos rfl, Bridge.run_bind_pure]

theorem decodeInt_run (hG : G.ConvertsNumbers V) (hfloat : G.isFloat o.obj h.world = false)
    (hp : h.pending = none) :
    ((decodeInt G).decode o).run.run h = h.requested G "PyLong_AsLongLong" (G.toInt o.obj) := by
  have hlook : (Bridge.inspect (G.isFloat o.obj)).run h = .ok (false, h) := by
    rw [← hfloat]
    rfl
  refine (Bridge.run_bind hlook).trans ?_
  rw [if_neg Bool.false_ne_true]
  exact checked_run hG.toInt_ne_failed hp

/-- The object for a truth value. -/
def truth (G : Guest σ) (b : Bool) : Obj := if b then G.trueObj else G.falseObj

theorem decodeBool_run (hG : G.ConvertsNumbers V) (b : Bool) (ho : o.obj = truth G b) :
    ((decodeBool G).decode o).run.run h = .ok (.ok b, h) := by
  cases b with
  | true =>
    have ho : o.obj = G.trueObj := ho
    show StateT.run (if o.obj = G.trueObj then _ else _) h = _
    rw [if_pos ho]
    rfl
  | false =>
    have ho : o.obj = G.falseObj := ho
    show StateT.run (if o.obj = G.trueObj then _ else if o.obj = G.falseObj then _ else _) h = _
    rw [if_neg (ho ▸ hG.truths.symm), if_pos ho]
    rfl

theorem decodeBool_run_of_other (ho : ∀ b, o.obj ≠ truth G b) :
    ((decodeBool G).decode o).run.run h =
      ((wrongKind G o "bool").run h).map fun y => (.error y.1, y.2) := by
  have htrue : o.obj ≠ G.trueObj := ho true
  have hfalse : o.obj ≠ G.falseObj := ho false
  show StateT.run (if o.obj = G.trueObj then _ else if o.obj = G.falseObj then _ else _) h = _
  rw [if_neg htrue, if_neg hfalse, Bridge.run_bind_pure]

/-- An object of the wrong kind is refused, and the report says what it is. -/
theorem gives_of_wrongKind {D : Decoder σ β} {expected : String} (hp : h.pending = none)
    (hrun : (D.decode o).run.run h =
      ((wrongKind G o expected).run h).map fun y => (.error y.1, y.2))
    {x : Except ExceptionReport β} (hx : D.Gives o h x) :
    x = .error (mistaken expected ((G.classNameOf o.obj).run' h.world)) := by
  obtain ⟨h', hx⟩ := hx
  rw [hrun] at hx
  obtain ⟨⟨r, k⟩, hr, heq⟩ := map_ok hx
  cases heq
  rw [wrongKind_ok hp hr]

/-- **The decoders accept exactly their domains.** A 64-bit integer is read of an object that is no
float and stands for that integer, by itself or by its conversion to an index, and a float of one that
stands for that float. Of the two truth values alone a truth value is read. Minus one is no exception to
this.

Any other object is refused. A float is no integer, and the report calls it by the name of its class,
or an object if that cannot be read; so it is with all that is no truth value. In all other cases the
report is of the exception that the conversion raised: of the one that the object's own conversion
raised, if it did. -/
theorem decoding_laws (hG : G.ConvertsNumbers V) (o : Handle) (h : Host σ)
    (hp : h.pending = none) :
    (decodeInt G).Decides G o h
      (fun i => V.float o.obj h.world = none ∧ V.integer o.obj h.world = .value i.toInt)
      (fun r =>
        (V.float o.obj h.world ≠ none ∧
          r = mistaken "int" ((G.classNameOf o.obj).run' h.world)) ∨
        (V.float o.obj h.world = none ∧ G.Reports (G.toInt o.obj) h.world r ∧
          ∀ p, V.integer o.obj h.world = .raised p →
            (G.toInt o.obj h.world).value = .raised p)) ∧
    (decodeFloat G).Decides G o h (V.IsReal o.obj h.world)
      (fun r => G.Reports (G.toFloat o.obj) h.world r ∧
        ∀ p, V.RealRaises o.obj h.world p → (G.toFloat o.obj h.world).value = .raised p) ∧
    (decodeBool G).Decides G o h (fun b => o.obj = truth G b)
      (fun r => r = mistaken "bool" ((G.classNameOf o.obj).run' h.world)) := by
  have hsurviving := Trait.surviving_lawful G fun _ => ()
  refine ⟨?_, ?_, ?_⟩
  · have htidy : Sequence.Tidy G (decodeInt G) := ⟨decodeInt_lawful, decodeInt_has hsurviving⟩
    cases hfloat : V.float o.obj h.world with
    | some x =>
      have hrun := decodeInt_run_of_float (G := G) (o := o) (h := h) (by rw [hG.isFloat, hfloat]; rfl)
      refine htidy.decides hp (fun i => ?_) fun r hr => ?_
      · refine ⟨fun hi => ?_, fun hi => nomatch hi.1⟩
        cases gives_of_wrongKind hp hrun hi
      · cases gives_of_wrongKind hp hrun hr
        exact .inl ⟨Option.some_ne_none x, rfl⟩
    | none =>
      have hrun := decodeInt_run (o := o) hG (by rw [hG.isFloat, hfloat]; rfl) hp
      refine htidy.decides hp (fun i => ?_) fun r hr => .inr ⟨rfl, ?_, fun p hraised => ?_⟩
      · rw [gives_ok_iff hrun, hG.toInt_eq_iff]
        exact ⟨fun hi => ⟨rfl, hi⟩, And.right⟩
      · exact reports_of_gives hrun hG.toInt_ne_failed hr
      · have hpasses := hG.toInt o.obj h.world
        rw [hraised] at hpasses
        exact hpasses
  · have htidy : Sequence.Tidy G (decodeFloat G) :=
      ⟨decodeFloat_weighed.lawful, decodeFloat_has hsurviving⟩
    have hrun := decodeFloat_run (o := o) hG hp
    refine htidy.decides hp (fun x => ?_) fun r hr => ⟨?_, fun p hraises => ?_⟩
    · rw [gives_ok_iff hrun, hG.toFloat_eq_iff]
    · exact reports_of_gives hrun hG.toFloat_ne_failed hr
    · obtain ⟨hfloat, hraised | ⟨hfloating, hraised⟩⟩ := hraises
      · exact hG.toFloat_floating hfloat hraised
      · have hpasses := hG.toFloat_integer hfloat hfloating
        rw [hraised] at hpasses
        exact hpasses
  · have htidy : Sequence.Tidy G (decodeBool G) :=
      ⟨decodeBool_weighed.lawful, decodeBool_has hsurviving⟩
    by_cases ho : ∃ b, o.obj = truth G b
    · obtain ⟨b, ho⟩ := ho
      have hrun := decodeBool_run (h := h) hG b ho
      refine htidy.decides hp (fun c => ?_) fun r ⟨k, hr⟩ => ?_
      · constructor
        · rintro ⟨k, hc⟩
          cases hrun.symm.trans hc
          exact ho
        · intro hc
          exact ⟨h, decodeBool_run hG c hc⟩
      · cases hrun.symm.trans hr
    · rw [not_exists] at ho
      have hrun := decodeBool_run_of_other (h := h) ho
      refine htidy.decides hp (fun b => ⟨fun hb => ?_, fun hb => absurd hb (ho b)⟩) fun r hr => ?_
      · cases gives_of_wrongKind hp hrun hb
      · cases gives_of_wrongKind hp hrun hr
        rfl

/-- A guest with an object whose conversion to an index raises what its printer takes for the end of
the process. -/
def quitting : Guest Bool :=
  { Process.leaving with toInt := fun _ up => ⟨.raised ⟨willingObj, none, none⟩, up, []⟩ }

/-- While printing is off the exception of a conversion comes back in a report, and while it is on the
decoder never returns. -/
theorem decodeInt_ends_process :
    (((decodeInt quitting).decode ⟨willingObj, .owned⟩).run.run (Host.fresh true)).toOption.map
      (fun x => (x.1, x.2.pending)) = some (.error ⟨"", "", none⟩, none) ∧
    Sequence.endStatus (((decodeInt quitting).decode ⟨willingObj, .owned⟩).run.run
      { Host.fresh true with printing := true }) = some 3 :=
  ⟨by decide +kernel, by decide +kernel⟩

end Scalar

end Embedder
