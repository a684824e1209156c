import Embedder.Machine.Interpreter
import Embedder.Proofs.Conversions

/-!
# The interpreter that is modelled converts numbers as documented

A program of the interpreter ends with a value or with what it raised, and the host is told just
that: a raised exception in parts, never nothing (`Exec.outcomeFor_passes`). So the conversions of
`python` are read off their programs, one case for each way in which an object can be a number
(`python_convertsNumbers`).
-/

namespace Embedder.Machine

variable {α β : Type} {w w' : World} {x : Exec α} {o : Obj}

/-! ## How programs end -/

namespace Exec

/-- A program goes on with the value of another one, or ends with what that raised. -/
theorem run_bind (x : Exec α) (f : α → Exec β) (w : World) :
    (x >>= f).run w =
      match x.run w with
      | (.ok a, w') => (f a).run w'
      | (.error r, w') => (.error r, w') := by
  have hcont : (x >>= f).run w =
      ExceptT.bindCont (fun a => f a (Engine.ofDepth recursionLimit)) (x.run w).1 (x.run w).2 := rfl
  rw [hcont]
  cases x.run w with
  | mk y w' => cases y <;> rfl

theorem run_bind_ok {a : α} (hx : x.run w = (.ok a, w')) (f : α → Exec β) :
    (x >>= f).run w = (f a).run w' := by
  rw [run_bind, hx]

/-- A program raises from a state. -/
def Raises (x : Exec α) (w : World) : Prop := ∃ r w', x.run w = (.error r, w')

theorem Raises.bind (hx : x.Raises w) (f : α → Exec β) : (x >>= f).Raises w := by
  obtain ⟨r, w', hx⟩ := hx
  exact ⟨r, w', by rw [run_bind, hx]⟩

/-- A program that raises in the end raises. -/
theorem raises_of_bind {f : α → Exec β} (hf : ∀ a w, (f a).Raises w) : (x >>= f).Raises w := by
  rw [Raises, run_bind]
  cases x.run w with
  | mk y w' =>
    cases y with
    | ok a => exact hf a w'
    | error r => exact ⟨r, w', rfl⟩

theorem throwNew_raises (cls : Builtin) (message : String) : (throwNew cls message : Exec α).Raises w :=
  raises_of_bind fun _ _ => raises_of_bind fun _ _ => ⟨_, _, rfl⟩

/-- There are always parts in which an exception can be handed over. -/
theorem pendingOf_run (r : Raised) (w : World) : ∃ p w', (pendingOf r).run w = (.ok p, w') := by
  have hclass : (classOf r.value).run w = (.ok (w.cell r.value).cls, w) := rfl
  have hincref : (incref (w.cell r.value).cls).run w = (.ok (), w.incref (w.cell r.value).cls) := rfl
  rw [pendingOf, run_bind_ok hclass, run_bind_ok hincref]
  by_cases hframes : r.frames.isEmpty
  · rw [if_pos hframes]
    exact ⟨_, _, rfl⟩
  · rw [if_neg hframes, newTrace, if_neg hframes]
    exact ⟨_, _, rfl⟩

/-- The host is told nothing but how a program ends. -/
theorem outcomeFor_eq (x : Exec α) (w : World) :
    x.outcomeFor w =
      match (replyOf (x.run w).1).run (x.run w).2 with
      | (.ok reply, w') => w'.effect reply
      | (.error _, w') => w'.effect .failed := by
  have houtcome : (outcome x).run w = (.ok (x.run w).1, (x.run w).2) := rfl
  have hreply := run_bind_ok houtcome replyOf
  unfold outcomeFor
  exact hreply ▸ rfl

theorem outcomeFor_value_of_ok {a : α} (hx : x.run w = (.ok a, w')) :
    (x.outcomeFor w).value = .value a := by
  rw [outcomeFor_eq, hx]
  rfl

/-- Whatever program raises this exception from this state, the host is told the same parts. -/
theorem outcomeFor_value_of_error {r : Raised} :
    ∃ p, ∀ {γ : Type} {y : Exec γ}, y.run w = (.error r, w') → (y.outcomeFor w).value = .raised p := by
  obtain ⟨p, w₁, hp⟩ := pendingOf_run r w'
  refine ⟨p, fun {γ y} hy => ?_⟩
  rw [outcomeFor_eq, hy, replyOf, run_bind_ok hp]
  rfl

theorem Raises.outcomeFor (hx : x.Raises w) : ∃ p, (x.outcomeFor w).value = .raised p := by
  obtain ⟨r, w', hx⟩ := hx
  obtain ⟨p, hp⟩ := outcomeFor_value_of_error
  exact ⟨p, hp hx⟩

/-- What the host is told of a program whose last step only looks at the value that it has. -/
theorem outcomeFor_passes {f : α → Option β} {g : α → Exec β}
    (hsome : ∀ {a b}, f a = some b → g a = pure b) (hnone : ∀ {a}, f a = none → ∀ w, (g a).Raises w) :
    (x.outcomeFor w).value.Passes f ((x >>= g).outcomeFor w).value := by
  cases hx : x.run w with
  | mk y w' =>
    cases y with
    | ok a =>
      rw [outcomeFor_value_of_ok hx, Reply.Passes]
      have hbind := run_bind_ok hx g
      cases hf : f a with
      | some b =>
        rw [hsome hf] at hbind
        exact outcomeFor_value_of_ok hbind
      | none =>
        obtain ⟨r, w₁, hr⟩ := hnone hf w'
        exact Raises.outcomeFor ⟨r, w₁, hbind.trans hr⟩
    | error r =>
      obtain ⟨p, hp⟩ := outcomeFor_value_of_error
      rw [hp hx]
      exact hp (by rw [run_bind, hx])

end Exec

/-! ## The conversions -/

/-- What comes of a conversion that is defined by a method of an object's class. -/
def World.conversion? (w : World) (o : Obj) (name : String) (x : Exec α) : Option (Reply α) :=
  (w.member? (w.cell o).cls name).map fun _ => (x.outcomeFor w).value

/-- What can be seen of the objects of a state as numbers. -/
def pythonView : NumberView World where
  float o w := w.floatValue? o
  int o w := w.intValue? o
  floating o w := w.conversion? o "__float__" (asFloat o)
  index o w := w.conversion? o "__index__" (asIndex o)

theorem callSpecial_run_of_none {name : String} (hm : w.member? (w.cell o).cls name = none)
    (args : List Obj) : (callSpecial o name args).run w = (.ok none, w) := by
  have hfind : (findSpecial? o name).run w = (.ok none, w) := by
    have hlook : (scriptedMember? o name).run w = (.ok none, w) := by
      rw [← hm]
      rfl
    rw [findSpecial?, Exec.run_bind_ok hlook]
    rfl
  rw [callSpecial, Exec.run_bind_ok hfind]
  rfl

theorem intValue?_run : (intValue? o).run w = (.ok (w.intValue? o), w) := rfl

/-- An object that is no integer and defines no conversion to one is no index. -/
theorem asIndex_raises (hint : w.intValue? o = none)
    (hm : w.member? (w.cell o).cls "__index__" = none) : (asIndex o).Raises w := by
  have hrun : (asIndex o).run w = ((do
      let t ← typeName o
      throwNew .typeError ("'" ++ clip 200 t ++ "' object cannot be interpreted as an integer") :
        Exec Int)).run w := by
    rw [asIndex, Exec.run_bind_ok intValue?_run, hint]
    exact Exec.run_bind_ok (callSpecial_run_of_none hm []) _
  rw [Exec.Raises, hrun]
  exact Exec.raises_of_bind fun _ _ => Exec.throwNew_raises _ _

theorem pythonView_integer_of_some {i : Int} (hint : w.intValue? o = some i) :
    pythonView.integer o w = .value i :=
  NumberView.integer_of_int hint

/-- The conversion to an index is asked of an object that is no integer. -/
theorem pythonView_integer_of_none (hint : w.intValue? o = none) :
    pythonView.integer o w = (w.conversion? o "__index__" (asIndex o)).getD .failed :=
  NumberView.integer_of_index hint

/-- An object as an integer is an object as an index. -/
theorem pythonView_integer (h : w.intValue? o ≠ none ∨ w.member? (w.cell o).cls "__index__" ≠ none) :
    pythonView.integer o w = ((asIndex o).outcomeFor w).value := by
  cases hint : w.intValue? o with
  | some i =>
    rw [pythonView_integer_of_some hint]
    have hrun : (asIndex o).run w = (.ok i, w) := by
      rw [asIndex, Exec.run_bind_ok intValue?_run, hint]
      rfl
    exact (Exec.outcomeFor_value_of_ok hrun).symm
  | none =>
    obtain ⟨m, hm⟩ := Option.ne_none_iff_exists'.1 (h.resolve_left (absurd hint))
    rw [pythonView_integer_of_none hint, World.conversion?, hm]
    rfl

/-- An object that is no integer and defines no conversion to one stands for none. -/
theorem pythonView_integer_failed (hint : w.intValue? o = none)
    (hm : w.member? (w.cell o).cls "__index__" = none) : pythonView.integer o w = .failed := by
  rw [pythonView_integer_of_none hint, World.conversion?, hm]
  rfl

/-- What is left of an object as a float where it is none and has no conversion of its own. -/
theorem asFloat_run (hfloat : w.floatValue? o = none)
    (hm : w.member? (w.cell o).cls "__float__" = none) :
    (asFloat o).run w =
      (if (w.intValue? o).isSome || (w.member? (w.cell o).cls "__index__").isSome then
        asIndex o >>= floatOfInt
      else do
        let t ← typeName o
        throwNew .typeError ("must be real number, not " ++ clip 50 t)).run w := by
  have hget : (get : Exec World).run w = (.ok w, w) := rfl
  rw [asFloat, Exec.run_bind_ok hget, hfloat]
  exact Exec.run_bind_ok (callSpecial_run_of_none hm []) _

/-- The machine words are the 64-bit words. -/
theorem int64?_eq (i : Int) : int64? i = if isWord i then some (Int64.ofInt i) else none := by
  simp only [int64?, isWord, Bool.and_eq_true, decide_eq_true_eq]

/-- **The interpreter converts numbers as documented.** -/
theorem python_convertsNumbers : python.ConvertsNumbers pythonView where
  truths := by
    show trueObj ≠ falseObj
    simp [trueObj, falseObj]
  isFloat _ _ := rfl
  toInt o w := by
    show ((pythonView.integer o w).Passes int64? ((asInt64 o).outcomeFor w).value)
    by_cases h : w.intValue? o = none ∧ w.member? (w.cell o).cls "__index__" = none
    · obtain ⟨hint, hm⟩ := h
      rw [pythonView_integer_failed hint hm]
      exact ((asIndex_raises hint hm).bind _).outcomeFor
    · rw [pythonView_integer (not_and_or.1 h)]
      refine Exec.outcomeFor_passes (fun {i n} hi => ?_) (fun {i} hi w => ?_)
      · rw [int64?_eq] at hi
        split at hi
        next hword =>
          cases hi
          exact if_pos hword
        next => nomatch hi
      · rw [int64?_eq] at hi
        split at hi
        next => nomatch hi
        next hword =>
          rw [if_neg hword]
          exact Exec.throwNew_raises _ _
  toFloat_float {o w x} hfloat := by
    have hget : (get : Exec World).run w = (.ok w, w) := rfl
    have hrun : (asFloat o).run w = (.ok x, w) := by
      have hfloat : w.floatValue? o = some x := hfloat
      rw [asFloat, Exec.run_bind_ok hget, hfloat]
      rfl
    exact Exec.outcomeFor_value_of_ok hrun
  toFloat_floating {o w r} hfloat hr := by
    obtain ⟨m, -, rfl⟩ := Option.map_eq_some_iff.1 hr
    show ((asFloat o).outcomeFor w).value.Passes some ((asFloat o).outcomeFor w).value
    have hpasses := Exec.outcomeFor_passes (x := asFloat o) (w := w) (f := some) (g := pure)
      (fun hb => by cases hb; rfl) nofun
    rwa [bind_pure] at hpasses
  toFloat_integer {o w} hfloat hr := by
    have hm : w.member? (w.cell o).cls "__float__" = none := Option.map_eq_none_iff.1 hr
    have hrun := asFloat_run hfloat hm
    show (pythonView.integer o w).Passes Double.ofInt? ((asFloat o).outcomeFor w).value
    rw [Exec.outcomeFor_eq, hrun, ← Exec.outcomeFor_eq]
    by_cases h : w.intValue? o = none ∧ w.member? (w.cell o).cls "__index__" = none
    · obtain ⟨hint, hindex⟩ := h
      rw [pythonView_integer_failed hint hindex, if_neg (by simp [hint, hindex])]
      exact (Exec.raises_of_bind fun _ _ => Exec.throwNew_raises _ _).outcomeFor
    · rw [pythonView_integer (not_and_or.1 h), if_pos (by
        rw [Bool.or_eq_true, Option.isSome_iff_ne_none, Option.isSome_iff_ne_none]
        exact not_and_or.1 h)]
      refine Exec.outcomeFor_passes (fun {i x} hi => ?_) (fun {i} hi w => ?_)
      · rw [floatOfInt, hi]
      · rw [floatOfInt, hi]
        exact Exec.throwNew_raises _ _

/-- A state with the objects that are always there and no others. -/
def World.bare : World := { World.down with heap := staticCells.toArray }

/-- The number that looks like a failure is read as a number. -/
theorem python_reads_minus_one :
    python.ConvertsNumbers pythonView ∧ (Host.fresh World.bare).pending = none ∧
    ∃ o, smallInt? (-1) = some o ∧
      (Scalar.decodeInt python).Gives ⟨o, .borrowed⟩ (Host.fresh World.bare) (.ok (-1)) := by
  refine ⟨python_convertsNumbers, rfl, ⟨classCount + 12⟩, by decide +kernel, ?_⟩
  have laws := Scalar.decoding_laws python_convertsNumbers ⟨⟨classCount + 12⟩, .borrowed⟩
    (Host.fresh World.bare) rfl
  have hfloat : pythonView.float ⟨classCount + 12⟩ World.bare = none := by decide +kernel
  have hint : World.bare.intValue? ⟨classCount + 12⟩ = some (-1) := by decide +kernel
  exact (laws.1.accepts (-1)).2 ⟨hfloat, pythonView_integer_of_some hint⟩

end Embedder.Machine
