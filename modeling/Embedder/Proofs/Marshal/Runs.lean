import Embedder.Proofs.Run
import Embedder.Proofs.Marshal.Standard
import Embedder.Scalar

/-!
# Numbers that cross the boundary

How programs run with a guest that treats numbers as documented. `Memory.Stands` says how far a host
has come from where it began: so many handles more, and the heap as it is by then. A program `Makes`
what it gives, from a host on, if it returns and its result and the host after it are as said.

Each encoder makes a number of its type (`Encoder.Builds`). A decoder reads a number that its type
has room for (`Decoder.Reads`) and refuses what is something else, with the class that it found
(`Decoder.Refuses`). Minus one is read like any other number, since nothing is pending after it.
-/

namespace Embedder

variable {σ ε α β : Type}

/-! ## Programs that return -/

/-- The program returns from a host, and the result and the host after it are as said. -/
def Bridge.Makes (x : Bridge σ α) (h : Host σ) (Q : α → Host σ → Prop) : Prop :=
  ∃ a h', x.run h = .ok (a, h') ∧ Q a h'

/-- The attempt returns from a host without an error. -/
def Attempt.Makes (x : Attempt σ ε α) (h : Host σ) (Q : α → Host σ → Prop) : Prop :=
  ∃ a h', x.run.run h = .ok (.ok a, h') ∧ Q a h'

variable {h : Host σ} {P : α → Host σ → Prop} {Q : β → Host σ → Prop}

namespace Bridge.Makes

theorem pure {a : α} (ha : P a h) : (pure a : Bridge σ α).Makes h P := ⟨a, h, rfl, ha⟩

theorem mono {x : Bridge σ α} {P' : α → Host σ → Prop} (hx : x.Makes h P)
    (hP : ∀ a h', P a h' → P' a h') : x.Makes h P' := by
  obtain ⟨a, h', hrun, ha⟩ := hx
  exact ⟨a, h', hrun, hP a h' ha⟩

theorem bind {x : Bridge σ α} {f : α → Bridge σ β} (hx : x.Makes h P)
    (hf : ∀ a h', P a h' → (f a).Makes h' Q) : (x >>= f).Makes h Q := by
  obtain ⟨a, h', hrun, ha⟩ := hx
  obtain ⟨b, h'', hrest, hb⟩ := hf a h' ha
  exact ⟨b, h'', (run_bind hrun).trans hrest, hb⟩

/-- A program within the scope of a handle, which ends after it. -/
theorem owning {G : Guest σ} {k : Handle} {x : Bridge σ α} {P' : α → Host σ → Prop}
    (hx : x.Makes h P) (hdrop : ∀ a h', P a h' → (k.drop G).Makes h' fun _ => P' a) :
    (k.owning G x).Makes h P' :=
  hx.bind fun a h' ha => (hdrop a h' ha).bind fun _ _ hd => pure hd

end Bridge.Makes

namespace Attempt.Makes

theorem pure {a : α} (ha : P a h) : (pure a : Attempt σ ε α).Makes h P := ⟨a, h, rfl, ha⟩

theorem lift {x : Bridge σ α} (hx : x.Makes h P) : (liftM x : Attempt σ ε α).Makes h P := by
  obtain ⟨a, h', hrun, ha⟩ := hx
  exact ⟨a, h', run_lift hrun, ha⟩

theorem bind {x : Attempt σ ε α} {f : α → Attempt σ ε β} (hx : x.Makes h P)
    (hf : ∀ a h', P a h' → (f a).Makes h' Q) : (x >>= f).Makes h Q := by
  obtain ⟨a, h', hrun, ha⟩ := hx
  obtain ⟨b, h'', hrest, hb⟩ := hf a h' ha
  exact ⟨b, h'', (run_bind_of_ok hrun).trans hrest, hb⟩

theorem mapError {ε' : Type} {f : ε → ε'} {x : Attempt σ ε α} (hx : x.Makes h P) :
    (x.mapError f).Makes h P := by
  obtain ⟨a, h', hrun, ha⟩ := hx
  exact ⟨a, h', Bridge.run_bind (x := x.run) hrun, ha⟩

/-- The attempt as a program gives its result. -/
theorem run {x : Attempt σ ε α} (hx : x.Makes h P) :
    x.run.Makes h fun r h' => ∃ a, r = .ok a ∧ P a h' := by
  obtain ⟨a, h', hrun, ha⟩ := hx
  exact ⟨.ok a, h', hrun, a, rfl, ha⟩

theorem within {G : Guest σ} {k : Handle} {x : Attempt σ ε α} {P' : α → Host σ → Prop}
    (hx : x.Makes h P) (hdrop : ∀ a h', P a h' → (k.drop G).Makes h' fun _ => P' a) :
    (k.within G x).Makes h P' := by
  obtain ⟨a, h', hrun, ha⟩ := hx
  obtain ⟨u, h'', hrest, hb⟩ := hdrop a h' ha
  refine ⟨a, h'', ?_, hb⟩
  exact (Bridge.run_bind (x := x.run) hrun).trans (Bridge.run_bind hrest)

end Attempt.Makes

/-! ## How far a host has come -/

/-- Since `h₀` nothing changed but the guest's state and the number of handles, by `d`. The heap is
`H`, and there is room for `n` more. -/
structure Memory.Stands (M : Memory σ) (h₀ : Host σ) (d : Int) (H : Heap) (n : Nat) (h : Host σ) :
    Prop where
  host : h = { h₀ with world := h.world, live := h₀.live + d }
  pending : h.pending = none
  holds : M.Holds H n h.world

variable {G : Guest σ} {M : Memory σ} {h₀ : Host σ} {d : Int} {H H' : Heap} {n n' : Nat} {o : Obj}
  {t : Thing} {s : Option Nat}

namespace Memory.Stands

theorem refl (hq : h.pending = none) (hfits : M.fits n h.world) :
    M.Stands h 0 (M.heap h.world) n h where
  host := by rw [Int.add_zero]
  pending := hq
  holds := ⟨rfl, hfits⟩

/-- Less room is needed. -/
theorem of_le (hs : M.Stands h₀ d H n h) (hG : G.Standard M) (hle : n' ≤ n) :
    M.Stands h₀ d H n' h :=
  { hs with holds := ⟨hs.holds.heap, hG.fits_of_le hs.holds.fits hle⟩ }

/-- The guest goes on. -/
theorem act (hs : M.Stands h₀ d H n h) {e : Effect σ α} (he : M.Leaves e H' n') :
    M.Stands h₀ d H' n' (h.after e) := by
  rw [Host.after_of_quiet he.notices]
  refine ⟨?_, hs.pending, he.holds⟩
  rw [hs.host]

/-- Handles are counted. -/
theorem count (hs : M.Stands h₀ d H n h) (k : Int) :
    M.Stands h₀ (d + k) H n { h with live := h.live + k } := by
  refine ⟨?_, hs.pending, hs.holds⟩
  rw [hs.host, Int.add_assoc]

end Memory.Stands

theorem Handle.count_makes (hs : M.Stands h₀ d H n h) (k : Int) :
    (Handle.count k : Bridge σ Unit).Makes h fun _ => M.Stands h₀ (d + k) H n :=
  ⟨(), _, rfl, hs.count k⟩

theorem Bridge.act_makes {f : σ → Effect σ α} (hs : M.Stands h₀ d H n h)
    (hf : M.Leaves (f h.world) H' n') :
    (Bridge.act f).Makes h fun a h' => a = (f h.world).value ∧ M.Stands h₀ d H' n' h' :=
  ⟨_, _, Bridge.act_run f h, rfl, hs.act hf⟩

/-! ## Requests -/

section Requests

variable {f : σ → Outcome σ α} {a : α}

theorem Exception.ask_makes (hs : M.Stands h₀ d H n h) (hf : M.Answers (f h.world) a H' n') :
    (Exception.ask G f).Makes h fun r h' => r = some a ∧ M.Stands h₀ d H' n' h' := by
  refine (Bridge.act_makes hs hf.toLeaves).bind fun r h' ⟨hr, hs'⟩ => ?_
  rw [hr, hf.value]
  exact .pure ⟨rfl, hs'⟩

theorem Exception.request_makes (context : String) (hs : M.Stands h₀ d H n h)
    (hf : M.Answers (f h.world) a H' n') :
    (Exception.request G context f).Makes h fun b h' => b = a ∧ M.Stands h₀ d H' n' h' := by
  obtain ⟨r, h', hrun, rfl, hs'⟩ := Exception.ask_makes (G := G) hs hf
  exact ⟨a, h', Bridge.run_bind hrun, rfl, hs'⟩

theorem Exception.requestNew_makes {f : σ → Outcome σ Obj} (context : String)
    (hs : M.Stands h₀ d H n h) (hf : M.Answers (f h.world) o H' n') :
    (Exception.requestNew G context f).Makes h fun k h' =>
      k = ⟨o, .owned⟩ ∧ M.Stands h₀ (d + 1) H' n' h' := by
  refine (Exception.request_makes context hs hf).bind fun b h' ⟨hb, hs'⟩ => .lift ?_
  subst hb
  exact (Handle.count_makes hs' 1).bind fun _ h'' hs'' => .pure ⟨rfl, hs''⟩

end Requests

/-- A new handle on such a thing. -/
def Memory.Hands (M : Memory σ) (h₀ : Host σ) (d : Int) (H : Heap) (n : Nat) (t : Thing)
    (k : Handle) (h : Host σ) : Prop :=
  ∃ o, k = ⟨o, .owned⟩ ∧ H.Admits o t ∧ M.Stands h₀ (d + 1) (H.take o t) n h

theorem Exception.requestNew_hands {f : σ → Outcome σ Obj} (context : String)
    (hs : M.Stands h₀ d H n h) (hf : M.Gives (f h.world) t H n') :
    (Exception.requestNew G context f).Makes h (M.Hands h₀ d H n' t) := by
  obtain ⟨o, ha, hanswers⟩ := hf
  obtain ⟨k, h', hrun, hk, hs'⟩ := Exception.requestNew_makes (G := G) context hs hanswers
  exact ⟨k, h', hrun, o, hk, ha, hs'⟩

section Drop

variable (hG : G.Standard M)

include hG

theorem Handle.drop_makes (hs : M.Stands h₀ (d + 1) H n h) (hr : H.Releases [o] H') :
    (Handle.drop G ⟨o, .owned⟩).Makes h fun _ => M.Stands h₀ d H' n := by
  refine (Bridge.act_makes hs (hG.release hs.holds hr)).bind fun _ h' ⟨_, hs'⟩ => ?_
  refine (Handle.count_makes hs' (-1)).mono fun _ h'' hs'' => ?_
  rwa [Int.add_neg_cancel_right] at hs''

/-- A handle on a number or a text ends. -/
theorem Handle.drop_taken (ht : t.isAtom) (hs : M.Stands h₀ (d + 1) (H.take o t) n h) :
    (Handle.drop G ⟨o, .owned⟩).Makes h fun _ => M.Stands h₀ d H n :=
  Handle.drop_makes hG hs (Heap.Releases.take ht (.done H))

end Drop

/-! ## The class of what was found -/

/-- What is said of an object of the wrong kind. -/
def Thing.mistaken (t : Thing) (expected : String) : ExceptionReport :=
  ⟨"TypeError", "expected " ++ expected ++ ", found '" ++ t.className ++ "'", none⟩

/-- An attribute whose name is no trouble is asked for. -/
theorem Handle.getAttr_eq {k : Handle} {name : String} (hname : '\x00' ∉ name.toList) :
    k.getAttr G name = Exception.requestNew G "PyObject_GetAttrString" (G.getAttr k.obj name) := by
  have htext : (withoutNul name : Attempt σ ExceptionReport String) = pure name := by
    unfold withoutNul cText
    rw [if_neg hname]
    rfl
  unfold getAttr
  rw [htext, pure_bind]

namespace Scalar

variable (hG : G.Standard M)

include hG

/-- The text of a text is told. -/
theorem str_makes {text : String} (hs : M.Stands h₀ d H (n + 1) h)
    (ho : H o = some ⟨.text text, s⟩) :
    (Handle.str G ⟨o, .owned⟩).Makes h fun b h' => b = text ∧ M.Stands h₀ d H n h' := by
  refine (Exception.requestNew_hands _ hs (hG.str hs.holds ho)).bind fun k h' ⟨p, hk, ha, hs'⟩ => ?_
  subst hk
  obtain ⟨u, hp⟩ := Heap.take_self ha
  refine (Exception.request_makes _ hs' (hG.text hs'.holds hp rfl)).within fun b h'' ⟨hb, hs''⟩ => ?_
  exact (Handle.drop_taken hG rfl hs'').mono fun _ _ hs₀ => ⟨hb, hs₀⟩

/-- The class of an object tells its name. -/
theorem toldClassName_makes (hs : M.Stands h₀ d H (n + 3) h) (ho : H o = some ⟨t, s⟩) :
    (toldClassName G ⟨o, .owned⟩).Makes h fun b h' =>
      b = t.className ∧ M.Stands h₀ d H n h' := by
  unfold toldClassName
  rw [Handle.getAttr_eq (by decide)]
  refine (Exception.requestNew_hands _ hs (hG.classOf hs.holds ho)).bind fun k h' ⟨c, hk, hac, hs'⟩ => ?_
  subst hk
  obtain ⟨u, hc⟩ := Heap.take_self hac
  rw [Handle.getAttr_eq (by decide)]
  have hnamed : (Handle.within G ⟨c, .owned⟩ (Exception.requestNew G "PyObject_GetAttrString"
      (G.getAttr c "__name__"))).Makes h' (M.Hands h₀ d H (n + 1) (.text t.className)) := by
    refine (Exception.requestNew_hands _ hs' (hG.nameOf hs'.holds hc)).within fun k h'' ⟨m, hk, ham, hs''⟩ => ?_
    -- the class and its name are different objects, so either can go first
    have hmc : m ≠ c := ham.ne hc (by simp)
    rw [Heap.take_comm hmc.symm] at hs''
    exact (Handle.drop_taken hG rfl hs'').mono fun _ _ hs₀ => ⟨m, hk, ham.of_put hmc, hs₀⟩
  refine hnamed.bind fun k h'' ⟨m, hk, ham, hs''⟩ => ?_
  subst hk
  obtain ⟨v, hm⟩ := Heap.take_self ham
  refine (str_makes hG hs'' hm).within fun b h₃ ⟨hb, hs₃⟩ => ?_
  exact (Handle.drop_taken hG rfl hs₃).mono fun _ _ hs₀ => ⟨hb, hs₀⟩

/-- The report for an object of the wrong kind names the kind that was found. -/
theorem wrongKind_makes (expected : String) (hs : M.Stands h₀ d H (n + 3) h)
    (ho : H o = some ⟨t, s⟩) :
    (wrongKind G ⟨o, .owned⟩ expected).Makes h fun r h' =>
      r = t.mistaken expected ∧ M.Stands h₀ d H n h' := by
  have hclass : (className G ⟨o, .owned⟩).Makes h fun b h' =>
      b = t.className ∧ M.Stands h₀ d H n h' := by
    refine (toldClassName_makes hG hs ho).run.bind fun r h' ⟨b, hr, hb⟩ => ?_
    subst hr
    exact .pure hb
  refine hclass.bind fun b h' ⟨hb, hs'⟩ => ?_
  subst hb
  exact .pure ⟨rfl, hs'⟩

end Scalar

/-! ## Encoders -/

/-- The encoder makes an object that is `thing a` of a value `a`. -/
structure Encoder.Builds (E : Encoder σ α) (M : Memory σ) (thing : α → Thing) : Prop where
  isAtom (a : α) : (thing a).isAtom
  makes (a : α) {h₀ : Host σ} {d : Int} {H : Heap} {n : Nat} {h : Host σ} :
    M.Stands h₀ d H (n + 1) h → (E.encode a).Makes h (M.Hands h₀ d H n (thing a))

/-- A call that gives a new object of each value, as an encoder. -/
theorem Encoder.builds_of_gives {kind : ElementKind} {context : String} {f : α → σ → Outcome σ Obj}
    {thing : α → Thing} (hatom : ∀ a, (thing a).isAtom)
    (hf : ∀ a {H : Heap} {n : Nat} {w : σ}, M.Holds H (n + 1) w → M.Gives (f a w) (thing a) H n) :
    Encoder.Builds ⟨kind, fun a => Exception.requestNew G context (f a)⟩ M thing where
  isAtom := hatom
  makes a _ _ _ _ _ hs := Exception.requestNew_hands context hs (hf a hs.holds)

section Encoders

variable (hG : G.Standard M)

include hG

theorem Scalar.encodeFloat_builds : (encodeFloat G).Builds M .float :=
  Encoder.builds_of_gives (fun _ => rfl) fun x _ _ _ hw => hG.ofFloat x hw

theorem Scalar.encodeInt_builds : (encodeInt G).Builds M .int :=
  Encoder.builds_of_gives (fun _ => rfl) fun i _ _ _ hw => hG.ofInt i hw

theorem Scalar.encodeBool_builds : (encodeBool G).Builds M .truth :=
  Encoder.builds_of_gives (fun _ => rfl) fun b _ _ _ hw => hG.ofBool b hw

end Encoders

/-! ## Decoders -/

/-- The decoder reads an object that is such a thing, as a value of which `P` holds. -/
def Decoder.Reads (D : Decoder σ β) (M : Memory σ) (t : Thing) (P : β → Prop) : Prop :=
  ∀ {h₀ : Host σ} {d : Int} {H : Heap} {n : Nat} {h : Host σ} {o : Obj} {s : Option Nat},
    M.Stands h₀ d H n h → H o = some ⟨t, s⟩ →
      (D.decode ⟨o, .owned⟩).Makes h fun b h' => P b ∧ M.Stands h₀ d H n h'

/-- The decoder refuses an object that is such a thing. -/
def Decoder.Refuses (D : Decoder σ β) (M : Memory σ) (t : Thing) (expected : String) : Prop :=
  ∀ {h₀ : Host σ} {d : Int} {H : Heap} {n : Nat} {h : Host σ} {o : Obj} {s : Option Nat},
    M.Stands h₀ d H (n + 3) h → H o = some ⟨t, s⟩ →
      (D.decode ⟨o, .owned⟩).run.Makes h fun r h' =>
        r = .error (t.mistaken expected) ∧ M.Stands h₀ d H n h'

namespace Scalar

/-- What a call gives is the number, the sentinel too. -/
theorem checked_makes [DecidableEq β] (sentinel : β) (context : String) {f : σ → Outcome σ β}
    {b : β} (hs : M.Stands h₀ d H n h) (hf : M.Answers (f h.world) b H n) :
    (checked G sentinel context f).Makes h fun a h' => a = b ∧ M.Stands h₀ d H n h' := by
  obtain ⟨r, h', hrun, rfl, hs'⟩ := Exception.ask_makes (G := G) hs hf
  refine ⟨b, h', (Bridge.run_bind hrun).trans ?_, rfl, hs'⟩
  rw [Option.getD_some]
  by_cases hb : b = sentinel
  · -- nothing is pending, so it is no failure
    have hpending : (Exception.isPending : Bridge σ Bool).run h' = .ok (false, h') := by
      show Except.ok (h'.pending.isSome, h') = _
      rw [hs'.pending]
      rfl
    rw [if_pos hb]
    exact Bridge.run_bind hpending
  · rw [if_neg hb]
    rfl

variable (hG : G.Standard M)

include hG

theorem decodeFloat_reads {x : Double} (ht : t.asDouble? = some x) :
    (decodeFloat G).Reads M t x.Same := by
  intro h₀ d H n h o s hs ho
  obtain ⟨y, hsame, hanswers⟩ := hG.toFloat hs.holds ho ht
  obtain ⟨z, h', hrun, rfl, hs'⟩ :=
    checked_makes (G := G) Double.negOne "PyFloat_AsDouble" hs hanswers
  exact ⟨z, h', hrun, hsame, hs'⟩

/-- Whether an object is a float is looked at and nothing changes. -/
theorem inspect_isFloat (hs : M.Stands h₀ d H n h) (ho : H o = some ⟨t, s⟩) :
    (Bridge.inspect (G.isFloat o)).run h = .ok (t.isFloat, h) := by
  show Except.ok (G.isFloat o h.world, h) = _
  rw [hG.isFloat hs.holds ho]

theorem decodeInt_reads {i : Int64} (hfloat : t.isFloat = false) (ht : t.asInt? = some i) :
    (decodeInt G).Reads M t (· = i) := by
  intro h₀ d H n h o s hs ho
  obtain ⟨j, h', hrun, rfl, hs'⟩ :=
    checked_makes (G := G) (-1) "PyLong_AsLongLong" hs (hG.toInt hs.holds ho ht)
  refine ⟨j, h', (Bridge.run_bind (inspect_isFloat hG hs ho)).trans ?_, rfl, hs'⟩
  rw [hfloat]
  exact hrun

/-- A float is refused and not cut off. -/
theorem decodeInt_refuses (hfloat : t.isFloat = true) : (decodeInt G).Refuses M t "int" := by
  intro h₀ d H n h o s hs ho
  obtain ⟨r, h', hrun, rfl, hs'⟩ := wrongKind_makes hG "int" hs ho
  refine ⟨_, h', (Bridge.run_bind (inspect_isFloat hG hs ho)).trans ?_, rfl, hs'⟩
  rw [hfloat]
  exact Bridge.run_bind hrun

theorem decodeBool_reads (b : Bool) : (decodeBool G).Reads M (.truth b) (· = b) := by
  intro h₀ d H n h o s hs ho
  have hobj : o = G.truthObj b := (hG.truth_iff b o hs.holds).mp ⟨s, ho⟩
  refine ⟨b, h, ?_, rfl, hs⟩
  subst hobj
  cases b with
  | true =>
    unfold decodeBool
    exact congrFun (if_pos rfl) h
  | false =>
    have hne : G.falseObj ≠ G.trueObj := fun heq =>
      Bool.false_ne_true (hG.truthObj_inj hs.holds (b := false) (c := true) heq)
    exact congrFun ((if_neg hne).trans (if_pos rfl)) h

/-- What is no truth value is refused, whatever its truth. -/
theorem decodeBool_refuses (ht : ∀ b, t ≠ .truth b) : (decodeBool G).Refuses M t "bool" := by
  intro h₀ d H n h o s hs ho
  obtain ⟨r, h', hrun, rfl, hs'⟩ := wrongKind_makes hG "bool" hs ho
  have htrue : o ≠ G.trueObj := hG.ne_truthObj hs.holds ho (ht true)
  have hfalse : o ≠ G.falseObj := hG.ne_truthObj hs.holds ho (ht false)
  refine ⟨_, h', ?_, rfl, hs'⟩
  exact (congrFun ((if_neg htrue).trans (if_neg hfalse)) h).trans (Bridge.run_bind hrun)

end Scalar

end Embedder
