import Embedder.Proofs.Marshal.Bookkeeper
import Embedder.Proofs.Marshal.Lists

/-!
# Lists of numbers there and back

A list of numbers of one type is made in the interpreter and read as numbers of another. The theorem
`Sequence.round_trips` says for each pair of types what comes back, and that afterwards the list and
its items are gone and no handle is left. It has two parts that all pairs share: what a decoder
reads, item by item (`Sequence.roundTrip_reads`), and what it refuses, at the first item
(`Sequence.roundTrip_refuses`).
-/

namespace Embedder

variable {σ α β : Type} {G : Guest σ} {M : Memory σ}

namespace Sequence

/-- Make a list of some values, read it, and end it. -/
def roundTrip (G : Guest σ) (E : Encoder σ α) (D : Decoder σ β) (xs : List α) :
    Attempt σ Failure (List β) := do
  let list ← toList G E xs
  list.within G (fromList G D list)

/-- The answer of a decoder that refuses such things: it gets as far as the first one. -/
def refusal (kind : ElementKind) (reason : String) : List Thing → Except Failure (List β)
  | [] => .ok []
  | t :: _ => .error (.marshal (.notConvertible 0 kind (t.mistaken reason)))

section Parts

variable (hG : G.Standard M) {E : Encoder σ α} {D : Decoder σ β} {thing : α → Thing}
  (hE : E.Builds M thing) {xs : List α} {h h₀ : Host σ} {d : Int} {H : Heap} {n : Nat}

include hG hE

/-- Whatever is read of the list, the list and its items are released after it. -/
theorem roundTrip_makes {R : Except Failure (List β) → Prop} {n' : Nat}
    (hs : M.Stands h₀ d H (n + 2 * xs.length + 1) h)
    (hread : ∀ {l os K h'}, K l = none → H.Takes os (xs.map thing) K →
      M.Stands h₀ (d + 1) (K.put l ⟨.list (os.map some), some 0⟩) n h' →
      (fromList G D ⟨l, .owned⟩).run.Makes h' fun r h'' =>
        R r ∧ M.Stands h₀ (d + 1) (K.put l ⟨.list (os.map some), some 0⟩) n' h'') :
    (roundTrip G E D xs).run.Makes h fun r h' => R r ∧ M.Stands h₀ d H n' h' := by
  obtain ⟨_, h₁, hrun₁, l, rfl, os, K, hl, htakes, hs₁⟩ := toList_makes hG hE xs hs
  have hreleased : (Handle.owning G ⟨l, .owned⟩ (fromList G D ⟨l, .owned⟩).run).Makes h₁
      fun r h' => R r ∧ M.Stands h₀ d H n' h' :=
    (hread hl htakes hs₁).owning fun _ _ ⟨hr, hs₂⟩ =>
      (Handle.drop_makes hG hs₂ (Heap.list_releases hl htakes)).mono fun _ _ hs₃ => ⟨hr, hs₃⟩
  obtain ⟨r, h₂, hrun₂, hr⟩ := hreleased
  exact ⟨r, h₂, (Attempt.run_bind_of_ok hrun₁).trans hrun₂, hr⟩

/-- A decoder that reads each item gives as many values, each as it reads its item. -/
theorem roundTrip_reads {P : α → β → Prop} (hD : ∀ a, D.Reads M (thing a) (P a))
    (hs : M.Stands h₀ d H (n + 2 * xs.length + 3) h) :
    (roundTrip G E D xs).run.Makes h fun r h' =>
      (∃ ys, r = .ok ys ∧ List.Forall₂ P xs ys) ∧ M.Stands h₀ d H n h' := by
  have hroom : n + 2 * xs.length + 3 = (n + 2) + 2 * xs.length + 1 := by omega
  rw [hroom] at hs
  refine roundTrip_makes hG hE hs fun {l os K h'} hl htakes hs' => ?_
  have hitems : List.Forall₂ (fun o a => ∃ s, K o = some ⟨thing a, s⟩) os xs :=
    List.forall₂_map_right_iff.mp htakes.forall₂
  refine fromList_makes hG hl hs' fun ha hs₁ => ?_
  rw [List.length_map]
  refine (readItems_reads hG ha hE.isAtom hD hitems rfl hs₁).mono
    fun r h₂ ⟨⟨ys, hr, hys⟩, hs₂⟩ => ?_
  subst hr
  exact ⟨⟨⟨ys, rfl, hys⟩, rfl⟩, _, hs₂⟩

/-- A decoder that refuses each item stops at the first one, if there is one. -/
theorem roundTrip_refuses {reason : String} (hD : ∀ a, D.Refuses M (thing a) reason)
    (hs : M.Stands h₀ d H (n + 2 * xs.length + 6) h) :
    (roundTrip G E D xs).run.Makes h fun r h' =>
      r = refusal D.kind reason (xs.map thing) ∧ M.Stands h₀ d H n h' := by
  have hroom : n + 2 * xs.length + 6 = ((n + 3) + 2) + 2 * xs.length + 1 := by omega
  rw [hroom] at hs
  refine roundTrip_makes hG hE hs fun {l os K h'} hl htakes hs' => ?_
  have hitems : List.Forall₂ (fun o a => ∃ s, K o = some ⟨thing a, s⟩) os xs :=
    List.forall₂_map_right_iff.mp htakes.forall₂
  refine fromList_makes hG hl hs' fun ha hs₁ => ?_
  rw [List.length_map]
  cases hitems with
  | nil => exact .pure ⟨⟨rfl, rfl⟩, 0, hs₁.of_le hG (by omega)⟩
  | @cons o a os as hitem _ =>
    refine (readItems_refuses hG ha hitem (hE.isAtom a) (hD a) rfl hs₁).mono
      fun r h₂ ⟨hr, hs₂⟩ => ?_
    subst hr
    exact ⟨⟨rfl, rfl⟩, 1, hs₂⟩

end Parts

end Sequence

/-- From a host on the attempt gives a result. Afterwards the host is as it was but for the guest's
state, so it has the handles that it had, and each object has the references that it had. -/
def Memory.GivesBack (M : Memory σ) (x : Attempt σ Failure (List β)) (h : Host σ)
    (r : Except Failure (List β)) : Prop :=
  ∃ w, x.run.run h = .ok (r, { h with world := w }) ∧ M.heap w = M.heap h.world

theorem Memory.GivesBack.of_makes {x : Attempt σ Failure (List β)} {h : Host σ}
    {R : Except Failure (List β) → Prop} {n : Nat}
    (hx : x.run.Makes h fun r h' => R r ∧ M.Stands h 0 (M.heap h.world) n h') :
    ∃ r, R r ∧ M.GivesBack x h r := by
  obtain ⟨r, h', hrun, hr, hs⟩ := hx
  refine ⟨r, hr, h'.world, ?_, hs.holds.heap⟩
  have hhost : h' = { h with world := h'.world } := by
    have hlive := hs.host
    rwa [Int.add_zero] at hlive
  exact hhost ▸ hrun

namespace Sequence

open Scalar

/-- What lists of numbers of one type come back as when they are read as numbers of another. -/
structure RoundTrips (G : Guest σ) (M : Memory σ) (h : Host σ) : Prop where
  intToInt (xs : List Int64) : M.fits (2 * xs.length + 6) h.world →
    M.GivesBack (roundTrip G (encodeInt G) (decodeInt G) xs) h (.ok xs)
  boolToBool (xs : List Bool) : M.fits (2 * xs.length + 6) h.world →
    M.GivesBack (roundTrip G (encodeBool G) (decodeBool G) xs) h (.ok xs)
  /-- Each number comes back by its bits, and what is no number as no number. -/
  floatToFloat (xs : List Double) : M.fits (2 * xs.length + 6) h.world →
    ∃ ys, List.Forall₂ Double.Same xs ys ∧
      M.GivesBack (roundTrip G (encodeFloat G) (decodeFloat G) xs) h (.ok ys)
  boolToInt (xs : List Bool) : M.fits (2 * xs.length + 6) h.world →
    M.GivesBack (roundTrip G (encodeBool G) (decodeInt G) xs) h (.ok (xs.map Bool.toInt64))
  boolToFloat (xs : List Bool) : M.fits (2 * xs.length + 6) h.world →
    M.GivesBack (roundTrip G (encodeBool G) (decodeFloat G) xs) h (.ok (xs.map Double.ofBool))
  intToFloat (xs : List Int64) : M.fits (2 * xs.length + 6) h.world →
    M.GivesBack (roundTrip G (encodeInt G) (decodeFloat G) xs) h (.ok (xs.map Double.ofInt64))
  /-- An integer comes back as a double at most half the space between doubles away. -/
  intToFloat_near (n : Int64) : |(Double.ofInt64 n).toRat - n.toInt| ≤
    2 ^ ((Double.bitLength n.toInt.natAbs : ℤ) - 54)
  /-- Integers up to `2 ^ 53` come back with their value. -/
  intToFloat_exact (n : Int64) : n.toInt.natAbs ≤ 2 ^ 53 → (Double.ofInt64 n).toRat = n.toInt
  floatToInt (xs : List Double) : M.fits (2 * xs.length + 6) h.world →
    M.GivesBack (roundTrip G (encodeFloat G) (decodeInt G) xs) h
      (refusal .int64 "int" (xs.map Thing.float))
  floatToBool (xs : List Double) : M.fits (2 * xs.length + 6) h.world →
    M.GivesBack (roundTrip G (encodeFloat G) (decodeBool G) xs) h
      (refusal .bool "bool" (xs.map Thing.float))
  intToBool (xs : List Int64) : M.fits (2 * xs.length + 6) h.world →
    M.GivesBack (roundTrip G (encodeInt G) (decodeBool G) xs) h
      (refusal .bool "bool" (xs.map Thing.int))

section Pairs

variable (hG : G.Standard M) {E : Encoder σ α} {D : Decoder σ β} {thing : α → Thing}
  (hE : E.Builds M thing) {h : Host σ} (hq : h.pending = none) {xs : List α}
  (hfits : M.fits (2 * xs.length + 6) h.world)

include hG hE hq hfits

theorem givesBack_of_reads {P : α → β → Prop} (hD : ∀ a, D.Reads M (thing a) (P a)) :
    ∃ ys, List.Forall₂ P xs ys ∧ M.GivesBack (roundTrip G E D xs) h (.ok ys) := by
  have hs : M.Stands h 0 (M.heap h.world) (0 + 2 * xs.length + 3) h :=
    (Memory.Stands.refl hq hfits).of_le hG (by omega)
  obtain ⟨_, ⟨ys, rfl, hys⟩, hback⟩ := Memory.GivesBack.of_makes (roundTrip_reads hG hE hD hs)
  exact ⟨ys, hys, hback⟩

/-- Where the items are read as the values of a function, these come back. -/
theorem givesBack_map {f : α → β} (hD : ∀ a, D.Reads M (thing a) (· = f a)) :
    M.GivesBack (roundTrip G E D xs) h (.ok (xs.map f)) := by
  obtain ⟨ys, hys, hback⟩ := givesBack_of_reads hG hE hq hfits hD
  have hmap : List.Forall₂ (· = ·) (xs.map f) ys :=
    List.forall₂_map_left_iff.mpr (hys.imp fun _ _ => Eq.symm)
  rw [List.forall₂_eq_eq_eq] at hmap
  exact hmap ▸ hback

theorem givesBack_refusal {reason : String} (hD : ∀ a, D.Refuses M (thing a) reason) :
    M.GivesBack (roundTrip G E D xs) h (refusal D.kind reason (xs.map thing)) := by
  have hs : M.Stands h 0 (M.heap h.world) (0 + 2 * xs.length + 6) h :=
    (Memory.Stands.refl hq hfits).of_le hG (by omega)
  obtain ⟨_, rfl, hback⟩ := Memory.GivesBack.of_makes (roundTrip_refuses hG hE hD hs)
  exact hback

end Pairs

/-- A double that is finite is read by its bits. -/
theorem decodeFloat_reads_finite {G : Guest σ} (hG : G.Standard M) {t : Thing} {x : Double}
    (ht : t.asDouble? = some x) (hx : x.isFinite) : (decodeFloat G).Reads M t (· = x) := by
  intro h₀ d H n h o s hs ho
  refine (decodeFloat_reads hG ht hs ho).imp fun y ⟨h', hrun, hsame, hs'⟩ => ?_
  exact ⟨h', hrun, hsame.eq (Double.isNaN_of_isFinite hx), hs'⟩

/-- **Lists of numbers there and back.** With an interpreter that treats numbers and lists as
documented and has room for the list, and nothing pending, each pair of element types gives what
`RoundTrips` says: length and order are kept, a number that the other type has room for comes back
as that, and another one is refused at the first index, not cut off and not taken for its truth. The
list and all its items are released afterwards. -/
theorem round_trips (hG : G.Standard M) (h : Host σ) (hq : h.pending = none) :
    RoundTrips G M h where
  intToInt xs hfits := by
    have hback := givesBack_map hG (encodeInt_builds hG) hq hfits (f := id)
      fun i => decodeInt_reads hG rfl rfl
    rwa [List.map_id] at hback
  boolToBool xs hfits := by
    have hback := givesBack_map hG (encodeBool_builds hG) hq hfits (f := id) (decodeBool_reads hG)
    rwa [List.map_id] at hback
  floatToFloat xs hfits :=
    givesBack_of_reads hG (encodeFloat_builds hG) hq hfits fun x => decodeFloat_reads hG rfl
  boolToInt xs hfits :=
    givesBack_map hG (encodeBool_builds hG) hq hfits fun b => decodeInt_reads hG rfl rfl
  boolToFloat xs hfits :=
    givesBack_map hG (encodeBool_builds hG) hq hfits fun b =>
      decodeFloat_reads_finite hG rfl (by cases b <;> decide)
  intToFloat xs hfits :=
    givesBack_map hG (encodeInt_builds hG) hq hfits fun n =>
      decodeFloat_reads_finite hG (t := .int n) (Double.ofInt?_toInt n) (Double.isFinite_ofInt64 n)
  intToFloat_near := Double.ofInt64_near
  intToFloat_exact n hn := Double.ofInt64_exact hn
  floatToInt xs hfits :=
    givesBack_refusal hG (encodeFloat_builds hG) hq hfits fun x => decodeInt_refuses hG rfl
  floatToBool xs hfits :=
    givesBack_refusal hG (encodeFloat_builds hG) hq hfits fun x =>
      decodeBool_refuses hG fun b hb => by cases hb
  intToBool xs hfits :=
    givesBack_refusal hG (encodeInt_builds hG) hq hfits fun n =>
      decodeBool_refuses hG fun b hb => by cases hb

/-- The numbers that stand for a failure and the ends of their type come back from the bookkeeper,
and a float is refused as an integer. -/
theorem bookkeeper_round_trips :
    Bookkeeper.guest.Standard Bookkeeper.memory ∧
    (Host.fresh Bookkeeper.fresh).pending = none ∧
    Bookkeeper.memory.fits 12 Bookkeeper.fresh ∧
    Bookkeeper.memory.GivesBack
      (roundTrip Bookkeeper.guest (encodeInt Bookkeeper.guest) (decodeInt Bookkeeper.guest)
        [-1, Int64.minValue, Int64.maxValue])
      (Host.fresh Bookkeeper.fresh) (.ok [-1, Int64.minValue, Int64.maxValue]) ∧
    Bookkeeper.memory.GivesBack
      (roundTrip Bookkeeper.guest (encodeFloat Bookkeeper.guest) (decodeInt Bookkeeper.guest)
        [Double.one])
      (Host.fresh Bookkeeper.fresh)
      (.error (.marshal (.notConvertible 0 .int64
        ⟨"TypeError", "expected int, found 'float'", none⟩))) := by
  have htrips := round_trips Bookkeeper.standard (Host.fresh Bookkeeper.fresh) rfl
  have hroom {n : Nat} (hn : n < 2 ^ 63) : Bookkeeper.memory.fits n Bookkeeper.fresh :=
    ⟨hn, Bookkeeper.fresh_sound⟩
  exact ⟨Bookkeeper.standard, rfl, hroom (by decide), htrips.intToInt _ (hroom (by decide)),
    htrips.floatToInt [Double.one] (hroom (by decide))⟩

end Sequence

end Embedder
