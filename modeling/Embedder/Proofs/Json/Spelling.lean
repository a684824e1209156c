import Mathlib.Data.List.TakeWhile
import Embedder.Proofs.Json.Layout
import Embedder.Proofs.Json.Tokens

/-!
# Strings as they are spelled

What a reading yields is what is left of it when the fault of a failure is forgotten
(`Reading.yield?`), so one equation for a reader tells both when it succeeds and with what. A reader
of strings yields what the pieces of the string say (`readString_closed`), and whatever it takes off
the front of a text is a string of pieces (`exists_closed_of_readString`). One that passes over a
string does not ask what the pieces say, and takes the same characters (`skipString_closed`,
`exists_closed_of_skipString`).
-/

namespace Embedder.Json

open Layout

variable {α β : Type} {s t r : List Char} {a : α} {c : Char}

/-! ## What readings yield -/

/-- The value that was read and the rest of the text, if the reading succeeded. -/
def Reading.yield? : Reading α s → Option (α × List Char)
  | .ok x => some (x.value, x.rest)
  | .error _ => none

namespace Reading

@[simp] theorem yield?_ok (x : Read α s) : yield? (.ok x) = some (x.value, x.rest) := rfl

@[simp] theorem yield?_error (e : Located) : yield? (α := α) (s := s) (.error e) = none := rfl

@[simp] theorem yield?_widen (h : s.length ≤ t.length) (x : Reading α s) :
    (x.widen h).yield? = x.yield? := by
  cases x <;> rfl

@[simp] theorem yield?_map (f : α → β) (x : Reading α s) :
    (x.map f).yield? = x.yield?.map fun y => (f y.1, y.2) := by
  cases x <;> rfl

/-- What is read next depends on what was read before, but not on how much longer the text was. -/
theorem yield?_andThen {x : Reading α s} {f : (y : Read α s) → Reading β y.rest}
    (g : α × List Char → Option (β × List Char)) (hf : ∀ y, (f y).yield? = g (y.value, y.rest)) :
    (x.andThen f).yield? = x.yield?.bind g := by
  cases x with
  | error e => rfl
  | ok y => exact (yield?_widen y.length_le (f y)).trans (hf y)

theorem gives_iff {x : Reading α s} : x.Gives a r ↔ x.yield? = some (a, r) := by
  constructor
  · rintro ⟨h, rfl⟩
    rfl
  · intro h
    cases x with
    | error e => cases h
    | ok y =>
      obtain ⟨value, rest, hle⟩ := y
      cases h
      exact ⟨hle, rfl⟩

end Reading

/-- The first character of the first token, and what follows it. -/
def token? (s : List Char) : Option (Char × List Char) :=
  match skipSpace s with
  | [] => none
  | c :: r => some (c, r)

theorem token?_of_nil (h : skipSpace s = []) : token? s = none := by
  rw [token?, h]

theorem token?_of_cons (h : skipSpace s = c :: r) : token? s = some (c, r) := by
  rw [token?, h]

theorem skipSpace_eq_cons_of_token? (h : token? s = some (c, r)) : skipSpace s = c :: r := by
  cases hs : skipSpace s with
  | nil =>
    rw [token?_of_nil hs] at h
    cases h
  | cons d t =>
    rw [token?_of_cons hs] at h
    cases h
    rfl

theorem token?_cons (hc : isSpace c = false) : token? (c :: r) = some (c, r) :=
  token?_of_cons (skipSpace_cons hc)

theorem skipSpace_blanks (w : Blanks) (s : List Char) : skipSpace (w.text ++ s) = skipSpace s :=
  List.dropWhile_append_of_pos w.blank

@[simp] theorem token?_blanks (w : Blanks) (s : List Char) : token? (w.text ++ s) = token? s := by
  rw [token?, token?, skipSpace_blanks]

theorem token?_blanks_cons (w : Blanks) (hc : isSpace c = false) :
    token? (w.text ++ c :: r) = some (c, r) := by
  rw [token?_blanks, token?_cons hc]

/-- What is skipped before a token is blank. -/
theorem exists_blanks (s : List Char) : ∃ w : Blanks, s = w.text ++ skipSpace s :=
  ⟨⟨s.takeWhile isSpace, fun _ hc => List.mem_takeWhile_imp hc⟩,
    (List.takeWhile_append_dropWhile).symm⟩

theorem exists_blanks_of_token? (h : token? s = some (c, r)) :
    ∃ w : Blanks, s = w.text ++ c :: r := by
  obtain ⟨w, hw⟩ := exists_blanks s
  rw [skipSpace_eq_cons_of_token? h] at hw
  exact ⟨w, hw⟩

theorem length_lt_of_token? (h : token? s = some (c, r)) : r.length < s.length :=
  length_lt_of_skipSpace (skipSpace_eq_cons_of_token? h)

/-! ## Escapes -/

theorem readHex_cons (a b c d : Char) (r : List Char) :
    (readHex (a :: b :: c :: d :: r)).yield? = (hexNumber? a b c d).map (·, r) := by
  unfold readHex hexNumber?
  dsimp only
  cases hexValue? a <;> cases hexValue? b <;> cases hexValue? c <;> cases hexValue? d <;> rfl

theorem exists_digits_of_readHex {n : Nat} (h : (readHex s).yield? = some (n, r)) :
    ∃ a b c d, s = a :: b :: c :: d :: r ∧ hexNumber? a b c d = some n := by
  match s, h with
  | a :: b :: c :: d :: t, h =>
    rw [readHex_cons, Option.map_eq_some_iff] at h
    obtain ⟨m, hm, hr⟩ := h
    cases hr
    exact ⟨a, b, c, d, rfl, hm⟩

theorem ne_unicode_of_shortEscape? {e x : Char} (h : shortEscape? e = some x) : e ≠ 'u' := by
  rintro rfl
  cases h

theorem readEscape_letter {e x : Char} (h : shortEscape? e = some x) (r : List Char) :
    (readEscape (e :: r)).yield? = some (x, r) := by
  rw [readEscape, if_neg (ne_unicode_of_shortEscape? h), h]
  rfl

theorem readHalfEscape_yield (s : List Char) :
    (readHalfEscape s).yield? = match s with
      | '\\' :: 'u' :: r => some ((), r)
      | _ => none := by
  unfold readHalfEscape
  split
  next => rfl
  next c r =>
    by_cases hc : c = '\\'
    · subst hc
      cases r with
      | nil => rfl
      | cons d r =>
        by_cases hd : d = 'u'
        · subst hd
          rfl
        · simp [hd]
    · simp [hc]

theorem readLowHalf_yield (n : Nat) (s : List Char) :
    (readLowHalf n s).yield? =
      (readHalfEscape s).yield?.bind fun e => (readHex e.2).yield?.bind fun m =>
        if isLowHalf m.1 then some (joinHalves n m.1, m.2) else none := by
  unfold readLowHalf
  refine Reading.yield?_andThen _ fun e => Reading.yield?_andThen _ fun m => ?_
  by_cases hm : isLowHalf m.value = true <;> simp [hm]

theorem readEscape_hex (r : List Char) :
    (readEscape ('u' :: r)).yield? = (readHex r).yield?.bind fun n =>
      if isLowHalf n.1 then none
      else if isHighHalf n.1 then (readLowHalf n.1 n.2).yield?
      else some (Char.ofNat n.1, n.2) := by
  rw [readEscape, if_pos rfl, Reading.yield?_widen]
  refine Reading.yield?_andThen _ fun n => ?_
  by_cases hlow : isLowHalf n.value = true
  · simp [hlow]
  · by_cases hhigh : isHighHalf n.value = true <;> simp [hlow, hhigh]

/-! ## Strings that are read -/

theorem readString_quote (r : List Char) : (readString ('"' :: r)).yield? = some ([], r) := by
  rw [readString, if_pos rfl]
  rfl

theorem readString_backslash (r : List Char) :
    (readString ('\\' :: r)).yield? = (readEscape r).yield?.bind fun x =>
      (readString x.2).yield?.map fun y => (x.1 :: y.1, y.2) := by
  rw [readString, if_neg (by decide), if_pos rfl, Reading.yield?_widen]
  exact Reading.yield?_andThen _ fun x => Reading.yield?_map _ _

theorem readString_other (hc : c ≠ '"' ∧ c ≠ '\\' ∧ ¬c < ' ') (r : List Char) :
    (readString (c :: r)).yield? = (readString r).yield?.map fun y => (c :: y.1, y.2) := by
  rw [readString, if_neg hc.1, if_neg hc.2.1, if_neg hc.2.2, Reading.yield?_widen,
    Reading.yield?_map]

theorem closed_cons (p : Piece) (ps : List Piece) (r : List Char) :
    closed (p :: ps) ++ r = p.text ++ (closed ps ++ r) := by
  simp [closed]

/-- After the first half of a character, a piece that is no escape of four digits, or the end of
the string, is no second half. -/
theorem readLowHalf_closed {n : Nat} {ps : List Piece}
    (hps : ∀ a b c d m h ps', ps ≠ .hex a b c d m h :: ps') :
    (readLowHalf n (closed ps ++ r)).yield? = none := by
  rw [readLowHalf_yield, readHalfEscape_yield]
  match ps with
  | [] => rfl
  | .plain c h :: ps =>
    have hc : c ≠ '\\' := h.2.1
    rw [closed_cons, Piece.text]
    simp [hc]
  | .short e c h :: ps =>
    have he : e ≠ 'u' := ne_unicode_of_shortEscape? h
    rw [closed_cons, Piece.text]
    simp [he]
  | .hex a b c d m h :: ps => exact absurd rfl (hps a b c d m h ps)

/-- Reading a string yields what its pieces say. By induction along `said?`, which takes two halves
of a character at once, as the reader does. -/
theorem readString_closed (ps : List Piece) (r : List Char) :
    (readString (closed ps ++ r)).yield? = (said? ps).map (·, r) := by
  fun_induction said? ps with
  | case1 => exact readString_quote r
  | case2 c h ps ih =>
    rw [closed_cons, Piece.text, List.singleton_append, readString_other h, ih]
    simp [Function.comp_def]
  | case3 e c h ps ih =>
    rw [closed_cons, Piece.text, List.cons_append, List.singleton_append, readString_backslash,
      readEscape_letter h, Option.bind_some, ih]
    simp [Function.comp_def]
  | case4 a b c d n h ps hlow =>
    rw [closed_cons, Piece.text]
    simp [readString_backslash, readEscape_hex, readHex_cons, h, hlow]
  | case5 a b c d n h hlow hhigh a' b' c' d' m h' ps hm ih =>
    rw [closed_cons, closed_cons, Piece.text, Piece.text]
    simp [readString_backslash, readEscape_hex, readLowHalf_yield, readHalfEscape_yield,
      readHex_cons, h, h', hlow, hhigh, hm, ih,
      Function.comp_def]
  | case6 a b c d n h hlow hhigh a' b' c' d' m h' ps hm =>
    rw [closed_cons, closed_cons, Piece.text, Piece.text]
    simp [readString_backslash, readEscape_hex, readLowHalf_yield, readHalfEscape_yield,
      readHex_cons, h, h', hlow, hhigh, hm]
  | case7 a b c d n h ps hlow hhigh hps =>
    rw [closed_cons, Piece.text]
    simp [readString_backslash, readEscape_hex, readHex_cons, h, hlow, hhigh,
      readLowHalf_closed hps]
  | case8 a b c d n h ps hlow hhigh ih =>
    rw [closed_cons, Piece.text]
    simp [readString_backslash, readEscape_hex, readHex_cons, h, hlow, hhigh, ih,
      Function.comp_def]

/-- An escape that is read is one piece, or two that name the halves of a character. -/
theorem exists_pieces_of_readEscape {x : Char} (h : (readEscape s).yield? = some (x, r)) :
    ∃ ps : List Piece, '\\' :: s = ps.flatMap Piece.text ++ r := by
  cases s with
  | nil => cases h
  | cons e s =>
    by_cases he : e = 'u'
    · subst he
      rw [readEscape_hex, Option.bind_eq_some_iff] at h
      obtain ⟨⟨n, t⟩, hn, h⟩ := h
      obtain ⟨a, b, c, d, rfl, hnum⟩ := exists_digits_of_readHex hn
      dsimp only at h
      by_cases hlow : isLowHalf n = true
      · rw [if_pos hlow] at h
        cases h
      · rw [if_neg hlow] at h
        by_cases hhigh : isHighHalf n = true
        · rw [if_pos hhigh, readLowHalf_yield, readHalfEscape_yield, Option.bind_eq_some_iff] at h
          obtain ⟨⟨_, t'⟩, ht, h⟩ := h
          split at ht
          next t =>
            cases ht
            obtain ⟨⟨m, u⟩, hm, hlast⟩ := Option.bind_eq_some_iff.1 h
            obtain ⟨a', b', c', d', rfl, hnum'⟩ := exists_digits_of_readHex hm
            dsimp only at hlast
            by_cases hsecond : isLowHalf m = true
            · rw [if_pos hsecond, Option.some.injEq, Prod.mk.injEq] at hlast
              obtain ⟨-, rfl⟩ := hlast
              exact ⟨[.hex a b c d n hnum, .hex a' b' c' d' m hnum'], by simp [Piece.text]⟩
            · rw [if_neg hsecond] at hlast
              cases hlast
          next => cases ht
        · rw [if_neg hhigh] at h
          cases h
          exact ⟨[.hex a b c d n hnum], by simp [Piece.text]⟩
    · rw [readEscape, if_neg he] at h
      cases hshort : shortEscape? e with
      | none =>
        rw [hshort] at h
        cases h
      | some y =>
        rw [hshort] at h
        cases h
        exact ⟨[.short e y hshort], by simp [Piece.text]⟩

/-- Whatever is read as a string is made of pieces. By induction on the length of the text. -/
theorem exists_closed_of_readString {cs : List Char} (h : (readString s).yield? = some (cs, r)) :
    ∃ ps, s = closed ps ++ r ∧ said? ps = some cs := by
  have hform : ∃ ps, s = closed ps ++ r := by
    induction hn : s.length using Nat.strongRecOn generalizing s cs with
    | ind n ih =>
      subst hn
      cases s with
      | nil =>
        rw [readString] at h
        cases h
      | cons c s =>
        by_cases hquote : c = '"'
        · subst hquote
          rw [readString_quote] at h
          cases h
          exact ⟨[], rfl⟩
        · by_cases hslash : c = '\\'
          · subst hslash
            rw [readString_backslash, Option.bind_eq_some_iff] at h
            obtain ⟨⟨x, t⟩, hx, h⟩ := h
            obtain ⟨⟨cs', r'⟩, ht, hr⟩ := Option.map_eq_some_iff.1 h
            cases hr
            obtain ⟨hle, -⟩ := Reading.gives_iff.2 hx
            obtain ⟨ps, rfl⟩ := ih t.length (Nat.lt_succ_of_le hle) ht rfl
            obtain ⟨qs, hqs⟩ := exists_pieces_of_readEscape hx
            exact ⟨qs ++ ps, by rw [hqs]; simp [closed]⟩
          · by_cases hcontrol : c < ' '
            · rw [readString, if_neg hquote, if_neg hslash, if_pos hcontrol] at h
              cases h
            · have hc : c ≠ '"' ∧ c ≠ '\\' ∧ ¬c < ' ' := ⟨hquote, hslash, hcontrol⟩
              rw [readString_other hc] at h
              obtain ⟨⟨cs', r'⟩, hs, hr⟩ := Option.map_eq_some_iff.1 h
              cases hr
              obtain ⟨ps, rfl⟩ := ih s.length (Nat.lt_succ_self _) hs rfl
              exact ⟨.plain c hc :: ps, by rw [closed_cons]; rfl⟩
  obtain ⟨ps, rfl⟩ := hform
  rw [readString_closed] at h
  obtain ⟨cs', hcs, hr⟩ := Option.map_eq_some_iff.1 h
  cases hr
  exact ⟨ps, rfl, hcs⟩

/-! ## Strings that are passed over -/

theorem skipString_quote (r : List Char) : (skipString ('"' :: r)).yield? = some ((), r) := by
  rw [skipString, if_pos rfl]
  rfl

theorem skipString_backslash (r : List Char) :
    (skipString ('\\' :: r)).yield? = (skipEscape r).yield?.bind fun x =>
      (skipString x.2).yield? := by
  rw [skipString, if_neg (by decide), if_pos rfl, Reading.yield?_widen]
  exact Reading.yield?_andThen _ fun x => rfl

theorem skipString_other (hc : c ≠ '"' ∧ c ≠ '\\' ∧ ¬c < ' ') (r : List Char) :
    (skipString (c :: r)).yield? = (skipString r).yield? := by
  rw [skipString, if_neg hc.1, if_neg hc.2.1, if_neg hc.2.2, Reading.yield?_widen]

theorem skipEscape_hex (r : List Char) :
    (skipEscape ('u' :: r)).yield? = (readHex r).yield?.map fun n => ((), n.2) := by
  rw [skipEscape, if_pos rfl, Reading.yield?_widen, Reading.yield?_map]

theorem skipEscape_letter {e x : Char} (h : shortEscape? e = some x) (r : List Char) :
    (skipEscape (e :: r)).yield? = some ((), r) := by
  rw [skipEscape, if_neg (ne_unicode_of_shortEscape? h), h]
  rfl

theorem skipString_closed (ps : List Piece) (r : List Char) :
    (skipString (closed ps ++ r)).yield? = some ((), r) := by
  induction ps with
  | nil => exact skipString_quote r
  | cons p ps ih =>
    rw [closed_cons]
    cases p with
    | plain c h => exact (skipString_other h _).trans ih
    | short e c h =>
      rw [Piece.text, List.cons_append, List.singleton_append, skipString_backslash,
        skipEscape_letter h]
      exact ih
    | hex a b c d n h =>
      rw [Piece.text]
      simp [skipString_backslash, skipEscape_hex, readHex_cons, h, ih]

theorem exists_piece_of_skipEscape (h : (skipEscape s).yield? = some ((), r)) :
    ∃ p : Piece, '\\' :: s = p.text ++ r := by
  cases s with
  | nil => cases h
  | cons e s =>
    by_cases he : e = 'u'
    · subst he
      rw [skipEscape_hex] at h
      obtain ⟨⟨n, t⟩, hn, hr⟩ := Option.map_eq_some_iff.1 h
      cases hr
      obtain ⟨a, b, c, d, rfl, hnum⟩ := exists_digits_of_readHex hn
      exact ⟨.hex a b c d n hnum, rfl⟩
    · rw [skipEscape, if_neg he] at h
      cases hshort : shortEscape? e with
      | none =>
        rw [hshort] at h
        cases h
      | some y =>
        rw [hshort] at h
        cases h
        exact ⟨.short e y hshort, rfl⟩

/-- Whatever is passed over as a string is made of pieces. By induction on the length of the
text. -/
theorem exists_closed_of_skipString (h : (skipString s).yield? = some ((), r)) :
    ∃ ps, s = closed ps ++ r := by
  induction hn : s.length using Nat.strongRecOn generalizing s with
  | ind n ih =>
    subst hn
    cases s with
    | nil =>
      rw [skipString] at h
      cases h
    | cons c s =>
      by_cases hquote : c = '"'
      · subst hquote
        rw [skipString_quote] at h
        cases h
        exact ⟨[], rfl⟩
      · by_cases hslash : c = '\\'
        · subst hslash
          rw [skipString_backslash, Option.bind_eq_some_iff] at h
          obtain ⟨⟨_, t⟩, hx, h⟩ := h
          obtain ⟨hle, -⟩ := Reading.gives_iff.2 hx
          obtain ⟨ps, rfl⟩ := ih t.length (Nat.lt_succ_of_le hle) h rfl
          obtain ⟨p, hp⟩ := exists_piece_of_skipEscape hx
          exact ⟨p :: ps, by rw [hp, closed_cons]⟩
        · by_cases hcontrol : c < ' '
          · rw [skipString, if_neg hquote, if_neg hslash, if_pos hcontrol] at h
            cases h
          · have hc : c ≠ '"' ∧ c ≠ '\\' ∧ ¬c < ' ' := ⟨hquote, hslash, hcontrol⟩
            rw [skipString_other hc] at h
            obtain ⟨ps, rfl⟩ := ih s.length (Nat.lt_succ_self _) h rfl
            exact ⟨.plain c hc :: ps, by rw [closed_cons]; rfl⟩

end Embedder.Json
