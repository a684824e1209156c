import Embedder.Proofs.Json.Spelling

/-!
# Values are passed over to their last character

To pass over a value inside of brackets is to pass over what remains of the brackets behind it
(`skipValue_text`): whatever the value is, the reader stops at its last character. It knows what it
is inside of from a stack, so the proof is an induction on the value in which the stack is any one.

Whatever is passed over is a value (`exists_value_of_skipValue`). There the induction is on the length
of the text, as there is no value yet.

A number ends where something stands that cannot continue it (`Stops`), which is so before a comma
and before what closes a bracket.
-/

namespace Embedder.Json

open Layout

variable {s t r : List Char} {c : Char} {b : Bracket} {stack : List Bracket}

/-! ## Numbers -/

/-- Nothing stands here that continues a number. -/
def Stops (r : List Char) : Prop :=
  ∀ c ∈ r.head?, isDigit c = false ∧ c ≠ '.' ∧ c ≠ 'e' ∧ c ≠ 'E'

/-- What separates elements or closes a bracket does not continue a number, nor do the blanks
before it. -/
theorem stops_of_token? (h : token? s = some (c, r)) (hc : c = ',' ∨ c = ']' ∨ c = '\x7d') :
    Stops s := by
  obtain ⟨⟨w, hw⟩, rfl⟩ := exists_blanks_of_token? h
  intro d hd
  cases w with
  | nil =>
    cases hd
    rcases hc with rfl | rfl | rfl <;> decide
  | cons e w =>
    cases hd
    have hspace : isSpace d = true := hw d (List.mem_cons_self ..)
    simp only [isSpace, Bool.or_eq_true, decide_eq_true_eq] at hspace
    rcases hspace with ((rfl | rfl) | rfl) | rfl <;> decide

theorem dropWhile_digits (ds : Digits) (hr : ∀ c ∈ r.head?, isDigit c = false) :
    (ds.text ++ r).dropWhile isDigit = r := by
  rw [List.dropWhile_append_of_pos ds.digit]
  cases r with
  | nil => rfl
  | cons c r => exact List.dropWhile_cons_of_neg (by simp [hr c rfl])

theorem exists_digits (hc : isDigit c = true) (s : List Char) :
    ∃ ds : Digits, c :: s = ds.text ++ s.dropWhile isDigit ∧ ds.text = c :: s.takeWhile isDigit := by
  have hdigit : ∀ d ∈ c :: s.takeWhile isDigit, isDigit d = true := by
    intro d hd
    rcases List.mem_cons.1 hd with rfl | hd
    · exact hc
    · exact List.mem_takeWhile_imp hd
  refine ⟨⟨c :: s.takeWhile isDigit, List.cons_ne_nil _ _, hdigit⟩, ?_, rfl⟩
  rw [List.cons_append, List.takeWhile_append_dropWhile]

theorem skipExponentDigits_cons (hc : isDigit c = true) (s : List Char) :
    (skipExponentDigits (c :: s)).yield? = some ((), s.dropWhile isDigit) := by
  rw [skipExponentDigits, if_pos hc]
  rfl

theorem skipExponentDigits_digits (ds : Digits) (hr : ∀ c ∈ r.head?, isDigit c = false) :
    (skipExponentDigits (ds.text ++ r)).yield? = some ((), r) := by
  obtain ⟨_ | ⟨c, cs⟩, hne, hdigit⟩ := ds
  · exact absurd rfl hne
  · have hc : isDigit c = true := hdigit c (List.mem_cons_self ..)
    have hdrop : (c :: cs ++ r).dropWhile isDigit = r := dropWhile_digits ⟨c :: cs, hne, hdigit⟩ hr
    rw [List.cons_append, List.dropWhile_cons_of_pos hc] at hdrop
    rw [List.cons_append, skipExponentDigits_cons hc, hdrop]

theorem exists_digits_of_skipExponentDigits (h : (skipExponentDigits s).yield? = some ((), r)) :
    ∃ ds : Digits, s = ds.text ++ r := by
  cases s with
  | nil => cases h
  | cons c s =>
    cases hc : isDigit c with
    | false =>
      rw [skipExponentDigits, hc] at h
      cases h
    | true =>
      rw [skipExponentDigits_cons hc] at h
      cases h
      obtain ⟨ds, hds, -⟩ := exists_digits hc s
      exact ⟨ds, hds⟩

/-- A digit is no sign. -/
theorem not_sign_of_isDigit (hc : isDigit c = true) : ¬(c = '+' ∨ c = '-') := by
  rintro (rfl | rfl) <;> exact absurd hc (by decide)

theorem skipExponent_signed {letter d : Char} (hletter : letter = 'e' ∨ letter = 'E')
    (hd : d = '+' ∨ d = '-') (s : List Char) :
    (skipExponent (letter :: d :: s)).yield? = (skipExponentDigits s).yield? := by
  unfold skipExponent
  dsimp only
  rw [if_pos hletter, if_pos hd, Reading.yield?_widen]

theorem skipExponent_unsigned {letter : Char} (hletter : letter = 'e' ∨ letter = 'E')
    (hs : ∀ d ∈ s.head?, ¬(d = '+' ∨ d = '-')) :
    (skipExponent (letter :: s)).yield? = (skipExponentDigits s).yield? := by
  unfold skipExponent
  dsimp only
  rw [if_pos hletter]
  cases s with
  | nil => rfl
  | cons d s =>
    dsimp only
    rw [if_neg (hs d rfl), Reading.yield?_widen]

theorem skipExponent_other (hc : ¬(c = 'e' ∨ c = 'E')) (s : List Char) :
    (skipExponent (c :: s)).yield? = some ((), c :: s) := by
  unfold skipExponent
  dsimp only
  rw [if_neg hc]
  rfl

theorem skipExponent_text (e : Option Exponent) (hr : Stops r) :
    (skipExponent (exponentText e ++ r)).yield? = some ((), r) := by
  cases e with
  | none =>
    cases r with
    | nil => rfl
    | cons c r =>
      obtain ⟨-, -, he, hE⟩ := hr c rfl
      exact skipExponent_other (not_or.2 ⟨he, hE⟩) r
  | some e =>
    obtain ⟨letter, hletter, sign, hsign, ds⟩ := e
    have hdigits := skipExponentDigits_digits ds fun c hc => (hr c hc).1
    rw [exponentText, List.cons_append, List.append_assoc]
    cases sign with
    | none =>
      rw [Option.toList, List.nil_append, skipExponent_unsigned hletter, hdigits]
      obtain ⟨_ | ⟨c, cs⟩, hne, hdigit⟩ := ds
      · exact absurd rfl hne
      · rintro _ ⟨⟩
        exact not_sign_of_isDigit (hdigit c (List.mem_cons_self ..))
    | some d =>
      rw [Option.toList, List.singleton_append, skipExponent_signed hletter (hsign d rfl), hdigits]

theorem exists_exponent_of_skipExponent (h : (skipExponent s).yield? = some ((), r)) :
    ∃ e, s = exponentText e ++ r := by
  cases s with
  | nil =>
    cases h
    exact ⟨none, rfl⟩
  | cons letter s =>
    by_cases hletter : letter = 'e' ∨ letter = 'E'
    · by_cases hsign : ∃ d ∈ s.head?, d = '+' ∨ d = '-'
      · obtain ⟨d, hd, hsign⟩ := hsign
        obtain ⟨s, rfl⟩ := List.head?_eq_some_iff.1 hd
        rw [skipExponent_signed hletter hsign] at h
        obtain ⟨ds, rfl⟩ := exists_digits_of_skipExponentDigits h
        refine ⟨some ⟨letter, hletter, some d, ?_, ds⟩, rfl⟩
        rintro _ ⟨⟩
        exact hsign
      · rw [skipExponent_unsigned hletter fun d hd hor => hsign ⟨d, hd, hor⟩] at h
        obtain ⟨ds, rfl⟩ := exists_digits_of_skipExponentDigits h
        refine ⟨some ⟨letter, hletter, none, ?_, ds⟩, rfl⟩
        rintro _ ⟨⟩
    · rw [skipExponent_other hletter] at h
      cases h
      exact ⟨none, rfl⟩

/-- An exponent begins with its letter, and what stops a number is no digit. -/
theorem not_digit_exponent (e : Option Exponent) (hr : Stops r) :
    ∀ c ∈ (exponentText e ++ r).head?, isDigit c = false := by
  intro c hc
  cases e with
  | none => exact (hr c hc).1
  | some e =>
    cases hc
    rcases e.isLetter with hletter | hletter <;> rw [hletter] <;> decide

theorem skipFraction_text (f : Option Digits) (e : Option Exponent) (hr : Stops r) :
    (skipFraction (fractionText f ++ (exponentText e ++ r))).yield? = some ((), r) := by
  have hexponent := skipExponent_text e hr
  cases f with
  | none =>
    rw [fractionText, List.nil_append]
    cases hs : exponentText e ++ r with
    | nil =>
      rw [hs] at hexponent
      exact hexponent
    | cons c s =>
      have hpoint : c ≠ '.' := by
        cases e with
        | none =>
          rw [exponentText, List.nil_append] at hs
          exact (hr c (by rw [hs]; rfl)).2.1
        | some e =>
          cases hs
          rcases e.isLetter with hletter | hletter <;> rw [hletter] <;> decide
      rw [hs] at hexponent
      rw [skipFraction, if_neg hpoint]
      exact hexponent
  | some ds =>
    have hdrop := dropWhile_digits ds (not_digit_exponent e hr)
    have hhead : (ds.text ++ (exponentText e ++ r)).head?.any isDigit = true := by
      obtain ⟨_ | ⟨c, cs⟩, hne, hdigit⟩ := ds
      · exact absurd rfl hne
      · exact hdigit c (List.mem_cons_self ..)
    rw [fractionText, List.cons_append, skipFraction, if_pos rfl, if_pos hhead,
      Reading.yield?_widen, Reading.yield?_widen]
    simp only [skipDigits]
    rw [hdrop]
    exact hexponent

theorem exists_fraction_of_skipFraction (h : (skipFraction s).yield? = some ((), r)) :
    ∃ f e, s = fractionText f ++ (exponentText e ++ r) := by
  cases s with
  | nil =>
    cases h
    exact ⟨none, none, rfl⟩
  | cons c s =>
    by_cases hpoint : c = '.'
    · subst hpoint
      rw [skipFraction, if_pos rfl] at h
      cases s with
      | nil => cases h
      | cons d s =>
        cases hd : isDigit d with
        | false =>
          rw [if_neg (by simp [hd])] at h
          cases h
        | true =>
          rw [if_pos (by simp [hd]), Reading.yield?_widen, Reading.yield?_widen] at h
          obtain ⟨e, he⟩ := exists_exponent_of_skipExponent h
          obtain ⟨ds, hds, -⟩ := exists_digits hd s
          have hrest : s.dropWhile isDigit = exponentText e ++ r :=
            (List.dropWhile_cons_of_pos hd).symm.trans he
          exact ⟨some ds, e, by rw [fractionText, List.cons_append, ← hrest, ← hds]⟩
    · rw [skipFraction, if_neg hpoint] at h
      obtain ⟨e, he⟩ := exists_exponent_of_skipExponent h
      exact ⟨none, e, he⟩

/-- What follows the whole part of a number begins with no digit. -/
theorem not_digit_fraction (f : Option Digits) (e : Option Exponent) (hr : Stops r) :
    ∀ c ∈ (fractionText f ++ (exponentText e ++ r)).head?, isDigit c = false := by
  intro c hc
  cases f with
  | none => exact not_digit_exponent e hr c hc
  | some ds =>
    cases hc
    decide

theorem skipNumber_magnitude (n : Numeral) (hr : Stops r) :
    (skipNumber (n.magnitude ++ r)).yield? = some ((), r) := by
  obtain ⟨_, ⟨_ | ⟨c, cs⟩, hne, hdigit⟩, hzero, f, e⟩ := n
  · exact absurd rfl hne
  · have hc : isDigit c = true := hdigit c (List.mem_cons_self ..)
    have htail := not_digit_fraction f e hr
    have hfraction := skipFraction_text f e hr
    rw [Numeral.magnitude, List.append_assoc, List.append_assoc, List.cons_append, skipNumber,
      if_neg (by simp [hc])]
    by_cases hleading : c = '0'
    · subst hleading
      obtain rfl := hzero cs rfl
      have hnone : ¬(fractionText f ++ (exponentText e ++ r)).head?.any isDigit = true := by
        cases hhead : (fractionText f ++ (exponentText e ++ r)).head? with
        | none => exact Bool.false_ne_true
        | some d => exact fun hd => absurd hd (by simp [htail d hhead])
      rw [if_pos rfl, List.nil_append, if_neg hnone, Reading.yield?_widen]
      exact hfraction
    · have hdrop := dropWhile_digits ⟨c :: cs, hne, hdigit⟩ htail
      rw [List.cons_append, List.dropWhile_cons_of_pos hc] at hdrop
      rw [if_neg hleading, Reading.yield?_widen, Reading.yield?_widen]
      simp only [skipDigits]
      rw [hdrop]
      exact hfraction

/-- The number is the positive one. -/
theorem exists_numeral_of_skipNumber (negative : Bool) (h : (skipNumber s).yield? = some ((), r)) :
    ∃ n : Numeral, n.negative = negative ∧ s = n.magnitude ++ r := by
  cases s with
  | nil => cases h
  | cons c s =>
    cases hc : isDigit c with
    | false =>
      rw [skipNumber, if_pos (by simp [hc])] at h
      cases h
    | true =>
      rw [skipNumber, if_neg (by simp [hc])] at h
      obtain ⟨ds, hds, htext⟩ := exists_digits hc s
      by_cases hzero : c = '0'
      · subst hzero
        rw [if_pos rfl] at h
        cases hnext : s.head?.any isDigit with
        | true =>
          rw [if_pos hnext] at h
          cases h
        | false =>
          rw [if_neg (by simp [hnext]), Reading.yield?_widen] at h
          obtain ⟨f, e, hs⟩ := exists_fraction_of_skipFraction h
          have hdigit : ∀ d ∈ ['0'], isDigit d = true := fun _ hd => List.mem_singleton.mp hd ▸ hc
          refine ⟨⟨negative, ⟨['0'], List.cons_ne_nil _ _, hdigit⟩, ?_, f, e⟩, rfl, ?_⟩
          · rintro _ ⟨⟩
            rfl
          · simp [Numeral.magnitude, hs]
      · rw [if_neg hzero, Reading.yield?_widen, Reading.yield?_widen] at h
        obtain ⟨f, e, hs⟩ := exists_fraction_of_skipFraction h
        refine ⟨⟨negative, ds, ?_, f, e⟩, rfl, ?_⟩
        · intro tail htail
          rw [htext] at htail
          cases htail
          exact absurd rfl hzero
        · rw [hds, Numeral.magnitude, List.append_assoc, List.append_assoc, ← hs]
          rfl

/-! ## What the readers do next -/

theorem readColon_yield (s : List Char) :
    (readColon s).yield? =
      (token? s).bind fun x => if x.1 = ':' then some ((), x.2) else none := by
  unfold readColon
  split
  next h =>
    rw [token?_of_nil h]
    rfl
  next c r h =>
    rw [token?_of_cons h]
    by_cases hc : c = ':' <;> simp [hc]

theorem skipKey_object (s : List Char) :
    (skipKey .object s).yield? = (token? s).bind fun x =>
      if x.1 = '"' then (skipString x.2).yield?.bind fun k => (readColon k.2).yield?
      else none := by
  unfold skipKey
  dsimp only
  split
  next h =>
    rw [token?_of_nil h]
    rfl
  next c r h =>
    rw [token?_of_cons h, Option.bind_some]
    by_cases hc : c = '"'
    · rw [if_pos hc, if_pos hc, Reading.yield?_widen]
      exact Reading.yield?_andThen _ fun k => rfl
    · rw [if_neg hc, if_neg hc]
      rfl

theorem skipRest_nil (s : List Char) : (skipRest [] s).yield? = some ((), s) := by
  rw [skipRest]
  rfl

theorem skipRest_cons (b : Bracket) (stack : List Bracket) (s : List Char) :
    (skipRest (b :: stack) s).yield? = (token? s).bind fun x =>
      if x.1 = ',' then (skipElement b stack x.2).yield?
      else if x.1 = b.closer then (skipRest stack x.2).yield?
      else none := by
  rw [skipRest]
  dsimp only
  split
  next h =>
    rw [token?_of_nil h]
    rfl
  next c r h =>
    rw [token?_of_cons h, Option.bind_some]
    by_cases hcomma : c = ','
    · rw [if_pos hcomma, if_pos hcomma, Reading.yield?_widen]
    · by_cases hcloser : c = b.closer
      · rw [if_neg hcomma, if_neg hcomma, if_pos hcloser, if_pos hcloser, Reading.yield?_widen]
      · rw [if_neg hcomma, if_neg hcomma, if_neg hcloser, if_neg hcloser]
        rfl

theorem skipElement_yield (b : Bracket) (stack : List Bracket) (s : List Char) :
    (skipElement b stack s).yield? =
      (skipKey b s).yield?.bind fun k => (skipValue (b :: stack) k.2).yield? := by
  rw [skipElement]
  exact Reading.yield?_andThen _ fun k => rfl

theorem skipInside_yield (b : Bracket) (stack : List Bracket) (s : List Char) :
    (skipInside b stack s).yield? = (token? s).bind fun x =>
      if x.1 = b.closer then (skipRest stack x.2).yield?
      else (skipElement b stack s).yield? := by
  rw [skipInside]
  dsimp only
  split
  next h =>
    rw [token?_of_nil h]
    rfl
  next c r h =>
    rw [token?_of_cons h, Option.bind_some]
    by_cases hc : c = b.closer
    · rw [if_pos hc, if_pos hc, Reading.yield?_widen]
    · rw [if_neg hc, if_neg hc]

theorem skipValue_yield (stack : List Bracket) (s : List Char) :
    (skipValue stack s).yield? = (token? s).bind fun x =>
      if x.1 = '[' then (skipInside .list stack x.2).yield?
      else if x.1 = '\x7b' then (skipInside .object stack x.2).yield?
      else (skipAtom (x.1 :: x.2)).yield?.bind fun a => (skipRest stack a.2).yield? := by
  rw [skipValue]
  dsimp only
  split
  next h =>
    rw [token?_of_nil h]
    rfl
  next c r h =>
    rw [token?_of_cons h, Option.bind_some]
    by_cases hlist : c = '['
    · rw [if_pos hlist, if_pos hlist, Reading.yield?_widen]
    · by_cases hobject : c = '\x7b'
      · rw [if_neg hlist, if_neg hlist, if_pos hobject, if_pos hobject, Reading.yield?_widen]
      · rw [if_neg hlist, if_neg hlist, if_neg hobject, if_neg hobject, Reading.yield?_widen]
        exact Reading.yield?_andThen _ fun a => rfl

theorem skipValue_opener (b : Bracket) (stack : List Bracket) (w : Blanks) (s : List Char) :
    (skipValue stack (w.text ++ opener b :: s)).yield? = (skipInside b stack s).yield? := by
  cases b with
  | list =>
    rw [opener, skipValue_yield, token?_blanks_cons w (by decide), Option.bind_some]
    dsimp only
    rw [if_pos rfl]
  | object =>
    have hbrackets : '\x7b' ≠ '[' := by decide
    rw [opener, skipValue_yield, token?_blanks_cons w (by decide), Option.bind_some]
    dsimp only
    rw [if_neg hbrackets, if_pos rfl]

/-! ## Whatever is laid out is passed over -/

/-- No blank closes a bracket. -/
theorem isSpace_closer (b : Bracket) : isSpace b.closer = false := by
  cases b <;> decide

theorem comma_ne_closer (b : Bracket) : b.closer ≠ ',' := by
  cases b <;> decide

theorem skipKey_lead (lead : Lead b) (r : List Char) :
    (skipKey b (lead.text ++ r)).yield? = some ((), r) := by
  cases lead with
  | item => rfl
  | member before key after =>
    rw [Lead.text, List.append_assoc, List.cons_append, List.append_assoc, List.append_assoc,
      skipKey_object, token?_blanks_cons before (by decide), Option.bind_some, if_pos rfl,
      skipString_closed, Option.bind_some, readColon_yield, List.singleton_append,
      token?_blanks_cons after (by decide)]
    rfl

/-- The characters that a value can begin with. -/
def Begins (c : Char) : Value → Prop
  | .null => c = 'n'
  | .flag b => c = if b then 't' else 'f'
  | .number _ => c = '-' ∨ isDigit c = true
  | .string _ => c = '"'
  | .empty b _ | .filled b _ => c = opener b

/-- A character that is no digit is none of those that are. -/
theorem ne_of_isDigit (hc : isDigit c = true) {d : Char} (hd : isDigit d = false) : c ≠ d := by
  rintro rfl
  rw [hc] at hd
  cases hd

theorem exists_begins (v : Value) (r : List Char) : ∃ c t, v.text ++ r = c :: t ∧ Begins c v := by
  cases v with
  | null | string => exact ⟨_, _, rfl, rfl⟩
  | flag b => cases b <;> exact ⟨_, _, rfl, rfl⟩
  | number n =>
    obtain ⟨negative, ⟨_ | ⟨c, cs⟩, hne, hdigit⟩, hzero, f, e⟩ := n
    · exact absurd rfl hne
    · cases negative with
      | true => exact ⟨_, _, rfl, .inl rfl⟩
      | false => exact ⟨_, _, rfl, .inr (hdigit c (List.mem_cons_self ..))⟩
  | empty b inside => exact ⟨_, _, rfl, rfl⟩
  | filled b es => exact ⟨_, _, rfl, rfl⟩

/-- What no value begins with. -/
theorem ne_of_begins {v : Value} (hv : Begins c v) {d : Char}
    (hd : isDigit d = false ∧ d ∉ ['n', 't', 'f', '-', '"', '[', '\x7b']) : c ≠ d := by
  rintro rfl
  simp only [List.mem_cons, List.not_mem_nil, or_false, not_or] at hd
  obtain ⟨hdigit, hn, ht, hf, hminus, hquote, hlist, hobject⟩ := hd
  cases v with
  | null => exact hn hv
  | flag b => cases b with
    | true => exact ht hv
    | false => exact hf hv
  | number n =>
    rcases hv with hv | hv
    · exact hminus hv
    · rw [hdigit] at hv
      cases hv
  | string ps => exact hquote hv
  | empty b inside => cases b with
    | list => exact hlist hv
    | object => exact hobject hv
  | filled b es => cases b with
    | list => exact hlist hv
    | object => exact hobject hv

theorem isSpace_of_begins {v : Value} (hv : Begins c v) : isSpace c = false := by
  have hspace := ne_of_begins hv (d := ' ') (by decide)
  have hline := ne_of_begins hv (d := '\n') (by decide)
  have htab := ne_of_begins hv (d := '\t') (by decide)
  have hreturn := ne_of_begins hv (d := '\r') (by decide)
  simp [isSpace, hspace, hline, htab, hreturn]

/-- The first token of a value begins it. -/
theorem token?_value (w : Blanks) (v : Value) (r : List Char) :
    ∃ c t, v.text ++ r = c :: t ∧ token? (w.text ++ (v.text ++ r)) = some (c, t) ∧ Begins c v := by
  obtain ⟨c, t, htext, hv⟩ := exists_begins v r
  refine ⟨c, t, htext, ?_, hv⟩
  rw [htext, token?_blanks_cons w (isSpace_of_begins hv)]

/-- A value without parts. -/
def IsAtom : Value → Prop
  | .empty _ _ | .filled _ _ => False
  | _ => True

/-- An atom opens no bracket. -/
theorem ne_opener_of_begins {v : Value} (hatom : IsAtom v) (hv : Begins c v) :
    c ≠ '[' ∧ c ≠ '\x7b' := by
  cases v with
  | null | string =>
    cases hv
    decide
  | flag b => cases b <;> cases hv <;> decide
  | number n =>
    rcases hv with rfl | hv
    · decide
    · exact ⟨ne_of_isDigit hv (by decide), ne_of_isDigit hv (by decide)⟩
  | empty b inside => cases hatom
  | filled b es => cases hatom

theorem skipAtom_number (n : Numeral) (hr : Stops r) :
    (skipAtom (n.text ++ r)).yield? = some ((), r) := by
  have hmagnitude := skipNumber_magnitude n hr
  obtain ⟨negative, ⟨_ | ⟨c, cs⟩, hne, hdigit⟩, hzero, f, e⟩ := n
  · exact absurd rfl hne
  · cases negative with
    | true =>
      rw [Numeral.text, if_pos rfl, List.singleton_append, List.cons_append, skipAtom,
        if_neg (by decide), if_neg (by decide), if_neg (by decide), if_neg (by decide), if_pos rfl,
        Reading.yield?_widen]
      exact hmagnitude
    | false =>
      have hc : isDigit c = true := hdigit c (List.mem_cons_self ..)
      have htext : (Numeral.mk false ⟨c :: cs, hne, hdigit⟩ hzero f e).text ++ r =
          c :: (cs ++ ((fractionText f ++ exponentText e) ++ r)) := by
        simp [Numeral.text, Numeral.magnitude]
      have hsame : (Numeral.mk false ⟨c :: cs, hne, hdigit⟩ hzero f e).magnitude ++ r =
          c :: (cs ++ ((fractionText f ++ exponentText e) ++ r)) := by
        simp [Numeral.magnitude]
      rw [hsame] at hmagnitude
      rw [htext, skipAtom, if_neg (ne_of_isDigit hc (by decide)),
        if_neg (ne_of_isDigit hc (by decide)), if_neg (ne_of_isDigit hc (by decide)),
        if_neg (ne_of_isDigit hc (by decide)), if_neg (ne_of_isDigit hc (by decide)), if_pos hc]
      exact hmagnitude

theorem skipAtom_text {v : Value} (hv : IsAtom v) (hr : Stops r) :
    (skipAtom (v.text ++ r)).yield? = some ((), r) := by
  cases v with
  | null => rfl
  | flag b => cases b <;> rfl
  | number n => exact skipAtom_number n hr
  | string ps =>
    rw [Value.text, List.cons_append, skipAtom, if_neg (by decide), if_neg (by decide),
      if_neg (by decide), if_pos rfl, Reading.yield?_widen]
    exact skipString_closed ps r
  | empty b w => cases hv
  | filled b es => cases hv

theorem skipValue_atom (v : Value) (hv : IsAtom v) (w : Blanks) (hr : Stops r) :
    (skipValue stack (w.text ++ (v.text ++ r))).yield? = (skipRest stack r).yield? := by
  obtain ⟨c, t, htext, htoken, hc⟩ := token?_value w v r
  obtain ⟨hlist, hobject⟩ := ne_opener_of_begins hv hc
  rw [skipValue_yield, htoken, Option.bind_some, if_neg hlist, if_neg hobject, ← htext,
    skipAtom_text hv hr, Option.bind_some]

theorem skipRest_closer (b : Bracket) (w : Blanks) (r : List Char) :
    (skipRest (b :: stack) (w.text ++ b.closer :: r)).yield? = (skipRest stack r).yield? := by
  rw [skipRest_cons, token?_blanks_cons w (isSpace_closer b), Option.bind_some,
    if_neg (comma_ne_closer b), if_pos rfl]

theorem skipRest_comma (b : Bracket) (w : Blanks) (r : List Char) :
    (skipRest (b :: stack) (w.text ++ ',' :: r)).yield? = (skipElement b stack r).yield? := by
  rw [skipRest_cons, token?_blanks_cons w (by decide), Option.bind_some, if_pos rfl]

theorem stops_closer (b : Bracket) (w : Blanks) (r : List Char) :
    Stops (w.text ++ b.closer :: r) := by
  refine stops_of_token? (token?_blanks_cons w (isSpace_closer b)) ?_
  cases b with
  | list => exact .inr (.inl rfl)
  | object => exact .inr (.inr rfl)

theorem stops_comma (w : Blanks) (r : List Char) : Stops (w.text ++ ',' :: r) :=
  stops_of_token? (token?_blanks_cons w (by decide)) (.inl rfl)

theorem skipElement_lead (lead : Lead b) (r : List Char) :
    (skipElement b stack (lead.text ++ r)).yield? = (skipValue (b :: stack) r).yield? := by
  rw [skipElement_yield, skipKey_lead, Option.bind_some]

theorem Value.text_empty_append (inside : Blanks) (r : List Char) :
    (Value.empty b inside).text ++ r = opener b :: (inside.text ++ b.closer :: r) := by
  simp [Value.text]

theorem Value.text_filled_append (es : Elements b) (r : List Char) :
    (Value.filled b es).text ++ r = opener b :: (es.text ++ b.closer :: r) := by
  simp [Value.text]

theorem Elements.text_last_append (lead : Lead b) (before after : Blanks) (v : Value)
    (r : List Char) : (Elements.last lead before v after).text ++ r =
      lead.text ++ (before.text ++ (v.text ++ (after.text ++ r))) := by
  simp [Elements.text]

theorem Elements.text_more_append (lead : Lead b) (before after : Blanks) (v : Value)
    (rest : Elements b) (r : List Char) : (Elements.more lead before v after rest).text ++ r =
      lead.text ++ (before.text ++ (v.text ++ (after.text ++ ',' :: (rest.text ++ r)))) := by
  simp [Elements.text]

/-- The first token of elements does not close their bracket. -/
theorem token?_elements (es : Elements b) (r : List Char) :
    ∃ x, token? (es.text ++ r) = some x ∧ x.1 ≠ b.closer := by
  have hlead (lead : Lead b) (before : Blanks) (v : Value) (t : List Char) :
      ∃ x, token? (lead.text ++ (before.text ++ (v.text ++ t))) = some x ∧ x.1 ≠ b.closer := by
    cases lead with
    | item =>
      obtain ⟨c, u, -, htoken, hc⟩ := token?_value before v t
      exact ⟨(c, u), htoken, ne_of_begins hc (by decide)⟩
    | member beforeKey key after =>
      have hcloser : '"' ≠ Bracket.object.closer := by decide
      rw [Lead.text, List.append_assoc]
      exact ⟨_, token?_blanks_cons beforeKey (by decide), hcloser⟩
  cases es with
  | last lead before v after =>
    rw [Elements.text_last_append]
    exact hlead lead before v _
  | more lead before v after rest =>
    rw [Elements.text_more_append]
    exact hlead lead before v _

theorem skipInside_elements (es : Elements b) (r : List Char) :
    (skipInside b stack (es.text ++ r)).yield? = (skipElement b stack (es.text ++ r)).yield? := by
  obtain ⟨x, hx, hcloser⟩ := token?_elements es r
  rw [skipInside_yield, hx, Option.bind_some, if_neg hcloser]

mutual

/-- A value is passed over whatever it stands inside of. -/
theorem skipValue_text : (v : Value) → (stack : List Bracket) → (w : Blanks) → (r : List Char) →
    Stops r → (skipValue stack (w.text ++ (v.text ++ r))).yield? = (skipRest stack r).yield?
  | .null, _, w, _, hr => skipValue_atom .null trivial w hr
  | .flag b, _, w, _, hr => skipValue_atom (.flag b) trivial w hr
  | .number n, _, w, _, hr => skipValue_atom (.number n) trivial w hr
  | .string ps, _, w, _, hr => skipValue_atom (.string ps) trivial w hr
  | .empty b inside, stack, w, r, _ => by
    rw [Value.text_empty_append, skipValue_opener, skipInside_yield,
      token?_blanks_cons inside (isSpace_closer b), Option.bind_some, if_pos rfl]
  | .filled b es, stack, w, r, _ => by
    rw [Value.text_filled_append, skipValue_opener, skipInside_elements,
      skipElement_text es stack r]

/-- Elements are passed over up to the character that closes their bracket. -/
theorem skipElement_text : {b : Bracket} → (es : Elements b) → (stack : List Bracket) →
    (r : List Char) →
    (skipElement b stack (es.text ++ b.closer :: r)).yield? = (skipRest stack r).yield?
  | b, .last lead before v after, stack, r => by
    rw [Elements.text_last_append, skipElement_lead,
      skipValue_text v (b :: stack) before _ (stops_closer b after r), skipRest_closer]
  | b, .more lead before v after rest, stack, r => by
    rw [Elements.text_more_append, skipElement_lead,
      skipValue_text v (b :: stack) before _ (stops_comma after _), skipRest_comma,
      skipElement_text rest stack r]

end

/-! ## Whatever is passed over is laid out -/

theorem eq_of_readWord {w : List Char} (h : (readWord w s).yield? = some ((), r)) : s = w ++ r := by
  induction w generalizing s with
  | nil =>
    cases h
    rfl
  | cons d w ih =>
    cases s with
    | nil => cases h
    | cons c s =>
      by_cases hc : c = d
      · subst hc
        rw [readWord, if_pos rfl, Reading.yield?_widen] at h
        rw [ih h, List.cons_append]
      · rw [readWord, if_neg hc] at h
        cases h

theorem exists_value_of_skipAtom (h : (skipAtom s).yield? = some ((), r)) :
    ∃ v : Value, s = v.text ++ r := by
  cases s with
  | nil => cases h
  | cons c s =>
    rw [skipAtom] at h
    split at h
    next hc =>
      rw [Reading.yield?_widen] at h
      exact ⟨.null, by rw [hc, eq_of_readWord h]; rfl⟩
    next =>
    split at h
    next hc =>
      rw [Reading.yield?_widen] at h
      exact ⟨.flag true, by rw [hc, eq_of_readWord h]; rfl⟩
    next =>
    split at h
    next hc =>
      rw [Reading.yield?_widen] at h
      exact ⟨.flag false, by rw [hc, eq_of_readWord h]; rfl⟩
    next =>
    split at h
    next hc =>
      rw [Reading.yield?_widen] at h
      obtain ⟨ps, rfl⟩ := exists_closed_of_skipString h
      exact ⟨.string ps, by rw [hc]; rfl⟩
    next =>
    split at h
    next hc =>
      rw [Reading.yield?_widen] at h
      obtain ⟨n, hn, rfl⟩ := exists_numeral_of_skipNumber true h
      exact ⟨.number n, by rw [hc, Value.text, Numeral.text, hn]; rfl⟩
    next =>
    split at h
    next hc =>
      obtain ⟨n, hn, hs⟩ := exists_numeral_of_skipNumber false h
      exact ⟨.number n, by rw [hs, Value.text, Numeral.text, hn]; rfl⟩
    next => cases h

theorem exists_lead_of_skipKey (h : (skipKey b s).yield? = some ((), r)) :
    ∃ lead : Lead b, s = lead.text ++ r := by
  cases b with
  | list =>
    cases h
    exact ⟨.item, rfl⟩
  | object =>
    rw [skipKey_object, Option.bind_eq_some_iff] at h
    obtain ⟨⟨c, t⟩, hc, h⟩ := h
    obtain ⟨before, rfl⟩ := exists_blanks_of_token? hc
    dsimp only at h
    by_cases hquote : c = '"'
    · rw [if_pos hquote, Option.bind_eq_some_iff] at h
      obtain ⟨⟨_, u⟩, hkey, hcolon⟩ := h
      obtain ⟨key, rfl⟩ := exists_closed_of_skipString hkey
      rw [readColon_yield, Option.bind_eq_some_iff] at hcolon
      obtain ⟨⟨d, u⟩, hd, hcolon⟩ := hcolon
      obtain ⟨after, rfl⟩ := exists_blanks_of_token? hd
      dsimp only at hcolon
      by_cases hmark : d = ':'
      · rw [if_pos hmark] at hcolon
        cases hcolon
        exact ⟨.member before key after, by simp [Lead.text, hquote, hmark]⟩
      · rw [if_neg hmark] at hcolon
        cases hcolon
    · rw [if_neg hquote] at h
      cases h

mutual

/-- What is passed over begins with a value, and what remains of the brackets behind it is passed
over. -/
theorem exists_value_of_skipValue (stack : List Bracket) (s : List Char)
    (h : (skipValue stack s).yield? = some ((), r)) :
    ∃ (w : Blanks) (v : Value) (t : List Char), s = w.text ++ (v.text ++ t) ∧
      (skipRest stack t).yield? = some ((), r) := by
  rw [skipValue_yield, Option.bind_eq_some_iff] at h
  obtain ⟨⟨c, t⟩, hc, h⟩ := h
  have hlt : t.length < s.length := length_lt_of_token? hc
  obtain ⟨w, hs⟩ := exists_blanks_of_token? hc
  dsimp only at h
  by_cases hlist : c = '['
  · rw [if_pos hlist] at h
    obtain ⟨v, u, hv, hrest⟩ := exists_value_of_skipInside .list stack t h
    exact ⟨w, v, u, by rw [hs, hlist, ← hv]; rfl, hrest⟩
  · by_cases hobject : c = '\x7b'
    · rw [if_neg hlist, if_pos hobject] at h
      obtain ⟨v, u, hv, hrest⟩ := exists_value_of_skipInside .object stack t h
      exact ⟨w, v, u, by rw [hs, hobject, ← hv]; rfl, hrest⟩
    · rw [if_neg hlist, if_neg hobject, Option.bind_eq_some_iff] at h
      obtain ⟨⟨_, u⟩, ha, hrest⟩ := h
      obtain ⟨v, hv⟩ := exists_value_of_skipAtom ha
      exact ⟨w, v, u, by rw [hs, hv], hrest⟩
termination_by (s.length, 0)

/-- What is passed over after an opening bracket completes a list or an object. -/
theorem exists_value_of_skipInside (b : Bracket) (stack : List Bracket) (s : List Char)
    (h : (skipInside b stack s).yield? = some ((), r)) :
    ∃ (v : Value) (t : List Char), opener b :: s = v.text ++ t ∧
      (skipRest stack t).yield? = some ((), r) := by
  rw [skipInside_yield, Option.bind_eq_some_iff] at h
  obtain ⟨⟨c, t⟩, hc, h⟩ := h
  dsimp only at h
  by_cases hcloser : c = b.closer
  · obtain ⟨inside, hs⟩ := exists_blanks_of_token? hc
    rw [if_pos hcloser] at h
    exact ⟨.empty b inside, t, by rw [hs, hcloser, Value.text_empty_append], h⟩
  · rw [if_neg hcloser] at h
    obtain ⟨es, u, hs, hrest⟩ := exists_elements_of_skipElement b stack s h
    exact ⟨.filled b es, u, by rw [hs, Value.text_filled_append], hrest⟩
termination_by (s.length, 2)

/-- What is passed over inside of a bracket begins with its elements and its end. -/
theorem exists_elements_of_skipElement (b : Bracket) (stack : List Bracket) (s : List Char)
    (h : (skipElement b stack s).yield? = some ((), r)) :
    ∃ (es : Elements b) (t : List Char), s = es.text ++ b.closer :: t ∧
      (skipRest stack t).yield? = some ((), r) := by
  rw [skipElement_yield, Option.bind_eq_some_iff] at h
  obtain ⟨⟨_, t⟩, hkey, h⟩ := h
  obtain ⟨lead, hlead⟩ := exists_lead_of_skipKey hkey
  have hle : t.length ≤ s.length := by rw [hlead]; simp
  obtain ⟨before, v, u, hv, hrest⟩ := exists_value_of_skipValue (b :: stack) t h
  rw [skipRest_cons, Option.bind_eq_some_iff] at hrest
  obtain ⟨⟨c, u'⟩, hc, hrest⟩ := hrest
  obtain ⟨after, hafter⟩ := exists_blanks_of_token? hc
  dsimp only at hrest
  by_cases hcomma : c = ','
  · rw [if_pos hcomma] at hrest
    have hlt : u'.length < t.length := by rw [hv, hafter]; simp; omega
    obtain ⟨es, t', hes, hrest⟩ := exists_elements_of_skipElement b stack u' hrest
    refine ⟨.more lead before v after es, t', ?_, hrest⟩
    rw [Elements.text_more_append, hlead, hv, hafter, hcomma, hes]
  · by_cases hcloser : c = b.closer
    · rw [if_neg hcomma, if_pos hcloser] at hrest
      refine ⟨.last lead before v after, u', ?_, hrest⟩
      rw [Elements.text_last_append, hlead, hv, hafter, hcloser]
    · rw [if_neg hcomma, if_neg hcloser] at hrest
      cases hrest
termination_by (s.length, 1)
decreasing_by
  · rw [Prod.lex_def]
    omega
  · rw [Prod.lex_def]
    omega

end

end Embedder.Json
