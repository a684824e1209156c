import Embedder.Proofs.Json.ConfigText
import Embedder.Proofs.Json.Members
import Embedder.Proofs.Json.Passing

/-!
# Values of fields are read however they are laid out

A reader of a field looks at the first token of what stands there. If that can begin a value of the
field's kind then it is one, or no other value stands there, so one equation says what is read of
any value (`readField_text`): what the value says of the field, and nothing if it is of another kind.
What is read is always a value (`exists_value_of_readField`).
-/

namespace Embedder.Config

open Json Json.Layout

variable {s r : List Char} {f : Field} {fs fs' : Fields}

/-! ## What values begin with -/

theorem flag_of_begins {c : Char} {v : Value} (hv : Begins c v) (hc : c = 't' ∨ c = 'f') :
    ∃ b, v = .flag b := by
  cases v with
  | flag b => exact ⟨b, rfl⟩
  | null | string => rcases hc with rfl | rfl <;> exact absurd hv (by simp [Begins])
  | number n => rcases hc with rfl | rfl <;> exact absurd hv (by simp [Begins, isDigit])
  | empty b | filled b =>
    rcases hc with rfl | rfl <;> cases b <;> exact absurd hv (by simp [Begins, opener])

theorem string_of_begins {v : Value} (hv : Begins '"' v) : ∃ ps, v = .string ps := by
  cases v with
  | string ps => exact ⟨ps, rfl⟩
  | null => exact absurd hv (by simp [Begins])
  | flag b => cases b <;> exact absurd hv (by simp [Begins])
  | number n => exact absurd hv (by simp [Begins, isDigit])
  | empty b | filled b => cases b <;> exact absurd hv (by simp [Begins, opener])

theorem list_of_begins {v : Value} (hv : Begins '[' v) :
    (∃ inside, v = .empty .list inside) ∨ ∃ es, v = .filled .list es := by
  cases v with
  | null | string => exact absurd hv (by simp [Begins])
  | flag b => cases b <;> exact absurd hv (by simp [Begins])
  | number n => exact absurd hv (by simp [Begins, isDigit])
  | empty b inside => cases b with
    | list => exact .inl ⟨inside, rfl⟩
    | object => exact absurd hv (by simp [Begins, opener])
  | filled b es => cases b with
    | list => exact .inr ⟨es, rfl⟩
    | object => exact absurd hv (by simp [Begins, opener])

/-! ## Switches -/

theorem readBool_yield (s : List Char) :
    (readBool s).yield? = (token? s).bind fun x =>
      if x.1 = 't' then (readWord ['r', 'u', 'e'] x.2).yield?.map fun y => (true, y.2)
      else if x.1 = 'f' then (readWord ['a', 'l', 's', 'e'] x.2).yield?.map fun y => (false, y.2)
      else none := by
  unfold readBool
  split
  next h =>
    rw [token?_of_nil h]
    rfl
  next c r h =>
    rw [token?_of_cons h, Option.bind_some]
    dsimp only
    by_cases ht : c = 't'
    · rw [if_pos ht, if_pos ht, Reading.yield?_widen, Reading.yield?_map]
    · by_cases hf : c = 'f'
      · rw [if_neg ht, if_neg ht, if_pos hf, if_pos hf, Reading.yield?_widen, Reading.yield?_map]
      · rw [if_neg ht, if_neg ht, if_neg hf, if_neg hf]
        rfl

theorem readBool_text (w : Blanks) (v : Value) (r : List Char) :
    (readBool (w.text ++ (v.text ++ r))).yield? = v.flag?.map (·, r) := by
  obtain ⟨c, t, htext, htoken, hc⟩ := token?_value w v r
  by_cases hletter : c = 't' ∨ c = 'f'
  · obtain ⟨b, rfl⟩ := flag_of_begins hc hletter
    refine Reading.gives_iff.1 (readBool_gives ?_)
    rw [skipSpace_blanks]
    exact skipSpace_writtenBool b r
  · have hflag : v.flag? = none := by
      cases v with
      | flag b => cases b <;> cases hc <;> exact absurd (by decide) hletter
      | null | number | string | empty | filled => rfl
    rw [not_or] at hletter
    rw [readBool_yield, htoken, Option.bind_some, if_neg hletter.1, if_neg hletter.2, hflag]
    rfl

theorem exists_value_of_readBool {b : Bool} (h : (readBool s).yield? = some (b, r)) :
    ∃ (w : Blanks) (v : Value), s = w.text ++ (v.text ++ r) := by
  rw [readBool_yield, Option.bind_eq_some_iff] at h
  obtain ⟨⟨c, t⟩, hc, h⟩ := h
  obtain ⟨w, rfl⟩ := exists_blanks_of_token? hc
  dsimp only at h
  split at h
  next ht =>
    obtain ⟨⟨_, u⟩, hword, hu⟩ := Option.map_eq_some_iff.1 h
    cases hu
    exact ⟨w, .flag true, by rw [eq_of_readWord hword, ht]; rfl⟩
  next =>
  split at h
  next hf =>
    obtain ⟨⟨_, u⟩, hword, hu⟩ := Option.map_eq_some_iff.1 h
    cases hu
    exact ⟨w, .flag false, by rw [eq_of_readWord hword, hf]; rfl⟩
  next => cases h

/-! ## Paths -/

theorem readPath_yield (s : List Char) :
    (readPath s).yield? = (token? s).bind fun x =>
      if x.1 = '"' then (readString x.2).yield?.map fun y => (pathOf y.1, y.2) else none := by
  unfold readPath
  split
  next h =>
    rw [token?_of_nil h]
    rfl
  next c r h =>
    rw [token?_of_cons h, Option.bind_some]
    dsimp only
    by_cases hc : c = '"'
    · rw [if_pos hc, if_pos hc, Reading.yield?_widen, Reading.yield?_map]
      rfl
    · rw [if_neg hc, if_neg hc]
      rfl

theorem readPath_text (w : Blanks) (v : Value) (r : List Char) :
    (readPath (w.text ++ (v.text ++ r))).yield? = v.string?.map fun cs => (pathOf cs, r) := by
  obtain ⟨c, t, htext, htoken, hc⟩ := token?_value w v r
  rw [readPath_yield, htoken, Option.bind_some]
  dsimp only
  by_cases hquote : c = '"'
  · subst hquote
    obtain ⟨ps, rfl⟩ := string_of_begins hc
    cases htext
    rw [if_pos rfl]
    change (readString (closed ps ++ r)).yield?.map _ = _
    rw [readString_closed, Option.map_map]
    rfl
  · have hstring : v.string? = none := by
      cases v with
      | string ps => exact absurd hc hquote
      | null | flag | number | empty | filled => rfl
    rw [if_neg hquote, hstring]
    rfl

theorem exists_string_of_readPath {p : SearchPath} (h : (readPath s).yield? = some (p, r)) :
    ∃ (w : Blanks) (v : Value), s = w.text ++ (v.text ++ r) := by
  rw [readPath_yield, Option.bind_eq_some_iff] at h
  obtain ⟨⟨c, t⟩, hc, h⟩ := h
  obtain ⟨w, rfl⟩ := exists_blanks_of_token? hc
  dsimp only at h
  split at h
  next hquote =>
    obtain ⟨⟨cs, u⟩, hstring, hu⟩ := Option.map_eq_some_iff.1 h
    cases hu
    obtain ⟨ps, rfl, -⟩ := exists_closed_of_readString hstring
    exact ⟨w, .string ps, by rw [hquote]; rfl⟩
  next => cases h

theorem readPathsFrom_yield (s : List Char) :
    (readPathsFrom s).yield? = (readPath s).yield?.bind fun p => (token? p.2).bind fun x =>
      if x.1 = ']' then some ([p.1], x.2)
      else if x.1 = ',' then (token? x.2).bind fun y =>
        if y.1 = ']' then none else (readPathsFrom x.2).yield?.map fun ps => (p.1 :: ps.1, ps.2)
      else none := by
  rw [readPathsFrom]
  refine Reading.yield?_andThen _ fun p => ?_
  split
  next h =>
    rw [token?_of_nil h]
    rfl
  next c r h =>
    rw [token?_of_cons h, Option.bind_some]
    dsimp only
    by_cases hcloser : c = ']'
    · rw [if_pos hcloser, if_pos hcloser]
      rfl
    · by_cases hcomma : c = ','
      · rw [if_neg hcloser, if_neg hcloser, if_pos hcomma, if_pos hcomma]
        split
        next h' =>
          rw [token?_of_nil h']
          rfl
        next d r' h' =>
          rw [token?_of_cons h', Option.bind_some]
          dsimp only
          by_cases hd : d = ']'
          · rw [if_pos hd, if_pos hd]
            rfl
          · rw [if_neg hd, if_neg hd, Reading.yield?_widen, Reading.yield?_map]
      · rw [if_neg hcloser, if_neg hcloser, if_neg hcomma, if_neg hcomma]
        rfl

/-- Elements of a list are read as paths if all of them are strings that say something. -/
theorem readPathsFrom_text : (es : Elements .list) → (r : List Char) →
    (readPathsFrom (es.text ++ ']' :: r)).yield? =
      (es.values.mapM Value.string?).map fun css => (css.map pathOf, r)
  | .last .item before v after, r => by
    rw [Elements.text_last_append, Lead.text, List.nil_append, readPathsFrom_yield, readPath_text,
      Elements.values, List.mapM_cons, List.mapM_nil]
    cases v.string? with
    | none => rfl
    | some cs =>
      rw [Option.map_some, Option.bind_some, token?_blanks_cons after (by decide)]
      rfl
  | .more .item before v after rest, r => by
    obtain ⟨x, hx, hcloser⟩ := token?_elements rest (']' :: r)
    have hcloser : x.1 ≠ ']' := hcloser
    rw [Elements.text_more_append, Lead.text, List.nil_append, readPathsFrom_yield, readPath_text,
      Elements.values, List.mapM_cons]
    cases v.string? with
    | none => rfl
    | some cs =>
      rw [Option.map_some, Option.bind_some, token?_blanks_cons after (by decide), Option.bind_some]
      dsimp only
      rw [if_neg (by decide), if_pos rfl, hx, Option.bind_some, if_neg hcloser,
        readPathsFrom_text rest r]
      cases rest.values.mapM Value.string? <;> rfl

theorem exists_elements_of_readPathsFrom {ps : List SearchPath}
    (h : (readPathsFrom s).yield? = some (ps, r)) :
    ∃ es : Elements .list, s = es.text ++ ']' :: r := by
  induction hn : s.length using Nat.strongRecOn generalizing s ps with
  | ind n ih =>
    subst hn
    rw [readPathsFrom_yield, Option.bind_eq_some_iff] at h
    obtain ⟨⟨p, t⟩, hp, h⟩ := h
    obtain ⟨before, v, hs⟩ := exists_string_of_readPath hp
    obtain ⟨⟨c, u⟩, hc, h⟩ := Option.bind_eq_some_iff.1 h
    obtain ⟨after, ht⟩ := exists_blanks_of_token? hc
    dsimp only at ht h
    split at h
    next hcloser =>
      cases h
      refine ⟨.last .item before v after, ?_⟩
      rw [Elements.text_last_append, hs, ht, hcloser]
      rfl
    next =>
    split at h
    next hcomma =>
      obtain ⟨⟨d, u'⟩, -, h⟩ := Option.bind_eq_some_iff.1 h
      dsimp only at h
      split at h
      next => cases h
      next =>
        obtain ⟨⟨ps', r'⟩, hmore, hr⟩ := Option.map_eq_some_iff.1 h
        cases hr
        have hlt : u.length < s.length := by
          rw [hs, ht]
          simp
          omega
        obtain ⟨es, hes⟩ := ih u.length hlt hmore rfl
        refine ⟨.more .item before v after es, ?_⟩
        rw [Elements.text_more_append, hs, ht, hcomma, hes]
        rfl
    next => cases h

theorem readPaths_yield (s : List Char) :
    (readPaths s).yield? = (token? s).bind fun x =>
      if x.1 = '[' then (token? x.2).bind fun y =>
        if y.1 = ']' then some ([], y.2) else (readPathsFrom x.2).yield?
      else none := by
  unfold readPaths
  split
  next h =>
    rw [token?_of_nil h]
    rfl
  next c r h =>
    rw [token?_of_cons h, Option.bind_some]
    dsimp only
    by_cases hc : c = '['
    · rw [if_pos hc, if_pos hc]
      split
      next h' =>
        rw [token?_of_nil h']
        rfl
      next d r' h' =>
        rw [token?_of_cons h', Option.bind_some]
        dsimp only
        by_cases hd : d = ']'
        · rw [if_pos hd, if_pos hd]
          rfl
        · rw [if_neg hd, if_neg hd, Reading.yield?_widen]
    · rw [if_neg hc, if_neg hc]
      rfl

theorem readPaths_text (w : Blanks) (v : Value) (r : List Char) :
    (readPaths (w.text ++ (v.text ++ r))).yield? =
      v.strings?.map fun css => (css.map pathOf, r) := by
  obtain ⟨c, t, htext, htoken, hc⟩ := token?_value w v r
  rw [readPaths_yield, htoken, Option.bind_some]
  dsimp only
  by_cases hbracket : c = '['
  · subst hbracket
    rw [if_pos rfl]
    obtain ⟨inside, rfl⟩ | ⟨es, rfl⟩ := list_of_begins hc
    · rw [Value.text_empty_append] at htext
      cases htext
      rw [token?_blanks_cons inside (isSpace_closer .list)]
      rfl
    · rw [Value.text_filled_append] at htext
      cases htext
      obtain ⟨x, hx, hcloser⟩ := token?_elements es (Bracket.list.closer :: r)
      have hcloser : x.1 ≠ ']' := hcloser
      rw [hx, Option.bind_some, if_neg hcloser]
      exact readPathsFrom_text es r
  · have hstrings : v.strings? = none := by
      cases v with
      | null | flag | number | string => rfl
      | empty b inside => cases b with
        | list => exact absurd hc hbracket
        | object => rfl
      | filled b es => cases b with
        | list => exact absurd hc hbracket
        | object => rfl
    rw [if_neg hbracket, hstrings]
    rfl

theorem exists_value_of_readPaths {ps : List SearchPath} (h : (readPaths s).yield? = some (ps, r)) :
    ∃ (w : Blanks) (v : Value), s = w.text ++ (v.text ++ r) := by
  rw [readPaths_yield, Option.bind_eq_some_iff] at h
  obtain ⟨⟨c, t⟩, hc, h⟩ := h
  obtain ⟨w, rfl⟩ := exists_blanks_of_token? hc
  dsimp only at h
  split at h
  next hbracket =>
    obtain ⟨⟨d, t'⟩, hd, h⟩ := Option.bind_eq_some_iff.1 h
    dsimp only at h
    split at h
    next hcloser =>
      obtain ⟨inside, hinside⟩ := exists_blanks_of_token? hd
      cases h
      refine ⟨w, .empty .list inside, ?_⟩
      rw [Value.text_empty_append, hbracket, hinside, hcloser]
      rfl
    next =>
      obtain ⟨es, rfl⟩ := exists_elements_of_readPathsFrom h
      exact ⟨w, .filled .list es, by rw [Value.text_filled_append, hbracket]; rfl⟩
  next => cases h

/-! ## Fields -/

/-- The value of a field is read into it if it is of its kind. -/
theorem readField_text (f : Field) (fs : Fields) (w : Blanks) (v : Value) (r : List Char) :
    (readField f fs (w.text ++ (v.text ++ r))).yield? =
      (f.content? v).map fun x => (fs.put f x, r) := by
  cases f with
  | searchPaths =>
    rw [readField, Reading.yield?_map, readPaths_text, Field.content?, Option.map_map,
      Option.map_map]
    rfl
  | printTracebacks | installSignalHandlers | allowRestart | globalLibrary =>
    rw [readField, Reading.yield?_map, readBool_text, Field.content?, Option.map_map]
    rfl

theorem exists_value_of_readField (h : (readField f fs s).yield? = some (fs', r)) :
    ∃ (w : Blanks) (v : Value), s = w.text ++ (v.text ++ r) := by
  cases f with
  | searchPaths =>
    rw [readField, Reading.yield?_map] at h
    obtain ⟨⟨ps, r'⟩, hps, hr⟩ := Option.map_eq_some_iff.1 h
    cases hr
    exact exists_value_of_readPaths hps
  | printTracebacks | installSignalHandlers | allowRestart | globalLibrary =>
    rw [readField, Reading.yield?_map] at h
    obtain ⟨⟨b, r'⟩, hb, hr⟩ := Option.map_eq_some_iff.1 h
    cases hr
    exact exists_value_of_readBool hb

end Embedder.Config
