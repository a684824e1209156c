import Embedder.Json.Printer
import Embedder.Json.Reader

/-!
# Tokens are read as they were written

A reader `Gives` a value and leaves a rest. Readers are put together from readers, and so is what
they give: there is one rule for each way of putting them together. A string that was written is
read again (`readString_written`): each character was written so that reading it gives that
character and goes on behind it (`readString_writtenChar`), whether it stands for itself, has an
escape of one letter or one of four digits.
-/

namespace Embedder.Json

variable {α β : Type} {s t : List Char} {a : α} {b : β} {r r' : List Char}

/-! ## What readers give -/

/-- The reading succeeds with a value and a rest. -/
def Reading.Gives (x : Reading α s) (a : α) (r : List Char) : Prop :=
  ∃ h : r.length ≤ s.length, x = .ok ⟨a, r, h⟩

namespace Reading.Gives

theorem intro (h : r.length ≤ s.length) : Gives (s := s) (.ok ⟨a, r, h⟩) a r := ⟨h, rfl⟩

theorem widen {x : Reading α s} {h : s.length ≤ t.length} (hx : x.Gives a r) :
    (Reading.widen h x).Gives a r := by
  obtain ⟨hr, rfl⟩ := hx
  exact ⟨Nat.le_trans hr h, rfl⟩

theorem map {x : Reading α s} {f : α → β} (hx : x.Gives a r) : (x.map f).Gives (f a) r := by
  obtain ⟨hr, rfl⟩ := hx
  exact ⟨hr, rfl⟩

theorem andThen {x : Reading α s} {f : (y : Read α s) → Reading β y.rest} (hx : x.Gives a r)
    (hf : ∀ h : r.length ≤ s.length, (f ⟨a, r, h⟩).Gives b r') : (x.andThen f).Gives b r' := by
  obtain ⟨hr, rfl⟩ := hx
  exact (hf hr).widen

end Reading.Gives

/-- Where a token begins there is no space to skip. -/
theorem skipSpace_cons {c : Char} (hc : isSpace c = false) : skipSpace (c :: s) = c :: s := by
  simp [skipSpace, hc]

theorem readWord_written (w r : List Char) : (readWord w (w ++ r)).Gives () r := by
  induction w with
  | nil => exact .intro _
  | cons c w ih =>
    rw [List.cons_append, readWord, if_pos rfl]
    exact ih.widen

/-! ## Strings -/

theorem hexValue?_digitChar : ∀ n < 16, hexValue? (Nat.digitChar n) = some n := by decide

/-- The four digits of a control character are its number. -/
theorem readHex_written {n : Nat} (hn : n < 256) :
    (readHex ('0' :: '0' :: Nat.digitChar (n / 16) :: Nat.digitChar (n % 16) :: r)).Gives n r := by
  have hzero : hexValue? '0' = some 0 := by decide
  have hhigh : hexValue? (Nat.digitChar (n / 16)) = some (n / 16) :=
    hexValue?_digitChar _ (by omega)
  have hlow : hexValue? (Nat.digitChar (n % 16)) = some (n % 16) :=
    hexValue?_digitChar _ (by omega)
  have hvalue : ((0 * 16 + 0) * 16 + n / 16) * 16 + n % 16 = n := by omega
  simp only [readHex, hzero, hhigh, hlow, hvalue]
  exact .intro _

/-- A character that stands for itself is read. -/
theorem readString_plain {c : Char} {cs : List Char} (hquote : c ≠ '"') (hslash : c ≠ '\\')
    (hspace : ¬c < ' ') (hs : (readString s).Gives cs r) :
    (readString (c :: s)).Gives (c :: cs) r := by
  rw [readString, if_neg hquote, if_neg hslash, if_neg hspace]
  exact hs.map.widen

/-- An escape is read. -/
theorem readString_escape {c : Char} {cs e : List Char}
    (he : (readEscape (e ++ s)).Gives c s) (hs : (readString s).Gives cs r) :
    (readString ('\\' :: (e ++ s))).Gives (c :: cs) r := by
  rw [readString, if_neg (by decide), if_pos rfl]
  exact (he.andThen fun _ => hs.map).widen

theorem readEscape_short {c e : Char} (hu : e ≠ 'u') (he : shortEscape? e = some c) :
    (readEscape ([e] ++ s)).Gives c s := by
  rw [List.singleton_append, readEscape, if_neg hu, he]
  exact .intro _

/-- A control character has no half of a larger character for its number. -/
theorem readEscape_control {c : Char} (hc : c < ' ') :
    (readEscape (['u', '0', '0', Nat.digitChar (c.toNat / 16), Nat.digitChar (c.toNat % 16)] ++ s)).Gives
      c s := by
  have hlt : c.toNat < 32 := hc
  rw [List.cons_append, readEscape, if_pos rfl]
  refine ((readHex_written (r := s) (show c.toNat < 256 by omega)).andThen fun _ => ?_).widen
  have hlow : isLowHalf c.toNat = false := by
    simp [isLowHalf]
    omega
  have hhigh : isHighHalf c.toNat = false := by
    simp [isHighHalf]
    omega
  simp only [hlow, hhigh, Bool.false_eq_true, if_false, Char.ofNat_toNat]
  exact .intro _

/-- A character is read as it was written, and then what follows it. -/
theorem readString_writtenChar (c : Char) {cs : List Char} (hs : (readString s).Gives cs r) :
    (readString (writtenChar c ++ s)).Gives (c :: cs) r := by
  fun_cases writtenChar c
  case case8 hquote hslash _ _ _ _ _ hc => exact readString_escape (readEscape_control hc) hs
  case case9 hquote hslash _ _ _ _ _ hc => exact readString_plain hquote hslash hc hs
  all_goals exact readString_escape (readEscape_short (by decide) rfl) hs

/-- By induction on the characters of the string. -/
theorem readString_written (cs r : List Char) :
    (readString (cs.flatMap writtenChar ++ '"' :: r)).Gives cs r := by
  induction cs with
  | nil =>
    rw [List.flatMap_nil, List.nil_append, readString, if_pos rfl]
    exact .intro _
  | cons c cs ih =>
    rw [List.flatMap_cons, List.append_assoc]
    exact readString_writtenChar c ih

end Embedder.Json
