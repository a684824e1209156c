/-!
# Blank characters

The white space of the Unicode character database, and cutting it off both ends of a text.
-/

namespace Embedder.Text

/-- Whether a character has the Unicode property `White_Space`. -/
def isBlank (c : Char) : Bool :=
  let n := c.toNat
  (9 ≤ n && n ≤ 13) || n == 0x20 || n == 0x85 || n == 0xa0 || n == 0x1680
    || (0x2000 ≤ n && n ≤ 0x200a) || n == 0x2028 || n == 0x2029 || n == 0x202f || n == 0x205f
    || n == 0x3000

/-- The text without the blanks at its two ends. -/
def trimBlank (cs : List Char) : List Char :=
  ((cs.dropWhile isBlank).reverse.dropWhile isBlank).reverse

/-- Every white space character of the core library is blank. -/
theorem isBlank_of_isWhitespace {c : Char} (h : c.isWhitespace = true) : isBlank c = true := by
  simp only [Char.isWhitespace, Bool.or_eq_true, decide_eq_true_eq] at h
  rcases h with ((rfl | rfl) | rfl) | rfl <;> rfl

/-- Trimming leaves a text alone that neither starts nor ends with a blank. -/
theorem trimBlank_eq_self {cs : List Char} (hhead : ∀ c ∈ cs.head?, isBlank c = false)
    (hlast : ∀ c ∈ cs.getLast?, isBlank c = false) : trimBlank cs = cs := by
  cases cs with
  | nil => rfl
  | cons c cs =>
    have h : (c :: cs).dropWhile isBlank = c :: cs := by
      rw [List.dropWhile_cons, if_neg (by simp [hhead c (by simp)])]
    rw [trimBlank, h]
    have h' : (c :: cs).reverse.dropWhile isBlank = (c :: cs).reverse := by
      cases hr : (c :: cs).reverse with
      | nil => rfl
      | cons d ds =>
        have hd : d ∈ (c :: cs).getLast? := by
          rw [List.getLast?_eq_head?_reverse, hr]; rfl
        rw [List.dropWhile_cons, if_neg (by simp [hlast d hd])]
    rw [h', List.reverse_reverse]

end Embedder.Text
