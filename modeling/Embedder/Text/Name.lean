import Embedder.Text.NameTable

/-!
# Names of characters

The names of characters: those of the blocks in the table, those of ideographs, which are made from
their numbers, and those of Korean syllables, which are made from the names of their letters.
-/

namespace Embedder.Text

/-- The ranges of ideographs whose names are made from their numbers. -/
def ideographs : List (Nat × Nat) := [
    (0x3400, 0x4dbf), (0x4e00, 0x9fff), (0x20000, 0x2a6df), (0x2a700, 0x2b738),
    (0x2b740, 0x2b81d), (0x2b820, 0x2cea1), (0x2ceb0, 0x2ebe0), (0x30000, 0x3134a)]

/-- The letters that a Korean syllable can start with. -/
def syllableStarts : List String :=
  "G GG N D DD R M B BB S SS  J JJ C K T P H".splitOn " "

/-- The letters in the middle of a Korean syllable. -/
def syllableMiddles : List String :=
  "A AE YA YAE EO E YEO YE O WA WAE OE YO U WEO WE WI YU EU YI I".splitOn " "

/-- The letters that a Korean syllable can end with. -/
def syllableEnds : List String :=
  " G GG GS N NJ NH D L LG LM LB LS LT LP LH M B BS S SS NG J C K T P H".splitOn " "

/-- The name of a Korean syllable, given its place among them. -/
def syllableName (n : Nat) : String :=
  let ends := syllableEnds.length
  let middles := syllableMiddles.length
  let letter (letters : List String) (i : Nat) : String := letters[i]?.getD ""
  "HANGUL SYLLABLE " ++ letter syllableStarts (n / (middles * ends)) ++
    letter syllableMiddles (n / ends % middles) ++ letter syllableEnds (n % ends)

/-- The name of a character, of those that have a name here. -/
def characterName? (n : Nat) : Option String :=
  if 0xac00 ≤ n ∧ n ≤ 0xd7a3 then some (syllableName (n - 0xac00))
  else if ideographs.any fun r => r.1 ≤ n && n ≤ r.2 then
    some ("CJK UNIFIED IDEOGRAPH-" ++ String.ofList ((Nat.toDigits 16 n).map Char.toUpper))
  else nameBlocks.findSome? (·.name? n)

end Embedder.Text
