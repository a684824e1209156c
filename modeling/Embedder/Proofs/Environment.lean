import Embedder.Config.Environment
import Mathlib.Data.List.DropRight

/-!
# What a configuration takes from the environment

Each variable decides one field. The search paths are the segments of their variable between
separators, without the empty ones (`Environment.segments_eq_splitOn`). A switch is on just where
its variable is text that is one of four words once the blanks at its ends are off and its ASCII
capitals are small (`Environment.flag?_eq_some_true_iff`); whatever else it is, the switch is off.

Read backwards, the variable for the search paths is a listing: the paths one after the other, with
separators between them and as many more as one likes (`Environment.Listing`). By induction on the
listing its segments are the paths again, so the configuration is the one that is built from them
path by path.
-/

namespace Embedder

/-! ## Trimming -/

namespace Text

variable {cs core before after : List Char}

/-- `core` is what is left of a text when the blanks at its two ends are taken away. -/
structure TrimsTo (cs core : List Char) : Prop where
  around : ∃ before after, cs = before ++ core ++ after ∧
    (∀ c ∈ before, isBlank c = true) ∧ ∀ c ∈ after, isBlank c = true
  head : ∀ c ∈ core.head?, isBlank c = false
  last : ∀ c ∈ core.getLast?, isBlank c = false

theorem trimBlank_append_left (hb : ∀ c ∈ before, isBlank c = true) :
    trimBlank (before ++ cs) = trimBlank cs := by
  unfold trimBlank
  rw [List.dropWhile_append_of_pos hb]

theorem trimBlank_append_right (ha : ∀ c ∈ after, isBlank c = true) :
    trimBlank (cs ++ after) = trimBlank cs := by
  have hback : ∀ c ∈ after.reverse, isBlank c = true := fun c hc => ha c (List.mem_reverse.1 hc)
  unfold trimBlank
  rw [List.dropWhile_append]
  split
  next hempty =>
    -- the text is blank throughout, and so is what follows it
    have hnone : cs.dropWhile isBlank = [] := List.isEmpty_iff.1 hempty
    rw [hnone, List.dropWhile_eq_nil_iff.2 ha]
  next => rw [List.reverse_append, List.dropWhile_append_of_pos hback]

theorem head?_trimBlank (cs : List Char) : ∀ c ∈ (trimBlank cs).head?, isBlank c = false := by
  intro c hc
  have hfront : trimBlank cs <+: cs.dropWhile isBlank := List.rdropWhile_prefix isBlank _
  obtain ⟨rest, hrest⟩ := hfront
  have hhead : (cs.dropWhile isBlank).head? = some c := by
    rw [← hrest, List.head?_append, Option.mem_def.1 hc]
    rfl
  have hnot := List.head?_dropWhile_not isBlank cs
  rw [hhead] at hnot
  exact hnot

theorem getLast?_trimBlank (cs : List Char) : ∀ c ∈ (trimBlank cs).getLast?, isBlank c = false := by
  intro c hc
  obtain ⟨hne, rfl⟩ := List.mem_getLast?_eq_getLast hc
  exact eq_false_of_ne_true (List.rdropWhile_last_not isBlank _ hne)

/-- Trimming takes away the blanks at the ends and nothing else. -/
theorem trimBlank_eq_iff : trimBlank cs = core ↔ TrimsTo cs core := by
  constructor
  · rintro rfl
    refine ⟨⟨cs.takeWhile isBlank, (cs.dropWhile isBlank).rtakeWhile isBlank, ?_, ?_, ?_⟩,
      head?_trimBlank cs, getLast?_trimBlank cs⟩
    · have hend : trimBlank cs ++ (cs.dropWhile isBlank).rtakeWhile isBlank =
          cs.dropWhile isBlank := List.rdropWhile_append_rtakeWhile ..
      rw [List.append_assoc, hend, List.takeWhile_append_dropWhile]
    · exact fun c hc => List.mem_takeWhile_imp hc
    · exact fun c hc => List.mem_rtakeWhile_imp hc
  · rintro ⟨⟨before, after, rfl, hb, ha⟩, hhead, hlast⟩
    rw [trimBlank_append_right ha, trimBlank_append_left hb, trimBlank_eq_self hhead hlast]

end Text

namespace Environment

variable {value p : List UInt8} {ps : List (List UInt8)}

/-! ## Switches -/

/-- The ASCII capitals are the capitals that the core library makes small. -/
theorem lowerAscii_eq (c : Char) : lowerAscii c = c.toLower := by
  unfold lowerAscii Char.toLower
  by_cases h : 'A' ≤ c ∧ c ≤ 'Z'
  · have hupper : 'A'.val ≤ c.val ∧ c.val ≤ 'Z'.val := h
    have hle : c.toNat ≤ 90 := hupper.2
    have hvalid : (c.toNat + 32).isValidChar := .inl (by omega)
    have hval : (Char.ofNat (c.toNat + 32)).val = c.val + 32 := by
      apply UInt32.toNat_inj.1
      rw [Char.ofNat, dif_pos hvalid, UInt32.toNat_add]
      show c.toNat + 32 = (c.toNat + 32) % 2 ^ 32
      omega
    rw [if_pos h, dif_pos hupper]
    exact Char.ext hval
  · have hother : ¬('A'.val ≤ c.val ∧ c.val ≤ 'Z'.val) := h
    rw [if_neg h, dif_neg hother]

/-- A variable is set to a text that spells "on". -/
def SwitchedOn (value : Option (List UInt8)) : Prop :=
  ∃ (text : String) (core : List Char), value = some (Utf8.bytes text) ∧
    Text.TrimsTo text.toList core ∧
    String.ofList (core.map Char.toLower) ∈ ["1", "true", "yes", "on"]

theorem flagOfText?_eq_some_true_iff (s : String) : flagOfText? s = some true ↔
    String.ofList ((Text.trimBlank s.toList).map Char.toLower) ∈ ["1", "true", "yes", "on"] := by
  unfold flagOfText?
  rw [funext lowerAscii_eq]
  dsimp only
  split
  next h => exact iff_of_true rfl h
  next h =>
    refine iff_of_false ?_ h
    split <;> simp

theorem flag?_eq_some_true_iff (value : Option (List UInt8)) :
    flag? value = some true ↔ SwitchedOn value := by
  constructor
  · intro hflag
    obtain ⟨bytes, rfl, hbytes⟩ := Option.bind_eq_some_iff.1 hflag
    obtain ⟨text, htext, hword⟩ := Option.bind_eq_some_iff.1 hbytes
    exact ⟨text, _, by rw [Utf8.bytes_of_text? htext], Text.trimBlank_eq_iff.1 rfl,
      (flagOfText?_eq_some_true_iff text).1 hword⟩
  · rintro ⟨text, core, rfl, hcore, hword⟩
    rw [← Text.trimBlank_eq_iff.2 hcore] at hword
    show (Utf8.text? (Utf8.bytes text)).bind flagOfText? = some true
    rw [Utf8.text?_bytes, Option.bind_some]
    exact (flagOfText?_eq_some_true_iff text).2 hword

/-- A switch that is not on is off. -/
theorem flag?_getD_iff (value : Option (List UInt8)) :
    (flag? value).getD false = true ↔ SwitchedOn value := by
  rw [← flag?_eq_some_true_iff]
  cases flag? value with
  | none => simp
  | some b => simp

/-! ## Segments -/

theorem segments_eq_splitOn (value : List UInt8) : segments value = value.splitOn separator := by
  induction value with
  | nil => rfl
  | cons b bs ih =>
    rw [List.splitOn_cons_eq_if_modifyHead, ← ih, segments]
    by_cases hb : b = separator
    · rw [if_pos hb, if_pos (beq_iff_eq.2 hb)]
    · rw [if_neg hb, if_neg (mt beq_iff_eq.1 hb)]
      cases hs : segments bs with
      | nil =>
        rw [ih] at hs
        exact absurd hs (List.splitOn_ne_nil _ _)
      | cons s ss => rfl

theorem segments_separator (value : List UInt8) :
    segments (separator :: value) = [] :: segments value := if_pos rfl

theorem segments_of_notMem (hp : separator ∉ p) : segments p = [p] := by
  rw [segments_eq_splitOn, List.splitOn_eq_singleton hp]

theorem segments_append (hp : separator ∉ p) (value : List UInt8) :
    segments (p ++ separator :: value) = p :: segments value := by
  have hother : ∀ b ∈ p, (b == separator) = false := by
    intro b hb
    rw [beq_eq_false_iff_ne]
    rintro rfl
    exact hp hb
  rw [segments_eq_splitOn, segments_eq_splitOn, List.splitOn_eq_splitOnP]
  exact List.splitOnP_append_cons_of_forall_mem hother separator (beq_self_eq_true _) value

/-- A string can be a path in a variable. -/
def Listable (p : List UInt8) : Prop := p ≠ [] ∧ separator ∉ p

instance (p : List UInt8) : Decidable (Listable p) :=
  inferInstanceAs (Decidable (p ≠ [] ∧ separator ∉ p))

/-- The string holds the paths in their order, with a separator after each but the last, and any
number of further separators before, between and behind them. -/
inductive Listing : List (List UInt8) → List UInt8 → Prop where
  | empty : Listing [] []
  | separator {ps : List (List UInt8)} {value : List UInt8} (rest : Listing ps value) :
      Listing ps (Environment.separator :: value)
  | last (p : List UInt8) : Listing [p] p
  | path (p : List UInt8) {ps : List (List UInt8)} {value : List UInt8} (rest : Listing ps value) :
      Listing (p :: ps) (p ++ Environment.separator :: value)

/-- Joined paths are listed. -/
theorem Listing.intercalate (ps : List (List UInt8)) :
    Listing ps ([Environment.separator].intercalate ps) := by
  induction ps with
  | nil => exact .empty
  | cons p ps ih =>
    cases ps with
    | nil =>
      rw [List.intercalate_singleton]
      exact .last p
    | cons q qs =>
      rw [List.intercalate_cons_cons, List.append_assoc, List.singleton_append]
      exact .path p ih

theorem paths_separator (value : List UInt8) : paths (separator :: value) = paths value := by
  unfold paths
  rw [segments_separator]
  rfl

theorem paths_of_listable (hp : Listable p) : paths p = [⟨p⟩] := by
  obtain ⟨hne, hp⟩ := hp
  unfold paths
  rw [segments_of_notMem hp, List.filter_cons_of_pos (by simp [hne])]
  rfl

theorem paths_append (hp : Listable p) (value : List UInt8) :
    paths (p ++ separator :: value) = ⟨p⟩ :: paths value := by
  obtain ⟨hne, hp⟩ := hp
  unfold paths
  rw [segments_append hp, List.filter_cons_of_pos (by simp [hne]), List.map_cons]

/-- By induction on the listing: its paths are read, and nothing of the separators is left. -/
theorem Listing.paths_eq (hl : Listing ps value) (hps : ∀ p ∈ ps, Listable p) :
    paths value = ps.map SearchPath.mk := by
  induction hl with
  | empty => rfl
  | separator _ ih => rw [paths_separator, ih hps]
  | last p => exact paths_of_listable (hps p List.mem_cons_self)
  | path p _ ih =>
    rw [paths_append (hps p List.mem_cons_self), List.map_cons,
      ih fun q hq => hps q (List.mem_cons_of_mem p hq)]

/-! ## The configuration -/

/-- What a configuration has from each of the variables. -/
structure Decides (e : Environment) (c : Config) : Prop where
  /-- The segments that are not empty, in their order and as they are. A variable that is not set
  has none. -/
  searchPaths : c.searchPaths.map SearchPath.bytes =
    ((e.searchPath.getD []).splitOn separator).filter (· ≠ [])
  printTracebacks : c.printTracebacks = true ↔ SwitchedOn e.printTracebacks
  allowRestart : c.allowRestart = true ↔ SwitchedOn e.allowRestart
  installSignalHandlers : c.installSignalHandlers = Config.default.installSignalHandlers
  globalLibrary : c.globalLibrary = Config.default.globalLibrary

theorem paths_bytes (value : List UInt8) :
    (paths value).map SearchPath.bytes = (value.splitOn separator).filter (· ≠ []) := by
  unfold paths
  rw [List.map_map, segments_eq_splitOn]
  have hbytes : SearchPath.bytes ∘ SearchPath.mk = id := rfl
  rw [hbytes, List.map_id]
  congr 1
  funext s
  cases s <;> rfl

theorem decides_ofEnvironment (e : Environment) : e.Decides (Config.ofEnvironment e) where
  searchPaths := by
    cases hv : e.searchPath with
    | none =>
      show ((e.searchPath.map paths).getD []).map SearchPath.bytes = _
      rw [hv]
      rfl
    | some value =>
      show ((e.searchPath.map paths).getD []).map SearchPath.bytes = _
      rw [hv]
      exact paths_bytes value
  printTracebacks := flag?_getD_iff e.printTracebacks
  allowRestart := flag?_getD_iff e.allowRestart
  installSignalHandlers := rfl
  globalLibrary := rfl

end Environment

namespace Config

open Environment

theorem foldl_withSearchPath (ps : List SearchPath) (c : Config) :
    ps.foldl withSearchPath c = { c with searchPaths := c.searchPaths ++ ps } := by
  induction ps generalizing c with
  | nil => rw [List.foldl_nil, List.append_nil]
  | cons p ps ih =>
    rw [List.foldl_cons, ih]
    simp [withSearchPath]

/-- The paths of a listing are those that the configuration is built from. -/
theorem ofEnvironment_listing {e : Environment} {ps : List (List UInt8)} {value : List UInt8}
    (hps : ∀ p ∈ ps, Listable p) (hl : Listing ps value) (hv : e.searchPath = some value)
    (hprint : ¬SwitchedOn e.printTracebacks) (hrestart : ¬SwitchedOn e.allowRestart) :
    ofEnvironment e = (ps.map SearchPath.mk).foldl withSearchPath default := by
  have hoff : ∀ {v : Option (List UInt8)}, ¬SwitchedOn v → (flag? v).getD false = false :=
    fun h => eq_false_of_ne_true (mt (flag?_getD_iff _).1 h)
  rw [foldl_withSearchPath, ofEnvironment, hv, hoff hprint, hoff hrestart, Option.map_some,
    Option.getD_some, hl.paths_eq hps]
  rfl

/-- **Configuration from the environment.** The search paths are the segments of their variable that
are not empty. Each of the two switches is on if and only if its own variable spells "on", and the
other fields are the defaults; a field is the same in every environment that agrees in its variable.
Paths that are joined by separators, or listed with any further separators, are read as the
configuration that is built from them one after the other, where no switch is on. -/
theorem environment_laws (e : Environment) :
    e.Decides (ofEnvironment e) ∧
    (∀ e' : Environment,
      (e'.searchPath = e.searchPath →
        (ofEnvironment e').searchPaths = (ofEnvironment e).searchPaths) ∧
      (e'.printTracebacks = e.printTracebacks →
        (ofEnvironment e').printTracebacks = (ofEnvironment e).printTracebacks) ∧
      (e'.allowRestart = e.allowRestart →
        (ofEnvironment e').allowRestart = (ofEnvironment e).allowRestart)) ∧
    ∀ ps : List (List UInt8), (∀ p ∈ ps, Listable p) →
      ¬SwitchedOn e.printTracebacks → ¬SwitchedOn e.allowRestart →
      ofEnvironment { e with searchPath := some ([separator].intercalate ps) } =
        (ps.map SearchPath.mk).foldl withSearchPath default ∧
      ∀ value, Listing ps value → ofEnvironment { e with searchPath := some value } =
        (ps.map SearchPath.mk).foldl withSearchPath default := by
  refine ⟨decides_ofEnvironment e, fun e' => ⟨fun h => ?_, fun h => ?_, fun h => ?_⟩,
    fun ps hps hprint hrestart => ?_⟩
  · rw [ofEnvironment, ofEnvironment, h]
  · rw [ofEnvironment, ofEnvironment, h]
  · rw [ofEnvironment, ofEnvironment, h]
  · have hlisted : ∀ value, Listing ps value → ofEnvironment { e with searchPath := some value } =
        (ps.map SearchPath.mk).foldl withSearchPath default :=
      fun value hl => ofEnvironment_listing hps hl rfl hprint hrestart
    exact ⟨hlisted _ (.intercalate ps), hlisted⟩

/-- Of the paths `/a`, one that is no text, and `/a` again, none is lost among stray separators. One
switch is spelled with blanks around it and the other one not at all. -/
theorem stray_separators :
    let ps : List (List UInt8) := [[0x2f, 0x61], [0xff], [0x2f, 0x61]]
    let value : List UInt8 :=
      [0x3a, 0x3a, 0x2f, 0x61, 0x3a, 0xff, 0x3a, 0x3a, 0x2f, 0x61, 0x3a, 0x3a]
    let off : Environment := ⟨none, some (Utf8.bytes " of f"), none⟩
    (∀ p ∈ ps, Listable p) ∧ Listing ps value ∧
    ¬SwitchedOn off.printTracebacks ∧ ¬SwitchedOn off.allowRestart ∧
    ofEnvironment { off with searchPath := some value } =
      (ps.map SearchPath.mk).foldl withSearchPath default ∧
    (ofEnvironment ⟨none, some (Utf8.bytes "\u2003yEs\n"), none⟩).printTracebacks = true := by
  intro ps value off
  have hps : ∀ p ∈ ps, Listable p := by decide +kernel
  have hl : Listing ps value :=
    .separator (.separator (.path [0x2f, 0x61] (.path [0xff] (.separator
      (.path [0x2f, 0x61] (.separator .empty))))))
  have hprint : ¬SwitchedOn off.printTracebacks := by
    rw [← flag?_eq_some_true_iff]
    decide +kernel
  have hrestart : ¬SwitchedOn off.allowRestart := by
    rw [← flag?_eq_some_true_iff]
    decide +kernel
  refine ⟨hps, hl, hprint, hrestart, ?_, ?_⟩
  · exact ((environment_laws off).2.2 ps hps hprint hrestart).2 value hl
  · rw [(environment_laws _).1.printTracebacks, ← flag?_eq_some_true_iff]
    decide +kernel

end Config

end Embedder
