import Embedder.Config.Json
import Embedder.Proofs.Json.Tokens

/-!
# A configuration survives its own text

Whatever a configuration is written as is read as that configuration
(`Config.json_round_trip`). The readers have a rule for each form of what they read: what stands
there up to blanks, and what they give then. A list of paths is read by induction on the paths, and
an object member by member: a member is read into its field if that was not read before
(`readMember_gives`), and the members after it are read with that field filled.

The only configurations that cannot be written are those with a search path that is no text.
-/

namespace Embedder

open Json

/-- The text of a path has the bytes of the path. -/
theorem SearchPath.ofText_of_text? {p : SearchPath} {s : String} (hs : p.text? = some s) :
    SearchPath.ofText s = p := by
  obtain ⟨bytes⟩ := p
  have hbytes : Utf8.bytes s = bytes := Utf8.bytes_of_text? hs
  rw [ofText, hbytes]

namespace Config

variable {f : Field} {fs fs' fs'' : Fields} {cs key s t u w w' r : List Char} {p : SearchPath}
  {ps : List SearchPath}

/-! ## What the readers give -/

theorem readBool_gives {b : Bool} (hs : skipSpace s = writtenBool b ++ r) :
    (readBool s).Gives b r := by
  cases b with
  | true =>
    change skipSpace s = 't' :: (['r', 'u', 'e'] ++ r) at hs
    unfold readBool
    split
    next h => rw [hs] at h; cases h
    next c t h =>
      rw [hs] at h
      cases h
      dsimp only
      rw [if_pos rfl]
      exact (readWord_written ['r', 'u', 'e'] r).map.widen
  | false =>
    change skipSpace s = 'f' :: (['a', 'l', 's', 'e'] ++ r) at hs
    unfold readBool
    split
    next h => rw [hs] at h; cases h
    next c t h =>
      rw [hs] at h
      cases h
      dsimp only
      rw [if_neg (by decide), if_pos rfl]
      exact (readWord_written ['a', 'l', 's', 'e'] r).map.widen

theorem readPath_gives (hs : skipSpace s = '"' :: t) (ht : (readString t).Gives cs r) :
    (readPath s).Gives (SearchPath.ofText (String.ofList cs)) r := by
  unfold readPath
  split
  next h => rw [hs] at h; cases h
  next c t' h =>
    rw [hs] at h
    cases h
    exact ht.map.widen

theorem readPathsFrom_last (hs : (readPath s).Gives p t) (ht : skipSpace t = ']' :: r) :
    (readPathsFrom s).Gives [p] r := by
  rw [readPathsFrom]
  refine hs.andThen fun _ => ?_
  dsimp only
  split
  next h => rw [ht] at h; cases h
  next c t' h =>
    rw [ht] at h
    cases h
    exact .intro _

theorem readPathsFrom_more (hs : (readPath s).Gives p t) (ht : skipSpace t = ',' :: u)
    (hu : skipSpace u = '"' :: w) (hmore : (readPathsFrom u).Gives ps r) :
    (readPathsFrom s).Gives (p :: ps) r := by
  rw [readPathsFrom]
  refine hs.andThen fun _ => ?_
  dsimp only
  split
  next h => rw [ht] at h; cases h
  next c t' h =>
    rw [ht] at h
    cases h
    rw [if_neg (by decide), if_pos rfl, hu]
    exact hmore.map.widen

theorem readPaths_none (hs : skipSpace s = '[' :: t) (ht : skipSpace t = ']' :: r) :
    (readPaths s).Gives [] r := by
  unfold readPaths
  split
  next h => rw [hs] at h; cases h
  next c t' h =>
    rw [hs] at h
    cases h
    rw [if_pos rfl]
    split
    next h => rw [ht] at h; cases h
    next d u h =>
      rw [ht] at h
      cases h
      exact .intro _

theorem readPaths_some (hs : skipSpace s = '[' :: t) (ht : skipSpace t = '"' :: u)
    (hps : (readPathsFrom t).Gives ps r) : (readPaths s).Gives ps r := by
  unfold readPaths
  split
  next h => rw [hs] at h; cases h
  next c t' h =>
    rw [hs] at h
    cases h
    rw [if_pos rfl]
    split
    next h => rw [ht] at h; cases h
    next d u' h =>
      rw [ht] at h
      cases h
      exact hps.widen

theorem readField_searchPaths (hs : (readPaths s).Gives ps r) :
    (readField .searchPaths fs s).Gives { fs with searchPaths := some ps } r := by
  rw [readField]
  exact hs.map

/-- The fields after a switch was read. -/
def Fields.switched (fs : Fields) (b : Bool) : Field → Fields
  | .searchPaths => fs
  | .printTracebacks => { fs with printTracebacks := some b }
  | .installSignalHandlers => { fs with installSignalHandlers := some b }
  | .allowRestart => { fs with allowRestart := some b }
  | .globalLibrary => { fs with globalLibrary := some b }

theorem readField_switch {b : Bool} (hf : f ≠ .searchPaths) (hs : (readBool s).Gives b r) :
    (readField f fs s).Gives (fs.switched b f) r := by
  cases f with
  | searchPaths => exact absurd rfl hf
  | printTracebacks | installSignalHandlers | allowRestart | globalLibrary =>
    rw [readField]
    exact hs.map

theorem readColon_gives (hs : skipSpace s = ':' :: r) : (readColon s).Gives () r := by
  unfold readColon
  split
  next h => rw [hs] at h; cases h
  next c t h =>
    rw [hs] at h
    cases h
    exact .intro _

theorem Field.ofName?_name (f : Field) : Field.ofName? f.name = some f := by
  cases f <;> decide

/-- A member is read into its field, if that was not read before. -/
theorem readMember_gives (hnew : fs.has f = false) (hs : skipSpace s = ':' :: t)
    (ht : (readField f fs t).Gives fs' r) : (readMember f.name fs s).Gives fs' r := by
  rw [readMember, Field.ofName?_name]
  simp only [hnew, Bool.false_eq_true, if_false]
  exact (readColon_gives hs).andThen fun _ => ht

theorem readMembers_last (hkey : (readString s).Gives key t)
    (ht : (readMember (String.ofList key) fs t).Gives fs' u) (hu : skipSpace u = '\x7d' :: r) :
    (readMembers fs s).Gives fs' r := by
  rw [readMembers]
  refine hkey.andThen fun _ => ht.andThen fun _ => ?_
  dsimp only
  split
  next h => rw [hu] at h; cases h
  next c u' h =>
    rw [hu] at h
    cases h
    exact .intro _

theorem readMembers_more (hkey : (readString s).Gives key t)
    (ht : (readMember (String.ofList key) fs t).Gives fs' u) (hu : skipSpace u = ',' :: w)
    (hw : skipSpace w = '"' :: w') (hmore : (readMembers fs' w').Gives fs'' r) :
    (readMembers fs s).Gives fs'' r := by
  rw [readMembers]
  refine hkey.andThen fun _ => ht.andThen fun _ => ?_
  dsimp only
  split
  next h => rw [hu] at h; cases h
  next c u' h =>
    rw [hu] at h
    cases h
    rw [if_neg (by decide), if_pos rfl]
    split
    next h => rw [hw] at h; cases h
    next d w'' h =>
      rw [hw] at h
      cases h
      exact hmore.widen

theorem readConfig_object (hs : skipSpace s = '\x7b' :: t) (ht : skipSpace t = '"' :: u)
    (hu : (readMembers Fields.none u).Gives fs r) : (readConfig s).Gives fs r := by
  unfold readConfig
  split
  next h => rw [hs] at h; cases h
  next c t' h =>
    rw [hs] at h
    cases h
    rw [if_neg (by decide), if_pos rfl]
    split
    next h => rw [ht] at h; cases h
    next d u' h =>
      rw [ht] at h
      cases h
      exact hu.widen

theorem readAll_ok (hs : (readConfig s).Gives fs r) (hr : skipSpace r = []) :
    readAll s = .ok fs.config := by
  obtain ⟨h, hs⟩ := hs
  simp only [readAll, hs, hr]

/-! ## What was written -/

theorem writtenString_append (name : String) (r : List Char) :
    writtenString name ++ r = '"' :: (name.toList.flatMap writtenChar ++ '"' :: r) := by
  simp [writtenString]

theorem skipSpace_writtenBool (b : Bool) (r : List Char) :
    skipSpace (writtenBool b ++ r) = writtenBool b ++ r := by
  cases b <;> exact skipSpace_cons (by decide)

theorem readBool_written (b : Bool) (r : List Char) : (readBool (writtenBool b ++ r)).Gives b r :=
  readBool_gives (skipSpace_writtenBool b r)

theorem readPath_written (text : String) (r : List Char) :
    (readPath (writtenString text ++ r)).Gives (SearchPath.ofText text) r := by
  rw [writtenString_append, ← String.ofList_toList (s := text), String.toList_ofList]
  exact readPath_gives (skipSpace_cons (by decide)) (readString_written text.toList r)

/-- Joined strings begin with a quote. -/
theorem skipSpace_joined (text : String) (texts : List String) (r : List Char) :
    ∃ w, skipSpace (joined ((text :: texts).map writtenString) ++ r) = '"' :: w := by
  cases texts <;> exact ⟨_, skipSpace_cons (by decide)⟩

/-- By induction on the paths after the first. -/
theorem readPathsFrom_written (text : String) (texts : List String) (r : List Char) :
    (readPathsFrom (joined ((text :: texts).map writtenString) ++ ']' :: r)).Gives
      ((text :: texts).map SearchPath.ofText) r := by
  induction texts generalizing text with
  | nil => exact readPathsFrom_last (readPath_written text _) (skipSpace_cons (by decide))
  | cons next texts ih =>
    have hsplit : joined ((text :: next :: texts).map writtenString) ++ ']' :: r =
        writtenString text ++ ',' :: (joined ((next :: texts).map writtenString) ++ ']' :: r) := by
      simp [joined]
    obtain ⟨w, hw⟩ := skipSpace_joined next texts (']' :: r)
    rw [hsplit]
    exact readPathsFrom_more (readPath_written text _) (skipSpace_cons (by decide)) hw (ih next)

theorem readPaths_written (texts : List String) (r : List Char) :
    (readPaths (writtenList (texts.map writtenString) ++ r)).Gives
      (texts.map SearchPath.ofText) r := by
  cases texts with
  | nil => exact readPaths_none (skipSpace_cons (by decide)) (skipSpace_cons (by decide))
  | cons text texts =>
    have hlist : writtenList ((text :: texts).map writtenString) ++ r =
        '[' :: (joined ((text :: texts).map writtenString) ++ ']' :: r) := by
      simp [writtenList]
    obtain ⟨w, hw⟩ := skipSpace_joined text texts (']' :: r)
    rw [hlist]
    exact readPaths_some (skipSpace_cons (by decide)) hw (readPathsFrom_written text texts r)

/-- A member as it is written: a field and the text of a value. -/
abbrev Member := Field × List Char

/-- The text of a member. -/
def Member.written (m : Member) : List Char := writtenMember m.1.name m.2

/-- Reading the members one after the other fills fields: each field is new, and each value is read
whatever follows it. -/
inductive Fills : Fields → List Member → Fields → Prop where
  | nil (fs : Fields) : Fills fs [] fs
  | cons {fs fs' fs'' : Fields} {f : Field} {value : List Char} {ms : List Member}
      (new : fs.has f = false) (value_read : ∀ r, (readField f fs (value ++ r)).Gives fs' r)
      (rest : Fills fs' ms fs'') : Fills fs ((f, value) :: ms) fs''

theorem Member.written_append (f : Field) (value r : List Char) :
    Member.written (f, value) ++ r =
      '"' :: (f.name.toList.flatMap writtenChar ++ '"' :: ':' :: (value ++ r)) := by
  simp [Member.written, writtenMember, writtenString]

/-- By induction on the members after the first. -/
theorem readMembers_written {m : Member} {ms : List Member} (hms : Fills fs (m :: ms) fs') :
    ∃ w, joined ((m :: ms).map Member.written) ++ '\x7d' :: r = '"' :: w ∧
      (readMembers fs w).Gives fs' r := by
  induction ms generalizing fs m with
  | nil =>
    obtain _ | ⟨hnew, hvalue, _ | _⟩ := hms
    refine ⟨_, Member.written_append _ _ _, ?_⟩
    refine readMembers_last (readString_written _ _) ?_ (skipSpace_cons (by decide))
    rw [String.ofList_toList]
    exact readMember_gives hnew (skipSpace_cons (by decide)) (hvalue _)
  | cons m' ms ih =>
    obtain ⟨f, value⟩ := m
    obtain _ | ⟨hnew, hvalue, hrest⟩ := hms
    obtain ⟨w, hw, hmore⟩ := ih hrest
    have hsplit : joined (((f, value) :: m' :: ms).map Member.written) ++ '\x7d' :: r =
        Member.written (f, value) ++ ',' :: (joined ((m' :: ms).map Member.written) ++ '\x7d' :: r) := by
      simp [joined]
    rw [hsplit, Member.written_append, hw]
    refine ⟨_, rfl, readMembers_more (readString_written _ _) ?_ (skipSpace_cons (by decide))
      (skipSpace_cons (by decide)) hmore⟩
    rw [String.ofList_toList]
    exact readMember_gives hnew (skipSpace_cons (by decide)) (hvalue _)

/-- An object that was written is read. -/
theorem readAll_written {m : Member} {ms : List Member} (hms : Fills Fields.none (m :: ms) fs) :
    readAll (writtenObject ((m :: ms).map Member.written)) = .ok fs.config := by
  obtain ⟨w, hw, hread⟩ := readMembers_written (r := []) hms
  have hobject : writtenObject ((m :: ms).map Member.written) = '\x7b' :: '"' :: w := by
    rw [writtenObject, List.cons_append, hw]
  rw [hobject]
  exact readAll_ok (readConfig_object (skipSpace_cons (by decide)) (skipSpace_cons (by decide)) hread)
    rfl

/-- The members that a configuration is written as. -/
def members (c : Config) (texts : List String) : List Member :=
  [(.searchPaths, writtenList (texts.map writtenString)),
    (.printTracebacks, writtenBool c.printTracebacks),
    (.installSignalHandlers, writtenBool c.installSignalHandlers),
    (.allowRestart, writtenBool c.allowRestart),
    (.globalLibrary, writtenBool c.globalLibrary)]

theorem members_fill (c : Config) (texts : List String) :
    ∃ fs, Fills Fields.none (c.members texts) fs ∧
      fs.config = { c with searchPaths := texts.map SearchPath.ofText } := by
  have hswitch (f : Field) (hf : f ≠ .searchPaths) (fs : Fields) (b : Bool) (r : List Char) :
      (readField f fs (writtenBool b ++ r)).Gives (fs.switched b f) r :=
    readField_switch hf (readBool_written b r)
  refine ⟨_, .cons rfl (fun r => readField_searchPaths (readPaths_written texts r)) <|
    .cons rfl (hswitch .printTracebacks (by decide) _ _) <|
    .cons rfl (hswitch .installSignalHandlers (by decide) _ _) <|
    .cons rfl (hswitch .allowRestart (by decide) _ _) <|
    .cons rfl (hswitch .globalLibrary (by decide) _ _) <| .nil _, rfl⟩

/-! ## Round trip -/

/-- The texts of paths have the bytes of the paths. -/
theorem map_ofText_of_mapM_text? {paths : List SearchPath} {texts : List String}
    (htexts : paths.mapM SearchPath.text? = some texts) : texts.map SearchPath.ofText = paths := by
  induction paths generalizing texts with
  | nil =>
    cases htexts
    rfl
  | cons p paths ih =>
    rw [List.mapM_cons] at htexts
    obtain ⟨text, htext, htexts⟩ := Option.bind_eq_some_iff.1 htexts
    obtain ⟨texts, hrest, ⟨⟩⟩ := Option.bind_eq_some_iff.1 htexts
    rw [List.map_cons, SearchPath.ofText_of_text? htext, ih hrest]

theorem mapM_text?_eq_none {paths : List SearchPath} :
    paths.mapM SearchPath.text? = none ↔ ∃ p ∈ paths, p.text? = none := by
  induction paths with
  | nil => simp
  | cons p paths ih =>
    rw [List.mapM_cons]
    simp only [List.mem_cons, exists_eq_or_imp, ← ih]
    cases p.text? <;> cases paths.mapM SearchPath.text? <;> simp

theorem ofJson?_of_toJson? {c : Config} {text : String} (htext : c.toJson? = some text) :
    ofJson? text = .ok c := by
  obtain ⟨texts, htexts, rfl⟩ := Option.map_eq_some_iff.1 htext
  obtain ⟨fs, hfill, hconfig⟩ := c.members_fill texts
  have hread : readAll (writtenObject ((c.members texts).map Member.written)) = .ok c := by
    rw [members, readAll_written hfill, hconfig, map_ofText_of_mapM_text? htexts]
  have hlist : readAll (String.ofList
      (writtenObject ((c.members texts).map Member.written))).toList = .ok c := by
    rw [String.toList_ofList, hread]
  unfold ofJson?
  split
  next c' hc' => exact congrArg _ (Except.ok.inj (hc'.symm.trans hlist))
  next e he => cases he.symm.trans hlist

theorem toJson?_eq_none {c : Config} :
    c.toJson? = none ↔ ∃ p ∈ c.searchPaths, p.text? = none := by
  rw [toJson?, Option.map_eq_none_iff]
  exact mapM_text?_eq_none

/-- A configuration is read from the text it is written as, and it can be written if and only if
all its search paths are text. -/
theorem json_round_trip (c : Config) :
    ((∀ p ∈ c.searchPaths, p.text? ≠ none) →
      ∃ text, c.toJson? = some text ∧ ofJson? text = .ok c) ∧
    (c.toJson? = none ↔ ∃ p ∈ c.searchPaths, p.text? = none) := by
  refine ⟨fun hpaths => ?_, toJson?_eq_none⟩
  have hwritten : c.toJson? ≠ none := by
    rintro hnone
    obtain ⟨p, hp, hnone⟩ := toJson?_eq_none.1 hnone
    exact hpaths p hp hnone
  obtain ⟨text, htext⟩ := Option.ne_none_iff_exists'.1 hwritten
  exact ⟨text, htext, ofJson?_of_toJson? htext⟩

end Config

end Embedder
