import Embedder.Proofs.Json.FieldLayout

/-!
# A configuration does not depend on the layout of its text

An object is read member by member, and its members are taken as they come
(`readMembers_elements`): a member that names a field is read into it, and the value of any other is
passed over. So what is read is what the members say (`Config.layout_independent`), whatever their
order, the blanks between tokens, the spelling of keys and strings, and the members that name no
field.

An object is refused if its members say something wrong, such as naming a field twice, or if
anything but blanks is behind it. So is a text that begins like an object and is none
(`exists_object_of_readConfig`), above all where the value of a member is no value.
-/

namespace Embedder.Config

open Json Json.Layout

variable {s t u r : List Char} {f : Field} {fs fs' : Fields} {ms ms' : List Layout.Member}

/-! ## Members -/

/-- What is read behind a member: the end of the object, or more members. -/
def readMore? (fs : Fields) (s : List Char) : Option (Fields × List Char) :=
  (token? s).bind fun x =>
    if x.1 = '\x7d' then some (fs, x.2)
    else if x.1 = ',' then
      (token? x.2).bind fun y => if y.1 = '"' then (readMembers fs y.2).yield? else none
    else none

theorem readMore?_blanks (fs : Fields) (w : Blanks) (s : List Char) :
    readMore? fs (w.text ++ s) = readMore? fs s := by
  rw [readMore?, readMore?, token?_blanks]

theorem readMember_yield (key : String) (fs : Fields) (s : List Char) :
    (readMember key fs s).yield? = (match Field.ofName? key with
      | some f =>
        if fs.has f then none
        else (readColon s).yield?.bind fun c => (readField f fs c.2).yield?
      | none =>
        (readColon s).yield?.bind fun c =>
          (skipValue [] c.2).yield?.map fun y => (fs, y.2)) := by
  unfold readMember
  cases Field.ofName? key with
  | none => exact Reading.yield?_andThen _ fun c => Reading.yield?_map _ _
  | some f =>
    dsimp only
    cases fs.has f with
    | true => rfl
    | false =>
      rw [if_neg Bool.false_ne_true, if_neg Bool.false_ne_true]
      exact Reading.yield?_andThen _ fun c => rfl

theorem readMembers_yield (fs : Fields) (s : List Char) :
    (readMembers fs s).yield? = (readString s).yield?.bind fun k =>
      (readMember (String.ofList k.1) fs k.2).yield?.bind fun v => readMore? v.1 v.2 := by
  rw [readMembers]
  refine Reading.yield?_andThen _ fun k => Reading.yield?_andThen _ fun v => ?_
  rw [readMore?]
  split
  next h =>
    rw [token?_of_nil h]
    rfl
  next c r h =>
    rw [token?_of_cons h, Option.bind_some]
    dsimp only
    by_cases hcloser : c = '\x7d'
    · rw [if_pos hcloser, if_pos hcloser]
      rfl
    · by_cases hcomma : c = ','
      · rw [if_neg hcloser, if_neg hcloser, if_pos hcomma, if_pos hcomma]
        split
        next h' =>
          rw [token?_of_nil h']
          rfl
        next d r' h' =>
          rw [token?_of_cons h', Option.bind_some]
          dsimp only
          by_cases hquote : d = '"'
          · rw [if_pos hquote, if_pos hquote, Reading.yield?_widen]
          · rw [if_neg hquote, if_neg hquote]
            split <;> rfl
      · rw [if_neg hcloser, if_neg hcloser, if_neg hcomma, if_neg hcomma]
        rfl

/-- The colon behind a key is read. -/
theorem readColon_text (w : Blanks) (s : List Char) :
    (readColon (w.text ++ ':' :: s)).yield? = some ((), s) := by
  rw [readColon_yield, token?_blanks_cons w (by decide)]
  rfl

/-- A member is taken, and then what is behind it is read. -/
theorem readMembers_member (fs : Fields) (key : List Piece) (after before : Blanks) (v : Value)
    (hu : Stops u) :
    (readMembers fs
      (closed key ++ (after.text ++ ':' :: (before.text ++ (v.text ++ u))))).yield? =
      (fs.take ⟨key, v⟩).bind fun fs' => readMore? fs' u := by
  rw [readMembers_yield, readString_closed, Fields.take]
  cases said? key with
  | none => rfl
  | some cs =>
    rw [Option.map_some, Option.bind_some, Option.bind_some, readMember_yield, readColon_text]
    dsimp only [Option.bind_some]
    cases Field.ofName? (String.ofList cs) with
    | none =>
      dsimp only
      rw [skipValue_text v [] before u hu, skipRest_nil]
      rfl
    | some f =>
      dsimp only
      cases fs.has f with
      | true => rfl
      | false =>
        rw [if_neg Bool.false_ne_true, if_neg Bool.false_ne_true, readField_text]
        cases f.content? v <;> rfl

/-- Members are taken one after the other, and then what is behind them is read. By induction on the
members. -/
theorem readMembers_elements {x : Char × List Char} (hu : token? u = some x)
    (hx : x.1 = ',' ∨ x.1 = '\x7d') : (es : Elements .object) →
    ∃ (w : Blanks) (t : List Char), es.text ++ u = w.text ++ '"' :: t ∧ ∀ fs,
      (readMembers fs t).yield? = (es.members.foldlM Fields.take fs).bind fun fs' => readMore? fs' u
  | .last (.member w key afterKey) before v after => by
    have hstops : Stops (after.text ++ u) := by
      refine stops_of_token? (c := x.1) (r := x.2) ?_ (hx.imp_right .inr)
      rw [token?_blanks, hu]
    refine ⟨w, closed key ++ (afterKey.text ++ ':' :: (before.text ++ (v.text ++ (after.text ++ u)))),
      by simp [Elements.text, Lead.text], fun fs => ?_⟩
    rw [readMembers_member fs key afterKey before v hstops, Elements.members, List.foldlM_cons]
    cases fs.take ⟨key, v⟩ with
    | none => rfl
    | some fs' => exact readMore?_blanks fs' after u
  | .more (.member w key afterKey) before v after rest => by
    obtain ⟨w', t, ht, hrest⟩ := readMembers_elements hu hx rest
    refine ⟨w, closed key ++ (afterKey.text ++ ':' :: (before.text ++ (v.text ++
      (after.text ++ ',' :: (rest.text ++ u))))), by simp [Elements.text, Lead.text], fun fs => ?_⟩
    rw [readMembers_member fs key afterKey before v (stops_comma after _), Elements.members,
      List.foldlM_cons]
    cases fs.take ⟨key, v⟩ with
    | none => rfl
    | some fs' =>
      have hmore : readMore? fs' (after.text ++ ',' :: (rest.text ++ u)) =
          (readMembers fs' t).yield? := by
        rw [readMore?_blanks, readMore?, token?_cons (by decide), Option.bind_some]
        dsimp only
        rw [if_neg (by decide), if_pos rfl, ht, token?_blanks_cons w' (by decide)]
        rfl
      exact hmore.trans (hrest fs')

theorem exists_value_of_readMember {key : String}
    (h : (readMember key fs s).yield? = some (fs', r)) :
    ∃ (after before : Blanks) (v : Value), s = after.text ++ ':' :: (before.text ++ (v.text ++ r)) := by
  have hcolon {c : Unit × List Char} (hc : (readColon s).yield? = some c) :
      ∃ after : Blanks, s = after.text ++ ':' :: c.2 := by
    rw [readColon_yield, Option.bind_eq_some_iff] at hc
    obtain ⟨⟨d, t⟩, hd, hc⟩ := hc
    obtain ⟨after, rfl⟩ := exists_blanks_of_token? hd
    dsimp only at hc
    split at hc
    next hmark =>
      cases hc
      exact ⟨after, by rw [hmark]⟩
    next => cases hc
  rw [readMember_yield] at h
  split at h
  next f hf =>
    split at h
    next => cases h
    next =>
      obtain ⟨⟨_, t⟩, hc, hfield⟩ := Option.bind_eq_some_iff.1 h
      obtain ⟨after, rfl⟩ := hcolon hc
      obtain ⟨before, v, rfl⟩ := exists_value_of_readField hfield
      exact ⟨after, before, v, rfl⟩
  next =>
    obtain ⟨⟨_, t⟩, hc, hvalue⟩ := Option.bind_eq_some_iff.1 h
    obtain ⟨after, rfl⟩ := hcolon hc
    obtain ⟨⟨_, u⟩, hskip, hu⟩ := Option.map_eq_some_iff.1 hvalue
    obtain ⟨before, v, u', rfl, hrest⟩ := exists_value_of_skipValue [] t hskip
    rw [skipRest_nil] at hrest
    cases hrest
    cases hu
    exact ⟨after, before, v, rfl⟩

/-- What is read as members is the members of an object, up to its end. By induction on the length of
the text. -/
theorem exists_elements_of_readMembers (w : Blanks)
    (h : (readMembers fs s).yield? = some (fs', r)) :
    ∃ es : Elements .object, w.text ++ '"' :: s = es.text ++ '\x7d' :: r := by
  induction hn : s.length using Nat.strongRecOn generalizing s fs w with
  | ind n ih =>
    subst hn
    rw [readMembers_yield, Option.bind_eq_some_iff] at h
    obtain ⟨⟨cs, s₁⟩, hkey, h⟩ := h
    obtain ⟨key, rfl, -⟩ := exists_closed_of_readString hkey
    obtain ⟨⟨fs₁, u⟩, hmember, hmore⟩ := Option.bind_eq_some_iff.1 h
    obtain ⟨after, before, v, rfl⟩ := exists_value_of_readMember hmember
    rw [readMore?, Option.bind_eq_some_iff] at hmore
    obtain ⟨⟨c, u₁⟩, hc, hmore⟩ := hmore
    obtain ⟨afterValue, rfl⟩ := exists_blanks_of_token? hc
    dsimp only at hmore
    split at hmore
    next hcloser =>
      cases hmore
      refine ⟨.last (.member w key after) before v afterValue, ?_⟩
      simp [Elements.text, Lead.text, hcloser]
    next =>
    split at hmore
    next hcomma =>
      obtain ⟨⟨d, u₂⟩, hd, hnext⟩ := Option.bind_eq_some_iff.1 hmore
      obtain ⟨w', rfl⟩ := exists_blanks_of_token? hd
      dsimp only at hnext
      split at hnext
      next hquote =>
        obtain ⟨es, hes⟩ := ih u₂.length (by simp; omega) w' hnext rfl
        refine ⟨.more (.member w key after) before v afterValue es, ?_⟩
        rw [Elements.text_more_append, ← hes]
        simp [Lead.text, hcomma, hquote]
      next => cases hnext
    next => cases hmore

/-! ## Objects -/

theorem readConfig_object_yield (h : token? s = some ('\x7b', t)) :
    (readConfig s).yield? = (token? t).bind fun x =>
      if x.1 = '\x7d' then some (Fields.none, x.2)
      else if x.1 = '"' then (readMembers Fields.none x.2).yield?
      else none := by
  have hs := skipSpace_eq_cons_of_token? h
  unfold readConfig
  split
  next h' =>
    rw [hs] at h'
    cases h'
  next c r h' =>
    rw [hs] at h'
    cases h'
    dsimp only
    rw [if_neg (by decide), if_pos rfl]
    split
    next ht =>
      rw [token?_of_nil ht]
      rfl
    next d r' ht =>
      rw [token?_of_cons ht, Option.bind_some]
      dsimp only
      by_cases hcloser : d = '\x7d'
      · rw [if_pos hcloser, if_pos hcloser]
        rfl
      · by_cases hquote : d = '"'
        · rw [if_neg hcloser, if_neg hcloser, if_pos hquote, if_pos hquote, Reading.yield?_widen]
        · rw [if_neg hcloser, if_neg hcloser, if_neg hquote, if_neg hquote]
          rfl

/-- The members of an object are taken one after the other. -/
theorem readConfig_text {v : Value} (hv : v.members? = some ms) (w : Blanks) (r : List Char) :
    (readConfig (w.text ++ (v.text ++ r))).yield? =
      (ms.foldlM Fields.take Fields.none).map (·, r) := by
  cases v with
  | null | flag | number | string => cases hv
  | empty b inside => cases b with
    | list => cases hv
    | object =>
      cases hv
      rw [Value.text_empty_append, opener,
        readConfig_object_yield (token?_blanks_cons w (by decide)),
        token?_blanks_cons inside (isSpace_closer .object)]
      rfl
  | filled b es => cases b with
    | list => cases hv
    | object =>
      cases hv
      obtain ⟨w', t, ht, hmembers⟩ := readMembers_elements (u := '\x7d' :: r) (token?_cons (by decide))
        (.inr rfl) es
      rw [Value.text_filled_append, opener,
        readConfig_object_yield (token?_blanks_cons w (by decide))]
      change (token? (es.text ++ '\x7d' :: r)).bind _ = _
      rw [ht, token?_blanks_cons w' (by decide), Option.bind_some]
      dsimp only
      rw [if_neg (by decide), if_pos rfl, hmembers]
      cases es.members.foldlM Fields.take Fields.none with
      | none => rfl
      | some fs => rfl

/-- Whatever begins with the bracket of an object and is read is an object. -/
theorem exists_object_of_readConfig (h : token? s = some ('\x7b', t))
    (hfs : (readConfig s).yield? = some (fs, r)) :
    ∃ (w : Blanks) (v : Value) (ms : List Layout.Member), v.members? = some ms ∧
      s = w.text ++ (v.text ++ r) := by
  obtain ⟨w, rfl⟩ := exists_blanks_of_token? h
  rw [readConfig_object_yield h, Option.bind_eq_some_iff] at hfs
  obtain ⟨⟨c, u⟩, hc, hfs⟩ := hfs
  obtain ⟨w', rfl⟩ := exists_blanks_of_token? hc
  dsimp only at hfs
  split at hfs
  next hcloser =>
    cases hfs
    refine ⟨w, .empty .object w', _, rfl, ?_⟩
    rw [Value.text_empty_append, hcloser]
    rfl
  next =>
  split at hfs
  next hquote =>
    obtain ⟨es, hes⟩ := exists_elements_of_readMembers w' hfs
    refine ⟨w, .filled .object es, _, rfl, ?_⟩
    rw [Value.text_filled_append, hquote, hes]
    rfl
  next => cases hfs

/-! ## Texts -/

theorem readAll_eq_ok_iff {c : Config} :
    readAll s = .ok c ↔
      ∃ fs r, (readConfig s).yield? = some (fs, r) ∧ skipSpace r = [] ∧ fs.config = c := by
  rw [readAll]
  cases hs : readConfig s with
  | error e => simp
  | ok x =>
    obtain ⟨fs, r, hle⟩ := x
    dsimp only
    cases hr : skipSpace r with
    | nil => simp [hr]
    | cons d r' =>
      constructor
      · intro h
        cases h
      · rintro ⟨fs', r'', hfs, hblank, -⟩
        cases hfs
        rw [hr] at hblank
        cases hblank

theorem ofJson?_eq_ok_iff {c : Config} :
    ofJson? (String.ofList s) = .ok c ↔
      ∃ fs r, (readConfig s).yield? = some (fs, r) ∧ skipSpace r = [] ∧ fs.config = c := by
  rw [← readAll_eq_ok_iff, ofJson?, String.toList_ofList]
  cases readAll s <;> simp

/-- Whatever is wrong with a text, it is an invalid argument. -/
theorem exists_invalidArgument {text : String} (h : ∀ c, ofJson? text ≠ .ok c) :
    ∃ message, ofJson? text = .error (.invalidArgument message) := by
  unfold ofJson? at h ⊢
  cases hread : readAll text.toList with
  | ok c =>
    simp only [hread] at h
    exact absurd rfl (h c)
  | error e => exact ⟨_, rfl⟩

/-- The text of an object with something behind it. -/
def objectText (before : Blanks) (v : Value) (behind : List Char) : String :=
  String.ofList (before.text ++ (v.text ++ behind))

theorem skipSpace_eq_nil_iff : skipSpace s = [] ↔ ∀ c ∈ s, isSpace c = true :=
  List.dropWhile_eq_nil_iff

/-- An object is read if its members say nothing wrong, and nothing but blanks is behind it. -/
theorem ofJson?_objectText_eq_ok_iff {v : Value} (hv : v.members? = some ms) (before : Blanks)
    (behind : List Char) {c : Config} :
    ofJson? (objectText before v behind) = .ok c ↔
      (Fine ms ∧ ∀ c ∈ behind, isSpace c = true) ∧
        ∀ f, c.get f = (given? ms f).getD (default.get f) := by
  rw [objectText, ofJson?_eq_ok_iff, readConfig_text hv]
  have hget {fs : Fields} (hfs : ms.foldlM Fields.take Fields.none = some fs) (f : Field) :
      fs.config.get f = (given? ms f).getD (default.get f) := by
    rw [Fields.get_config, get?_of_foldlM_take hfs, Fields.get?_none, Option.none_or]
  constructor
  · rintro ⟨fs, r, hfs, hblank, rfl⟩
    obtain ⟨fs', hfs', hr⟩ := Option.map_eq_some_iff.1 hfs
    cases hr
    exact ⟨⟨(fine_of_foldlM_take hfs').1, skipSpace_eq_nil_iff.1 hblank⟩, hget hfs'⟩
  · rintro ⟨⟨hfine, hblank⟩, hc⟩
    obtain ⟨fs, hfs⟩ := exists_foldlM_take hfine fun f _ => Fields.get?_none f
    refine ⟨fs, behind, ?_, skipSpace_eq_nil_iff.2 hblank, ext_get fun f => ?_⟩
    · rw [hfs]
      rfl
    · rw [hget hfs, hc]

/-- The configuration that members describe. -/
def described (ms : List Layout.Member) : Config where
  searchPaths := (given? ms .searchPaths).getD default.searchPaths
  printTracebacks := (given? ms .printTracebacks).getD default.printTracebacks
  installSignalHandlers := (given? ms .installSignalHandlers).getD default.installSignalHandlers
  allowRestart := (given? ms .allowRestart).getD default.allowRestart
  globalLibrary := (given? ms .globalLibrary).getD default.globalLibrary

theorem get_described (ms : List Layout.Member) (f : Field) :
    (described ms).get f = (given? ms f).getD (default.get f) := by
  cases f <;> rfl

/-- The text of members, each with a comma behind it. -/
def leading : Option (Elements .object) → List Char
  | none => []
  | some es => es.text ++ [',']

/-- Nothing that begins like `junk` is a value with a comma or the end of the object behind it. -/
def Malformed (junk : List Char) : Prop :=
  ∀ (w : Blanks) (v : Value) (u : List Char) (x : Char × List Char),
    junk = w.text ++ (v.text ++ u) → token? u = some x → x.1 ≠ ',' ∧ x.1 ≠ '\x7d'

theorem readMembers_malformed {key : List Piece} (hkey : named? ⟨key, .null⟩ = none)
    {junk : List Char} (hjunk : Malformed junk) (fs : Fields) (after : Blanks) :
    (readMembers fs (closed key ++ (after.text ++ ':' :: junk))).yield? = none := by
  rw [readMembers_yield, readString_closed]
  cases hcs : said? key with
  | none => rfl
  | some cs =>
    rw [named?, hcs, Option.bind_some] at hkey
    rw [Option.map_some, Option.bind_some, readMember_yield, hkey, readColon_text]
    dsimp only [Option.bind_some]
    cases hskip : (skipValue [] junk).yield? with
    | none => rfl
    | some y =>
      obtain ⟨_, u⟩ := y
      obtain ⟨w, v, u', hv, hrest⟩ := exists_value_of_skipValue [] junk hskip
      rw [skipRest_nil] at hrest
      cases hrest
      rw [Option.map_some, Option.bind_some, readMore?]
      cases hx : token? u with
      | none => rfl
      | some x =>
        obtain ⟨hcomma, hcloser⟩ := hjunk w v u x hv hx
        rw [Option.bind_some, if_neg hcloser, if_neg hcomma]

/-- The text of an object up to a colon: members, and then a key. -/
def objectStart (before : Blanks) (es : Option (Elements .object)) (w : Blanks) (key : List Piece)
    (after : Blanks) : List Char :=
  before.text ++ '\x7b' :: (leading es ++ (Lead.member w key after).text)

/-- What stands behind the colon of a member that names no field is a value, or the text is
refused. -/
theorem ofJson?_malformed {key : List Piece} (hkey : named? ⟨key, .null⟩ = none)
    {junk : List Char} (hjunk : Malformed junk) (before : Blanks) (es : Option (Elements .object))
    (w after : Blanks) (c : Config) :
    ofJson? (String.ofList (objectStart before es w key after ++ junk)) ≠ .ok c := by
  have hbad (fs : Fields) := readMembers_malformed hkey hjunk fs after
  have hlead : (Lead.member w key after).text ++ junk =
      w.text ++ '"' :: (closed key ++ (after.text ++ ':' :: junk)) := by
    simp [Lead.text]
  intro hok
  obtain ⟨fs, r, hfs, -⟩ := ofJson?_eq_ok_iff.1 hok
  rw [objectStart, List.append_assoc, List.cons_append, List.append_assoc, hlead,
    readConfig_object_yield (token?_blanks_cons before (by decide))] at hfs
  cases es with
  | none =>
    rw [leading, List.nil_append, token?_blanks_cons w (by decide), Option.bind_some] at hfs
    dsimp only at hfs
    rw [if_neg (by decide), if_pos rfl, hbad] at hfs
    cases hfs
  | some es =>
    obtain ⟨w', t, ht, hmembers⟩ := readMembers_elements
      (u := ',' :: (w.text ++ '"' :: (closed key ++ (after.text ++ ':' :: junk))))
      (token?_cons (by decide)) (.inl rfl) es
    rw [leading, List.append_assoc, List.singleton_append, ht, token?_blanks_cons w' (by decide),
      Option.bind_some] at hfs
    dsimp only at hfs
    rw [if_neg (by decide), if_pos rfl, hmembers, Option.bind_eq_some_iff] at hfs
    obtain ⟨fs', -, hmore⟩ := hfs
    rw [readMore?, token?_cons (by decide), Option.bind_some] at hmore
    dsimp only at hmore
    rw [if_neg (by decide), if_pos rfl, token?_blanks_cons w (by decide), Option.bind_some] at hmore
    dsimp only at hmore
    rw [if_pos rfl, hbad] at hmore
    cases hmore

/-! ## Layout -/

/-- What is read from the text of an object does not depend on its layout.

If the members say nothing wrong and nothing but blanks is behind the object, then it is read, and
each field holds what the members say of it, or its default if they say nothing. Otherwise the text
is an invalid argument. So two objects with the same entries, in any order, and with no key that is
no text, read alike, whatever their layout.

Only an object with nothing but blanks behind it is read, if a text begins like an object. In
particular every member that is read has a value. -/
theorem layout_independent :
    (∀ (before : Blanks) (v : Value) (ms : List Layout.Member) (behind : List Char),
      v.members? = some ms →
      (Fine ms ∧ (∀ c ∈ behind, isSpace c = true) →
        ∃ c, ofJson? (objectText before v behind) = .ok c ∧
          ∀ f, c.get f = (given? ms f).getD (default.get f)) ∧
      (¬(Fine ms ∧ ∀ c ∈ behind, isSpace c = true) →
        ∃ message, ofJson? (objectText before v behind) = .error (.invalidArgument message))) ∧
    (∀ (before before' : Blanks) (v v' : Value) (ms ms' : List Layout.Member)
        (behind behind' : Blanks), v.members? = some ms → v'.members? = some ms' →
      (∀ m ∈ ms, said? m.key ≠ none) → (∀ m ∈ ms', said? m.key ≠ none) →
      (ms.filterMap says?).Perm (ms'.filterMap says?) →
      (ofJson? (objectText before v behind.text)).toOption =
        (ofJson? (objectText before' v' behind'.text)).toOption) ∧
    (∀ (before : Blanks) (es : Option (Elements .object)) (w : Blanks) (key : List Piece)
        (after : Blanks) (junk : List Char), named? ⟨key, .null⟩ = none → Malformed junk →
      ∃ message, ofJson? (String.ofList (objectStart before es w key after ++ junk)) =
        .error (.invalidArgument message)) ∧
    ∀ (s t : List Char) (c : Config), token? s = some ('\x7b', t) →
      ofJson? (String.ofList s) = .ok c →
      ∃ (before : Blanks) (v : Value) (ms : List Layout.Member) (behind : Blanks),
        v.members? = some ms ∧ String.ofList s = objectText before v behind.text := by
  refine ⟨fun before v ms behind hv => ⟨fun hfine => ?_, fun hwrong => ?_⟩, ?_,
    fun before es w key after junk hkey hjunk => ?_, fun s t c hs hok => ?_⟩
  · exact ⟨described ms, (ofJson?_objectText_eq_ok_iff hv before behind).2
      ⟨hfine, get_described ms⟩, get_described ms⟩
  · refine exists_invalidArgument fun c hok => ?_
    exact hwrong ((ofJson?_objectText_eq_ok_iff hv before behind).1 hok).1
  · intro before before' v v' ms ms' behind behind' hv hv' hsaid hsaid' hperm
    -- It is enough that what the first is read as, the second is read as too, as either may be first.
    have hread {before before' : Blanks} {v v' : Value} {ms ms' : List Layout.Member}
        {behind behind' : Blanks} (hv : v.members? = some ms) (hv' : v'.members? = some ms')
        (hsaid' : ∀ m ∈ ms', said? m.key ≠ none)
        (hperm : (ms.filterMap says?).Perm (ms'.filterMap says?)) {c : Config}
        (hok : ofJson? (objectText before v behind.text) = .ok c) :
        ofJson? (objectText before' v' behind'.text) = .ok c := by
      obtain ⟨⟨hfine, -⟩, hc⟩ := (ofJson?_objectText_eq_ok_iff hv before behind.text).1 hok
      have hfine' := hfine.of_perm hsaid' hperm
      refine (ofJson?_objectText_eq_ok_iff hv' before' behind'.text).2
        ⟨⟨hfine', behind'.blank⟩, fun f => ?_⟩
      rw [hc, given?_congr hfine hfine' hperm]
    cases hok : ofJson? (objectText before v behind.text) with
    | ok c =>
      rw [hread hv hv' hsaid' hperm hok]
    | error e =>
      cases hok' : ofJson? (objectText before' v' behind'.text) with
      | ok c =>
        rw [hread hv' hv hsaid hperm.symm hok'] at hok
        cases hok
      | error e' => rfl
  · exact exists_invalidArgument (ofJson?_malformed hkey hjunk before es w after)
  · obtain ⟨fs, r, hfs, hblank, -⟩ := ofJson?_eq_ok_iff.1 hok
    obtain ⟨before, v, ms, hv, hs⟩ := exists_object_of_readConfig hs hfs
    exact ⟨before, v, ms, ⟨r, skipSpace_eq_nil_iff.1 hblank⟩, hv, congrArg String.ofList hs⟩

end Embedder.Config
