import Mathlib.Data.List.Nodup
import Embedder.Config.Json
import Embedder.Proofs.Json.Layout

/-!
# What the members of an object say of a configuration

A member whose key names a field says what the field holds, if its value is of the kind that the
field has; a member with another key says nothing. The members of an object are taken one after the
other, and that goes well if and only if they name each field at most once and with a value of its
kind (`exists_foldlM_take`, `fine_of_foldlM_take`). Then each field that is named holds what was said
of it, and the others what they held before (`get?_of_foldlM_take`).

`says?` is what is left of a member when its place, its spelling and its layout are forgotten, and
with them the members that name no field. What members say depends on no more than that
(`given?_congr`).
-/

namespace Embedder.Config

open Json Json.Layout

variable {f g : Field} {fs fs' : Fields} {ms ms' : List Layout.Member}

/-! ## What members say -/

/-- What a field holds. -/
abbrev Field.Content : Field → Type
  | .searchPaths => List SearchPath
  | .printTracebacks | .installSignalHandlers | .allowRestart | .globalLibrary => Bool

/-- What a field of a configuration holds. -/
def get (c : Config) : (f : Field) → f.Content
  | .searchPaths => c.searchPaths
  | .printTracebacks => c.printTracebacks
  | .installSignalHandlers => c.installSignalHandlers
  | .allowRestart => c.allowRestart
  | .globalLibrary => c.globalLibrary

/-- Configurations whose fields hold the same are the same. -/
theorem ext_get {c c' : Config} (h : ∀ f, c.get f = c'.get f) : c = c' := by
  obtain ⟨paths, print, signals, restart, global⟩ := c
  obtain ⟨paths', print', signals', restart', global'⟩ := c'
  obtain rfl : paths = paths' := h .searchPaths
  obtain rfl : print = print' := h .printTracebacks
  obtain rfl : signals = signals' := h .installSignalHandlers
  obtain rfl : restart = restart' := h .allowRestart
  obtain rfl : global = global' := h .globalLibrary
  rfl

/-- The path that a string spells. -/
def pathOf (cs : List Char) : SearchPath := SearchPath.ofText (String.ofList cs)

/-- What a value says that a field holds: a list of strings the paths, and a truth value a switch.
Any other value says nothing. -/
def Field.content? : (f : Field) → Value → Option f.Content
  | .searchPaths, v => v.strings?.map (·.map pathOf)
  | .printTracebacks, v | .installSignalHandlers, v | .allowRestart, v | .globalLibrary, v => v.flag?

/-- The field that a member names. -/
def named? (m : Layout.Member) : Option Field :=
  (said? m.key).bind fun cs => Field.ofName? (String.ofList cs)

/-- The field that a member names, with what its value says that the field holds. -/
def says? (m : Layout.Member) : Option (Σ f : Field, Option f.Content) :=
  (named? m).map fun f => ⟨f, f.content? m.value⟩

/-- The members of an object that configures: their keys are text, and they name each field at most
once and with a value that says what it holds. -/
structure Fine (ms : List Layout.Member) : Prop where
  said : ∀ m ∈ ms, said? m.key ≠ none
  once : (ms.filterMap named?).Nodup
  typed : ∀ m ∈ ms, ∀ f, named? m = some f → f.content? m.value ≠ none

/-- What members say that a field holds. -/
def given? (ms : List Layout.Member) (f : Field) : Option f.Content :=
  (ms.find? fun m => named? m = some f).bind fun m => f.content? m.value

/-! ## What members set -/

namespace Fields

/-- What was read of a field. -/
def get? (fs : Fields) : (f : Field) → Option f.Content
  | .searchPaths => fs.searchPaths
  | .printTracebacks => fs.printTracebacks
  | .installSignalHandlers => fs.installSignalHandlers
  | .allowRestart => fs.allowRestart
  | .globalLibrary => fs.globalLibrary

/-- The fields after one more was read. -/
def put (fs : Fields) : (f : Field) → f.Content → Fields
  | .searchPaths, ps => { fs with searchPaths := some ps }
  | .printTracebacks, b => { fs with printTracebacks := some b }
  | .installSignalHandlers, b => { fs with installSignalHandlers := some b }
  | .allowRestart, b => { fs with allowRestart := some b }
  | .globalLibrary, b => { fs with globalLibrary := some b }

theorem has_eq (fs : Fields) (f : Field) : fs.has f = (fs.get? f).isSome := by
  cases f <;> rfl

@[simp] theorem get?_none (f : Field) : Fields.none.get? f = .none := by
  cases f <;> rfl

theorem get_config (fs : Fields) (f : Field) : fs.config.get f = (fs.get? f).getD (default.get f) := by
  cases f <;> rfl

@[simp] theorem get?_put_same (fs : Fields) (f : Field) (x : f.Content) :
    (fs.put f x).get? f = some x := by
  cases f <;> rfl

theorem get?_put_of_ne (h : g ≠ f) (fs : Fields) (x : f.Content) :
    (fs.put f x).get? g = fs.get? g := by
  cases f <;> cases g <;> first | rfl | exact absurd rfl h

/-- The fields after a member of an object, if it says nothing wrong. -/
def take (fs : Fields) (m : Layout.Member) : Option Fields :=
  (said? m.key).bind fun cs =>
    match Field.ofName? (String.ofList cs) with
    | .none => some fs
    | some f => if fs.has f then .none else (f.content? m.value).map (fs.put f)

theorem take_of_said_eq_none {m : Layout.Member} (h : said? m.key = .none) :
    fs.take m = .none := by
  rw [take, h]
  rfl

theorem take_of_named?_eq_none {m : Layout.Member} (hkey : said? m.key ≠ .none)
    (h : named? m = .none) : fs.take m = some fs := by
  obtain ⟨cs, hcs⟩ := Option.ne_none_iff_exists'.1 hkey
  rw [named?, hcs, Option.bind_some] at h
  rw [take, hcs, Option.bind_some, h]

theorem take_of_named? {m : Layout.Member} (h : named? m = some f) :
    fs.take m = if fs.has f then .none else (f.content? m.value).map (fs.put f) := by
  obtain ⟨cs, hcs, hf⟩ := Option.bind_eq_some_iff.1 h
  rw [take, hcs, Option.bind_some, hf]

theorem said?_ne_none_of_take {m : Layout.Member} (h : fs.take m = some fs') :
    said? m.key ≠ .none := by
  intro hkey
  rw [take_of_said_eq_none hkey] at h
  cases h

theorem get?_eq_none_of_not_has (h : ¬fs.has f = true) : fs.get? f = .none := by
  rw [has_eq, Option.isSome_iff_ne_none, ne_eq, not_not] at h
  exact h

end Fields

open Fields hiding none

theorem given?_cons_of_ne {m : Layout.Member} (h : named? m ≠ some f) :
    given? (m :: ms) f = given? ms f := by
  rw [given?, List.find?_cons_of_neg (by simpa using h)]
  rfl

theorem given?_cons_of_eq {m : Layout.Member} (h : named? m = some f) :
    given? (m :: ms) f = f.content? m.value := by
  rw [given?, List.find?_cons_of_pos (by simpa using h)]
  rfl

theorem Fine.tail {m : Layout.Member} (h : Fine (m :: ms)) : Fine ms where
  said m' hm' := h.said m' (List.mem_cons_of_mem m hm')
  once := by
    have honce := h.once
    rw [List.filterMap_cons] at honce
    split at honce
    · exact honce
    · exact honce.of_cons
  typed m' hm' := h.typed m' (List.mem_cons_of_mem m hm')

/-- Members are taken one after the other if they say nothing wrong and name no field that was set
before. By induction on the members: a field that one of them sets is set for those behind it. -/
theorem exists_foldlM_take (hfine : Fine ms)
    (hnew : ∀ f ∈ ms.filterMap named?, fs.get? f = none) :
    ∃ fs', ms.foldlM take fs = some fs' := by
  induction ms generalizing fs with
  | nil => exact ⟨fs, rfl⟩
  | cons m ms ih =>
    have hkey := hfine.said m (List.mem_cons_self ..)
    rw [List.foldlM_cons]
    cases hm : named? m with
    | none =>
      rw [List.filterMap_cons_none hm] at hnew
      rw [take_of_named?_eq_none hkey hm]
      exact ih hfine.tail hnew
    | some f =>
      have honce := hfine.once
      rw [List.filterMap_cons_some hm] at hnew honce
      have hf : fs.has f = false := by
        rw [has_eq, hnew f (List.mem_cons_self ..)]
        rfl
      obtain ⟨x, hx⟩ := Option.ne_none_iff_exists'.1 (hfine.typed m (List.mem_cons_self ..) f hm)
      rw [take_of_named? hm, hf, if_neg Bool.false_ne_true, hx]
      refine ih hfine.tail fun g hg => ?_
      have hne : g ≠ f := by
        rintro rfl
        exact (List.nodup_cons.1 honce).1 hg
      rw [get?_put_of_ne hne]
      exact hnew g (List.mem_cons_of_mem f hg)

/-- What was set stays, and the rest is as the members say. -/
theorem get?_of_foldlM_take (h : ms.foldlM take fs = some fs') (f : Field) :
    fs'.get? f = (fs.get? f).or (given? ms f) := by
  induction ms generalizing fs with
  | nil =>
    cases h
    exact (Option.or_none).symm
  | cons m ms ih =>
    rw [List.foldlM_cons] at h
    obtain ⟨fs₁, hm, h⟩ := Option.bind_eq_some_iff.1 h
    rw [ih h]
    cases hg : named? m with
    | none =>
      rw [take_of_named?_eq_none (said?_ne_none_of_take hm) hg] at hm
      cases hm
      rw [given?_cons_of_ne (by simp [hg])]
    | some g =>
      rw [take_of_named? hg] at hm
      by_cases hhas : fs.has g = true
      · rw [if_pos hhas] at hm
        cases hm
      · rw [if_neg hhas] at hm
        obtain ⟨x, hx, rfl⟩ := Option.map_eq_some_iff.1 hm
        by_cases hfg : f = g
        · subst hfg
          rw [get?_put_same, given?_cons_of_eq hg, hx, get?_eq_none_of_not_has hhas]
          rfl
        · rw [get?_put_of_ne hfg, given?_cons_of_ne]
          rw [hg]
          exact fun h => hfg (Option.some.inj h).symm

/-- Members that were taken say nothing wrong and name no field that was set before. -/
theorem fine_of_foldlM_take (h : ms.foldlM take fs = some fs') :
    Fine ms ∧ ∀ f ∈ ms.filterMap named?, fs.get? f = none := by
  induction ms generalizing fs with
  | nil => exact ⟨⟨by simp, by simp, by simp⟩, by simp⟩
  | cons m ms ih =>
    rw [List.foldlM_cons] at h
    obtain ⟨fs₁, hm, h⟩ := Option.bind_eq_some_iff.1 h
    obtain ⟨hfine, hnew⟩ := ih h
    have hkey := said?_ne_none_of_take hm
    have hsaid : ∀ m' ∈ m :: ms, said? m'.key ≠ none := by
      intro m' hm'
      rcases List.mem_cons.1 hm' with rfl | hm'
      · exact hkey
      · exact hfine.said m' hm'
    cases hg : named? m with
    | none =>
      rw [take_of_named?_eq_none hkey hg] at hm
      cases hm
      refine ⟨⟨hsaid, ?_, ?_⟩, ?_⟩
      · rw [List.filterMap_cons_none hg]
        exact hfine.once
      · intro m' hm' f hf
        rcases List.mem_cons.1 hm' with rfl | hm'
        · rw [hg] at hf
          cases hf
        · exact hfine.typed m' hm' f hf
      · rw [List.filterMap_cons_none hg]
        exact hnew
    | some g =>
      rw [take_of_named? hg] at hm
      by_cases hhas : fs.has g = true
      · rw [if_pos hhas] at hm
        cases hm
      · rw [if_neg hhas] at hm
        obtain ⟨x, hx, rfl⟩ := Option.map_eq_some_iff.1 hm
        have hlater : g ∉ ms.filterMap named? := by
          intro hmem
          have hset := hnew g hmem
          rw [get?_put_same] at hset
          cases hset
        refine ⟨⟨hsaid, ?_, ?_⟩, ?_⟩
        · rw [List.filterMap_cons_some hg]
          exact List.nodup_cons.2 ⟨hlater, hfine.once⟩
        · intro m' hm' f hf
          rcases List.mem_cons.1 hm' with rfl | hm'
          · rw [hg] at hf
            cases hf
            rw [hx]
            exact Option.some_ne_none x
          · exact hfine.typed m' hm' f hf
        · rw [List.filterMap_cons_some hg]
          intro f hf
          rcases List.mem_cons.1 hf with rfl | hf
          · exact get?_eq_none_of_not_has hhas
          · have hne : f ≠ g := fun hfg => hlater (hfg ▸ hf)
            rw [← get?_put_of_ne hne fs x]
            exact hnew f hf

/-! ## What is left when the layout is forgotten -/

/-- What is said of a field is in the entries, as it is named once. -/
theorem given?_eq_some_iff (hfine : Fine ms) {x : f.Content} :
    given? ms f = some x ↔ ⟨f, some x⟩ ∈ ms.filterMap says? := by
  induction ms with
  | nil => simp [given?]
  | cons m ms ih =>
    cases hm : named? m with
    | none =>
      have hentry : says? m = none := by rw [says?, hm]; rfl
      rw [given?_cons_of_ne (by simp [hm]), List.filterMap_cons_none hentry]
      exact ih hfine.tail
    | some g =>
      have hentry : says? m = some ⟨g, g.content? m.value⟩ := by rw [says?, hm]; rfl
      rw [List.filterMap_cons_some hentry, List.mem_cons]
      by_cases hfg : f = g
      · subst hfg
        rw [given?_cons_of_eq hm]
        have hlater : ⟨f, some x⟩ ∉ ms.filterMap says? := by
          intro hmem
          have honce := hfine.once
          rw [List.filterMap_cons_some hm] at honce
          obtain ⟨m', hm', hentry'⟩ := List.mem_filterMap.1 hmem
          obtain ⟨g, hg, hpair⟩ := Option.map_eq_some_iff.1 hentry'
          obtain rfl : g = f := congrArg Sigma.fst hpair
          exact (List.nodup_cons.1 honce).1 (List.mem_filterMap.2 ⟨m', hm', hg⟩)
        constructor
        · intro hx
          rw [hx]
          exact .inl rfl
        · rintro (hx | hx)
          · exact (eq_of_heq (Sigma.mk.inj hx).2).symm
          · exact absurd hx hlater
      · rw [given?_cons_of_ne (by rw [hm]; exact fun h => hfg (Option.some.inj h).symm),
          ih hfine.tail]
        constructor
        · exact .inr
        · rintro (hx | hx)
          · exact absurd (congrArg Sigma.fst hx) hfg
          · exact hx

theorem filterMap_named? (ms : List Layout.Member) :
    ms.filterMap named? = (ms.filterMap says?).map Sigma.fst := by
  rw [List.map_filterMap]
  refine List.filterMap_congr fun m _ => ?_
  rw [says?]
  cases named? m <;> rfl

/-- Whether members say anything wrong depends on the entries and the keys. -/
theorem Fine.of_perm (hfine : Fine ms) (hsaid : ∀ m ∈ ms', said? m.key ≠ none)
    (hperm : (ms.filterMap says?).Perm (ms'.filterMap says?)) : Fine ms' where
  said := hsaid
  once := by
    have honce := hfine.once
    rw [filterMap_named?] at honce ⊢
    exact (hperm.map Sigma.fst).nodup_iff.1 honce
  typed m' hm' f hf hnone := by
    have hmem : ⟨f, none⟩ ∈ ms'.filterMap says? := by
      refine List.mem_filterMap.2 ⟨m', hm', ?_⟩
      rw [says?, hf, ← hnone]
      rfl
    obtain ⟨m, hm, hentry⟩ := List.mem_filterMap.1 (hperm.mem_iff.2 hmem)
    obtain ⟨g, hg, hpair⟩ := Option.map_eq_some_iff.1 hentry
    have hfg : g = f := congrArg Sigma.fst hpair
    subst hfg
    exact hfine.typed m hm g hg (eq_of_heq (Sigma.mk.inj hpair).2)

/-- What is said of a field does not depend on the order of the members, nor on those that name
none. -/
theorem given?_congr (hfine : Fine ms) (hfine' : Fine ms')
    (hperm : (ms.filterMap says?).Perm (ms'.filterMap says?)) (f : Field) :
    given? ms f = given? ms' f := by
  refine Option.ext fun x => ?_
  rw [given?_eq_some_iff hfine, given?_eq_some_iff hfine', hperm.mem_iff]

end Embedder.Config
