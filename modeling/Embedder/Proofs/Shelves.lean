import Embedder.Proofs.Shares
import Mathlib.Logic.Relation

/-!
# The shelf, over whole runs

The shelf holds the registry and the shared bindings behind it. It changes in seven ways
(`Shelf.Changes`), and whatever a process does is a series of them (`Process.step_shelved`). So a
property of shelves that each change keeps holds throughout every run, whatever the guest does. The
first such property is that the shelf is orderly: serial numbers tell records and entries apart, and
each record has an owner.
-/

namespace Embedder

open Exception Scenario

variable {σ α β : Type} {G : Guest σ} {h h' : Host σ}

namespace Shelf

/-! ## Changes -/

/-- One change of a shelf. -/
inductive Changes : Shelf → Shelf → Prop where
  | turn (f : Shelf) (life : Lifecycle) : Changes f { f with lifecycle := life }
  | opened (f : Shelf) : Changes f { f with registry := some Registry.empty }
  | closed (f : Shelf) : Changes f { f with registry := none }
  /-- A shared binding has another number of owners. -/
  | shared (f : Shelf) {serial owners : Nat} {s : Share}
      (hs : f.shares.lookup serial = some s) (howners : 1 ≤ owners) :
      Changes f { f with shares := Shares.set serial { s with owners := owners } f.shares }
  /-- A shared binding lost its last owner. -/
  | ended (f : Shelf) {serial : Nat} {s : Share} (hs : f.shares.lookup serial = some s) :
      Changes f { f with shares := Shares.erase serial f.shares }
  | inserted (f : Shelf) {r : Registry} (hr : f.registry = some r) (b : Binding) :
      Changes f ⟨f.lifecycle, some ⟨r.entries ++ [(r.nextId, ⟨f.nextSerial⟩)], r.nextId + 1⟩,
        f.shares ++ [(f.nextSerial, ⟨b, 1⟩)], f.nextSerial + 1⟩
  | removed (f : Shelf) {r : Registry} (hr : f.registry = some r) (id : Int) :
      Changes f { f with registry := some ⟨r.entries.filter fun e => e.1 ≠ id, r.nextId⟩ }

variable {f f' : Shelf}

/-- What each change keeps, a series of changes keeps. -/
theorem Changes.preserves {P : Shelf → Prop} (hstep : ∀ {f f'}, Changes f f' → P f → P f')
    (hf : Relation.ReflTransGen Changes f f') (hp : P f) : P f' := by
  induction hf with
  | refl => exact hp
  | tail _ hchange ih => exact hstep hchange ih

/-! ## Orderly shelves -/

/-- Serial numbers tell records and entries apart, and each record has an owner. -/
structure Orderly (f : Shelf) : Prop extends f.Tidy where
  owned : ∀ e ∈ f.shares, 1 ≤ e.2.owners

theorem orderly_fresh (life : Lifecycle) : Orderly ⟨life, none, [], 0⟩ where
  toTidy := tidy_empty life
  owned := by simp

/-- Fewer records, and a registry with fewer entries or none. -/
theorem Orderly.fewer (ho : f.Orderly) (life : Lifecycle) {registry : Option Registry}
    {shares : List (Nat × Share)}
    (hkeys : (shares.map Prod.fst).Sublist (f.shares.map Prod.fst))
    (howned : ∀ e ∈ shares, 1 ≤ e.2.owners)
    (hregistry : ∀ r, registry = some r → r.entries = [] ∨
      ∃ r', f.registry = some r' ∧ r.entries.Sublist r'.entries) :
    Orderly ⟨life, registry, shares, f.nextSerial⟩ where
  toTidy := ho.toTidy.fewer life hkeys hregistry
  owned := howned

theorem Changes.orderly (hc : Changes f f') (ho : f.Orderly) : f'.Orderly := by
  have hsame : ∀ r, f.registry = some r → r.entries = [] ∨
      ∃ r', f.registry = some r' ∧ r.entries.Sublist r'.entries :=
    fun r hr => .inr ⟨r, hr, List.Sublist.refl _⟩
  cases hc with
  | turn life => exact ho.fewer life (List.Sublist.refl _) ho.owned hsame
  | opened =>
    refine ho.fewer f.lifecycle (List.Sublist.refl _) ho.owned fun r hr => .inl ?_
    cases hr
    rfl
  | closed =>
    refine ho.fewer f.lifecycle (List.Sublist.refl _) ho.owned fun r hr => ?_
    cases hr
  | shared hs howners =>
    refine ho.fewer f.lifecycle Shares.keys_set_sublist (fun e he => ?_) hsame
    obtain ⟨e', he', rfl⟩ := List.mem_map.mp he
    split
    next => exact howners
    next => exact ho.owned e' he'
  | ended hs =>
    refine ho.fewer f.lifecycle Shares.keys_erase_sublist (fun e he => ?_) hsame
    exact ho.owned e (List.mem_filter.mp he).1
  | inserted hr b =>
    refine ⟨ho.toTidy.insert hr b, fun e he => ?_⟩
    rcases List.mem_append.mp he with he | he
    · exact ho.owned e he
    · cases List.mem_singleton.mp he
      exact Nat.le_refl 1
  | removed hr id =>
    refine ho.fewer f.lifecycle (List.Sublist.refl _) ho.owned fun r' hr' => .inr ⟨_, hr, ?_⟩
    cases hr'
    exact List.filter_sublist

end Shelf

/-! ## What the bridge does to the shelf -/

/-- The shelf went through a series of changes. -/
def Shelved : Conduct σ := fun _ h h' => Relation.ReflTransGen Shelf.Changes h.shelf h'.shelf

namespace Shelved

variable {n : Int}

theorem of_eq (hs : h'.shelf = h.shelf) : Shelved n h h' := by
  unfold Shelved
  rw [hs]

theorem of_change (hs : Shelf.Changes h.shelf h'.shelf) : Shelved n h h' :=
  Relation.ReflTransGen.single hs

end Shelved

theorem shelved_composes : (Shelved : Conduct σ).Composes where
  refl _ := Relation.ReflTransGen.refl
  trans hm hn := Relation.ReflTransGen.trans hm hn

theorem act_shelved (f : σ → Effect σ α) : (Bridge.act f).Obeys Shelved fun _ => 0 :=
  fun h a h' hr => Shelved.of_eq (act_fixed Standing.shelf f h a h' hr)

theorem shelved_inert (G : Guest σ) : (Shelved : Conduct σ).Inert G where
  toComposes := shelved_composes
  count _ _ := Shelved.of_eq rfl
  record _ _ := Shelved.of_eq rfl
  retain _ _ := Shelved.of_eq rfl
  release _ := act_shelved _
  leave _ _ := Shelved.of_eq rfl
  act _ := act_shelved _

/-- Every operation changes the shelf step by step. -/
theorem shelved_clerical (G : Guest σ) : (Shelved : Conduct σ).Clerical G where
  toLawful := (shelved_inert G).lawful
  write hf h := by
    refine Shelved.of_eq ?_
    rw [hf h]
    rfl
  share hs howners := Shelved.of_change (.shared _ hs howners)
  unshare hs := Shelved.of_change (.ended _ hs)
  releaseKept _ _ := act_shelved _
  insert hr b := Shelved.of_change (.inserted _ hr b)
  remove hr id := Shelved.of_change (.removed _ hr id)
  close h := Shelved.of_change (.closed h.shelf)
  begin thread h := by
    have turned := Shelf.Changes.turn h.shelf ⟨.running, h.lifecycle.generation + 1, some thread⟩
    exact (Relation.ReflTransGen.single turned).tail (.opened _)
  move f h := Shelved.of_change (.turn h.shelf (f h.lifecycle))
  boot _ _ := Shelved.of_eq rfl
  shutdown := act_shelved _

/-! ## Whole runs -/

namespace Process

variable {p p' : Process σ}

theorem step_shelved {s : Step σ} (hs : p.step G s = .ok p') : Shelved 0 p.host p'.host := by
  cases s with
  | perform op =>
    obtain ⟨events, hop, -⟩ := step_perform_ok hs
    exact Operation.perform_obeys (shelved_clerical G) op p.caller _ _ _ hop
  | interface thread call =>
    obtain ⟨v, hcall, -⟩ := step_interface_ok hs
    exact call.perform_obeys (shelved_clerical G) thread _ _ _ hcall
  | outside f =>
    cases hs
    exact Shelved.of_eq rfl

theorem step_orderly {s : Step σ} (hp : p.host.shelf.Orderly) (hs : p.step G s = .ok p') :
    p'.host.shelf.Orderly :=
  Shelf.Changes.preserves Shelf.Changes.orderly (step_shelved hs) hp

theorem run_orderly {steps : List (Step σ)} (hp : p.host.shelf.Orderly)
    (hr : p.run G steps = .ok p') : p'.host.shelf.Orderly :=
  run_preserves (P := fun q => q.host.shelf.Orderly) step_orderly hp hr

theorem fresh_orderly (world : σ) : (fresh world).host.shelf.Orderly :=
  Shelf.orderly_fresh _

end Process

end Embedder
