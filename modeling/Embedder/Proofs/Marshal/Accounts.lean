import Embedder.Proofs.Marshal.Objects
import Mathlib.Data.List.Nodup

/-!
# Accounts of references

The references to an object are those that the objects have and those that the host has. If all of
them are accounted for (`Store.Accounted`), what has a reference is there, and no count is too low.
To release references of the host keeps the accounts (`Store.Accounted.releases`), so nothing ends
that a living object or the host still refers to.
-/

namespace Embedder.Store

open Function (update update_self update_of_ne)

variable {S S' : Store} {o p : Obj} {os ps host dom : List Obj} {c : Content} {n : Nat}

/-- The objects that an object has references to, as far as it tells. -/
def refsOf (S : Store) (o : Obj) : List Obj := ((S o).bind fun d => d.content.holds).getD []

/-- The references of the host and of some objects. -/
def references (S : Store) (dom host : List Obj) : List Obj := host ++ dom.flatMap S.refsOf

/-- All references of the objects in `dom`, among them all that there are, and of the host lead to
objects that are there, with counts that have room for them. -/
structure AccountedIn (S : Store) (dom host : List Obj) : Prop where
  nodup : dom.Nodup
  all : ∀ o d, S o = some d → o ∈ dom
  there : ∀ o ∈ S.references dom host, ∃ d, S o = some d
  counted : ∀ o c n, S o = some ⟨c, some n⟩ → (S.references dom host).count o ≤ n + 1

/-- The references that there are are accounted for. -/
def Accounted (S : Store) (host : List Obj) : Prop := ∃ dom, S.AccountedIn dom host

theorem refsOf_of_some {s : Option Nat} (ho : S o = some ⟨c, s⟩) (hc : c.holds = some ps) :
    S.refsOf o = ps := by
  unfold refsOf
  rw [ho, Option.bind_some, hc, Option.getD_some]

theorem refsOf_update_of_ne {d : Option Counted} (hne : p ≠ o) :
    refsOf (update S o d) p = S.refsOf p := by
  unfold refsOf
  rw [update_of_ne hne]

/-- With an object go its references. -/
theorem flatMap_refsOf_perm (hdom : dom.Nodup) (ho : o ∈ dom) :
    (dom.flatMap S.refsOf).Perm (S.refsOf o ++ dom.flatMap (refsOf (update S o none))) := by
  induction dom with
  | nil => cases ho
  | cons p dom ih =>
    obtain ⟨hp, hdom⟩ := List.nodup_cons.mp hdom
    rw [List.flatMap_cons, List.flatMap_cons]
    by_cases hpo : p = o
    · subst hpo
      have hgone : refsOf (update S p none) p = [] := by
        unfold refsOf
        rw [update_self]
        rfl
      have hrest : dom.flatMap (refsOf (update S p none)) = dom.flatMap S.refsOf := by
        refine List.flatMap_congr fun q hq => refsOf_update_of_ne ?_
        rintro rfl
        exact hp hq
      rw [hgone, hrest, List.nil_append]
    · have hmem : o ∈ dom := (List.mem_cons.mp ho).resolve_left (Ne.symm hpo)
      rw [refsOf_update_of_ne hpo]
      refine ((ih hdom hmem).append_left _).trans ?_
      rw [← List.append_assoc, ← List.append_assoc]
      exact List.perm_append_comm.append_right _

namespace AccountedIn

/-- The accounts have room for what the host does not have. -/
theorem of_cons (ha : S.AccountedIn dom (o :: host)) : S.AccountedIn dom host where
  nodup := ha.nodup
  all := ha.all
  there p hp := ha.there p (List.mem_cons_of_mem o hp)
  counted p d n hp := Nat.le_trans List.count_le_count_cons (ha.counted p d n hp)

/-- The host gives up a reference, and the count goes down. -/
theorem shared (ha : S.AccountedIn dom (o :: host)) (ho : S o = some ⟨c, some (n + 1)⟩) :
    AccountedIn (update S o (some ⟨c, some n⟩)) dom host := by
  have hrefs : refsOf (update S o (some ⟨c, some n⟩)) = S.refsOf := by
    funext p
    by_cases hpo : p = o
    · subst hpo
      unfold refsOf
      rw [update_self, ho]
      rfl
    · exact refsOf_update_of_ne hpo
  have hall : references (update S o (some ⟨c, some n⟩)) dom host = S.references dom host := by
    unfold references
    rw [hrefs]
  constructor
  case nodup => exact ha.nodup
  case all =>
    intro p d hp
    by_cases hpo : p = o
    · subst hpo
      exact ha.all p _ ho
    · rw [update_of_ne hpo] at hp
      exact ha.all p d hp
  case there =>
    intro p hp
    rw [hall] at hp
    by_cases hpo : p = o
    · subst hpo
      exact ⟨_, update_self ..⟩
    · obtain ⟨d, hd⟩ := ha.there p (List.mem_cons_of_mem o hp)
      exact ⟨d, (update_of_ne hpo ..).trans hd⟩
  case counted =>
    intro p d m hp
    rw [hall]
    by_cases hpo : p = o
    · subst hpo
      rw [update_self] at hp
      cases hp
      have hcount := ha.counted p c (n + 1) ho
      change (p :: S.references dom host).count p ≤ _ at hcount
      rw [List.count_cons_self] at hcount
      omega
    · rw [update_of_ne hpo] at hp
      exact Nat.le_trans List.count_le_count_cons (ha.counted p d m hp)

/-- The host gives up the last reference, and has those of the object instead. -/
theorem last (ha : S.AccountedIn dom (o :: host)) (ho : S o = some ⟨c, some 0⟩)
    (hc : c.holds = some ps) : AccountedIn (update S o none) dom (ps ++ host) := by
  have hperm : (S.references dom host).Perm (references (update S o none) dom (ps ++ host)) := by
    have hflat := flatMap_refsOf_perm (S := S) ha.nodup (ha.all o _ ho)
    rw [refsOf_of_some ho hc] at hflat
    unfold references
    refine (hflat.append_left host).trans ?_
    rw [← List.append_assoc]
    exact List.perm_append_comm.append_right _
  -- the reference that goes is the only one, so what is left leads to other objects
  have hother : ∀ p ∈ S.references dom host, p ≠ o := by
    rintro p hp rfl
    have hcount := ha.counted p c 0 ho
    change (p :: S.references dom host).count p ≤ _ at hcount
    rw [List.count_cons_self] at hcount
    have hpos := List.count_pos_iff.mpr hp
    omega
  constructor
  case nodup => exact ha.nodup
  case all =>
    intro p d hp
    by_cases hpo : p = o
    · subst hpo
      exact ha.all p _ ho
    · rw [update_of_ne hpo] at hp
      exact ha.all p d hp
  case there =>
    intro p hp
    have hmem := hperm.mem_iff.mpr hp
    obtain ⟨d, hd⟩ := ha.there p (List.mem_cons_of_mem o hmem)
    exact ⟨d, (update_of_ne (hother p hmem) ..).trans hd⟩
  case counted =>
    intro p d m hp
    by_cases hpo : p = o
    · subst hpo
      rw [update_self] at hp
      cases hp
    · rw [update_of_ne hpo] at hp
      rw [← hperm.count_eq]
      exact Nat.le_trans List.count_le_count_cons (ha.counted p d m hp)

/-- Releases of references that the host has. -/
theorem releases (hr : S.Releases os S') (ha : S.AccountedIn dom (os ++ host)) :
    S'.AccountedIn dom host := by
  induction hr with
  | done => exact ha
  | lasting _ _ ih => exact ih ha.of_cons
  | shared ho _ ih => exact ih (ha.shared ho)
  | last ho hc _ ih =>
    refine ih ?_
    rw [List.append_assoc]
    exact ha.last ho hc

/-- Accounts that are checked object by object. -/
theorem of_forall (hdom : dom.Nodup) (hall : ∀ o d, S o = some d → o ∈ dom)
    (hthere : ∀ o ∈ S.references dom host, (S o).isSome)
    (hcounted : ∀ o ∈ dom, ((S o).bind Counted.spare).all
      fun n => (S.references dom host).count o ≤ n + 1) : S.AccountedIn dom host where
  nodup := hdom
  all := hall
  there o ho := Option.isSome_iff_exists.mp (hthere o ho)
  counted o c n ho := by
    have hcount := hcounted o (hall o _ ho)
    rw [ho] at hcount
    simpa using hcount

end AccountedIn

namespace Accounted

theorem releases (ha : S.Accounted (os ++ host)) (hr : S.Releases os S') : S'.Accounted host :=
  ha.imp fun _ hdom => hdom.releases hr

/-- What the host has a reference to is there. -/
theorem there (ha : S.Accounted host) (ho : o ∈ host) : ∃ d, S o = some d := by
  obtain ⟨dom, hdom⟩ := ha
  exact hdom.there o (List.mem_append_left _ ho)

/-- What an object has a reference to is there. -/
theorem there_of_holds {s : Option Nat} (ha : S.Accounted host) (ho : S o = some ⟨c, s⟩)
    (hc : c.holds = some ps) (hp : p ∈ ps) : ∃ d, S p = some d := by
  obtain ⟨dom, hdom⟩ := ha
  refine hdom.there p (List.mem_append_right _ (List.mem_flatMap.mpr ⟨o, hdom.all o _ ho, ?_⟩))
  rwa [refsOf_of_some ho hc]

/-- A reference to an object that another one keeps can be released. -/
theorem exists_releases {m : Obj} {s : Option Nat} (ha : S.Accounted (o :: host))
    (hm : S m = some ⟨c, s⟩) (hc : c.holds = some ps) (hp : o ∈ ps) :
    ∃ S', S.Releases [o] S' := by
  obtain ⟨dom, hdom⟩ := ha
  have hheld : o ∈ dom.flatMap S.refsOf := by
    refine List.mem_flatMap.mpr ⟨m, hdom.all m _ hm, ?_⟩
    rwa [refsOf_of_some hm hc]
  obtain ⟨⟨b, t⟩, ho⟩ := hdom.there o List.mem_cons_self
  rcases t with _ | _ | n
  · exact ⟨S, .lasting ho (.done S)⟩
  · -- there are two references, and one that is counted
    have hcount := hdom.counted o b 0 ho
    change (o :: (host ++ dom.flatMap S.refsOf)).count o ≤ _ at hcount
    rw [List.count_cons_self, List.count_append] at hcount
    have hpos := List.count_pos_iff.mpr hheld
    omega
  · exact ⟨_, .shared ho (.done _)⟩

/-- What the host has a reference to stays what it is, and keeps what it has. -/
theorem kept {m : Obj} {s : Option Nat} (ha : S.Accounted (os ++ host)) (hr : S.Releases os S')
    (hmem : m ∈ host) (hm : S m = some ⟨c, s⟩) (hc : c.holds = some ps) (hp : p ∈ ps) :
    (∃ s', S' m = some ⟨c, s'⟩) ∧ ∃ d, S' p = some d := by
  have ha' := ha.releases hr
  obtain ⟨⟨b, s'⟩, hm'⟩ := ha'.there hmem
  obtain ⟨t, ht, -⟩ := hr.origin hm'
  rw [hm] at ht
  cases ht
  exact ⟨⟨s', hm'⟩, ha'.there_of_holds hm' hc hp⟩

end Accounted

end Embedder.Store
