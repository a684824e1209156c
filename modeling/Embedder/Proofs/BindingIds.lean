import Embedder.Proofs.Lifecycle
import Embedder.Proofs.Willing
import Mathlib.Data.List.Nodup

/-!
# The ids of bindings, over whole runs

Ids count up from one in each generation, so an id is handed out at most once by each generation,
but again by the next one: a host that keeps an id across a restart may find another function under
it (`id_comes_back`). What holds is that an id together with its generation is handed out once, and
that an id denotes a binding exactly if the current generation handed it out and did not take it
back (`IdInv.alive_iff`). An id that was invalidated stays dead until a later generation hands it
out anew.
-/

namespace Embedder

open Scenario

variable {σ α : Type} {G : Guest σ} {h h' : Host σ} {thread : ThreadId} {id : Int}

/-! ## The history of ids -/

/-- The id that an event hands out, with its generation. -/
def Event.issued? : Event → Option (Nat × Int)
  | .issued generation id => some (generation, id)
  | _ => none

/-- The id that an event takes back, with its generation. -/
def Event.revoked? : Event → Option (Nat × Int)
  | .revoked generation id => some (generation, id)
  | _ => none

/-- The ids that were handed out, each with its generation. -/
def issuedIn (history : List Event) : List (Nat × Int) := history.filterMap Event.issued?

/-- The ids that were taken back, each with its generation. -/
def revokedIn (history : List Event) : List (Nat × Int) := history.filterMap Event.revoked?

theorem issuedIn_append (xs ys : List Event) :
    issuedIn (xs ++ ys) = issuedIn xs ++ issuedIn ys := List.filterMap_append

theorem revokedIn_append (xs ys : List Event) :
    revokedIn (xs ++ ys) = revokedIn xs ++ revokedIn ys := List.filterMap_append

theorem issuedIn_of_none {events : List Event} (history : List Event)
    (hnone : issuedIn events = []) : issuedIn (history ++ events) = issuedIn history := by
  rw [issuedIn_append, hnone, List.append_nil]

theorem revokedIn_of_none {events : List Event} (history : List Event)
    (hnone : revokedIn events = []) : revokedIn (history ++ events) = revokedIn history := by
  rw [revokedIn_append, hnone, List.append_nil]

theorem mem_issuedIn_issued {history : List Event} {g : Nat} {a : Nat × Int} :
    a ∈ issuedIn (history ++ [.issued g id]) ↔ a ∈ issuedIn history ∨ a = (g, id) := by
  rw [issuedIn_append, List.mem_append]
  exact or_congr Iff.rfl List.mem_singleton

theorem mem_revokedIn_revoked {history : List Event} {g : Nat} {a : Nat × Int} :
    a ∈ revokedIn (history ++ [.revoked g id]) ↔ a ∈ revokedIn history ∨ a = (g, id) := by
  rw [revokedIn_append, List.mem_append]
  exact or_congr Iff.rfl List.mem_singleton

namespace Registry

variable {r : Registry}

/-- Whether the registry has a binding under an id. -/
def Has (r : Registry) (id : Int) : Prop := id ∈ r.entries.map Prod.fst

theorem has_iff_lookup : r.Has id ↔ ∃ t, r.entries.lookup id = some t := by
  rw [← Option.isSome_iff_exists, List.lookup_isSome_iff, Has, List.mem_map]
  constructor
  · rintro ⟨e, he, rfl⟩
    exact ⟨e, he, by simp⟩
  · rintro ⟨e, he, heq⟩
    exact ⟨e, he, by simpa using (eq_of_beq heq).symm⟩

theorem has_append {entries : List (Int × Ticket)} {t : Ticket} {next n i : Int} :
    (⟨entries ++ [(next, t)], n⟩ : Registry).Has i ↔ (⟨entries, n⟩ : Registry).Has i ∨ i = next := by
  unfold Has
  rw [List.map_append, List.mem_append]
  exact or_congr Iff.rfl List.mem_singleton

theorem has_filter {entries : List (Int × Ticket)} {n i : Int} :
    (⟨entries.filter fun e => e.1 ≠ id, n⟩ : Registry).Has i ↔
      (⟨entries, n⟩ : Registry).Has i ∧ i ≠ id := by
  unfold Has
  simp only [List.mem_map, List.mem_filter, decide_eq_true_eq]
  constructor
  · rintro ⟨e, ⟨he, hne⟩, rfl⟩
    exact ⟨⟨e, he, rfl⟩, hne⟩
  · rintro ⟨⟨e, he, rfl⟩, hne⟩
    exact ⟨e, ⟨he, hne⟩, rfl⟩

end Registry

/-! ## The invariant -/

/-- The history tells what ids the registry has. -/
structure IdInv (s : Station) (history : List Event) : Prop where
  /-- No generation is ahead of the current one. -/
  past : ∀ a ∈ issuedIn history, a.1 ≤ s.lifecycle.generation
  once : (issuedIn history).Nodup
  /-- Every generation that handed out an id began with one. -/
  first : ∀ a ∈ issuedIn history, (a.1, 1) ∈ issuedIn history
  known : ∀ a ∈ revokedIn history, a ∈ issuedIn history
  /-- The current generation handed out the ids below the next one. -/
  next : ∀ r, s.registry = some r → 1 ≤ r.nextId ∧
    ∀ i, (s.lifecycle.generation, i) ∈ issuedIn history ↔ 1 ≤ i ∧ i < r.nextId
  /-- The registry has what it handed out and did not take back. -/
  entries : ∀ r, s.registry = some r → ∀ i, r.Has i ↔
    (s.lifecycle.generation, i) ∈ issuedIn history ∧ (s.lifecycle.generation, i) ∉ revokedIn history

theorem idInv_fresh (world : σ) : IdInv (Host.fresh world).station [] where
  past := by simp [issuedIn]
  once := List.nodup_nil
  first := by simp [issuedIn]
  known := by simp [revokedIn]
  next := by simp [Host.station, Host.standing, Standing.station, Host.fresh]
  entries := by simp [Host.station, Host.standing, Standing.station, Host.fresh]

/-- The same station and no news of ids. -/
theorem IdInv.of_same_ids {s : Station} {history events : List Event} (hi : IdInv s history)
    (hissued : issuedIn events = []) (hrevoked : revokedIn events = []) :
    IdInv s (history ++ events) := by
  have hsame := issuedIn_of_none history hissued
  have hback := revokedIn_of_none history hrevoked
  constructor
  case past =>
    rw [hsame]
    exact hi.past
  case once =>
    rw [hsame]
    exact hi.once
  case first =>
    rw [hsame]
    exact hi.first
  case known =>
    rw [hsame, hback]
    exact hi.known
  case next =>
    rw [hsame]
    exact hi.next
  case entries =>
    rw [hsame, hback]
    exact hi.entries

/-- A station with another registry, or none, and no news of ids. -/
theorem IdInv.of_no_ids {s s' : Station} {history events : List Event} (hi : IdInv s history)
    (hissued : issuedIn events = []) (hrevoked : revokedIn events = [])
    (hgen : s.lifecycle.generation ≤ s'.lifecycle.generation)
    (hregistry : ∀ r, s'.registry = some r →
      r = Registry.empty ∧ s.lifecycle.generation < s'.lifecycle.generation) :
    IdInv s' (history ++ events) := by
  -- a registry that was not there belongs to a generation that has handed out nothing yet
  have hnew : ∀ {r}, s'.registry = some r → ∀ i,
      (s'.lifecycle.generation, i) ∉ issuedIn history := by
    intro r hr i hmem
    have hle := hi.past _ hmem
    have hlt := (hregistry r hr).2
    exact absurd hle (by omega)
  constructor
  case past =>
    rw [issuedIn_of_none history hissued]
    exact fun a ha => Nat.le_trans (hi.past a ha) hgen
  case once =>
    rw [issuedIn_of_none history hissued]
    exact hi.once
  case first =>
    rw [issuedIn_of_none history hissued]
    exact hi.first
  case known =>
    rw [issuedIn_of_none history hissued, revokedIn_of_none history hrevoked]
    exact hi.known
  case next =>
    intro r hr
    rw [issuedIn_of_none history hissued, (hregistry r hr).1]
    refine ⟨Int.le_refl 1, fun i => ⟨fun hmem => absurd hmem (hnew hr i), fun hbound => ?_⟩⟩
    have hempty : Registry.empty.nextId = 1 := rfl
    omega
  case entries =>
    intro r hr i
    rw [issuedIn_of_none history hissued, (hregistry r hr).1]
    refine ⟨fun hhas => ?_, fun hmem => absurd hmem.1 (hnew hr i)⟩
    cases hhas

theorem IdInv.issue {s : Station} {history : List Event} {r : Registry} (hi : IdInv s history)
    (hr : s.registry = some r) (t : Ticket) :
    IdInv ⟨s.lifecycle, some ⟨r.entries ++ [(r.nextId, t)], r.nextId + 1⟩⟩
      (history ++ [.issued s.lifecycle.generation r.nextId]) := by
  obtain ⟨hone, hnext⟩ := hi.next r hr
  have hentries := hi.entries r hr
  -- the next id is beyond all that the current generation handed out
  have hfresh : (s.lifecycle.generation, r.nextId) ∉ issuedIn history := by
    intro hmem
    have hlt := ((hnext _).mp hmem).2
    omega
  have hrevoked : revokedIn (history ++ [.issued s.lifecycle.generation r.nextId]) =
      revokedIn history := revokedIn_of_none history rfl
  constructor
  case past =>
    intro a ha
    rcases mem_issuedIn_issued.mp ha with ha | rfl
    · exact hi.past a ha
    · exact Nat.le_refl _
  case once =>
    rw [issuedIn_append]
    refine List.nodup_append.mpr ⟨hi.once, List.nodup_cons.mpr ⟨List.not_mem_nil, List.nodup_nil⟩, ?_⟩
    rintro a ha b hb rfl
    rw [List.mem_singleton.mp hb] at ha
    exact hfresh ha
  case first =>
    intro a ha
    rw [mem_issuedIn_issued]
    rcases mem_issuedIn_issued.mp ha with ha | rfl
    · exact .inl (hi.first a ha)
    -- the first id of a generation is one; later ones find it handed out
    · by_cases hbegin : r.nextId = 1
      · right
        rw [hbegin]
      · left
        exact (hnext 1).mpr ⟨Int.le_refl 1, by omega⟩
  case known =>
    intro a ha
    rw [hrevoked] at ha
    exact mem_issuedIn_issued.mpr (.inl (hi.known a ha))
  case next =>
    rintro r' hr'
    cases hr'
    refine ⟨by show 1 ≤ r.nextId + 1; omega, fun i => ?_⟩
    rw [mem_issuedIn_issued, hnext i]
    show _ ↔ 1 ≤ i ∧ i < r.nextId + 1
    constructor
    · rintro (hmem | heq)
      · omega
      · cases heq
        omega
    · intro hbound
      by_cases hlast : i = r.nextId
      · exact .inr (by rw [hlast])
      · exact .inl (by omega)
  case entries =>
    rintro r' hr' i
    cases hr'
    rw [Registry.has_append, hrevoked, mem_issuedIn_issued]
    have hhas : (⟨r.entries, r.nextId + 1⟩ : Registry).Has i ↔ r.Has i := Iff.rfl
    rw [hhas, hentries i]
    constructor
    · rintro (⟨hmem, hnot⟩ | rfl)
      · exact ⟨.inl hmem, hnot⟩
      · exact ⟨.inr rfl, fun hrev => hfresh (hi.known _ hrev)⟩
    · rintro ⟨hmem | heq, hnot⟩
      · exact .inl ⟨hmem, hnot⟩
      · cases heq
        exact .inr rfl

theorem IdInv.revoke {s : Station} {history : List Event} {r : Registry} (hi : IdInv s history)
    (hr : s.registry = some r) (hid : r.Has id) :
    IdInv ⟨s.lifecycle, some ⟨r.entries.filter fun e => e.1 ≠ id, r.nextId⟩⟩
      (history ++ [.revoked s.lifecycle.generation id]) := by
  have hentries := hi.entries r hr
  have hissued : issuedIn (history ++ [.revoked s.lifecycle.generation id]) =
      issuedIn history := issuedIn_of_none history rfl
  constructor
  case past =>
    rw [hissued]
    exact hi.past
  case once =>
    rw [hissued]
    exact hi.once
  case first =>
    rw [hissued]
    exact hi.first
  case known =>
    intro a ha
    rw [hissued]
    rcases mem_revokedIn_revoked.mp ha with ha | rfl
    · exact hi.known a ha
    · exact ((hentries id).mp hid).1
  case next =>
    rintro r' hr'
    cases hr'
    rw [hissued]
    exact hi.next r hr
  case entries =>
    rintro r' hr' i
    cases hr'
    -- the id is gone from the entries and joins those that were taken back
    rw [Registry.has_filter, hissued, mem_revokedIn_revoked]
    have hhas : (⟨r.entries, r.nextId⟩ : Registry).Has i ↔ r.Has i := Iff.rfl
    rw [hhas, hentries i]
    constructor
    · rintro ⟨⟨hmem, hnot⟩, hne⟩
      refine ⟨hmem, ?_⟩
      rintro (hrev | heq)
      · exact hnot hrev
      · cases heq
        exact hne rfl
    · rintro ⟨hmem, hnot⟩
      refine ⟨⟨hmem, fun hrev => hnot (.inl hrev)⟩, ?_⟩
      rintro rfl
      exact hnot (.inr rfl)

/-- Each of the six moves keeps the invariant. -/
theorem Moves.idInv {s s' : Station} {events history : List Event} (hm : Moves s events s')
    (hi : IdInv s history) : IdInv s' (history ++ events) := by
  cases hm with
  | stay => exact hi.of_same_ids rfl rfl
  | start hs thread =>
    refine hi.of_no_ids rfl rfl (Nat.le_succ _) ?_
    rintro r hr
    cases hr
    exact ⟨rfl, Nat.lt_succ_self _⟩
  | stop hs =>
    refine hi.of_no_ids rfl rfl (Nat.le_refl _) ?_
    rintro r hr
    cases hr
  | bind k => exact hi.of_same_ids rfl rfl
  | issue hr t => exact hi.issue hr t
  | revoke hr hid => exact hi.revoke hr (Registry.has_iff_lookup.mpr ⟨_, hid⟩)

/-! ## What an id denotes -/

/-- The id denotes a binding: the running generation handed it out and did not take it back. -/
def Process.Denotes (p : Process σ) (id : Int) : Prop :=
  p.host.lifecycle.stage = .running ∧
  (p.host.lifecycle.generation, id) ∈ issuedIn p.history ∧
  (p.host.lifecycle.generation, id) ∉ revokedIn p.history

/-- Both invariants of a process that began fresh. -/
structure Process.Sound (p : Process σ) : Prop where
  lifecycle : LifecycleInv p.host.station p.history
  ids : IdInv p.host.station p.history

namespace Process

variable {p p' : Process σ}

theorem step_sound {s : Step σ} (hp : p.Sound) (hs : p.step G s = .ok p') : p'.Sound := by
  obtain ⟨events, hhistory, hmoves⟩ := step_moves hs
  refine ⟨step_lifecycleInv hs hp.lifecycle, ?_⟩
  rw [hhistory]
  exact hmoves.idInv hp.ids

theorem run_sound {steps : List (Step σ)} (hp : p.Sound) (hr : p.run G steps = .ok p') :
    p'.Sound :=
  run_preserves (P := Sound) step_sound hp hr

theorem fresh_sound (world : σ) : (fresh world).Sound :=
  ⟨lifecycleInv_fresh world, idInv_fresh world⟩

/-- An id denotes a binding exactly if the registry has one under it. -/
theorem denotes_iff (hp : p.Sound) :
    p.Denotes id ↔ ∃ r, p.host.registry = some r ∧ r.Has id := by
  constructor
  · rintro ⟨hrunning, hissued, hkept⟩
    obtain ⟨r, hr⟩ := Option.isSome_iff_exists.mp (hp.lifecycle.registry.mp hrunning)
    exact ⟨r, hr, (hp.ids.entries r hr id).mpr ⟨hissued, hkept⟩⟩
  · rintro ⟨r, hr, hhas⟩
    have hrunning := hp.lifecycle.registry.mpr (by rw [show p.host.station.registry = some r from hr]; rfl)
    exact ⟨hrunning, (hp.ids.entries r hr id).mp hhas⟩

end Process

/-- The operation fails because the id denotes nothing, and changes nothing. -/
def Refused (x : Attempt σ Failure α) (h : Host σ) (id : Int) : Prop :=
  ∃ f, x.run.run h = .ok (.error f, h) ∧ (f = .notRunning ∨ f = .invalidBinding id)

namespace Registry

theorem lookup_of_not_has {r : Registry} (hid : ¬r.Has id) : r.entries.lookup id = none := by
  cases hl : r.entries.lookup id with
  | none => rfl
  | some t => exact absurd (has_iff_lookup.mpr ⟨t, hl⟩) hid

theorem find_refused (hid : ∀ r, h.registry = some r → ¬r.Has id) : Refused (find id) h id := by
  cases hr : h.registry with
  | none => exact ⟨_, whileOpen_run_of_closed hr, .inl rfl⟩
  | some r => exact ⟨_, find_run_of_unknown hr (lookup_of_not_has (hid r hr)), .inr rfl⟩

theorem remove_refused (hid : ∀ r, h.registry = some r → ¬r.Has id) :
    Refused (remove id) h id := by
  cases hr : h.registry with
  | none => exact ⟨_, whileOpen_run_of_closed hr, .inl rfl⟩
  | some r => exact ⟨_, remove_run_of_unknown hr (lookup_of_not_has (hid r hr)), .inr rfl⟩

theorem clone_returns (t : Ticket) : (t.clone : Bridge σ Ticket).Returns := by
  unfold Ticket.clone
  refine Bridge.Returns.get fun s => ?_
  dsimp only
  cases s.shares.lookup t.serial with
  | some share => exact (Bridge.Returns.modify _).bind fun _ => Bridge.Returns.pure t
  | none => exact Bridge.Returns.pure t

/-- A binding that is there is found. -/
theorem find_succeeds {r : Registry} (hr : h.registry = some r) (hid : r.Has id) :
    ∃ t h', (find id).run.run h = .ok (.ok t, h') := by
  obtain ⟨t, ht⟩ := has_iff_lookup.mp hid
  obtain ⟨t', h', hclone⟩ := clone_returns t h
  refine ⟨t', h', ?_⟩
  unfold find
  rw [whileOpen_run_of_open hr, ht]
  exact Attempt.run_lift hclone

/-- A binding that is there can be taken out. -/
theorem remove_succeeds {r : Registry} (hr : h.registry = some r) (hid : r.Has id) :
    ∃ t h', (remove id).run.run h = .ok (.ok t, h') := by
  obtain ⟨t, ht⟩ := has_iff_lookup.mp hid
  exact ⟨t, _, remove_run_of_known hr ht⟩

end Registry

/-- The call fails for such a cause, and changes nothing but the last error of its thread. -/
def RefusedCall (x : Bridge σ (CInterface.Answer α)) (thread : ThreadId) (h : Host σ)
    (cause : Failure → Prop) : Prop :=
  ∃ f, cause f ∧ x.run h = .ok (⟨f.code, none⟩,
    { h with lastErrors := (h.lastErrors.clear thread).set thread f.detailed })

namespace CInterface

/-- A call that fails changes the last error of its thread. -/
theorem answer_run_of_error {body : Attempt σ Failure α} {f : Failure}
    (hbody : body.run.run { h with lastErrors := h.lastErrors.clear thread } =
      .ok (.error f, { h with lastErrors := h.lastErrors.clear thread })) :
    (answer thread body).run h = .ok (⟨f.code, none⟩,
      { h with lastErrors := (h.lastErrors.clear thread).set thread f.detailed }) := by
  unfold answer
  rw [Bridge.run_modify_bind, Bridge.run_bind hbody]
  rfl

/-- A call whose id is refused fails, at its arguments or at the id. -/
theorem callBound_refused_of {f : Failure} {k : Host σ}
    (hk : k = { h with lastErrors := h.lastErrors.clear thread })
    (hfind : (Registry.find id).run.run k = .ok (.error f, k)) (values : ValuesArg)
    (output : OutputArg) :
    RefusedCall (callBound G thread id values output) thread h fun g =>
      g = f ∨ argValues values = .error g ∨ argOutput output = .error g := by
  subst hk
  cases hv : argValues values with
  | error g => exact ⟨g, .inr (.inl rfl), answer_run_of_error (check_bind_of_error hv)⟩
  | ok xs =>
    cases ho : argOutput output with
    | error g =>
      refine ⟨g, .inr (.inr rfl), answer_run_of_error ?_⟩
      rw [check_bind_of_ok hv, check_bind_of_error ho]
    | ok u =>
      refine ⟨f, .inl rfl, answer_run_of_error ?_⟩
      rw [check_bind_of_ok hv, check_bind_of_ok ho, Attempt.run_bind_of_error hfind]

/-- A call with an id that denotes nothing fails, at its arguments or at the id. -/
theorem callBound_refused (hid : ∀ r, h.registry = some r → ¬r.Has id) (values : ValuesArg)
    (output : OutputArg) :
    RefusedCall (callBound G thread id values output) thread h fun f =>
      f = .notRunning ∨ f = .invalidBinding id ∨ argValues values = .error f ∨
      argOutput output = .error f := by
  obtain ⟨f, hfind, hcause⟩ := Registry.find_refused
    (h := { h with lastErrors := h.lastErrors.clear thread }) hid
  obtain ⟨g, hg, hrun⟩ := callBound_refused_of rfl hfind values output
  refine ⟨g, ?_, hrun⟩
  rcases hg with rfl | hg
  · exact hcause.imp_right Or.inl
  · exact .inr (.inr hg)

theorem unbind_refused (hid : ∀ r, h.registry = some r → ¬r.Has id) :
    RefusedCall (unbind G thread id) thread h fun f => f = .notRunning ∨ f = .invalidBinding id := by
  obtain ⟨f, hremove, hcause⟩ := Registry.remove_refused
    (h := { h with lastErrors := h.lastErrors.clear thread }) hid
  exact ⟨f, hcause, answer_run_of_error (Attempt.run_bind_of_error hremove)⟩

end CInterface

/-! ## Ids over time -/

/-- Generations go up, and one that has ended does not run again. -/
structure Later (s s' : Station) : Prop where
  generation : s.lifecycle.generation ≤ s'.lifecycle.generation
  running : s'.lifecycle.generation = s.lifecycle.generation →
    s'.lifecycle.stage = .running → s.lifecycle.stage = .running

theorem Later.refl (s : Station) : Later s s := ⟨Nat.le_refl _, fun _ hrun => hrun⟩

theorem Later.trans {s₁ s₂ s₃ : Station} (h₁ : Later s₁ s₂) (h₂ : Later s₂ s₃) : Later s₁ s₃ := by
  refine ⟨Nat.le_trans h₁.generation h₂.generation, fun hgen hrun => ?_⟩
  have hle₁ := h₁.generation
  have hle₂ := h₂.generation
  exact h₁.running (by omega) (h₂.running (by omega) hrun)

theorem Moves.later {s s' : Station} {events : List Event} (hm : Moves s events s') :
    Later s s' := by
  cases hm with
  | stay => exact Later.refl s
  | start hs thread => exact ⟨Nat.le_succ _, fun hgen => absurd hgen (Nat.succ_ne_self _)⟩
  | stop hs => exact ⟨Nat.le_refl _, fun _ hrun => by cases hrun⟩
  | bind k => exact Later.refl s
  | issue hr t => exact ⟨Nat.le_refl _, fun _ hrun => hrun⟩
  | revoke hr hid => exact ⟨Nat.le_refl _, fun _ hrun => hrun⟩

namespace Process

variable {p p' : Process σ}

theorem step_later {s : Step σ} (hs : p.step G s = .ok p') :
    Later p.host.station p'.host.station ∧ ∃ events, p'.history = p.history ++ events := by
  obtain ⟨events, hhistory, hmoves⟩ := step_moves hs
  exact ⟨hmoves.later, events, hhistory⟩

theorem run_later {steps : List (Step σ)} (hr : p.run G steps = .ok p') :
    Later p.host.station p'.host.station ∧ ∃ events, p'.history = p.history ++ events := by
  refine run_preserves (P := fun q => Later p.host.station q.host.station ∧
    ∃ events, q.history = p.history ++ events) ?_ ⟨Later.refl _, [], (List.append_nil _).symm⟩ hr
  rintro s q q' ⟨hlater, events, hhistory⟩ hs
  obtain ⟨hlater', events', hhistory'⟩ := step_later hs
  refine ⟨hlater.trans hlater', events ++ events', ?_⟩
  rw [hhistory', hhistory, List.append_assoc]

/-- An id that denotes nothing denotes nothing until it is handed out anew. -/
theorem denotes_later (hp : p.Sound) {steps : List (Step σ)} (hr : p.run G steps = .ok p')
    (hdead : ¬p.Denotes id) (halive : p'.Denotes id) :
    (p'.host.lifecycle.generation, id) ∈ issuedIn p'.history ∧
    (p'.host.lifecycle.generation, id) ∉ issuedIn p.history := by
  obtain ⟨hrunning, hissued, hkept⟩ := halive
  refine ⟨hissued, fun hbefore => hdead ?_⟩
  obtain ⟨hlater, events, hhistory⟩ := run_later hr
  -- had the id been handed out before, the generation would be the same, and so the id alive
  have hpast : p'.host.lifecycle.generation ≤ p.host.lifecycle.generation :=
    hp.ids.past _ hbefore
  have hgen : p'.host.lifecycle.generation = p.host.lifecycle.generation :=
    Nat.le_antisymm hpast hlater.generation
  rw [hgen] at hbefore hkept
  refine ⟨hlater.running hgen hrunning, hbefore, fun hrevoked => hkept ?_⟩
  rw [hhistory, revokedIn_append]
  exact List.mem_append_left _ hrevoked

/-- If two generations handed out ids, both handed out one. -/
theorem ids_nodup_iff (hp : p.Sound) : ((issuedIn p.history).map Prod.snd).Nodup ↔
    ∀ a ∈ issuedIn p.history, ∀ b ∈ issuedIn p.history, a.1 = b.1 := by
  constructor
  · intro hnodup a ha b hb
    -- every generation that hands out an id hands out the first one
    have hone := List.inj_on_of_nodup_map hnodup (hp.ids.first a ha) (hp.ids.first b hb) rfl
    exact (Prod.mk.inj hone).1
  · intro hsame
    refine List.Nodup.map_on ?_ hp.ids.once
    rintro ⟨g, i⟩ ha ⟨g', i'⟩ hb heq
    have hgen : g = g' := hsame _ ha _ hb
    cases hgen
    cases heq
    rfl

/-- **What an id denotes, over whole runs.** An id and its generation are handed out once together,
and the ids alone are distinct exactly if one generation handed out all of them. An id denotes a
binding exactly if the running generation handed it out and did not take it back; any other id is
refused wherever it is used, and nothing changes. It stays so in whatever comes next until the id is
handed out anew, by a generation that had not handed it out before. -/
theorem id_laws (world : σ) (steps : List (Step σ)) :
    Ends ((fresh world).run G steps) fun p =>
      (issuedIn p.history).Nodup ∧
      (((issuedIn p.history).map Prod.snd).Nodup ↔
        ∀ a ∈ issuedIn p.history, ∀ b ∈ issuedIn p.history, a.1 = b.1) ∧
      (∀ id, p.Denotes id →
        (∃ t h', (Registry.find id).run.run p.host = .ok (.ok t, h')) ∧
        (∃ t h', (Registry.remove id).run.run p.host = .ok (.ok t, h'))) ∧
      (∀ id, ¬p.Denotes id →
        Refused (Registry.find id) p.host id ∧ Refused (Registry.remove id) p.host id ∧
        (∀ thread values output,
          RefusedCall (CInterface.callBound G thread id values output) thread p.host fun f =>
            f = .notRunning ∨ f = .invalidBinding id ∨ CInterface.argValues values = .error f ∨
            CInterface.argOutput output = .error f) ∧
        (∀ thread, RefusedCall (CInterface.unbind G thread id) thread p.host fun f =>
          f = .notRunning ∨ f = .invalidBinding id)) ∧
      (∀ id, ¬p.Denotes id → ∀ more : List (Step σ), Ends (p.run G more) fun p' =>
        p'.Denotes id → (p'.host.lifecycle.generation, id) ∈ issuedIn p'.history ∧
          (p'.host.lifecycle.generation, id) ∉ issuedIn p.history) := by
  intro p hr
  have hp : p.Sound := run_sound (fresh_sound world) hr
  refine ⟨hp.ids.once, ids_nodup_iff hp, fun id hid => ?_, fun id hid => ?_, fun id hid more p' hr' => ?_⟩
  · obtain ⟨r, hreg, hhas⟩ := (denotes_iff hp).mp hid
    exact ⟨Registry.find_succeeds hreg hhas, Registry.remove_succeeds hreg hhas⟩
  · have hnone : ∀ r, p.host.registry = some r → ¬r.Has id :=
      fun r hreg hhas => hid ((denotes_iff hp).mpr ⟨r, hreg, hhas⟩)
    exact ⟨Registry.find_refused hnone, Registry.remove_refused hnone,
      fun thread values output => CInterface.callBound_refused hnone values output,
      fun thread => CInterface.unbind_refused hnone⟩
  · exact fun halive => denotes_later hp hr' hid halive

/-- After a restart, the first id denotes another function than before. -/
theorem id_comes_back :
    ((fresh false).run willing
      [.perform (.start mainThread Config.default), .perform (.bind "outliers" "detect"),
        .perform (.insert 0), .perform (.stop mainThread),
        .perform (.start mainThread (Config.default.withRestart true)),
        .perform (.bind "outliers" "to_ints"), .perform (.insert 0)]).toOption.map
      (fun p => (issuedIn p.history, p.host.shares.map fun e => e.2.binding.function)) =
    some ([(1, 1), (2, 1)], ["to_ints"]) := by
  decide +kernel

end Process

end Embedder
