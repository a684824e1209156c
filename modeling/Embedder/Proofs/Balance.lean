import Embedder.Machine.Interpreter
import Embedder.Proofs.Conduct.Operation

/-!
# The balance: no handle too many, and no exception left behind

`Balanced n` says two things of what a program did: if nothing was pending before, nothing is
pending after, and `n` owned handles more are alive. A guest that was just asked may leave an
exception, so single asks are not balanced; a request is, because it takes the exception at once.
`balanced_lawful` looks at the five ways in which the bridge takes exceptions, and every program
made of them follows.

Both halves are shown apart. The count is a matter of handles only, and does not mind what is
pending. What is pending is settled by `drain`, which leaves nothing (`drain_clears`), and by what
follows a failed ask in each case.
-/

namespace Embedder

open Exception

variable {σ α β : Type} {G : Guest σ} {h h' : Host σ} {context : String}

/-- `n` owned handles more are alive. -/
def Counts : Conduct σ := fun n h h' => h'.live = h.live + n

/-- If nothing was pending, nothing is. -/
def Quiet : Conduct σ := fun _ h h' => h.pending = none → h'.pending = none

/-- Nothing is left pending, and `n` owned handles more are alive. -/
def Balanced : Conduct σ := fun n h h' => Quiet n h h' ∧ Counts n h h'

/-! ## The count -/

theorem counts_composes : (Counts : Conduct σ).Composes where
  refl h := (Int.add_zero h.live).symm
  trans := by
    intro m n h₁ h₂ h₃ hm hn
    unfold Counts at hm hn ⊢
    omega

theorem act_counts (f : σ → Effect σ α) : (Bridge.act f).Obeys Counts fun _ => 0 := by
  intro h a h' hr
  obtain ⟨-, hh⟩ := Bridge.act_ok hr
  rw [hh]
  exact (Int.add_zero h.live).symm

theorem counts_inert (G : Guest σ) : (Counts : Conduct σ).Inert G where
  toComposes := counts_composes
  count _ _ := rfl
  record _ h := (Int.add_zero h.live).symm
  retain _ h := (Int.add_zero h.live).symm
  release _ := act_counts _
  leave _ h := (Int.add_zero h.live).symm
  act _ := act_counts _

/-! ## What is pending -/

theorem quiet_composes : (Quiet : Conduct σ).Composes where
  refl _ hp := hp
  trans hm hn hp := hn (hm hp)

/-- What the guest does by itself leaves the pending exception as it is. -/
theorem act_pending {f : σ → Effect σ α} {a : α} (hr : (Bridge.act f).run h = .ok (a, h')) :
    h'.pending = h.pending := by
  obtain ⟨-, hh⟩ := Bridge.act_ok hr
  rw [hh]
  rfl

theorem act_quiet (f : σ → Effect σ α) : (Bridge.act f).Obeys Quiet fun _ => 0 := by
  intro h a h' hr hp
  rw [act_pending hr, hp]

theorem quiet_calm (G : Guest σ) : (Quiet : Conduct σ).Calm G where
  toComposes := quiet_composes
  count _ _ hp := hp
  record _ _ hp := hp
  retain _ _ hp := hp
  release _ := act_quiet _

/-- After the program nothing is pending, whatever was before. -/
def Bridge.Clears (x : Bridge σ α) : Prop := ∀ h a h', x.run h = .ok (a, h') → h'.pending = none

namespace Bridge.Clears

variable {x : Bridge σ α} {f : α → Bridge σ β}

/-- A program is clearing if its last part is. -/
theorem after (hf : ∀ a, (f a).Clears) : (x >>= f).Clears := by
  intro h b h' hr
  obtain ⟨a, h₁, -, hrest⟩ := Bridge.bind_ok hr
  exact hf a h₁ b h' hrest

/-- Nothing quiet spoils it. -/
theorem before {n : β → Int} (hx : x.Clears) (hf : ∀ a, (f a).Obeys Quiet n) : (x >>= f).Clears := by
  intro h b h' hr
  obtain ⟨a, h₁, hxr, hrest⟩ := Bridge.bind_ok hr
  exact hf a h₁ b h' hrest (hx h a h₁ hxr)

end Bridge.Clears

namespace Exception

theorem clear_clears : (clear G).Clears := by
  intro h u h' hr
  obtain ⟨s, h₁, hget, hrest⟩ := Bridge.bind_ok hr
  cases hget
  cases hp : h.pending with
  | none =>
    rw [hp] at hrest
    obtain ⟨-, rfl⟩ := Bridge.pure_ok hrest
    exact hp
  | some p =>
    rw [hp] at hrest
    obtain ⟨u, h₂, hmod, hrel⟩ := Bridge.bind_ok hrest
    cases hmod
    exact releasePending_obeys (quiet_calm G) p _ _ h' hrel rfl

/-- Clearing is the last thing that is done to describe an exception. -/
theorem describe_clears (kind : Handle) (value trace : Option Handle) :
    (describe G kind value trace).Clears := by
  unfold describe
  refine Bridge.Clears.after fun name => ?_
  refine Bridge.Clears.after fun message => ?_
  refine Bridge.Clears.after fun traceback => ?_
  refine Bridge.Clears.after fun _ => ?_
  refine clear_clears.before (n := fun _ => 0) fun _ => ?_
  refine (Bridge.Obeys.modify ((quiet_calm G).record _)).seq quiet_composes fun _ => ?_
  exact Bridge.Obeys.pure quiet_composes rfl

theorem owning_clears (h : Handle) {body : Bridge σ α} (hbody : body.Clears) :
    (h.owning G body).Clears := by
  unfold Handle.owning
  refine hbody.before (n := fun _ => -h.stake) fun r => ?_
  refine (Handle.drop_obeys (quiet_calm G) h).bind quiet_composes fun _ => ?_
  exact Bridge.Obeys.pure quiet_composes (Int.sub_self _)

theorem owning?_clears (h : Option Handle) {body : Bridge σ α} (hbody : body.Clears) :
    (owning? G h body).Clears := by
  cases h with
  | none => exact hbody
  | some h => exact owning_clears h hbody

/-- Nothing is pending after an exception was taken. -/
theorem drain_clears : (drain G).Clears := by
  intro h r h' hr
  obtain ⟨s, h₁, hget, hrest⟩ := Bridge.bind_ok hr
  cases hget
  cases hp : h.pending with
  | none =>
    rw [hp] at hrest
    obtain ⟨-, rfl⟩ := Bridge.pure_ok hrest
    exact hp
  | some p =>
    rw [hp] at hrest
    refine Bridge.Clears.after (fun _ => ?_) h r h' hrest
    refine Bridge.Clears.after fun p => ?_
    refine Bridge.Clears.after fun kind => ?_
    refine Bridge.Clears.after fun value => ?_
    refine Bridge.Clears.after fun trace => ?_
    refine Bridge.Clears.before (n := fun _ => 0) ?_ fun _ => Bridge.Obeys.pure quiet_composes rfl
    exact owning_clears kind (owning?_clears value (owning?_clears trace
      (describe_clears kind value trace)))

theorem fetch_clears : (fetch G context).Clears := by
  unfold fetch
  refine drain_clears.before (n := fun _ => 0) fun r => ?_
  cases r with
  | none => exact Bridge.Obeys.pure quiet_composes rfl
  | some r => exact Bridge.Obeys.pure quiet_composes rfl

/-- An ask that got an answer did not touch what was pending. -/
theorem ask_pending {f : σ → Outcome σ α} {a : α} (hr : (ask G f).run h = .ok (some a, h')) :
    h'.pending = h.pending := by
  obtain ⟨reply, h₁, hact, hrest⟩ := Bridge.bind_ok hr
  cases reply with
  | value b =>
    obtain ⟨-, rfl⟩ := Bridge.pure_ok hrest
    exact act_pending hact
  | raised p =>
    obtain ⟨u, h₂, -, hnone⟩ := Bridge.bind_ok hrest
    obtain ⟨hne, -⟩ := Bridge.pure_ok hnone
    cases hne
  | failed =>
    obtain ⟨hne, -⟩ := Bridge.pure_ok hrest
    cases hne

/-- A stop that was taken is not pending any more. -/
theorem takeStop_pending (hr : (takeStop G).run h = .ok (true, h')) : h'.pending = none := by
  obtain ⟨s, h₁, hget, hrest⟩ := Bridge.bind_ok hr
  cases hget
  cases hp : h.pending with
  | none =>
    rw [hp] at hrest
    obtain ⟨-, rfl⟩ := Bridge.pure_ok hrest
    exact hp
  | some p =>
    rw [hp] at hrest
    obtain ⟨stopped, h₂, hlook, hthen⟩ := Bridge.bind_ok hrest
    cases stopped with
    | true =>
      obtain ⟨u, h₃, hclear, hdone⟩ := Bridge.bind_ok hthen
      obtain ⟨-, rfl⟩ := Bridge.pure_ok hdone
      exact clear_clears _ _ _ hclear
    | false =>
      obtain ⟨hne, -⟩ := Bridge.pure_ok hthen
      cases hne

theorem request_quiet {f : σ → Outcome σ α} :
    (request G context f).Obeys Quiet (fun _ => 0) 0 := by
  intro h r h' hr hp
  obtain ⟨answer, h₁, hask, hrest⟩ := Bridge.bind_ok hr
  cases answer with
  | some a =>
    obtain ⟨-, rfl⟩ := Bridge.pure_ok hrest
    rw [ask_pending hask, hp]
  | none =>
    -- the ask may have left an exception, and the fetch takes it
    refine fetch_clears.before (n := fun _ => 0) (fun r => ?_) _ _ _ hrest
    exact Bridge.Obeys.pure quiet_composes rfl

end Exception

/-- Each way out of a step has taken what the call left. -/
theorem Walk.step_quiet (w : Walk) : (w.step G).Obeys Quiet w.stepStake := by
  intro h r h' hr hp
  unfold Walk.step at hr
  split at hr
  next =>
    obtain ⟨-, rfl⟩ := Bridge.pure_ok hr
    exact hp
  next =>
    obtain ⟨answer, h₁, hask, hrest⟩ := Bridge.bind_ok hr
    cases answer with
    | some o =>
      obtain ⟨item, h₂, hnew, hdone⟩ := Bridge.bind_ok hrest
      obtain ⟨-, rfl⟩ := Bridge.pure_ok hdone
      refine Handle.ofNew_obeys (quiet_calm G) o h₁ item _ hnew ?_
      rw [ask_pending hask, hp]
    | none =>
      -- what the call left is taken as the end of the walk, or else fetched as a failure
      obtain ⟨stopped, h₂, htake, hthen⟩ := Bridge.bind_ok hrest
      cases stopped with
      | true =>
        obtain ⟨-, rfl⟩ := Bridge.pure_ok hthen
        exact takeStop_pending htake
      | false =>
        refine fetch_clears.before (n := fun _ => 0) (fun r => ?_) _ _ _ hthen
        exact Bridge.Obeys.pure quiet_composes rfl

/-- A call that failed gives the sentinel, so the exception is looked for whenever there is one. -/
theorem Scalar.checked_quiet [DecidableEq β] {f : σ → Outcome σ β} (sentinel : β) :
    (Scalar.checked G sentinel context f).Obeys Quiet (fun _ => 0) 0 := by
  intro h r h' hr hp
  obtain ⟨answer, h₁, hask, hrest⟩ := Bridge.bind_ok hr
  dsimp only at hrest
  split at hrest
  next =>
    obtain ⟨pending, h₂, hlook, hthen⟩ := Bridge.bind_ok hrest
    cases hlook
    cases hp₁ : h₁.pending with
    | some p =>
      rw [hp₁] at hthen
      refine fetch_clears.before (n := fun _ => 0) (fun r => ?_) _ _ _ hthen
      exact Bridge.Obeys.pure quiet_composes rfl
    | none =>
      rw [hp₁] at hthen
      obtain ⟨-, rfl⟩ := Bridge.pure_ok hthen
      exact hp₁
  next hne =>
    obtain ⟨-, rfl⟩ := Bridge.pure_ok hrest
    cases answer with
    | some b => rw [ask_pending hask, hp]
    | none => exact absurd rfl hne

/-! ## Both together -/

theorem Bridge.Obeys.balanced {x : Bridge σ α} {n : α → Int} (hq : x.Obeys Quiet n)
    (hc : x.Obeys Counts n) : x.Obeys Balanced n :=
  fun h a h' hr => ⟨hq h a h' hr, hc h a h' hr⟩

theorem balanced_composes : (Balanced : Conduct σ).Composes where
  refl h := ⟨quiet_composes.refl h, counts_composes.refl h⟩
  trans hm hn := ⟨quiet_composes.trans hm.1 hn.1, counts_composes.trans hm.2 hn.2⟩

theorem act_balanced (f : σ → Effect σ α) : (Bridge.act f).Obeys Balanced fun _ => 0 :=
  (act_quiet f).balanced (act_counts f)

theorem balanced_calm (G : Guest σ) : (Balanced : Conduct σ).Calm G where
  toComposes := balanced_composes
  count _ _ := ⟨fun hp => hp, rfl⟩
  record _ h := ⟨fun hp => hp, (Int.add_zero h.live).symm⟩
  retain _ h := ⟨fun hp => hp, (Int.add_zero h.live).symm⟩
  release _ := act_balanced _

theorem balanced_lawful (G : Guest σ) : (Balanced : Conduct σ).Lawful G where
  toCalm := balanced_calm G
  request _ hf := request_quiet.balanced (request_obeys (counts_inert G) hf)
  drain := by
    refine Bridge.Obeys.balanced ?_ (drain_obeys (counts_inert G))
    exact fun h r h' hr _ => drain_clears h r h' hr
  drainRaised p := by
    refine Bridge.Obeys.balanced ?_ ((counts_inert G).lawful.drainRaised p)
    exact fun h r h' hr _ => Bridge.Clears.after (fun _ => drain_clears) h r h' hr
  step w := (Walk.step_quiet w).balanced ((counts_inert G).lawful.step w)
  checked sentinel context hf :=
    (Scalar.checked_quiet sentinel).balanced ((counts_inert G).lawful.checked sentinel context hf)

theorem balanced_clerical (G : Guest σ) : (Balanced : Conduct σ).Clerical G where
  toLawful := balanced_lawful G
  write := by
    intro f hf h
    refine ⟨fun hp => ?_, ?_⟩
    · rw [hf h]
      exact hp
    · show (f h).live = h.live + 0
      rw [hf h]
      exact (Int.add_zero h.live).symm
  share _ _ := ⟨fun hp => hp, (Int.add_zero _).symm⟩
  unshare _ := ⟨fun hp => hp, (Int.add_zero _).symm⟩
  releaseKept _ _ := act_balanced _
  insert _ _ := ⟨fun hp => hp, (Int.add_zero _).symm⟩
  remove _ _ := ⟨fun hp => hp, (Int.add_zero _).symm⟩
  close h := ⟨fun hp => hp, (Int.add_zero h.live).symm⟩
  begin _ h := ⟨fun hp => hp, (Int.add_zero h.live).symm⟩
  move _ h := ⟨fun hp => hp, (Int.add_zero h.live).symm⟩
  boot _ h := ⟨fun hp => hp, (Int.add_zero h.live).symm⟩
  shutdown := act_balanced _

/-! ## Runs -/

theorem Process.step_balanced {s : Step σ} {p p' : Process σ} (hs : p.step G s = .ok p') :
    Balanced 0 p.host p'.host := by
  cases s with
  | perform op =>
    obtain ⟨events, hop, -⟩ := step_perform_ok hs
    exact Operation.perform_obeys (balanced_clerical G) op p.caller _ _ _ hop
  | interface thread call =>
    obtain ⟨v, hcall, -⟩ := step_interface_ok hs
    exact call.perform_obeys (balanced_clerical G) thread _ _ _ hcall
  | outside f =>
    cases hs
    exact ⟨fun hp => hp, (Int.add_zero p.host.live).symm⟩

/-- The balance is that against the first host, not against the host before. -/
theorem Process.balanced_of_run {steps : List (Step σ)} {p p' : Process σ}
    (hr : p.run G steps = .ok p') : Balanced 0 p.host p'.host :=
  run_preserves (P := fun q => Balanced 0 p.host q.host)
    (fun hq hs => balanced_composes.trans hq (step_balanced hs)) (balanced_composes.refl p.host) hr

/-- **No leak, and no exception left behind.** Between operations, nothing is pending and as many
owned handles are alive as at the beginning, whatever was done, in whatever order, and however it
turned out. Inside a session, the handles alive are those that were alive before and those that lie
on the desk, after each task; and once the desk is cleared, those that were alive before. -/
theorem Process.run_balanced (G : Guest σ) (p : Process σ) (hp : p.host.pending = none) :
    (∀ steps : List (Step σ), Ends (p.run G steps) fun p' =>
      p'.host.pending = none ∧ p'.host.live = p.host.live) ∧
    (∀ (tasks : List Task) (d : Desk), Ends ((Task.performAll G tasks d).run p.host) fun r =>
      r.2.pending = none ∧ r.2.live - r.1.stake = p.host.live - d.stake) ∧
    (∀ (tasks : List Task) (d : Desk),
      Ends ((Task.performAll G tasks d >>= fun d' => d'.clear G).run p.host) fun r =>
        r.2.pending = none ∧ r.2.live = p.host.live - d.stake) := by
  have hlawful := balanced_lawful G
  refine ⟨fun steps p' hr => ?_, fun tasks d r hr => ?_, fun tasks d r hr => ?_⟩
  · have hall := balanced_of_run hr
    have hlive : p'.host.live = p.host.live + 0 := hall.2
    exact ⟨hall.1 hp, by omega⟩
  · have hall := Task.performAll_obeys hlawful tasks d p.host r.1 r.2 hr
    have hlive : r.2.live = p.host.live + (r.1.stake - d.stake) := hall.2
    exact ⟨hall.1 hp, by omega⟩
  · have hcleared : (Task.performAll G tasks d >>= fun d' => d'.clear G).Obeys Balanced
        fun _ => -d.stake := by
      refine (Task.performAll_obeys hlawful tasks d).bind hlawful.toComposes fun d' => ?_
      exact (Desk.clear_obeys hlawful.toCalm d').congr fun _ => by omega
    have hall := hcleared p.host r.1 r.2 hr
    have hlive : r.2.live = p.host.live + -d.stake := hall.2
    exact ⟨hall.1 hp, by omega⟩

/-- A process that starts the interpreter, calls a function, walks over an object and stops. -/
theorem Process.fresh_run_balanced :
    (fresh Machine.World.down).host.pending = none ∧
    Ends ((fresh Machine.World.down).run Machine.python
        [.perform (.start mainThread Config.default),
          .perform (.callFunction "math" "sqrt" (Scenario.Numbers.ofFloats [Double.zero]) .float64),
          .perform (.session [.walk ⟨0⟩, .next 0, .next 0]),
          .perform (.stop mainThread)])
      fun p' => p'.host.pending = none ∧ p'.host.live = 0 :=
  ⟨rfl, (run_balanced Machine.python (fresh Machine.World.down) rfl).1 _⟩

end Embedder
