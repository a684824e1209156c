/-!
# The last error of a thread

Callers of the C interface read the message of a failed call from a slot of their own thread. The
slot holds a C string, so a NUL in a message is written as a backslash and a zero.
-/

namespace Embedder

/-- The identity of a host thread. -/
abbrev ThreadId := Nat

/-- The thread that drives a program. -/
def mainThread : ThreadId := 0

/-- One message slot for each thread. -/
structure LastErrors where
  slot : ThreadId → Option String

namespace LastErrors

/-- A message as a C string can hold it. -/
def escapeNul (message : String) : String :=
  String.ofList (message.toList.flatMap fun c => if c = '\x00' then ['\\', '0'] else [c])

/-- A text as a C string, unless there is a NUL in it. -/
def cString? (s : String) : Option String := if '\x00' ∈ s.toList then none else some s

/-- All slots are empty. -/
def empty : LastErrors := ⟨fun _ => none⟩

/-- The message in a thread's slot. -/
def get (e : LastErrors) (thread : ThreadId) : Option String := e.slot thread

/-- Store a message for one thread. -/
def set (e : LastErrors) (thread : ThreadId) (message : String) : LastErrors :=
  ⟨fun t => if t = thread then cString? (escapeNul message) else e.slot t⟩

/-- Empty the slot of one thread. -/
def clear (e : LastErrors) (thread : ThreadId) : LastErrors :=
  ⟨fun t => if t = thread then none else e.slot t⟩

/-- No NUL is left. -/
theorem nul_notMem_escapeNul (m : String) : '\x00' ∉ (escapeNul m).toList := by
  simp only [escapeNul, String.toList_ofList, List.mem_flatMap, not_exists, not_and]
  intro c _ h
  by_cases hc : c = '\x00'
  · simp [hc] at h
  · simp [hc] at h
    exact hc h.symm

/-- A message without a NUL stays as it is. -/
theorem escapeNul_of_notMem {m : String} (hm : '\x00' ∉ m.toList) : escapeNul m = m := by
  have hkept : ∀ c ∈ m.toList, (if c = '\x00' then ['\\', '0'] else [c]) = [c] := by
    intro c hc
    refine if_neg ?_
    rintro rfl
    exact hm hc
  rw [escapeNul, List.flatMap_def, List.map_congr_left hkept, ← List.flatMap_def,
    List.flatMap_singleton', String.ofList_toList]

/-- Each part of a message is written by itself. -/
theorem escapeNul_append (a b : String) : escapeNul (a ++ b) = escapeNul a ++ escapeNul b := by
  simp [escapeNul]

theorem escapeNul_nul : escapeNul "\x00" = "\\0" := by decide

/-- Whatever the message, there is a C string for it. -/
@[simp] theorem cString?_escapeNul (m : String) : cString? (escapeNul m) = some (escapeNul m) :=
  if_neg (nul_notMem_escapeNul m)

@[simp] theorem get_set_self (e : LastErrors) (t : ThreadId) (m : String) :
    (e.set t m).get t = some (escapeNul m) := by simp [get, set]

@[simp] theorem get_set_of_ne (e : LastErrors) {t u : ThreadId} (m : String) (h : u ≠ t) :
    (e.set t m).get u = e.get u := by simp [get, set, h]

@[simp] theorem get_clear_self (e : LastErrors) (t : ThreadId) : (e.clear t).get t = none := by
  simp [get, clear]

@[simp] theorem get_clear_of_ne (e : LastErrors) {t u : ThreadId} (h : u ≠ t) :
    (e.clear t).get u = e.get u := by simp [get, clear, h]

end LastErrors

end Embedder
