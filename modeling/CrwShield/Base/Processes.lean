import Mathlib.Logic.Function.Basic
import Mathlib.Data.Nat.Notation

/-!
# Processes that want one port

Processes are numbered in the order in which they are started. At most one of them has the port; a
process that finds the port taken exits. A connection to the port succeeds exactly when some live
process has it.
-/

namespace CrwShield.Base

universe u

/-- The programs of the live processes, the one that has the port, and the first unused number. -/
structure Processes (β : Type u) where
  live : ℕ → Option β
  owner : Option ℕ
  next : ℕ

namespace Processes

variable {β : Type u}

/-- No process. -/
def empty : Processes β := ⟨fun _ ↦ none, none, 0⟩

/-- Start a process. -/
def start (ps : Processes β) (program : β) : ℕ × Processes β :=
  (ps.next, { ps with live := Function.update ps.live ps.next (some program), next := ps.next + 1 })

/-- A process ends and gives the port up. -/
def kill (ps : Processes β) (pid : ℕ) : Processes β :=
  { ps with
    live := Function.update ps.live pid none
    owner := if ps.owner = some pid then none else ps.owner }

/-- A live process asks for the port, and exits if another has it. -/
def bind (ps : Processes β) (pid : ℕ) : Processes β :=
  match ps.owner with
  | none => { ps with owner := some pid }
  | some holder => if holder = pid then ps else ps.kill pid

/-- The port belongs to a live process, and unused numbers to none. -/
structure Sound (ps : Processes β) : Prop where
  owner_live : ∀ pid, ps.owner = some pid → (ps.live pid).isSome
  fresh : ∀ pid, ps.next ≤ pid → ps.live pid = none

/-- A process runs the program and has the port. -/
def Serves (ps : Processes β) (pid : ℕ) (program : β) : Prop :=
  ps.owner = some pid ∧ ps.live pid = some program

/-- No process is live but one, and that one runs the program if it is. -/
def Alone (ps : Processes β) (pid : ℕ) (program : β) : Prop :=
  (∀ q, q ≠ pid → ps.live q = none) ∧ ∀ p, ps.live pid = some p → p = program

theorem sound_empty : (empty : Processes β).Sound where
  owner_live _ h := absurd h (by simp [empty])
  fresh _ _ := rfl

section Operations

variable {ps : Processes β} {pid : ℕ} {program : β}

theorem Sound.start (h : ps.Sound) (program : β) : (ps.start program).2.Sound where
  owner_live q hq := by
    have hlive := h.owner_live q hq
    by_cases hnew : q = ps.next
    · simp [Processes.start, hnew]
    · simpa [Processes.start, hnew] using hlive
  fresh q hq := by
    have hnext : ps.next + 1 ≤ q := hq
    have hne : q ≠ ps.next := by omega
    have hbefore := h.fresh q (by omega)
    simpa [Processes.start, hne] using hbefore

theorem Sound.kill (h : ps.Sound) (pid : ℕ) : (ps.kill pid).Sound where
  owner_live q hq := by
    unfold Processes.kill at hq ⊢
    dsimp only at hq ⊢
    split at hq
    · exact absurd hq (by simp)
    · next hother =>
      have hne : q ≠ pid := fun heq ↦ hother (heq ▸ hq)
      rw [Function.update_of_ne hne]
      exact h.owner_live q hq
  fresh q hq := by
    have hbefore := h.fresh q hq
    by_cases heq : q = pid
    · simp [Processes.kill, heq]
    · simpa [Processes.kill, heq] using hbefore

theorem Sound.bind (h : ps.Sound) (hlive : (ps.live pid).isSome) : (ps.bind pid).Sound := by
  unfold Processes.bind
  split
  · refine ⟨fun q hq ↦ ?_, h.fresh⟩
    obtain rfl := Option.some.inj hq
    exact hlive
  · split
    · exact h
    · exact h.kill pid

/-- When one process is live at most, an answer on the port is its answer. -/
theorem Alone.serves (h : ps.Alone pid program) (hsound : ps.Sound) (howner : ps.owner.isSome) :
    ps.Serves pid program := by
  obtain ⟨q, hq⟩ := Option.isSome_iff_exists.mp howner
  obtain ⟨p, hp⟩ := Option.isSome_iff_exists.mp (hsound.owner_live q hq)
  have hpid : q = pid := by
    by_contra hne
    rw [h.1 q hne] at hp
    exact absurd hp (by simp)
  subst hpid
  obtain rfl := h.2 p hp
  exact ⟨hq, hp⟩

/-- The first live process is alone. -/
theorem alone_start (hdead : ∀ q, ps.live q = none) (program : β) :
    (ps.start program).2.Alone (ps.start program).1 program := by
  constructor
  · intro q hq
    have hne : q ≠ ps.next := hq
    simp [start, hne, hdead]
  · intro p hp
    have hprogram : some program = some p := by simpa [start] using hp
    exact (Option.some.inj hprogram).symm

/-- Once the only live process ends there is none. -/
theorem Alone.kill_self (h : ps.Alone pid program) (q : ℕ) : (ps.kill pid).live q = none := by
  by_cases hq : q = pid
  · simp [kill, hq]
  · simpa [kill, hq] using h.1 q hq

/-- A process stays alone when one ends. -/
theorem Alone.kill (h : ps.Alone pid program) (q : ℕ) : (ps.kill q).Alone pid program := by
  constructor
  · intro r hr
    by_cases heq : r = q
    · simp [Processes.kill, heq]
    · simpa [Processes.kill, heq] using h.1 r hr
  · intro p hp
    by_cases heq : pid = q
    · simp [Processes.kill, heq] at hp
    · exact h.2 p (by simpa [Processes.kill, heq] using hp)

/-- A process stays alone when one asks for the port. -/
theorem Alone.bind (h : ps.Alone pid program) (q : ℕ) : (ps.bind q).Alone pid program := by
  unfold Processes.bind
  split
  · exact ⟨h.1, h.2⟩
  · split
    · exact h
    · exact h.kill q

/-- The process that has the port keeps it when another ends. -/
theorem Serves.kill (h : ps.Serves pid program) {q : ℕ} (hq : q ≠ pid) :
    (ps.kill q).Serves pid program := by
  have hother : ps.owner ≠ some q := fun heq ↦ hq (Option.some.inj (heq.symm.trans h.1))
  constructor
  · show (if ps.owner = some q then none else ps.owner) = some pid
    rw [if_neg hother]
    exact h.1
  · simpa [Processes.kill, hq.symm] using h.2

/-- The process that has the port keeps it when a process asks for it. -/
theorem Serves.bind (h : ps.Serves pid program) (q : ℕ) : (ps.bind q).Serves pid program := by
  unfold Processes.bind
  rw [h.1]
  dsimp only
  split
  · exact h
  · next hne => exact h.kill fun heq ↦ hne heq.symm

end Operations
end Processes
end CrwShield.Base
