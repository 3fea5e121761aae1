import Mathlib.Data.List.Infix

/-!
# Stores with snapshots

A store is changed in memory, saved now and then, and recovered from what was saved last when the
process comes back after a crash. What it holds is told by the deeds that are left: those up to the
last save before the crash, the recovery, and those since.
-/

namespace CrwShield.Base

universe u v w x

/-- What happens to a store. -/
inductive StoreEvent (ε : Type u) (ρ : Type v) where
  | op (e : ε)
  | save
  /-- The process ends, and comes back. -/
  | crash (r : ρ)
  deriving DecidableEq

/-- What is left of the events. -/
inductive Deed (ε : Type u) (ρ : Type v) where
  | op (e : ε)
  | recovery (r : ρ)
  deriving DecidableEq

/-- A store and its snapshots. -/
structure Store (σ : Type w) (δ : Type x) (ε : Type u) (ρ : Type v) where
  start : σ
  apply : σ → ε → σ
  snapshot : σ → δ
  /-- From the last snapshot, if there is one. -/
  recover : ρ → Option δ → σ

variable {σ : Type w} {δ : Type x} {ε : Type u} {ρ : Type v}

/-- The memory and the disk after an event. -/
def Store.step (S : Store σ δ ε ρ) (s : σ × Option δ) : StoreEvent ε ρ → σ × Option δ
  | .op e => (S.apply s.1 e, s.2)
  | .save => (s.1, some (S.snapshot s.1))
  | .crash r => (S.recover r s.2, s.2)

/-- The memory and the disk after some events. -/
def Store.run (S : Store σ δ ε ρ) (events : List (StoreEvent ε ρ)) : σ × Option δ :=
  events.foldl S.step (S.start, none)

/-- The deeds that memory and disk show after an event. -/
def remember (h : List (Deed ε ρ) × List (Deed ε ρ)) :
    StoreEvent ε ρ → List (Deed ε ρ) × List (Deed ε ρ)
  | .op e => (h.1 ++ [.op e], h.2)
  | .save => (h.1, h.1)
  | .crash r => (h.2 ++ [.recovery r], h.2)

/-- The deeds that memory and disk show after some events. -/
def remembered (events : List (StoreEvent ε ρ)) : List (Deed ε ρ) × List (Deed ε ρ) :=
  events.foldl remember ([], [])

/-- The deeds that are left of some events. -/
def surviving (events : List (StoreEvent ε ρ)) : List (Deed ε ρ) := (remembered events).1

/-- The deed of an event; a save is none. -/
def StoreEvent.deed : StoreEvent ε ρ → Option (Deed ε ρ)
  | .op e => some (.op e)
  | .save => none
  | .crash r => some (.recovery r)

section Rules

variable {events : List (StoreEvent ε ρ)} {e : StoreEvent ε ρ}

theorem remembered_concat :
    remembered (events ++ [e]) = remember (remembered events) e := by
  rw [remembered, List.foldl_append]
  rfl

theorem Store.run_concat {S : Store σ δ ε ρ} : S.run (events ++ [e]) = S.step (S.run events) e := by
  rw [Store.run, List.foldl_append]
  rfl

/-- The deeds that are left are some of the deeds, in their order. -/
theorem surviving_sublist : (surviving events).Sublist (events.filterMap StoreEvent.deed) := by
  have hboth : (remembered events).1.Sublist (events.filterMap StoreEvent.deed) ∧
      (remembered events).2.Sublist (events.filterMap StoreEvent.deed) := by
    induction events using List.reverseRecOn with
    | nil => exact ⟨.slnil, .slnil⟩
    | append_singleton events e ih =>
      rw [remembered_concat, List.filterMap_append]
      cases e with
      | op e => exact ⟨ih.1.append (.refl _), ih.2.trans (List.sublist_append_left _ _)⟩
      | save => exact ⟨ih.1.trans (List.sublist_append_left _ _),
          ih.1.trans (List.sublist_append_left _ _)⟩
      | crash r => exact ⟨ih.2.append (.refl _), ih.2.trans (List.sublist_append_left _ _)⟩
  exact hboth.1

/-- What operations and recoveries keep, holds of the store and the deeds that are left. -/
theorem Store.holds (S : Store σ δ ε ρ) {I : List (Deed ε ρ) → σ → Prop} (hstart : I [] S.start)
    (hop : ∀ h s e, I h s → I (h ++ [.op e]) (S.apply s e))
    (hrecover : ∀ h s r, I h s → I (h ++ [.recovery r]) (S.recover r (some (S.snapshot s))))
    (hfirst : ∀ r, I [.recovery r] (S.recover r none)) (events : List (StoreEvent ε ρ)) :
    I (surviving events) (S.run events).1 := by
  -- what is on disk was in memory, with the deeds that it shows
  have hboth : I (remembered events).1 (S.run events).1 ∧
      (∀ d, (S.run events).2 = some d → ∃ s, d = S.snapshot s ∧ I (remembered events).2 s) ∧
      ((S.run events).2 = none → (remembered events).2 = []) := by
    induction events using List.reverseRecOn with
    | nil => exact ⟨hstart, fun d hd ↦ absurd hd (by simp [Store.run]), fun _ ↦ rfl⟩
    | append_singleton events e ih =>
      obtain ⟨hmem, hdisk, hnone⟩ := ih
      rw [remembered_concat, S.run_concat]
      cases e with
      | op e => exact ⟨hop _ _ e hmem, hdisk, hnone⟩
      | save =>
        refine ⟨hmem, fun d hd ↦ ⟨_, (Option.some.inj hd).symm, hmem⟩, fun hd ↦ ?_⟩
        exact absurd hd (by simp [Store.step])
      | crash r =>
        refine ⟨?_, hdisk, hnone⟩
        show I ((remembered events).2 ++ [.recovery r]) (S.recover r (S.run events).2)
        cases hd : (S.run events).2 with
        | none =>
          rw [hnone hd]
          exact hfirst r
        | some d =>
          obtain ⟨s, rfl, hs⟩ := hdisk d hd
          exact hrecover _ s r hs
  exact hboth.1

end Rules
end CrwShield.Base
