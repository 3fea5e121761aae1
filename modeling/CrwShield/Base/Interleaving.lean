import CrwShield.Base.Runs
import Mathlib.Data.Nat.Find

/-!
# Components side by side

Labels belong to components, and every component has a view of the shared state. Where a step
changes the view of its own component only, and depends on no other, a component sees in an
interleaving what it sees in a run of its own labels alone.
-/

namespace CrwShield.Base

universe u v w x
variable {σ : Type u} {ε : Type v} {κ : Type w} {ν : Type x}

/-- Steps are local: others see nothing of them, and they depend on what their component sees. -/
structure Local (step : σ → ε → σ → Prop) (owner : ε → κ) (view : κ → σ → ν) : Prop where
  frame : ∀ {s e t k}, step s e t → owner e ≠ k → view k t = view k s
  depends : ∀ {s s' e t}, step s e t → view (owner e) s' = view (owner e) s →
    ∃ t', step s' e t' ∧ view (owner e) t' = view (owner e) t

namespace Local

variable [DecidableEq κ] {step : σ → ε → σ → Prop} {owner : ε → κ} {view : κ → σ → ν}

/-- The labels of one component are a run of their own, in which it sees the same. -/
theorem project (hlocal : Local step owner view) {s s' t : σ} {es : List ε} (k : κ)
    (h : Run step s es t) (hs : view k s' = view k s) :
    ∃ t', Run step s' (es.filter (owner · = k)) t' ∧ view k t' = view k t := by
  induction h with
  | nil => exact ⟨s', .nil, hs⟩
  | snoc hrun hlast ih =>
    next e _ =>
    obtain ⟨t', hrun', ht'⟩ := ih
    rw [List.filter_append]
    by_cases howner : owner e = k
    · subst howner
      obtain ⟨t'', hstep, ht''⟩ := hlocal.depends hlast ht'
      refine ⟨t'', ?_, ht''⟩
      rw [List.filter_cons_of_pos (by simp)]
      exact hrun'.snoc hstep
    · refine ⟨t', ?_, ht'.trans (hlocal.frame hlast howner).symm⟩
      rw [List.filter_cons_of_neg (by simpa using howner)]
      simpa using hrun'

end Local

section Progress

/-- A rank that never rises descends finitely often. -/
theorem finitely_many_descents {ρ : Type w} {lt : ρ → ρ → Prop} (wf : WellFounded lt) (rank : ℕ → ρ)
    {descent : ℕ → Prop} (hkeep : ∀ n, rank (n + 1) = rank n ∨ lt (rank (n + 1)) (rank n))
    (hdescent : ∀ n, descent n → lt (rank (n + 1)) (rank n)) : ∃ N, ∀ n, N ≤ n → ¬ descent n := by
  classical
  have hfrom : ∀ r n, rank n = r → ∃ N, ∀ m, N ≤ m → ¬ descent m := by
    intro r
    induction r using wf.induction with
    | _ r ih =>
      intro n hn
      by_cases hlower : ∃ k, lt (rank (n + k + 1)) (rank (n + k))
      · -- up to its first descent the rank is what it was
        have hsame : ∀ k, k ≤ Nat.find hlower → rank (n + k) = r := by
          intro k hk
          induction k with
          | zero => exact hn
          | succ k hprev =>
            have hearly : ¬ lt (rank (n + k + 1)) (rank (n + k)) := Nat.find_min hlower (by omega)
            exact ((hkeep (n + k)).resolve_right hearly).trans (hprev (by omega))
        have hfirst := Nat.find_spec hlower
        rw [hsame _ le_rfl] at hfirst
        exact ih _ hfirst _ rfl
      · refine ⟨n, fun m hm hdown ↦ hlower ⟨m - n, ?_⟩⟩
        rw [Nat.add_sub_cancel' hm]
        exact hdescent m hdown
  exact hfrom _ 0 rfl

/-- In every infinite run the labels of a component that lower its rank cease, whatever the others
do, where no label of it raises the rank. -/
theorem labels_cease (step : σ → ε → σ → Prop) {owner : ε → κ} {view : κ → σ → ν} {k : κ}
    (hframe : ∀ {s e t}, step s e t → owner e ≠ k → view k t = view k s)
    {ρ : Type w} {lt : ρ → ρ → Prop} (wf : WellFounded lt) {rank : ν → ρ} {lowers : ε → Prop}
    (hkeep : ∀ {s e t}, step s e t → owner e = k →
      rank (view k t) = rank (view k s) ∨ lt (rank (view k t)) (rank (view k s)))
    (hlowers : ∀ {s e t}, step s e t → lowers e → lt (rank (view k t)) (rank (view k s)))
    {f : ℕ → σ} {l : ℕ → ε} (hrun : ∀ n, step (f n) (l n) (f (n + 1))) :
    ∃ N, ∀ n, N ≤ n → ¬ lowers (l n) := by
  refine finitely_many_descents wf (fun n ↦ rank (view k (f n))) (fun n ↦ ?_)
    fun n hn ↦ hlowers (hrun n) hn
  by_cases howner : owner (l n) = k
  · exact hkeep (hrun n) howner
  · exact .inl (congrArg rank (hframe (hrun n) howner))

end Progress
end CrwShield.Base
