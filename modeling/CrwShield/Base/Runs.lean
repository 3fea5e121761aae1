import Mathlib.Data.List.Chain
import Mathlib.Data.List.Induction
import Mathlib.Order.WellFounded

/-!
# Runs of a labelled step relation

A component is a step relation `σ → ε → σ → Prop`: a label is what happened, an event, an answer
from outside or a scheduling choice. Runs are built at their last step, so that an invariant may
speak about the whole history. A run whose steps all meet a condition is a run of `Guarded`.
-/

namespace CrwShield.Base

universe u v w x
variable {σ : Type u} {ε : Type v}

/-- Finite run from `s` to its last state, labels oldest first. -/
inductive Run (step : σ → ε → σ → Prop) (s : σ) : List ε → σ → Prop
  | nil : Run step s [] s
  | snoc {es : List ε} {t : σ} {e : ε} {t' : σ} :
      Run step s es t → step t e t' → Run step s (es ++ [e]) t'

/-- Steps that meet `cond` in the state before them. -/
def Guarded (cond : σ → ε → Prop) (step : σ → ε → σ → Prop) (s : σ) (e : ε) (t : σ) : Prop :=
  cond s e ∧ step s e t

/-- The step relation of a transition function. -/
def Steps (f : σ → ε → σ) (s : σ) (e : ε) (t : σ) : Prop := t = f s e

/-- The step relation of a partial transition function. -/
def PartialSteps (f : σ → ε → Option σ) (s : σ) (e : ε) (t : σ) : Prop := f s e = some t

/-- No step leaves the state. -/
def Terminal (step : σ → ε → σ → Prop) (s : σ) : Prop := ∀ e t, ¬ step s e t

namespace Run

variable {step : σ → ε → σ → Prop} {s t : σ} {es : List ε}

/-- What holds at the start and across each step, with the history so far, holds at the end. -/
theorem history {I : List ε → σ → Prop}
    (hstep : ∀ es s e t, I es s → step s e t → I (es ++ [e]) t)
    (h : Run step s es t) (hs : I [] s) : I es t := by
  induction h with
  | nil => exact hs
  | snoc _ hlast ih => exact hstep _ _ _ _ ih hlast

/-- A property of states that every step keeps is an invariant. -/
theorem invariant {I : σ → Prop} (hstep : ∀ s e t, I s → step s e t → I t)
    (h : Run step s es t) (hs : I s) : I t :=
  h.history (I := fun _ s ↦ I s) (fun _ s e t ↦ hstep s e t) hs

/-- A condition on steps may be forgotten. -/
theorem of_guarded {cond : σ → ε → Prop} (h : Run (Guarded cond step) s es t) :
    Run step s es t := by
  induction h with
  | nil => exact .nil
  | snoc _ hlast ih => exact .snoc ih hlast.2

/-- Every label of a run meets a condition on the labels of its steps. -/
theorem guarded_mem {cond : ε → Prop} (h : Run (Guarded (fun _ e ↦ cond e) step) s es t) :
    ∀ e ∈ es, cond e := by
  induction h with
  | nil => simp
  | snoc _ hlast ih =>
    intro e he
    rcases List.mem_append.mp he with he | he
    · exact ih e he
    · rw [List.mem_singleton.mp he]
      exact hlast.1

/-- A run can be continued by a further run. -/
theorem append {es' : List ε} {u : σ} (h : Run step s es t) (h' : Run step t es' u) :
    Run step s (es ++ es') u := by
  induction h' with
  | nil => simpa using h
  | snoc _ hlast ih => rw [← List.append_assoc]; exact .snoc ih hlast

/-- One step is a run. -/
theorem single {e : ε} (h : step s e t) : Run step s [e] t := .snoc .nil h

/-- A run without labels stays where it is. -/
theorem eq_of_nil (h : Run step s es t) (hnil : es = []) : s = t := by
  cases h with
  | nil => rfl
  | snoc => exact absurd hnil (by simp)

/-- A run whose labels start with one has a first step. -/
theorem head {e : ε} {labels : List ε} (h : Run step s labels t) (hl : labels = e :: es) :
    ∃ u, step s e u ∧ Run step u es t := by
  induction h generalizing es with
  | nil => exact absurd hl (by simp)
  | @snoc before t e' t' hrun hlast ih =>
    cases hb : before with
    | nil =>
      obtain rfl := hrun.eq_of_nil hb
      obtain ⟨rfl, rfl⟩ : e' = e ∧ [] = es := by simpa [hb] using hl
      exact ⟨t', hlast, .nil⟩
    | cons e'' rest =>
      obtain ⟨rfl, rfl⟩ : e'' = e ∧ rest ++ [e'] = es := by simpa [hb] using hl
      obtain ⟨u, hfirst, hrest⟩ := ih hb
      exact ⟨u, hfirst, hrest.snoc hlast⟩

/-- Where a step keeps a property exactly when it meets a condition, the property holds at the end
of a run exactly when every step met the condition. The invariant is that of all runs. -/
theorem guarded_iff {I P : σ → Prop} {cond : σ → ε → Prop}
    (hinv : ∀ s e t, I s → step s e t → I t)
    (hstep : ∀ s e t, I s → step s e t → (P t ↔ P s ∧ cond s e))
    (h : Run step s es t) (hs : I s) (hP : P s) : P t ↔ Run (Guarded cond step) s es t := by
  constructor
  · intro ht
    induction h with
    | nil => exact .nil
    | snoc hrun hlast ih =>
      obtain ⟨hbefore, hcond⟩ := (hstep _ _ _ (hrun.invariant hinv hs) hlast).mp ht
      exact .snoc (ih hbefore) ⟨hcond, hlast⟩
  · intro hguarded
    have hboth : I t ∧ P t := hguarded.invariant (I := fun s ↦ I s ∧ P s)
      (fun s e t hs hst ↦ ⟨hinv s e t hs.1 hst.2, (hstep s e t hs.1 hst.2).mpr ⟨hs.2, hst.1⟩⟩)
      ⟨hs, hP⟩
    exact hboth.2

/-- What no step with such a label changes stays as it is in a run of such labels. -/
theorem unchanged {α : Type w} {f : σ → α} {cond : ε → Prop}
    (hstep : ∀ s e t, cond e → step s e t → f t = f s) (h : Run step s es t)
    (hes : ∀ e ∈ es, cond e) : f t = f s := by
  induction h with
  | nil => rfl
  | snoc _ hlast ih =>
    have hbefore := ih fun e he ↦ hes e (List.mem_append_left _ he)
    have hafter := hstep _ _ _ (hes _ (by simp)) hlast
    exact hafter.trans hbefore

/-- A sequence of transitions is a run. -/
theorem of_foldlM {f : σ → ε → Option σ} (h : es.foldlM f s = some t) :
    Run (PartialSteps f) s es t := by
  induction es generalizing s with
  | nil =>
    obtain rfl := Option.some.inj h
    exact .nil
  | cons e es ih =>
    rw [List.foldlM_cons] at h
    obtain ⟨s₁, hfirst, hrest⟩ := Option.bind_eq_some_iff.mp h
    have hone : Run (PartialSteps f) s [e] s₁ := .single hfirst
    exact hone.append (ih hrest)

/-- A run of a transition function is the one its labels make. -/
theorem foldlM_eq {f : σ → ε → Option σ} (h : Run (PartialSteps f) s es t) :
    es.foldlM f s = some t := by
  induction h with
  | nil => rfl
  | snoc _ hlast ih =>
    rw [List.foldlM_append, ih]
    exact (bind_pure _).trans hlast

/-- A run is one of every relation that has its steps. -/
theorem mono {step' : σ → ε → σ → Prop} (hstep : ∀ s e t, step s e t → step' s e t)
    (h : Run step s es t) : Run step' s es t := by
  induction h with
  | nil => exact .nil
  | snoc _ hlast ih => exact .snoc ih (hstep _ _ _ hlast)

/-- A sequence of transitions that each meet the condition is a run of guarded steps. -/
theorem guarded_of_foldlM {f : σ → ε → Option σ} {cond : σ → ε → Prop}
    [∀ s e, Decidable (cond s e)]
    (h : es.foldlM (fun s e ↦ if cond s e then f s e else none) s = some t) :
    Run (Guarded cond (PartialSteps f)) s es t := by
  refine (of_foldlM h).mono fun s e t hstep ↦ ?_
  have hif : (if cond s e then f s e else none) = some t := hstep
  split at hif
  · next hcond => exact ⟨hcond, hif⟩
  · exact absurd hif (by simp)

/-- A sequence of choices that each name a step is a run. -/
theorem exists_of_foldlM {α : Type w} {f : σ → α → Option σ} {choices : List α}
    (hf : ∀ s a t, f s a = some t → ∃ e, step s e t) (h : choices.foldlM f s = some t) :
    ∃ es, Run step s es t := by
  induction choices generalizing s with
  | nil =>
    obtain rfl := Option.some.inj h
    exact ⟨[], .nil⟩
  | cons choice choices ih =>
    rw [List.foldlM_cons] at h
    obtain ⟨s₁, hfirst, hrest⟩ := Option.bind_eq_some_iff.mp h
    obtain ⟨e, hstep⟩ := hf s choice s₁ hfirst
    obtain ⟨es, hrun⟩ := ih hrest
    have hone : Run step s [e] s₁ := .single hstep
    exact ⟨[e] ++ es, hone.append hrun⟩

/-- The runs of a transition function compute its fold. -/
theorem steps_iff {f : σ → ε → σ} : Run (Steps f) s es t ↔ t = es.foldl f s := by
  constructor
  · intro h
    induction h with
    | nil => rfl
    | snoc _ hlast ih => rw [List.foldl_append, ← ih]; exact hlast
  · rintro rfl
    induction es using List.reverseRecOn with
    | nil => exact .nil
    | append_singleton es e ih => rw [List.foldl_append]; exact .snoc ih rfl

variable {τ : Type w} {ε' : Type x} {step' : τ → ε' → τ → Prop}

/-- Two runs in lockstep: where related states step to related states and one is done exactly when
the other is, two runs from related states to states that are done end in related states. -/
theorem lockstep (R : σ → τ → Prop) (D : σ → Prop) (D' : τ → Prop)
    (hstep : ∀ s s' e e' t t', R s s' → step s e t → step' s' e' t' → R t t')
    (hdone : ∀ s s', R s s' → (D s ↔ D' s')) (hstop : ∀ s e t, step s e t → ¬ D s)
    (hstop' : ∀ s e t, step' s e t → ¬ D' s) {es' : List ε'} {s' t' : τ}
    (h : Run step s es t) (h' : Run step' s' es' t') (hR : R s s') (ht : D t) (ht' : D' t') :
    R t t' := by
  induction es generalizing s s' es' with
  | nil =>
    obtain rfl := h.eq_of_nil rfl
    cases hes : es' with
    | nil =>
      obtain rfl := h'.eq_of_nil hes
      exact hR
    | cons e' rest =>
      obtain ⟨u', hfirst, -⟩ := h'.head hes
      exact absurd ((hdone s s' hR).mp ht) (hstop' s' e' u' hfirst)
  | cons e es ih =>
    obtain ⟨u, hfirst, hrest⟩ := h.head rfl
    cases hes : es' with
    | nil =>
      obtain rfl := h'.eq_of_nil hes
      exact absurd ((hdone s s' hR).mpr ht') (hstop s e u hfirst)
    | cons e' rest =>
      obtain ⟨u', hfirst', hrest'⟩ := h'.head hes
      exact ih hrest hrest' (hstep s s' e e' u u' hR hfirst hfirst')

end Run

section Termination

variable {step : σ → ε → σ → Prop}

/-- Where steps descend in a well-founded order, every state runs to a terminal one. -/
theorem exists_terminal (wf : WellFounded fun t s ↦ ∃ e, step s e t) (s : σ) :
    ∃ es t, Run step s es t ∧ Terminal step t := by
  induction s using wf.induction with
  | _ s ih =>
    by_cases hs : Terminal step s
    · exact ⟨[], s, .nil, hs⟩
    · simp only [Terminal, not_forall, not_not] at hs
      obtain ⟨e, t, hst⟩ := hs
      obtain ⟨es, u, hrun, hu⟩ := ih t ⟨e, hst⟩
      exact ⟨[e] ++ es, u, (Run.snoc .nil hst : Run step s ([] ++ [e]) t).append hrun, hu⟩

/-- Where steps descend in a well-founded order, no run goes on forever. -/
theorem no_infinite_run (wf : WellFounded fun t s ↦ ∃ e, step s e t) (f : ℕ → σ) :
    ¬ ∀ n, ∃ e, step (f n) e (f (n + 1)) := by
  intro h
  exact (wellFounded_iff_isEmpty_descending_chain.mp wf).elim ⟨f, h⟩

end Termination

/-- A history that grows at its end stays pairwise in a transitive relation exactly when each new
entry is related to the last one. -/
theorem pairwise_concat {α : Type u} {R : α → α → Prop} (htrans : ∀ a b c, R a b → R b c → R a c)
    {history : List α} {x : α} : (history ++ [x]).Pairwise R ↔
      history.Pairwise R ∧ ∀ last, history.getLast? = some last → R last x := by
  have hR : Trans R R R := ⟨htrans _ _ _⟩
  rw [← List.isChain_iff_pairwise, ← List.isChain_iff_pairwise, List.isChain_append]
  simp

end CrwShield.Base
