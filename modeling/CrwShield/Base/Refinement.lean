import CrwShield.Base.Runs

/-!
# Refinement of step relations

A component refines another when each of its steps, from a state that stands for a state of the
other, is a step of the other with the same label. Runs then carry over, and with them what every
run of the other keeps.
-/

namespace CrwShield.Base

universe u v w
variable {σ : Type u} {ε : Type v} {τ : Type w}

/-- Every step is a step of the specification, on the states stood for. -/
def Refines (step : σ → ε → σ → Prop) (spec : τ → ε → τ → Prop) (R : σ → τ → Prop) : Prop :=
  ∀ s e s' t, R s t → step s e s' → ∃ t', spec t e t' ∧ R s' t'

namespace Refines

variable {step : σ → ε → σ → Prop} {spec : τ → ε → τ → Prop} {R : σ → τ → Prop} {s s' : σ} {t : τ}
  {es : List ε}

/-- A run is a run of the specification with the same labels. -/
theorem run (h : Refines step spec R) (hrun : Run step s es s') (hs : R s t) :
    ∃ t', Run spec t es t' ∧ R s' t' := by
  induction hrun with
  | nil => exact ⟨t, .nil, hs⟩
  | snoc _ hlast ih =>
    obtain ⟨t', hspec, ht'⟩ := ih
    obtain ⟨t'', hstep, ht''⟩ := h _ _ _ _ ht' hlast
    exact ⟨t'', hspec.snoc hstep, ht''⟩

/-- What the specification keeps along its runs is kept by the states stood for. -/
theorem history {I : List ε → τ → Prop} (h : Refines step spec R)
    (hspec : ∀ es t e t', I es t → spec t e t' → I (es ++ [e]) t')
    (hrun : Run step s es s') (hs : R s t) (ht : I [] t) :
    ∃ t', Run spec t es t' ∧ R s' t' ∧ I es t' := by
  obtain ⟨t', hrun', ht'⟩ := h.run hrun hs
  exact ⟨t', hrun', ht', hrun'.history hspec ht⟩

end Refines
end CrwShield.Base
