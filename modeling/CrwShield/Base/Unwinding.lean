import Mathlib.Data.List.Basic

/-!
# Two runs that differ in what others do

Two runs of one transition function have the same labels of one party and any labels of others. A
relation of states that the labels of others keep is the same party's view of them. At some of its
labels the party asks for something that is not in its view; the runs stay related exactly until
the answers differ.
-/

namespace CrwShield.Base

universe u v w
variable {σ : Type u} {ε : Type v} {α : Type w}

/-- What the party is answered along a run. -/
def answers (f : σ → ε → σ) (mine : ε → Bool) (asks : σ → ε → Option α) : σ → List ε → List α
  | _, [] => []
  | s, e :: es =>
    (if mine e then (asks s e).toList else []) ++ answers f mine asks (f s e) es

/-- The relation is kept by the labels of others on either side, and by the labels of the party
when they ask for the same and are answered the same. -/
structure Unwinds (f : σ → ε → σ) (mine : ε → Bool) (asks : σ → ε → Option α)
    (R : σ → σ → Prop) : Prop where
  left : ∀ s t e, mine e = false → R s t → R (f s e) t
  right : ∀ s t e, mine e = false → R s t → R s (f t e)
  asked : ∀ s t e, mine e = true → R s t → ((asks s e).isSome ↔ (asks t e).isSome)
  both : ∀ s t e, mine e = true → R s t → asks s e = asks t e → R (f s e) (f t e)

/-- The runs come, related, to the same label of the party and are answered differently. -/
inductive Diverges (f : σ → ε → σ) (mine : ε → Bool) (asks : σ → ε → Option α)
    (R : σ → σ → Prop) (s t : σ) : List ε → List ε → Prop
  | intro (before after before' after' : List ε) (e : ε) (a b : α) (own : mine e = true)
      (related : R (before.foldl f s) (before'.foldl f t))
      (left : asks (before.foldl f s) e = some a) (right : asks (before'.foldl f t) e = some b)
      (ne : a ≠ b) : Diverges f mine asks R s t (before ++ e :: after) (before' ++ e :: after')

section Rules

variable {f : σ → ε → σ} {mine : ε → Bool} {asks : σ → ε → Option α} {R : σ → σ → Prop}

theorem answers_of_not_mine {s : σ} {e : ε} {es : List ε} (h : mine e = false) :
    answers f mine asks s (e :: es) = answers f mine asks (f s e) es := by
  simp [answers, h]

/-- The labels of others answer the party nothing. -/
theorem answers_append {s : σ} {es es' : List ε} (h : ∀ e ∈ es, mine e = false) :
    answers f mine asks s (es ++ es') = answers f mine asks (es.foldl f s) es' := by
  induction es generalizing s with
  | nil => rfl
  | cons e es ih =>
    rw [List.cons_append, answers_of_not_mine (h e (by simp))]
    exact ih fun e he ↦ h e (List.mem_cons_of_mem _ he)

/-- The labels of others keep the relation. -/
theorem Unwinds.others (h : Unwinds f mine asks R) {s t : σ} {es : List ε}
    (hes : ∀ e ∈ es, mine e = false) (hR : R s t) : R s (es.foldl f t) := by
  induction es generalizing t with
  | nil => exact hR
  | cons e es ih =>
    have hnext := h.right s t e (hes e (by simp)) hR
    exact ih (fun e he ↦ hes e (List.mem_cons_of_mem _ he)) hnext

/-- A divergence is one of longer runs. -/
theorem Diverges.append {s t : σ} {pre pre' es es' : List ε}
    (h : Diverges f mine asks R (pre.foldl f s) (pre'.foldl f t) es es') :
    Diverges f mine asks R s t (pre ++ es) (pre' ++ es') := by
  cases h with
  | intro before after before' after' e a b own related left right ne =>
    rw [← List.foldl_append] at related left
    rw [← List.foldl_append] at related right
    rw [← List.append_assoc, ← List.append_assoc]
    exact .intro _ _ _ _ e a b own related left right ne

/-- Two runs with the same labels of the party are answered the same and end related, or they come
to different answers. -/
theorem Unwinds.alike_or_diverge (h : Unwinds f mine asks R) {s t : σ} {es es' : List ε}
    (hR : R s t) (hes : es.filter mine = es'.filter mine) :
    (answers f mine asks s es = answers f mine asks t es' ∧ R (es.foldl f s) (es'.foldl f t)) ∨
      (answers f mine asks s es ≠ answers f mine asks t es' ∧
        Diverges f mine asks R s t es es') := by
  induction es generalizing s t es' with
  | nil =>
    have hothers : ∀ e ∈ es', mine e = false := by
      intro e he
      have hnil := List.filter_eq_nil_iff.mp hes.symm e he
      simpa using hnil
    have hend : answers f mine asks t es' = [] := by
      have happend : answers f mine asks t (es' ++ []) =
          answers f mine asks (es'.foldl f t) [] := answers_append hothers
      simpa [answers] using happend
    exact .inl ⟨hend.symm, h.others hothers hR⟩
  | cons e es ih =>
    by_cases hmine : mine e = true
    · rw [List.filter_cons_of_pos hmine] at hes
      obtain ⟨pre, post, rfl, hpre, -, hpost⟩ := List.filter_eq_cons_iff.mp hes.symm
      have hothers : ∀ e ∈ pre, mine e = false := fun e he ↦ by simpa using hpre e he
      have hbefore : R s (pre.foldl f t) := h.others hothers hR
      have hasked := h.asked s _ e hmine hbefore
      have hleft : answers f mine asks s (e :: es) =
          (asks s e).toList ++ answers f mine asks (f s e) es := by simp [answers, hmine]
      have hright : answers f mine asks t (pre ++ e :: post) =
          (asks (pre.foldl f t) e).toList ++ answers f mine asks (f (pre.foldl f t) e) post := by
        rw [answers_append hothers]
        simp [answers, hmine]
      by_cases hsame : asks s e = asks (pre.foldl f t) e
      · have hnext := h.both s _ e hmine hbefore hsame
        rw [hleft, hright, hsame]
        rcases ih hnext hpost.symm with ⟨hanswers, hend⟩ | ⟨hne, hdiverges⟩
        · exact .inl ⟨congrArg _ hanswers, by simpa using hend⟩
        · have hlonger : Diverges f mine asks R s t ([e] ++ es) ((pre ++ [e]) ++ post) :=
            Diverges.append (by simpa using hdiverges)
          exact .inr ⟨fun heq ↦ hne (List.append_cancel_left heq), by simpa using hlonger⟩
      · cases ha : asks s e with
        | none =>
          have hnone : asks (pre.foldl f t) e = none := by simpa [ha] using hasked
          exact absurd (ha.trans hnone.symm) hsame
        | some a =>
          obtain ⟨b, hb⟩ := Option.isSome_iff_exists.mp (hasked.mp (by rw [ha]; rfl))
          have hne : a ≠ b := fun heq ↦ hsame (by rw [ha, hb, heq])
          refine .inr ⟨?_, .intro [] es pre post e a b hmine hbefore ha hb hne⟩
          rw [hleft, hright, ha, hb]
          exact fun heq ↦ hne (List.cons.inj heq).1
    · have hother : mine e = false := by simpa using hmine
      rw [List.filter_cons_of_neg hmine] at hes
      rw [answers_of_not_mine hother]
      rcases ih (h.left s t e hother hR) hes with ⟨hanswers, hend⟩ | ⟨hne, hdiverges⟩
      · exact .inl ⟨hanswers, hend⟩
      · have hlonger : Diverges f mine asks R s t ([e] ++ es) ([] ++ es') := hdiverges.append
        exact .inr ⟨hne, hlonger⟩

end Rules
end CrwShield.Base
