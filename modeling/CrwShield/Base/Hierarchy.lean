import Mathlib.Data.List.Infix

/-!
# Names in a hierarchy

Names over an alphabet with a separator, read from the most specific label to the least. The
parents of a name are its suffixes that follow a separator. Domain names are the instance in use.
-/

namespace CrwShield.Base.Hierarchy

universe u
variable {α : Type u} {sep : α}

/-- `name` is `parent` or lies below it. -/
def Under (sep : α) (name parent : List α) : Prop := name = parent ∨ sep :: parent <:+ name

/-- Every name lies under itself. -/
theorem Under.refl (name : List α) : Under sep name name := .inl rfl

/-- Lying under composes. -/
theorem Under.trans {a b c : List α} (hab : Under sep a b) (hbc : Under sep b c) :
    Under sep a c := by
  rcases hab with rfl | hab
  · exact hbc
  · rcases hbc with rfl | hbc
    · exact .inr hab
    · exact .inr (hbc.trans ((List.suffix_cons sep b).trans hab))

/-- No name lies strictly below itself. -/
theorem not_strictly_under_self (name : List α) : ¬ sep :: name <:+ name := by
  intro h
  have hlen := h.length_le
  rw [List.length_cons] at hlen
  omega

variable [DecidableEq α]

instance (name parent : List α) : Decidable (Under sep name parent) :=
  inferInstanceAs (Decidable (name = parent ∨ sep :: parent <:+ name))

/-- Every nonempty suffix that follows a separator, longest first. -/
def parents (sep : α) : List α → List (List α)
  | [] => []
  | c :: cs =>
    if c = sep then (if cs = [] then [] else cs :: parents sep cs) else parents sep cs

/-- The name itself, then its parents; empty for the empty name. -/
def lineage (sep : α) (name : List α) : List (List α) :=
  if name = [] then [] else name :: parents sep name

/-- Parents are the nonempty suffixes that follow a separator. -/
theorem mem_parents {name parent : List α} :
    parent ∈ parents sep name ↔ parent ≠ [] ∧ sep :: parent <:+ name := by
  induction name with
  | nil => simp [parents]
  | cons c cs ih =>
    rw [parents, List.suffix_cons_iff]
    by_cases hc : c = sep
    · subst hc
      by_cases hcs : cs = []
      · subst hcs
        simp only [↓reduceIte, List.not_mem_nil, List.cons.injEq, true_and, List.suffix_nil,
          reduceCtorEq, or_false, false_iff, not_and]
        exact fun hne h ↦ hne h
      · simp only [↓reduceIte, hcs, List.mem_cons, ih, List.cons.injEq, true_and]
        constructor
        · rintro (rfl | ⟨hne, hs⟩)
          · exact ⟨hcs, .inl rfl⟩
          · exact ⟨hne, .inr hs⟩
        · rintro ⟨hne, rfl | hs⟩
          · exact .inl rfl
          · exact .inr ⟨hne, hs⟩
    · simp only [hc, ↓reduceIte, ih, List.cons.injEq, Ne.symm hc, false_and, false_or]

/-- The lineage of a name holds exactly the nonempty names it lies under. -/
theorem mem_lineage {name parent : List α} :
    parent ∈ lineage sep name ↔ parent ≠ [] ∧ Under sep name parent := by
  unfold lineage Under
  by_cases hn : name = []
  · subst hn
    simp only [↓reduceIte, List.not_mem_nil, List.suffix_nil, reduceCtorEq, or_false, false_iff,
      not_and]
    exact fun hne he ↦ hne he.symm
  · simp only [hn, ↓reduceIte, List.mem_cons, mem_parents]
    constructor
    · rintro (rfl | ⟨hne, hs⟩)
      · exact ⟨hn, .inl rfl⟩
      · exact ⟨hne, .inr hs⟩
    · rintro ⟨hne, rfl | hs⟩
      · exact .inl rfl
      · exact .inr ⟨hne, hs⟩

/-- Along the parents each name lies strictly below every later one. -/
theorem parents_pairwise (name : List α) :
    (parents sep name).Pairwise fun child parent ↦ sep :: parent <:+ child := by
  induction name with
  | nil => exact .nil
  | cons c cs ih =>
    rw [parents]
    split
    · split
      · exact .nil
      · exact List.pairwise_cons.mpr ⟨fun parent h ↦ (mem_parents.mp h).2, ih⟩
    · exact ih

/-- Along a lineage each name lies strictly below every later one. -/
theorem lineage_pairwise (name : List α) :
    (lineage sep name).Pairwise fun child parent ↦ sep :: parent <:+ child := by
  rw [lineage]
  split
  · exact .nil
  · exact List.pairwise_cons.mpr ⟨fun parent h ↦ (mem_parents.mp h).2, parents_pairwise name⟩

/-- A lineage names each of its names once. -/
theorem nodup_lineage (name : List α) : (lineage sep name).Nodup := by
  refine (lineage_pairwise name).imp fun {child parent} h ↦ ?_
  rintro rfl
  exact not_strictly_under_self child h

end CrwShield.Base.Hierarchy
