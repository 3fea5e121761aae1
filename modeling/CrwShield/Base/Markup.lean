import Mathlib.Data.List.Basic

/-!
# Markup trees

Ordered forests of elements and leaves, and the walk that meets every node in document order, each
element once on the way in and once on the way out. What a recursive serialiser writes is a choice
among the stops of this walk.
-/

namespace CrwShield.Base.Markup

universe u v w
variable {ε : Type u} {κ : Type v}

/-- Siblings in order, each an element with its children or a leaf. -/
inductive Forest (ε : Type u) (κ : Type v) where
  | nil
  | element (e : ε) (children rest : Forest ε κ)
  | leaf (l : κ) (rest : Forest ε κ)
  deriving DecidableEq

/-- What the walk meets: the way into an element with its children, the way out, or a leaf. -/
inductive Visit (ε : Type u) (κ : Type v) where
  | enter (e : ε) (children : Forest ε κ)
  | leave (e : ε)
  | leaf (l : κ)
  deriving DecidableEq

/-- A visit, and the elements around the node, innermost first. -/
structure Stop (ε : Type u) (κ : Type v) where
  ancestors : List ε
  visit : Visit ε κ
  deriving DecidableEq

/-- The elements around a node, and the node itself if it is one. -/
def Stop.holders (s : Stop ε κ) : List ε :=
  match s.visit with
  | .enter e _ => e :: s.ancestors
  | .leave e => e :: s.ancestors
  | .leaf _ => s.ancestors

theorem Stop.ancestors_subset_holders (s : Stop ε κ) : s.ancestors ⊆ s.holders := by
  unfold holders
  cases s.visit with
  | enter e children => exact List.subset_cons_self e s.ancestors
  | leave e => exact List.subset_cons_self e s.ancestors
  | leaf l => exact List.Subset.refl s.ancestors

/-- A choice among the stops writes the same text only if it leaves out what writes nothing. -/
theorem eq_nil_of_flatMap_filter_eq {α : Type u} {β : Type v} {f : α → List β} {p : α → Bool}
    {l : List α} (h : (l.filter p).flatMap f = l.flatMap f) {a : α} (ha : a ∈ l)
    (hp : p a = false) : f a = [] := by
  have hle (l : List α) : ((l.filter p).flatMap f).length ≤ (l.flatMap f).length := by
    induction l with
    | nil => exact Nat.le_refl 0
    | cons b l ih =>
      by_cases hb : p b = true
      · rw [List.filter_cons_of_pos hb, List.flatMap_cons, List.flatMap_cons, List.length_append,
          List.length_append]
        exact Nat.add_le_add_left ih _
      · rw [List.filter_cons_of_neg hb, List.flatMap_cons, List.length_append]
        exact Nat.le_add_left_of_le ih
  induction l with
  | nil => exact absurd ha List.not_mem_nil
  | cons b l ih =>
    by_cases hb : p b = true
    · rw [List.filter_cons_of_pos hb, List.flatMap_cons, List.flatMap_cons] at h
      rcases List.mem_cons.mp ha with rfl | ha
      · exact absurd hb (by simp [hp])
      · exact ih (List.append_cancel_left h) ha
    · rw [List.filter_cons_of_neg hb, List.flatMap_cons] at h
      have hlen := congrArg List.length h
      rw [List.length_append] at hlen
      have hrest := hle l
      have hnil : f b = [] := List.length_eq_zero_iff.mp (by omega)
      rw [hnil, List.nil_append] at h
      rcases List.mem_cons.mp ha with rfl | ha
      · exact hnil
      · exact ih h ha

namespace Forest

/-- The stops of the walk below the given elements, in document order. -/
def stops (ancestors : List ε) : Forest ε κ → List (Stop ε κ)
  | nil => []
  | element e children rest =>
    ⟨ancestors, .enter e children⟩ :: children.stops (e :: ancestors) ++
      ⟨ancestors, .leave e⟩ :: rest.stops ancestors
  | leaf l rest => ⟨ancestors, .leaf l⟩ :: rest.stops ancestors

/-- The leaves in document order. -/
def leaves : Forest ε κ → List κ
  | nil => []
  | element _ children rest => children.leaves ++ rest.leaves
  | leaf l rest => l :: rest.leaves

variable {ancestors : List ε} {forest : Forest ε κ} {s : Stop ε κ}

@[simp] theorem stops_nil : (nil : Forest ε κ).stops ancestors = [] := rfl

@[simp] theorem stops_element (e : ε) (children rest : Forest ε κ) :
    (element e children rest).stops ancestors =
      ⟨ancestors, .enter e children⟩ :: children.stops (e :: ancestors) ++
        ⟨ancestors, .leave e⟩ :: rest.stops ancestors := rfl

@[simp] theorem stops_leaf (l : κ) (rest : Forest ε κ) :
    (leaf l rest).stops ancestors = ⟨ancestors, .leaf l⟩ :: rest.stops ancestors := rfl

/-- Below some elements every stop has these around it. -/
theorem length_le_of_mem_stops (h : s ∈ forest.stops ancestors) :
    ancestors.length ≤ s.ancestors.length := by
  induction forest generalizing ancestors with
  | nil => exact absurd h List.not_mem_nil
  | element e children rest ihc ihr =>
    rw [stops_element] at h
    rcases List.mem_append.mp h with h | h
    · rcases List.mem_cons.mp h with rfl | h
      · exact Nat.le_refl _
      · exact Nat.le_trans (Nat.le_succ _) (ihc h)
    · rcases List.mem_cons.mp h with rfl | h
      · exact Nat.le_refl _
      · exact ihr h
  | leaf l rest ih =>
    rw [stops_leaf] at h
    rcases List.mem_cons.mp h with rfl | h
    · exact Nat.le_refl _
    · exact ih h

/-- The leaf that a stop is at. -/
def leafAt (s : Stop ε κ) : Option κ :=
  match s.visit with
  | .leaf l => some l
  | _ => none

/-- The way out of an element comes with its way in, from the same place. -/
theorem exists_enter_of_leave {e : ε} (h : ⟨s.ancestors, .leave e⟩ ∈ forest.stops ancestors) :
    ∃ children, ⟨s.ancestors, .enter e children⟩ ∈ forest.stops ancestors := by
  induction forest generalizing ancestors with
  | nil => exact absurd h List.not_mem_nil
  | element e' children rest ihc ihr =>
    rw [stops_element] at h ⊢
    rcases List.mem_append.mp h with h | h
    · rcases List.mem_cons.mp h with h | h
      · exact absurd (congrArg Stop.visit h) (by simp)
      · obtain ⟨inner, hin⟩ := ihc h
        exact ⟨inner, List.mem_append_left _ (List.mem_cons_of_mem _ hin)⟩
    · rcases List.mem_cons.mp h with h | h
      · obtain ⟨hanc, hvisit⟩ := Stop.mk.inj h
        refine ⟨children, List.mem_append_left _ ?_⟩
        rw [hanc, Visit.leave.inj hvisit]
        exact List.mem_cons_self
      · obtain ⟨inner, hin⟩ := ihr h
        exact ⟨inner, List.mem_append_right _ (List.mem_cons_of_mem _ hin)⟩
  | leaf l rest ih =>
    rw [stops_leaf] at h ⊢
    rcases List.mem_cons.mp h with h | h
    · exact absurd (congrArg Stop.visit h) (by simp)
    · obtain ⟨inner, hin⟩ := ih h
      exact ⟨inner, List.mem_cons_of_mem _ hin⟩

end Forest
end CrwShield.Base.Markup
