import Mathlib.Data.List.Induction

/-!
# Selection from a list

Ways to pick one element of a list and what they depend on: the first element that answers a
question, the element with a key, and the first element of highest score among the admissible ones.
-/

namespace CrwShield.Base

universe u v w
variable {α : Type u} {β : Type v} {γ : Type w}

section First

variable {f : α → Option β}

/-- An answer of some element is the first answer of some order. -/
theorem exists_perm_findSome? {l : List α} {a : α} {b : β} (ha : a ∈ l) (hb : f a = some b) :
    ∃ l' : List α, l'.Perm l ∧ l'.findSome? f = some b := by
  obtain ⟨s, t, rfl⟩ := List.append_of_mem ha
  refine ⟨a :: (s ++ t), List.perm_middle.symm, ?_⟩
  rw [List.findSome?_cons, hb]

/-- What is made of the first answer is the same for every order of the list exactly when it is
the same for all answers. -/
theorem forall_perm_findSome?_iff (g : Option β → γ) (l : List α) :
    (∀ l' : List α, l'.Perm l → g (l'.findSome? f) = g (l.findSome? f)) ↔
      ∀ a ∈ l, ∀ b ∈ l, ∀ x y, f a = some x → f b = some y → g (some x) = g (some y) := by
  constructor
  · intro h a ha b hb x y hx hy
    obtain ⟨la, hla, hfa⟩ := exists_perm_findSome? ha hx
    obtain ⟨lb, hlb, hfb⟩ := exists_perm_findSome? hb hy
    rw [← hfa, ← hfb, h la hla, h lb hlb]
  · intro h l' hl'
    cases hx : l'.findSome? f with
    | none =>
      have hl : l.findSome? f = none := by
        rw [List.findSome?_eq_none_iff] at hx ⊢
        intro a ha
        exact hx a (hl'.mem_iff.mpr ha)
      rw [hl]
    | some x =>
      obtain ⟨a, ha, hax⟩ := List.exists_of_findSome?_eq_some hx
      cases hy : l.findSome? f with
      | none =>
        have hnone := List.findSome?_eq_none_iff.mp hy a (hl'.mem_iff.mp ha)
        rw [hnone] at hax
        exact absurd hax (by simp)
      | some y =>
        obtain ⟨b, hb, hby⟩ := List.exists_of_findSome?_eq_some hy
        exact h a (hl'.mem_iff.mp ha) b hb x y hax hby

end First

section Key

variable {κ : Type v} [DecidableEq κ]

/-- Where keys tell elements apart, a lookup by key finds the element with the key. -/
theorem find?_key_iff {key : α → κ} {l : List α}
    (hkey : ∀ a ∈ l, ∀ b ∈ l, key a = key b → a = b) {k : κ} {a : α} :
    l.find? (fun x ↦ key x = k) = some a ↔ a ∈ l ∧ key a = k := by
  constructor
  · intro h
    exact ⟨List.mem_of_find?_eq_some h, by simpa using List.find?_some h⟩
  · rintro ⟨ha, rfl⟩
    cases hfind : l.find? (fun x ↦ key x = key a) with
    | none => exact absurd (List.find?_eq_none.mp hfind a ha) (by simp)
    | some b =>
      have hb : key b = key a := by simpa using List.find?_some hfind
      rw [hkey b (List.mem_of_find?_eq_some hfind) a ha hb]

end Key

section Best

variable (ok : α → Bool) (score : α → Nat)

/-- Take an admissible element that scores higher than the one kept so far. -/
def keepBetter (best : Option α) (a : α) : Option α :=
  if ok a && best.all (score · < score a) then some a else best

/-- The first admissible element of highest score, by one pass from the left. -/
def firstBest (l : List α) : Option α := l.foldl (keepBetter ok score) none

theorem firstBest_concat (l : List α) (a : α) :
    firstBest ok score (l ++ [a]) = keepBetter ok score (firstBest ok score l) a := by
  simp only [firstBest, List.foldl_append, List.foldl_cons, List.foldl_nil]

/-- Where admissible elements score one or two and two is always admissible, the pass picks the
first element that scores two, or else the first admissible one. -/
theorem firstBest_eq_or (hone : ∀ a, ok a = true → score a = 1 ∨ score a = 2)
    (htwo : ∀ a, score a = 2 → ok a = true) (l : List α) :
    firstBest ok score l = (l.find? (score · = 2)).or (l.find? ok) := by
  induction l using List.reverseRecOn with
  | nil => rfl
  | append_singleton l a ih =>
    rw [firstBest_concat, ih, List.find?_append, List.find?_append]
    cases h2 : l.find? (score · = 2) with
    | some w =>
      -- nothing scores higher than two
      have hw : score w = 2 := by simpa using List.find?_some h2
      rw [Option.some_or, Option.some_or, Option.some_or, keepBetter, if_neg]
      simp only [Option.all_some, hw, Bool.and_eq_true, decide_eq_true_eq, not_and, Nat.not_lt]
      intro ha
      rcases hone a ha with h | h <;> omega
    | none =>
      rw [Option.none_or, Option.none_or]
      cases h1 : l.find? ok with
      | some w =>
        have hok : ok w = true := List.find?_some h1
        have hw : score w = 1 := by
          refine (hone w hok).resolve_right fun h ↦ ?_
          have := List.find?_eq_none.mp h2 w (List.mem_of_find?_eq_some h1)
          exact this (by simpa using h)
        rw [Option.some_or]
        by_cases ha : score a = 2
        · simp [keepBetter, htwo a ha, hw, ha]
        · have hle : ok a = true → ¬ 1 < score a := by
            intro hoka
            rcases hone a hoka with h | h <;> omega
          rw [keepBetter, if_neg]
          · simp [ha]
          · simpa [hw] using hle
      | none =>
        by_cases ha : score a = 2
        · simp [keepBetter, htwo a ha, ha]
        · cases hoka : ok a <;> simp [keepBetter, hoka, ha]

end Best
end CrwShield.Base
