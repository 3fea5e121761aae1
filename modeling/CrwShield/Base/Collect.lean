import Mathlib.Data.List.Nodup

/-!
# Loops that collect

`List.eraseDups` keeps the first occurrence of every element. A loop that appends an element
unless it has seen it computes this list, and a filter may be applied before or after it. A loop
that threads a state while it collects is the collection of what its rounds yield.
-/

namespace CrwShield.Base

section FirstOccurrences

variable {α : Type*} [BEq α] [LawfulBEq α]

theorem nodup_eraseDups (xs : List α) : xs.eraseDups.Nodup := by
  induction hn : xs.length using Nat.strongRecOn generalizing xs with
  | _ n ih =>
    cases xs with
    | nil => exact .nil
    | cons a xs =>
      have hlength := List.length_filter_le (fun b ↦ !b == a) xs
      rw [List.length_cons] at hn
      have hrest : ((xs.filter fun b ↦ !b == a).eraseDups).Nodup := ih _ (by omega) _ rfl
      have hnew : a ∉ (xs.filter fun b ↦ !b == a).eraseDups := by
        rw [List.mem_eraseDups, List.mem_filter]
        rintro ⟨-, ha⟩
        simp at ha
      rw [List.eraseDups_cons]
      exact List.nodup_cons.mpr ⟨hnew, hrest⟩

theorem filter_eraseDups (p : α → Bool) (xs : List α) :
    (xs.filter p).eraseDups = xs.eraseDups.filter p := by
  match xs with
  | [] => rfl
  | a :: xs =>
    have ih := filter_eraseDups p (xs.filter fun b ↦ !b == a)
    cases hp : p a with
    | true =>
      rw [List.filter_cons_of_pos hp, List.eraseDups_cons, List.eraseDups_cons,
        List.filter_cons_of_pos hp, ← ih, List.filter_filter, List.filter_filter]
      simp only [Bool.and_comm]
    | false =>
      rw [List.filter_cons_of_neg (by simp [hp]), List.eraseDups_cons,
        List.filter_cons_of_neg (by simp [hp]), ← ih, List.filter_filter]
      refine congrArg List.eraseDups (List.filter_congr fun b _ ↦ ?_)
      by_cases hb : b = a
      · simp [hb, hp]
      · simp [hb]
termination_by xs.length
decreasing_by exact Nat.lt_succ_of_le (List.length_filter_le _ _)

/-- Append an element that is new. -/
def appendNew (acc : List α) (a : α) : List α := if a ∈ acc then acc else acc ++ [a]

theorem foldl_appendNew (acc xs : List α) :
    xs.foldl appendNew acc = acc ++ (xs.removeAll acc).eraseDups := by
  induction xs generalizing acc with
  | nil => simp [List.removeAll]
  | cons a xs ih =>
    rw [List.foldl_cons, ih, appendNew]
    split
    next hmem =>
      have hcons : (a :: xs).removeAll acc = xs.removeAll acc :=
        List.filter_cons_of_neg (by simp [hmem])
      rw [hcons]
    next hnew =>
      have hrest : xs.removeAll (acc ++ [a]) = (xs.removeAll acc).filter fun b ↦ !b == a := by
        simp only [List.removeAll, List.filter_filter]
        refine List.filter_congr fun b _ ↦ ?_
        by_cases hb : b = a <;> simp [hb]
      have hcons : (a :: xs).removeAll acc = a :: xs.removeAll acc :=
        List.filter_cons_of_pos (by simp [hnew])
      rw [hcons, List.eraseDups_cons, hrest, List.append_assoc, List.singleton_append]

/-- Appending the new elements of a list one by one keeps their first occurrences. -/
theorem foldl_appendNew_nil (xs : List α) : xs.foldl appendNew [] = xs.eraseDups := by
  rw [foldl_appendNew, List.nil_append]
  simp [List.removeAll]

end FirstOccurrences

section Threaded

variable {ω α β γ : Type*}

/-- What a function yields for the elements of a list, the state handed on from each to the next. -/
def flatMapThreaded (f : γ → ω → List α × ω) : List γ → ω → List α × ω
  | [], w => ([], w)
  | c :: cs, w =>
    let rest := flatMapThreaded f cs (f c w).2
    ((f c w).1 ++ rest.1, rest.2)

theorem flatMapThreaded_append (f : γ → ω → List α × ω) (cs cs' : List γ) (w : ω) :
    flatMapThreaded f (cs ++ cs') w =
      ((flatMapThreaded f cs w).1 ++ (flatMapThreaded f cs' (flatMapThreaded f cs w).2).1,
        (flatMapThreaded f cs' (flatMapThreaded f cs w).2).2) := by
  induction cs generalizing w with
  | nil => rfl
  | cons c cs ih => simp only [List.cons_append, flatMapThreaded, ih, List.append_assoc]

theorem exists_of_mem_flatMapThreaded {f : γ → ω → List α × ω} {cs : List γ} {w : ω} {a : α}
    (h : a ∈ (flatMapThreaded f cs w).1) : ∃ c w', a ∈ (f c w').1 := by
  induction cs generalizing w with
  | nil => exact absurd h List.not_mem_nil
  | cons c cs ih =>
    rcases List.mem_append.mp h with h | h
    · exact ⟨c, w, h⟩
    · exact ih h

/-- A loop whose every round folds a step over what a function yields folds it over all that the
function yields. -/
theorem foldl_threaded {f : γ → ω → List α × ω} {step : β → α → β} {round : β × ω → γ → β × ω}
    (hround : ∀ acc w c, round (acc, w) c = ((f c w).1.foldl step acc, (f c w).2)) (cs : List γ)
    (acc : β) (w : ω) :
    cs.foldl round (acc, w) =
      ((flatMapThreaded f cs w).1.foldl step acc, (flatMapThreaded f cs w).2) := by
  induction cs generalizing acc w with
  | nil => rfl
  | cons c cs ih =>
    rw [List.foldl_cons, hround, ih]
    simp only [flatMapThreaded, List.foldl_append]

end Threaded

end CrwShield.Base
