import CrwShield.Base.Runs

/-!
# Walking a list by looking up the current element

A cursor that remembers an element, not a position, moves to the element after the first
occurrence of the one it remembers. The walk visits each element once exactly when the list has
no duplicates.
-/

namespace CrwShield.Base

universe u
variable {α : Type u}

private theorem exists_append_getLast (x : α) (vs : List α) :
    ∃ pre, x :: vs = pre ++ [(x :: vs).getLast (List.cons_ne_nil x vs)] :=
  ⟨_, (List.dropLast_concat_getLast (List.cons_ne_nil x vs)).symm⟩

private theorem getLast_snoc (x : α) (vs : List α) (v : α) (h : x :: (vs ++ [v]) ≠ []) :
    (x :: (vs ++ [v])).getLast h = v :=
  List.getLast_concat (l := x :: vs)

/-- A list with a duplicate has a first one. -/
theorem exists_first_duplicate {xs : List α} (h : ¬ xs.Nodup) :
    ∃ pre b rest, xs = pre ++ b :: rest ∧ pre.Nodup ∧ b ∈ pre := by
  induction xs using List.reverseRecOn with
  | nil => exact absurd List.nodup_nil h
  | append_singleton xs b ih =>
    by_cases hnd : xs.Nodup
    · refine ⟨xs, b, [], rfl, hnd, ?_⟩
      by_contra hb
      exact h (List.nodup_append.mpr ⟨hnd, by simp, by
        rintro a ha c hc rfl
        exact hb (List.mem_singleton.mp hc ▸ ha)⟩)
    · obtain ⟨pre, c, rest, rfl, hpre, hc⟩ := ih hnd
      exact ⟨pre, c, rest ++ [b], by simp, hpre, hc⟩

variable [DecidableEq α]

/-- The element after the first occurrence of `cur`. -/
def successor (xs : List α) (cur : α) : Option α := ((xs.dropWhile (· ≠ cur)).drop 1).head?

/-- One move of the walk; the label is the element reached. -/
def Walks (xs : List α) (cur next cur' : α) : Prop := successor xs cur = some next ∧ cur' = next

/-- Up to the first occurrence of an element, its successor is the element that follows. -/
theorem successor_append {pre rest : List α} {cur : α} (h : cur ∉ pre) :
    successor (pre ++ cur :: rest) cur = rest.head? := by
  induction pre with
  | nil => simp [successor]
  | cons x pre ih =>
    have hx : x ≠ cur := fun he ↦ h (he ▸ List.mem_cons_self)
    have hd : successor (x :: (pre ++ cur :: rest)) cur = successor (pre ++ cur :: rest) cur := by
      simp [successor, hx]
    rw [List.cons_append, hd, ih fun hm ↦ h (List.mem_cons_of_mem x hm)]

/-- The successor of the last element of a prefix without duplicates is the next element. -/
theorem successor_getLast {x : α} {vs rest : List α} (h : (x :: vs).Nodup) :
    successor (x :: vs ++ rest) ((x :: vs).getLast (List.cons_ne_nil x vs)) = rest.head? := by
  obtain ⟨pre, hpre⟩ := exists_append_getLast x vs
  rw [hpre] at h
  have hnot : (x :: vs).getLast (List.cons_ne_nil x vs) ∉ pre := by
    intro hm
    exact (List.nodup_append.mp h).2.2 _ hm _ (List.mem_singleton_self _) rfl
  conv_lhs =>
    arg 1
    rw [hpre]
  rw [List.append_assoc, List.singleton_append, successor_append hnot]

/-- In a list without duplicates the walk visits a prefix of the list in order. -/
theorem prefix_of_run {x : α} {tail vs : List α} {cur : α} (hnd : (x :: tail).Nodup)
    (h : Run (Walks (x :: tail)) x vs cur) :
    (x :: vs) <+: (x :: tail) ∧ cur = (x :: vs).getLast (List.cons_ne_nil x vs) := by
  refine h.history (I := fun vs cur ↦ (x :: vs) <+: (x :: tail) ∧
    cur = (x :: vs).getLast (List.cons_ne_nil x vs)) ?_ ⟨⟨tail, rfl⟩, rfl⟩
  rintro vs cur v cur' ⟨⟨rest, hrest⟩, rfl⟩ ⟨hsucc, rfl⟩
  have hvs : (x :: vs).Nodup := by
    rw [← hrest] at hnd
    exact (List.nodup_append.mp hnd).1
  rw [← hrest, successor_getLast hvs] at hsucc
  obtain ⟨rest', rfl⟩ : ∃ rest', rest = cur' :: rest' := by
    cases rest with
    | nil => exact absurd hsucc (by simp)
    | cons a rest' => exact ⟨rest', by rw [Option.some.inj hsucc]⟩
  refine ⟨⟨rest', by rw [← hrest]; simp⟩, ?_⟩
  exact (getLast_snoc x vs cur' _).symm

/-- The walk reaches the end of every prefix without duplicates. -/
theorem run_of_prefix {x : α} {tail vs : List α} (hnd : (x :: vs).Nodup)
    (h : (x :: vs) <+: (x :: tail)) :
    Run (Walks (x :: tail)) x vs ((x :: vs).getLast (List.cons_ne_nil x vs)) := by
  induction vs using List.reverseRecOn with
  | nil => exact .nil
  | append_singleton vs v ih =>
    obtain ⟨rest, hrest⟩ := h
    have hpre : (x :: vs).Nodup := by
      rw [← List.cons_append] at hnd
      exact (List.nodup_append.mp hnd).1
    have heq : x :: vs ++ v :: rest = x :: tail := by rw [← hrest]; simp
    have hsucc : successor (x :: vs ++ v :: rest) _ = some v := successor_getLast hpre
    rw [heq] at hsucc
    refine .snoc (ih hpre ⟨v :: rest, heq⟩) ⟨hsucc, ?_⟩
    exact getLast_snoc x vs v _

/-- In a list with a duplicate some walk comes back to an element. -/
theorem exists_run_of_duplicate {x : α} {tail : List α} (h : ¬ (x :: tail).Nodup) :
    ∃ vs cur, Run (Walks (x :: tail)) x vs cur ∧ ¬ (x :: vs).Nodup := by
  obtain ⟨pre, b, rest, heq, hnd, hb⟩ := exists_first_duplicate h
  cases pre with
  | nil => exact absurd hb (by simp)
  | cons y vs =>
    obtain ⟨rfl, rfl⟩ := List.cons.inj heq
    have hrun := run_of_prefix hnd ⟨b :: rest, rfl⟩
    have hsucc : successor (x :: vs ++ b :: rest) _ = some b := successor_getLast hnd
    refine ⟨vs ++ [b], b, hrun.snoc ⟨hsucc, rfl⟩, ?_⟩
    intro hnd'
    rw [← List.cons_append] at hnd'
    exact (List.nodup_append.mp hnd').2.2 b hb b (List.mem_singleton_self b) rfl

end CrwShield.Base
