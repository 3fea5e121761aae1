import CrwShield.Base.Runs
import Mathlib.Data.Set.Insert

/-!
# Least-depth-first search

A search of a directed graph keeps the nodes it has discovered but not expanded, each with the depth
at which it was discovered, and expands one of them at a time. When it always expands a node of
least depth, the depths are distances, and at the end the nodes expanded are those within the limit.
-/

namespace CrwShield.Base

universe u v
variable {α : Type u}

/-- There is a path of a length from the root to a node. -/
inductive ReachesIn (edge : α → α → Prop) (root : α) : ℕ → α → Prop
  | root : ReachesIn edge root 0 root
  | step {n : ℕ} {x y : α} : ReachesIn edge root n x → edge x y → ReachesIn edge root (n + 1) y

/-- Length of a shortest path from the root. -/
def IsDistance (edge : α → α → Prop) (root x : α) (n : ℕ) : Prop :=
  ReachesIn edge root n x ∧ ∀ m, ReachesIn edge root m x → n ≤ m

/-- Distances are unique. -/
theorem IsDistance.unique {edge : α → α → Prop} {root x : α} {m n : ℕ}
    (hm : IsDistance edge root x m) (hn : IsDistance edge root x n) : m = n :=
  Nat.le_antisymm (hm.2 n hn.1) (hn.2 m hm.1)

section Labels

variable {β : Type v} (edge : α → α → Prop) (root : α) (label : α → β)

/-- The graph of the labels: an edge between nodes is one between their labels. -/
def LabelEdge (k k' : β) : Prop :=
  ∃ n x y, ReachesIn edge root n x ∧ label x = k ∧ edge x y ∧ label y = k'

/-- Nodes of one label that are reached have neighbours of the same labels. -/
def LabelsAgree : Prop :=
  ∀ m n x x', ReachesIn edge root m x → ReachesIn edge root n x' → label x = label x' →
    ∀ y, edge x y → ∃ y', edge x' y' ∧ label y' = label y

variable {edge root label}

/-- Where nodes of one label agree, a path in the graph of the labels is that of a path. -/
theorem reachesIn_label_iff (h : LabelsAgree edge root label) {n : ℕ} {k : β} :
    ReachesIn (LabelEdge edge root label) (label root) n k ↔
      ∃ x, ReachesIn edge root n x ∧ label x = k := by
  constructor
  · intro hk
    induction hk with
    | root => exact ⟨root, .root, rfl⟩
    | @step n k k' _ hedge ih =>
      obtain ⟨x, hx, rfl⟩ := ih
      obtain ⟨m, x', y, hx', hlabel, hxy, rfl⟩ := hedge
      obtain ⟨y', hy', hsame⟩ := h m n x' x hx' hx hlabel y hxy
      exact ⟨y', hx.step hy', hsame⟩
  · rintro ⟨x, hx, rfl⟩
    induction hx with
    | root => exact .root
    | @step n x y hx hxy ih => exact ih.step ⟨n, x, y, hx, rfl, hxy, rfl⟩

end Labels

/-- Nodes with the depth at which they were discovered: those still to expand, and those expanded,
first to last. -/
structure Search (α : Type u) where
  pending : Set (α × ℕ)
  expanded : List (α × ℕ)

namespace Search

/-- A node has been discovered. -/
def Seen (s : Search α) (x : α) : Prop := ∃ d, (x, d) ∈ s.pending ∨ (x, d) ∈ s.expanded

/-- The root is pending at depth zero. -/
def start (root : α) : Search α := ⟨{(root, 0)}, []⟩

variable (edge : α → α → Prop) (root : α) (limit : ℕ)

/-- A pending node is expanded: below the limit its new neighbours become pending. -/
structure Expands (s : Search α) (p : α × ℕ) (s' : Search α) : Prop where
  mem : p ∈ s.pending
  pending : ∀ q, q ∈ s'.pending ↔
    (q ∈ s.pending ∧ q ≠ p) ∨ (p.2 < limit ∧ q.2 = p.2 + 1 ∧ edge p.1 q.1 ∧ ¬ s.Seen q.1)
  expanded : s'.expanded = s.expanded ++ [p]

/-- No pending node has a smaller depth. -/
def Least (s : Search α) (p : α × ℕ) : Prop := ∀ q ∈ s.pending, p.2 ≤ q.2

/-- Depths are distances within the limit, expanded nodes have all their neighbours discovered, and
nodes are expanded in the order of their depths. -/
structure Correct (s : Search α) : Prop where
  distance : ∀ p, p ∈ s.pending ∨ p ∈ s.expanded → IsDistance edge root p.1 p.2
  within : ∀ p, p ∈ s.pending ∨ p ∈ s.expanded → p.2 ≤ limit
  closed : ∀ p ∈ s.expanded, p.2 < limit → ∀ y, edge p.1 y → s.Seen y
  root : s.Seen root
  parent : ∀ p, p ∈ s.pending ∨ p ∈ s.expanded → p.2 = 0 ∨ ∃ q ∈ s.expanded, p.2 = q.2 + 1
  ordered : s.expanded.Pairwise (·.2 ≤ ·.2)
  behind : ∀ p ∈ s.expanded, ∀ q ∈ s.pending, p.2 ≤ q.2

variable {edge root limit} {s s' : Search α} {p : α × ℕ}

/-- Discovered nodes stay discovered. -/
theorem Expands.seen (h : Expands edge limit s p s') {x : α} (hx : s.Seen x) : s'.Seen x := by
  obtain ⟨d, hx | hx⟩ := hx
  · by_cases he : (x, d) = p
    · exact ⟨d, .inr (by rw [h.expanded, he]; simp)⟩
    · exact ⟨d, .inl ((h.pending _).mpr (.inl ⟨hx, he⟩))⟩
  · exact ⟨d, .inr (by rw [h.expanded]; exact List.mem_append_left _ hx)⟩

/-- Every node up to the least pending depth has been discovered. -/
theorem Correct.seen (h : Correct edge root limit s) {n : ℕ} {x : α}
    (hx : ReachesIn edge root n x) (hleast : ∀ q ∈ s.pending, n ≤ q.2) (hn : n ≤ limit) :
    s.Seen x := by
  induction hx with
  | root => exact h.root
  | @step n x y hx hedge ih =>
    obtain ⟨d, hd⟩ := ih (fun q hq ↦ Nat.le_of_succ_le (hleast q hq)) (Nat.le_of_succ_le hn)
    have hdn : d ≤ n := (h.distance (x, d) hd).2 n hx
    -- a pending predecessor would have a depth below the least one
    have hexp : (x, d) ∈ s.expanded := by
      refine hd.resolve_left fun hp ↦ ?_
      have := hleast (x, d) hp
      dsimp only at this
      omega
    exact h.closed (x, d) hexp (by dsimp only; omega) y hedge

theorem correct_start : Correct edge root limit (start root) where
  distance p hp := by
    obtain rfl : p = (root, 0) := by simpa [start] using hp
    exact ⟨.root, fun m _ ↦ Nat.zero_le m⟩
  within p hp := by
    obtain rfl : p = (root, 0) := by simpa [start] using hp
    exact Nat.zero_le limit
  closed p hp := absurd hp (by simp [start])
  root := ⟨0, .inl rfl⟩
  parent p hp := by
    obtain rfl : p = (root, 0) := by simpa [start] using hp
    exact .inl rfl
  ordered := .nil
  behind p hp := absurd hp (by simp [start])

/-- What expanding a least node adds is at its true distance. -/
private theorem Correct.isDistance_new (h : Correct edge root limit s)
    (hexp : Expands edge limit s p s') (hleast : s.Least p) (hp : p.2 < limit) {y : α}
    (hedge : edge p.1 y) (hnew : ¬ s.Seen y) : IsDistance edge root y (p.2 + 1) := by
  refine ⟨(h.distance p (.inl hexp.mem)).1.step hedge, fun m hm ↦ ?_⟩
  by_contra hlt
  have hle : m ≤ p.2 := by omega
  exact hnew (h.seen hm (fun q hq ↦ Nat.le_trans hle (hleast q hq)) (by omega))

/-- Expanding a node of least depth keeps the search correct. -/
theorem Correct.expand (h : Correct edge root limit s) (hexp : Expands edge limit s p s')
    (hleast : s.Least p) : Correct edge root limit s' := by
  have hmem : ∀ q, q ∈ s'.pending ∨ q ∈ s'.expanded →
      (q ∈ s.pending ∨ q ∈ s.expanded) ∨
        (p.2 < limit ∧ q.2 = p.2 + 1 ∧ edge p.1 q.1 ∧ ¬ s.Seen q.1) := by
    rintro q (hq | hq)
    · exact ((hexp.pending q).mp hq).imp (fun hq ↦ .inl hq.1) id
    · rw [hexp.expanded, List.mem_append, List.mem_singleton] at hq
      rcases hq with hq | rfl
      · exact .inl (.inr hq)
      · exact .inl (.inl hexp.mem)
  constructor
  case distance =>
    intro q hq
    rcases hmem q hq with hq | ⟨hp, hd, hedge, hnew⟩
    · exact h.distance q hq
    · rw [hd]
      exact h.isDistance_new hexp hleast hp hedge hnew
  case within =>
    intro q hq
    rcases hmem q hq with hq | ⟨hp, hd, -, -⟩
    · exact h.within q hq
    · omega
  case closed =>
    intro q hq hlt y hedge
    rw [hexp.expanded, List.mem_append, List.mem_singleton] at hq
    rcases hq with hq | rfl
    · exact hexp.seen (h.closed q hq hlt y hedge)
    · by_cases hy : s.Seen y
      · exact hexp.seen hy
      · exact ⟨q.2 + 1, .inl ((hexp.pending _).mpr (.inr ⟨hlt, rfl, hedge, hy⟩))⟩
  case root => exact hexp.seen h.root
  case parent =>
    intro q hq
    rw [hexp.expanded]
    rcases hmem q hq with hq | ⟨-, hd, -, -⟩
    · exact (h.parent q hq).imp id fun ⟨r, hr, he⟩ ↦ ⟨r, List.mem_append_left _ hr, he⟩
    · exact .inr ⟨p, by simp, hd⟩
  case ordered =>
    rw [hexp.expanded, List.pairwise_append]
    refine ⟨h.ordered, List.pairwise_singleton _ _, fun q hq r hr ↦ ?_⟩
    rw [List.mem_singleton.mp hr]
    exact h.behind q hq p hexp.mem
  case behind =>
    intro q hq r hr
    have hqp : q.2 ≤ p.2 := by
      rw [hexp.expanded, List.mem_append, List.mem_singleton] at hq
      rcases hq with hq | rfl
      · exact h.behind q hq p hexp.mem
      · exact Nat.le_refl _
    rcases (hexp.pending r).mp hr with ⟨hr, -⟩ | ⟨-, hd, -, -⟩
    · exact Nat.le_trans hqp (hleast r hr)
    · omega

/-- Discovered depths exceed the pending ones by at most one. -/
theorem Correct.le_succ (h : Correct edge root limit s) {q : α × ℕ}
    (hq : q ∈ s.pending ∨ q ∈ s.expanded) (hp : p ∈ s.pending) : q.2 ≤ p.2 + 1 := by
  rcases h.parent q hq with h0 | ⟨r, hr, he⟩
  · omega
  · have := h.behind r hr p hp
    omega

/-- A search that always expands a node of least depth is correct throughout. -/
theorem correct_of_run {ps : List (α × ℕ)}
    (h : Run (Guarded Least (Expands edge limit)) (start root) ps s) :
    Correct edge root limit s :=
  h.invariant (I := Correct edge root limit) (fun _ _ _ hc hstep ↦ hc.expand hstep.2 hstep.1)
    correct_start

/-- A correct search with nothing pending has expanded exactly the nodes within the limit. -/
theorem Correct.mem_expanded_iff (h : Correct edge root limit s) (hdone : s.pending = ∅) {x : α} :
    (∃ d, (x, d) ∈ s.expanded) ↔ ∃ n, n ≤ limit ∧ ReachesIn edge root n x := by
  constructor
  · rintro ⟨d, hd⟩
    exact ⟨d, h.within _ (.inr hd), (h.distance _ (.inr hd)).1⟩
  · rintro ⟨n, hn, hx⟩
    obtain ⟨d, hd⟩ := h.seen hx (by simp [hdone]) hn
    exact ⟨d, hd.resolve_left (by simp [hdone])⟩

end Search
end CrwShield.Base
