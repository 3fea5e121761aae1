import CrwShield.Base.Runs
import CrwShield.Base.Str
import Mathlib.Data.List.Perm.Subperm

/-!
# The user-agent rotator

Crate `antibot`, `src/crates/antibot/src/http_stealth.rs:100–167`. A draw avoids the indices in the
history, which is cleared at the start of the draw after the one that fills it.
-/

open CrwShield.Base CrwShield.Base.Str

namespace CrwShield.Antibot

/-- `http_stealth.rs:102–107`, without the generator: a draw is handed the number it draws. -/
structure UserAgentRotator where
  pool : List Str
  recent : List Nat

/-- `SliceRandom::choose` with a number drawn at random. -/
def choose (draw : Nat) (xs : List Nat) : Option Nat := xs[draw % xs.length]?

/-- In a list cut into blocks of one length, the aligned pieces are the blocks. -/
theorem take_drop_flatten {α : Type*} {n : Nat} {blocks : List (List α)} {rest : List α}
    (hlen : ∀ b ∈ blocks, b.length = n) {k : Nat} (hk : k < blocks.length) :
    ((blocks.flatten ++ rest).drop (k * n)).take n = blocks[k] := by
  induction blocks generalizing k with
  | nil => simp at hk
  | cons b blocks ih =>
    have hb : b.length = n := hlen b List.mem_cons_self
    cases k with
    | zero => simp [← hb]
    | succ k =>
      have hdrop : (k + 1) * n = b.length + k * n := by rw [hb, Nat.succ_mul, Nat.add_comm]
      rw [List.flatten_cons, List.append_assoc, hdrop, ← List.drop_drop, List.drop_left]
      exact ih (fun b' hb' ↦ hlen b' (List.mem_cons_of_mem _ hb')) (by simpa using hk)

namespace UserAgentRotator

/-- `http_stealth.rs:129–140`. -/
def withPool (pool : List Str) : UserAgentRotator := ⟨pool, []⟩

variable (r : UserAgentRotator)

/-- Forget a full history; `http_stealth.rs:149–152`. -/
def reset : UserAgentRotator :=
  if r.pool.length ≤ r.recent.length then { r with recent := [] } else r

/-- Indices that are not in the history; `http_stealth.rs:153`. -/
def available : List Nat := (List.range r.pool.length).filter (· ∉ r.recent)

/-- `http_stealth.rs:144–158`; none where the index is out of bounds. -/
def next (draw : Nat) : Option (Str × UserAgentRotator) :=
  if r.pool.isEmpty then some ([], r)
  else
    let r := r.reset
    let pick := (choose draw r.available).getD 0
    r.pool[pick]?.map fun agent ↦ (agent, { r with recent := r.recent ++ [pick] })

/-- A draw: the number drawn, the user agent, and the index it has in the pool. -/
structure Draw where
  draw : Nat
  agent : Str
  index : Option Nat

/-- One draw of a rotator. -/
def Draws (r : UserAgentRotator) (d : Draw) (r' : UserAgentRotator) : Prop :=
  r.next d.draw = some (d.agent, r') ∧ d.index = r'.recent.getLast?

/-- The rotation is fair: each aligned block of draws uses every index once, the history stays
within the pool, and neither the past draws nor the next one needs the fallback. -/
structure Fair (pool : List Str) (ds : List Draw) (r : UserAgentRotator) : Prop where
  blocks : ∀ b, (b + 1) * pool.length ≤ ds.length →
    (((ds.drop (b * pool.length)).take pool.length).map Draw.index).Perm
      ((List.range pool.length).map some)
  bounded : r.recent.length ≤ pool.length
  chosen : pool ≠ [] → ∀ draw, (choose draw r.reset.available).isSome
  agents : pool ≠ [] → ∀ d ∈ ds, ∃ i, d.index = some i ∧ pool[i]? = some d.agent
  total : ∀ draw, (r.next draw).isSome

/-- The indices drawn fall into full blocks and the history. -/
structure Blocks (pool : List Str) (ds : List Draw) (r : UserAgentRotator) : Prop where
  pool_eq : r.pool = pool
  nodup : r.recent.Nodup
  lt : ∀ i ∈ r.recent, i < pool.length
  drawn : ∃ blocks : List (List Nat), (∀ b ∈ blocks, b.Perm (List.range pool.length)) ∧
    ds.map Draw.index = (blocks.flatten ++ r.recent).map some
  agents : ∀ d ∈ ds, ∃ i, d.index = some i ∧ pool[i]? = some d.agent

theorem choose_mem {draw i : Nat} {xs : List Nat} (h : choose draw xs = some i) : i ∈ xs :=
  List.mem_of_getElem? h

theorem isSome_choose {xs : List Nat} (h : xs ≠ []) (draw : Nat) : (choose draw xs).isSome := by
  have hlt : draw % xs.length < xs.length := Nat.mod_lt _ (List.length_pos_iff.mpr h)
  simp [choose, hlt]

variable {r} {pool : List Str} {ds : List Draw}

/-- Distinct indices below the size of the pool are at most as many as the pool has. -/
theorem Blocks.length_le (h : Blocks pool ds r) : r.recent.length ≤ pool.length := by
  have hsub : r.recent ⊆ List.range pool.length := fun i hi ↦ List.mem_range.mpr (h.lt i hi)
  have hle := (h.nodup.subperm hsub).length_le
  rwa [List.length_range] at hle

/-- A full history is a block. -/
theorem Blocks.perm_range (h : Blocks pool ds r) (hfull : pool.length ≤ r.recent.length) :
    r.recent.Perm (List.range pool.length) := by
  have hsub : r.recent ⊆ List.range pool.length := fun i hi ↦ List.mem_range.mpr (h.lt i hi)
  exact (h.nodup.subperm hsub).perm_of_length_le (by simpa using hfull)

/-- The reset moves a full history to the blocks. -/
theorem Blocks.reset (h : Blocks pool ds r) : Blocks pool ds r.reset := by
  by_cases hfull : r.pool.length ≤ r.recent.length
  · obtain ⟨blocks, hblocks, hdrawn⟩ := h.drawn
    have hperm := h.perm_range (h.pool_eq ▸ hfull)
    rw [UserAgentRotator.reset, if_pos hfull]
    refine ⟨h.pool_eq, List.nodup_nil, by simp, ⟨blocks ++ [r.recent], ?_, by simp [hdrawn]⟩,
      h.agents⟩
    intro b hb
    rcases List.mem_append.mp hb with hb | hb
    · exact hblocks b hb
    · rw [List.mem_singleton.mp hb]
      exact hperm
  · rwa [UserAgentRotator.reset, if_neg hfull]

/-- After the reset the history is not full. -/
theorem Blocks.length_reset_lt (h : Blocks pool ds r) (hpool : pool ≠ []) :
    r.reset.recent.length < pool.length := by
  have hpos : 0 < pool.length := List.length_pos_iff.mpr hpool
  by_cases hfull : r.pool.length ≤ r.recent.length
  · rw [UserAgentRotator.reset, if_pos hfull]
    exact hpos
  · rw [UserAgentRotator.reset, if_neg hfull]
    rw [h.pool_eq] at hfull
    omega

/-- After the reset some index is not in the history. -/
theorem Blocks.available_reset_ne_nil (h : Blocks pool ds r) (hpool : pool ≠ []) :
    r.reset.available ≠ [] := by
  intro hnil
  have hall : List.range pool.length ⊆ r.reset.recent := by
    intro i hi
    rw [UserAgentRotator.available, h.reset.pool_eq, List.filter_eq_nil_iff] at hnil
    simpa using hnil i hi
  have hle := (List.nodup_range.subperm hall).length_le
  rw [List.length_range] at hle
  exact absurd (h.length_reset_lt hpool) (by omega)

/-- A draw picks an index that is not in the history, and adds it. -/
theorem Blocks.next_eq (h : Blocks pool ds r) (hpool : pool ≠ []) (draw : Nat) :
    ∃ i agent, choose draw r.reset.available = some i ∧ i < pool.length ∧ i ∉ r.reset.recent ∧
      pool[i]? = some agent ∧
      r.next draw = some (agent, { r.reset with recent := r.reset.recent ++ [i] }) := by
  obtain ⟨i, hi⟩ := Option.isSome_iff_exists.mp
    (isSome_choose (h.available_reset_ne_nil hpool) draw)
  have hmem := choose_mem hi
  rw [UserAgentRotator.available, List.mem_filter, List.mem_range, h.reset.pool_eq] at hmem
  obtain ⟨hlt, hnew⟩ := hmem
  refine ⟨i, pool[i], hi, hlt, by simpa using hnew, List.getElem?_eq_getElem hlt, ?_⟩
  have hempty : r.pool.isEmpty = false := by simpa [h.pool_eq] using hpool
  rw [next, hempty, if_neg Bool.false_ne_true]
  dsimp only
  rw [hi, h.reset.pool_eq, Option.getD_some, List.getElem?_eq_getElem hlt]
  rfl

/-- One draw keeps the indices in blocks. -/
theorem Blocks.draws (h : Blocks pool ds r) (hpool : pool ≠ []) {d : Draw} {r' : UserAgentRotator}
    (hdraw : Draws r d r') : Blocks pool (ds ++ [d]) r' := by
  obtain ⟨i, agent, -, hlt, hnew, hagent, hnext⟩ := h.next_eq hpool d.draw
  obtain ⟨hd, hindex⟩ := hdraw
  rw [hnext] at hd
  obtain ⟨rfl, rfl⟩ := Prod.mk.inj (Option.some.inj hd)
  have hreset := h.reset
  have hlast : d.index = some i := by simpa using hindex
  constructor
  case pool_eq => exact hreset.pool_eq
  case nodup =>
    refine List.nodup_append.mpr ⟨hreset.nodup, by simp, fun j hj k hk heq ↦ hnew ?_⟩
    rw [← List.mem_singleton.mp hk, ← heq]
    exact hj
  case lt =>
    intro j hj
    rcases List.mem_append.mp hj with hj | hj
    · exact hreset.lt j hj
    · rwa [List.mem_singleton.mp hj]
  case drawn =>
    obtain ⟨blocks, hblocks, hdrawn⟩ := hreset.drawn
    exact ⟨blocks, hblocks, by simp [hdrawn, hlast]⟩
  case agents =>
    intro e he
    rcases List.mem_append.mp he with he | he
    · exact hreset.agents e he
    · rw [List.mem_singleton.mp he]
      exact ⟨i, hlast, hagent⟩

theorem blocks_withPool (pool : List Str) : Blocks pool [] (withPool pool) where
  pool_eq := rfl
  nodup := List.nodup_nil
  lt := by simp [withPool]
  drawn := ⟨[], by simp, rfl⟩
  agents := by simp

/-- An aligned stretch of a history in blocks uses every index once. -/
theorem Blocks.perm_block (h : Blocks pool ds r) (hpool : pool ≠ []) {k : Nat}
    (hk : (k + 1) * pool.length ≤ ds.length) :
    (((ds.drop (k * pool.length)).take pool.length).map Draw.index).Perm
      ((List.range pool.length).map some) := by
  have hreset := h.reset
  obtain ⟨blocks, hblocks, hdrawn⟩ := hreset.drawn
  have hlen : ∀ b ∈ blocks, b.length = pool.length := fun b hb ↦ by
    rw [(hblocks b hb).length_eq, List.length_range]
  have htotal : ds.length = blocks.length * pool.length + r.reset.recent.length := by
    have hdraws := congrArg List.length hdrawn
    rw [List.length_map, List.length_map, List.length_append] at hdraws
    rw [hdraws, List.length_flatten, List.map_congr_left hlen, List.map_const',
      List.sum_replicate_nat]
  have hkb : k < blocks.length := by
    have hlt := h.length_reset_lt hpool
    by_contra hge
    have hmul : (blocks.length + 1) * pool.length ≤ (k + 1) * pool.length :=
      Nat.mul_le_mul_right _ (by omega)
    rw [Nat.succ_mul] at hmul
    omega
  rw [List.map_take, List.map_drop, hdrawn, ← List.map_drop, ← List.map_take,
    take_drop_flatten hlen hkb]
  exact (hblocks _ (List.getElem_mem hkb)).map _

/-- Draws from an empty pool change nothing. -/
theorem eq_withPool_nil {ds : List Draw} {r : UserAgentRotator}
    (hrun : Run Draws (withPool []) ds r) : r = withPool [] := by
  apply hrun.invariant
  · intro s d t hs hdraw
    rw [hs] at hdraw
    exact (Prod.mk.inj (Option.some.inj hdraw.1)).2.symm
  · rfl

/-- Every run of a fresh rotator is fair. -/
theorem rotation_fair {pool : List Str} {ds : List Draw} {r : UserAgentRotator}
    (hrun : Run Draws (withPool pool) ds r) : Fair pool ds r := by
  by_cases hpool : pool = []
  · subst hpool
    obtain rfl := eq_withPool_nil hrun
    exact ⟨by simp, Nat.le_refl 0, fun h ↦ absurd rfl h, fun h ↦ absurd rfl h, fun _ ↦ rfl⟩
  · have hblocks : Blocks pool ds r := hrun.history (fun _ _ _ _ h ↦ h.draws hpool)
      (blocks_withPool pool)
    refine ⟨fun k ↦ hblocks.perm_block hpool, hblocks.length_le, fun _ draw ↦ ?_,
      fun _ ↦ hblocks.agents, fun draw ↦ ?_⟩
    · exact isSome_choose (hblocks.available_reset_ne_nil hpool) draw
    · obtain ⟨i, agent, -, -, -, -, hnext⟩ := hblocks.next_eq hpool draw
      rw [hnext]
      rfl

/-- Two draws from a pool of two equal user agents. -/
theorem rotation_fair_twice :
    Fair ["a", "a"] [⟨5, "a", some 1⟩, ⟨7, "a", some 0⟩] ⟨["a", "a"], [1, 0]⟩ := by
  have hfirst : Draws (withPool ["a", "a"]) ⟨5, "a", some 1⟩ ⟨["a", "a"], [1]⟩ := ⟨rfl, rfl⟩
  have hsecond : Draws ⟨["a", "a"], [1]⟩ ⟨7, "a", some 0⟩ ⟨["a", "a"], [1, 0]⟩ := ⟨rfl, rfl⟩
  exact rotation_fair (.snoc (.snoc .nil hfirst) hsecond)

end UserAgentRotator
end CrwShield.Antibot
