import CrwShield.Base.Str
import Mathlib.Data.List.TakeWhile

/-!
# Text around separators

What stands behind the first occurrence of a text, and what stands before the first of some
characters.
-/

namespace CrwShield.Base.Str

/-- `t` follows the first occurrence of `needle` in `s`, or is the whole of `s` without one. -/
inductive Follows (needle s : Str) : Str → Prop
  | found (before rest : Str) : s = before ++ needle ++ rest →
      ¬ needle <:+: before ++ needle.dropLast → Follows needle s rest
  | absent : ¬ needle <:+: s → Follows needle s s

variable {needle s : Str}

theorem breakOn_none (h : breakOn needle s = none) : ¬ needle <:+: s := by
  induction s with
  | nil =>
    rw [breakOn] at h
    split at h
    next => exact absurd h (by simp)
    next hne =>
      rw [List.infix_nil]
      exact fun hnil ↦ hne (by rw [hnil]; rfl)
  | cons c s ih =>
    rw [breakOn] at h
    split at h
    next => exact absurd h (by simp)
    next hprefix =>
      rw [List.infix_cons_iff, not_or]
      refine ⟨fun hp ↦ hprefix (List.isPrefixOf_iff_prefix.mpr hp), ih ?_⟩
      exact Option.map_eq_none_iff.mp h

/-- The text is broken at the first occurrence. -/
theorem breakOn_some (hne : needle ≠ []) {a t : Str} (h : breakOn needle s = some (a, t)) :
    s = a ++ t ∧ needle <+: t ∧ ¬ needle <:+: a ++ needle.dropLast := by
  induction s generalizing a with
  | nil =>
    rw [breakOn, if_neg (by simpa using hne)] at h
    exact absurd h (by simp)
  | cons c s ih =>
    rw [breakOn] at h
    split at h
    next hprefix =>
      obtain ⟨rfl, rfl⟩ := Prod.mk.inj (Option.some.inj h)
      refine ⟨rfl, List.isPrefixOf_iff_prefix.mp hprefix, fun hin ↦ ?_⟩
      have hlen := hin.length_le
      have hpos := List.length_pos_iff.mpr hne
      rw [List.nil_append, List.length_dropLast] at hlen
      omega
    next hprefix =>
      obtain ⟨p, hp, hpair⟩ := Option.map_eq_some_iff.mp h
      obtain ⟨rfl, rfl⟩ := Prod.mk.inj hpair
      obtain ⟨hs, ht, hfirst⟩ := ih hp
      refine ⟨by rw [List.cons_append, ← hs], ht, ?_⟩
      rw [List.cons_append, List.infix_cons_iff, not_or]
      refine ⟨fun hstart ↦ hprefix (List.isPrefixOf_iff_prefix.mpr ?_), hfirst⟩
      have hshort : needle.dropLast <+: p.2 := (List.dropLast_prefix needle).trans ht
      rw [hs]
      exact hstart.trans
        ((List.prefix_cons_inj c).mpr ((List.prefix_append_right_inj p.1).mpr hshort))

/-- Of two occurrences the second does not come before the end of the first. -/
theorem length_le_of_first {a b x y : Str} (heq : a ++ needle ++ x = b ++ needle ++ y)
    (hfirst : ¬ needle <:+: b ++ needle.dropLast) : b.length ≤ a.length := by
  by_contra hlt
  have ha : a ++ needle <+: a ++ needle ++ x := List.prefix_append _ _
  have hb : b ++ needle.dropLast <+: a ++ needle ++ x := by
    rw [heq, List.append_assoc]
    exact (List.prefix_append_right_inj b).mpr
      ((List.dropLast_prefix needle).trans (List.prefix_append needle y))
  have hle : (a ++ needle).length ≤ (b ++ needle.dropLast).length := by
    rw [List.length_append, List.length_append, List.length_dropLast]
    omega
  have hprefix := List.prefix_of_prefix_length_le ha hb hle
  exact hfirst ((List.suffix_append a needle).isInfix.trans hprefix.isInfix)

/-- `str::split_once` leaves what follows the first occurrence. -/
theorem follows_iff (hne : needle ≠ []) {t : Str} :
    Follows needle s t ↔ ((splitOnce needle s).map Prod.snd).getD s = t := by
  unfold splitOnce
  cases h : breakOn needle s with
  | none =>
    have habsent := breakOn_none h
    constructor
    · intro hfollows
      cases hfollows with
      | found before rest hs hfirst =>
        exact absurd ⟨before, t, hs.symm⟩ habsent
      | absent _ => rfl
    · rintro rfl
      exact .absent habsent
  | some p =>
    obtain ⟨a, t'⟩ := p
    obtain ⟨hs, ⟨rest, rfl⟩, hfirst⟩ := breakOn_some hne h
    have hdrop : (needle ++ rest).drop needle.length = rest := List.drop_left
    simp only [Option.map_some, Option.getD_some, hdrop]
    rw [← List.append_assoc] at hs
    constructor
    · intro hfollows
      cases hfollows with
      | found before rest' hs' hfirst' =>
        have heq := hs.symm.trans hs'
        have hlen : before.length = a.length :=
          le_antisymm (length_le_of_first heq hfirst') (length_le_of_first heq.symm hfirst)
        have hboth : (a ++ needle).length = (before ++ needle).length := by
          rw [List.length_append, List.length_append, hlen]
        exact (List.append_inj heq hboth).2
      | absent habsent => exact absurd ⟨a, rest, hs.symm⟩ habsent
    · rintro rfl
      exact .found a _ hs hfirst

theorem takeWhile_ne_append {c : Char} {a : Str} (b : Str) (ha : c ∉ a) :
    (a ++ c :: b).takeWhile (· ≠ c) = a := by
  have hall : ∀ d ∈ a, decide (d ≠ c) = true :=
    fun d hd ↦ decide_eq_true fun heq ↦ ha (heq ▸ hd)
  rw [List.takeWhile_append_of_pos hall]
  simp

theorem takeWhile_ne_of_not_mem {c : Char} {s : Str} (hc : c ∉ s) :
    s.takeWhile (· ≠ c) = s :=
  List.takeWhile_eq_self_iff.mpr fun _ hd ↦ decide_eq_true fun heq ↦ hc (heq ▸ hd)

/-- The first piece of a split. -/
theorem headD_split (c : Char) (s : Str) : (split c s).headD [] = s.takeWhile (· ≠ c) := by
  unfold split
  by_cases hc : c ∈ s
  · obtain ⟨a, b, rfl, ha⟩ := List.eq_append_cons_of_mem hc
    rw [List.splitOn_append_cons_self_of_not_mem ha, takeWhile_ne_append b ha]
    rfl
  · rw [List.splitOn_eq_singleton hc, takeWhile_ne_of_not_mem hc]
    rfl

/-- The text before the first of a character, or all of it. -/
theorem before_splitOnce (c : Char) (s : Str) :
    ((splitOnce [c] s).map Prod.fst).getD s = s.takeWhile (· ≠ c) := by
  by_cases hc : c ∈ s
  · obtain ⟨a, b, rfl, ha⟩ := List.eq_append_cons_of_mem hc
    rw [splitOnce_char b ha, takeWhile_ne_append b ha]
    rfl
  · have hnone : splitOnce [c] s = none := by
      cases h : breakOn [c] s with
      | none => rw [splitOnce, h]; rfl
      | some p =>
        obtain ⟨hs, hstart, -⟩ := breakOn_some (List.cons_ne_nil c []) h
        refine absurd ?_ hc
        rw [hs]
        exact List.mem_append_right _ (hstart.mem List.mem_cons_self)
    rw [hnone, takeWhile_ne_of_not_mem hc]
    rfl

end CrwShield.Base.Str
