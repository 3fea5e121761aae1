import CrwShield.Antibot.BlockDetection
import Mathlib.Algebra.Order.BigOperators.Group.List

/-!
# The scoring law of the block detector

What `Pattern` promises in `src/crates/antibot/src/block_detection.rs:76–85`, the weights of a
kind's patterns added up and their total compared with the threshold, against what `detect`
computes.
-/

open CrwShield.Base CrwShield.Base.Str

namespace CrwShield.Antibot

/-- A slice is taken exactly at the character boundaries. -/
theorem takeBytes_isSome_iff {offset : Nat} {s : Str} :
    (takeBytes offset s).isSome = true ↔ IsCharBoundary offset s := by
  induction s generalizing offset with
  | nil =>
    by_cases h : offset = 0
    · subst h
      exact ⟨fun _ ↦ ⟨[], [], rfl, rfl⟩, fun _ ↦ by simp [takeBytes]⟩
    · simp only [takeBytes, if_neg h, Option.isSome_none, Bool.false_eq_true, false_iff]
      rintro ⟨a, b, hs, hlen⟩
      rw [(List.append_eq_nil_iff.mp hs.symm).1] at hlen
      exact h hlen.symm
  | cons c cs ih =>
    by_cases h : offset = 0
    · subst h
      exact ⟨fun _ ↦ ⟨[], c :: cs, rfl, rfl⟩, fun _ ↦ by simp [takeBytes]⟩
    · rw [takeBytes, if_neg h]
      by_cases hc : c.utf8Size ≤ offset
      · rw [if_pos hc, Option.isSome_map, ih]
        constructor
        · rintro ⟨a, b, rfl, hlen⟩
          refine ⟨c :: a, b, rfl, ?_⟩
          simp only [len, List.map_cons, List.sum_cons] at hlen ⊢
          omega
        · rintro ⟨_ | ⟨d, a⟩, b, hs, hlen⟩
          · exact absurd hlen.symm h
          · rw [List.cons_append, List.cons.injEq] at hs
            refine ⟨a, b, hs.2, ?_⟩
            simp only [len, List.map_cons, List.sum_cons, ← hs.1] at hlen ⊢
            omega
      · rw [if_neg hc]
        simp only [Option.isSome_none, Bool.false_eq_true, false_iff]
        rintro ⟨_ | ⟨d, a⟩, b, hs, hlen⟩
        · exact h hlen.symm
        · rw [List.cons_append, List.cons.injEq] at hs
          simp only [len, List.map_cons, List.sum_cons, ← hs.1] at hlen
          omega

/-- The markup check slices at a fixed offset, and panics unless that is a character boundary. -/
theorem looksLikeHtml_ok_iff {html : Str} :
    (∃ b, looksLikeHtml html = .ok b) ↔ IsCharBoundary (min (len html) 512) html := by
  rw [← takeBytes_isSome_iff]
  unfold looksLikeHtml
  dsimp only
  cases takeBytes (min (len html) 512) html with
  | none => simp
  | some head => exact ⟨fun _ ↦ rfl, fun _ ↦ ⟨_, rfl⟩⟩

/-- The phrase is in the title. -/
def Pattern.InTitle (p : Pattern) (title : Str) : Prop :=
  contains (toLowercase p.phrase) (toLowercase title) = true

/-- The phrase is in the body. -/
def Pattern.InBody (p : Pattern) (html : Str) : Prop :=
  contains (toLowercase p.phrase) (toLowercase html) = true

instance (p : Pattern) (title : Str) : Decidable (p.InTitle title) :=
  inferInstanceAs (Decidable (_ = true))

instance (p : Pattern) (html : Str) : Decidable (p.InBody html) :=
  inferInstanceAs (Decidable (_ = true))

/-- Weights a pattern contributes: that of the title and that of the body, for each it is in. -/
def Pattern.weight (p : Pattern) (html title : Str) : Nat :=
  (if p.InTitle title then p.titleWeight else 0) + if p.InBody html then p.bodyWeight else 0

/-- Total weight of the patterns of a kind. -/
def total (kind : BlockKind) (html title : Str) : Nat :=
  ((patterns.filter (·.kind = kind)).map (·.weight html title)).sum

/-- One pattern reaches the threshold by itself: with its title weight when it is in the title,
otherwise with its body weight. -/
def Pattern.Alone (p : Pattern) (html title : Str) : Prop :=
  if p.InTitle title then blockThreshold ≤ p.titleWeight
  else p.InBody html ∧ blockThreshold ≤ p.bodyWeight

instance (p : Pattern) (html title : Str) : Decidable (p.Alone html title) :=
  inferInstanceAs (Decidable (ite _ _ _))

/-- Occurrences of the sign-in phrases in the body. -/
def signInCount (html : Str) : Nat :=
  matchesCount "sign in" (toLowercase html) + matchesCount "log in" (toLowercase html)

/-- Signal of a pattern in the title. -/
def Pattern.titleSignal (p : Pattern) : BlockSignal :=
  ⟨p.kind, p.titleWeight, ("title contains \"" : Str) ++ p.phrase ++ "\""⟩

/-- Signal of a pattern in the body. -/
def Pattern.bodySignal (p : Pattern) : BlockSignal :=
  ⟨p.kind, p.bodyWeight, ("body contains \"" : Str) ++ p.phrase ++ "\""⟩

/-- Signal of the heuristic for small pages. -/
def smallPageSignal (html : Str) : BlockSignal :=
  ⟨.empty, 50, ("page is " : Str) ++ ofNat (len html) ++ " bytes (threshold " ++
    ofNat emptyThresholdBytes ++ ")"⟩

/-- Signal of the heuristic for repeated sign-in phrases. -/
def signInSignal (html : Str) : BlockSignal :=
  ⟨.loginWall, 60, ("found " : Str) ++ ofNat (signInCount html) ++
    " occurrences of 'sign in' / 'log in' (threshold " ++ ofNat loginWallSignInThreshold ++ ")"⟩

/-- The signals that fire on a page, each under its own condition. -/
inductive Fired (html title : Str) : BlockSignal → Prop
  | title {p : Pattern} (hp : p ∈ patterns) (ht : p.InTitle title)
      (hw : blockThreshold ≤ p.titleWeight) : Fired html title p.titleSignal
  | body {p : Pattern} (hp : p ∈ patterns) (ht : ¬ p.InTitle title) (hb : p.InBody html)
      (hw : blockThreshold ≤ p.bodyWeight) : Fired html title p.bodySignal
  | smallPage (hlen : len html < emptyThresholdBytes) (hplain : looksLikeHtml html = .ok false) :
      Fired html title (smallPageSignal html)
  | signIn (hcount : loginWallSignInThreshold ≤ signInCount html) :
      Fired html title (signInSignal html)

/-- The signal of some pattern. -/
def BlockSignal.FromPattern (s : BlockSignal) : Prop :=
  ∃ p ∈ patterns, s = p.titleSignal ∨ s = p.bodySignal

/-- The detector reports a block. -/
def Detected (html title : Str) : Prop := ∃ s, detect html title = .ok (some s)

variable {html title : Str}

/-- The score of a pattern, read off the places its phrase is in. -/
theorem Pattern.score_eq (p : Pattern) :
    p.score (toLowercase title) (toLowercase html) =
      if p.InTitle title then (p.titleSignal.confidence, p.titleSignal.matched)
      else if p.InBody html then (p.bodySignal.confidence, p.bodySignal.matched) else (0, []) := rfl

/-- A pattern reaches the threshold by itself exactly when its score does. -/
theorem Pattern.alone_iff {p : Pattern} :
    p.Alone html title ↔ blockThreshold ≤ (p.score (toLowercase title) (toLowercase html)).1 := by
  rw [Pattern.Alone, p.score_eq]
  by_cases ht : p.InTitle title
  · rw [if_pos ht, if_pos ht]
    exact Iff.rfl
  · rw [if_neg ht, if_neg ht]
    by_cases hb : p.InBody html
    · rw [if_pos hb]
      exact ⟨And.right, fun h ↦ ⟨hb, h⟩⟩
    · rw [if_neg hb]
      exact ⟨fun h ↦ absurd h.1 hb, fun h ↦ absurd h (by decide)⟩

/-- The signal of a pattern that reaches the threshold by itself fires. -/
theorem Pattern.Alone.fired {p : Pattern} (hp : p ∈ patterns) (h : p.Alone html title) :
    Fired html title ⟨p.kind, (p.score (toLowercase title) (toLowercase html)).1,
      (p.score (toLowercase title) (toLowercase html)).2⟩ := by
  rw [Pattern.Alone] at h
  rw [p.score_eq]
  by_cases ht : p.InTitle title
  · rw [if_pos ht] at h ⊢
    exact .title hp ht h
  · rw [if_neg ht] at h ⊢
    rw [if_pos h.1]
    exact .body hp ht h.1 h.2

/-- One pattern of the loop: what is kept is the old signal or the pattern's own, and no worse than
either. -/
theorem keepSignal_cases (titleLc htmlLc : Str) (best : Option BlockSignal) (p : Pattern) :
    (keepSignal titleLc htmlLc best p = best ∧
      (blockThreshold ≤ (p.score titleLc htmlLc).1 →
        ∃ b, best = some b ∧ (p.score titleLc htmlLc).1 ≤ b.confidence)) ∨
    (keepSignal titleLc htmlLc best p =
        some ⟨p.kind, (p.score titleLc htmlLc).1, (p.score titleLc htmlLc).2⟩ ∧
      blockThreshold ≤ (p.score titleLc htmlLc).1 ∧
      ∀ b, best = some b → b.confidence ≤ (p.score titleLc htmlLc).1) := by
  unfold keepSignal
  dsimp only
  by_cases hscore : blockThreshold ≤ (p.score titleLc htmlLc).1
  · rw [if_pos hscore]
    cases best with
    | none => exact .inr ⟨rfl, hscore, fun b hb ↦ absurd hb (by simp)⟩
    | some b =>
      dsimp only
      by_cases hle : (p.score titleLc htmlLc).1 ≤ b.confidence
      · rw [if_pos hle]
        exact .inl ⟨rfl, fun _ ↦ ⟨b, rfl, hle⟩⟩
      · rw [if_neg hle]
        refine .inr ⟨rfl, hscore, fun b' hb ↦ ?_⟩
        rw [← Option.some.inj hb]
        omega
  · rw [if_neg hscore]
    exact .inl ⟨rfl, fun h ↦ absurd h hscore⟩

/-- The loop over a table keeps a best signal: none only when no pattern reaches the threshold and
there was none before, and otherwise one no worse than any other. -/
theorem foldl_keepSignal (titleLc htmlLc : Str) (ps : List Pattern) (best : Option BlockSignal) :
    match ps.foldl (keepSignal titleLc htmlLc) best with
    | none => best = none ∧ ∀ p ∈ ps, ¬ blockThreshold ≤ (p.score titleLc htmlLc).1
    | some s =>
      (best = some s ∨ ∃ p ∈ ps, blockThreshold ≤ (p.score titleLc htmlLc).1 ∧
        s = ⟨p.kind, (p.score titleLc htmlLc).1, (p.score titleLc htmlLc).2⟩) ∧
      (∀ b, best = some b → b.confidence ≤ s.confidence) ∧
      ∀ p ∈ ps, blockThreshold ≤ (p.score titleLc htmlLc).1 →
        (p.score titleLc htmlLc).1 ≤ s.confidence := by
  induction ps generalizing best with
  | nil => cases best <;> simp
  | cons p ps ih =>
    have hrest := ih (keepSignal titleLc htmlLc best p)
    rw [List.foldl_cons]
    cases hout : ps.foldl (keepSignal titleLc htmlLc) (keepSignal titleLc htmlLc best p) with
    | none =>
      rw [hout] at hrest
      obtain ⟨hnone, hall⟩ := hrest
      rcases keepSignal_cases titleLc htmlLc best p with ⟨hkeep, hp⟩ | ⟨hkeep, -, -⟩
      · rw [hkeep] at hnone
        refine ⟨hnone, List.forall_mem_cons.mpr ⟨fun hscore ↦ ?_, hall⟩⟩
        obtain ⟨b, hb, -⟩ := hp hscore
        exact absurd hb (by simp [hnone])
      · exact absurd hkeep (by simp [hnone])
    | some s =>
      rw [hout] at hrest
      obtain ⟨hfrom, hbest, hall⟩ := hrest
      rcases keepSignal_cases titleLc htmlLc best p with ⟨hkeep, hp⟩ | ⟨hkeep, hscore, hle⟩
      · rw [hkeep] at hfrom hbest
        refine ⟨hfrom.imp id ?_, hbest, List.forall_mem_cons.mpr ⟨fun hscore ↦ ?_, hall⟩⟩
        · exact fun ⟨q, hq, h⟩ ↦ ⟨q, List.mem_cons_of_mem p hq, h⟩
        · obtain ⟨b, hb, hple⟩ := hp hscore
          exact Nat.le_trans hple (hbest b hb)
      · have hps := hbest _ hkeep
        dsimp only at hps
        refine ⟨.inr ?_, fun b hb ↦ Nat.le_trans (hle b hb) hps,
          List.forall_mem_cons.mpr ⟨fun _ ↦ hps, hall⟩⟩
        rcases hfrom with hs | ⟨q, hq, h⟩
        · exact ⟨p, List.mem_cons_self, hscore, (Option.some.inj (hkeep.symm.trans hs)).symm⟩
        · exact ⟨q, List.mem_cons_of_mem p hq, h⟩

/-- The best pattern signal of a page, as the loop leaves it. -/
def bestPattern (html title : Str) : Option BlockSignal :=
  patterns.foldl (keepSignal (toLowercase title) (toLowercase html)) none

/-- Nothing is kept exactly when no pattern reaches the threshold by itself. -/
theorem bestPattern_eq_none_iff :
    bestPattern html title = none ↔ ∀ p ∈ patterns, ¬ p.Alone html title := by
  simp only [Pattern.alone_iff]
  have h := foldl_keepSignal (toLowercase title) (toLowercase html) patterns none
  change match bestPattern html title with | none => _ | some s => _ at h
  cases hbest : bestPattern html title with
  | none =>
    rw [hbest] at h
    exact ⟨fun _ ↦ h.2, fun _ ↦ rfl⟩
  | some s =>
    rw [hbest] at h
    refine ⟨fun hs ↦ absurd hs (by simp), fun hall ↦ ?_⟩
    rcases h.1 with hs | ⟨p, hp, hscore, -⟩
    · exact absurd hs (by simp)
    · exact absurd hscore (hall p hp)

/-- What is kept is the signal of a pattern, fired, and no worse than those of the others. -/
theorem bestPattern_eq_some {s : BlockSignal} (h : bestPattern html title = some s) :
    Fired html title s ∧ (∃ p ∈ patterns, p.Alone html title ∧ s.kind = p.kind) ∧
      blockThreshold ≤ s.confidence ∧
      ∀ p ∈ patterns, p.Alone html title →
        (p.score (toLowercase title) (toLowercase html)).1 ≤ s.confidence := by
  have hfold := foldl_keepSignal (toLowercase title) (toLowercase html) patterns none
  change match bestPattern html title with | none => _ | some s => _ at hfold
  rw [h] at hfold
  obtain ⟨hfrom, -, hall⟩ := hfold
  rcases hfrom with hs | ⟨p, hp, hscore, rfl⟩
  · exact absurd hs (by simp)
  · have halone := Pattern.alone_iff.mpr hscore
    exact ⟨halone.fired hp, ⟨p, hp, halone, rfl⟩, hscore,
      fun q hq hqa ↦ hall q hq (Pattern.alone_iff.mp hqa)⟩

private theorem detect_eq :
    detect html title =
      (emptySignal html (bestPattern html title)).map (loginWallSignal (toLowercase html)) := rfl

/-- The sign-in heuristic replaces any signal but that of a login wall. -/
theorem loginWallSignal_eq (best : Option BlockSignal) :
    loginWallSignal (toLowercase html) best =
      if (∀ b, best = some b → b.kind ≠ .loginWall) ∧
          loginWallSignInThreshold ≤ signInCount html then some (signInSignal html)
      else best := by
  have hall : (best.all fun b ↦ b.kind ≠ .loginWall) = true ↔
      ∀ b, best = some b → b.kind ≠ .loginWall := by
    cases best <;> simp
  change (if (best.all fun b ↦ b.kind ≠ .loginWall) = true then
    if loginWallSignInThreshold ≤ signInCount html then some (signInSignal html) else best
    else best) = _
  by_cases hkind : ∀ b, best = some b → b.kind ≠ .loginWall
  · rw [if_pos (hall.mpr hkind)]
    by_cases hcount : loginWallSignInThreshold ≤ signInCount html
    · rw [if_pos hcount, if_pos ⟨hkind, hcount⟩]
    · rw [if_neg hcount, if_neg fun h ↦ hcount h.2]
  · rw [if_neg fun h ↦ hkind (hall.mp h), if_neg fun h ↦ hkind h.1]

/-- With a pattern signal the page is reported: as a login wall when the sign-in phrases are
repeated and the pattern is of another kind, otherwise with that signal. -/
theorem detect_of_some {s : BlockSignal} (h : bestPattern html title = some s) :
    detect html title = .ok (some
      (if s.kind ≠ .loginWall ∧ loginWallSignInThreshold ≤ signInCount html then signInSignal html
       else s)) := by
  have hempty : emptySignal html (some s) = .ok (some s) := by simp [emptySignal]
  rw [detect_eq, h, hempty, Except.map, loginWallSignal_eq]
  simp only [Option.some.injEq, forall_eq']
  rw [apply_ite some]

/-- Without a pattern signal the heuristics decide, the sign-in phrases before the size. -/
theorem detect_of_none (h : bestPattern html title = none) :
    detect html title =
      (if len html < emptyThresholdBytes then looksLikeHtml html else .ok true).map fun markup ↦
        if loginWallSignInThreshold ≤ signInCount html then some (signInSignal html)
        else if markup then none else some (smallPageSignal html) := by
  have hempty : emptySignal html none =
      (if len html < emptyThresholdBytes then looksLikeHtml html else .ok true).map fun markup ↦
        if markup then none else some (smallPageSignal html) := by
    unfold emptySignal
    by_cases hlen : len html < emptyThresholdBytes
    · simp only [Option.isNone_none, Bool.true_and, hlen, decide_true, if_true]
      cases looksLikeHtml html with
      | error e => rfl
      | ok markup => cases markup <;> rfl
    · simp [hlen, Except.map]
  rw [detect_eq, h, hempty]
  cases (if len html < emptyThresholdBytes then looksLikeHtml html else .ok true) with
  | error e => rfl
  | ok markup =>
    simp only [Except.map, loginWallSignal_eq]
    cases markup with
    | true => simp
    | false => simp [smallPageSignal]

/-- The pages on which the detector answers: a pattern reaches the threshold by itself, the size is
outside the window from 512 bytes to `emptyThresholdBytes`, or byte 512 starts a character. -/
def Answerable (html title : Str) : Prop :=
  (∃ p ∈ patterns, p.Alone html title) ∨ len html ≤ 512 ∨ emptyThresholdBytes ≤ len html ∨
    IsCharBoundary 512 html

/-- The detector answers exactly on the answerable pages, and panics on the others. -/
theorem detect_ok_iff : (∃ s, detect html title = .ok s) ↔ Answerable html title := by
  have hslice : (∃ b, looksLikeHtml html = .ok b) ↔ len html ≤ 512 ∨ IsCharBoundary 512 html := by
    rw [looksLikeHtml_ok_iff]
    rcases Nat.le_total (len html) 512 with hle | hge
    · rw [Nat.min_eq_left hle]
      exact ⟨fun _ ↦ .inl hle, fun _ ↦ ⟨html, [], (List.append_nil html).symm, rfl⟩⟩
    · rw [Nat.min_eq_right hge]
      refine ⟨.inr, fun h ↦ h.elim (fun hle ↦ ?_) id⟩
      exact ⟨html, [], (List.append_nil html).symm, Nat.le_antisymm hle hge⟩
  unfold Answerable
  cases hbest : bestPattern html title with
  | some s =>
    obtain ⟨-, ⟨p, hp, halone, -⟩, -⟩ := bestPattern_eq_some hbest
    exact ⟨fun _ ↦ .inl ⟨p, hp, halone⟩, fun _ ↦ ⟨_, detect_of_some hbest⟩⟩
  | none =>
    have hno : ¬ ∃ p ∈ patterns, p.Alone html title :=
      fun ⟨p, hp, h⟩ ↦ bestPattern_eq_none_iff.mp hbest p hp h
    rw [detect_of_none hbest, or_iff_right hno]
    by_cases hlen : len html < emptyThresholdBytes
    · have hor : (len html ≤ 512 ∨ emptyThresholdBytes ≤ len html ∨ IsCharBoundary 512 html) ↔
          ∃ b, looksLikeHtml html = .ok b := by
        rw [hslice, or_iff_right (Nat.not_le_of_lt hlen)]
      rw [if_pos hlen, hor]
      cases looksLikeHtml html with
      | error e => simp [Except.map]
      | ok b => exact ⟨fun _ ↦ ⟨b, rfl⟩, fun _ ↦ ⟨_, rfl⟩⟩
    · rw [if_neg hlen]
      exact ⟨fun _ ↦ .inr (.inl (Nat.le_of_not_lt hlen)), fun _ ↦ ⟨_, rfl⟩⟩

/-- A signal of the threshold or more that fires is that of a pattern. -/
theorem Fired.fromPattern {s : BlockSignal} (h : Fired html title s)
    (hs : blockThreshold ≤ s.confidence) : s.FromPattern := by
  cases h with
  | title hp ht hw => exact ⟨_, hp, .inl rfl⟩
  | body hp ht hb hw => exact ⟨_, hp, .inr rfl⟩
  | smallPage hlen hplain => exact absurd hs (show ¬ 70 ≤ 50 by decide)
  | signIn hcount => exact absurd hs (show ¬ 70 ≤ 60 by decide)

private theorem not_fromPattern_of_head {s : BlockSignal}
    (hs : s.matched.head? ≠ some 't' ∧ s.matched.head? ≠ some 'b') : ¬ s.FromPattern := by
  rintro ⟨p, -, rfl | rfl⟩
  · exact hs.1 rfl
  · exact hs.2 rfl

theorem signInSignal_not_fromPattern (html : Str) : ¬ (signInSignal html).FromPattern :=
  not_fromPattern_of_head ⟨by simp [signInSignal], by simp [signInSignal]⟩

theorem smallPageSignal_not_fromPattern (html : Str) : ¬ (smallPageSignal html).FromPattern :=
  not_fromPattern_of_head ⟨by simp [smallPageSignal], by simp [smallPageSignal]⟩

/-- A pattern that reaches the threshold by itself brings its kind's total there. -/
theorem Pattern.Alone.le_total {p : Pattern} (hp : p ∈ patterns) (h : p.Alone html title) :
    blockThreshold ≤ total p.kind html title := by
  have hweight : blockThreshold ≤ p.weight html title := by
    unfold Pattern.Alone at h
    unfold Pattern.weight
    by_cases ht : p.InTitle title
    · rw [if_pos ht] at h ⊢
      omega
    · rw [if_neg ht] at h ⊢
      rw [if_pos h.1]
      omega
  have hmem : p.weight html title ∈ (patterns.filter (·.kind = p.kind)).map (·.weight html title) :=
    List.mem_map_of_mem (List.mem_filter.mpr ⟨hp, by simp⟩)
  exact Nat.le_trans hweight (List.single_le_sum (fun _ _ ↦ Nat.zero_le _) _ hmem)

/-- Without a pattern that reaches the threshold by itself, the heuristics flag the page: the
sign-in phrases unless the size check panics before them, and the size of a page without markup. -/
def Flagged (html : Str) : Prop :=
  (loginWallSignInThreshold ≤ signInCount html ∧
    (emptyThresholdBytes ≤ len html ∨ IsCharBoundary (min (len html) 512) html)) ∨
  (len html < emptyThresholdBytes ∧ looksLikeHtml html = .ok false)

/-- A page is reported for a pattern that reaches the threshold by itself, or by the heuristics. -/
theorem detected_iff :
    Detected html title ↔ (∃ p ∈ patterns, p.Alone html title) ∨ Flagged html := by
  cases hbest : bestPattern html title with
  | some s =>
    obtain ⟨-, ⟨p, hp, halone, -⟩, -⟩ := bestPattern_eq_some hbest
    exact ⟨fun _ ↦ .inl ⟨p, hp, halone⟩, fun _ ↦ ⟨_, detect_of_some hbest⟩⟩
  | none =>
    have hno : ¬ ∃ p ∈ patterns, p.Alone html title :=
      fun ⟨p, hp, h⟩ ↦ bestPattern_eq_none_iff.mp hbest p hp h
    unfold Detected Flagged
    rw [detect_of_none hbest, or_iff_right hno]
    by_cases hlen : len html < emptyThresholdBytes
    · rw [if_pos hlen, ← looksLikeHtml_ok_iff]
      cases looksLikeHtml html with
      | error e => simp [Except.map, Nat.not_le_of_lt hlen]
      | ok markup =>
        by_cases hcount : loginWallSignInThreshold ≤ signInCount html
        · simp [Except.map, hcount]
        · cases markup with
          | true => simp [Except.map, hcount]
          | false => simp [Except.map, hcount, hlen]
    · rw [if_neg hlen]
      by_cases hcount : loginWallSignInThreshold ≤ signInCount html
      · simp [Except.map, hcount, Nat.le_of_not_lt hlen]
      · simp [Except.map, hcount, hlen]

/-- A page is reported for a pattern of a kind exactly when the weights of that kind's patterns add
up to the threshold. -/
def WeightsAdded (html title : Str) : Prop :=
  ∀ kind, (∃ s, detect html title = .ok (some s) ∧ s.FromPattern ∧ s.kind = kind) ↔
    blockThreshold ≤ total kind html title

/-- The signal returned has fired, with the greatest confidence of all that fired. -/
def GreatestReturned (html title : Str) : Prop :=
  ∀ s, detect html title = .ok (some s) →
    Fired html title s ∧ ∀ t, Fired html title t → t.confidence ≤ s.confidence

/-- A phrase is added to the title: it is in the new one, beside the phrases of the old one. -/
def AddsPhrase (q : Pattern) (title title' : Str) : Prop :=
  ∀ p ∈ patterns, p.InTitle title' ↔ p.InTitle title ∨ p.phrase = q.phrase

/-- Adding a phrase to the title keeps a reported page reported. -/
def DetectionKept (html title : Str) : Prop :=
  ∀ q ∈ patterns, ∀ title', AddsPhrase q title title' → Detected html title → Detected html title'

/-- No kind's total reaches the threshold, or one kind's alone does, one of its patterns does so by
itself, and the sign-in heuristic does not replace it. -/
def OneKindByOnePattern (html title : Str) : Prop :=
  (∀ kind, ¬ blockThreshold ≤ total kind html title) ∨
  ∃ p ∈ patterns, p.Alone html title ∧
    (∀ kind, blockThreshold ≤ total kind html title ↔ kind = p.kind) ∧
    (p.kind = .loginWall ∨ ¬ loginWallSignInThreshold ≤ signInCount html)

/-- The page is reported for one pattern only, found in the body, whose title weight stays below
the threshold. -/
def LostInTitle (html title : Str) : Prop :=
  ∃ q ∈ patterns, q.Alone html title ∧ ¬ q.InTitle title ∧ q.titleWeight < blockThreshold ∧
    (∀ p ∈ patterns, p.Alone html title → p.phrase = q.phrase) ∧ ¬ Flagged html

private theorem weightsAdded_of_some {s : BlockSignal} (hbest : bestPattern html title = some s) :
    WeightsAdded html title ↔ OneKindByOnePattern html title := by
  obtain ⟨hfired, ⟨p, hp, halone, hkind⟩, hconf, -⟩ := bestPattern_eq_some hbest
  have hfrom := hfired.fromPattern hconf
  have hdetect := detect_of_some hbest
  by_cases hlogin : s.kind ≠ .loginWall ∧ loginWallSignInThreshold ≤ signInCount html
  · -- the heuristic takes the place of the pattern signal
    rw [if_pos hlogin] at hdetect
    constructor
    · intro h
      obtain ⟨t, ht, htfrom, -⟩ := (h p.kind).mpr (halone.le_total hp)
      rw [hdetect] at ht
      obtain rfl : signInSignal html = t := by simpa using ht
      exact absurd htfrom (signInSignal_not_fromPattern html)
    · rintro (hnone | ⟨q, hq, -, honly, hq'⟩)
      · exact absurd (halone.le_total hp) (hnone p.kind)
      · have hpq : p.kind = q.kind := (honly p.kind).mp (halone.le_total hp)
        rw [hkind, hpq] at hlogin
        exact absurd hlogin (by tauto)
  · rw [if_neg hlogin] at hdetect
    have hreturned : ∀ kind, (∃ t, detect html title = .ok (some t) ∧ t.FromPattern ∧
        t.kind = kind) ↔ kind = p.kind := by
      intro kind
      constructor
      · rintro ⟨t, ht, -, rfl⟩
        rw [hdetect] at ht
        obtain rfl : s = t := by simpa using ht
        exact hkind
      · rintro rfl
        exact ⟨s, hdetect, hfrom, hkind⟩
    constructor
    · intro h
      refine .inr ⟨p, hp, halone, fun kind ↦ ((h kind).symm.trans (hreturned kind)), ?_⟩
      rw [← hkind]
      tauto
    · rintro (hnone | ⟨q, hq, -, honly, -⟩)
      · exact absurd (halone.le_total hp) (hnone p.kind)
      · intro kind
        have hpq : p.kind = q.kind := (honly p.kind).mp (halone.le_total hp)
        rw [hreturned kind, honly kind, hpq]

/-- The weights count as promised exactly when no kind or one pattern's kind reaches the
threshold. -/
theorem weightsAdded_iff : WeightsAdded html title ↔ OneKindByOnePattern html title := by
  cases hbest : bestPattern html title with
  | some s => exact weightsAdded_of_some hbest
  | none =>
    have hno := bestPattern_eq_none_iff.mp hbest
    have hreturned : ∀ kind, ¬ ∃ s, detect html title = .ok (some s) ∧ s.FromPattern ∧
        s.kind = kind := by
      rintro kind ⟨s, hs, hfrom, -⟩
      rw [detect_of_none hbest] at hs
      cases hmarkup : (if len html < emptyThresholdBytes then looksLikeHtml html else .ok true) with
      | error e =>
        rw [hmarkup] at hs
        exact absurd hs (by simp [Except.map])
      | ok markup =>
        rw [hmarkup] at hs
        simp only [Except.map, Except.ok.injEq] at hs
        split at hs
        · rw [← Option.some.inj hs] at hfrom
          exact signInSignal_not_fromPattern html hfrom
        · split at hs
          · exact absurd hs (by simp)
          · rw [← Option.some.inj hs] at hfrom
            exact smallPageSignal_not_fromPattern html hfrom
    constructor
    · exact fun h ↦ .inl fun kind hk ↦ hreturned kind ((h kind).mpr hk)
    · rintro (hnone | ⟨p, hp, halone, -⟩)
      · exact fun kind ↦ ⟨fun hs ↦ absurd hs (hreturned kind), fun hk ↦ absurd hk (hnone kind)⟩
      · exact absurd halone (hno p hp)

/-- Where the weights count as promised, the signal returned is the greatest. -/
theorem OneKindByOnePattern.greatestReturned (h : OneKindByOnePattern html title) :
    GreatestReturned html title := by
  intro s hs
  cases hbest : bestPattern html title with
  | some b =>
    obtain ⟨hfired, ⟨p, hp, halone, hkind⟩, hconf, hgreatest⟩ := bestPattern_eq_some hbest
    -- the kind of the best pattern is the one that reaches the threshold
    have hlogin : ¬ (b.kind ≠ .loginWall ∧ loginWallSignInThreshold ≤ signInCount html) := by
      rcases h with hnone | ⟨q, -, -, honly, hq⟩
      · exact absurd (halone.le_total hp) (hnone p.kind)
      · rw [hkind, (honly p.kind).mp (halone.le_total hp)]
        tauto
    rw [detect_of_some hbest, if_neg hlogin] at hs
    obtain rfl : b = s := by simpa using hs
    refine ⟨hfired, fun t ht ↦ ?_⟩
    cases ht with
    | title hq ht hw =>
      have hscore := hgreatest _ hq (by rwa [Pattern.Alone, if_pos ht])
      rwa [Pattern.score_eq, if_pos ht] at hscore
    | body hq ht hb hw =>
      have hscore := hgreatest _ hq (by rw [Pattern.Alone, if_neg ht]; exact ⟨hb, hw⟩)
      rwa [Pattern.score_eq, if_neg ht, if_pos hb] at hscore
    | smallPage hlen hplain => exact Nat.le_trans (show 50 ≤ 70 by decide) hconf
    | signIn hcount => exact Nat.le_trans (show 60 ≤ 70 by decide) hconf
  | none =>
    have hno := bestPattern_eq_none_iff.mp hbest
    have hpattern : ∀ t, Fired html title t →
        (t = smallPageSignal html ∧ len html < emptyThresholdBytes ∧
          looksLikeHtml html = .ok false) ∨
        (t = signInSignal html ∧ loginWallSignInThreshold ≤ signInCount html) := by
      intro t ht
      cases ht with
      | title hq ht hw => exact absurd (by rwa [Pattern.Alone, if_pos ht]) (hno _ hq)
      | body hq ht hb hw =>
        exact absurd (by rw [Pattern.Alone, if_neg ht]; exact ⟨hb, hw⟩) (hno _ hq)
      | smallPage hlen hplain => exact .inl ⟨rfl, hlen, hplain⟩
      | signIn hcount => exact .inr ⟨rfl, hcount⟩
    rw [detect_of_none hbest] at hs
    cases hmarkup : (if len html < emptyThresholdBytes then looksLikeHtml html else .ok true) with
    | error e =>
      rw [hmarkup] at hs
      exact absurd hs (by simp [Except.map])
    | ok markup =>
      rw [hmarkup] at hs
      simp only [Except.map, Except.ok.injEq] at hs
      by_cases hcount : loginWallSignInThreshold ≤ signInCount html
      · rw [if_pos hcount] at hs
        rw [← Option.some.inj hs]
        refine ⟨.signIn hcount, fun t ht ↦ ?_⟩
        rcases hpattern t ht with ⟨rfl, -⟩ | ⟨rfl, -⟩
        · exact show 50 ≤ 60 by decide
        · exact Nat.le_refl _
      · rw [if_neg hcount] at hs
        cases markup with
        | true => exact absurd hs (by simp)
        | false =>
          have hlen : len html < emptyThresholdBytes := by
            by_contra hlen
            exact absurd hmarkup (by simp [hlen])
          rw [if_pos hlen] at hmarkup
          rw [← Option.some.inj hs]
          refine ⟨.smallPage hlen hmarkup, fun t ht ↦ ?_⟩
          rcases hpattern t ht with ⟨rfl, -⟩ | ⟨-, h⟩
          · exact Nat.le_refl _
          · exact absurd h hcount

-- The literals are turned into lists of characters first, the kernel is slow to read them.
private theorem patterns_phrases : ∀ p ∈ patterns, '\n' ∉ toLowercase p.phrase ∧
    ∀ q ∈ patterns, (p.phrase = q.phrase → p.titleWeight = q.titleWeight) ∧
      (contains (toLowercase p.phrase) (toLowercase q.phrase) = true ↔ p.phrase = q.phrase) := by
  unfold patterns
  repeat rw [String.toList_ofList]
  decide

/-- A phrase on a new line at the end of the title is added to it. -/
theorem addsPhrase_append {q : Pattern} (hq : q ∈ patterns) (title : Str) :
    AddsPhrase q title (title ++ '\n' :: q.phrase) := by
  intro p hp
  obtain ⟨hsep, hphrases⟩ := patterns_phrases p hp
  have hlower : toLowercase (title ++ '\n' :: q.phrase) =
      toLowercase title ++ '\n' :: toLowercase q.phrase := by
    simp only [toLowercase, List.flatMap_append, List.flatMap_cons]
    rfl
  unfold Pattern.InTitle
  rw [hlower, contains_append_cons hsep, Bool.or_eq_true, (hphrases q hq).2]

/-- Patterns other than the one added stand as they did before. -/
theorem AddsPhrase.alone_iff {p q : Pattern} {title' : Str} (hadd : AddsPhrase q title title')
    (hp : p ∈ patterns) (hne : p.phrase ≠ q.phrase) :
    p.Alone html title' ↔ p.Alone html title := by
  have hsame : p.InTitle title' ↔ p.InTitle title := by
    rw [hadd p hp, or_iff_left hne]
  unfold Pattern.Alone
  simp only [hsame]

/-- Adding a phrase loses a page exactly when it is reported for that one phrase in the body. -/
theorem detectionKept_iff : DetectionKept html title ↔ ¬ LostInTitle html title := by
  constructor
  · rintro h ⟨q, hq, halone, hnot, hweight, honly, hflag⟩
    have hadd := addsPhrase_append hq title
    have hkept := h q hq _ hadd (detected_iff.mpr (.inl ⟨q, hq, halone⟩))
    obtain ⟨p, hp, hpa⟩ := (detected_iff.mp hkept).resolve_right hflag
    by_cases hpq : p.phrase = q.phrase
    · -- the phrase now counts with its title weight
      rw [Pattern.Alone, if_pos ((hadd p hp).mpr (.inr hpq)),
        ((patterns_phrases p hp).2 q hq).1 hpq] at hpa
      omega
    · exact hpq (honly p hp ((hadd.alone_iff hp hpq).mp hpa))
  · intro hlost q hq title' hadd hdet
    by_contra hundetected
    rw [detected_iff, not_or] at hundetected
    have hmoved : ∀ p ∈ patterns, p.Alone html title → p.phrase = q.phrase := by
      intro p hp hpa
      by_contra hne
      exact hundetected.1 ⟨p, hp, (hadd.alone_iff hp hne).mpr hpa⟩
    obtain ⟨p, hp, hpa⟩ := (detected_iff.mp hdet).resolve_right hundetected.2
    have hweight : p.titleWeight < blockThreshold := by
      by_contra hge
      refine hundetected.1 ⟨p, hp, ?_⟩
      rw [Pattern.Alone, if_pos ((hadd p hp).mpr (.inr (hmoved p hp hpa)))]
      omega
    refine hlost ⟨p, hp, hpa, fun ht ↦ ?_, hweight, fun r hr hra ↦ ?_, hundetected.2⟩
    · rw [Pattern.Alone, if_pos ht] at hpa
      omega
    · rw [hmoved r hr hra, hmoved p hp hpa]

private theorem eq_ok_of_toOption {s : Option BlockSignal}
    (h : (detect html title).toOption = some s) : detect html title = .ok s := by
  cases hd : detect html title with
  | error e =>
    rw [hd] at h
    exact absurd h (by simp [Except.toOption])
  | ok t =>
    rw [hd] at h
    rw [Option.some.inj h]

/-- The scoring law holds on a page exactly when no kind's total reaches the threshold or one
pattern's kind alone does, and no page is reported for one body phrase that a title would lose. -/
theorem scoring_law_iff (html title : Str) :
    (WeightsAdded html title ∧ GreatestReturned html title ∧ DetectionKept html title) ↔
      OneKindByOnePattern html title ∧ ¬ LostInTitle html title := by
  rw [detectionKept_iff]
  constructor
  · rintro ⟨hadded, -, hlost⟩
    exact ⟨weightsAdded_iff.mp hadded, hlost⟩
  · rintro ⟨hone, hlost⟩
    exact ⟨weightsAdded_iff.mpr hone, hone.greatestReturned, hlost⟩

/-- Two phrases of half the weight each pass unseen, repeated sign-in phrases replace a stronger
signal, and a reported page is lost by the phrase it was reported for. -/
theorem scoring_law_fails :
    ¬ WeightsAdded "<html>captcha: I am human</html>" "" ∧
    ¬ GreatestReturned "<html>awswaf-token, sign in, sign in, sign in</html>" "" ∧
    ¬ DetectionKept "<html>datadome</html>" "" := by
  refine ⟨fun h ↦ ?_, fun h ↦ ?_, fun h ↦ ?_⟩
  · have htotal : blockThreshold ≤ total .genericCaptcha "<html>captcha: I am human</html>" "" := by
      unfold total patterns
      repeat rw [String.toList_ofList]
      decide
    have hnone : (detect "<html>captcha: I am human</html>" "").toOption = some none := by
      unfold detect patterns
      repeat rw [String.toList_ofList]
      decide
    obtain ⟨s, hs, -⟩ := (h .genericCaptcha).mpr htotal
    exact absurd ((eq_ok_of_toOption hnone).symm.trans hs) (by simp)
  · have hdetect : (detect "<html>awswaf-token, sign in, sign in, sign in</html>" "").toOption =
        some (some (signInSignal "<html>awswaf-token, sign in, sign in, sign in</html>")) := by
      unfold detect patterns
      repeat rw [String.toList_ofList]
      decide
    have hs := eq_ok_of_toOption hdetect
    have hq : (⟨.awsWaf, 0, 90, "awswaf-token"⟩ : Pattern) ∈ patterns := by simp [patterns]
    have hle := (h _ hs).2 _ (.body hq (by decide) (by decide) (by decide))
    exact absurd hle (show ¬ 90 ≤ 60 by decide)
  · have hq : (⟨.datadome, 0, 70, "datadome"⟩ : Pattern) ∈ patterns := by simp [patterns]
    have hdet : Detected "<html>datadome</html>" "" :=
      detected_iff.mpr (.inl ⟨_, hq, by decide⟩)
    have hnone : (detect "<html>datadome</html>" "\ndatadome").toOption = some none := by
      unfold detect patterns
      repeat rw [String.toList_ofList]
      decide
    obtain ⟨s, hs⟩ := h _ hq _ (addsPhrase_append hq "") hdet
    exact absurd ((eq_ok_of_toOption hnone).symm.trans hs) (by simp)

end CrwShield.Antibot
