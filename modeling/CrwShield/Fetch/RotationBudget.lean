import CrwShield.Fetch.RotationSteps

/-!
# The rotation budget of a host

The budget of `rotation.rs:5–19` over interleaved calls. A call reads the number of rotations of
its host and acts on it after others have gone on, and a rotation that fails is never recorded. So
the budget holds where no call acts on a number that others are about to change, and no rotation
fails.
-/

open CrwShield.Base CrwShield.Base.Str CrwShield.Antibot CrwShield.Core

namespace CrwShield.Fetch

/-- The budget of a host, over what was settled: one L1, three rotations, and after the L1 and
three blocks decided `Rotate`, no block is kept from `Fail`. -/
structure WithinBudget (host : Str) (log : List (Str × Milestone)) : Prop where
  l1 : log.count (host, .cleared) ≤ 1
  l2 : log.count (host, .rotated) ≤ maxRotationsPerHost
  l3 : ∀ before, before ++ [(host, .kept)] <+: log →
    ¬ (1 ≤ before.count (host, .cleared) ∧ maxRotationsPerHost ≤ before.count (host, .rotate))

/-- Whenever a block of the host was kept from `Fail`, fewer than three were decided `Rotate`. -/
def KeptInBudget (host : Str) (log : List (Str × Milestone)) : Prop :=
  ∀ before, before ++ [(host, .kept)] <+: log →
    before.count (host, .rotate) < maxRotationsPerHost

theorem KeptInBudget.append {host other : Str} {log : List (Str × Milestone)}
    {entry : Option Milestone} (h : KeptInBudget host log)
    (hkept : other = host → entry = some .kept →
      log.count (host, .rotate) < maxRotationsPerHost) :
    KeptInBudget host (log ++ entry.toList.map (other, ·)) := by
  cases entry with
  | none => simpa using h
  | some m =>
    intro before hpre
    rcases List.prefix_concat_iff.mp hpre with heq | hpre
    · obtain ⟨rfl, he⟩ := List.append_inj' heq rfl
      obtain ⟨rfl, rfl⟩ := Prod.mk.inj (List.singleton_inj.mp he)
      exact hkept rfl rfl
    · exact h before hpre

/-- The call has read the rotations of its host and found them within the budget: it is about to
take L1, or its rotation is not recorded. -/
def Phase.pending : Phase → Bool
  | .inBudget _ | .cooling _ | .rotated => true
  | _ => false

/-- The call is decided `Rotate`, and the rotation is not recorded. -/
def Phase.rotating : Phase → Bool
  | .cooling _ | .rotated => true
  | _ => false

/-- The call's rotation is made and not recorded. -/
def Phase.unrecorded : Phase → Bool
  | .rotated => true
  | _ => false

/-- The call has read the L1 flag of its host clear and not set it. -/
def Phase.marking : Phase → Bool
  | .unmarked => true
  | _ => false

/-- The call is one for the host that stands at such a phase. -/
def RotationCall.standsAt (U : UrlCrate) (host : Str) (p : Phase → Bool) (c : RotationCall) :
    Bool :=
  counterHost U c.url = host && p c.phase

/-- How many calls for the host stand at such a phase. -/
def standing (U : UrlCrate) (host : Str) (p : Phase → Bool) (calls : List RotationCall) : ℕ :=
  calls.countP (·.standsAt U host p)

/-- What a call for the host that goes on finds. When it reads the number of rotations, three are
recorded, or those recorded and the calls pending are fewer than three together; when it reads the
L1 flag clear, no other call is about to set it; when it is decided `Rotate`, its ladder has a
proxy; and the proxy moves to a new profile. -/
def ReadsFreshAt (U : UrlCrate) (host : Str) (s : RotationCalls) (a : Answers) (hasProxy : Bool) :
    Phase → Prop
  | .blocked _ => maxRotationsPerHost ≤ (counterFor host s.counters).rotations ∨
      (counterFor host s.counters).rotations + standing U host Phase.pending s.calls <
        maxRotationsPerHost
  | .inBudget _ => ((counterFor host s.counters).l1Attempted = true → hasProxy = true) ∧
      ((counterFor host s.counters).l1Attempted = false →
        standing U host Phase.marking s.calls = 0)
  | .cooling _ => a.rotation.toOption.join.isSome = true
  | _ => True

instance (U : UrlCrate) (host : Str) (s : RotationCalls) (a : Answers) (hasProxy : Bool)
    (p : Phase) : Decidable (ReadsFreshAt U host s a hasProxy p) :=
  match p with
  | .blocked _ => inferInstanceAs (Decidable (_ ∨ _))
  | .inBudget _ => inferInstanceAs (Decidable (_ ∧ _))
  | .cooling _ => inferInstanceAs (Decidable (_ = _))
  | .fetching | .unmarked | .rotated | .refetching | .returned _ => inferInstanceAs (Decidable True)

/-- What a call for the host reads is not about to change. -/
def ReadsFresh (U : UrlCrate) (host : Str) (s : RotationCalls) : RotationLabel → Prop
  | .call _ _ => True
  | .resume i a => ∀ c ∈ s.calls[i]?, counterHost U c.url = host →
      ReadsFreshAt U host s a c.hasProxy c.phase

instance (U : UrlCrate) (host : Str) (s : RotationCalls) (l : RotationLabel) :
    Decidable (ReadsFresh U host s l) :=
  match l with
  | .call _ _ => inferInstanceAs (Decidable True)
  | .resume i a => inferInstanceAs (Decidable (∀ c ∈ s.calls[i]?, counterHost U c.url = host →
      ReadsFreshAt U host s a c.hasProxy c.phase))

/-- The counter of the host accounts for what was settled and for the calls under way. -/
structure Account (U : UrlCrate) (host : Str) (s : RotationCalls) : Prop where
  marked : (counterFor host s.counters).l1Attempted = true ↔ 0 < s.log.count (host, .cleared)
  once : s.log.count (host, .cleared) + standing U host Phase.marking s.calls ≤ 1
  decided : s.log.count (host, .rotate) =
    (counterFor host s.counters).rotations + standing U host Phase.rotating s.calls
  made : s.log.count (host, .rotated) =
    (counterFor host s.counters).rotations + standing U host Phase.unrecorded s.calls
  budget : (counterFor host s.counters).rotations + standing U host Phase.pending s.calls ≤
    maxRotationsPerHost

section Standing

variable {U : UrlCrate} {host : Str} {p : Phase → Bool} {before after calls : List RotationCall}
  {c : RotationCall} {q : Phase}

theorem standing_le {p' : Phase → Bool} (h : ∀ phase, p phase = true → p' phase = true) :
    standing U host p calls ≤ standing U host p' calls := by
  refine List.countP_mono_left fun c _ hc ↦ ?_
  obtain ⟨hhost, hp⟩ := Bool.and_eq_true_iff.mp hc
  exact Bool.and_eq_true_iff.mpr ⟨hhost, h _ hp⟩

/-- A call that has just been made stands at no phase that is counted. -/
theorem standing_call {url : Str} {hasProxy : Bool} (hp : p .fetching = false) :
    standing U host p (calls ++ [⟨url, hasProxy, .fetching⟩]) = standing U host p calls := by
  simp [standing, RotationCall.standsAt, hp]

/-- A call for the host that moves is counted where it stands. -/
theorem standing_moved (hhost : counterHost U c.url = host) :
    standing U host p (before ++ { c with phase := q } :: after) + (p c.phase).toNat =
      standing U host p (before ++ c :: after) + (p q).toNat := by
  simp only [standing, RotationCall.standsAt, List.countP_append, List.countP_cons, hhost,
    decide_true, Bool.true_and]
  cases p c.phase <;> cases p q <;> simp <;> omega

/-- A call for another host is not counted. -/
theorem standing_other (hhost : counterHost U c.url ≠ host) :
    standing U host p (before ++ { c with phase := q } :: after) =
      standing U host p (before ++ c :: after) := by
  simp [standing, RotationCall.standsAt, hhost]

end Standing

theorem account_start {U : UrlCrate} {host : Str} : Account U host .start := by
  refine ⟨?_, ?_, ?_, ?_, ?_⟩ <;>
    simp [RotationCalls.start, counterFor, HostBlockCounter.new, standing]

private theorem count_entry {log : List (Str × Milestone)} {host : Str} {entry : Option Milestone}
    {m : Milestone} :
    (log ++ entry.toList.map (host, ·)).count (host, m) =
      log.count (host, m) + if entry = some m then 1 else 0 := by
  rw [List.count_append]
  cases entry <;> simp [List.count_singleton]

private theorem count_entry_other {log : List (Str × Milestone)} {host other : Str}
    {entry : Option Milestone} {m : Milestone} (hne : other ≠ host) :
    (log ++ entry.toList.map (other, ·)).count (host, m) = log.count (host, m) := by
  have hnone : (entry.toList.map (other, ·)).count (host, m) = 0 :=
    List.count_eq_zero.mpr (by simp [hne])
  rw [List.count_append, hnone, Nat.add_zero]

section Moved

variable {U : UrlCrate} {host : Str} {hasProxy : Bool} {a : Answers}
  {counters counters' : HostCounters} {p q : Phase} {entry : Option Milestone}
  (hm : Moved host hasProxy a counters p q counters' entry)
include hm

/-- A rotation is recorded where one was made and not recorded. -/
theorem Moved.rotations (hlt : (counterFor host counters).rotations + 1 < 2 ^ 64) :
    (counterFor host counters').rotations =
      (counterFor host counters).rotations + p.unrecorded.toNat := by
  cases hm with
  | cleared => simp [counterFor_updateCounter, HostBlockCounter.markL1Attempted, Phase.unrecorded]
  | recorded =>
    have hmod := Nat.mod_eq_of_lt hlt
    rw [counterFor_updateCounter, if_pos rfl]
    exact hmod
  | _ => simp [Phase.unrecorded]

/-- The L1 flag is set where it was read clear. -/
theorem Moved.l1Attempted : (counterFor host counters').l1Attempted =
    ((counterFor host counters).l1Attempted || p.marking) := by
  cases hm with
  | cleared => simp [counterFor_updateCounter, HostBlockCounter.markL1Attempted, Phase.marking]
  | recorded => simp [counterFor_updateCounter, HostBlockCounter.recordRotation, Phase.marking]
  | _ => simp [Phase.marking]

theorem Moved.cleared_eq : (if entry = some .cleared then 1 else 0) = p.marking.toNat := by
  cases hm <;> simp [Phase.marking]

theorem Moved.rotated_eq : (if entry = some .rotated then 1 else 0) = q.unrecorded.toNat := by
  cases hm with
  | rotate hagain => cases hasProxy <;> simp [Phase.unrecorded]
  | _ => simp [Phase.unrecorded]

/-- A call that is decided `Rotate` rotates until its rotation is recorded. -/
theorem Moved.rotate_eq {s : RotationCalls} (hs : s.counters = counters)
    (hfresh : ReadsFreshAt U host s a hasProxy p) :
    (if entry = some .rotate then 1 else 0) + p.rotating.toNat =
      p.unrecorded.toNat + q.rotating.toNat := by
  subst hs
  cases hm with
  | rotate hagain =>
    obtain rfl := hfresh.1 hagain
    simp [Phase.rotating, Phase.unrecorded]
  | unrotated hnone => exact absurd hfresh (by simp [ReadsFreshAt, hnone])
  | _ => simp [Phase.rotating, Phase.unrecorded]

/-- A block that is kept from `Fail` on a fresh reading is pending, and finds room. -/
theorem Moved.room {s : RotationCalls} (hs : s.counters = counters)
    (hfresh : ReadsFreshAt U host s a hasProxy p) (hentry : entry = some .kept) :
    (counterFor host counters).rotations + standing U host Phase.pending s.calls <
      maxRotationsPerHost := by
  subst hs
  cases hm with
  | kept hn => exact hfresh.resolve_left (Nat.not_le.mpr hn)
  | _ => exact absurd hentry (by simp)

/-- Only a block that is kept from `Fail` becomes pending, and a rotation that is recorded is
pending no longer. -/
theorem Moved.pending_le : q.pending.toNat + p.unrecorded.toNat ≤
    p.pending.toNat + if entry = some .kept then 1 else 0 := by
  cases hm with
  | rotate hagain => cases hasProxy <;> simp [Phase.pending, Phase.unrecorded]
  | _ => simp [Phase.pending, Phase.unrecorded]

/-- A call that reads the L1 flag clear on a fresh reading is the only one. -/
theorem Moved.marking {s : RotationCalls} (hs : s.counters = counters)
    (hfresh : ReadsFreshAt U host s a hasProxy p) (hq : q.marking = true) :
    (counterFor host counters).l1Attempted = false ∧
      standing U host Phase.marking s.calls = 0 := by
  subst hs
  cases hm with
  | first hfirst => exact ⟨hfirst, hfresh.2 hfirst⟩
  | rotate hagain => cases hasProxy <;> exact absurd hq (by simp [Phase.marking])
  | _ => exact absurd hq (by simp [Phase.marking])

end Moved

section Step

variable {U : UrlCrate} {host : Str} {s : RotationCalls} {a : Answers}
  {before after : List RotationCall} {c : RotationCall} {q : Phase} {counters : HostCounters}
  {entry : Option Milestone}

/-- A call for the host whose reading is fresh keeps the account. -/
theorem Account.moved (h : Account U host s) (hcalls : s.calls = before ++ c :: after)
    (hhost : counterHost U c.url = host)
    (hm : Moved host c.hasProxy a s.counters c.phase q counters entry)
    (hfresh : ReadsFreshAt U host s a c.hasProxy c.phase) :
    Account U host ⟨counters, before ++ { c with phase := q } :: after,
      s.log ++ entry.toList.map (host, ·)⟩ := by
  obtain ⟨hmarked, honce, hdecided, hmade, hbudget⟩ := h
  -- the call is counted where it stands, before and after
  have hmoves : ∀ p : Phase → Bool,
      standing U host p (before ++ { c with phase := q } :: after) + (p c.phase).toNat =
        standing U host p s.calls + (p q).toNat := fun p ↦
    hcalls ▸ standing_moved hhost
  have hlt : (counterFor host s.counters).rotations + 1 < 2 ^ 64 := by
    have hmax : maxRotationsPerHost + 1 < 2 ^ 64 := by decide
    omega
  have hrotations := hm.rotations hlt
  refine ⟨?_, ?_, ?_, ?_, ?_⟩ <;> dsimp only
  · rw [hm.l1Attempted, Bool.or_eq_true, hmarked, count_entry, hm.cleared_eq]
    cases c.phase.marking <;> simp
  · have hmarking := hmoves Phase.marking
    rw [count_entry, hm.cleared_eq]
    cases hq : q.marking with
    | false =>
      rw [hq, Bool.toNat_false] at hmarking
      omega
    | true =>
      obtain ⟨hclear, halone⟩ := hm.marking rfl hfresh hq
      have hnone : s.log.count (host, .cleared) = 0 := by
        by_contra hpos
        exact Bool.false_ne_true (hclear.symm.trans (hmarked.mpr (Nat.pos_of_ne_zero hpos)))
      rw [hq, Bool.toNat_true] at hmarking
      omega
  · have hrotating := hmoves Phase.rotating
    have hrotate := hm.rotate_eq rfl hfresh
    rw [count_entry]
    omega
  · have hunrecorded := hmoves Phase.unrecorded
    rw [count_entry, hm.rotated_eq]
    omega
  · have hpending := hmoves Phase.pending
    have hle := hm.pending_le
    split at hle
    · next hentry =>
      have hroom := hm.room rfl hfresh hentry
      omega
    · omega

variable {s' : RotationCalls} {l : RotationLabel}

/-- A step whose reading is fresh keeps the account. -/
theorem Account.step (h : Account U host s) (hfresh : ReadsFresh U host s l)
    (hstep : rotationStep U s l = some s') : Account U host s' := by
  rcases rotationStep_cases hstep with ⟨url, hasProxy, -, rfl⟩ |
    ⟨i, a, before, c, after, phase, counters, entry, rfl, hc, hcalls, hmoved, rfl⟩
  · obtain ⟨hmarked, honce, hdecided, hmade, hbudget⟩ := h
    refine ⟨hmarked, ?_, ?_, ?_, ?_⟩ <;> dsimp only <;> rw [standing_call rfl] <;> assumption
  · by_cases hhost : counterHost U c.url = host
    · rw [hhost] at hmoved ⊢
      exact h.moved hcalls hhost hmoved (hfresh c hc hhost)
    · obtain ⟨cs, calls, log⟩ := s
      obtain rfl : calls = before ++ c :: after := hcalls
      obtain ⟨hmarked, honce, hdecided, hmade, hbudget⟩ := h
      have hcounter := hmoved.counterFor_of_ne hhost
      refine ⟨?_, ?_, ?_, ?_, ?_⟩ <;>
        simp only [hcounter, count_entry_other hhost, standing_other hhost] <;> assumption

/-- A block that is kept from `Fail` on a fresh reading is one of the three. -/
theorem Account.kept_step (h : Account U host s) (hkept : KeptInBudget host s.log)
    (hfresh : ReadsFresh U host s l) (hstep : rotationStep U s l = some s') :
    KeptInBudget host s'.log := by
  rcases rotationStep_cases hstep with ⟨url, hasProxy, -, rfl⟩ |
    ⟨i, a, before, c, after, phase, counters, entry, rfl, hc, -, hmoved, rfl⟩
  · exact hkept
  · refine hkept.append fun hhost hentry ↦ ?_
    subst hhost hentry
    have hcall := hfresh c hc rfl
    -- the rotations decided are those recorded and those of calls that are pending
    have hroom := hmoved.room rfl hcall rfl
    have hle : standing U (counterHost U c.url) Phase.rotating s.calls ≤
        standing U (counterHost U c.url) Phase.pending s.calls :=
      standing_le fun phase hp ↦ by cases phase <;> simp_all [Phase.rotating, Phase.pending]
    have hdecided := h.decided
    omega

end Step

/-- In every run of calls, interleaved in any way, in which the calls for a host read it fresh and
their rotations succeed, the budget of the host is kept. -/
theorem withinBudget_of_readsFresh {U : UrlCrate} (host : Str) {labels : List RotationLabel}
    {s : RotationCalls}
    (h : Run (Guarded (ReadsFresh U host) (PartialSteps (rotationStep U))) .start labels s) :
    WithinBudget host s.log := by
  have hboth : Account U host s ∧ KeptInBudget host s.log :=
    h.invariant (I := fun s ↦ Account U host s ∧ KeptInBudget host s.log)
      (fun _ _ _ hs hstep ↦ ⟨hs.1.step hstep.1 hstep.2, hs.1.kept_step hs.2 hstep.1 hstep.2⟩)
      ⟨account_start, fun before hpre ↦ absurd (List.prefix_nil.mp hpre) (by simp)⟩
  obtain ⟨haccount, hkept⟩ := hboth
  refine ⟨(Nat.le_add_right _ _).trans haccount.once, ?_, fun before hpre hover ↦ ?_⟩
  · have hle : standing U host Phase.unrecorded s.calls ≤ standing U host Phase.pending s.calls :=
      standing_le fun phase hp ↦ by cases phase <;> simp_all [Phase.unrecorded, Phase.pending]
    rw [haccount.made]
    exact (Nat.add_le_add_left hle _).trans haccount.budget
  · exact Nat.not_le.mpr (hkept before hpre) hover.2

/-- An answer without a body, which the detector takes for a block. -/
def emptyPage : LadderResult where
  fetch := ⟨"https://shop.example/", "https://shop.example/", 403, [], []⟩
  screenshot := none
  source := .http
  situation := buildReport .genericAccessDenied .cdp (some 403) [] none

/-- Answers of a site that blocks every request and of a proxy that always has a next profile. -/
def blockedAnswers : Answers := ⟨.ok emptyPage, .ok (some "chrome_124"), 0⟩

/-- Steps of the call at an index. -/
def resumes (i n : ℕ) : List RotationLabel := List.replicate n (.resume i blockedAnswers)

/-- A call that takes L1, then calls that are all within the budget when they look at it, and all
rotate. -/
def rotatingTogether (n : ℕ) : List RotationLabel :=
  .call "https://shop.example/" true :: resumes 0 4 ++
    (List.range n).flatMap (fun i ↦ .call "https://shop.example/" true :: resumes (i + 1) 3) ++
    (List.range n).flatMap (fun i ↦ resumes (i + 1) 1)

/-- How often the proxy rotates for the site. -/
def rotatedFor (s : RotationCalls) : ℕ :=
  s.log.count (counterHost .plain "https://shop.example/", .rotated)

/-- Three calls that rotate together, and one that comes after them. -/
def threeThenOne : List RotationLabel :=
  rotatingTogether 3 ++ (resumes 1 1 ++ resumes 2 1 ++ resumes 3 1) ++
    .call "https://shop.example/" true :: resumes 4 2

theorem withinBudget_of_readsFresh_three :
    ∃ s, RotationRun .plain .start threeThenOne s ∧ rotatedFor s = 3 ∧
      s.log.count (counterHost .plain "https://shop.example/", .failed) = 1 ∧
      WithinBudget (counterHost .plain "https://shop.example/") s.log := by
  have hrun : (threeThenOne.foldlM (fun s l ↦
      if ReadsFresh .plain (counterHost .plain "https://shop.example/") s l then
        rotationStep .plain s l else none) .start).map (fun s ↦ (rotatedFor s,
          s.log.count (counterHost .plain "https://shop.example/", .failed))) = some (3, 1) := by
    decide
  obtain ⟨s, hs, hcount⟩ := Option.map_eq_some_iff.mp hrun
  obtain ⟨hthree, hfailed⟩ := Prod.mk.inj hcount
  have hguarded := Run.guarded_of_foldlM hs
  exact ⟨s, hguarded.of_guarded, hthree, hfailed, withinBudget_of_readsFresh _ hguarded⟩

/-- Four calls that look at the counter before any of them rotates all rotate. -/
theorem not_withinBudget_together :
    ¬ ∀ (U : UrlCrate) (host : Str) (labels : List RotationLabel) (s : RotationCalls),
      RotationRun U .start labels s → WithinBudget host s.log := by
  intro hclaim
  have hrun : ((rotatingTogether 4).foldlM (rotationStep .plain) .start).map rotatedFor =
      some 4 := by decide
  obtain ⟨s, hs, hcount⟩ := Option.map_eq_some_iff.mp hrun
  have hle : rotatedFor s ≤ maxRotationsPerHost :=
    (hclaim .plain (counterHost .plain "https://shop.example/") _ s (.of_foldlM hs)).l2
  rw [hcount] at hle
  exact absurd hle (by decide)

end CrwShield.Fetch
