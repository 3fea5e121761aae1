import Mathlib.Algebra.Order.Ring.Nat
import Mathlib.Data.List.Infix
import CrwShield.Base.Runs

/-!
# The rate limiter

Crate `server`, `src/crates/server/src/rate_limit.rs`. Any number of calls of `wait` are under way;
between one lock and the next a call sleeps and others go on. Times are nanoseconds of the monotone
clock, and a step takes no time: time passes between steps. So the instant that a call records as
the last call stands for the one at which it returns; in the source the second is a little later.
-/

open CrwShield.Base

namespace CrwShield.Server

/-- A rate limiter, less its last call; `rate_limit.rs:25–29`. -/
structure RateLimiter where
  minInterval : Nat
  maxJitter : Nat

/-- Where a call of `wait` stands. -/
inductive WaitPhase where
  /-- It awaits the lock for the first time. -/
  | locking (jitter : Nat)
  /-- It sleeps until a time, and awaits the lock again. -/
  | sleeping (deadline : Nat)
  | returned (time : Nat)
  /-- The sum of two durations overflowed. -/
  | panicked
  deriving DecidableEq

/-- The call sleeps. -/
def WaitPhase.sleeps : WaitPhase → Bool
  | .sleeping _ => true
  | _ => false

/-- The clock, the last call of the limiter, the calls, and the times at which calls returned,
oldest first. -/
structure WaitState where
  clock : Nat
  lastCall : Option Nat
  calls : List WaitPhase
  returns : List Nat
  deriving DecidableEq

/-- Time passes, a call is made, or the call at an index takes the lock. -/
inductive WaitLabel where
  | tick (nanos : Nat)
  | call (seed : Nat)
  | resume (i : Nat)

/-- A new limiter; `rate_limit.rs:39–45`. -/
def WaitState.start : WaitState := ⟨0, none, [], []⟩

namespace RateLimiter

variable (l : RateLimiter)

/-- Jitter of a call, from the time of day and the process id; `rate_limit.rs:62–80`. -/
def jitter (seed : Nat) : Nat :=
  if l.maxJitter = 0 then 0
  else
    let nanos := l.maxJitter % 2 ^ 64
    if nanos = 0 then 0 else seed % nanos

/-- The longest duration, plus a nanosecond. -/
def durationLimit : Nat := 2 ^ 64 * 10 ^ 9

/-- The call at an index returns and counts as the last one. -/
def finish (i : Nat) (s : WaitState) : WaitState :=
  { s with
    lastCall := some s.clock
    calls := s.calls.set i (.returned s.clock)
    returns := s.returns ++ [s.clock] }

/-- What a call does under the lock: sleep for the rest of the interval or return;
`rate_limit.rs:82–102`. -/
def check (i jitter : Nat) (s : WaitState) : WaitState :=
  let required := l.minInterval + jitter
  if durationLimit ≤ required then { s with calls := s.calls.set i .panicked }
  else
    match s.lastCall.map (s.clock - ·) with
    | some e =>
      if e < required then { s with calls := s.calls.set i (.sleeping (s.clock + (required - e))) }
      else finish i s
    | none => finish i s

/-- One step of the calls; `rate_limit.rs:55–103`. -/
def step (s : WaitState) : WaitLabel → Option WaitState
  | .tick nanos => some { s with clock := s.clock + nanos }
  | .call seed =>
    if l.minInterval = 0 ∧ l.maxJitter = 0 then
      some { s with
        calls := s.calls ++ [.returned s.clock]
        returns := s.returns ++ [s.clock] }
    else some { s with calls := s.calls ++ [.locking (l.jitter seed)] }
  | .resume i =>
    match s.calls[i]? with
    | some (.locking jitter) => some (l.check i jitter s)
    | some (.sleeping deadline) => if deadline ≤ s.clock then some (finish i s) else none
    | _ => none

/-- Any two returns are at least the interval apart. -/
def Spaced (returns : List Nat) : Prop :=
  returns.Pairwise fun t t' ↦ t + l.minInterval ≤ t'

instance (returns : List Nat) : Decidable (l.Spaced returns) :=
  inferInstanceAs (Decidable (returns.Pairwise _))

/-- The call at an index returns when it takes the lock now: it has slept, or it finds that it need
not sleep. -/
def Returns (s : WaitState) (i : Nat) : Prop :=
  match s.calls[i]? with
  | some (.locking jitter) => l.minInterval + jitter < durationLimit ∧
      ∀ t ∈ s.lastCall, l.minInterval + jitter ≤ s.clock - t
  | some (.sleeping deadline) => deadline ≤ s.clock
  | _ => False

instance (s : WaitState) (i : Nat) : Decidable (l.Returns s i) := by
  unfold Returns
  split <;> infer_instance

/-- No call returns while another one sleeps. -/
def Undisturbed (s : WaitState) : WaitLabel → Prop
  | .resume i => l.Returns s i →
      ∀ j < s.calls.length, s.calls[j]?.any WaitPhase.sleeps → j = i
  | _ => True

instance (s : WaitState) : (e : WaitLabel) → Decidable (l.Undisturbed s e)
  | .tick _ => .isTrue trivial
  | .call _ => .isTrue trivial
  | .resume i => inferInstanceAs (Decidable (l.Returns s i → _))

/-- The last call is the last return, no return lies in the future, and a jitter that is not zero
stays below the largest. -/
structure Chronological (s : WaitState) : Prop where
  last : s.lastCall = s.returns.getLast?
  past : ∀ t ∈ s.returns, t ≤ s.clock
  jitters : ∀ (i jitter : Nat), s.calls[i]? = some (.locking jitter) →
    jitter = 0 ∨ jitter < l.maxJitter

/-- A call that sleeps waits for the interval and its jitter after the last call. -/
def Fresh (s : WaitState) : Prop :=
  ∀ (i deadline : Nat), s.calls[i]? = some (.sleeping deadline) → ∃ t jitter, s.lastCall = some t ∧
    deadline = t + l.minInterval + jitter ∧ (jitter = 0 ∨ jitter < l.maxJitter)

/-- What the calls keep as long as none returns while another one sleeps. -/
structure Orderly (s : WaitState) : Prop extends Chronological l s where
  fresh : l.Fresh s
  spaced : l.Spaced s.returns

variable {l}

theorem spaced_concat {returns : List Nat} {t : Nat} :
    l.Spaced (returns ++ [t]) ↔
      l.Spaced returns ∧ ∀ last, returns.getLast? = some last → last + l.minInterval ≤ t := by
  apply pairwise_concat
  intro a b c hab hbc
  omega

theorem jitter_bounded (seed : Nat) : l.jitter seed = 0 ∨ l.jitter seed < l.maxJitter := by
  unfold jitter
  split
  · exact .inl rfl
  · dsimp only
    split
    · exact .inl rfl
    · next hnanos =>
      refine .inr ((Nat.mod_lt _ (Nat.pos_of_ne_zero hnanos)).trans_le ?_)
      exact Nat.mod_le _ _

theorem undisturbed_resume {s : WaitState} {i : Nat} :
    l.Undisturbed s (.resume i) ↔ (l.Returns s i →
      ∀ (j deadline : Nat), s.calls[j]? = some (.sleeping deadline) → j = i) := by
  refine imp_congr_right fun _ ↦ ⟨fun h j deadline hj ↦ ?_, fun h j hj hsleeps ↦ ?_⟩
  · exact h j (List.getElem?_eq_some_iff.mp hj).1 (by rw [hj]; rfl)
  · obtain ⟨phase, hphase, hsleeps⟩ := (Option.any_eq_true _ _).mp hsleeps
    cases phase with
    | sleeping deadline => exact h j deadline hphase
    | _ => exact absurd hsleeps (by simp [WaitPhase.sleeps])

/-- What is found after a call came to another phase. -/
theorem getElem?_set_cases {calls : List WaitPhase} {i j : Nat} {phase phase' : WaitPhase}
    (h : (calls.set i phase)[j]? = some phase') :
    j = i ∧ phase' = phase ∨ j ≠ i ∧ calls[j]? = some phase' := by
  rw [List.getElem?_set] at h
  split at h
  · next hij =>
    split at h
    · exact .inl ⟨hij.symm, (Option.some.inj h).symm⟩
    · exact absurd h (by simp)
  · next hij => exact .inr ⟨fun hji ↦ hij hji.symm, h⟩

/-- What is found after a call was made. -/
theorem getElem?_concat_cases {calls : List WaitPhase} {j : Nat} {phase phase' : WaitPhase}
    (h : (calls ++ [phase])[j]? = some phase') : phase' = phase ∨ calls[j]? = some phase' := by
  rw [List.getElem?_append] at h
  split at h
  · exact .inr h
  · exact .inl (List.mem_singleton.mp (List.mem_of_getElem? h))

/-- A call that comes to a phase other than its first keeps the times in order. -/
theorem Chronological.resume {s : WaitState} (h : Chronological l s) {i : Nat} {phase : WaitPhase}
    (hphase : ∀ jitter, phase ≠ .locking jitter) :
    Chronological l { s with calls := s.calls.set i phase } where
  last := h.last
  past := h.past
  jitters j jitter hj := by
    rcases getElem?_set_cases hj with ⟨-, heq⟩ | ⟨-, hj⟩
    · exact absurd heq.symm (hphase jitter)
    · exact h.jitters j jitter hj

theorem Chronological.finish {s : WaitState} (h : Chronological l s) (i : Nat) :
    Chronological l (finish i s) where
  last := by simp [RateLimiter.finish]
  past t ht := by
    rcases List.mem_append.mp ht with ht | ht
    · exact h.past t ht
    · exact (List.mem_singleton.mp ht).le
  jitters :=
    have hphase : ∀ jitter, WaitPhase.returned s.clock ≠ .locking jitter := by simp
    (h.resume hphase).jitters

/-- A call that returns at least the interval after the last call, while no other one sleeps, keeps
the calls in order. -/
theorem Orderly.finish {s : WaitState} (h : Orderly l s) {i : Nat}
    (hdue : ∀ t, s.lastCall = some t → t + l.minInterval ≤ s.clock)
    (halone : ∀ (j deadline : Nat), s.calls[j]? = some (.sleeping deadline) → j = i) :
    Orderly l (finish i s) where
  toChronological := h.toChronological.finish i
  fresh j deadline hj := by
    rcases getElem?_set_cases hj with ⟨-, heq⟩ | ⟨hne, hj⟩
    · exact absurd heq (by simp)
    · exact absurd (halone j deadline hj) hne
  spaced := spaced_concat.mpr ⟨h.spaced, by rw [← h.last]; exact hdue⟩

/-- A first lock: the call panics, or sleeps out the interval, or returns when it is due. -/
theorem Orderly.check {s : WaitState} (h : Orderly l s) {i jitter : Nat}
    (hcall : s.calls[i]? = some (.locking jitter)) (hcond : l.Undisturbed s (.resume i)) :
    Orderly l (l.check i jitter s) := by
  have hcond' : l.minInterval + jitter < durationLimit ∧
      (∀ t ∈ s.lastCall, l.minInterval + jitter ≤ s.clock - t) →
      ∀ (j deadline : Nat), s.calls[j]? = some (.sleeping deadline) → j = i := by
    simpa only [undisturbed_resume, Returns, hcall] using hcond
  have hother : ∀ phase, (∀ jitter, phase ≠ .locking jitter) →
      (∀ deadline, phase = .sleeping deadline → ∃ t, s.lastCall = some t ∧
        deadline = t + l.minInterval + jitter) →
      Orderly l { s with calls := s.calls.set i phase } := by
    refine fun phase hphase hdeadline ↦ ⟨h.toChronological.resume hphase, ?_, h.spaced⟩
    intro j deadline hj
    rcases getElem?_set_cases hj with ⟨-, heq⟩ | ⟨-, hj⟩
    · obtain ⟨t, hlast, hd⟩ := hdeadline deadline heq.symm
      exact ⟨t, jitter, hlast, hd, h.jitters i jitter hcall⟩
    · exact h.fresh j deadline hj
  unfold RateLimiter.check
  dsimp only
  split
  · exact hother .panicked (by simp) (by simp)
  · next hlimit =>
    cases hlast : s.lastCall with
    | none => exact h.finish (by simp [hlast]) (hcond' ⟨by omega, by simp [hlast]⟩)
    | some t =>
      have hpast : t ≤ s.clock := by
        rw [h.last] at hlast
        exact h.past t (List.mem_of_getLast? hlast)
      dsimp only [Option.map_some]
      split
      · next hearly =>
        rw [← hlast]
        refine hother (.sleeping _) (by simp) fun deadline hd ↦ ⟨t, hlast, ?_⟩
        obtain rfl := WaitPhase.sleeping.inj hd
        omega
      · next hlate =>
        refine h.finish ?_ (hcond' ⟨by omega, ?_⟩) <;> intro t' ht' <;>
          obtain rfl := Option.some.inj (hlast.symm.trans ht') <;> omega

/-- One step: as long as no call returns while another one sleeps, the calls stay in order. -/
theorem orderly_step (hmin : 0 < l.minInterval) {s s' : WaitState} {e : WaitLabel}
    (h : Orderly l s) (hstep : Guarded l.Undisturbed (PartialSteps l.step) s e s') :
    Orderly l s' := by
  obtain ⟨hcond, hstep⟩ := hstep
  cases e with
  | tick nanos =>
    obtain rfl := Option.some.inj hstep
    exact ⟨⟨h.last, fun t ht ↦ (h.past t ht).trans (Nat.le_add_right _ _), h.jitters⟩,
      h.fresh, h.spaced⟩
  | call seed =>
    have hcall : l.step s (.call seed) = some _ := if_neg (by omega)
    obtain rfl := Option.some.inj (hcall.symm.trans hstep)
    refine ⟨⟨h.last, h.past, fun j jitter hj ↦ ?_⟩, fun j deadline hj ↦ ?_, h.spaced⟩
    · rcases getElem?_concat_cases hj with heq | hj
      · obtain rfl := WaitPhase.locking.inj heq
        exact jitter_bounded seed
      · exact h.jitters j jitter hj
    · rcases getElem?_concat_cases hj with heq | hj
      · exact absurd heq (by simp)
      · exact h.fresh j deadline hj
  | resume i =>
    rw [PartialSteps, step] at hstep
    split at hstep
    · next jitter hcall =>
      obtain rfl := Option.some.inj hstep
      exact h.check hcall hcond
    · next deadline hcall =>
      split at hstep
      · next hdeadline =>
        obtain rfl := Option.some.inj hstep
        obtain ⟨t, jitter, hlast, hd, -⟩ := h.fresh i deadline hcall
        have hreturns : l.Returns s i := by simpa only [Returns, hcall] using hdeadline
        refine h.finish (fun t' ht' ↦ ?_) (undisturbed_resume.mp hcond hreturns)
        obtain rfl := Option.some.inj (hlast.symm.trans ht')
        omega
      · exact absurd hstep (by simp)
    · exact absurd hstep (by simp)

theorem orderly_start : Orderly l .start where
  last := rfl
  past _ ht := absurd ht (by simp [WaitState.start])
  jitters _ _ hj := absurd hj (by simp [WaitState.start])
  fresh _ _ hj := absurd hj (by simp [WaitState.start])
  spaced := List.Pairwise.nil

/-- A call that returns records the time, at least the interval after the last one. -/
theorem Orderly.returns {s s' : WaitState} (h : Orderly l s) {i : Nat} (hret : l.Returns s i)
    (hstep : l.step s (.resume i) = some s') :
    s' = RateLimiter.finish i s ∧ ∀ t, s.lastCall = some t → t + l.minInterval ≤ s.clock := by
  have hpast : ∀ t, s.lastCall = some t → t ≤ s.clock := by
    intro t ht
    rw [h.last] at ht
    exact h.past t (List.mem_of_getLast? ht)
  unfold Returns at hret
  rw [step] at hstep
  split at hret
  · next jitter hcall =>
    obtain ⟨hlimit, hdue⟩ := hret
    rw [hcall] at hstep
    obtain rfl := Option.some.inj hstep
    refine ⟨?_, fun t ht ↦ by have := hdue t ht; have := hpast t ht; omega⟩
    rw [RateLimiter.check, if_neg (by omega)]
    cases hlast : s.lastCall with
    | none => rfl
    | some t =>
      have := hdue t hlast
      exact if_neg (by beta_reduce; omega)
  · next deadline hcall =>
    obtain ⟨t, jitter, hlast, hd, -⟩ := h.fresh i deadline hcall
    rw [hcall] at hstep
    refine ⟨(Option.some.inj ((if_pos hret).symm.trans hstep)).symm, fun t' ht' ↦ ?_⟩
    obtain rfl := Option.some.inj (hlast.symm.trans ht')
    omega
  · exact hret.elim

/-- A call that sleeps while another one returns, and whose jitter is small, wakes up too soon when
it wakes up in time. -/
theorem wakes_too_soon {s : WaitState} {i j t jitter : Nat} (hij : j ≠ i)
    (hcall : s.calls[j]? = some (.sleeping (t + l.minInterval + jitter)))
    (hmin : 0 < l.minInterval) (hstale : t + jitter < s.clock) :
    ∃ labels s', Run (PartialSteps l.step) (finish i s) labels s' ∧ ¬ l.Spaced s'.returns := by
  let rest := t + l.minInterval + jitter - s.clock
  let woken : WaitState := { finish i s with clock := s.clock + rest }
  have htick : PartialSteps l.step (finish i s) (.tick rest) woken := rfl
  have hsleeps : woken.calls[j]? = some (.sleeping (t + l.minInterval + jitter)) :=
    (List.getElem?_set_ne hij.symm).trans hcall
  have hwake : PartialSteps l.step woken (.resume j) (finish j woken) := by
    simp only [PartialSteps, step, hsleeps]
    exact if_pos (by omega : t + l.minInterval + jitter ≤ s.clock + rest)
  refine ⟨_, _, (Run.single htick).snoc hwake, fun hall ↦ ?_⟩
  have hlast : s.clock + l.minInterval ≤ s.clock + rest :=
    (spaced_concat.mp hall).2 s.clock (by simp [woken, RateLimiter.finish])
  omega

/-- As long as no call returns while another one sleeps, any two returns are at least the interval
apart, however the calls are interleaved. With a jitter below the interval the condition leaves out
no more than it must: once a call has returned while another one sleeps, the run can go on so that
two returns are too close. -/
theorem spaced_of_undisturbed (hmin : 0 < l.minInterval) {labels : List WaitLabel} {s : WaitState}
    (h : Run (Guarded l.Undisturbed (PartialSteps l.step)) .start labels s) :
    l.Spaced s.returns ∧ ∀ e s', l.maxJitter ≤ l.minInterval → l.step s e = some s' →
      ¬ l.Undisturbed s e → ∃ labels' s'', Run (PartialSteps l.step) s' labels' s'' ∧
        ¬ l.Spaced s''.returns := by
  have hs : Orderly l s := h.invariant (fun _ _ _ ↦ orderly_step hmin) orderly_start
  refine ⟨hs.spaced, fun e s' hjitter hstep hdisturbed ↦ ?_⟩
  cases e with
  | tick nanos => exact absurd trivial hdisturbed
  | call seed => exact absurd trivial hdisturbed
  | resume i =>
    simp only [undisturbed_resume, not_forall] at hdisturbed
    obtain ⟨hret, j, deadline, hcall, hji⟩ := hdisturbed
    obtain ⟨rfl, hdue⟩ := hs.returns hret hstep
    obtain ⟨t, jitter, hlast, rfl, hbound⟩ := hs.fresh j deadline hcall
    refine wakes_too_soon hji hcall hmin ?_
    have := hdue t hlast
    omega

/-- The default limiter; `rate_limit.rs:109–122`. -/
def default : RateLimiter := ⟨2000 * 10 ^ 6, 500 * 10 ^ 6⟩

/-- A call that returns at once, then calls that sleep until the interval is over and wake up
together. -/
def wakingTogether (n : Nat) : List WaitLabel :=
  .call 0 :: .resume 0 :: (List.range n).flatMap (fun i ↦ [.call 0, .resume (i + 1)]) ++
    .tick (2000 * 10 ^ 6) :: (List.range n).map (fun i ↦ .resume (i + 1))

/-- One call returns at once and two sleep until the interval is over: so far no two returns are too
close, but the two calls can go on to return together. -/
theorem spaced_of_undisturbed_two : ∃ s : WaitState, s.returns = [0] ∧ default.Spaced s.returns ∧
    ∃ s', default.step s (.resume 1) = some s' ∧ ∃ labels s'',
      Run (PartialSteps default.step) s' labels s'' ∧ ¬ default.Spaced s''.returns := by
  let guarded (s : WaitState) (e : WaitLabel) : Option WaitState :=
    if default.Undisturbed s e then default.step s e else none
  have hrun : ((wakingTogether 2).take 7).foldlM guarded .start =
      some ⟨2000 * 10 ^ 6, some 0,
        [.returned 0, .sleeping (2000 * 10 ^ 6), .sleeping (2000 * 10 ^ 6)], [0]⟩ := by
    decide
  have h := spaced_of_undisturbed (l := default) (by decide) (Run.guarded_of_foldlM hrun)
  exact ⟨_, rfl, h.1, _, rfl, h.2 (.resume 1) _ (by decide) rfl (by decide)⟩

/-- Two calls that sleep at the same time return at the same time. -/
theorem not_spaced_together :
    ¬ ∀ (l : RateLimiter) (labels : List WaitLabel) (s : WaitState), 0 < l.minInterval →
      Run (PartialSteps l.step) .start labels s → l.Spaced s.returns := by
  intro hclaim
  have hrun : ((wakingTogether 2).foldlM default.step .start).map WaitState.returns =
      some [0, 2000 * 10 ^ 6, 2000 * 10 ^ 6] := by decide
  obtain ⟨s, hs, hreturns⟩ := Option.map_eq_some_iff.mp hrun
  have hspaced := hclaim default _ s (by decide) (.of_foldlM hs)
  rw [hreturns] at hspaced
  exact absurd hspaced (by decide)

end RateLimiter
end CrwShield.Server
