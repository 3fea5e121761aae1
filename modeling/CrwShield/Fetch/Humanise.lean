import CrwShield.Base.Exits
import CrwShield.Base.Str

/-!
# The humanise session

Crate `fetch`, `src/crates/fetch/src/cdp.rs:710–733,786–994`. The clock counts the milliseconds
since the session began: calls of the page and sleeps take as long as they take. It counts whole
milliseconds, the unit of `as_millis`, so what the source truncates is not seen: a session may last
a part of a millisecond longer. Operations on `u64` are checked or wrap around, as the build has it,
and are noted when they leave the range.
-/

open CrwShield.Base CrwShield.Base.Str

namespace CrwShield.Fetch

/-- Knobs of the session; `cdp.rs:712–716`. -/
structure HumaniseConfig where
  delayMinMs : Nat
  delayMaxMs : Nat
  totalBudgetMs : Nat

/-- A knob, or its default; `cdp.rs:728–733`. -/
def parseEnvU64 (var : Str → Option Str) (name : Str) (default : Nat) : Nat :=
  ((var name).bind parseU64).getD default

/-- `HumaniseConfig::from_env`; `cdp.rs:718–726`. -/
def HumaniseConfig.fromEnv (var : Str → Option Str) : HumaniseConfig where
  delayMinMs := parseEnvU64 var "HUMANISE_DELAY_MIN_MS" 50
  delayMaxMs := parseEnvU64 var "HUMANISE_DELAY_MAX_MS" 200
  totalBudgetMs := parseEnvU64 var "HUMANISE_TOTAL_BUDGET_MS" 5000

/-- What a call of the page takes and answers: the answer as a string and as an integer, and three
heights of the viewport that it tells, or of the default one. -/
structure Evaluation where
  duration : Nat
  text : Option Str
  integer : Option Int
  threeHeights : Int

/-- What a session meets: the calls of the page, the random numbers before they are brought into
range, and by how much the sleeps are longer than asked. -/
structure Surroundings where
  evaluation : Nat → Evaluation
  draw : Nat → Nat
  late : Nat → Nat

/-- What can go wrong with a number. -/
inductive Fault where
  | underflow
  | overflow
  | emptyRange
  deriving DecidableEq

/-- The state of a session: the clock, how many calls and draws were made, and the sleeps and the
faults, each with the time it began. -/
structure SessionState where
  clock : Nat
  evaluations : Nat
  draws : Nat
  sleeps : List (Nat × Nat)
  faults : List (Nat × Fault)

/-- How a session ends before its end. -/
inductive SessionEnd where
  | returned
  | panicked
  | outOfFuel
  deriving DecidableEq

/-- A part of a session. -/
abbrev Session : Type → Type := EStateM SessionEnd SessionState

section Code

variable (checked : Bool) (c : HumaniseConfig) (w : Surroundings)

/-- An operation that leaves the range of `u64`. -/
def outOfRange (fault : Fault) (wrapped : Nat) : Session Nat := fun s ↦
  let s := { s with faults := (s.clock, fault) :: s.faults }
  if checked then .error .panicked s else .ok wrapped s

/-- Addition of `u64`. -/
def addU64 (a b : Nat) : Session Nat :=
  if a + b < 2 ^ 64 then pure (a + b) else outOfRange checked .overflow ((a + b) % 2 ^ 64)

/-- Subtraction of `u64`. -/
def subU64 (a b : Nat) : Session Nat :=
  if b ≤ a then pure (a - b) else outOfRange checked .underflow (a + 2 ^ 64 - b)

/-- Addition of `i64`. -/
def addI64 (a b : Int) : Session Int :=
  if -2 ^ 63 ≤ a + b ∧ a + b < 2 ^ 63 then pure (a + b)
  else if checked then throw .panicked
  else pure ((a + b).bmod (2 ^ 64))

/-- `fastrand::u64(0..n)`, which panics when there is nothing to choose from. -/
def drawBelow (n : Nat) : Session Nat := fun s ↦
  if n = 0 then .error .panicked { s with faults := (s.clock, .emptyRange) :: s.faults }
  else .ok (w.draw s.draws % n) { s with draws := s.draws + 1 }

/-- `page.evaluate` and the other calls of the page. -/
def evaluate : Session Evaluation := fun s ↦
  let e := w.evaluation s.evaluations
  .ok e { s with clock := s.clock + e.duration, evaluations := s.evaluations + 1 }

/-- `start.elapsed().as_millis() as u64`. -/
def elapsed : Session Nat := fun s ↦ .ok (s.clock % 2 ^ 64) s

/-- `tokio::time::sleep`. -/
def sleep (ms : Nat) : Session Unit := fun s ↦
  .ok () { s with
    clock := s.clock + ms + w.late s.sleeps.length
    sleeps := (s.clock, ms) :: s.sleeps }

/-- `budget_allows`; `cdp.rs:992–994`. -/
def budgetAllows (extraMs : Nat) : Session Bool := do
  let passed ← elapsed
  let sum ← addU64 checked passed extraMs
  pure (sum ≤ c.totalBudgetMs)

/-- A sleep within the budget, or the end of the session; `cdp.rs:804–807` and at every other
sleep. -/
def pause (ms : Nat) : Session Unit := do
  let allowed ← budgetAllows checked c ms
  if allowed then sleep w ms else throw .returned

/-- The polls for a page that has loaded; `cdp.rs:794–808`. -/
def waitReady : Nat → Session Unit
  | 0 => pure ()
  | polls + 1 => do
    let ready ← evaluate w
    if ready.text.getD "" = ("complete" : Str) then pure ()
    else do
      pause checked c w 80
      waitReady polls

/-- The delay after a move; `cdp.rs:892–893`. -/
def moveDelay : Session Nat := do
  let span ← subU64 checked c.delayMaxMs c.delayMinMs
  let bound ← addU64 checked span 1
  let drawn ← drawBelow w bound
  addU64 checked c.delayMinMs drawn

/-- One point of a curve; `cdp.rs:873–898`. -/
def movePoint : Session Unit := do
  let _ ← evaluate w
  let delay ← moveDelay checked c w
  pause checked c w delay

/-- A hover over a link; `cdp.rs:904–910,977–981`. -/
def hover : Session Unit := do
  let _ ← evaluate w
  pause checked c w 100

/-- The way to one target, and at times a hover; `cdp.rs:872–911`. -/
def moveTarget (i : Nat) : Session Unit := do
  let drawn ← drawBelow w 6
  forM (List.range (5 + drawn)) fun _ ↦ movePoint checked c w
  if i = 2 ∨ i = 5 then hover checked c w else pure ()

/-- The answer of a scroll as `i64`. -/
def Evaluation.scrolled (e : Evaluation) : Int :=
  (e.integer.filter fun n ↦ -2 ^ 63 ≤ n ∧ n < 2 ^ 63).getD 0

/-- The scroll down, as many rounds as there is fuel; `cdp.rs:918–944`. -/
def scrollLoop (maxScrollPx : Int) : Nat → Int → Session Unit
  | 0, _ => throw .outOfFuel
  | fuel + 1, scrolled =>
    if scrolled < maxScrollPx then do
      let _ ← drawBelow w 41
      let answer ← evaluate w
      if answer.scrolled ≤ 0 then pure ()
      else do
        let scrolled ← addI64 checked scrolled answer.scrolled
        let drawn ← drawBelow w 201
        let delay ← addU64 checked 300 drawn
        pause checked c w delay
        scrollLoop maxScrollPx fuel scrolled
    else pure ()

/-- One chunk of the scroll back; `cdp.rs:949–959`. -/
def scrollBack : Session Unit := do
  let _ ← evaluate w
  pause checked c w 150

/-- Reading pause and the last hovers; `cdp.rs:967–987`. -/
def finish : Session Unit := do
  let drawn ← drawBelow w 2001
  let readMs ← addU64 checked 1000 drawn
  pause checked c w readMs
  let extraHovers ← drawBelow w 2
  forM (List.range extraHovers) fun _ ↦ hover checked c w
  let _ ← evaluate w
  pure ()

/-- The session; `cdp.rs:786–988`. -/
def humaniseFullSession (fuel : Nat) : Session Unit := do
  waitReady checked c w 5
  let viewport ← evaluate w
  let drawn ← drawBelow w 6
  forM (List.range (5 + drawn)) (moveTarget checked c w)
  scrollLoop checked c w viewport.threeHeights fuel 0
  forM (List.range 2) fun _ ↦ scrollBack checked c w
  let _ ← evaluate w
  finish checked c w

end Code

section Spec

variable (checked : Bool) (c : HumaniseConfig) (w : Surroundings)

/-- The state in which a session begins. -/
def SessionState.start : SessionState := ⟨0, 0, 0, [], []⟩

/-- A session, with as much fuel for the scroll. -/
def sessionRun (fuel : Nat) : EStateM.Result SessionEnd SessionState Unit :=
  humaniseFullSession checked c w fuel .start

/-- A session goes right up to a time of its clock. -/
structure RightUntil (time : Nat) : Prop where
  /-- Nothing leaves the range of `u64`, and no empty range is sampled. -/
  faultless : ∀ fuel, ∀ f ∈ (endState (sessionRun checked c w fuel)).faults, time < f.1
  /-- No sleep begins that would end after the budget. -/
  punctual : ∀ fuel, ∀ nap ∈ (endState (sessionRun checked c w fuel)).sleeps,
    nap.1 ≤ time → nap.1 + nap.2 ≤ c.totalBudgetMs
  /-- The session ends, with no more rounds of the scroll than the budget has room for. -/
  terminates : ∀ fuel s, c.totalBudgetMs / 300 < fuel →
    sessionRun checked c w fuel = .error .outOfFuel s → time < s.clock

end Spec

section Sound

variable {checked : Bool} {c : HumaniseConfig} {w : Surroundings} {time since : Nat}

/-- What holds in every state of a session that goes right, from a time of its clock. -/
structure Sound (c : HumaniseConfig) (time since : Nat) (s : SessionState) : Prop where
  faultless : ∀ f ∈ s.faults, time < f.1
  punctual : ∀ nap ∈ s.sleeps, nap.1 ≤ time → nap.1 + nap.2 ≤ c.totalBudgetMs
  reached : since ≤ s.clock

/-- How a session that goes right is left. -/
def SoundEnd (c : HumaniseConfig) (time since : Nat) (e : SessionEnd) (s : SessionState) : Prop :=
  Sound c time since s ∧ e ≠ .outOfFuel

/-- A part that keeps the session right, with what it returns. -/
abbrev Keeps (c : HumaniseConfig) (time since : Nat) {α : Type} (m : Session α) (Q : α → Prop) :
    Prop :=
  Exits (Sound c time since) m (fun a s ↦ Q a ∧ Sound c time since s) (SoundEnd c time since)

theorem Sound.mono {since' : Nat} {s : SessionState} (hs : Sound c time since' s)
    (h : since ≤ since') : Sound c time since s :=
  ⟨hs.faultless, hs.punctual, h.trans hs.reached⟩

/-- How the scroll is left: without fuel only past the time, or when the budget has no room for as
many rounds. -/
def ScrollEnd (c : HumaniseConfig) (time since fuel : Nat) (e : SessionEnd) (s : SessionState) :
    Prop :=
  Sound c time since s ∧
    (e = .outOfFuel → time < s.clock ∨ fuel = 0 ∨ since + 300 * fuel ≤ c.totalBudgetMs)

theorem sound_start : Sound c time 0 .start where
  faultless _ hf := absurd hf List.not_mem_nil
  punctual _ hnap := absurd hnap List.not_mem_nil
  reached := Nat.zero_le _

theorem addU64_sound {a b : Nat} (h : a + b < 2 ^ 64) :
    Keeps c time since (addU64 checked a b) fun n ↦ n = a + b := by
  rw [addU64, if_pos h]
  exact Exits.pure fun s hs ↦ ⟨rfl, hs⟩

theorem subU64_sound {a b : Nat} (h : b ≤ a) :
    Keeps c time since (subU64 checked a b) fun n ↦ n = a - b := by
  rw [subU64, if_pos h]
  exact Exits.pure fun s hs ↦ ⟨rfl, hs⟩

theorem drawBelow_sound {n : Nat} (h : 0 < n) : Keeps c time since (drawBelow w n) (· < n) := by
  intro s hs
  have hne : n ≠ 0 := by omega
  simp only [drawBelow, if_neg hne]
  exact ⟨Nat.mod_lt _ h, ⟨hs.faultless, hs.punctual, hs.reached⟩⟩

theorem evaluate_sound : Keeps c time since (evaluate w) fun _ ↦ True :=
  fun _ hs ↦ ⟨trivial, ⟨hs.faultless, hs.punctual, Nat.le_add_right_of_le hs.reached⟩⟩

theorem addI64_sound {a b : Int} : Keeps c time since (addI64 checked a b) fun _ ↦ True := by
  refine Exits.ite (fun _ ↦ Exits.pure fun s hs ↦ ⟨trivial, hs⟩) fun _ ↦ ?_
  refine Exits.ite (fun _ ↦ Exits.throw fun s hs ↦ ?_) fun _ ↦ Exits.pure fun s hs ↦ ⟨trivial, hs⟩
  exact ⟨hs, SessionEnd.noConfusion⟩

/-- A fault after the time leaves the session right. -/
theorem Sound.fault {s : SessionState} (hs : Sound c time since s) (hlate : time < s.clock)
    (fault : Fault) : Sound c time since { s with faults := (s.clock, fault) :: s.faults } where
  faultless f hf := by
    rcases List.mem_cons.mp hf with rfl | hf
    · exact hlate
    · exact hs.faultless f hf
  punctual := hs.punctual
  reached := hs.reached

/-- The sum with the time that has passed is right up to the time. -/
theorem addElapsed_sound {passed ms : Nat} (hms : time + ms < 2 ^ 64) :
    Exits (fun s ↦ Sound c time since s ∧ passed = s.clock % 2 ^ 64) (addU64 checked passed ms)
      (fun sum s ↦ Sound c time since s ∧ (s.clock ≤ time → sum = s.clock + ms))
      (SoundEnd c time since) := by
  refine Exits.ite (fun _ ↦ Exits.pure fun s ⟨hs, hpassed⟩ ↦ ?_) fun hover ↦ ?_
  · refine ⟨hs, fun hle ↦ ?_⟩
    have hfits : s.clock % 2 ^ 64 = s.clock := Nat.mod_eq_of_lt (by omega)
    omega
  · intro s ⟨hs, hpassed⟩
    have hlate : time < s.clock := by
      have hle : s.clock % 2 ^ 64 ≤ s.clock := Nat.mod_le _ _
      omega
    have hfault := hs.fault hlate .overflow
    cases checked with
    | true => exact ⟨hfault, SessionEnd.noConfusion⟩
    | false => exact ⟨hfault, fun hle ↦ absurd hlate (Nat.not_lt.mpr hle)⟩

/-- The budget allows a sleep only when it ends within the budget. -/
theorem budgetAllows_sound {ms : Nat} (hms : time + ms < 2 ^ 64) :
    Exits (Sound c time since) (budgetAllows checked c ms)
      (fun allowed s ↦ Sound c time since s ∧
        (allowed = true → s.clock ≤ time → s.clock + ms ≤ c.totalBudgetMs))
      (SoundEnd c time since) := by
  have helapsed : Exits (Sound c time since) elapsed
      (fun passed s ↦ Sound c time since s ∧ passed = s.clock % 2 ^ 64) (SoundEnd c time since) :=
    fun s hs ↦ ⟨hs, rfl⟩
  refine helapsed.bind fun passed ↦ (addElapsed_sound hms).bind fun sum ↦ Exits.pure ?_
  intro s ⟨hs, hsum⟩
  refine ⟨hs, fun hallowed hle ↦ ?_⟩
  rw [← hsum hle]
  exact of_decide_eq_true hallowed

/-- A sleep that was allowed keeps the session right, and the clock goes on by its length. -/
theorem pause_sound {ms : Nat} (hms : time + ms < 2 ^ 64) :
    Exits (Sound c time since) (pause checked c w ms)
      (fun _ s ↦ (time < s.clock ∨ since + ms ≤ c.totalBudgetMs) ∧ Sound c time (since + ms) s)
      (SoundEnd c time since) := by
  refine (budgetAllows_sound hms).bind fun allowed ↦ Exits.ite (fun hallowed ↦ ?_) fun _ ↦ ?_
  · intro s ⟨hs, hfits⟩
    have hreached := hs.reached
    refine ⟨?_, hs.faultless, fun nap hnap hle ↦ ?_, ?_⟩
    · show time < s.clock + ms + _ ∨ _
      by_cases hle : s.clock ≤ time
      · have := hfits hallowed hle
        omega
      · omega
    · rcases List.mem_cons.mp hnap with rfl | hnap
      · exact hfits hallowed hle
      · exact hs.punctual nap hnap hle
    · show since + ms ≤ s.clock + ms + _
      omega
  · exact Exits.throw fun s hs ↦ ⟨hs.1, SessionEnd.noConfusion⟩

theorem Keeps.bind {α β : Type} {m : Session α} {f : α → Session β} {Q : α → Prop}
    {R : β → SessionState → Prop} (hm : Keeps c time since m Q)
    (hf : ∀ a, Q a → Exits (Sound c time since) (f a) R (SoundEnd c time since)) :
    Exits (Sound c time since) (m >>= f) R (SoundEnd c time since) :=
  Exits.bind hm fun a ↦ Exits.lift (hf a)

/-- What every round keeps, the loop keeps. -/
theorem Keeps.loop {f : Nat → Session Unit} (l : List Nat)
    (h : ∀ i, Keeps c time since (f i) fun _ ↦ True) : Keeps c time since (forM l f) fun _ ↦ True :=
  (Exits.loop l fun i ↦ (h i).imp (fun _ hs ↦ hs) fun _ _ hs ↦ hs.2).imp (fun _ hs ↦ hs)
    fun _ _ hs ↦ ⟨trivial, hs⟩

theorem keeps_pure : Keeps c time since (pure ()) fun _ ↦ True :=
  Exits.pure fun _ hs ↦ ⟨trivial, hs⟩

theorem pause_keeps {ms : Nat} (hms : time + ms < 2 ^ 64) :
    Keeps c time since (pause checked c w ms) fun _ ↦ True :=
  (pause_sound hms).imp (fun _ hs ↦ hs) fun _ _ hs ↦
    ⟨trivial, hs.2.faultless, hs.2.punctual, Nat.le_of_add_right_le hs.2.reached⟩

/-- The delays are in order, and none of them takes the clock out of range. -/
structure HumaniseConfig.Fits (c : HumaniseConfig) (time : Nat) : Prop where
  ordered : c.delayMinMs ≤ c.delayMaxMs
  inRange : time + c.delayMaxMs < 2 ^ 64

section Parts

variable (htime : time + 3000 < 2 ^ 64)
include htime

theorem waitReady_sound (polls : Nat) :
    Keeps c time since (waitReady checked c w polls) fun _ ↦ True := by
  induction polls with
  | zero => exact keeps_pure
  | succ polls ih =>
    refine evaluate_sound.bind fun ready _ ↦ Exits.ite (fun _ ↦ keeps_pure) fun _ ↦ ?_
    exact (pause_keeps (by omega)).bind fun _ _ ↦ ih

theorem hover_sound : Keeps c time since (hover checked c w) fun _ ↦ True :=
  evaluate_sound.bind fun _ _ ↦ pause_keeps (by omega)

theorem scrollBack_sound : Keeps c time since (scrollBack checked c w) fun _ ↦ True :=
  evaluate_sound.bind fun _ _ ↦ pause_keeps (by omega)

theorem finish_sound : Keeps c time since (finish checked c w) fun _ ↦ True := by
  refine (drawBelow_sound (by decide)).bind fun drawn hdrawn ↦ ?_
  refine (addU64_sound (by omega)).bind fun readMs hread ↦ ?_
  refine (pause_keeps (by omega)).bind fun _ _ ↦ ?_
  refine (drawBelow_sound (by decide)).bind fun extraHovers _ ↦ ?_
  refine (Keeps.loop _ fun _ ↦ hover_sound htime).bind fun _ _ ↦ ?_
  exact evaluate_sound.bind fun _ _ ↦ keeps_pure

/-- The scroll: the fuel runs out only after sleeps that fill the budget. -/
theorem scrollLoop_sound (maxScrollPx : Int) (fuel since : Nat) (scrolled : Int) :
    Exits (Sound c time since) (scrollLoop checked c w maxScrollPx fuel scrolled)
      (fun _ ↦ Sound c time since) (ScrollEnd c time since fuel) := by
  induction fuel generalizing since scrolled with
  | zero => exact Exits.throw fun s hs ↦ ⟨hs, fun _ ↦ .inr (.inl rfl)⟩
  | succ fuel ih =>
    have hleave : ∀ e s, SoundEnd c time since e s → ScrollEnd c time since (fuel + 1) e s :=
      fun e s he ↦ ⟨he.1, fun h ↦ absurd h he.2⟩
    refine Exits.ite (fun _ ↦ ?_) fun _ ↦ Exits.pure fun s hs ↦ hs
    refine ((drawBelow_sound (by decide)).leave hleave).bind fun _ ↦ .lift fun _ ↦ ?_
    refine (evaluate_sound.leave hleave).bind fun answer ↦ .lift fun _ ↦ ?_
    refine Exits.ite (fun _ ↦ Exits.pure fun s hs ↦ hs) fun _ ↦ ?_
    refine (addI64_sound.leave hleave).bind fun scrolled ↦ .lift fun _ ↦ ?_
    refine ((drawBelow_sound (by decide)).leave hleave).bind fun drawn ↦ .lift fun hdrawn ↦ ?_
    refine ((addU64_sound (by omega)).leave hleave).bind fun delay ↦ .lift fun hdelay ↦ ?_
    refine ((pause_sound (by omega)).leave hleave).bind fun _ ↦ ?_
    intro s ⟨hcase, hs⟩
    by_cases hlate : time < s.clock
    · -- Past the time nothing more is asked of the clock.
      have hlater : Sound c time (max (time + 1) since) s :=
        ⟨hs.faultless, hs.punctual, by have := hs.reached; omega⟩
      refine ((ih _ scrolled).imp (fun _ h ↦ h) ?_).leave ?_ s hlater
      · exact fun _ t ht ↦ ht.mono (by omega)
      · refine fun e t he ↦ ⟨he.1.mono (by omega), fun _ ↦ .inl ?_⟩
        have := he.1.reached
        omega
    · refine ((ih _ scrolled).imp (fun _ h ↦ h) ?_).leave ?_ s hs
      · exact fun _ t ht ↦ ht.mono (by omega)
      · refine fun e t he ↦ ⟨he.1.mono (by omega), fun hfuel ↦ ?_⟩
        rcases he.2 hfuel with h | h | h
        · exact .inl h
        · omega
        · omega

end Parts

section Moves

theorem moveDelay_sound (hpos : 0 < time) (hfits : c.Fits time) :
    Keeps c time since (moveDelay checked c w) (· ≤ c.delayMaxMs) := by
  have hordered := hfits.ordered
  have hrange := hfits.inRange
  refine (subU64_sound hordered).bind fun span hspan ↦ ?_
  refine (addU64_sound (by omega)).bind fun bound hbound ↦ ?_
  refine (drawBelow_sound (by omega)).bind fun drawn hdrawn ↦ ?_
  exact (addU64_sound (by omega)).imp (fun _ hs ↦ hs) fun delay s hs ↦ ⟨by omega, hs.2⟩

theorem movePoint_sound (hpos : 0 < time) (hfits : c.Fits time) :
    Keeps c time since (movePoint checked c w) fun _ ↦ True := by
  have hrange := hfits.inRange
  refine evaluate_sound.bind fun _ _ ↦ (moveDelay_sound hpos hfits).bind fun delay hdelay ↦ ?_
  exact pause_keeps (by omega)

theorem moveTarget_sound (hpos : 0 < time) (htime : time + 3000 < 2 ^ 64) (hfits : c.Fits time)
    (i : Nat) : Keeps c time since (moveTarget checked c w i) fun _ ↦ True := by
  refine (drawBelow_sound (by decide)).bind fun drawn _ ↦ ?_
  refine (Keeps.loop _ fun _ ↦ movePoint_sound hpos hfits).bind fun _ _ ↦ ?_
  exact Exits.ite (fun _ ↦ hover_sound htime) fun _ ↦ keeps_pure

/-- The whole session keeps right when the delays fit. -/
theorem humaniseFullSession_sound (hpos : 0 < time) (htime : time + 3000 < 2 ^ 64)
    (hfits : c.Fits time) (fuel : Nat) :
    Exits (Sound c time 0) (humaniseFullSession checked c w fuel) (fun _ ↦ Sound c time 0)
      (ScrollEnd c time 0 fuel) := by
  have hleave : ∀ e s, SoundEnd c time 0 e s → ScrollEnd c time 0 fuel e s :=
    fun e s he ↦ ⟨he.1, fun h ↦ absurd h he.2⟩
  have hmoves (drawn : Nat) : Keeps c time 0
      (forM (List.range (5 + drawn)) (moveTarget checked c w)) fun _ ↦ True :=
    Keeps.loop _ (moveTarget_sound hpos htime hfits)
  have hback : Keeps c time 0 (forM (List.range 2) fun _ ↦ scrollBack checked c w) fun _ ↦ True :=
    Keeps.loop _ fun _ ↦ scrollBack_sound htime
  refine ((waitReady_sound htime 5).leave hleave).bind fun _ ↦ .lift fun _ ↦ ?_
  refine (evaluate_sound.leave hleave).bind fun viewport ↦ .lift fun _ ↦ ?_
  refine ((drawBelow_sound (by decide)).leave hleave).bind fun drawn ↦ .lift fun _ ↦ ?_
  refine ((hmoves drawn).leave hleave).bind fun _ ↦ .lift fun _ ↦ ?_
  refine (scrollLoop_sound htime viewport.threeHeights fuel 0 0).bind fun _ ↦ ?_
  refine (hback.leave hleave).bind fun _ ↦ .lift fun _ ↦ ?_
  refine (evaluate_sound.leave hleave).bind fun _ ↦ .lift fun _ ↦ ?_
  exact ((finish_sound htime).imp (fun _ hs ↦ hs) fun _ _ hs ↦ hs.2).leave hleave

/-- A session whose delays fit goes right. -/
theorem rightUntil_of_fits (hpos : 0 < time) (htime : time + 3000 < 2 ^ 64)
    (hfits : c.Fits time) : RightUntil checked c w time := by
  have hexits (fuel : Nat) : Exits (Sound c time 0) (humaniseFullSession checked c w fuel)
      (fun _ ↦ Sound c time 0) (ScrollEnd c time 0 fuel) :=
    humaniseFullSession_sound hpos htime hfits fuel
  have hsound (fuel : Nat) : Sound c time 0 (endState (sessionRun checked c w fuel)) :=
    (hexits fuel).endState (fun _ _ he ↦ he.1) sound_start
  refine ⟨fun fuel ↦ (hsound fuel).faultless, fun fuel ↦ (hsound fuel).punctual, ?_⟩
  intro fuel s hfuel hrun
  have h := (hexits fuel).of_error sound_start hrun
  rcases h.2 rfl with hlate | hzero | hroom
  · exact hlate
  · omega
  · omega

end Moves

end Sound

section Faulty

variable {checked : Bool} {c : HumaniseConfig} {w : Surroundings} {time : Nat}

/-- A fault came up by the time. -/
def Faulty (time : Nat) (s : SessionState) : Prop := ∃ f ∈ s.faults, f.1 ≤ time

/-- A part from which a fault does not go away. -/
abbrev Stays (time : Nat) {α : Type} (m : Session α) : Prop :=
  Exits (Faulty time) m (fun _ ↦ Faulty time) fun _ ↦ Faulty time

theorem Faulty.fault {s : SessionState} (hs : Faulty time s) (f : Nat × Fault) :
    Faulty time { s with faults := f :: s.faults } := by
  obtain ⟨f', hf', hle⟩ := hs
  exact ⟨f', List.mem_cons_of_mem _ hf', hle⟩

theorem outOfRange_stays (fault : Fault) (wrapped : Nat) :
    Stays time (outOfRange checked fault wrapped) := by
  intro s hs
  cases checked with
  | true => exact hs.fault _
  | false => exact hs.fault _

theorem addU64_stays (a b : Nat) : Stays time (addU64 checked a b) :=
  .ite (fun _ ↦ .pure fun _ hs ↦ hs) fun _ ↦ outOfRange_stays _ _

theorem subU64_stays (a b : Nat) : Stays time (subU64 checked a b) :=
  .ite (fun _ ↦ .pure fun _ hs ↦ hs) fun _ ↦ outOfRange_stays _ _

theorem addI64_stays (a b : Int) : Stays time (addI64 checked a b) :=
  .ite (fun _ ↦ .pure fun _ hs ↦ hs) fun _ ↦
    .ite (fun _ ↦ .throw fun _ hs ↦ hs) fun _ ↦ .pure fun _ hs ↦ hs

theorem drawBelow_stays (n : Nat) : Stays time (drawBelow w n) := by
  intro s hs
  by_cases hn : n = 0
  · simpa only [drawBelow, if_pos hn] using hs.fault _
  · simp only [drawBelow, if_neg hn]
    exact hs

theorem evaluate_stays : Stays time (evaluate w) := fun _ hs ↦ hs

theorem pause_stays (ms : Nat) : Stays time (pause checked c w ms) := by
  have helapsed : Stays time elapsed := fun _ hs ↦ hs
  have hsleep : Stays time (sleep w ms) := fun _ hs ↦ hs
  have hallows : Stays time (budgetAllows checked c ms) :=
    helapsed.bind fun _ ↦ (addU64_stays _ _).bind fun _ ↦ .pure fun _ hs ↦ hs
  exact hallows.bind fun _ ↦ .ite (fun _ ↦ hsleep) fun _ ↦ .throw fun _ hs ↦ hs

theorem hover_stays : Stays time (hover checked c w) :=
  evaluate_stays.bind fun _ ↦ pause_stays 100

theorem movePoint_stays : Stays time (movePoint checked c w) := by
  refine evaluate_stays.bind fun _ ↦ Exits.bind ?_ fun delay ↦ pause_stays delay
  refine (subU64_stays _ _).bind fun _ ↦ (addU64_stays _ _).bind fun _ ↦ ?_
  exact (drawBelow_stays _).bind fun _ ↦ addU64_stays _ _

theorem moveTarget_stays (i : Nat) : Stays time (moveTarget checked c w i) := by
  refine (drawBelow_stays _).bind fun _ ↦ (Exits.loop _ fun _ ↦ movePoint_stays).bind fun _ ↦ ?_
  exact .ite (fun _ ↦ hover_stays) fun _ ↦ .pure fun _ hs ↦ hs

theorem scrollLoop_stays (maxScrollPx : Int) (fuel : Nat) (scrolled : Int) :
    Stays time (scrollLoop checked c w maxScrollPx fuel scrolled) := by
  induction fuel generalizing scrolled with
  | zero => exact .throw fun _ hs ↦ hs
  | succ fuel ih =>
    refine .ite (fun _ ↦ ?_) fun _ ↦ .pure fun _ hs ↦ hs
    refine (drawBelow_stays _).bind fun _ ↦ evaluate_stays.bind fun _ ↦ ?_
    refine .ite (fun _ ↦ .pure fun _ hs ↦ hs) fun _ ↦ (addI64_stays _ _).bind fun _ ↦ ?_
    refine (drawBelow_stays _).bind fun _ ↦ (addU64_stays _ _).bind fun _ ↦ ?_
    exact (pause_stays _).bind fun _ ↦ ih _

theorem finish_stays : Stays time (finish checked c w) := by
  refine (drawBelow_stays _).bind fun _ ↦ (addU64_stays _ _).bind fun _ ↦ ?_
  refine (pause_stays _).bind fun _ ↦ (drawBelow_stays _).bind fun _ ↦ ?_
  refine (Exits.loop _ fun _ ↦ hover_stays).bind fun _ ↦ evaluate_stays.bind fun _ ↦ ?_
  exact .pure fun _ hs ↦ hs

/-- A page that takes the given time for its first answer and none for the others, and draws that
make every delay as long as it can be. -/
def slowPage (c : HumaniseConfig) (time : Nat) : Surroundings where
  evaluation n := ⟨if n = 0 then time else 0, some "complete", none, 0⟩
  draw _ := c.delayMaxMs - c.delayMinMs
  late _ := 0

/-- The first answer has come, and nothing went wrong so far. -/
def Replied (time : Nat) (s : SessionState) : Prop := s.clock = time ∧ s.evaluations ≠ 0

theorem Replied.evaluate {E : SessionEnd → SessionState → Prop} :
    Exits (Replied time) (evaluate (slowPage c time)) (fun _ ↦ Replied time) E := by
  intro s hs
  refine ⟨?_, Nat.succ_ne_zero _⟩
  simp [slowPage, hs.1, hs.2]

theorem Replied.draw {n : Nat} (hn : 0 < n) {E : SessionEnd → SessionState → Prop} :
    Exits (Replied time) (drawBelow (slowPage c time) n)
      (fun drawn s ↦ drawn = (c.delayMaxMs - c.delayMinMs) % n ∧ Replied time s) E := by
  intro s hs
  have hne : n ≠ 0 := by omega
  simp only [drawBelow, if_neg hne]
  exact ⟨rfl, hs⟩

theorem Replied.outOfRange (fault : Fault) (wrapped : Nat) :
    Exits (Replied time) (outOfRange checked fault wrapped) (fun _ ↦ Faulty time)
      fun _ ↦ Faulty time := by
  intro s hs
  have hfaulty : Faulty time { s with faults := (s.clock, fault) :: s.faults } :=
    ⟨_, List.mem_cons_self, hs.1.le⟩
  cases checked with
  | true => exact hfaulty
  | false => exact hfaulty

theorem Replied.addU64 (a b : Nat) :
    Exits (Replied time) (addU64 checked a b)
      (fun n s ↦ Faulty time s ∨ n = a + b ∧ Replied time s) fun _ ↦ Faulty time := by
  refine Exits.ite (fun _ ↦ .pure fun _ hs ↦ .inr ⟨rfl, hs⟩) fun _ ↦ ?_
  exact (Replied.outOfRange _ _).imp (fun _ hs ↦ hs) fun _ _ hs ↦ .inl hs

/-- The longest delay, unless it cannot be worked out. -/
theorem Replied.moveDelay (hle : c.delayMinMs ≤ c.delayMaxMs) :
    Exits (Replied time) (moveDelay checked c (slowPage c time))
      (fun delay s ↦ Faulty time s ∨ delay = c.delayMaxMs ∧ Replied time s)
      fun _ ↦ Faulty time := by
  rw [Fetch.moveDelay, subU64, if_pos hle]
  refine Exits.bind (Q := fun span s ↦ span = c.delayMaxMs - c.delayMinMs ∧ Replied time s)
    (.pure fun _ hs ↦ ⟨rfl, hs⟩) fun span ↦ .lift fun hspan ↦ ?_
  refine (Replied.addU64 span 1).bind fun bound ↦ .or ?_ (.lift fun hbound ↦ ?_)
  · refine (drawBelow_stays bound).bind fun drawn ↦ ?_
    exact (addU64_stays _ drawn).imp (fun _ hs ↦ hs) fun _ _ hs ↦ .inl hs
  · refine (Replied.draw (by omega)).bind fun drawn ↦ .lift fun hdrawn ↦ ?_
    have hlongest : drawn = c.delayMaxMs - c.delayMinMs := by
      rw [hdrawn]
      exact Nat.mod_eq_of_lt (by omega)
    refine (Replied.addU64 _ drawn).imp (fun _ hs ↦ hs) fun delay s hs ↦ hs.imp_right ?_
    exact fun ⟨hdelay, hs⟩ ↦ ⟨by omega, hs⟩

/-- A delay that takes the clock out of range. -/
theorem Replied.pause {ms : Nat} (htime : time < 2 ^ 64) (hms : 2 ^ 64 ≤ time + ms) :
    Exits (Replied time) (pause checked c w ms) (fun _ ↦ Faulty time) fun _ ↦ Faulty time := by
  have helapsed : Exits (Replied time) elapsed (fun passed s ↦ passed = time ∧ Replied time s)
      fun _ ↦ Faulty time :=
    fun s hs ↦ ⟨by rw [hs.1]; exact Nat.mod_eq_of_lt htime, hs⟩
  have hsleep : Stays time (sleep w ms) := fun _ hs ↦ hs
  have hallows : Exits (Replied time) (budgetAllows checked c ms) (fun _ ↦ Faulty time)
      fun _ ↦ Faulty time := by
    refine helapsed.bind fun passed ↦ .lift fun hpassed ↦ ?_
    rw [Fetch.addU64, if_neg (by omega)]
    exact (Replied.outOfRange _ _).bind fun _ ↦ .pure fun _ hs ↦ hs
  exact hallows.bind fun _ ↦ .ite (fun _ ↦ hsleep) fun _ ↦ .throw fun _ hs ↦ hs

/-- The first delay goes wrong when the delays do not fit. -/
theorem Replied.movePoint (htime : time < 2 ^ 64) (hfits : ¬ c.Fits time) :
    Exits (Replied time) (movePoint checked c (slowPage c time)) (fun _ ↦ Faulty time)
      fun _ ↦ Faulty time := by
  refine Replied.evaluate.bind fun _ ↦ ?_
  by_cases hle : c.delayMinMs ≤ c.delayMaxMs
  · refine (Replied.moveDelay hle).bind fun delay ↦ .or (pause_stays delay) (.lift fun hdelay ↦ ?_)
    have hover : 2 ^ 64 ≤ time + delay := by
      by_contra hlt
      exact hfits ⟨hle, by omega⟩
    exact Replied.pause htime hover
  · rw [Fetch.moveDelay, subU64, if_neg hle]
    refine Exits.bind ((Replied.outOfRange _ _).bind fun span ↦ ?_) fun delay ↦ pause_stays delay
    refine (addU64_stays span 1).bind fun bound ↦ (drawBelow_stays bound).bind fun drawn ↦ ?_
    exact addU64_stays _ drawn

theorem Replied.moveTarget (htime : time < 2 ^ 64) (hfits : ¬ c.Fits time) (i : Nat) :
    Exits (Replied time) (moveTarget checked c (slowPage c time) i) (fun _ ↦ Faulty time)
      fun _ ↦ Faulty time := by
  refine (Replied.draw (by decide)).bind fun drawn ↦ .lift fun _ ↦ ?_
  have hrange : List.range (5 + drawn) = 0 :: (List.range (4 + drawn)).map Nat.succ := by
    rw [← List.range_succ_eq_map]
    congr 1
    omega
  rw [hrange]
  refine (Exits.loop_cons (f := fun _ ↦ Fetch.movePoint checked c (slowPage c time)) _
    (Replied.movePoint htime hfits) fun _ ↦ movePoint_stays).bind fun _ ↦ ?_
  exact .ite (fun _ ↦ hover_stays) fun _ ↦ .pure fun _ hs ↦ hs

/-- On the slow page a session whose delays do not fit goes wrong. -/
theorem humaniseFullSession_slow (htime : time < 2 ^ 64) (hfits : ¬ c.Fits time) (fuel : Nat) :
    Exits (· = .start) (humaniseFullSession checked c (slowPage c time) fuel)
      (fun _ ↦ Faulty time) fun _ ↦ Faulty time := by
  have hready : Exits (· = .start) (waitReady checked c (slowPage c time) 5)
      (fun _ ↦ Replied time) fun _ ↦ Faulty time := by
    have hfirst : Exits (· = .start) (evaluate (slowPage c time))
        (fun ready s ↦ ready.text = some ("complete" : Str) ∧ Replied time s)
        fun _ ↦ Faulty time := by
      rintro s rfl
      exact ⟨rfl, Nat.zero_add _, Nat.one_ne_zero⟩
    refine hfirst.bind fun ready ↦ .lift fun htext ↦ ?_
    rw [htext]
    exact .pure fun _ hs ↦ hs
  have hback : Stays time (forM (List.range 2) fun _ ↦ scrollBack checked c (slowPage c time)) :=
    Exits.loop _ fun _ ↦ evaluate_stays.bind fun _ ↦ pause_stays 150
  refine hready.bind fun _ ↦ Replied.evaluate.bind fun viewport ↦ ?_
  refine (Replied.draw (by decide)).bind fun drawn ↦ .lift fun _ ↦ ?_
  have hrange : List.range (5 + drawn) = 0 :: (List.range (4 + drawn)).map Nat.succ := by
    rw [← List.range_succ_eq_map]
    congr 1
    omega
  rw [hrange]
  refine (Exits.loop_cons _ (Replied.moveTarget htime hfits 0) moveTarget_stays).bind fun _ ↦ ?_
  refine (scrollLoop_stays _ _ _).bind fun _ ↦ hback.bind fun _ ↦ ?_
  exact evaluate_stays.bind fun _ ↦ finish_stays

end Faulty

/-- Whatever the page does and the draws are, a session goes right up to a time exactly when the
least delay is at most the greatest and the greatest does not take the clock out of range. -/
theorem rightUntil_iff (checked : Bool) (var : Str → Option Str) (time : Nat) (hpos : 0 < time)
    (htime : time + 3000 < 2 ^ 64) :
    (∀ w, RightUntil checked (.fromEnv var) w time) ↔
      (HumaniseConfig.fromEnv var).Fits time := by
  generalize HumaniseConfig.fromEnv var = c
  refine ⟨fun hright ↦ ?_, fun hfits _ ↦ rightUntil_of_fits hpos htime hfits⟩
  by_contra hfits
  have hfaulty : Faulty time (endState (sessionRun checked c (slowPage c time) 0)) :=
    (humaniseFullSession_slow (by omega) hfits 0).endState (fun _ _ h ↦ h) rfl
  obtain ⟨f, hf, hle⟩ := hfaulty
  exact absurd hle (Nat.not_le.mpr ((hright (slowPage c time)).faultless 0 f hf))

/-- A page that has loaded and answers at once. -/
def quickPage : Surroundings := ⟨fun _ ↦ ⟨0, some "complete", some 0, 2400⟩, fun _ ↦ 0, fun _ ↦ 0⟩

/-- With the defaults a session goes right for a day. -/
theorem rightUntil_defaults : RightUntil true (.fromEnv fun _ ↦ none) quickPage 86400000 :=
  (rightUntil_iff true (fun _ ↦ none) 86400000 (by decide) (by decide)).mpr
    ⟨by decide, by decide⟩ quickPage

/-- An environment with the least delay above the greatest. -/
def swappedDelays (name : Str) : Option Str :=
  if name = "HUMANISE_DELAY_MIN_MS" then some "200"
  else if name = "HUMANISE_DELAY_MAX_MS" then some "50"
  else none

/-- The first delay subtracts the least from the greatest. -/
theorem humaniseFullSession_underflows :
    ¬ ∀ checked var w time, RightUntil checked (.fromEnv var) w time := by
  intro h
  have hfault : (0, Fault.underflow) ∈
      (endState (sessionRun true (.fromEnv swappedDelays) quickPage 0)).faults := by decide
  exact absurd ((h true swappedDelays quickPage 0).faultless 0 _ hfault) (Nat.lt_irrefl 0)

end CrwShield.Fetch
