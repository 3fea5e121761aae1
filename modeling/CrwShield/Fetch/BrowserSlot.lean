import CrwShield.Base.Runs
import CrwShield.Base.Str
import CrwShield.Core.Types

/-!
# The browser slot

Crate `fetch`, `src/crates/fetch/src/cdp.rs:110–125,229–336`. The slot holds a browser once one was
launched, or the time of the last failure. Launches fail, handlers end and time passes at any
moment; calls hold the lock of the slot, so that they come one after the other.
-/

open CrwShield.Base CrwShield.Core

namespace CrwShield.Fetch

/-- How a launch goes, and how long it takes in milliseconds. The time of a launch that succeeds
includes the warming of the profile, in which the handler may already end. -/
inductive Launch where
  | failed (error : Str) (duration : Nat)
  | started (duration : Nat) (survives : Bool)

/-- What a call of `get_or_init` meets: whether the configuration can be built, and its launches. -/
structure SlotCall where
  config : Except Str Unit
  first : Launch
  second : Launch

/-- The slot, `cdp.rs:110–125`, and around it the clock, the number of browsers launched so far and
those whose handler has ended. A browser is known by the order of its launch. -/
structure SlotState where
  inner : Option Nat
  lastInitFailure : Option Nat
  clock : Nat
  launched : Nat
  ended : List Nat

/-- `RETRY_COOLDOWN`; `cdp.rs:257`. -/
def retryCooldown : Nat := 30000

/-- Pause between two attempts; `cdp.rs:324–326`. -/
def retryBackoff : Nat := 2000

/-- What a call comes to: the times of its launches, and a browser or an error. -/
structure SlotResult where
  attempts : List Nat
  outcome : Except CrwError Nat

/-- The attempts that are left; `cdp.rs:269–335`. -/
def launchLoop : List Launch → Option CrwError → List Nat → SlotState → SlotResult × SlotState
  | [], lastErr, attempts, s =>
    (⟨attempts, .error (lastErr.getD (.fetch "browser initialisation failed (unknown reason)"))⟩,
      { s with lastInitFailure := some s.clock })
  | .started duration survives :: _, _, attempts, s =>
    (⟨attempts ++ [s.clock], .ok s.launched⟩,
      { s with
        inner := some s.launched
        launched := s.launched + 1
        clock := s.clock + duration
        ended := if survives then s.ended else s.launched :: s.ended })
  | .failed e duration :: launches, _, attempts, s =>
    launchLoop launches (some (.fetch ("browser config: " ++ e))) (attempts ++ [s.clock])
      { s with clock := s.clock + duration + if launches.isEmpty then 0 else retryBackoff }

/-- Whether the last failure is too recent for another attempt; `cdp.rs:258–263`. -/
def SlotState.refuses (s : SlotState) : Bool :=
  s.lastInitFailure.any fun last ↦ s.clock - last < retryCooldown

/-- Get the browser or launch one; `cdp.rs:251–336`. -/
def getOrInit (c : SlotCall) (s : SlotState) : SlotResult × SlotState :=
  match s.inner with
  | some browser => (⟨[], .ok browser⟩, s)
  | none =>
    if s.refuses then
      (⟨[], .error (.fetch "browser initialisation previously failed (retry cooldown)")⟩, s)
    else
      let s := { s with lastInitFailure := none }
      match c.config with
      | .error e => (⟨[], .error (.fetch ("browser config: " ++ e))⟩, s)
      | .ok () => launchLoop [c.first, c.second] none [] s

/-- A call, as it is remembered: when it began and ended, what it met and came to, and the handlers
that had ended when it returned. -/
structure SlotRecord where
  begun : Nat
  finished : Nat
  call : SlotCall
  result : SlotResult
  ended : List Nat

/-- A slot and the calls made so far. -/
structure SlotRun where
  state : SlotState
  log : List SlotRecord

/-- What happens to a slot: a call, the end of a handler, or that time passes. -/
inductive SlotEvent where
  | call (c : SlotCall)
  | ends (browser : Nat)
  | elapse (milliseconds : Nat)

/-- An empty slot. -/
def SlotRun.start : SlotRun := ⟨⟨none, none, 0, 0, []⟩, []⟩

/-- A call, with its record. -/
def recordOf (c : SlotCall) (s : SlotState) : SlotRecord where
  begun := s.clock
  finished := (getOrInit c s).2.clock
  call := c
  result := (getOrInit c s).1
  ended := (getOrInit c s).2.ended

/-- One event. Only a browser that was launched can end. -/
def slotStep (r : SlotRun) : SlotEvent → SlotRun
  | .call c => ⟨(getOrInit c r.state).2, r.log ++ [recordOf c r.state]⟩
  | .ends browser =>
    if browser < r.state.launched then
      { r with state := { r.state with ended := browser :: r.state.ended } }
    else r
  | .elapse milliseconds =>
    { r with state := { r.state with clock := r.state.clock + milliseconds } }

section Spec

/-- The launch that counts: the second if the first fails. -/
def SlotCall.decisive (c : SlotCall) : Launch :=
  match c.first with
  | .started .. => c.first
  | .failed .. => c.second

/-- A call whose launches have failed. -/
def SlotRecord.failed (r : SlotRecord) : Bool :=
  !r.result.attempts.isEmpty && !r.result.outcome.isOk

/-- The end of the last call whose launches failed. -/
def lastFailure (log : List SlotRecord) : Option Nat :=
  (log.filter SlotRecord.failed).getLast?.map SlotRecord.finished

/-- The last failure before a time is at least the cooldown ago. -/
def CooledAt (log : List SlotRecord) (time : Nat) : Prop :=
  ∀ failure, lastFailure log = some failure → failure + retryCooldown ≤ time

/-- What is asked of a call, after the calls before it. -/
structure CallRight (before : List SlotRecord) (r : SlotRecord) : Prop where
  /-- The browser it returns has not ended. -/
  live : ∀ browser, r.result.outcome = .ok browser → browser ∉ r.ended
  /-- It makes two attempts at most. -/
  twice : r.result.attempts.length ≤ 2
  /-- It makes none within the cooldown of the last failure. -/
  cooled : ∀ time ∈ r.result.attempts, CooledAt before time
  /-- After the cooldown it tries again, unless there is a browser already. -/
  retries : CooledAt before r.begun → r.call.config.isOk →
    (∀ r' ∈ before, r'.result.outcome.isOk = false) → r.result.attempts ≠ []
  /-- After the cooldown it has a browser if one can be launched. -/
  recovers : CooledAt before r.begun → r.call.config.isOk →
    (∃ duration survives, r.call.decisive = .started duration survives) → r.result.outcome.isOk

/-- Every call so far was right. -/
def SlotRun.Recovers (r : SlotRun) : Prop :=
  ∀ before record, before ++ [record] <+: r.log → CallRight before record

/-- The browser that a call returns stays alive: the one in the slot, or the one that the call
launches until it returns. -/
def StaysAlive (r : SlotRun) : SlotEvent → Prop
  | .call c =>
    match r.state.inner with
    | some browser => browser ∉ r.state.ended
    | none => r.state.refuses = false → c.config.isOk →
      ∀ duration, c.decisive ≠ .started duration false
  | .ends _ | .elapse _ => True

end Spec
section Steps

/-- What a call can do. -/
inductive Handled (c : SlotCall) (s : SlotState) : SlotResult → SlotState → Prop
  | held (browser : Nat) : s.inner = some browser → Handled c s ⟨[], .ok browser⟩ s
  | refused (e : CrwError) : s.inner = none → s.refuses = true → Handled c s ⟨[], .error e⟩ s
  | unconfigured (e : CrwError) : s.inner = none → s.refuses = false → c.config.isOk = false →
      Handled c s ⟨[], .error e⟩ { s with lastInitFailure := none }
  | launched (attempts : List Nat) (duration : Nat) (survives : Bool) (clock : Nat) :
      s.inner = none → s.refuses = false → c.config.isOk = true →
      c.decisive = .started duration survives → attempts ≠ [] → attempts.length ≤ 2 →
      (∀ time ∈ attempts, s.clock ≤ time) → s.clock ≤ clock →
      Handled c s ⟨attempts, .ok s.launched⟩
        ⟨some s.launched, none, clock, s.launched + 1,
          if survives then s.ended else s.launched :: s.ended⟩
  | failed (attempts : List Nat) (e : CrwError) (clock : Nat) :
      s.inner = none → s.refuses = false → c.config.isOk = true →
      (∀ duration survives, c.decisive ≠ .started duration survives) → attempts ≠ [] →
      attempts.length ≤ 2 → (∀ time ∈ attempts, s.clock ≤ time) → s.clock ≤ clock →
      Handled c s ⟨attempts, .error e⟩ { s with lastInitFailure := some clock, clock := clock }

theorem handled_getOrInit (c : SlotCall) (s : SlotState) :
    Handled c s (getOrInit c s).1 (getOrInit c s).2 := by
  obtain ⟨inner, lastInitFailure, clock, launched, ended⟩ := s
  unfold getOrInit
  cases inner with
  | some browser => exact .held browser rfl
  | none =>
    dsimp only
    split
    next hrefuses => exact .refused _ rfl hrefuses
    next hcooled =>
      have hcooled := Bool.eq_false_iff.mpr hcooled
      obtain ⟨config, first, second⟩ := c
      cases config with
      | error e => exact .unconfigured _ rfl hcooled rfl
      | ok _ =>
        cases first with
        | started duration survives =>
          refine .launched [clock] duration survives _ rfl hcooled rfl rfl (by simp) (by simp) ?_ ?_
          · simp
          · exact Nat.le_add_right _ _
        | failed e duration =>
          cases second with
          | started duration' survives =>
            refine .launched [clock, _] duration' survives _ rfl hcooled rfl rfl (by simp) (by simp)
              ?_ ?_
            · simp
              omega
            · dsimp only [List.isEmpty]
              omega
          | failed e' duration' =>
            refine .failed [clock, _] _ _ rfl hcooled rfl ?_ (by simp) (by simp) ?_ ?_
            · intro d v h
              exact absurd h (by simp [SlotCall.decisive])
            · simp
              omega
            · dsimp only [List.isEmpty]
              omega

theorem lastFailure_concat (log : List SlotRecord) (r : SlotRecord) :
    lastFailure (log ++ [r]) = if r.failed then some r.finished else lastFailure log := by
  unfold lastFailure
  rw [List.filter_append, List.filter_singleton]
  cases r.failed <;> simp

/-- How the state of a slot follows the calls made, in every run. -/
structure SlotInvariant (r : SlotRun) : Prop where
  fresh : ∀ browser ∈ r.state.ended, browser < r.state.launched
  held : ∀ browser, r.state.inner = some browser → ∃ r' ∈ r.log, r'.result.outcome.isOk = true
  recorded : ∀ last, r.state.lastInitFailure = some last → lastFailure r.log = some last
  failure : ∀ failure, lastFailure r.log = some failure → r.state.inner = none →
    r.state.lastInitFailure = some failure ∨ failure + retryCooldown ≤ r.state.clock

theorem slotInvariant_start : SlotInvariant .start where
  fresh browser h := absurd h List.not_mem_nil
  held browser h := absurd h (by simp [SlotRun.start])
  recorded last h := absurd h (by simp [SlotRun.start])
  failure failure h := absurd h (by simp [SlotRun.start, lastFailure])

variable {r : SlotRun} {c : SlotCall}

/-- A slot without a browser refuses exactly within the cooldown. -/
theorem SlotInvariant.refuses_iff (h : SlotInvariant r) (hnone : r.state.inner = none) :
    r.state.refuses = false ↔ CooledAt r.log r.state.clock := by
  unfold SlotState.refuses CooledAt
  cases hlast : r.state.lastInitFailure with
  | none =>
    refine iff_of_true rfl fun failure hfailure ↦ ?_
    rcases h.failure failure hfailure hnone with heq | hle
    · exact absurd (hlast.symm.trans heq) (by simp)
    · exact hle
  | some last =>
    rw [h.recorded last hlast]
    simp only [Option.any_some, decide_eq_false_iff_not, Option.some.injEq, forall_eq']
    unfold retryCooldown
    omega

/-- Every event keeps the invariant. -/
theorem SlotInvariant.step (h : SlotInvariant r) (e : SlotEvent) :
    SlotInvariant (slotStep r e) := by
  cases e with
  | ends browser =>
    rw [slotStep]
    split
    next hlt =>
      refine ⟨fun b hb ↦ ?_, h.held, h.recorded, h.failure⟩
      rcases List.mem_cons.mp hb with rfl | hb
      · exact hlt
      · exact h.fresh b hb
    next => exact h
  | elapse milliseconds =>
    refine ⟨h.fresh, h.held, h.recorded, fun failure hfailure hnone ↦ ?_⟩
    exact (h.failure failure hfailure hnone).imp_right fun hle ↦ Nat.le_add_right_of_le hle
  | call c =>
    have hlog := lastFailure_concat r.log (recordOf c r.state)
    have hhandled := handled_getOrInit c r.state
    rw [slotStep]
    generalize hrecord : recordOf c r.state = record at hlog ⊢
    have hresult : record.result = (getOrInit c r.state).1 := by rw [← hrecord]; rfl
    have hfinished : record.finished = (getOrInit c r.state).2.clock := by rw [← hrecord]; rfl
    generalize (getOrInit c r.state).1 = result at hhandled hresult
    generalize (getOrInit c r.state).2 = state at hhandled hfinished ⊢
    have hold : ∀ browser, r.state.inner = some browser →
        ∃ r' ∈ r.log ++ [record], r'.result.outcome.isOk = true := by
      intro browser hb
      obtain ⟨r', hr', hok⟩ := h.held browser hb
      exact ⟨r', List.mem_append_left _ hr', hok⟩
    have hquiet : result.attempts = [] → lastFailure (r.log ++ [record]) = lastFailure r.log := by
      intro hnil
      rw [hlog, SlotRecord.failed, hresult, hnil]
      rfl
    cases hhandled with
    | held browser hb =>
      refine ⟨h.fresh, hold, fun last hlast ↦ ?_, fun failure hfailure hnone ↦ ?_⟩
      · exact (hquiet rfl).trans (h.recorded last hlast)
      · exact h.failure failure ((hquiet rfl).symm.trans hfailure) hnone
    | refused e hnone hrefuses =>
      refine ⟨h.fresh, hold, fun last hlast ↦ ?_, fun failure hfailure hnone ↦ ?_⟩
      · exact (hquiet rfl).trans (h.recorded last hlast)
      · exact h.failure failure ((hquiet rfl).symm.trans hfailure) hnone
    | unconfigured e hnone hcooled hconfig =>
      refine ⟨h.fresh, hold, fun last hlast ↦ absurd hlast (by simp), fun failure hfailure _ ↦ ?_⟩
      exact .inr ((h.refuses_iff hnone).mp hcooled failure ((hquiet rfl).symm.trans hfailure))
    | launched attempts duration survives clock hnone hcooled hconfig hdecisive hne hlen htimes
        hclock =>
      refine ⟨fun browser hb ↦ ?_, fun browser _ ↦ ?_, fun last hlast ↦ absurd hlast (by simp),
        fun failure _ hnone ↦ absurd hnone (by simp)⟩
      · cases survives with
        | true => exact Nat.lt_succ_of_lt (h.fresh browser hb)
        | false =>
          rcases List.mem_cons.mp hb with rfl | hb
          · exact Nat.lt_succ_self _
          · exact Nat.lt_succ_of_lt (h.fresh browser hb)
      · exact ⟨record, List.mem_append_right _ (List.mem_singleton_self _), by rw [hresult]; rfl⟩
    | failed attempts e clock hnone hcooled hconfig hdecisive hne hlen htimes hclock =>
      have hfailed : lastFailure (r.log ++ [record]) = some clock := by
        have hempty : attempts.isEmpty = false := List.isEmpty_eq_false_iff.mpr hne
        rw [hlog, SlotRecord.failed, hresult, hempty, hfinished]
        rfl
      refine ⟨h.fresh, hold, fun last hlast ↦ ?_, fun failure hfailure _ ↦ .inl ?_⟩
      · rw [hfailed, ← hlast]
      · exact hfailed.symm.trans hfailure

end Steps

section Runs

variable {r : SlotRun} {c : SlotCall}

theorem staysAlive_held {browser : Nat} (hb : r.state.inner = some browser) :
    StaysAlive r (.call c) ↔ browser ∉ r.state.ended := by
  simp only [StaysAlive, hb]

theorem staysAlive_none (hnone : r.state.inner = none) :
    StaysAlive r (.call c) ↔ (r.state.refuses = false → c.config.isOk = true →
      ∀ duration, c.decisive ≠ .started duration false) := by
  simp only [StaysAlive, hnone]

/-- A call after a history is right exactly when the browser that it returns stays alive. -/
theorem callRight_iff (h : SlotInvariant r) (c : SlotCall) :
    CallRight r.log (recordOf c r.state) ↔ StaysAlive r (.call c) := by
  have hhandled := handled_getOrInit c r.state
  generalize hrecord : recordOf c r.state = record
  have hbegun : record.begun = r.state.clock := by rw [← hrecord]; rfl
  have hcall : record.call = c := by rw [← hrecord]; rfl
  have hresult : record.result = (getOrInit c r.state).1 := by rw [← hrecord]; rfl
  have hended : record.ended = (getOrInit c r.state).2.ended := by rw [← hrecord]; rfl
  generalize (getOrInit c r.state).1 = result at hhandled hresult
  generalize (getOrInit c r.state).2 = state at hhandled hended
  obtain ⟨begun, finished, call, result', ended⟩ := record
  dsimp only at hbegun hcall hresult hended
  subst hbegun hcall hresult hended
  cases hhandled with
  | held browser hb =>
    rw [staysAlive_held hb]
    refine ⟨fun hright ↦ hright.live browser rfl, fun halive ↦ ?_⟩
    constructor
    case live =>
      intro browser' hbrowser
      rw [← Except.ok.inj hbrowser]
      exact halive
    case twice => exact Nat.zero_le 2
    case cooled => exact fun time htime ↦ absurd htime List.not_mem_nil
    case retries =>
      intro _ _ hnone
      obtain ⟨r', hr', hok⟩ := h.held browser hb
      exact absurd hok (by rw [hnone r' hr']; exact Bool.false_ne_true)
    case recovers => exact fun _ _ _ ↦ rfl
  | refused e hnone hrefuses =>
    rw [staysAlive_none hnone]
    have hnot : ¬ CooledAt r.log r.state.clock := by
      rw [← h.refuses_iff hnone, hrefuses]
      exact Bool.noConfusion
    refine iff_of_true ?_ fun hcooled ↦ absurd (hrefuses.symm.trans hcooled) Bool.noConfusion
    constructor
    case live => exact fun browser hbrowser ↦ absurd hbrowser (by simp)
    case twice => exact Nat.zero_le 2
    case cooled => exact fun time htime ↦ absurd htime List.not_mem_nil
    case retries => exact fun hcooled ↦ absurd hcooled hnot
    case recovers => exact fun hcooled ↦ absurd hcooled hnot
  | unconfigured e hnone hcooled hconfig =>
    rw [staysAlive_none hnone]
    have hnot : ¬ call.config.isOk = true := by
      rw [hconfig]
      exact Bool.false_ne_true
    refine iff_of_true ?_ fun _ hok ↦ absurd hok hnot
    constructor
    case live => exact fun browser hbrowser ↦ absurd hbrowser (by simp)
    case twice => exact Nat.zero_le 2
    case cooled => exact fun time htime ↦ absurd htime List.not_mem_nil
    case retries => exact fun _ hok ↦ absurd hok hnot
    case recovers => exact fun _ hok ↦ absurd hok hnot
  | launched attempts duration survives clock hnone hcooled hconfig hdecisive hne hlen htimes
      hclock =>
    rw [staysAlive_none hnone]
    constructor
    · intro hright _ _ duration' hdead
      have hsurvives : survives = false := (Launch.started.inj (hdecisive.symm.trans hdead)).2
      refine hright.live r.state.launched rfl ?_
      simp [hsurvives]
    · intro halive
      have hsurvives : survives = true := by
        cases survives with
        | true => rfl
        | false => exact absurd hdecisive (halive hcooled hconfig duration)
      have hcool := (h.refuses_iff hnone).mp hcooled
      constructor
      case live =>
        intro browser hbrowser hdead
        obtain rfl := Except.ok.inj hbrowser
        exact absurd (h.fresh _ (by simpa [hsurvives] using hdead)) (Nat.lt_irrefl _)
      case twice => exact hlen
      case cooled =>
        exact fun time htime failure hfailure ↦ (hcool failure hfailure).trans (htimes time htime)
      case retries => exact fun _ _ _ ↦ hne
      case recovers => exact fun _ _ _ ↦ rfl
  | failed attempts e clock hnone hcooled hconfig hdecisive hne hlen htimes hclock =>
    rw [staysAlive_none hnone]
    have hcool := (h.refuses_iff hnone).mp hcooled
    refine iff_of_true ?_ fun _ _ duration ↦ hdecisive duration false
    constructor
    case live => exact fun browser hbrowser ↦ absurd hbrowser (by simp)
    case twice => exact hlen
    case cooled =>
      exact fun time htime failure hfailure ↦ (hcool failure hfailure).trans (htimes time htime)
    case retries => exact fun _ _ _ ↦ hne
    case recovers =>
      rintro - - ⟨duration, survives, hstarted⟩
      exact absurd hstarted (hdecisive duration survives)

/-- An event keeps the calls right exactly when the browser of a call stays alive. -/
theorem recovers_step_iff (h : SlotInvariant r) (e : SlotEvent) :
    (slotStep r e).Recovers ↔ r.Recovers ∧ StaysAlive r e := by
  cases e with
  | ends browser =>
    have hlog : (slotStep r (.ends browser)).log = r.log := by
      rw [slotStep]
      split <;> rfl
    unfold SlotRun.Recovers
    rw [hlog]
    exact (and_iff_left trivial).symm
  | elapse milliseconds => exact (and_iff_left trivial).symm
  | call c =>
    rw [← callRight_iff h c]
    constructor
    · intro hall
      refine ⟨fun before record hpre ↦ ?_, hall _ _ (List.prefix_refl _)⟩
      exact hall before record (hpre.trans (List.prefix_append _ _))
    · rintro ⟨hbefore, hlast⟩ before record hpre
      rcases List.prefix_concat_iff.mp hpre with heq | hpre
      · obtain ⟨rfl, hrecord⟩ := List.append_inj' heq rfl
        rw [List.singleton_inj.mp hrecord]
        exact hlast
      · exact hbefore before record hpre

/-- In every run, every call was right exactly when at each call the browser that it returns stayed
alive: the slot never looks at the handler of its browser. -/
theorem recovers_iff {es : List SlotEvent} (h : Run (Steps slotStep) .start es r) :
    r.Recovers ↔ Run (Guarded StaysAlive (Steps slotStep)) .start es r := by
  refine h.guarded_iff (I := SlotInvariant) ?_ ?_ slotInvariant_start ?_
  · rintro s e t hs rfl
    exact hs.step e
  · rintro s e t hs rfl
    exact recovers_step_iff hs e
  · exact fun before record hpre ↦ absurd (List.prefix_nil.mp hpre) (by simp)

/-- The first launch fails, the second comes two seconds later. -/
def slowStart : SlotCall := ⟨.ok (), .failed "Connection refused" 50, .started 900 true⟩

theorem recovers_slowStart : (slotStep .start (.call slowStart)).Recovers := by
  have hrun : Run (Steps slotStep) .start [.call slowStart] (slotStep .start (.call slowStart)) :=
    .single rfl
  refine (recovers_iff hrun).mpr (.single ⟨?_, rfl⟩)
  rw [staysAlive_none rfl]
  intro _ _ duration h
  exact absurd (Launch.started.inj h).2 (by decide)

/-- A browser that has died is returned. -/
theorem not_recovers_dead :
    ¬ ([.call slowStart, .ends 0, .call slowStart].foldl slotStep SlotRun.start).Recovers := by
  intro h
  have hright := h [recordOf slowStart SlotRun.start.state] _ (List.prefix_refl _)
  exact absurd (hright.live 0 rfl) (by decide)

end Runs
end CrwShield.Fetch
