import CrwShield.Antibot.BlockScoring
import CrwShield.Antibot.Rotation
import CrwShield.Fetch.Ladder
import CrwShield.Fetch.TlsProxy

/-!
# The ladder with reactive rotation

Crate `fetch`, `src/crates/fetch/src/ladder.rs:767–909`. The state holds the environment, the
per-host counters and the proxy shared by all calls, and a log of what the calls did.
-/

open CrwShield.Base CrwShield.Base.Str CrwShield.Antibot CrwShield.Core

namespace CrwShield.Fetch

universe u

/-- The backends together with what the rotation asks of the world. -/
structure Machine (ω : Type u) extends Backends ω where
  /-- `tokio::time::sleep`, in seconds. -/
  sleep : Nat → ω → ω
  /-- What becomes of the next proxy child that is started. -/
  startChild : ω → ChildOutcome × ω
  /-- `SystemTime::now` in milliseconds since the epoch, zero before it. -/
  nowUnixMs : ω → Nat

/-- What a call did beyond fetching, as the source's log lines name it. -/
inductive RotationEvent where
  | cleared (host : Str) (removed : Nat)
  | rotated (host newProfile : Str)
  | exhausted (host : Str)
  | rotateFailed (host : Str) (e : CrwError)
  | noProxy (host : Str) (nextProfileIdx : Nat)
  | budgetSpent (host : Str) (rotationsUsed : Nat)
  deriving DecidableEq

/-- What the calls of `fetch_with_rotation` share beside the environment. -/
structure Shared where
  counters : HostCounters
  proxy : Option TlsProxy
  log : List RotationEvent

/-- State of the calls of `fetch_with_rotation`. -/
structure RotationState (ω : Type u) extends Shared where
  env : Env ω

/-- How a call can fail: with an error of the fetch layer, or by a panic. -/
inductive Failure where
  | error (e : CrwError)
  | panic (p : Panic)

/-- Key of the per-host counters for a URL; `ladder.rs:774–777`. -/
def counterHost (U : UrlCrate) (url : Str) : Str :=
  ((U.parse url).toOption.bind U.hostStr).getD url

/-- Size of the profile pool passed to `decide`; `ladder.rs:782`. -/
def totalProfiles : Nat := 7

namespace FetchLadder

variable {ω : Type u} (W : Machine ω) (U : UrlCrate) (ladder : FetchLadder)

/-- Fetch again and return whatever comes. -/
def refetch (request : ScrapeRequest) (st : RotationState ω) :
    Except Failure LadderResult × RotationState ω :=
  let out := ladder.fetch W.toBackends U request st.env
  (out.1.mapError .error, { st with env := out.2 })

/-- L1: clear the host's cookies, wait and fetch again; `ladder.rs:785–808`. -/
def clearAndRetry (request : ScrapeRequest) (host : Str) (st : RotationState ω) :
    Except Failure LadderResult × RotationState ω :=
  let jar := st.env.jars ladder.cookies
  let cleared := jar.clearForHostExceptHitl (W.now st.env.world 0) host
  let env := st.env.modifyJar ladder.cookies fun _ ↦ cleared.1
  ladder.refetch W U request
    { st with
      env := { env with world := W.sleep 1 env.world }
      log := st.log ++ [.cleared host cleared.2] }

/-- Rotate the proxy; a child is started, after the configured delay, only when the ladder has a
next profile; `tls_proxy.rs:381–458`. -/
def rotateProxy (proxy : TlsProxy) (w : ω) : (Except CrwError (Option Str) × TlsProxy) × ω :=
  if proxy.nextProfile.isSome then
    let child := W.startChild (W.sleep proxy.config.rotationDelay w)
    (proxy.rotate child.1, child.2)
  else (proxy.rotate .ready, w)

/-- L2: wait, move the proxy to its next profile, count the rotation and fetch again; without a
next profile the page at hand is returned; `ladder.rs:809–895`. -/
def rotateAndRetry (request : ScrapeRequest) (host : Str) (nextProfileIdx : Nat)
    (result : LadderResult) (st : RotationState ω) :
    Except Failure LadderResult × RotationState ω :=
  match st.proxy with
  | none => (.ok result, { st with log := st.log ++ [.noProxy host nextProfileIdx] })
  | some proxy =>
    let rotation := rotateProxy W proxy (W.sleep l2CooldownSecs st.env.world)
    let st := { st with env := { st.env with world := rotation.2 }, proxy := some rotation.1.2 }
    match rotation.1.1 with
    | .ok none => (.ok result, { st with log := st.log ++ [.exhausted host] })
    | .error e => (.ok result, { st with log := st.log ++ [.rotateFailed host e] })
    | .ok (some newProfile) =>
      ladder.refetch W U request
        { st with
          counters := updateCounter host (·.recordRotation (W.nowUnixMs st.env.world)) st.counters
          log := st.log ++ [.rotated host newProfile] }

/-- Run the ladder, then act on the rotation decision for its page; `ladder.rs:767–909`. -/
def fetchWithRotation (request : ScrapeRequest) (st : RotationState ω) :
    Except Failure LadderResult × RotationState ω :=
  match ladder.fetch W.toBackends U request st.env with
  | (.error e, env) => (.error (.error e), { st with env := env })
  | (.ok result, env) =>
    let host := counterHost U request.url
    match Antibot.decide result.fetch.html "" host 0 st.counters totalProfiles with
    | .error p => (.error (.panic p), { st with env := env })
    | .ok (decision, counters) =>
      let st := { st with env := env, counters := counters }
      match decision with
      | .accept => (.ok result, st)
      | .clearAndRetry _ => ladder.clearAndRetry W U request host st
      | .rotate _ nextProfileIdx =>
        ladder.rotateAndRetry W U request host nextProfileIdx result st
      | .fail _ rotationsUsed =>
        (.ok result, { st with log := st.log ++ [.budgetSpent host rotationsUsed] })

/-- Decision taken on the first page of a call; none when the fetch fails or the detector
panics. -/
def decisionFor (request : ScrapeRequest) (st : RotationState ω) : Option RotationDecision :=
  match (ladder.fetch W.toBackends U request st.env).1 with
  | .error _ => none
  | .ok page =>
    (Antibot.decide page.fetch.html "" (counterHost U request.url) 0 st.counters
      totalProfiles).toOption.map Prod.fst

/-- What a call does to the shared state, by the decision it takes. -/
inductive Effect (host : Str) (st st' : Shared) : Option RotationDecision → Prop
  | undecided (hc : st'.counters = st.counters) (hp : st'.proxy = st.proxy)
      (hl : st'.log = st.log) : Effect host st st' none
  | accepted (hc : st'.counters = st.counters) (hp : st'.proxy = st.proxy)
      (hl : st'.log = st.log) : Effect host st st' (some .accept)
  | spent {s : BlockSignal} {n : Nat}
      (hn : maxRotationsPerHost ≤ (counterFor host st.counters).rotations)
      (hc : st'.counters = st.counters) (hp : st'.proxy = st.proxy)
      (hl : st'.log = st.log ++ [.budgetSpent host n]) : Effect host st st' (some (.fail s n))
  | cleared {s : BlockSignal} {n : Nat}
      (hn : (counterFor host st.counters).rotations < maxRotationsPerHost)
      (hfirst : (counterFor host st.counters).l1Attempted = false)
      (hc : st'.counters = updateCounter host .markL1Attempted st.counters)
      (hp : st'.proxy = st.proxy) (hl : st'.log = st.log ++ [.cleared host n]) :
      Effect host st st' (some (.clearAndRetry s))
  | noProxy {s : BlockSignal} {i : Nat}
      (hagain : (counterFor host st.counters).l1Attempted = true)
      (hproxy : st.proxy = none) (hc : st'.counters = st.counters) (hp : st'.proxy = none)
      (hl : st'.log = st.log ++ [.noProxy host i]) : Effect host st st' (some (.rotate s i))
  | exhausted {s : BlockSignal} {i : Nat} {p : TlsProxy}
      (hagain : (counterFor host st.counters).l1Attempted = true)
      (hproxy : st.proxy = some p) (hnext : p.nextProfile = none)
      (hc : st'.counters = st.counters) (hp : st'.proxy = some p)
      (hl : st'.log = st.log ++ [.exhausted host]) : Effect host st st' (some (.rotate s i))
  | rotateFailed {s : BlockSignal} {i : Nat} {p : TlsProxy} {e : CrwError} {w : ω}
      (hagain : (counterFor host st.counters).l1Attempted = true)
      (hproxy : st.proxy = some p) (hfail : (p.rotate (W.startChild w).1).1 = .error e)
      (hc : st'.counters = st.counters) (hp : st'.proxy = some { p with child := none })
      (hl : st'.log = st.log ++ [.rotateFailed host e]) : Effect host st st' (some (.rotate s i))
  | rotated {s : BlockSignal} {i : Nat} {p : TlsProxy} {next : Str} {ms : Nat}
      (hn : (counterFor host st.counters).rotations < maxRotationsPerHost)
      (hagain : (counterFor host st.counters).l1Attempted = true)
      (hproxy : st.proxy = some p) (hnext : p.nextProfile = some next)
      (hc : st'.counters = updateCounter host (·.recordRotation ms) st.counters)
      (hp : st'.proxy = some { p with child := some next, currentProfile := next })
      (hl : st'.log = st.log ++ [.rotated host next]) : Effect host st st' (some (.rotate s i))

variable {W U ladder}

private theorem effect_rotateAndRetry {request : ScrapeRequest} {host : Str} {s : BlockSignal}
    {i : Nat} {page : LadderResult} {st : RotationState ω} {env : Env ω}
    (hn : (counterFor host st.counters).rotations < maxRotationsPerHost)
    (hagain : (counterFor host st.counters).l1Attempted = true) :
    Effect W host st.toShared
      (ladder.rotateAndRetry W U request host i page { st with env := env }).2.toShared
      (some (.rotate s i)) := by
  unfold rotateAndRetry
  split
  · next hproxy => exact .noProxy hagain hproxy rfl hproxy rfl
  · next p hproxy =>
    dsimp only
    cases hnext : p.nextProfile with
    | none =>
      have hr : ∀ w, rotateProxy W p w = ((.ok none, p), w) := by
        intro w
        simp [rotateProxy, hnext, TlsProxy.rotate]
      simp only [hr]
      exact .exhausted hagain hproxy hnext rfl rfl rfl
    | some next =>
      have hr : ∀ w, ∃ w', (rotateProxy W p w).1 = p.rotate (W.startChild w').1 := by
        intro w
        exact ⟨W.sleep p.config.rotationDelay w, by simp [rotateProxy, hnext]⟩
      obtain ⟨w, hr⟩ := hr (W.sleep l2CooldownSecs env.world)
      rw [hr]
      rcases hout : p.rotate (W.startChild w).1 with ⟨answer, p'⟩
      rcases TlsProxy.rotate_cases hout with ⟨hno, -, -⟩ | ⟨e, rfl, rfl⟩ | ⟨next', hn', rfl, rfl⟩
      · exact absurd hno (by simp [hnext])
      · exact .rotateFailed hagain hproxy (congrArg Prod.fst hout) rfl rfl rfl
      · exact .rotated hn hagain hproxy hn' rfl rfl rfl

variable (W U ladder)

/-- Every call has the effect of the decision it takes. -/
theorem effect_fetchWithRotation (request : ScrapeRequest) (st : RotationState ω) :
    Effect W (counterHost U request.url) st.toShared
      (ladder.fetchWithRotation W U request st).2.toShared
      (ladder.decisionFor W U request st) := by
  unfold fetchWithRotation decisionFor
  rcases ladder.fetch W.toBackends U request st.env with ⟨_ | page, env⟩
  · exact .undecided rfl rfl rfl
  · dsimp only
    unfold Antibot.decide
    cases detect page.fetch.html "" with
    | error p => exact .undecided rfl rfl rfl
    | ok signal =>
      dsimp only
      cases signal with
      | none => exact .accepted rfl rfl rfl
      | some s =>
        simp only [decideSignal]
        by_cases hspent :
            maxRotationsPerHost ≤ (counterFor (counterHost U request.url) st.counters).rotations
        · simp only [hspent, ↓reduceIte]
          exact .spent hspent rfl rfl rfl
        · simp only [hspent, ↓reduceIte]
          have hn := Nat.lt_of_not_le hspent
          cases hagain : (counterFor (counterHost U request.url) st.counters).l1Attempted with
          | false => exact .cleared hn hagain rfl rfl rfl
          | true => exact effect_rotateAndRetry hn hagain

private theorem refetch_ne_panic (request : ScrapeRequest) (st : RotationState ω) (p : Panic) :
    (ladder.refetch W U request st).1 ≠ .error (.panic p) := by
  unfold refetch
  dsimp only
  cases (ladder.fetch W.toBackends U request st.env).1 with
  | error e => simp [Except.mapError]
  | ok page => simp [Except.mapError]

private theorem rotateAndRetry_ne_panic (request : ScrapeRequest) (host : Str) (i : Nat)
    (page : LadderResult) (st : RotationState ω) (p : Panic) :
    (ladder.rotateAndRetry W U request host i page st).1 ≠ .error (.panic p) := by
  unfold rotateAndRetry
  split
  · simp
  · dsimp only
    split
    · simp
    · simp
    · apply refetch_ne_panic

/-- The detector, the decision taken from it and the ladder that asks for the decision answer
exactly on the answerable pages. The ladder gives its pages no title. -/
theorem detector_answers_iff (html title : Str) :
    ((∃ s, detect html title = .ok s) ↔ Answerable html title) ∧
    (∀ (host : Str) (profileIdx : Nat) (counters : HostCounters) (total : Nat),
      (∃ d, Antibot.decide html title host profileIdx counters total = .ok d) ↔
        Answerable html title) ∧
    ∀ (request : ScrapeRequest) (st : RotationState ω) (page : LadderResult) (env : Env ω),
      ladder.fetch W.toBackends U request st.env = (.ok page, env) → page.fetch.html = html →
      ((∀ p, (ladder.fetchWithRotation W U request st).1 ≠ .error (.panic p)) ↔
        Answerable html "") := by
  refine ⟨detect_ok_iff, fun host profileIdx counters total ↦ ?_, ?_⟩
  · rw [← detect_ok_iff]
    unfold Antibot.decide
    cases detect html title with
    | error p => simp
    | ok signal =>
      dsimp only
      refine ⟨fun _ ↦ ⟨signal, rfl⟩, fun _ ↦ ?_⟩
      split
      · exact ⟨_, rfl⟩
      · exact ⟨_, rfl⟩
  · rintro request st page env hfetch rfl
    rw [← detect_ok_iff]
    unfold fetchWithRotation Antibot.decide
    rw [hfetch]
    dsimp only
    cases detect page.fetch.html "" with
    | error p => simp
    | ok signal =>
      refine ⟨fun _ ↦ ⟨signal, rfl⟩, fun _ p ↦ ?_⟩
      dsimp only
      cases decideSignal signal (counterFor (counterHost U request.url) st.counters) 0
        totalProfiles with
      | accept => simp
      | clearAndRetry s => apply refetch_ne_panic
      | rotate s i => apply rotateAndRetry_ne_panic
      | fail s n => simp

end FetchLadder

/-- A page of 563 bytes whose two-byte letter straddles byte 512. -/
def straddlingPage : Str := List.replicate 511 'a' ++ 'é' :: List.replicate 50 'a'

private theorem mem_straddlingPage {c : Char} (h : c ∈ straddlingPage) : c = 'a' ∨ c = 'é' := by
  rcases List.mem_append.mp h with h | h
  · exact .inl (List.eq_of_mem_replicate h)
  · rcases List.mem_cons.mp h with h | h
    · exact .inr h
    · exact .inl (List.eq_of_mem_replicate h)

private theorem lower_straddlingPage : toLowercase straddlingPage = straddlingPage := by
  have hself : ∀ c ∈ straddlingPage, charToLowercase c = [c] := by
    intro c hc
    rcases mem_straddlingPage hc with rfl | rfl <;> decide
  rw [toLowercase, List.flatMap_congr hself, List.flatMap_singleton']

private theorem len_straddlingPage : len straddlingPage = 563 := by
  have hwide (s : Str) : len ('é' :: s) = 2 + len s := rfl
  rw [straddlingPage, len_append, hwide, len_replicate, len_replicate]
  rfl

private theorem not_isCharBoundary_straddlingPage : ¬ IsCharBoundary 512 straddlingPage := by
  rintro ⟨a, b, hab, hlen⟩
  have hfirst : len (List.replicate 511 'a') = 511 := by
    rw [len_replicate]
    rfl
  rcases List.append_eq_append_iff.mp hab with ⟨t, rfl, ht⟩ | ⟨t, ht, -⟩
  · rw [len_append, hfirst] at hlen
    cases t with
    | nil => simp [len] at hlen
    | cons c cs =>
      obtain ⟨rfl, -⟩ := List.cons.inj ht
      have hwide : len ('é' :: cs) = 2 + len cs := rfl
      omega
  · rw [ht, len_append] at hfirst
    omega

theorem detector_panics_on_straddlingPage : ¬ ∃ s, detect straddlingPage "" = .ok s := by
  rw [detect_ok_iff]
  have hnone : ∀ p ∈ patterns, ¬ p.Alone straddlingPage "" := by
    have hletter : (patterns.all fun p ↦
        (toLowercase p.phrase).any fun c ↦ c != 'a' && c != 'é') = true := by
      unfold patterns
      repeat rw [String.toList_ofList]
      decide
    intro p hp halone
    obtain ⟨c, hc, hne⟩ := List.any_eq_true.mp (List.all_eq_true.mp hletter p hp)
    simp only [Bool.and_eq_true, bne_iff_ne] at hne
    obtain ⟨hca, hce⟩ := hne
    have htitle : ¬ p.InTitle "" := by
      unfold Pattern.InTitle
      rw [contains_iff]
      exact fun hin ↦ absurd (hin.subset hc) (by simp [toLowercase])
    rw [Pattern.Alone, if_neg htitle, Pattern.InBody, lower_straddlingPage, contains_iff] at halone
    rcases mem_straddlingPage (halone.1.subset hc) with hmem | hmem
    · exact hca hmem
    · exact hce hmem
  rintro (⟨p, hp, halone⟩ | hle | hge | hboundary)
  · exact hnone p hp halone
  · rw [len_straddlingPage] at hle
    omega
  · rw [len_straddlingPage, emptyThresholdBytes] at hge
    omega
  · exact not_isCharBoundary_straddlingPage hboundary

end CrwShield.Fetch
