import CrwShield.Antibot.PageDetectors
import CrwShield.Fetch.Ladder

/-!
# Accepted solutions

Crate `fetch`, `src/crates/fetch/src/ladder.rs:265–331,457–501`. The validator reads a FlareSolverr
page without its status, the report that goes with the page is made with it.
-/

open CrwShield.Base CrwShield.Base.Str CrwShield.Antibot CrwShield.Core

namespace CrwShield.Fetch

/-- A page with a title that is longer than the threshold is taken for the real one;
`ladder.rs:295–307`. -/
def isResolvedPage (html : Str) : Bool :=
  let isDatadome := (["geo.captcha-delivery.com", "datadome", "ddc."] : List Str).any fun f ↦
    contains f (toAsciiLowercase html)
  (if isDatadome then 1000 else 5000) < len html && contains "<title" html

section Validator

variable {html : Str} {overrideKind : Option SituationKind}

/-- The validator accepts a resolved page as clean, and otherwise a page that both older detectors
pass, without an overriding kind. -/
theorem validate_ok_iff :
    validateFlaresolverrSolution html = .ok overrideKind ↔
      (isResolvedPage html = true ∧ overrideKind = some .cleanSuccess) ∨
      (isResolvedPage html = false ∧ overrideKind = none ∧
        detectEmptyOrBlocked html = false ∧ detectChallenge html = none) := by
  have hdef : validateFlaresolverrSolution html =
      if isResolvedPage html then .ok (some .cleanSuccess)
      else if detectEmptyOrBlocked html then
        .error ("flaresolverr returned anti-bot page (kind=" ++
          (diagnose html none none).kind.asStr ++ ", confidence-via-detect-empty-or-blocked)")
      else (detectChallenge html).elim (.ok none) fun provider ↦
        .error ("flaresolverr returned anti-bot page (" ++ provider ++ ")") := by
    unfold validateFlaresolverrSolution
    cases detectChallenge html <;> rfl
  rw [hdef]
  cases isResolvedPage html with
  | true =>
    constructor
    · intro h
      exact .inl ⟨rfl, (Except.ok.inj h).symm⟩
    · rintro (⟨-, rfl⟩ | ⟨hfalse, -⟩)
      · rfl
      · exact absurd hfalse (by simp)
  | false =>
    cases detectEmptyOrBlocked html with
    | true => exact iff_of_false nofun (by simp)
    | false =>
      cases detectChallenge html with
      | some provider => exact iff_of_false nofun (by simp)
      | none => simp [eq_comm]

end Validator

section Solution

variable {solution : FlareSolverrResult} {request : ScrapeRequest}

/-- The headers of a solution name no provider. -/
theorem headerStage_solution (lower : Str) (statusCode : Option Nat) :
    headerStage lower statusCode (some (solution.page request).headers) = none := by
  have hmatch : matchHeader (solution.page request).headers = none := by
    have hsource : namedBy ("x-crw-source", "flaresolverr") = none := by decide
    have hagent (ua : Str) : namedBy ("x-crw-user-agent", ua) = none := by
      have hname : headerHit (toAsciiLowercase "x-crw-user-agent") = none := by decide
      exact hname
    change List.findSome? namedBy _ = none
    simp only [FlareSolverrResult.page, List.findSome?_cons, hsource]
    cases solution.userAgent with
    | none => rfl
    | some ua =>
      simp only [Option.map_some, Option.toList_some, List.findSome?_cons, hagent,
        List.findSome?_nil]
  simp only [headerStage, Option.bind_some, hmatch, Option.bind_none]

/-- The report of a solution is made by its status, by the scan, or by its size. -/
theorem diagnose_solution (solution : FlareSolverrResult) (request : ScrapeRequest) :
    diagnoseFetch (solution.page request) =
      (statusStage (some solution.statusCode)).getD
        (match scanned (toAsciiLowercase solution.html) (some solution.statusCode) with
          | some entry =>
            tokenReport (toAsciiLowercase solution.html) (some solution.statusCode) entry
          | none => (sizeStage solution.html (some solution.statusCode)).getD
              { SituationReport.clean with statusCode := some solution.statusCode }) := by
  have hheaders : (solution.page request).headers.isEmpty = false := rfl
  have hheader := @headerStage_solution solution request
    (toAsciiLowercase solution.html) (some solution.statusCode)
  rw [diagnoseFetch, hheaders]
  cases hstatus : statusStage (some solution.statusCode) with
  | some r =>
    change diagnose solution.html (some solution.statusCode) _ = _
    rw [diagnose]
    simp only [Bool.false_eq_true, if_false, hheader, hstatus, Option.none_or, Option.some_or,
      Option.getD_some]
  | none => exact diagnose_scan hheader hstatus

/-- At status 200 the row named decides whether the report of a solution is a block. -/
theorem isAntiBot_solution {entry : ProviderEntry} (hst : solution.statusCode = 200)
    (hscan : scanned (toAsciiLowercase solution.html) (some 200) = some entry) :
    (diagnoseFetch (solution.page request)).isAntiBot = entry.kind.isAntiBot := by
  have hstatus : statusStage (some 200) = none := rfl
  rw [diagnose_solution, hst, hstatus, Option.getD_none, hscan]
  rfl

private theorem isAntiBot_statusStage {statusCode : Option Nat} {r : SituationReport}
    (h : statusStage statusCode = some r) : r.isAntiBot = false ∧ statusCode ≠ some 200 := by
  simp only [statusStage, Option.bind_eq_some_iff] at h
  obtain ⟨code, rfl, h⟩ := h
  split at h
  · rw [← Option.some.inj h]
    exact ⟨rfl, by simp; omega⟩
  · split at h
    · rw [← Option.some.inj h]
      exact ⟨rfl, by simp; omega⟩
    · exact absurd h (by simp)

private theorem isAntiBot_sizeStage (html : Str) (statusCode : Option Nat) :
    ((sizeStage html statusCode).getD
      { SituationReport.clean with statusCode := statusCode }).isAntiBot = false := by
  unfold sizeStage
  split <;> rfl

/-- A page that the detectors pass is blocked for the report exactly when its status is 200, no row
has two tokens, and the first row with a long token is a block. -/
theorem diagnose_solution_iff
    (hpass : detectEmptyOrBlocked solution.html = false ∧ detectChallenge solution.html = none) :
    (diagnoseFetch (solution.page request)).isAntiBot = false ↔
      solution.statusCode ≠ 200 ∨
      (∃ entry ∈ providers.all, hasTwo (toAsciiLowercase solution.html) entry = true) ∨
      ∀ first,
        providers.all.find? (isStrong (some 200) (toAsciiLowercase solution.html)) = some first →
          first.kind.isAntiBot = false := by
  rw [detectors_pass_iff, scanned_of_ne (by simp)] at hpass
  rw [diagnose_solution]
  cases hstatus : statusStage (some solution.statusCode) with
  | some r =>
    obtain ⟨hr, hne⟩ := isAntiBot_statusStage hstatus
    exact iff_of_true hr (.inl (by simpa using hne))
  | none =>
    rw [Option.getD_none]
    by_cases hst : solution.statusCode = 200
    · simp only [hst, ne_eq, not_true_eq_false, false_or, scanned]
      cases htwo : providers.all.find? (hasTwo (toAsciiLowercase solution.html)) with
      | some first =>
        -- the validator's scan names the same row
        rw [htwo, Option.some_or] at hpass
        have hexists : ∃ entry ∈ providers.all,
            hasTwo (toAsciiLowercase solution.html) entry = true :=
          ⟨first, List.mem_of_find?_eq_some htwo, List.find?_some htwo⟩
        exact iff_of_true (isAntiBot_of_isPassedOver hpass) (.inl hexists)
      | none =>
        have hnone : ¬ ∃ entry ∈ providers.all,
            hasTwo (toAsciiLowercase solution.html) entry = true := by
          rintro ⟨entry, hentry, h2⟩
          exact List.find?_eq_none.mp htwo entry hentry h2
        rw [Option.none_or]
        simp only [hnone, false_or]
        cases providers.all.find? (isStrong (some 200) (toAsciiLowercase solution.html)) with
        | some first => simp [tokenReport, buildReport, SituationReport.isAntiBot]
        | none => simpa using isAntiBot_sizeStage solution.html (some 200)
    · refine iff_of_true ?_ (.inl hst)
      rw [scanned_of_ne (by simpa using hst)]
      revert hpass
      cases (providers.all.find? (hasTwo (toAsciiLowercase solution.html))).or
          (providers.all.find? (hasOne (toAsciiLowercase solution.html))) with
      | some entry => exact isAntiBot_of_isPassedOver
      | none => exact fun _ ↦ isAntiBot_sizeStage _ _

end Solution

section Ladder

universe u
variable {ω : Type u} {B : Backends ω} {U : UrlCrate} {ladder : FetchLadder}

/-- The report of an accepted solution is no block exactly when its page is a resolved one, its
status is not 200, some row has two tokens in it, or the first row with a long token is no block. -/
theorem accepted_not_antiBot_iff {fs : FlareSolverrClient} {url : Str} {request : ScrapeRequest}
    {fromCdp : Bool} {env env₁ env' : Env ω} {solution : FlareSolverrResult} {r : LadderResult}
    (hfs : ladder.flaresolverr = some fs)
    (hsolution : B.flaresolverr fs url 60000 env = (.ok solution, env₁))
    (h : ladder.tryFlaresolverr B U url request fromCdp env = (.ok (some r), env')) :
    r.situation.isAntiBot = false ↔
      isResolvedPage solution.html = true ∨ solution.statusCode ≠ 200 ∨
      (∃ entry ∈ providers.all, hasTwo (toAsciiLowercase solution.html) entry = true) ∨
      ∀ first,
        providers.all.find? (isStrong (some 200) (toAsciiLowercase solution.html)) = some first →
          first.kind.isAntiBot = false := by
  obtain ⟨_, fs', solution', env₁', overrideKind, -, -, hfs', hsolution', hvalid, rfl, -⟩ :=
    FetchLadder.tryFlaresolverr_inv h
  obtain rfl : fs = fs' := Option.some.inj (hfs.symm.trans hfs')
  obtain ⟨hsol, rfl⟩ := Prod.mk.inj (hsolution.symm.trans hsolution')
  obtain rfl := Except.ok.inj hsol
  rcases validate_ok_iff.mp hvalid with ⟨hresolved, rfl⟩ | ⟨hresolved, rfl, hpass⟩
  · exact iff_of_true rfl (.inl hresolved)
  · rw [hresolved]
    simp only [Bool.false_eq_true, false_or]
    exact diagnose_solution_iff hpass

end Ladder

/-- A solver that gives one answer to every request. -/
def Backends.solver (solution : FlareSolverrResult) : Backends Unit :=
  { Backends.constant (.error (.fetch "connection refused"))
      (.error (.fetch "connection refused")) with
    flaresolverr := fun _ _ _ env ↦ (.ok solution, env) }

/-- A ladder that may ask the solver for one host. -/
def solverLadder : FetchLadder :=
  (FetchLadder.new ⟨0, true⟩ none (some ⟨"http://127.0.0.1:8191/v1"⟩)).withFlaresolverrAllowlist
    (.fromHosts ["example.com"])

/-- A solved page of status 200 without cookies. -/
def solvedWith (html : Str) : FlareSolverrResult := ⟨html, 200, [], "https://example.com/", none⟩

/-- The host of the URL that the ladder may ask the solver for. -/
theorem hostStr_example :
    (UrlCrate.plain.parse "https://example.com/").toOption.bind UrlCrate.plain.hostStr =
      some "example.com" := by
  decide

/-- The escalation for a solution that the solver answers with. -/
theorem tryFlaresolverr_solver {B : Backends Unit} {solution : FlareSolverrResult}
    {overrideKind : Option SituationKind}
    (hB : ∀ fs url ms env, B.flaresolverr fs url ms env = (.ok solution, env))
    (hvalid : validateFlaresolverrSolution solution.html = .ok overrideKind)
    (request : ScrapeRequest) (env : Env Unit) :
    solverLadder.tryFlaresolverr B .plain "https://example.com/" request false env =
      (.ok (some
        { fetch := solution.page request
          screenshot := none
          source := .flareSolverr
          situation :=
            { diagnoseFetch (solution.page request) with
              kind := overrideKind.getD (diagnoseFetch (solution.page request)).kind } }),
        env.modifyJar 0
          (injectFsCookies (B.now env.world) (toAsciiLowercase "example.com")
            solution.cookies)) := by
  have hallowed : solverLadder.fsAllowlist.isAllowed "example.com" = true := by decide
  exact FetchLadder.tryFlaresolverr_accepted hostStr_example hallowed rfl (hB ..) hvalid request
    false

/-- A page that says "your region". -/
def regionPage : Str := wordPage ([yourRegion].map Prod.fst) 200

/-- A page that says "your region" and has an hCaptcha frame. -/
def framedPage : Str := wordPage ([yourRegion, hcaptchaIframe].map Prod.fst) 200

private theorem validate_wordPage {samples : List (Str × SituationKind)}
    (h : samples ⊆ [yourRegion, hcaptchaIframe])
    (hresolved : isResolvedPage (wordPage (samples.map Prod.fst) 200) = false)
    (hscan : (providers.all.find? fun entry ↦ (samples.find? (·.2 = entry.kind)).any fun s ↦
      (none : Option Nat) ≠ some 200 || singleHitMinLen ≤ len s.1).any
        (·.kind.IsPassedOver) = true) :
    validateFlaresolverrSolution (wordPage (samples.map Prod.fst) 200) = .ok none := by
  have hlower : (samples.map Prod.fst).map toAsciiLowercase = samples.map Prod.fst := by
    have hword : ∀ s ∈ [yourRegion, hcaptchaIframe], toAsciiLowercase s.1 = s.1 := by
      decide
    rw [List.map_map]
    exact List.map_congr_left fun s hs ↦ hword s (h hs)
  have hsub : samples ⊆ soleTokens := List.Subset.trans h (by simp [soleTokens])
  refine validate_ok_iff.mpr (.inr ⟨hresolved, rfl, detectors_pass_of_scanned ?_⟩)
  rw [toAsciiLowercase_wordPage, hlower, scanned_wordPage hsub]
  exact hscan

/-- The validator accepts a page that says "your region". -/
theorem validate_regionPage : validateFlaresolverrSolution regionPage = .ok none :=
  validate_wordPage (by simp) (by decide +kernel) (by decide)

/-- A page that says "your region" is accepted. -/
theorem accepted_not_antiBot_region :
    ∃ r env', solverLadder.tryFlaresolverr (.solver (solvedWith regionPage)) .plain
        "https://example.com/" (.defaultForUrl "https://example.com/") false
        ⟨fun _ ↦ .new, ()⟩ = (.ok (some r), env') ∧
      (r.situation.isAntiBot = false ↔
        isResolvedPage (solvedWith regionPage).html = true ∨
        (solvedWith regionPage).statusCode ≠ 200 ∨
        (∃ entry ∈ providers.all,
          hasTwo (toAsciiLowercase (solvedWith regionPage).html) entry = true) ∨
        ∀ first, providers.all.find?
            (isStrong (some 200) (toAsciiLowercase (solvedWith regionPage).html)) = some first →
          first.kind.isAntiBot = false) := by
  have h := @tryFlaresolverr_solver (.solver (solvedWith regionPage)) _ _ (fun _ _ _ _ ↦ rfl)
    validate_regionPage (.defaultForUrl "https://example.com/") ⟨fun _ ↦ .new, ()⟩
  exact ⟨_, _, h, accepted_not_antiBot_iff rfl rfl h⟩

/-- A page that names a region and has an hCaptcha frame is accepted, and then blocked by its own
report. -/
theorem accepted_antiBot :
    ¬ ∀ (B : Backends Unit) (U : UrlCrate) (ladder : FetchLadder) (url : Str)
      (request : ScrapeRequest) (fromCdp : Bool) (env env' : Env Unit) (r : LadderResult),
      ladder.tryFlaresolverr B U url request fromCdp env = (.ok (some r), env') →
        r.situation.isAntiBot = false := by
  intro hall
  have hvalid : validateFlaresolverrSolution framedPage = .ok none :=
    validate_wordPage (by simp) (by decide +kernel) (by decide)
  have hrun := @tryFlaresolverr_solver (.solver (solvedWith framedPage)) _ _
    (fun _ _ _ _ ↦ rfl) hvalid (.defaultForUrl "https://example.com/") ⟨fun _ ↦ .new, ()⟩
  have hclean := hall _ _ _ _ _ _ _ _ _ hrun
  have hscan :
      (scanned (toAsciiLowercase framedPage) (some 200)).any (·.kind.isAntiBot) = true := by
    have hlower : ([yourRegion, hcaptchaIframe].map Prod.fst).map toAsciiLowercase =
        [yourRegion, hcaptchaIframe].map Prod.fst := by
      decide
    have hsub : [yourRegion, hcaptchaIframe] ⊆ soleTokens := by simp [soleTokens]
    rw [framedPage, toAsciiLowercase_wordPage, hlower, scanned_wordPage hsub]
    decide
  obtain ⟨entry, hentry, hkind⟩ := (Option.any_eq_true _ _).mp hscan
  have hblock : (diagnoseFetch ((solvedWith framedPage).page
      (.defaultForUrl "https://example.com/"))).isAntiBot = true :=
    (@isAntiBot_solution (solvedWith framedPage) _ entry rfl hentry).trans hkind
  have hkeep (report : SituationReport) :
      ({ report with kind := (none : Option SituationKind).getD report.kind } :
        SituationReport).isAntiBot = report.isAntiBot := rfl
  rw [hkeep, hblock] at hclean
  exact absurd hclean (by simp)

end CrwShield.Fetch
