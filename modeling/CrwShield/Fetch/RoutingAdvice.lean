import CrwShield.Fetch.Solutions

/-!
# The kind and the advice of a report

Crate `antibot`, `src/crates/antibot/src/situation.rs:156–189,323–483`, and crate `fetch`,
`src/crates/fetch/src/ladder.rs:475–501,578–747`. A report says what a page is and what to do next;
both fields are read to route a request.
-/

open CrwShield.Base CrwShield.Base.Str CrwShield.Antibot CrwShield.Core

namespace CrwShield.Fetch

/-- The suggested step is the one that the kind stands for. -/
def IsConsistent (r : SituationReport) : Prop := r.suggestedLadder = r.kind.suggestedLadder

/-- The header and the status stage report nothing, and the scan names the row for FunCaptcha. -/
def NamesFuncaptcha (html : Str) (statusCode : Option Nat) (headers : Option (List (Str × Str))) :
    Prop :=
  headerStage (toAsciiLowercase html) statusCode headers = none ∧ statusStage statusCode = none ∧
    ∃ entry, scanned (toAsciiLowercase html) statusCode = some entry ∧ entry.kind = .funcaptcha

section Diagnosis

variable {html lower : Str} {statusCode : Option Nat} {headers : Option (List (Str × Str))}

private theorem row_consistent :
    ∀ entry ∈ providers.all,
      entry.suggestedLadder = entry.kind.suggestedLadder ↔ entry.kind ≠ .funcaptcha := by
  decide

private theorem headerStage_consistent {r : SituationReport}
    (h : headerStage lower statusCode headers = some r) : IsConsistent r := by
  change (headers.bind matchHeader).bind (headerOutcome lower statusCode) = some r at h
  obtain ⟨ev, hev, hout⟩ := Option.bind_eq_some_iff.mp h
  obtain ⟨hs, -, hmatch⟩ := Option.bind_eq_some_iff.mp hev
  obtain ⟨header, -, hhit⟩ := List.exists_of_findSome?_eq_some hmatch
  rw [headerOutcome_eq_some hout]
  unfold headerHit at hhit
  repeat' split at hhit
  all_goals
    cases hhit
    try rfl

private theorem statusStage_advice {r : SituationReport} (h : statusStage statusCode = some r) :
    IsConsistent r ∧ r.suggestedLadder = .retryWithDelay := by
  simp only [statusStage, Option.bind_eq_some_iff] at h
  obtain ⟨code, -, h⟩ := h
  split at h
  · rw [← Option.some.inj h]
    exact ⟨rfl, rfl⟩
  · split at h
    · rw [← Option.some.inj h]
      exact ⟨rfl, rfl⟩
    · exact absurd h (by simp)

private theorem sizeStage_consistent (html : Str) (statusCode : Option Nat) :
    IsConsistent ((sizeStage html statusCode).getD
      { SituationReport.clean with statusCode := statusCode }) := by
  unfold sizeStage
  split <;> rfl

/-- A token of the row for FunCaptcha is too short to be enough alone. -/
private theorem funcaptcha_short :
    ∀ entry ∈ providers.all, entry.kind = .funcaptcha → ∀ token ∈ entry.tokensLower,
      len token < 14 := by
  decide

/-- In a page that the detectors pass no scan names FunCaptcha. -/
private theorem kind_ne_funcaptcha {entry : ProviderEntry}
    (hpass : detectEmptyOrBlocked html = false ∧ detectChallenge html = none)
    (hscan : scanned (toAsciiLowercase html) statusCode = some entry) :
    entry.kind ≠ .funcaptcha := by
  intro hkind
  have hnot : ¬ entry.kind.IsPassedOver := by rw [hkind]; decide
  rw [detectors_pass_iff, scanned_of_ne (by simp)] at hpass
  by_cases hst : statusCode = some 200
  · subst hst
    rcases Option.or_eq_some_iff.mp hscan with htwo | ⟨htwo, hstrong⟩
    · rw [htwo] at hpass
      exact hnot hpass
    · have hentry := List.mem_of_find?_eq_some hstrong
      rcases isStrong_ok.mp (List.find?_some hstrong) with h2 | ⟨token, hocc, hlen⟩
      · exact List.find?_eq_none.mp htwo entry hentry h2
      · have htoken : token ∈ occurring (toAsciiLowercase html) entry :=
          hocc ▸ List.mem_cons_self
        have hshort := funcaptcha_short entry hentry hkind token (List.mem_of_mem_filter htoken)
        omega
  · rw [scanned_of_ne hst] at hscan
    rw [hscan] at hpass
    exact hnot hpass

/-- A diagnosis is consistent unless it names FunCaptcha. -/
theorem diagnose_consistent_iff (html : Str) (statusCode : Option Nat)
    (headers : Option (List (Str × Str))) :
    IsConsistent (diagnose html statusCode headers) ↔
      ¬ NamesFuncaptcha html statusCode headers := by
  unfold NamesFuncaptcha
  cases hheader : headerStage (toAsciiLowercase html) statusCode headers with
  | some r =>
    have hr := headerStage_consistent hheader
    rw [diagnose, hheader, Option.some_or, Option.getD_some]
    simp [hr]
  | none =>
    cases hstatus : statusStage statusCode with
    | some r =>
      have hr := (statusStage_advice hstatus).1
      rw [diagnose, hheader, hstatus, Option.none_or, Option.some_or, Option.getD_some]
      simp [hr]
    | none =>
      rw [diagnose_scan hheader hstatus]
      cases hscan : scanned (toAsciiLowercase html) statusCode with
      | some entry =>
        have hrow := row_consistent entry (scanned_some hscan).1
        simp only [true_and, Option.some.injEq, exists_eq_left']
        exact hrow
      | none => simpa using sizeStage_consistent html statusCode

end Diagnosis

/-- What a report of the ladder is made of. -/
inductive ReportOrigin where
  | httpPage (page : FetchResult)
  | solution (solution : FlareSolverrResult)
  | browser (res : CdpFetchResult)
  | failedHttp (e : CrwError)

namespace ReportOrigin

/-- The report made of it; `ladder.rs:475–501,600,662–687,715–744`. -/
def report (request : ScrapeRequest) : ReportOrigin → SituationReport
  | .httpPage page => diagnoseFetch page
  | .solution s =>
    let situation := diagnoseFetch (s.page request)
    if isResolvedPage s.html then { situation with kind := .cleanSuccess } else situation
  | .browser res =>
    if cdpEmpty res.html res.screenshot then emptyCdpReport res.statusCode
    else diagnoseFetch res.page
  | .failedHttp _ => .clean

/-- The page does not name FunCaptcha; a resolved page of the solver, whose kind is overridden,
must have nothing that makes a diagnosis suggest a step. -/
def Fits : ReportOrigin → Prop
  | .httpPage page => ¬ NamesFuncaptcha page.html (some page.statusCode)
      (if page.headers.isEmpty then none else some page.headers)
  | .solution s => isResolvedPage s.html = true →
      statusStage (some s.statusCode) = none ∧
      match scanned (toAsciiLowercase s.html) (some s.statusCode) with
      | some entry => entry.suggestedLadder = .none
      | none => detectEmptyOrBlockedHtml s.html = false
  | .browser res => cdpEmpty res.html res.screenshot = false →
      ¬ NamesFuncaptcha res.html (some res.statusCode)
        (if res.headers.isEmpty then none else some res.headers)
  | .failedHttp _ => True

universe u
variable {ω : Type u}

/-- The backends answered so in the call. -/
def Occurs (B : Backends ω) (ladder : FetchLadder) (request : ScrapeRequest) (env : Env ω) :
    ReportOrigin → Prop
  | .httpPage page =>
    needsCdp request = false ∧ ∃ env₁, B.http ladder.http request env = (.ok page, env₁)
  | .solution s => ∃ fs env₁ env₂, ladder.flaresolverr = some fs ∧
      B.flaresolverr fs request.url 60000 env₁ = (.ok s, env₂)
  | .browser res => needsCdp request = true ∧
      ∃ env₁, ladder.tryCdp B request env = (.ok res, env₁)
  | .failedHttp e => needsCdp request = false ∧
      ∃ env₁, B.http ladder.http request env = (.error e, env₁)

end ReportOrigin

section Ladder

universe u
variable {ω : Type u} {B : Backends ω} {U : UrlCrate} {ladder : FetchLadder}

theorem diagnoseFetch_consistent_iff (page : FetchResult) :
    IsConsistent (diagnoseFetch page) ↔ (ReportOrigin.httpPage page).Fits :=
  diagnose_consistent_iff _ _ _

/-- A report on a solution that the validator accepted. -/
private theorem solution_consistent_iff {solution : FlareSolverrResult}
    (request : ScrapeRequest) (hvalid : isResolvedPage solution.html = false →
      detectEmptyOrBlocked solution.html = false ∧ detectChallenge solution.html = none) :
    IsConsistent ((ReportOrigin.solution solution).report request) ↔
      (ReportOrigin.solution solution).Fits := by
  simp only [ReportOrigin.report, ReportOrigin.Fits]
  cases hresolved : isResolvedPage solution.html with
  | true =>
    simp only [if_true, forall_true_left]
    change (diagnoseFetch (solution.page request)).suggestedLadder = .none ↔ _
    rw [diagnose_solution]
    cases hstatus : statusStage (some solution.statusCode) with
    | some r => simp [(statusStage_advice hstatus).2]
    | none =>
      simp only [Option.getD_none, true_and]
      cases scanned (toAsciiLowercase solution.html) (some solution.statusCode) with
      | some entry => exact Iff.rfl
      | none =>
        by_cases hsize : detectEmptyOrBlockedHtml solution.html = true
        · simp [sizeStage, hsize, buildReport]
        · simp [sizeStage, hsize, SituationReport.clean]
  | false =>
    -- the validator has seen the page, and FunCaptcha is a block
    simp only [Bool.false_eq_true, if_false, false_implies, iff_true]
    rw [diagnoseFetch_consistent_iff]
    rintro ⟨-, -, entry, hscan, hkind⟩
    exact kind_ne_funcaptcha (hvalid hresolved) hscan hkind

/-- What every successful fetch returns: a report made of an answer of a backend, with a suggested
step that goes with its kind exactly when the answer fits. -/
theorem fetch_report_iff {request : ScrapeRequest} {env env' : Env ω} {r : LadderResult}
    (h : ladder.fetch B U request env = (.ok r, env')) :
    ∃ origin : ReportOrigin, origin.Occurs B ladder request env ∧
      r.situation = origin.report request ∧ (IsConsistent r.situation ↔ origin.Fits) := by
  rcases FetchLadder.fetch_cases h with
    ⟨page, env₁, hforce, hhttp, rfl⟩ | ⟨fromCdp, env₁, hfs⟩ | ⟨httpOut, res, hkept, rfl⟩ |
      ⟨res, env₁, hforce, hcdp, rfl⟩
  · exact ⟨.httpPage page, ⟨hforce, env₁, hhttp⟩, rfl, diagnoseFetch_consistent_iff page⟩
  · obtain ⟨-, fs, solution, env₂, overrideKind, -, -, hclient, hanswer, hvalid, rfl, -⟩ :=
      FetchLadder.tryFlaresolverr_inv hfs
    have hreport : ({ diagnoseFetch (solution.page request) with
        kind := overrideKind.getD (diagnoseFetch (solution.page request)).kind } :
          SituationReport) = (ReportOrigin.solution solution).report request := by
      rcases validate_ok_iff.mp hvalid with ⟨hresolved, rfl⟩ | ⟨hresolved, rfl, -⟩
      · simp only [ReportOrigin.report, hresolved, if_true]
        rfl
      · simp only [ReportOrigin.report, hresolved, Bool.false_eq_true, if_false]
        rfl
    refine ⟨.solution solution, ⟨fs, _, env₂, hclient, hanswer⟩, hreport, ?_⟩
    dsimp only
    rw [hreport]
    refine solution_consistent_iff request fun hno ↦ ?_
    rcases validate_ok_iff.mp hvalid with ⟨hresolved, -⟩ | ⟨-, -, hpass⟩
    · rw [hno] at hresolved
      exact absurd hresolved (by simp)
    · exact hpass
  · obtain ⟨hforce, -, -, env₁, env₂, hhttp, -, -⟩ := hkept
    cases httpOut with
    | ok page =>
      exact ⟨.httpPage page, ⟨hforce, env₁, hhttp⟩, rfl, diagnoseFetch_consistent_iff page⟩
    | error e =>
      exact ⟨.failedHttp e, ⟨hforce, env₁, hhttp⟩, rfl, iff_of_true rfl trivial⟩
  · refine ⟨.browser res, ⟨hforce, env₁, hcdp⟩, rfl, ?_⟩
    change IsConsistent (if _ then _ else _) ↔ (_ = false → _)
    cases cdpEmpty res.html res.screenshot with
    | true => exact iff_of_true rfl nofun
    | false =>
      simp only [Bool.false_eq_true, if_false, forall_true_left]
      exact diagnose_consistent_iff _ _ _

/-- A report of the detector, and of the ladder, suggests the step that goes with its kind: the
detector's except when it names FunCaptcha, the ladder's exactly when the answer it is made of
fits. -/
theorem reports_consistent_iff :
    (∀ (html : Str) (statusCode : Option Nat) (headers : Option (List (Str × Str))),
      IsConsistent (diagnose html statusCode headers) ↔
        ¬ NamesFuncaptcha html statusCode headers) ∧
    ∀ (B : Backends ω) (U : UrlCrate) (ladder : FetchLadder) (request : ScrapeRequest)
      (env env' : Env ω) (r : LadderResult), ladder.fetch B U request env = (.ok r, env') →
        ∃ origin : ReportOrigin, origin.Occurs B ladder request env ∧
          r.situation = origin.report request ∧ (IsConsistent r.situation ↔ origin.Fits) :=
  ⟨diagnose_consistent_iff, fun _ _ _ _ _ _ _ h ↦ fetch_report_iff h⟩

end Ladder

/-- A page without content. -/
def blankPage : FetchResult :=
  ⟨"https://example.com/", "https://example.com/", 204, [], []⟩

/-- An HTTP fetcher that gives a blank page. -/
def blankBackends : Backends Unit :=
  .constant (.ok blankPage) (.error (.fetch "connection refused"))

/-- The HTTP fetcher alone. -/
def httpLadder : FetchLadder := .new ⟨0, true⟩ none none

/-- A request for a page without the browser. -/
def plainRequest : ScrapeRequest := .defaultForUrl "https://example.com/"

/-- The HTTP fetcher alone, on a page without content. -/
theorem reports_consistent_blank :
    (IsConsistent (diagnose [] (some 204) none) ↔ ¬ NamesFuncaptcha [] (some 204) none) ∧
    ∃ r env', httpLadder.fetch blankBackends .plain plainRequest ⟨fun _ ↦ .new, ()⟩ =
        (.ok r, env') ∧
      ∃ origin : ReportOrigin,
        origin.Occurs blankBackends httpLadder plainRequest ⟨fun _ ↦ .new, ()⟩ ∧
        r.situation = origin.report plainRequest ∧ (IsConsistent r.situation ↔ origin.Fits) := by
  have hforce : needsCdp plainRequest = false := by decide
  have hfirst : (httpLadder.fetch blankBackends .plain plainRequest ⟨fun _ ↦ .new, ()⟩).1 = _ :=
    FetchLadder.fetch_http_alone hforce rfl rfl rfl
  generalize hrun : httpLadder.fetch blankBackends .plain plainRequest ⟨fun _ ↦ .new, ()⟩ = out
    at hfirst
  obtain ⟨answer, env'⟩ := out
  obtain rfl : answer = .ok _ := hfirst
  exact ⟨(reports_consistent_iff (ω := Unit)).1 _ _ _, _, env', rfl,
    reports_consistent_iff.2 _ _ _ _ _ _ _ hrun⟩

/-- A denied page with an Arkose Labs frame is reported as FunCaptcha with the browser as the next
step. -/
theorem arkose_inconsistent :
    ¬ ∀ (html : Str) (statusCode : Option Nat) (headers : Option (List (Str × Str))),
      IsConsistent (diagnose html statusCode headers) := by
  intro h
  have hsub : [arkose] ⊆ soleTokens := by simp [soleTokens]
  have hlower : ([arkose].map Prod.fst).map toAsciiLowercase = [arkose].map Prod.fst := by
    decide
  obtain ⟨page, hpage⟩ : ∃ page, page = wordPage ([arkose].map Prod.fst) 0 := ⟨_, rfl⟩
  have hscan : (scanned (toAsciiLowercase page) (some 403)).any (·.kind = .funcaptcha) = true := by
    rw [hpage, toAsciiLowercase_wordPage, hlower, scanned_wordPage hsub]
    decide
  obtain ⟨entry, hentry, hkind⟩ := (Option.any_eq_true _ _).mp hscan
  exact (diagnose_consistent_iff page (some 403) none).mp (h page (some 403) none)
    ⟨rfl, rfl, entry, hentry, of_decide_eq_true hkind⟩

end CrwShield.Fetch
