import CrwShield.Server.Scrape

/-!
# Verdicts and refusals

What the ladder says about the page it returns, `ladder.rs:578–747`, and what the server does with
it, `handlers.rs:887–1056`. The verdict is right except for a browser page kept after the HTTP step,
which carries the verdict of the page that was discarded. A blocked page is refused except when it
cannot be enqueued and the browser is enabled.
-/

open CrwShield.Base CrwShield.Base.Str CrwShield.Antibot CrwShield.Core CrwShield.Fetch
open CrwShield.Fetch.FetchLadder (keptResult)

namespace CrwShield.Server

/-- The verdict the ladder documents for the page it returns: the diagnosis of that page, with the
validator's kind on a FlareSolverr page, and a report of its own for an empty browser page. -/
def documentedVerdict (r : LadderResult) : SituationReport :=
  match r.source with
  | .flareSolverr | .cdpThenFlareSolverr =>
    match validateFlaresolverrSolution r.fetch.html with
    | .ok (some kind) => { diagnoseFetch r.fetch with kind := kind }
    | _ => diagnoseFetch r.fetch
  | .cdp =>
    if cdpEmpty r.fetch.html r.screenshot then emptyCdpReport r.fetch.statusCode
    else diagnoseFetch r.fetch
  | _ => diagnoseFetch r.fetch

/-- The result carries the verdict of its own page, and the server hands it to a human exactly when
that verdict is a block. -/
def DescribesPage (url : Str) (r : LadderResult) : Prop :=
  r.situation = documentedVerdict r ∧
    ((hitlRequest url r.situation).isSome = true ↔ (documentedVerdict r).isAntiBot = true)

section Verdict

universe u
variable {ω : Type u} (B : Backends ω) (U : UrlCrate) (ladder : FetchLadder)

/-- A browser page is kept after an HTTP step that failed, or whose page was diagnosed
differently. -/
def StaleVerdict (request : ScrapeRequest) (env : Env ω) : Prop :=
  ∃ httpOut res, ladder.KeptCdp B U request env httpOut res ∧
    ∀ page, httpOut = .ok page → diagnoseFetch page ≠ diagnoseFetch res.page

/-- The server hands a page to a human exactly when its report is a block. -/
theorem isSome_hitlRequest (url : Str) (situation : SituationReport) :
    (hitlRequest url situation).isSome = situation.isAntiBot := by
  unfold hitlRequest
  split
  · next h => rw [h]; rfl
  · next h => simpa using h

private theorem describesPage_of_eq {url : Str} {r : LadderResult}
    (h : r.situation = documentedVerdict r) : DescribesPage url r :=
  ⟨h, by rw [isSome_hitlRequest, h]⟩

private theorem documentedVerdict_flaresolverr {r : LadderResult} {fromCdp : Bool}
    {kind : Option SituationKind} (hvalid : validateFlaresolverrSolution r.fetch.html = .ok kind)
    (hsource : r.source = if fromCdp then .cdpThenFlareSolverr else .flareSolverr) :
    documentedVerdict r =
      { diagnoseFetch r.fetch with kind := kind.getD (diagnoseFetch r.fetch).kind } := by
  cases fromCdp <;> cases kind <;> simp [documentedVerdict, hsource, hvalid]

private theorem statusCode_documentedVerdict (r : LadderResult) :
    (documentedVerdict r).statusCode = some r.fetch.statusCode := by
  unfold documentedVerdict
  split
  · split <;> simp only [diagnoseFetch, statusCode_diagnose]
  · split <;> simp only [diagnoseFetch, statusCode_diagnose]
  · split
    · rfl
    · simp only [diagnoseFetch, statusCode_diagnose]
  · simp only [diagnoseFetch, statusCode_diagnose]

/-- A kept browser page carries its own verdict only if the HTTP page had the same one. -/
private theorem situation_keptResult {httpOut : Except CrwError FetchResult}
    {res : CdpFetchResult} :
    (keptResult httpOut res).situation = documentedVerdict (keptResult httpOut res) ↔
      ∃ page, httpOut = .ok page ∧ diagnoseFetch page = diagnoseFetch res.page := by
  cases httpOut with
  | ok page =>
    simp only [keptResult, CdpFetchResult.ladderResult, documentedVerdict, Except.ok.injEq,
      exists_eq_left']
  | error e =>
    simp only [reduceCtorEq, false_and, exists_false, iff_false]
    -- the default report names no status code, every verdict does
    intro h
    have hcode := congrArg SituationReport.statusCode h
    rw [statusCode_documentedVerdict] at hcode
    exact Option.some_ne_none _ hcode.symm

/-- Whatever the backends answer, the ladder's verdict describes the page it returns unless a
browser page is kept after an HTTP step that failed or whose page was diagnosed differently. -/
theorem describesPage_iff (request : ScrapeRequest) (env : Env ω) :
    (∀ r env', ladder.fetch B U request env = (.ok r, env') → DescribesPage request.url r) ↔
      ¬ StaleVerdict B U ladder request env := by
  constructor
  · rintro hall ⟨httpOut, res, hkept, hdiff⟩
    obtain ⟨env', hfetch⟩ := FetchLadder.fetch_of_keptCdp hkept
    have hdesc := hall (keptResult httpOut res) env' hfetch
    obtain ⟨page, hpage, heq⟩ := situation_keptResult.mp hdesc.1
    exact hdiff page hpage heq
  · intro hfresh r env' hfetch
    rcases FetchLadder.fetch_cases hfetch with
      ⟨page, env₁, -, -, rfl⟩ | ⟨fromCdp, env₁, hfs⟩ | ⟨httpOut, res, hkept, rfl⟩ |
        ⟨res, env₁, -, -, rfl⟩
    · exact describesPage_of_eq rfl
    · obtain ⟨kind, hvalid, hsituation, hsource, -⟩ := FetchLadder.tryFlaresolverr_some hfs
      exact describesPage_of_eq
        (by rw [hsituation, documentedVerdict_flaresolverr hvalid hsource])
    · refine describesPage_of_eq (situation_keptResult.mpr ?_)
      by_contra hno
      exact hfresh ⟨httpOut, res, hkept, fun page hp heq ↦ hno ⟨page, hp, heq⟩⟩
    · exact describesPage_of_eq rfl

end Verdict

/-- A Cloudflare interstitial, as the HTTP fetcher returns it. -/
def interstitial : FetchResult where
  url := "https://example.com/"
  finalUrl := "https://example.com/"
  statusCode := 403
  html := "Just a moment..."
  headers := [("cf-ray", "8f2a")]

/-- The page a browser renders once the challenge is solved. -/
def solvedPage : CdpFetchResult where
  url := "https://example.com/"
  finalUrl := "https://example.com/"
  statusCode := 200
  html := "<html><body>The page the caller asked for.</body></html>"
  headers := []
  screenshot := none

/-- A ladder with a browser and without FlareSolverr. -/
def browserLadder : FetchLadder := .new ⟨0, true⟩ (some ⟨0⟩) none

/-- The solved page of the browser is returned with the verdict of the interstitial. -/
theorem not_describesPage_interstitial :
    ¬ ∀ (B : Backends Unit) (U : UrlCrate) (ladder : FetchLadder) (request : ScrapeRequest)
      (env : Env Unit) (r : LadderResult) (env' : Env Unit),
      ladder.fetch B U request env = (.ok r, env') → DescribesPage request.url r := by
  intro hall
  have hkept : browserLadder.KeptCdp (.constant (.ok interstitial) (.ok solvedPage)) .plain
      (.defaultForUrl "https://example.com/") ⟨fun _ ↦ .new, ()⟩ (.ok interstitial) solvedPage := by
    have hplain : needsCdp (.defaultForUrl "https://example.com/") = false := by decide
    have hescalate : httpShouldEscalate interstitial = true := by decide
    refine ⟨hplain, rfl, ?_, _, _, rfl, rfl, .inr (FetchLadder.tryFlaresolverr_noClient rfl)⟩
    rintro page hp
    obtain rfl := Except.ok.inj hp
    exact hescalate
  obtain ⟨env', hfetch⟩ := FetchLadder.fetch_of_keptCdp hkept
  have hdesc := hall _ _ _ _ _ _ env' hfetch
  obtain ⟨page, hp, heq⟩ := situation_keptResult.mp hdesc.1
  obtain rfl := Except.ok.inj hp
  have hcode := congrArg SituationReport.statusCode heq
  simp only [diagnoseFetch, statusCode_diagnose] at hcode
  exact absurd hcode (by decide)

section Refusal

universe u
variable {ω : Type u} (H : Host ω)

/-- Reports of a page that must not be answered: a block, or the browser's empty page. -/
def MustRefuse (situation : SituationReport) : Prop :=
  situation.isAntiBot = true ∨ ∃ statusCode, situation = emptyCdpReport statusCode

/-- The page is a block and its enqueue succeeds. -/
def Enqueued (url : Str) (situation : SituationReport) (w : ω) : Prop :=
  ∃ hitlReq hitl, hitlRequest url situation = some hitlReq ∧
    (handleHitlEnqueue H.io hitlReq w).1 = .ok hitl

/-- A page that must be refused is refused exactly when it is a block that is enqueued, or when the
browser is disabled and the second detector also sees a challenge. -/
theorem respond_refuses_iff (cdpEnabled : Bool) (req : ScrapeRequest) (result : LadderResult)
    (st : RotationState ω) :
    (MustRefuse result.situation →
      ∃ e, (respond H cdpEnabled req (.ok result, st)).1 = .ok (.error e)) ↔
    (MustRefuse result.situation →
      Enqueued H req.url result.situation st.env.world ∨
      (cdpEnabled = false ∧ (detectChallenge result.fetch.html).isSome = true)) := by
  have hpage : (∃ e, answerPage H.extraction cdpEnabled req result = .error e) ↔
      (cdpEnabled = false ∧ (detectChallenge result.fetch.html).isSome = true) := by
    unfold answerPage
    cases cdpEnabled <;> cases detectChallenge result.fetch.html <;> simp
  refine imp_congr_right fun _ ↦ ?_
  simp only [respond, Except.ok.injEq, answerResult, Enqueued]
  cases hreq : hitlRequest req.url result.situation with
  | none =>
    simp only [reduceCtorEq, false_and, exists_false, false_or]
    exact hpage
  | some hitlReq =>
    simp only [Option.some.injEq, ↓existsAndEq, true_and]
    rcases hout : handleHitlEnqueue H.io hitlReq st.env.world with ⟨_ | hitl, w'⟩
    · simpa using hpage
    · simp

end Refusal

/-- A server whose HTTP and browser fetches give fixed answers and whose disk is full or not. -/
def fixedHost (http : Except CrwError FetchResult) (cdp : Except CrwError CdpFetchResult)
    (disk : Except Str Unit) : Host Unit where
  toBackends := .constant http cdp
  sleep _ w := w
  startChild w := (.ready, w)
  nowUnixMs _ := 0
  io :=
    { queuePathVar := none
      now := fun _ ↦ some 0
      nowRfc3339 := fun _ ↦ "1970-01-01T00:00:00+00:00"
      newId := fun w ↦ ("0b9c6a52", w)
      parseJson := fun _ ↦ .error "expected value at line 1 column 1"
      printJson := fun _ ↦ .ok []
      openAppend := fun _ w ↦ (disk, w)
      writeAll := fun _ _ w ↦ (disk, w)
      readToString := fun _ _ ↦ .ok []
      write := fun _ _ w ↦ (disk, w)
      rename := fun _ _ w ↦ (disk, w)
      saveJar := fun _ _ w ↦ (disk, w) }
  extraction :=
    { extractMainContentV4 := fun html _ _ ↦ ⟨html, 0, "unknown", "fallback"⟩
      filterTags := fun html _ _ ↦ html
      extractMetadata := fun _ _ code ↦ { statusCode := some code }
      htmlToMarkdown := id
      extractLinks := fun _ _ ↦ []
      base64Encode := fun _ ↦ [] }
  rateLimit w := w

/-- A block page as the ladder returns it. -/
def blockedResult : LadderResult := ⟨interstitial, none, .http, diagnoseFetch interstitial⟩

/-- On a full disk the interstitial is answered with success. -/
theorem not_refused_diskFull :
    ¬ ∀ (H : Host Unit) (cdpEnabled : Bool) (req : ScrapeRequest) (result : LadderResult)
      (st : RotationState Unit), MustRefuse result.situation →
      ∃ e, (respond H cdpEnabled req (.ok result, st)).1 = .ok (.error e) := by
  intro hall
  have hblock : blockedResult.situation.isAntiBot = true := by decide
  obtain ⟨e, he⟩ := hall
    (fixedHost (.ok interstitial) (.ok solvedPage) (.error "No space left on device"))
    true (.defaultForUrl "https://example.com/") blockedResult
    ⟨⟨∅, none, []⟩, ⟨fun _ ↦ .new, ()⟩⟩ (.inl hblock)
  simp [respond, answerResult, hitlRequest, hblock, handleHitlEnqueue, fixedHost, answerPage] at he

end CrwShield.Server
