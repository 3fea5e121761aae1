import CrwShield.Crawl.Runner
import CrwShield.Server.Verdicts

/-!
# The two page pipelines

A page fetched by the ladder is turned into page data twice over: by the crawl,
`src/crates/crawl/src/lib.rs:107–177`, and by the scrape endpoint,
`src/crates/server/src/handlers.rs:893–1057`. The texts and links agree. The endpoint refuses pages
that the crawl accepts, and lets the situation lower the score.
-/

open CrwShield.Base CrwShield.Base.Str CrwShield.Antibot CrwShield.Core CrwShield.Extract
open CrwShield.Fetch CrwShield.Crawl

namespace CrwShield.Server

section Pipelines

variable {U : UrlCrate} (X : HtmlCrate U) (base64Encode : List UInt8 → Str)

/-- The extraction functions as the endpoint calls them. -/
def extraction : Extraction where
  extractMainContentV4 html situation url :=
    let v4 := extractMainContentV4 X html situation url
    ⟨v4.result.markdown, v4.result.quality, v4.result.pageType.debugLower, v4.reason.debugLower⟩
  filterTags := X.filterTags
  extractMetadata := X.extractMetadata
  htmlToMarkdown := X.htmlToMarkdown
  extractLinks := Extract.extractLinks X
  base64Encode := base64Encode

/-- The crawl's answer for what the ladder returned; `ladder.rs:993–997`, `lib.rs:107–110`. -/
def crawlAnswer (result : LadderResult) (req : ScrapeRequest) : Except CrwError ScrapeData :=
  fetcherScrape X (ladderFetch (.ok result)) req

/-- The same texts, links and score. -/
structure SameContent (data data' : ScrapeData) : Prop where
  markdown : data.markdown = data'.markdown
  html : data.html = data'.html
  rawHtml : data.rawHtml = data'.rawHtml
  links : data.links = data'.links
  quality : data.metadata.extractionQuality = data'.metadata.extractionQuality

/-- Both refuse the page, or both accept it with the same content. -/
def PipelinesAgree : Except CrwError ScrapeData → Except ErrorResponse ScrapeResponse → Prop
  | .error _, .error _ => True
  | .ok data, .ok response => SameContent data response.data
  | _, _ => False

/-- The document that the endpoint makes markdown and HTML from is the crawl's. -/
theorem text_successResponse (req : ScrapeRequest) (result : LadderResult) :
    (successResponse (extraction X base64Encode) req result).data.markdown =
        (pageData X result.fetch req).markdown ∧
      (successResponse (extraction X base64Encode) req result).data.html =
        (pageData X result.fetch req).html := by
  unfold successResponse pageData htmlForExtraction mainContent
  cases req.onlyMainContent <;> exact ⟨rfl, rfl⟩

/-- The score that the endpoint answers with. -/
theorem quality_successResponse (req : ScrapeRequest) (result : LadderResult) :
    (successResponse (extraction X base64Encode) req result).data.metadata.extractionQuality =
      if req.onlyMainContent then
        some (extractMainContentV4 X result.fetch.html (some result.situation)
          result.fetch.finalUrl).result.quality
      else none := by
  show Option.map _ (if req.onlyMainContent then _ else none) = _
  cases req.onlyMainContent <;> rfl

/-- The score that the crawl gives. -/
theorem quality_pageData (fetch : FetchResult) (req : ScrapeRequest) :
    (pageData X fetch req).metadata.extractionQuality =
      if req.onlyMainContent then some (X.extractMainContentV2 fetch.html).quality else none := by
  show Option.map _ (mainContent X fetch req) = _
  unfold mainContent
  cases req.onlyMainContent <;> rfl

/-- For a page that both accept, the texts and links agree, and the score where it stands under the
situation. -/
theorem sameContent_iff (req : ScrapeRequest) (result : LadderResult) :
    SameContent (pageData X result.fetch req)
        (successResponse (extraction X base64Encode) req result).data ↔
      (req.onlyMainContent = true → ScoreStands result.situation.kind result.fetch.html
        (X.extractMainContentV2 result.fetch.html)) := by
  have hscore : (pageData X result.fetch req).metadata.extractionQuality =
        (successResponse (extraction X base64Encode) req result).data.metadata.extractionQuality ↔
      (req.onlyMainContent = true → ScoreStands result.situation.kind result.fetch.html
        (X.extractMainContentV2 result.fetch.html)) := by
    rw [quality_pageData, quality_successResponse, ← quality_extractMainContentV4_iff X
      result.fetch.html result.situation result.fetch.finalUrl]
    cases req.onlyMainContent with
    | false => simp
    | true => simp [eq_comm]
  constructor
  · intro h
    exact hscore.mp h.quality
  · intro hstands
    obtain ⟨hmarkdown, hhtml⟩ := text_successResponse X base64Encode req result
    exact ⟨hmarkdown.symm, hhtml.symm, rfl, rfl, hscore.mpr hstands⟩

universe u
variable {ω : Type u} (io : HitlIo ω)

/-- The queue accepts an entry: its line can be printed, and the queue file opened and written. -/
def Queueable (req : HitlRequest) (w : ω) : Prop :=
  let fresh := io.newId w
  let opened := io.openAppend (hitlQueuePath io.queuePathVar) fresh.2
  ∃ line, io.printJson (hitlEntry fresh.1 (io.nowRfc3339 fresh.2) req) = .ok line ∧
    opened.1 = .ok () ∧
    (io.writeAll (hitlQueuePath io.queuePathVar) (line ++ "\n") opened.2).1 = .ok ()

/-- When the endpoint takes a page as the crawl does: it is no block that the queue accepts, no
challenge is seen where the browser is disabled, and the score stands. -/
structure TakenAlike (cdpEnabled : Bool) (req : ScrapeRequest) (result : LadderResult) (w : ω) :
    Prop where
  notQueued : ∀ hitlReq, hitlRequest req.url result.situation = some hitlReq →
    ¬ Queueable io hitlReq w
  noChallenge : cdpEnabled = true ∨ detectChallenge result.fetch.html = none
  score : req.onlyMainContent = true → ScoreStands result.situation.kind result.fetch.html
    (X.extractMainContentV2 result.fetch.html)

/-- An entry that the queue accepts is enqueued. -/
theorem queueable_iff (req : HitlRequest) (w : ω) :
    Queueable io req w ↔ ∃ hitl, (handleHitlEnqueue io req w).1 = .ok hitl := by
  cases hprint : io.printJson (hitlEntry (io.newId w).1 (io.nowRfc3339 (io.newId w).2) req) with
  | error e => simp [Queueable, handleHitlEnqueue, hprint]
  | ok line =>
    rcases hopen : io.openAppend (hitlQueuePath io.queuePathVar) (io.newId w).2 with ⟨_ | ⟨⟩, w₁⟩
    · simp [Queueable, handleHitlEnqueue, hprint, hopen]
    · rcases hwrite : io.writeAll (hitlQueuePath io.queuePathVar) (line ++ "\n") w₁ with
        ⟨_ | ⟨⟩, w₂⟩
      · simp only [Queueable, handleHitlEnqueue, hprint, hopen, Except.ok.injEq, true_and,
          exists_eq_left', hwrite, reduceCtorEq, exists_false]
      · simp only [Queueable, handleHitlEnqueue, hprint, hopen, Except.ok.injEq, true_and,
          exists_eq_left', hwrite, exists_eq']

/-- The endpoint's answer for a page that is not handed to a human. -/
theorem pipelinesAgree_answerPage_iff (cdpEnabled : Bool) (req : ScrapeRequest)
    (result : LadderResult) :
    PipelinesAgree (.ok (pageData X result.fetch req))
        (answerPage (extraction X base64Encode) cdpEnabled req result) ↔
      (cdpEnabled = true ∨ detectChallenge result.fetch.html = none) ∧
      (req.onlyMainContent = true → ScoreStands result.situation.kind result.fetch.html
        (X.extractMainContentV2 result.fetch.html)) := by
  unfold answerPage
  cases cdpEnabled with
  | true => simpa [PipelinesAgree] using sameContent_iff X base64Encode req result
  | false =>
    cases detectChallenge result.fetch.html with
    | none => simpa [PipelinesAgree] using sameContent_iff X base64Encode req result
    | some challenge => simp [PipelinesAgree]

/-- Without a screenshot, the crawl and the endpoint agree on what the ladder returned exactly when
the endpoint takes the page as the crawl does. -/
theorem pipelines_agree_iff (cdpEnabled : Bool) (req : ScrapeRequest)
    (hshot : Format.screenshot ∉ req.formats) (result : LadderResult) (w : ω) :
    PipelinesAgree (crawlAnswer X result req)
        (answerResult io (extraction X base64Encode) cdpEnabled req result w).1 ↔
      TakenAlike X io cdpEnabled req result w := by
  have hcrawl : crawlAnswer X result req = .ok (pageData X result.fetch req) :=
    scrapeDataFromFetch_ok X hshot
  have htaken : TakenAlike X io cdpEnabled req result w ↔
      (∀ hitlReq, hitlRequest req.url result.situation = some hitlReq →
        ¬ Queueable io hitlReq w) ∧
      (cdpEnabled = true ∨ detectChallenge result.fetch.html = none) ∧
      (req.onlyMainContent = true → ScoreStands result.situation.kind result.fetch.html
        (X.extractMainContentV2 result.fetch.html)) :=
    ⟨fun h ↦ ⟨h.1, h.2, h.3⟩, fun h ↦ ⟨h.1, h.2.1, h.2.2⟩⟩
  rw [hcrawl, htaken, ← pipelinesAgree_answerPage_iff X base64Encode cdpEnabled req result]
  unfold answerResult
  cases hreq : hitlRequest req.url result.situation with
  | none => simp
  | some hitlReq =>
    rw [show (∀ r, some hitlReq = some r → ¬ Queueable io r w) ↔ ¬ Queueable io hitlReq w by simp,
      queueable_iff]
    rcases hout : handleHitlEnqueue io hitlReq w with ⟨_ | hitl, w'⟩
    · simp [hout]
    · simp [hout, PipelinesAgree]

end Pipelines

/-- The extraction of a short text without markup. -/
def textCrate : HtmlCrate .plain where
  extractMainContentV2 html := ⟨html, blockScore, .unknown, true⟩
  filterTags html _ _ := html
  extractMetadata _ url code := { sourceUrl := some url, url := some url, statusCode := some code }
  htmlToMarkdown := id
  hrefs _ := []
  join _ _ := none

/-- A short page that is no challenge. -/
def textResult : LadderResult where
  fetch :=
    { url := "https://example.com/"
      finalUrl := "https://example.com/"
      statusCode := 200
      html := "Hello"
      headers := [] }
  screenshot := none
  source := .http
  situation := .clean

/-- A request for `https://example.com/` with the defaults of the API. -/
def textRequest : ScrapeRequest := .defaultForUrl "https://example.com/"

private theorem noScreenshot_textRequest : Format.screenshot ∉ textRequest.formats := by
  simp [textRequest, ScrapeRequest.defaultForUrl]

theorem pipelines_agree_text :
    PipelinesAgree (crawlAnswer textCrate textResult textRequest)
      (answerResult (fixedHost (.error (.fetch [])) (.error (.fetch [])) (.ok ())).io
        (extraction textCrate fun _ ↦ []) true textRequest textResult ()).1 := by
  have hiff := pipelines_agree_iff textCrate (fun _ ↦ [])
    (fixedHost (.error (.fetch [])) (.error (.fetch [])) (.ok ())).io true textRequest
    noScreenshot_textRequest textResult ()
  have hclean : textResult.situation.kind = .cleanSuccess := rfl
  refine hiff.mpr ⟨?_, .inl rfl, fun _ ↦ .inr ?_⟩
  · intro hitlReq hreq
    simp [hitlRequest, SituationReport.isAntiBot, hclean, SituationKind.isAntiBot] at hreq
  · intro score hscore
    have hshort : len (trim textResult.fetch.html) < 200 := by decide
    rw [hclean, situationScore, if_pos hshort] at hscore
    exact Option.some.inj hscore

/-- The endpoint hands the interstitial to a human, the crawl answers with it. -/
theorem not_pipelines_agree_interstitial :
    ¬ ∀ (io : HitlIo Unit) (U : UrlCrate) (X : HtmlCrate U) (base64Encode : List UInt8 → Str)
      (cdpEnabled : Bool) (req : ScrapeRequest) (result : LadderResult),
      Format.screenshot ∉ req.formats →
      PipelinesAgree (crawlAnswer X result req)
        (answerResult io (extraction X base64Encode) cdpEnabled req result ()).1 := by
  intro hall
  have hblock : blockedResult.situation.isAntiBot = true := by decide
  have hagree := hall (fixedHost (.ok interstitial) (.ok solvedPage) (.ok ())).io .plain textCrate
    (fun _ ↦ []) true textRequest blockedResult noScreenshot_textRequest
  have hcrawl : crawlAnswer textCrate blockedResult textRequest =
      .ok (pageData textCrate blockedResult.fetch textRequest) :=
    scrapeDataFromFetch_ok textCrate noScreenshot_textRequest
  rw [hcrawl] at hagree
  simp [answerResult, hitlRequest, hblock, handleHitlEnqueue, fixedHost, PipelinesAgree] at hagree

end CrwShield.Server
