import CrwShield.Crawl.Runner
import CrwShield.Crawl.Safety

/-!
# Link discovery

What a crawl of a fixed site requests, with the runner of `src/crates/crawl/src/lib.rs:99–177` and a
fixed completion order. The links of a page are read off what the formats retain of it, so two
crawls agree where both read them from the same text against the same URL.
-/

open CrwShield.Base CrwShield.Base.Str CrwShield.Core CrwShield.Extract CrwShield.Fetch

namespace CrwShield.Crawl

/-- The options of a crawl's page requests; `lib.rs:201–204`. -/
def baseScrape (req : CrawlRequest) : ScrapeRequest :=
  req.scrapeOptions.getD (.defaultForUrl req.url)

/-- The request for one page; `lib.rs:219–220`. -/
def subRequest (req : CrawlRequest) (url : Str) : ScrapeRequest :=
  { baseScrape req with url := url }

/-- The request with its formats and the choice of the main content forgotten. -/
def withoutFormats (req : CrawlRequest) : CrawlRequest :=
  { req with
    scrapeOptions := some { baseScrape req with formats := [], onlyMainContent := false } }

/-- What every URL is answered with. -/
abbrev Site := Str → Except CrwError FetchResult

/-- Which task in flight completes next, by its position, from the tasks started and those in
flight. -/
abbrev CompletionOrder := List CrawlTask → List CrawlTask → ℕ

/-- The URLs of the tasks started. -/
def requestedUrls (s : CrawlState) : List Str := s.requested.map CrawlTask.url

/-- Raw HTML that was retained is where links are looked for. -/
theorem fetchHtmlForLinks_raw {data : ScrapeData} {html : Str} (hraw : data.rawHtml = some html)
    (hne : html ≠ []) : fetchHtmlForLinks data = html := by
  simp [fetchHtmlForLinks, hraw, Option.filter, hne]

/-- Without other raw HTML, the HTML that was retained is where links are looked for. -/
theorem fetchHtmlForLinks_html {data : ScrapeData} {html : Str}
    (hraw : data.rawHtml = none ∨ data.rawHtml = some html) (hhtml : data.html = some html)
    (hne : html ≠ []) : fetchHtmlForLinks data = html := by
  rcases hraw with hraw | hraw
  · simp [fetchHtmlForLinks, hraw, hhtml, Option.filter, hne]
  · exact fetchHtmlForLinks_raw hraw hne

/-- A page that lists no links has those of the text in which they are looked for. -/
theorem CrawlEnv.newLinks_of_text {E : CrawlEnv} {data : ScrapeData} {text url : Str}
    (hlinks : data.links = none) (htext : fetchHtmlForLinks data = text) (hne : text ≠ []) :
    E.newLinks data url = E.extractLinks text url := by
  simp [CrawlEnv.newLinks, hlinks, htext, hne]

section Sources

variable {U : UrlCrate} (X : HtmlCrate U) (regexMatch : Str → Str → Option Bool)
  {opts : ScrapeRequest} {url : Str} {page : FetchResult}

/-- Everything the engine uses from outside, with the extraction of links as the code has it. -/
def crawlEnv : CrawlEnv where
  U := U
  regexMatch := regexMatch
  extractLinks := extractLinks X

/-- A page of which the fetched HTML itself is read: its links are asked for, or its HTML is kept
whole and it is served from the URL requested. -/
def ReadsPage (opts : ScrapeRequest) (url : Str) (page : FetchResult) : Prop :=
  .links ∈ opts.formats ∨
  (page.finalUrl = url ∧ page.html ≠ [] ∧
    (.rawHtml ∈ opts.formats ∨
      (.html ∈ opts.formats ∧ opts.onlyMainContent = false ∧ opts.includeTags = [] ∧
        opts.excludeTags = [])))

/-- A page whose links are not asked for and whose raw HTML is kept. -/
def ReadsRaw (opts : ScrapeRequest) (page : FetchResult) : Prop :=
  .links ∉ opts.formats ∧ .rawHtml ∈ opts.formats ∧ page.html ≠ []

/-- A page whose links and raw HTML are not asked for and whose HTML is kept, as `text`. -/
def ReadsHtml (opts : ScrapeRequest) (page : FetchResult) (text : Str) : Prop :=
  .links ∉ opts.formats ∧ .rawHtml ∉ opts.formats ∧ .html ∈ opts.formats ∧
    htmlForExtraction X page opts = text ∧ text ≠ []

/-- Where links are asked for, those of a page are the ones of the fetched HTML, resolved against
the URL the page was served from. -/
theorem newLinks_of_links (h : .links ∈ opts.formats) :
    (crawlEnv X regexMatch).newLinks (pageData X page opts) url =
      extractLinks X page.html page.finalUrl := by
  have hwants : opts.formats.contains .links = true := List.contains_iff_mem.mpr h
  simp only [CrawlEnv.newLinks, pageData, hwants, if_true, Option.getD_some]

/-- Where they are not, and raw HTML is kept, they are looked for there. -/
theorem newLinks_of_raw (h : ReadsRaw opts page) :
    (crawlEnv X regexMatch).newLinks (pageData X page opts) url = extractLinks X page.html url := by
  obtain ⟨hlinks, hraw, hne⟩ := h
  have hno : (pageData X page opts).links = none := by
    simp only [pageData, List.contains_iff_mem, if_neg hlinks]
  have hkept : (pageData X page opts).rawHtml = some page.html := by
    simp only [pageData, List.contains_iff_mem, if_pos hraw]
  exact CrawlEnv.newLinks_of_text hno (fetchHtmlForLinks_raw hkept hne) hne

/-- Where neither is asked for, and HTML is kept, they are looked for there. -/
theorem newLinks_of_html {text : Str} (h : ReadsHtml X opts page text) :
    (crawlEnv X regexMatch).newLinks (pageData X page opts) url = extractLinks X text url := by
  obtain ⟨hlinks, hraw, hhtml, rfl, hne⟩ := h
  have hno : (pageData X page opts).links = none := by
    simp only [pageData, List.contains_iff_mem, if_neg hlinks]
  have hnoRaw : (pageData X page opts).rawHtml = none := by
    simp only [pageData, List.contains_iff_mem, if_neg hraw]
  have hkept : (pageData X page opts).html = some (htmlForExtraction X page opts) := by
    simp only [pageData, List.contains_iff_mem, if_pos hhtml]
  exact CrawlEnv.newLinks_of_text hno (fetchHtmlForLinks_html (.inl hnoRaw) hkept hne) hne

/-- A page that is read has the links of the fetched HTML, resolved against the URL it was served
from. -/
theorem newLinks_of_readsPage (h : ReadsPage opts url page) :
    (crawlEnv X regexMatch).newLinks (pageData X page opts) url =
      extractLinks X page.html page.finalUrl := by
  by_cases hlinks : .links ∈ opts.formats
  · exact newLinks_of_links X regexMatch hlinks
  · obtain ⟨hfinal, hne, hkept⟩ := h.resolve_left hlinks
    rw [hfinal]
    by_cases hraw : .rawHtml ∈ opts.formats
    · exact newLinks_of_raw X regexMatch ⟨hlinks, hraw, hne⟩
    · obtain ⟨hhtml, hmain, hinclude, hexclude⟩ := hkept.resolve_left hraw
      have hwhole : htmlForExtraction X page opts = page.html := by
        simp [htmlForExtraction, mainContent, hmain, hinclude, hexclude]
      exact newLinks_of_html X regexMatch ⟨hlinks, hraw, hhtml, hwhole, hne⟩

/-- Both requests read the same text of a page against the same URL. -/
def SameSource (opts opts' : ScrapeRequest) (url : Str) (page : FetchResult) : Prop :=
  (ReadsPage opts url page ∧ ReadsPage opts' url page) ∨
  (ReadsRaw opts page ∧ ReadsRaw opts' page) ∨
  ∃ text, ReadsHtml X opts page text ∧ ReadsHtml X opts' page text

/-- Pages read from the same source have the same links. -/
theorem newLinks_of_sameSource {opts' : ScrapeRequest} (h : SameSource X opts opts' url page) :
    (crawlEnv X regexMatch).newLinks (pageData X page opts) url =
      (crawlEnv X regexMatch).newLinks (pageData X page opts') url := by
  rcases h with ⟨hread, hread'⟩ | ⟨hraw, hraw'⟩ | ⟨text, hhtml, hhtml'⟩
  · rw [newLinks_of_readsPage X regexMatch hread, newLinks_of_readsPage X regexMatch hread']
  · rw [newLinks_of_raw X regexMatch hraw, newLinks_of_raw X regexMatch hraw']
  · rw [newLinks_of_html X regexMatch hhtml, newLinks_of_html X regexMatch hhtml']

end Sources

section Lockstep

variable {U : UrlCrate} (X : HtmlCrate U) (regexMatch : Str → Str → Option Bool) (site : Site)
  (order : CompletionOrder) (req req' : CrawlRequest) (seed : U.Url)

/-- The runner's answer for a URL. -/
def siteAnswer (url : Str) : Except CrwError ScrapeData :=
  fetcherScrape X (site url) (subRequest req url)

/-- A step of a crawl of the site under the completion order. -/
def SiteStep (s : CrawlState) (e : CrawlEvent) (t : CrawlState) : Prop :=
  CrawlStep (crawlEnv X regexMatch) req seed s e t ∧
    match e with
    | .complete task result =>
      result = siteAnswer X site req task.url ∧
        s.inFlight[order s.requested s.inFlight]? = some task ∧
        t.inFlight = s.inFlight.eraseIdx (order s.requested s.inFlight)
    | _ => True

/-- The one step that the site and the completion order leave. -/
def siteNext (s : CrawlState) : Option CrawlState :=
  if s.returned then none
  else if s.inFlight.isEmpty then
    if s.queue.isEmpty then some { s with returned := true } else some (startBatch req s)
  else
    let i := order s.requested s.inFlight
    s.inFlight[i]?.bind fun task ↦
      complete (crawlEnv X regexMatch) req seed task (siteAnswer X site req task.url)
        { s with inFlight := s.inFlight.eraseIdx i }

/-- The state with the data of its pages forgotten. -/
def withoutPages (s : CrawlState) : CrawlState :=
  { s with collected := s.collected.map fun _ ↦ {} }

/-- A completed task leaves the other tasks in flight. -/
theorem inFlight_complete {E : CrawlEnv} {req : CrawlRequest} {seed : E.U.Url} {task : CrawlTask}
    {result : Except CrwError ScrapeData} {s t : CrawlState}
    (h : complete E req seed task result s = some t) : t.inFlight = s.inFlight := by
  rcases @complete_spec E req seed task result s with
    ⟨e, -, hc⟩ | ⟨data, new, acc', -, -, -, hc⟩
  · obtain rfl := Option.some.inj (hc.symm.trans h)
    rfl
  · obtain rfl := Option.some.inj (hc.symm.trans h)
    rfl

variable {X regexMatch site order req seed} in
/-- Every step of the crawl is the one that is left. -/
theorem SiteStep.next {s t : CrawlState} {e : CrawlEvent}
    (h : SiteStep X regexMatch site order req seed s e t) :
    siteNext X regexMatch site order req seed s = some t := by
  obtain ⟨hstep, hevent⟩ := h
  cases hstep with
  | batch hrun hidle hwork =>
    simp [siteNext, hrun, hidle, hwork]
  | finish hrun hidle hwork =>
    simp [siteNext, hrun, hidle, hwork]
  | @complete _ before after task result hrun hflight hdone =>
    obtain ⟨rfl, htask, hrest⟩ := hevent
    have hrest' : before ++ after = s.inFlight.eraseIdx (order s.requested s.inFlight) :=
      (inFlight_complete hdone).symm.trans hrest
    have hbusy : s.inFlight.isEmpty = false := by simp [hflight]
    unfold siteNext
    rw [if_neg (by simp [hrun]), if_neg (by simp [hbusy])]
    simp only [htask, Option.bind_some, ← hrest']
    exact hdone

variable {req req'} in
/-- Requests that agree but for the formats differ in the options of the page requests only. -/
theorem eq_of_withoutFormats (h : withoutFormats req = withoutFormats req') :
    req' = { req with scrapeOptions := req'.scrapeOptions } := by
  cases req with
  | mk =>
    cases req' with
    | mk =>
      simp only [withoutFormats, CrawlRequest.mk.injEq] at h
      simp [h]

/-- States that agree but for the data of the pages differ in the pages only. -/
theorem eq_of_withoutPages {s s' : CrawlState} (h : withoutPages s = withoutPages s') :
    ∃ pages, s' = { s with collected := pages } := by
  cases s
  cases s'
  simp only [withoutPages, CrawlState.mk.injEq] at h
  simp [h]

variable {req} in
/-- States and pages that agree but for the data of the pages are followed alike. -/
theorem complete_congr {E : CrawlEnv} {seed : E.U.Url} {options : Option ScrapeRequest}
    {task : CrawlTask} {result result' : Except CrwError ScrapeData} {s s' : CrawlState}
    (hs : withoutPages s = withoutPages s')
    (hlinks : (result.map fun data ↦ E.newLinks data task.url).toOption =
      (result'.map fun data ↦ E.newLinks data task.url).toOption) :
    (complete E req seed task result s).map withoutPages =
      (complete E { req with scrapeOptions := options } seed task result' s').map withoutPages := by
  obtain ⟨pages, rfl⟩ := eq_of_withoutPages hs
  have hlen : s.collected.length = pages.length := by
    simpa [withoutPages] using congrArg (fun s : CrawlState ↦ s.collected.length) hs
  have hmap : s.collected.map (fun _ ↦ ({} : ScrapeData)) = pages.map fun _ ↦ {} :=
    congrArg CrawlState.collected hs
  cases result with
  | error e =>
    cases result' with
    | error e' => exact congrArg some hs
    | ok data' => exact absurd hlinks (by simp [Except.map, Except.toOption])
  | ok data =>
    cases result' with
    | error e' => exact absurd hlinks (by simp [Except.map, Except.toOption])
    | ok data' =>
      have hsame : E.newLinks data task.url = E.newLinks data' task.url :=
        Option.some.inj hlinks
      simp only [complete, Option.map_map, hsame]
      congr 1
      · funext found
        simp [withoutPages, hlen, hmap, pageLimit]

/-- Both crawls get the same links from every page of the site. -/
def SameLinks : Prop :=
  ∀ url, ((siteAnswer X site req url).map fun data ↦
      (crawlEnv X regexMatch).newLinks data url).toOption =
    ((siteAnswer X site req' url).map fun data ↦
      (crawlEnv X regexMatch).newLinks data url).toOption

variable {X regexMatch site req req'} in
/-- Where pages are read from the same source, both crawls get the same links. -/
theorem sameLinks_of_sameSource (hshot : .screenshot ∉ (baseScrape req).formats)
    (hshot' : .screenshot ∉ (baseScrape req').formats)
    (hsource : ∀ url page, site url = .ok page →
      SameSource X (baseScrape req) (baseScrape req') url page) :
    SameLinks X regexMatch site req req' := by
  intro url
  unfold siteAnswer fetcherScrape
  cases hsite : site url with
  | error e => rfl
  | ok page =>
    have hread : SameSource X (subRequest req url) (subRequest req' url) url page :=
      hsource url page hsite
    have hok : scrapeDataFromFetch X page (subRequest req url) =
        .ok (pageData X page (subRequest req url)) := scrapeDataFromFetch_ok X hshot
    have hok' : scrapeDataFromFetch X page (subRequest req' url) =
        .ok (pageData X page (subRequest req' url)) := scrapeDataFromFetch_ok X hshot'
    simp only [hok, hok']
    exact congrArg some (newLinks_of_sameSource X regexMatch hread)

variable {X regexMatch site order req req' seed}

/-- Crawls that get the same links step alike. -/
theorem siteNext_congr {options : Option ScrapeRequest}
    (hreq : req' = { req with scrapeOptions := options })
    (hlinks : SameLinks X regexMatch site req req') {s s' : CrawlState}
    (hs : withoutPages s = withoutPages s') :
    (siteNext X regexMatch site order req seed s).map withoutPages =
      (siteNext X regexMatch site order req' seed s').map withoutPages := by
  subst hreq
  obtain ⟨pages, rfl⟩ := eq_of_withoutPages hs
  have hmap : s.collected.map (fun _ ↦ ({} : ScrapeData)) = pages.map fun _ ↦ {} :=
    congrArg CrawlState.collected hs
  by_cases hret : s.returned = true
  · simp [siteNext, hret]
  · by_cases hidle : s.inFlight.isEmpty = true
    · by_cases hqueue : s.queue.isEmpty = true
      · simp [siteNext, hret, hidle, hqueue, withoutPages, hmap]
      · simp [siteNext, hret, hidle, hqueue, withoutPages, hmap, startBatch, maxConcurrency]
    · simp only [siteNext, hret, hidle]
      cases s.inFlight[order s.requested s.inFlight]? with
      | none => rfl
      | some task =>
        refine complete_congr ?_ (hlinks task.url)
        simp [withoutPages, hmap]

/-- Crawls that get the same links, from states that agree but for the data of the pages, return
with states that agree so. -/
theorem withoutPages_of_runs {options : Option ScrapeRequest}
    (hreq : req' = { req with scrapeOptions := options })
    (hlinks : SameLinks X regexMatch site req req') {s s' t t' : CrawlState}
    {es es' : List CrawlEvent} (hrun : Run (SiteStep X regexMatch site order req seed) s es t)
    (hrun' : Run (SiteStep X regexMatch site order req' seed) s' es' t')
    (hs : withoutPages s = withoutPages s') (ht : t.returned = true) (ht' : t'.returned = true) :
    withoutPages t = withoutPages t' := by
  refine Run.lockstep (fun s s' ↦ withoutPages s = withoutPages s') (fun s ↦ s.returned = true)
    (fun s ↦ s.returned = true) ?_ ?_ ?_ ?_ hrun hrun' hs ht ht'
  · intro s s' e e' t t' hs hstep hstep'
    have hnext : (siteNext X regexMatch site order req seed s).map withoutPages =
        (siteNext X regexMatch site order req' seed s').map withoutPages :=
      siteNext_congr hreq hlinks hs
    rw [hstep.next, hstep'.next] at hnext
    exact Option.some.inj hnext
  · intro s s' hs
    have hret : (withoutPages s).returned = (withoutPages s').returned :=
      congrArg CrawlState.returned hs
    exact iff_of_eq (congrArg (· = true) hret)
  · intro s e t hstep hret
    have hnext := hstep.next
    simp [siteNext, hret] at hnext
  · intro s e t hstep hret
    have hnext := hstep.next
    simp [siteNext, hret] at hnext

/-- Two crawls of a site that differ in the formats and the choice of the main content only, and
that read the links of every page from the same source, request the same URLs; and the links of a
page that is read are those of the fetched HTML, resolved against the URL it was served from. -/
theorem crwCrawl_discovery (hsame : withoutFormats req = withoutFormats req')
    (hshot : .screenshot ∉ (baseScrape req).formats)
    (hshot' : .screenshot ∉ (baseScrape req').formats)
    (hsource : ∀ url page, site url = .ok page →
      SameSource X (baseScrape req) (baseScrape req') url page)
    {s₀ s₀' s s' : CrawlState} {es es' : List CrawlEvent}
    (hstart : crwCrawl (crawlEnv X regexMatch) req = .ok (seed, s₀))
    (hstart' : crwCrawl (crawlEnv X regexMatch) req' = .ok (seed, s₀'))
    (hrun : Run (SiteStep X regexMatch site order req seed) s₀ es s)
    (hrun' : Run (SiteStep X regexMatch site order req' seed) s₀' es' s')
    (hret : s.returned = true) (hret' : s'.returned = true) :
    requestedUrls s = requestedUrls s' ∧
    ∀ url page data, site url = .ok page → ReadsPage (baseScrape req) url page →
      siteAnswer X site req url = .ok data →
      (crawlEnv X regexMatch).newLinks data url = extractLinks X page.html page.finalUrl := by
  constructor
  · obtain rfl := initialState_of_crwCrawl hstart
    obtain rfl := initialState_of_crwCrawl hstart'
    have hreq := eq_of_withoutFormats hsame
    have hpages := withoutPages_of_runs hreq (sameLinks_of_sameSource hshot hshot' hsource)
      hrun hrun' (by rw [hreq]; rfl) hret hret'
    have hurls : requestedUrls (withoutPages s) = requestedUrls (withoutPages s') :=
      congrArg requestedUrls hpages
    exact hurls
  · intro url page data hsite hread hanswer
    have hok : siteAnswer X site req url = .ok (pageData X page (subRequest req url)) := by
      unfold siteAnswer
      rw [hsite]
      exact scrapeDataFromFetch_ok X hshot
    obtain rfl := Except.ok.inj (hok.symm.trans hanswer)
    have hread' : ReadsPage (subRequest req url) url page := hread
    exact newLinks_of_readsPage X regexMatch hread'

/-- What the site and the completion order leave is a step of the crawl. -/
theorem exists_step_of_next {s t : CrawlState}
    (h : siteNext X regexMatch site order req seed s = some t) :
    ∃ e, SiteStep X regexMatch site order req seed s e t := by
  unfold siteNext at h
  split at h
  · exact absurd h (by simp)
  · next hret =>
    have hrun : s.returned = false := by simpa using hret
    split at h
    · next hempty =>
      have hidle : s.inFlight = [] := List.isEmpty_iff.mp hempty
      split at h
      · next hqueue =>
        obtain rfl := Option.some.inj h
        exact ⟨.finish, .finish hrun hidle (List.isEmpty_iff.mp hqueue), trivial⟩
      · next hqueue =>
        obtain rfl := Option.some.inj h
        exact ⟨.batch, .batch hrun hidle fun hq ↦ hqueue (List.isEmpty_iff.mpr hq), trivial⟩
    · obtain ⟨task, htask, hdone⟩ := Option.bind_eq_some_iff.mp h
      obtain ⟨hlt, hget⟩ := List.getElem?_eq_some_iff.mp htask
      have hflight : s.inFlight = s.inFlight.take (order s.requested s.inFlight) ++
          task :: s.inFlight.drop (order s.requested s.inFlight + 1) := by
        rw [← hget, List.getElem_cons_drop, List.take_append_drop]
      have hinFlight := inFlight_complete hdone
      rw [List.eraseIdx_eq_take_drop_succ] at hdone
      exact ⟨.complete task (siteAnswer X site req task.url), .complete hrun hflight hdone, rfl,
        htask, hinFlight⟩

/-- The steps that are left, one after the other, are a run of the crawl. -/
theorem exists_run_of_nexts {n : ℕ} {s t : CrawlState}
    (h : (List.replicate n ()).foldlM
      (fun s _ ↦ siteNext X regexMatch site order req seed s) s = some t) :
    ∃ es, Run (SiteStep X regexMatch site order req seed) s es t :=
  Run.exists_of_foldlM (fun _ _ _ hnext ↦ exists_step_of_next hnext) h

end Lockstep

/-- A page that links to another one, and the page linked to. -/
def homeHtml : Str := "<a href=\"https://example.com/b\">b</a>"

def leafHtml : Str := "<p>leaf</p>"

/-- The extraction of the two pages. -/
def linkCrate : HtmlCrate .plain where
  extractMainContentV2 html := ⟨html, blockScore, .unknown, true⟩
  filterTags html _ _ := html
  extractMetadata _ url code := { sourceUrl := some url, url := some url, statusCode := some code }
  htmlToMarkdown html := if html = homeHtml then "[b](https://example.com/b)" else "leaf"
  hrefs html := if html = homeHtml then ["https://example.com/b"] else []
  join _ href := (UrlCrate.plain.parse href).toOption

/-- The site of the two pages. -/
def linkSite : Site := fun url ↦
  .ok ⟨url, url, 200, if url = "https://example.com/" then homeHtml else leafHtml, []⟩

/-- A crawl of `https://example.com/` for some formats of the whole pages. -/
def formatsCrawl (formats : List Format) : CrawlRequest :=
  { exampleCrawl 10 none with
    scrapeOptions := some
      { ScrapeRequest.defaultForUrl "https://example.com/" with
        formats := formats
        onlyMainContent := false } }

/-- State in which the crawl is entered. -/
def formatsStart (formats : List Format) : CrawlState :=
  initialState (crawlEnv linkCrate fun _ _ ↦ some true) (formatsCrawl formats)
    ⟨"https://example.com/", isPlainUrl_example⟩

theorem crwCrawl_formats (formats : List Format) :
    crwCrawl (crawlEnv linkCrate fun _ _ ↦ some true) (formatsCrawl formats) =
      .ok (⟨"https://example.com/", isPlainUrl_example⟩, formatsStart formats) := by
  have hparse : UrlCrate.plain.parse (formatsCrawl formats).url =
      .ok ⟨"https://example.com/", isPlainUrl_example⟩ := UrlCrate.parse_plain _
  unfold crwCrawl
  rw [show (crawlEnv linkCrate fun _ _ ↦ some true).U.parse (formatsCrawl formats).url = _
    from hparse]
  rfl

/-- The crawl for some formats, one task after the other. -/
def formatsRun (formats : List Format) (n : ℕ) : Option CrawlState :=
  (List.replicate n ()).foldlM (fun s _ ↦ siteNext linkCrate (fun _ _ ↦ some true) linkSite
    (fun _ _ ↦ 0) (formatsCrawl formats) ⟨"https://example.com/", isPlainUrl_example⟩ s)
    (formatsStart formats)

private theorem exists_formatsRun (formats : List Format) (n : ℕ) (urls : List Str)
    (h : (formatsRun formats n).map (fun s ↦ (s.returned, requestedUrls s)) =
      some (true, urls)) :
    ∃ es s, Run (SiteStep linkCrate (fun _ _ ↦ some true) linkSite (fun _ _ ↦ 0)
        (formatsCrawl formats) ⟨"https://example.com/", isPlainUrl_example⟩)
        (formatsStart formats) es s ∧ s.returned = true ∧ requestedUrls s = urls := by
  obtain ⟨s, hs, heq⟩ := Option.map_eq_some_iff.mp h
  obtain ⟨hret, hurls⟩ := Prod.mk.inj heq
  obtain ⟨es, hrun⟩ := exists_run_of_nexts hs
  exact ⟨es, s, hrun, hret, hurls⟩

/-- Reading the links from the links format or from raw HTML, both pages are requested. -/
theorem crwCrawl_discovery_raw :
    ∃ s s', requestedUrls s = ["https://example.com/", "https://example.com/b"] ∧
      requestedUrls s = requestedUrls s' ∧
      ∃ es es', Run (SiteStep linkCrate (fun _ _ ↦ some true) linkSite (fun _ _ ↦ 0)
          (formatsCrawl [.links]) ⟨"https://example.com/", isPlainUrl_example⟩)
          (formatsStart [.links]) es s ∧
        Run (SiteStep linkCrate (fun _ _ ↦ some true) linkSite (fun _ _ ↦ 0)
          (formatsCrawl [.markdown, .rawHtml]) ⟨"https://example.com/", isPlainUrl_example⟩)
          (formatsStart [.markdown, .rawHtml]) es' s' := by
  obtain ⟨es, s, hrun, hret, hurls⟩ := exists_formatsRun [.links] 5
    ["https://example.com/", "https://example.com/b"] (by decide)
  obtain ⟨es', s', hrun', hret', -⟩ := exists_formatsRun [.markdown, .rawHtml] 5
    ["https://example.com/", "https://example.com/b"] (by decide)
  have hread : ∀ url page, linkSite url = .ok page → SameSource linkCrate
      (baseScrape (formatsCrawl [.links])) (baseScrape (formatsCrawl [.markdown, .rawHtml]))
      url page := by
    intro url page hpage
    obtain rfl := Except.ok.inj hpage
    refine .inl ⟨.inl (.head _), .inr ⟨rfl, ?_, .inl (.tail _ (.head _))⟩⟩
    show (if url = _ then homeHtml else leafHtml) ≠ []
    split
    · decide
    · decide
  have hformats : withoutFormats (formatsCrawl [.links]) =
      withoutFormats (formatsCrawl [.markdown, .rawHtml]) := rfl
  have hsame := crwCrawl_discovery hformats (by simp [formatsCrawl, baseScrape])
    (by simp [formatsCrawl, baseScrape]) hread (crwCrawl_formats [.links])
    (crwCrawl_formats [.markdown, .rawHtml]) hrun hrun' hret hret'
  exact ⟨s, s', hurls, hsame.1, es, es', hrun, hrun'⟩

/-- With the markdown format alone, the link of the first page is not found. -/
theorem not_crwCrawl_discovery_markdown :
    ¬ ∀ (U : UrlCrate) (X : HtmlCrate U) (regexMatch : Str → Str → Option Bool) (site : Site)
        (order : CompletionOrder) (req req' : CrawlRequest) (seed : U.Url)
        (s₀ s₀' s s' : CrawlState) (es es' : List CrawlEvent),
      withoutFormats req = withoutFormats req' →
      .screenshot ∉ (baseScrape req).formats → .screenshot ∉ (baseScrape req').formats →
      crwCrawl (crawlEnv X regexMatch) req = .ok (seed, s₀) →
      crwCrawl (crawlEnv X regexMatch) req' = .ok (seed, s₀') →
      Run (SiteStep X regexMatch site order req seed) s₀ es s →
      Run (SiteStep X regexMatch site order req' seed) s₀' es' s' →
      s.returned = true → s'.returned = true →
      ∀ url, url ∈ requestedUrls s ↔ url ∈ requestedUrls s' := by
  intro hall
  obtain ⟨es, s, hrun, hret, hurls⟩ := exists_formatsRun [.links] 5
    ["https://example.com/", "https://example.com/b"] (by decide)
  obtain ⟨es', s', hrun', hret', hurls'⟩ := exists_formatsRun [.markdown] 3
    ["https://example.com/"] (by decide)
  have hiff := hall _ linkCrate _ linkSite _ (formatsCrawl [.links]) (formatsCrawl [.markdown]) _
    _ _ s s' es es' rfl (by simp [formatsCrawl, baseScrape]) (by simp [formatsCrawl, baseScrape])
    (crwCrawl_formats [.links]) (crwCrawl_formats [.markdown]) hrun hrun' hret hret'
    "https://example.com/b"
  rw [hurls, hurls'] at hiff
  exact absurd (hiff.mp (by simp)) (by decide)

end CrwShield.Crawl
