import CrwShield.Extract.Content
import CrwShield.Fetch.Ladder

/-!
# The crawl's page pipeline

Crate `crawl`, `src/crates/crawl/src/lib.rs:99–177`: a fetched page is turned into page data.
-/

open CrwShield.Base CrwShield.Base.Str CrwShield.Core CrwShield.Extract CrwShield.Fetch

namespace CrwShield.Crawl

variable {U : UrlCrate} (X : HtmlCrate U)

/-- Main content of a page, when it is asked for; `lib.rs:125–130`. -/
def mainContent (fetch : FetchResult) (req : ScrapeRequest) : Option ExtractionResult :=
  if req.onlyMainContent then some (X.extractMainContentV2 fetch.html) else none

/-- The document that markdown and HTML are made from; `lib.rs:121–134`. -/
def htmlForExtraction (fetch : FetchResult) (req : ScrapeRequest) : Str :=
  let main := ((mainContent X fetch req).map ExtractionResult.markdown).getD fetch.html
  if !req.includeTags.isEmpty || !req.excludeTags.isEmpty then
    X.filterTags main req.includeTags req.excludeTags
  else main

/-- What a page gives for the formats asked for; `lib.rs:136–176`. -/
def pageData (fetch : FetchResult) (req : ScrapeRequest) : ScrapeData :=
  let html := htmlForExtraction X fetch req
  let wants := fun f ↦ req.formats.contains f
  { markdown := if wants .markdown then some (X.htmlToMarkdown html) else none
    html := if wants .html then some html else none
    rawHtml := if wants .rawHtml then some fetch.html else none
    links := if wants .links then some (extractLinks X fetch.html fetch.finalUrl) else none
    screenshot := none
    metadata :=
      { X.extractMetadata fetch.html fetch.finalUrl fetch.statusCode with
        extractionQuality := (mainContent X fetch req).map ExtractionResult.quality
        pageType := (mainContent X fetch req).map fun result ↦ result.pageType.debugLower } }

/-- Page data for a fetched page, which cannot hold a screenshot; `lib.rs:117–177`. -/
def scrapeDataFromFetch (fetch : FetchResult) (req : ScrapeRequest) : Except CrwError ScrapeData :=
  if req.formats.contains .screenshot then
    .error (.notImplemented "screenshot is not available without CDP")
  else .ok (pageData X fetch req)

/-- `FetcherScrapeRunner::scrape`, after the fetch; `lib.rs:107–113`. -/
def fetcherScrape (fetched : Except CrwError FetchResult) (req : ScrapeRequest) :
    Except CrwError ScrapeData :=
  match fetched with
  | .error e => .error e
  | .ok fetch => scrapeDataFromFetch X fetch req

/-- `FetchLadder` as a `Fetcher`; `ladder.rs:993–997`. -/
def ladderFetch (fetched : Except CrwError LadderResult) : Except CrwError FetchResult :=
  fetched.map LadderResult.fetch

/-- Only a screenshot is refused. -/
theorem scrapeDataFromFetch_ok {fetch : FetchResult} {req : ScrapeRequest}
    (h : Format.screenshot ∉ req.formats) :
    scrapeDataFromFetch X fetch req = .ok (pageData X fetch req) :=
  if_neg fun hwants ↦ h (List.contains_iff_mem.mp hwants)

end CrwShield.Crawl
