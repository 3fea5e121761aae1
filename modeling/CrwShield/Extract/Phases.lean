import CrwShield.Extract.Content
import CrwShield.Extract.TailCut
import CrwShield.Extract.Unwanted
import Mathlib.Tactic.NormNum

/-!
# Extraction in phases

Crate `extract`, `src/crates/extract/src/content.rs:222–262` and `533–970`. Candidates are tried
from the strictest to the most permissive; a situation then replaces the score of a poor result.
Selection in a parsed page and the floating-point scores are parameters.
-/

open CrwShield.Base CrwShield.Base.Str CrwShield.Antibot

namespace CrwShield.Extract

/-- `content.rs:229–262`. -/
def contentSelectors : List Str :=
  ["#mw-content-text", ".mw-parser-output", "[data-testid=\"post-container\"]", ".Post",
    "shreddit-post", ".js-post-body", ".s-prose", ".main-page-content", "main", "article",
    "[role=\"main\"]", "[role=\"article\"]", "#content", "#main", "#main-content", "#article",
    "#article-body", "#story", "#story-body", ".content", ".main", ".main-content", ".article",
    ".article-body", ".article-content", ".post", ".post-content", ".entry-content",
    ".page-content", ".story", ".story-body", "[itemprop=\"articleBody\"]"].map String.toList

/-- The score 0.2. -/
def fairScore : ℚ := 13421773 / 2 ^ 26

theorem blockScore_le_poorScore : blockScore ≤ poorScore := by
  norm_num [blockScore, poorScore]

theorem poorScore_le_fairScore : poorScore ≤ fairScore := by
  norm_num [fairScore, poorScore]

theorem fairScore_le_goodScore : fairScore ≤ goodScore := by
  norm_num [fairScore, goodScore]

/-- Score that a candidate found by a selector needs; `content.rs:533`. -/
def qualityThreshold : ℚ := goodScore

/-- Score that the largest block needs; `content.rs:535`. -/
def qualityThresholdFallback : ℚ := fairScore

/-- `content.rs:537–540`. -/
def minTextLen : Nat := 200

/-- What the phases ask of a parsed page. -/
structure Scraper extends HtmlParser where
  Doc : Type
  Node : Type
  /-- `Html::parse_document`. -/
  parseDocument : Str → Doc
  /-- The elements of a page, in document order. -/
  elements : Doc → List Element
  /-- The first element that a selector selects. -/
  select : Doc → Str → Option Node
  /-- `ElementRef::inner_html`. -/
  innerHtml : Node → Str
  /-- `drilldown_block`, which compares `f64` densities. -/
  drilldownBlock : Doc → Node → Option Node
  /-- `largest_text_block`, which compares `f64` densities. -/
  largestTextBlock : Doc → Option Node
  /-- `score_quality`, from a candidate, the length of its text and the type of the page. -/
  scoreQuality : Str → Nat → PageType → ℚ

/-- Characters outside tags that are not white space; `content.rs:1023–1036`. -/
def visibleTextLen (html : Str) : Nat :=
  (html.foldl (fun (inTag, count) c ↦
    if c = '<' then (true, count)
    else if c = '>' then (false, count)
    else if !inTag && !isWhitespace c then (inTag, count + 1)
    else (inTag, count)) (false, 0)).2

/-- The class or the id of an element speaks of a shop; `content.rs:935–948`. -/
def Element.hasPriceMarker (el : Element) : Bool :=
  let combined := toLowercase ((el.attr "class").getD [] ++ ' ' :: (el.attr "id").getD [])
  contains "price" combined || contains "product" combined || contains "buy" combined ||
    contains "cart" combined

namespace Scraper

variable (S : Scraper)

/-- `content.rs:908–958`. -/
def classifyPageType (doc : S.Doc) : PageType :=
  let count (names : List Str) : Nat := (S.elements doc).countP (·.name ∈ names)
  let articleCount := count ["article"]
  let h1Count := count ["h1"]
  let tableCount := count ["table"]
  let preCount := count ["pre", "code"]
  let ulOlCount := count ["ul", "ol"]
  let liCount := count ["li"]
  if 5 ≤ preCount ∨ 3 ≤ tableCount then .doc
  else if 1 ≤ articleCount ∧ 10 ≤ liCount then .forum
  else if 20 ≤ liCount ∧ 3 ≤ ulOlCount then .listing
  else if (S.elements doc).any Element.hasPriceMarker then .product
  else if 1 ≤ articleCount ∨ 1 ≤ h1Count then .article
  else .unknown

/-- A candidate without its tail and its boilerplate. -/
def candidate (content : Str) : Str :=
  stripUnwanted S.toHtmlParser (stripWikipediaTail S.toHtmlParser content)

/-- The result of a candidate, unless its score or its text falls short; `content.rs:575–588`. -/
def accept (threshold : ℚ) (pageType : PageType) (content : Str) : Option ExtractionResult :=
  let candidate := S.candidate content
  let textLen := visibleTextLen candidate
  let quality := S.scoreQuality candidate textLen pageType
  if threshold ≤ quality ∧ minTextLen ≤ textLen then some ⟨candidate, quality, pageType, false⟩
  else none

/-- Phase 1: the first selector with a good candidate; `content.rs:566–591`. -/
def strictSelection (doc : S.Doc) (pageType : PageType) : Option ExtractionResult :=
  contentSelectors.findSome? fun selector ↦
    (S.select doc selector).bind fun el ↦
      S.accept qualityThreshold pageType (S.innerHtml ((S.drilldownBlock doc el).getD el))

/-- Phase 2: the largest block of text; `content.rs:593–608`. -/
def largestBlock (doc : S.Doc) (pageType : PageType) : Option ExtractionResult :=
  (S.largestTextBlock doc).bind fun block ↦
    S.accept qualityThresholdFallback pageType (S.innerHtml block)

/-- Phases 3 and 4: the body, or the page; `content.rs:610–633`. -/
def permissive (cleaned : Str) (doc : S.Doc) (pageType : PageType) : ExtractionResult :=
  match S.select doc "body" with
  | some body =>
    let candidate := S.candidate (S.innerHtml body)
    let quality := if minTextLen ≤ visibleTextLen candidate then fairScore else blockScore
    ⟨candidate, quality, pageType, true⟩
  | none => ⟨cleaned, 0, pageType, true⟩

/-- `content.rs:560–634`. -/
def extractMainContentV2 (html : Str) : ExtractionResult :=
  let cleaned := stripUnwanted S.toHtmlParser html
  let doc := S.parseDocument cleaned
  let pageType := S.classifyPageType doc
  ((S.strictSelection doc pageType).orElse fun _ ↦ S.largestBlock doc pageType).getD
    (S.permissive cleaned doc pageType)

section Scores

variable {S} {doc : S.Doc} {pageType : PageType} {r : ExtractionResult}

/-- What is accepted has the score asked for and enough text. -/
theorem accept_eq_some {threshold : ℚ} {content : Str}
    (h : S.accept threshold pageType content = some r) :
    threshold ≤ r.quality ∧ minTextLen ≤ visibleTextLen r.markdown ∧ r.usedFallback = false := by
  by_cases hok : threshold ≤ S.scoreQuality (S.candidate content)
      (visibleTextLen (S.candidate content)) pageType ∧
      minTextLen ≤ visibleTextLen (S.candidate content)
  · cases (if_pos hok).symm.trans h
    exact ⟨hok.1, hok.2, rfl⟩
  · cases (if_neg hok).symm.trans h

theorem strictSelection_eq_some (h : S.strictSelection doc pageType = some r) :
    fairScore ≤ r.quality ∧ minTextLen ≤ visibleTextLen r.markdown ∧ r.usedFallback = false := by
  obtain ⟨selector, -, hselector⟩ := List.exists_of_findSome?_eq_some h
  obtain ⟨el, -, haccept⟩ := Option.bind_eq_some_iff.mp hselector
  have haccepted := accept_eq_some haccept
  exact ⟨fairScore_le_goodScore.trans haccepted.1, haccepted.2⟩

theorem largestBlock_eq_some (h : S.largestBlock doc pageType = some r) :
    fairScore ≤ r.quality ∧ minTextLen ≤ visibleTextLen r.markdown ∧ r.usedFallback = false := by
  obtain ⟨block, -, haccept⟩ := Option.bind_eq_some_iff.mp h
  exact accept_eq_some haccept

/-- The permissive phases give 0.2 for enough text, and 0.05 or nothing otherwise. -/
theorem quality_permissive (cleaned : Str) :
    (S.permissive cleaned doc pageType).quality = fairScore ∨
      (S.permissive cleaned doc pageType).quality ≤ blockScore := by
  unfold permissive
  split
  · dsimp only
    split
    · exact .inl rfl
    · exact .inr le_rfl
  · right
    norm_num [blockScore]

theorem usedFallback_permissive (cleaned : Str) :
    (S.permissive cleaned doc pageType).usedFallback = true := by
  unfold permissive
  split <;> rfl

/-- An extraction scores at least 0.2, or is a poor result of the permissive phases. -/
theorem quality_extractMainContentV2 (html : Str) :
    fairScore ≤ (S.extractMainContentV2 html).quality ∨
      (S.extractMainContentV2 html).usedFallback = true ∧
        (S.extractMainContentV2 html).quality ≤ blockScore := by
  unfold extractMainContentV2
  dsimp only
  generalize stripUnwanted S.toHtmlParser html = cleaned
  generalize S.parseDocument cleaned = doc
  generalize S.classifyPageType doc = pageType
  cases hstrict : S.strictSelection doc pageType with
  | some r => exact .inl (strictSelection_eq_some hstrict).1
  | none =>
    cases hblock : S.largestBlock doc pageType with
    | some r => exact .inl (largestBlock_eq_some hblock).1
    | none =>
      show fairScore ≤ (S.permissive cleaned doc pageType).quality ∨
        (S.permissive cleaned doc pageType).usedFallback = true ∧ _
      rcases @quality_permissive S doc pageType cleaned with hfair | hpoor
      · exact .inl hfair.ge
      · exact .inr ⟨usedFallback_permissive cleaned, hpoor⟩

end Scores
end Scraper

section Situation

variable {U : UrlCrate}

/-- The crate with the phases for its extraction. -/
def HtmlCrate.scraping (X : HtmlCrate U) (S : Scraper) : HtmlCrate U :=
  { X with extractMainContentV2 := S.extractMainContentV2 }

/-- The situation changes no more than the score and the reason of an extraction; a good one keeps
its score, and what is labelled scores at most 0.1. -/
structure Labelled (situation : Option SituationReport) (b : ExtractionResult)
    (r : ExtractionResultWithReason) : Prop where
  unchanged : situation = none ∨ HighQuality b → r.result.quality = b.quality
  kept : r.result = { b with quality := r.result.quality }
  poor : r.reason ≠ .strict → r.result.quality ≤ poorScore

/-- And the score is never raised. -/
structure Lowered (situation : Option SituationReport) (b : ExtractionResult)
    (r : ExtractionResultWithReason) : Prop extends Labelled situation b r where
  lower : r.result.quality ≤ b.quality

/-- And the score is raised only from 0.05 or less, for a poor result of the permissive phases, to
the score that the situation calls for. -/
structure Rescored (html : Str) (situation : Option SituationReport) (b : ExtractionResult)
    (r : ExtractionResultWithReason) : Prop extends Labelled situation b r where
  lower : r.result.quality ≤ b.quality ∨
    b.usedFallback = true ∧ b.quality ≤ blockScore ∧ r.result.quality ≤ poorScore ∧
      ∃ rep, situation = some rep ∧ situationScore rep.kind html = some r.result.quality

/-- Every score that a situation calls for is poor. -/
theorem situationScore_le {kind : SituationKind} {html : Str} {score : ℚ}
    (h : situationScore kind html = some score) : score ≤ poorScore := by
  have hmem : score = poorScore ∨ score = blockScore := by
    unfold situationScore at h
    split at h
    all_goals (try split at h)
    all_goals simp_all
  rcases hmem with rfl | rfl
  · exact le_rfl
  · exact blockScore_le_poorScore

/-- A reason other than `strict` comes with a score. -/
theorem qualityOverride_of_reason {situation : Option SituationReport} {html : Str}
    {b : ExtractionResult} (h : (situationAwareDecision situation html b).reason ≠ .strict) :
    ∃ score, (situationAwareDecision situation html b).qualityOverride = some score := by
  unfold situationAwareDecision at h ⊢
  cases situation with
  | none => exact absurd rfl h
  | some rep =>
    dsimp only at h ⊢
    split_ifs at h ⊢ <;> simp_all

/-- A score given for a situation is the one its kind calls for, and the extraction is not good. -/
theorem situationScore_of_override {situation : Option SituationReport} {html : Str}
    {b : ExtractionResult} {score : ℚ}
    (h : (situationAwareDecision situation html b).qualityOverride = some score) :
    ¬ HighQuality b ∧ ∃ rep, situation = some rep ∧ situationScore rep.kind html = some score := by
  cases situation with
  | none => cases h
  | some rep =>
    rw [qualityOverride_situationAwareDecision] at h
    by_cases hgood : HighQuality b
    · rw [if_pos hgood] at h
      cases h
    · rw [if_neg hgood] at h
      exact ⟨hgood, rep, rfl, h⟩

/-- The label of an extraction, its score apart. -/
theorem labelled_extractMainContentV3 (X : HtmlCrate U) (html : Str)
    (situation : Option SituationReport) :
    Labelled situation (X.extractMainContentV2 html) (extractMainContentV3 X html situation) := by
  refine ⟨fun hgood ↦ ?_, rfl, fun hreason ↦ ?_⟩
  · cases hover :
      (situationAwareDecision situation html (X.extractMainContentV2 html)).qualityOverride with
    | none => simp [extractMainContentV3, hover]
    | some score =>
      obtain ⟨hpoor, rep, rfl, -⟩ := situationScore_of_override hover
      exact absurd hgood (by simp [hpoor])
  · obtain ⟨score, hover⟩ := qualityOverride_of_reason hreason
    obtain ⟨-, rep, -, hscore⟩ := situationScore_of_override hover
    have hquality : (extractMainContentV3 X html situation).result.quality = score := by
      simp [extractMainContentV3, hover]
    rw [hquality]
    exact situationScore_le hscore

/-- A situation lowers the score of every extraction but the poor ones of the permissive phases. -/
theorem rescored_extractMainContentV3 (X : HtmlCrate U) (S : Scraper) (html : Str)
    (situation : Option SituationReport) :
    Rescored html situation (S.extractMainContentV2 html)
      (extractMainContentV3 (X.scraping S) html situation) := by
  refine ⟨labelled_extractMainContentV3 (X.scraping S) html situation, ?_⟩
  cases hover :
    (situationAwareDecision situation html (S.extractMainContentV2 html)).qualityOverride
    with
  | none =>
    left
    simp [extractMainContentV3, HtmlCrate.scraping, hover]
  | some score =>
    obtain ⟨-, rep, hrep, hscore⟩ := situationScore_of_override hover
    have hquality :
        (extractMainContentV3 (X.scraping S) html situation).result.quality = score := by
      simp [extractMainContentV3, HtmlCrate.scraping, hover]
    have hpoor := situationScore_le hscore
    rw [hquality]
    rcases S.quality_extractMainContentV2 html with hfair | ⟨hfallback, hthin⟩
    · left
      exact hpoor.trans (poorScore_le_fairScore.trans hfair)
    · exact .inr ⟨hfallback, hthin, hpoor, rep, hrep, hscore⟩

end Situation

/-- A scraper for one page: its body holds these nodes, and no selector but that of the body selects
anything. -/
def bodyScraper (html cleaned : Str) (children : Html) : Scraper where
  toHtmlParser := .knowing [html, cleaned] children
  Doc := Unit
  Node := Unit
  parseDocument _ := ()
  elements _ :=
    ⟨"html", []⟩ :: ⟨"head", []⟩ :: ⟨"body", []⟩ :: (children.stops []).filterMap fun s ↦
      match s.visit with
      | .enter el _ => some el
      | _ => none
  select _ selector := if selector = "body" then some () else none
  innerHtml _ := html
  drilldownBlock _ _ := none
  largestTextBlock _ := none
  scoreQuality _ _ _ := 0

section Body

variable {html cleaned : Str} {children : Html}

theorem candidate_bodyScraper (hhtml : html ≠ []) (hcleaned : cleaned ≠ [])
    (hcut : cutNodes (.element ⟨"html", []⟩ children .nil) = cleaned)
    (hstrip : stripNodes (.element ⟨"html", []⟩ children .nil) = cleaned) :
    (bodyScraper html cleaned children).candidate html = cleaned := by
  have hpage : (bodyScraper html cleaned children).parseFragment html =
      .element ⟨"html", []⟩ children .nil :=
    HtmlParser.parseFragment_knowing _ hhtml (by simp)
  have hagain : (bodyScraper html cleaned children).parseFragment cleaned =
      .element ⟨"html", []⟩ children .nil :=
    HtmlParser.parseFragment_knowing _ hcleaned (by simp)
  have hwhole : html.isEmpty = false := by simpa using hhtml
  have hout : cleaned.isEmpty = false := by simpa using hcleaned
  rw [Scraper.candidate, stripWikipediaTail, hwhole, if_neg Bool.false_ne_true, hpage, hcut]
  dsimp only
  rw [hout, if_neg Bool.false_ne_true, stripUnwanted, hagain, hstrip]

/-- With little text, the page gets the lowest score for a body. -/
theorem extractMainContentV2_bodyScraper (hhtml : html ≠ []) (hcleaned : cleaned ≠ [])
    (hcut : cutNodes (.element ⟨"html", []⟩ children .nil) = cleaned)
    (hstrip : stripNodes (.element ⟨"html", []⟩ children .nil) = cleaned)
    (hshort : ¬ minTextLen ≤ visibleTextLen cleaned) :
    (bodyScraper html cleaned children).extractMainContentV2 html =
      ⟨cleaned, blockScore, (bodyScraper html cleaned children).classifyPageType (), true⟩ := by
  have hnone : ∀ selector ∈ contentSelectors, selector ≠ "body".toList := by decide
  have hstrict : ∀ pageType,
      (bodyScraper html cleaned children).strictSelection () pageType = none := by
    intro pageType
    apply List.findSome?_eq_none_iff.mpr
    intro selector hmem
    show (if selector = "body".toList then some () else none).bind _ = none
    rw [if_neg (hnone selector hmem)]
    rfl
  have hpermissive : ∀ page pageType,
      (bodyScraper html cleaned children).permissive page () pageType =
        ⟨(bodyScraper html cleaned children).candidate html,
          if minTextLen ≤ visibleTextLen ((bodyScraper html cleaned children).candidate html)
          then fairScore else blockScore, pageType, true⟩ := fun _ _ ↦ rfl
  rw [candidate_bodyScraper hhtml hcleaned hcut hstrip, if_neg hshort] at hpermissive
  have hphases : (bodyScraper html cleaned children).extractMainContentV2 html =
      (((bodyScraper html cleaned children).strictSelection ()
          ((bodyScraper html cleaned children).classifyPageType ())).orElse fun _ ↦ none).getD
        ((bodyScraper html cleaned children).permissive
          (stripUnwanted (bodyScraper html cleaned children).toHtmlParser html) ()
          ((bodyScraper html cleaned children).classifyPageType ())) := rfl
  rw [hphases, hstrict, hpermissive]
  rfl

end Body

/-- The empty mount point of a page that is built in the browser. -/
def shellHtml : Str := "<div id=\"root\"></div>"

/-- The mount point as it is written again. -/
def shellCleaned : Str := "<html><div id=\"root\"></div></html>"

/-- A scraper for that page. -/
def shellScraper : Scraper :=
  bodyScraper shellHtml shellCleaned (.element ⟨"div", [("id", "root")]⟩ .nil .nil)

/-- The crate with the extraction of some scraper, for pages without links. -/
def plainCrate (S : Scraper) : HtmlCrate .plain where
  extractMainContentV2 := S.extractMainContentV2
  filterTags html _ _ := html
  extractMetadata _ url code := { sourceUrl := some url, url := some url, statusCode := some code }
  htmlToMarkdown _ := []
  hrefs _ := []
  join _ _ := none

theorem extractMainContentV2_shell :
    shellScraper.extractMainContentV2 shellHtml = ⟨shellCleaned, blockScore, .unknown, true⟩ :=
  extractMainContentV2_bodyScraper (by decide) (by decide) (by decide) (by decide) (by decide)

/-- A report that the page is built in the browser. -/
def jsOnlyReport : SituationReport := ⟨.jsOnly, .cdp, some 200, [], none⟩

/-- Seen as built in the browser, the page scores 0.1 in place of 0.05. -/
theorem not_lowered_shell :
    (shellScraper.extractMainContentV2 shellHtml).quality = blockScore ∧
      ¬ Lowered (some jsOnlyReport)
        (shellScraper.extractMainContentV2 shellHtml)
        (extractMainContentV3 ((plainCrate shellScraper).scraping shellScraper) shellHtml
          (some jsOnlyReport)) := by
  have hlt : ¬ poorScore ≤ blockScore := by norm_num [poorScore, blockScore]
  have hpoor : ¬ HighQuality ⟨shellCleaned, blockScore, .unknown, true⟩ :=
    fun h ↦ absurd h.1 (by norm_num [goodScore, blockScore])
  refine ⟨by rw [extractMainContentV2_shell], fun h ↦ hlt ?_⟩
  have hoverride := qualityOverride_situationAwareDecision jsOnlyReport shellHtml
    ⟨shellCleaned, blockScore, .unknown, true⟩
  rw [if_neg hpoor] at hoverride
  have hquality : (extractMainContentV3 ((plainCrate shellScraper).scraping shellScraper) shellHtml
      (some jsOnlyReport)).result.quality = poorScore := by
    show (situationAwareDecision (some jsOnlyReport) shellHtml
      (shellScraper.extractMainContentV2 shellHtml)).qualityOverride.getD _ = _
    rw [extractMainContentV2_shell, hoverride]
    rfl
  have hlower := h.lower
  rwa [hquality, extractMainContentV2_shell] at hlower

end CrwShield.Extract
