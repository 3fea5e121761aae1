import CrwShield.Extract.Phases

/-!
# The extraction router

Crate `extract` built with the feature `firecrawl-extractor`,
`src/crates/extract/src/content.rs:709–781` and `firecrawl_compat.rs`. Articles and documentation go
to the external extractor; what it returns takes the place of the score and the reason that the
situation gave.
-/

open CrwShield.Base CrwShield.Base.Str CrwShield.Antibot

namespace CrwShield.Extract.Firecrawl

/-- `html_extractor::PageType`. -/
inductive ForeignPageType where
  | article
  | product
  | listing
  | forum
  | documentation
  | collection
  | service
  | other
  deriving DecidableEq

/-- What the adapter reads of `html_extractor::ExtractResult`; the score is the `f32` that it is
cast to. -/
structure Extracted where
  markdown : Str
  extractionQuality : ℚ
  pageType : ForeignPageType
  /-- `stats`, of which only `used_fallback` is read. -/
  stats : Option Bool

/-- `html_extractor::extract`, from a page and its URL; without a value where it fails. -/
abbrev Extractor := Str → Option Str → Option Extracted

/-- `firecrawl_compat.rs:33–46`. -/
def mapPageType : ForeignPageType → PageType
  | .article => .article
  | .product => .product
  | .listing => .listing
  | .forum => .forum
  | .documentation => .doc
  | .collection => .collection
  | .service => .service
  | .other => .unknown

/-- `firecrawl_compat.rs:57–83`. -/
def extractWithFirecrawl (extract : Extractor) (html url : Str) : Option ExtractionResult :=
  (extract html (if url.isEmpty then none else some url)).bind fun res ↦
    if (trim res.markdown).isEmpty then none
    else
      some
        { markdown := res.markdown
          quality := res.extractionQuality
          pageType := mapPageType res.pageType
          usedFallback := res.stats.any id }

/-- The score 0.7. -/
def strictScore : ℚ := 11744051 / 2 ^ 24

/-- `firecrawl_compat.rs:101–109`. -/
def reasonFromQuality (quality : ℚ) : ExtractionReason :=
  if strictScore ≤ quality then .strict
  else if goodScore ≤ quality then .heuristic
  else .fallback

section Route

variable {U : UrlCrate} (X : HtmlCrate U) (extract : Extractor)

/-- The page is handed to the external extractor; `content.rs:744–750`. -/
def UseFirecrawl (preliminary : ExtractionResultWithReason) (situation : Option SituationReport) :
    Prop :=
  situation.any SituationReport.isAntiBot = false ∧
    (preliminary.result.pageType = .article ∨ preliminary.result.pageType = .doc)

instance (preliminary : ExtractionResultWithReason) (situation : Option SituationReport) :
    Decidable (UseFirecrawl preliminary situation) := by
  unfold UseFirecrawl
  infer_instance

/-- `content.rs:709–781`. -/
def extractMainContentV4 (html : Str) (situation : Option SituationReport) (url : Str) :
    ExtractionResultWithReason :=
  let preliminary := extractMainContentV3 X html situation
  if UseFirecrawl preliminary situation then
    match extractWithFirecrawl extract html url with
    | some feRes => ⟨feRes, reasonFromQuality feRes.quality, preliminary.situationKind⟩
    | none => preliminary
  else preliminary

/-- A score given for the situation arrives, with its reason. -/
def OverridePreserved (html : Str) (situation : Option SituationReport) (url : Str) : Prop :=
  let decision := situationAwareDecision situation html (X.extractMainContentV2 html)
  ∀ score, decision.qualityOverride = some score →
    (extractMainContentV4 X extract html situation url).reason = decision.reason ∧
      (extractMainContentV4 X extract html situation url).result.quality = score

/-- The situation decides: the extractor is not asked, or has no answer. -/
def SituationDecides (html : Str) (situation : Option SituationReport) (url : Str) : Prop :=
  situation.any SituationReport.isAntiBot = true ∨
    ((X.extractMainContentV2 html).pageType ≠ .article ∧
      (X.extractMainContentV2 html).pageType ≠ .doc) ∨
    extractWithFirecrawl extract html url = none

variable {X extract} {html : Str} {situation : Option SituationReport} {url : Str}

/-- The external extractor gives none of the reasons that come with a score for the situation. -/
theorem reasonFromQuality_ne {b : ExtractionResult} {score : ℚ} (quality : ℚ)
    (h : (situationAwareDecision situation html b).qualityOverride = some score) :
    reasonFromQuality quality ≠ (situationAwareDecision situation html b).reason := by
  have hforeign : reasonFromQuality quality = .strict ∨ reasonFromQuality quality = .heuristic ∨
      reasonFromQuality quality = .fallback := by
    unfold reasonFromQuality
    split_ifs <;> simp
  have hours : (situationAwareDecision situation html b).reason ≠ .strict ∧
      (situationAwareDecision situation html b).reason ≠ .heuristic ∧
      (situationAwareDecision situation html b).reason ≠ .fallback := by
    unfold situationAwareDecision at h ⊢
    cases situation with
    | none => cases h
    | some rep =>
      dsimp only at h ⊢
      split_ifs at h ⊢ <;> simp_all
  intro heq
  rw [heq] at hforeign
  rcases hforeign with hstrict | hheuristic | hfallback
  · exact hours.1 hstrict
  · exact hours.2.1 hheuristic
  · exact hours.2.2 hfallback

/-- Where the situation decides, the router is the previous version. -/
theorem extractMainContentV4_of_situationDecides
    (h : SituationDecides X extract html situation url) :
    extractMainContentV4 X extract html situation url = extractMainContentV3 X html situation := by
  unfold extractMainContentV4
  dsimp only
  split
  · next huse =>
    obtain ⟨hbot, hpage⟩ := huse
    rcases h with hantibot | hother | hextract
    · rw [hbot] at hantibot
      cases hantibot
    · exact (hpage.elim hother.1 hother.2).elim
    · rw [hextract]
  · rfl

/-- Elsewhere it returns what the extractor found. -/
theorem extractMainContentV4_of_not_situationDecides
    (h : ¬ SituationDecides X extract html situation url) :
    ∃ feRes, extractWithFirecrawl extract html url = some feRes ∧
      extractMainContentV4 X extract html situation url =
        ⟨feRes, reasonFromQuality feRes.quality,
          (extractMainContentV3 X html situation).situationKind⟩ := by
  simp only [SituationDecides, not_or, not_and_or, not_not] at h
  obtain ⟨hbot, hpage, hextract⟩ := h
  obtain ⟨feRes, hsome⟩ := Option.ne_none_iff_exists'.mp hextract
  have huse : UseFirecrawl (extractMainContentV3 X html situation) situation :=
    ⟨by simpa using hbot, hpage⟩
  refine ⟨feRes, hsome, ?_⟩
  rw [extractMainContentV4, if_pos huse, hsome]

/-- The score and the reason that a situation gives arrive exactly where the situation decides. -/
theorem overridePreserved_iff (X : HtmlCrate U) (extract : Extractor) (html : Str)
    (situation : Option SituationReport) (url : Str) :
    OverridePreserved X extract html situation url ↔
      (situationAwareDecision situation html (X.extractMainContentV2 html)).qualityOverride = none ∨
        SituationDecides X extract html situation url := by
  constructor
  · intro h
    cases hover :
      (situationAwareDecision situation html (X.extractMainContentV2 html)).qualityOverride with
    | none => exact .inl rfl
    | some score =>
      right
      by_contra hnot
      obtain ⟨feRes, -, hv4⟩ := extractMainContentV4_of_not_situationDecides hnot
      have hreason := (h score hover).1
      rw [hv4] at hreason
      exact reasonFromQuality_ne feRes.quality hover hreason
  · rintro (hnone | hdecides) score hover
    · rw [hnone] at hover
      cases hover
    · rw [extractMainContentV4_of_situationDecides hdecides]
      exact ⟨rfl, by simp [extractMainContentV3, hover]⟩

end Route

/-- A page that says it is gone. -/
def goneHtml : Str := "<h1>Gone</h1>"

/-- That page as it is written again. -/
def goneCleaned : Str := "<html><h1>Gone</h1></html>"

/-- A scraper for that page. -/
def goneScraper : Scraper :=
  bodyScraper goneHtml goneCleaned (.element ⟨"h1", []⟩ (.leaf (.text "Gone") .nil) .nil)

/-- An extractor that finds the heading. -/
def headingExtractor : Extractor := fun _ _ ↦ some ⟨"# Gone", strictScore, .article, none⟩

/-- A report that the page was not found. -/
def goneReport : SituationReport := ⟨.softNotFound, .none, some 200, [], none⟩

theorem extractMainContentV2_gone :
    goneScraper.extractMainContentV2 goneHtml = ⟨goneCleaned, blockScore, .article, true⟩ :=
  extractMainContentV2_bodyScraper (by decide) (by decide) (by decide) (by decide) (by decide)

private theorem decision_gone : situationAwareDecision (some goneReport) goneHtml
    ((plainCrate goneScraper).extractMainContentV2 goneHtml) =
      ⟨.softNotFound, some poorScore, some goneReport.kind.asStr⟩ := by
  have hpoor : ¬ HighQuality ⟨goneCleaned, blockScore, .article, true⟩ :=
    fun h ↦ absurd h.1 (by norm_num [goodScore, blockScore])
  show situationAwareDecision _ _ (goneScraper.extractMainContentV2 goneHtml) = _
  rw [extractMainContentV2_gone, situationAwareDecision, if_neg hpoor]
  rfl

private theorem extractMainContentV4_gone :
    (extractMainContentV4 (plainCrate goneScraper) headingExtractor goneHtml (some goneReport)
      []).reason = .strict := by
  have huse : UseFirecrawl
      (extractMainContentV3 (plainCrate goneScraper) goneHtml (some goneReport))
      (some goneReport) := by
    refine ⟨rfl, .inl ?_⟩
    show (goneScraper.extractMainContentV2 goneHtml).pageType = .article
    rw [extractMainContentV2_gone]
  rw [extractMainContentV4, if_pos huse]
  exact if_pos le_rfl

/-- The page that was not found is returned as a good one. -/
theorem not_overridePreserved_gone :
    (extractMainContentV4 (plainCrate goneScraper) headingExtractor goneHtml (some goneReport)
      []).reason = .strict ∧
    ¬ OverridePreserved (plainCrate goneScraper) headingExtractor goneHtml (some goneReport)
      [] := by
  refine ⟨extractMainContentV4_gone, fun h ↦ ?_⟩
  have hreason := (h poorScore (congrArg SituationDecision.qualityOverride decision_gone)).1
  rw [extractMainContentV4_gone, decision_gone] at hreason
  cases hreason

end CrwShield.Extract.Firecrawl
