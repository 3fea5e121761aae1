import CrwShield.Base.UrlCrate
import CrwShield.Core.Types
import Mathlib.Algebra.Order.Ring.Rat

/-!
# Content extraction

Crate `extract`, `src/crates/extract/src/content.rs` and `links.rs`, built without the feature
`firecrawl-extractor`. What rests on the third-party HTML parser is a parameter; modelled are how a
situation changes the score of an extraction and how the links of a page are resolved.
-/

open CrwShield.Base CrwShield.Base.Str CrwShield.Antibot CrwShield.Core

namespace CrwShield.Extract

/-- Coarse classification of a page; `content.rs:146–168`. -/
inductive PageType where
  | article
  | product
  | listing
  | forum
  | doc
  | collection
  | service
  | unknown
  deriving DecidableEq

/-- The lowercased `Debug` text of a page type. -/
def PageType.debugLower : PageType → Str
  | .article => "article"
  | .product => "product"
  | .listing => "listing"
  | .forum => "forum"
  | .doc => "doc"
  | .collection => "collection"
  | .service => "service"
  | .unknown => "unknown"

/-- Main content of a page; `content.rs:176–181`. Scores are the exact values of the `f32`s. -/
structure ExtractionResult where
  markdown : Str
  quality : ℚ
  pageType : PageType
  usedFallback : Bool

/-- Why an extraction has its score; `content.rs:197–218`. -/
inductive ExtractionReason where
  | strict
  | heuristic
  | fallback
  | softNotFound
  | jsOnly
  | antiBotBlock
  | empty
  deriving DecidableEq

/-- The lowercased `Debug` text of a reason. -/
def ExtractionReason.debugLower : ExtractionReason → Str
  | .strict => "strict"
  | .heuristic => "heuristic"
  | .fallback => "fallback"
  | .softNotFound => "softnotfound"
  | .jsOnly => "jsonly"
  | .antiBotBlock => "antibotblock"
  | .empty => "empty"

/-- An extraction with the reason for its score; `content.rs:221–227`. -/
structure ExtractionResultWithReason where
  result : ExtractionResult
  reason : ExtractionReason
  situationKind : Option Str

/-- What the situation says about an extraction; `content.rs:787–793`. -/
structure SituationDecision where
  reason : ExtractionReason
  qualityOverride : Option ℚ
  situationKind : Option Str

/-- What the crate computes from HTML with the crates `scraper`, `htmd` and `url`. -/
structure HtmlCrate (U : UrlCrate) where
  /-- `extract_main_content_v2`, from a page. -/
  extractMainContentV2 : Str → ExtractionResult
  /-- `filter_tags`, from a page and the tags to include and to exclude. -/
  filterTags : Str → List Str → List Str → Str
  /-- `extract_metadata`, from a page, its URL and its status code. -/
  extractMetadata : Str → Str → Nat → ScrapeMetadata
  /-- `html_to_markdown`. -/
  htmlToMarkdown : Str → Str
  /-- The `href` values of the elements `a[href]`, in document order. -/
  hrefs : Str → List Str
  /-- `Url::join`. -/
  join : U.Url → Str → Option U.Url

/-- The score 0.3. -/
def goodScore : ℚ := 10066330 / 2 ^ 25

/-- The score 0.1. -/
def poorScore : ℚ := 13421773 / 2 ^ 27

/-- The score 0.05. -/
def blockScore : ℚ := 13421773 / 2 ^ 28

/-- The extraction found real content, which no situation can downgrade; `content.rs:822`. -/
def HighQuality (base : ExtractionResult) : Prop :=
  goodScore ≤ base.quality ∧ 500 ≤ len base.markdown

instance (base : ExtractionResult) : Decidable (HighQuality base) := by
  unfold HighQuality
  infer_instance

/-- Label and score of an extraction under a situation; `content.rs:817–904`. -/
def situationAwareDecision (situation : Option SituationReport) (html : Str)
    (base : ExtractionResult) : SituationDecision :=
  match situation with
  | none => ⟨.strict, none, none⟩
  | some rep =>
    let kindStr := some rep.kind.asStr
    if HighQuality base then ⟨.strict, none, kindStr⟩
    else if rep.kind = .softNotFound then ⟨.softNotFound, some poorScore, kindStr⟩
    else if rep.kind = .jsOnly then ⟨.jsOnly, some poorScore, kindStr⟩
    else if rep.kind.isAntiBot then ⟨.antiBotBlock, some blockScore, kindStr⟩
    else if rep.kind = .geoBlocked ∨ rep.kind = .loginWall then
      ⟨.antiBotBlock, some poorScore, kindStr⟩
    else if rep.kind = .rateLimited ∨ rep.kind = .serverError then
      ⟨.antiBotBlock, some blockScore, kindStr⟩
    else if len (trim html) < 200 then ⟨.empty, some blockScore, kindStr⟩
    else ⟨.strict, none, kindStr⟩

/-- The score that the kind of a situation and the size of the page call for, if any. -/
def situationScore (kind : SituationKind) (html : Str) : Option ℚ :=
  match kind with
  | .softNotFound | .jsOnly | .geoBlocked | .loginWall => some poorScore
  | .cleanSuccess | .unknown => if len (trim html) < 200 then some blockScore else none
  | _ => some blockScore

/-- A good extraction keeps its score, any other gets the one its situation calls for. -/
theorem qualityOverride_situationAwareDecision (rep : SituationReport) (html : Str)
    (base : ExtractionResult) :
    (situationAwareDecision (some rep) html base).qualityOverride =
      if HighQuality base then none else situationScore rep.kind html := by
  unfold situationAwareDecision situationScore
  by_cases hgood : HighQuality base
  · simp only [if_pos hgood]
  · simp only [if_neg hgood]
    cases rep.kind <;> simp [SituationKind.isAntiBot] <;> split <;> rfl

/-- Whether the extraction keeps its score under a situation. -/
def ScoreStands (kind : SituationKind) (html : Str) (base : ExtractionResult) : Prop :=
  HighQuality base ∨ ∀ score, situationScore kind html = some score → base.quality = score

section Pipeline

variable {U : UrlCrate} (X : HtmlCrate U)

/-- Extraction with the score corrected by the situation; `content.rs:666–681`. -/
def extractMainContentV3 (html : Str) (situation : Option SituationReport) :
    ExtractionResultWithReason :=
  let base := X.extractMainContentV2 html
  let decision := situationAwareDecision situation html base
  { result := { base with quality := decision.qualityOverride.getD base.quality }
    reason := decision.reason
    situationKind := decision.situationKind }

/-- Without the feature the router is the previous version; `content.rs:709–779`. -/
def extractMainContentV4 (html : Str) (situation : Option SituationReport) (_url : Str) :
    ExtractionResultWithReason := extractMainContentV3 X html situation

/-- Links of a page, resolved against its URL; `links.rs:6–35`. -/
def extractLinks (html baseUrl : Str) : List Str :=
  let base := (U.parse baseUrl).toOption
  (X.hrefs html).filterMap fun href ↦
    let trimmed := trim href
    if trimmed.isEmpty || startsWith "#" trimmed || startsWith "javascript:" trimmed ||
        startsWith "mailto:" trimmed || startsWith "tel:" trimmed then none
    else
      (match base with
        | some b => X.join b trimmed
        | none => (U.parse trimmed).toOption).map U.toStr

/-- The routed extraction has the plain one's score exactly where that score stands. -/
theorem quality_extractMainContentV4_iff (html : Str) (rep : SituationReport) (url : Str) :
    (extractMainContentV4 X html (some rep) url).result.quality =
      (X.extractMainContentV2 html).quality ↔
    ScoreStands rep.kind html (X.extractMainContentV2 html) := by
  show ((situationAwareDecision (some rep) html _).qualityOverride.getD _) = _ ↔ _
  rw [qualityOverride_situationAwareDecision, ScoreStands]
  by_cases hgood : HighQuality (X.extractMainContentV2 html)
  · simp [hgood]
  · cases situationScore rep.kind html with
    | none => simp [hgood]
    | some score => simp [hgood, eq_comm]

end Pipeline
end CrwShield.Extract
