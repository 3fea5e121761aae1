import CrwShield.Antibot.Situation
import CrwShield.Base.Json
import Mathlib.Data.Rat.Defs

/-!
# Requests, responses and errors

Crate `core`, `src/crates/core/src/types.rs` and `src/crates/core/src/error.rs`. Request options
that no modelled function reads are left out.
-/

open CrwShield.Base CrwShield.Base.Str CrwShield.Antibot

namespace CrwShield.Core

/-- Requested output formats; `types.rs:39–45`. -/
inductive Format where
  | markdown
  | html
  | rawHtml
  | links
  | screenshot
  deriving DecidableEq

/-- Scroll directions; `types.rs:77–80`. -/
inductive ScrollDirection where
  | up
  | down
  deriving DecidableEq

/-- Browser actions; `types.rs:53–73`. -/
inductive BrowserAction where
  | wait (milliseconds : Nat)
  | click (selector : Str)
  | screenshot (fullPage : Bool)
  | write (text : Str)
  | press (key : Str)
  | scroll (direction : ScrollDirection) (amount : Nat)
  | scrape
  | executeJavascript (script : Str)
  deriving DecidableEq

/-- A scrape request; `types.rs:101–166`. -/
structure ScrapeRequest where
  url : Str
  formats : List Format
  onlyMainContent : Bool
  includeTags : List Str
  excludeTags : List Str
  headers : List (Str × Str)
  waitFor : Nat
  mobile : Bool
  actions : List BrowserAction
  skipJs : Bool
  deriving DecidableEq

/-- Request with every option at its default; `types.rs:169–189`. -/
def ScrapeRequest.defaultForUrl (url : Str) : ScrapeRequest where
  url := url
  formats := [.markdown]
  onlyMainContent := true
  includeTags := []
  excludeTags := []
  headers := []
  waitFor := 0
  mobile := false
  actions := []
  skipJs := true

/-- Page metadata; `types.rs:198–245`. Scores are exact rationals. -/
structure ScrapeMetadata where
  title : Option Str := none
  description : Option Str := none
  language : Option Str := none
  sourceUrl : Option Str := none
  url : Option Str := none
  statusCode : Option Nat := none
  error : Option Str := none
  ogTitle : Option Str := none
  ogDescription : Option Str := none
  ogImage : Option Str := none
  author : Option Str := none
  keywords : List Str := []
  extractionQuality : Option ℚ := none
  pageType : Option Str := none
  situation : Option SituationReport := none
  extractionReason : Option Str := none
  schemaOrgData : Option Json := none

/-- A scraped page; `types.rs:249–261`. -/
structure ScrapeData where
  markdown : Option Str := none
  html : Option Str := none
  rawHtml : Option Str := none
  links : Option (List Str) := none
  screenshot : Option Str := none
  metadata : ScrapeMetadata := {}

/-- A scrape response; `types.rs:264–267`. -/
structure ScrapeResponse where
  success : Bool
  data : ScrapeData

/-- `ScrapeResponse::ok`; `types.rs:270–275`. -/
def ScrapeResponse.ok (data : ScrapeData) : ScrapeResponse := ⟨true, data⟩

/-- How a crawl uses sitemaps; `types.rs:284–289`. -/
inductive SitemapMode where
  | skip
  | includeSitemap
  | only
  deriving DecidableEq

/-- A crawl request; `types.rs:297–341`. -/
structure CrawlRequest where
  url : Str
  excludePaths : List Str
  includePaths : List Str
  maxDiscoveryDepth : Option UInt32
  sitemap : SitemapMode
  ignoreQueryParameters : Bool
  limit : Nat
  allowExternalLinks : Bool
  allowSubdomains : Bool
  maxConcurrency : Option Nat
  scrapeOptions : Option ScrapeRequest

/-- A map request; `types.rs:431–455`. -/
structure MapRequest where
  url : Str
  search : Option Str
  sitemap : SitemapMode
  includeSubdomains : Bool
  ignoreQueryParameters : Bool
  limit : Nat

/-- A link of a map; `types.rs:456–464`. -/
structure MapLink where
  url : Str
  title : Option Str
  description : Option Str
  deriving DecidableEq

/-- Answer to a map request; `types.rs:466–472`. -/
structure MapResponse where
  success : Bool
  links : List MapLink
  deriving DecidableEq

/-- Errors of the fetch layer; `error.rs:6–33`. -/
inductive CrwError where
  | invalidUrl (text : Str)
  | fetch (text : Str)
  | http (status : Nat) (message : Str)
  | challenge (text : Str)
  | extraction (text : Str)
  | config (text : Str)
  | notImplemented (text : Str)
  | internalError (text : Str)
  | other (text : Str)
  deriving DecidableEq

/-- Stable error code; `error.rs:36–48`. -/
def CrwError.code : CrwError → Str
  | .invalidUrl _ => "INVALID_URL"
  | .fetch _ => "FETCH_ERROR"
  | .http _ _ => "HTTP_ERROR"
  | .challenge _ => "CHALLENGE_DETECTED"
  | .extraction _ => "EXTRACTION_ERROR"
  | .config _ => "CONFIG_ERROR"
  | .notImplemented _ => "NOT_IMPLEMENTED"
  | .internalError _ => "INTERNAL_ERROR"
  | .other _ => "INTERNAL_ERROR"

/-- The codes of the fetch layer. -/
def CrwError.codes : List Str :=
  ["INVALID_URL", "FETCH_ERROR", "HTTP_ERROR", "CHALLENGE_DETECTED", "EXTRACTION_ERROR",
   "CONFIG_ERROR", "NOT_IMPLEMENTED", "INTERNAL_ERROR"]

theorem CrwError.code_mem (e : CrwError) : e.code ∈ CrwError.codes := by
  cases e with
  | invalidUrl _ => exact .head _
  | fetch _ => exact .tail _ (.head _)
  | http _ _ => exact .tail _ (.tail _ (.head _))
  | challenge _ => exact .tail _ (.tail _ (.tail _ (.head _)))
  | extraction _ => exact .tail _ (.tail _ (.tail _ (.tail _ (.head _))))
  | config _ => exact .tail _ (.tail _ (.tail _ (.tail _ (.tail _ (.head _)))))
  | notImplemented _ => exact .tail _ (.tail _ (.tail _ (.tail _ (.tail _ (.tail _ (.head _))))))
  | internalError _ | other _ =>
    exact .tail _ (.tail _ (.tail _ (.tail _ (.tail _ (.tail _ (.tail _ (.head _)))))))

/-- Display text; the `#[error]` attributes of `error.rs:6–33`. -/
def CrwError.toStr : CrwError → Str
  | .invalidUrl text => "invalid URL: " ++ text
  | .fetch text => "fetch error: " ++ text
  | .http status message => "HTTP error: status " ++ ofNat status ++ ": " ++ message
  | .challenge text => "challenge detected: " ++ text
  | .extraction text => "extraction error: " ++ text
  | .config text => "config error: " ++ text
  | .notImplemented text => "not implemented: " ++ text
  | .internalError text => "internal error: " ++ text
  | .other text => text

/-- Error body of the API; `types.rs:562–576`. -/
structure ErrorResponse where
  success : Bool
  error : Str
  message : Str
  details : Option Json

/-- Blank codes and messages are replaced by a placeholder; `types.rs:582–600`. -/
def ErrorResponse.new (code message : Str) : ErrorResponse where
  success := false
  error := if (trim code).isEmpty then "unspecified" else code
  message := if (trim message).isEmpty then "unspecified error" else message
  details := none

end CrwShield.Core
