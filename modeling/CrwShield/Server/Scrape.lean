import CrwShield.Fetch.Rotation
import CrwShield.Server.Hitl

/-!
# The scrape endpoint

Crate `server`, `src/crates/server/src/handlers.rs:869–1057`. The extraction functions of the crate
`extract` are a parameter; what a page turns into does not bear on whether it is answered. The
notification webhook is left out: nothing waits for it.
-/

open CrwShield.Base CrwShield.Base.Str CrwShield.Antibot CrwShield.Core CrwShield.Fetch

namespace CrwShield.Server

/-- What `extract_main_content_v4` returns, as far as `handle_scrape` reads it. -/
structure ExtractionResult where
  markdown : Str
  quality : ℚ
  pageType : Str
  reason : Str

/-- The extraction functions called by `handle_scrape`. -/
structure Extraction where
  extractMainContentV4 : Str → Option SituationReport → Str → ExtractionResult
  filterTags : Str → List Str → List Str → Str
  extractMetadata : Str → Str → Nat → ScrapeMetadata
  htmlToMarkdown : Str → Str
  extractLinks : Str → Str → List Str
  base64Encode : List UInt8 → Str

/-- The answer built from a page; `handlers.rs:967–1056`. -/
def successResponse (X : Extraction) (req : ScrapeRequest) (result : LadderResult) :
    ScrapeResponse :=
  let fetch := result.fetch
  let v4 :=
    if req.onlyMainContent then
      some (X.extractMainContentV4 fetch.html (some result.situation) fetch.finalUrl)
    else none
  let main := (v4.map ExtractionResult.markdown).getD fetch.html
  let html :=
    if !req.includeTags.isEmpty || !req.excludeTags.isEmpty then
      X.filterTags main req.includeTags req.excludeTags
    else main
  let wants := fun f ↦ req.formats.contains f
  .ok
    { markdown := if wants .markdown then some (X.htmlToMarkdown html) else none
      html := if wants .html then some html else none
      rawHtml := if wants .rawHtml then some fetch.html else none
      links := if wants .links then some (X.extractLinks fetch.html fetch.finalUrl) else none
      screenshot :=
        if wants .screenshot then
          result.screenshot.map fun bytes ↦ ("data:image/png;base64," : Str) ++ X.base64Encode bytes
        else none
      metadata :=
        { X.extractMetadata fetch.html fetch.finalUrl fetch.statusCode with
          extractionQuality := v4.map ExtractionResult.quality
          pageType := v4.map ExtractionResult.pageType
          situation := some result.situation
          extractionReason := v4.map ExtractionResult.reason
          error := none } }

/-- The request enqueued for a page, when the page takes the human-in-the-loop path;
`handlers.rs:902–919`. -/
def hitlRequest (url : Str) (situation : SituationReport) : Option HitlRequest :=
  if situation.isAntiBot then
    some
      { url := url
        challengeKind := some situation.kind.asStr
        note := some (("auto-triggered after ladder exhausted L1+L2 (situation=" : Str) ++
          situation.kind.asStr ++ ")") }
  else none

/-- The error for an enqueued page; `handlers.rs:928–948`. -/
def hitlRequired (url : Str) (challengeKind : Str) (hitl : HitlEnqueueResponse) : ErrorResponse :=
  { ErrorResponse.new "HITL_REQUIRED"
      (("anti-bot challenge (" : Str) ++ challengeKind ++ ") not solved automatically; " ++
        "open the URL in a browser, solve the challenge, then POST the " ++
        "resulting cookies to /v2/scrape/hitl/" ++ hitl.id ++ "/solve as JSON `\x7b\"cookies\":" ++
        "[\x7b\"name\":\"...\",\"value\":\"...\",\"domain\":\".example.com\"\x7d]\x7d`. " ++
        "A subsequent /v2/scrape call will then reuse those cookies.") with
    details := some (.ofMembers
      [("hitl_id", .str hitl.id), ("queue_file", .str hitl.queueFile),
       ("challenge_kind", .str challengeKind), ("url", .str url),
       ("created_at", .str hitl.createdAt), ("instructions", .str hitl.instructions)]) }

/-- The error for a challenge page found without a browser; `handlers.rs:958–964`. -/
def challengeDetected (challenge : Str) : ErrorResponse :=
  .new "CHALLENGE_DETECTED" (("anti-bot challenge detected: " : Str) ++ challenge)

section Handlers

universe u
variable {ω : Type u}

/-- Answer for a page that is not handed to a human; `handlers.rs:957–1056`. -/
def answerPage (X : Extraction) (cdpEnabled : Bool) (req : ScrapeRequest)
    (result : LadderResult) : Except ErrorResponse ScrapeResponse :=
  match if cdpEnabled then none else detectChallenge result.fetch.html with
  | some challenge => .error (challengeDetected challenge)
  | none => .ok (successResponse X req result)

/-- Answer for the ladder's result. A page that takes the human-in-the-loop path is an error once
it is enqueued; if that fails, it is answered like any other page; `handlers.rs:893–1056`. -/
def answerResult (io : HitlIo ω) (X : Extraction) (cdpEnabled : Bool) (req : ScrapeRequest)
    (result : LadderResult) (w : ω) : Except ErrorResponse ScrapeResponse × ω :=
  match hitlRequest req.url result.situation with
  | none => (answerPage X cdpEnabled req result, w)
  | some hitlReq =>
    match handleHitlEnqueue io hitlReq w with
    | (.ok hitl, w) => (.error (hitlRequired req.url result.situation.kind.asStr hitl), w)
    | (.error _, w) => (answerPage X cdpEnabled req result, w)

/-- The machine of the server: the fetch machine, the queue, the extraction functions and the rate
limiter. -/
structure Host (ω : Type u) extends Machine ω where
  io : HitlIo ω
  extraction : Extraction
  /-- `RateLimiter::wait`. -/
  rateLimit : ω → ω

/-- Answer for what the ladder returned; `handlers.rs:891–1056`. A panic leaves the request without
an answer. -/
def respond (H : Host ω) (cdpEnabled : Bool) (req : ScrapeRequest)
    (fetched : Except Failure LadderResult × RotationState ω) :
    Except Panic (Except ErrorResponse ScrapeResponse) × RotationState ω :=
  match fetched with
  | (.error (.panic p), st) => (.error p, st)
  | (.error (.error e), st) => (.ok (.error (.new e.code e.toStr)), st)
  | (.ok result, st) =>
    let answer := answerResult H.io H.extraction cdpEnabled req result st.env.world
    (.ok answer.1, { st with env := { st.env with world := answer.2 } })

/-- The state past the rate limiter; `handlers.rs:885`. -/
def waited (H : Host ω) (st : RotationState ω) : RotationState ω :=
  { st with env := { st.env with world := H.rateLimit st.env.world } }

/-- Scrape one URL; `handlers.rs:869–1057`. -/
def handleScrape (H : Host ω) (U : UrlCrate) (cdpEnabled : Bool) (ladder : FetchLadder)
    (req : ScrapeRequest) (st : RotationState ω) :
    Except Panic (Except ErrorResponse ScrapeResponse) × RotationState ω :=
  match U.parse req.url with
  | .error _ => (.ok (.error (.new "INVALID_URL" "url is not valid")), st)
  | .ok _ => respond H cdpEnabled req (ladder.fetchWithRotation H.toMachine U req (waited H st))

end Handlers
end CrwShield.Server
