import CrwShield.Antibot.Providers

/-!
# Diagnosis of a page

Crate `antibot`, `src/crates/antibot/src/situation.rs:323–820`. The detector asks the response
headers, the status code, the provider catalogue and a size heuristic, in this order, and reports
the first answer.
-/

open CrwShield.Base CrwShield.Base.Str

namespace CrwShield.Antibot

/-- A header that names a provider; `situation.rs:720–727`. -/
structure HeaderHit where
  headerName : Str
  providerName : Str
  kind : SituationKind
  suggestedLadder : SuggestedLadder
  notes : Str

/-- The provider named by one lowercased header name; `situation.rs:732–794`. -/
def headerHit (n : Str) : Option HeaderHit :=
  if n = "cf-ray" ∨ n = "cf-mitigated" then
    some ⟨"cf-ray", "cloudflare_iuam", .cloudflareIuam, .cdp, "Cloudflare Ray ID present."⟩
  else if n = "x-iinfo" ∨ n = "incap-ses" then
    some ⟨"x-iinfo", "imperva_incapsula", .impervaIncapsula, .cdp,
      "Imperva / Incapsula headers present."⟩
  else if n = "x-akamai-transformed" ∨ startsWith "x-akamai-" n ∨ n = "akamai-grn" then
    some ⟨"x-akamai-transformed", "akamai_bot_manager", .akamaiBotManager, .cdp,
      "Akamai headers present."⟩
  else if n = "x-dd-b" ∨ n = "x-datadome" then
    some ⟨"x-dd-b", "datadome_captcha", .dataDomeCaptcha, .flareSolverr,
      "DataDome headers present."⟩
  else if startsWith "x-kpsdk-" n then
    some ⟨"x-kpsdk-ct", "kasada", .kasada, .flareSolverr, "Kasada SDK headers present."⟩
  else if startsWith "x-px-" n then
    some ⟨"x-px-cookie", "perimeterx", .perimeterX, .flareSolverr,
      "PerimeterX headers present."⟩
  else if n = "x-amzn-requestid" ∨ startsWith "x-amz-waf-" n then
    some ⟨"x-amzn-requestid", "aws_waf", .awsWaf, .cdp, "AWS WAF headers present."⟩
  else none

/-- The first header that names a provider; `situation.rs:729–797`. -/
def matchHeader (headers : List (Str × Str)) : Option HeaderHit :=
  headers.findSome? fun header ↦ headerHit (toAsciiLowercase header.1)

/-- Body tokens that corroborate a provider header; `situation.rs:489–555`. -/
def headerBodyTokens (provider : Str) : List Str :=
  if provider = "cloudflare_iuam" then
    ["checking your browser before accessing", "cf-mitigated", "cf_chl_",
     "challenges.cloudflare.com", "cf-chl-bypass", "turnstile-v0", "ray id",
     "performing security verification", "verifying you are human",
     "please verify you are a human"]
  else if provider = "cloudflare_turnstile" then
    ["challenges.cloudflare.com/turnstile", "cf-turnstile", "turnstile.render"]
  else if provider = "imperva_incapsula" then
    ["_incapsula_resource", "incap_ses_", "visid_incap_", "pardon our interruption",
     "you have been blocked", "request rejected"]
  else if provider = "akamai_bot_manager" then
    ["akamai challenge", "akamai/abot", "akamai-bm", "pm_akamai", "x-amz-rid", "ghostbox",
     "akamai-bm-sc"]
  else if provider = "datadome_captcha" then
    ["ddc-captcha", "datadome.co", "geo.captcha-delivery", "captcha-delivery.com",
     "datadome-captcha", "datadome-protected"]
  else if provider = "kasada" then ["kasada", "kpsdk", "kasada-akamai"]
  else if provider = "perimeterx" then
    ["perimeterx", "px-captcha", "px-app", "_pxappid", "pxcaptcha", "humansecurity"]
  else if provider = "aws_waf" then
    ["aws-waf", "x-amz-waf", "request rejected", "this request was blocked"]
  else ["captcha", "challenge", "checking your browser", "access denied"]

/-- Characters outside tags that are not white space; `situation.rs:814–818`. -/
def visibleChars (body : Str) : Nat :=
  let texts := (split '<' body).filterMap fun piece ↦ (splitOnce ">" piece).map Prod.snd
  (texts.flatten.filter fun c ↦ !isWhitespace c).length

/-- Whether a page is too small or a shell of scripts; `situation.rs:800–825`. -/
def detectEmptyOrBlockedHtml (html : Str) : Bool :=
  let trimmed := trim html
  if len trimmed < 200 then true
  else
    let lower := toAsciiLowercase trimmed
    let hasDoctype := startsWith "<!doctype" lower || startsWith "<html" lower
    match hasDoctype, breakOn "<body" lower with
    | true, some (_, after) =>
      match splitOnce "</body>" after with
      | some (bodyInner, _) =>
        visibleChars bodyInner < 100 && matchesCount "<" bodyInner > 5
      | none => false
    | _, _ => false

/-- Header stage: a provider header counts by itself unless the status is a success, which asks
for one of the provider's body tokens as well; `situation.rs:333–374`. -/
def headerStage (lower : Str) (statusCode : Option Nat) (headers : Option (List (Str × Str))) :
    Option SituationReport :=
  (headers.bind matchHeader).bind fun ev ↦
    let status2xx := statusCode.any fun c ↦ 200 ≤ c && c ≤ 299
    if status2xx && !(headerBodyTokens ev.providerName).any (contains · lower) then none
    else some (buildReport ev.kind ev.suggestedLadder statusCode
      [⟨.header, ev.headerName, ev.providerName⟩] (some ev.notes))

/-- Status stage: rate limits and server errors; `situation.rs:376–407`. -/
def statusStage (statusCode : Option Nat) : Option SituationReport :=
  statusCode.bind fun code ↦
    if code = 429 then
      some (buildReport .rateLimited .retryWithDelay (some code)
        [⟨.statusCode, ofNat code, "generic_rate_limit"⟩] (some "Back off and retry."))
    else if 500 ≤ code ∧ code ≤ 599 then
      some (buildReport .serverError .retryWithDelay (some code)
        [⟨.statusCode, ofNat code, "server_error"⟩]
        (some "Server-side issue, not bot detection."))
    else none

/-- Length from which a single token is enough on a success; `situation.rs:420`. -/
def singleHitMinLen : Nat := 14

/-- The first two tokens of an entry found in the page, with their positions; tokens shorter than
four bytes are skipped; `situation.rs:423–444`. -/
def tokenHits (lower : Str) (entry : ProviderEntry) : List (Str × Nat) :=
  ((entry.tokensLower.filter fun token ↦ 4 ≤ len token).filterMap fun token ↦
    (find token lower).map fun pos ↦ (token, pos)).take 2

/-- Whether the tokens found are enough to name the provider; `situation.rs:445–453`. -/
def strongEnough (statusCode : Option Nat) (hits : List (Str × Nat)) : Bool :=
  if statusCode = some 200 then
    match hits with
    | [] => false
    | [hit] => singleHitMinLen ≤ len hit.1
    | _ => true
  else !hits.isEmpty

/-- Keep the first entry with the most hits; `situation.rs:454–456`. -/
def keepBest (lower : Str) (statusCode : Option Nat)
    (best : Option (ProviderEntry × List (Str × Nat))) (entry : ProviderEntry) :
    Option (ProviderEntry × List (Str × Nat)) :=
  let hits := tokenHits lower entry
  if strongEnough statusCode hits && best.all (·.2.length < hits.length) then some (entry, hits)
  else best

/-- Token stage: the best entry of the catalogue; `situation.rs:420–467`. -/
def tokenStage (lower : Str) (statusCode : Option Nat) : Option SituationReport :=
  (providers.all.foldl (keepBest lower statusCode) none).map fun best ↦
    buildReport best.1.kind best.1.suggestedLadder statusCode
      (best.2.map fun hit ↦
        ⟨.token, ("\"" : Str) ++ hit.1 ++ "\"@" ++ ofNat hit.2, best.1.name⟩)
      (some best.1.notes)

/-- Size stage: an empty page or a shell of scripts; `situation.rs:470–478`. -/
def sizeStage (html : Str) (statusCode : Option Nat) : Option SituationReport :=
  if detectEmptyOrBlockedHtml html then
    some (buildReport .jsOnly .cdp statusCode []
      (some "Page is empty, JS-only, or too small to be useful."))
  else none

/-- Run the detector over a page, its status and its headers; `situation.rs:323–484`. -/
def diagnose (html : Str) (statusCode : Option Nat) (headers : Option (List (Str × Str))) :
    SituationReport :=
  let lower := toAsciiLowercase html
  ((headerStage lower statusCode headers).or <| (statusStage statusCode).or <|
    (tokenStage lower statusCode).or <| sizeStage html statusCode).getD
    { SituationReport.clean with statusCode := statusCode }

/-- Legacy provider name of a challenge page; `challenge_detect.rs:19–30`. -/
def detectChallenge (html : Str) : Option Str :=
  let report := diagnose html none none
  if report.isAntiBot then some report.kind.asStr else none

/-- Legacy test for a page another fetcher should take over; `challenge_detect.rs:36–45`. -/
def detectEmptyOrBlocked (html : Str) : Bool :=
  let report := diagnose html none none
  report.kind = .jsOnly || report.kind = .serverError || report.kind = .rateLimited ||
    report.kind = .softNotFound || (report.kind ≠ .cleanSuccess && report.kind.isAntiBot)

section Reports

variable {html lower : Str} {statusCode : Option Nat} {headers : Option (List (Str × Str))}
  {r : SituationReport}

private theorem statusCode_headerStage (h : headerStage lower statusCode headers = some r) :
    r.statusCode = statusCode := by
  simp only [headerStage, Option.bind_eq_some_iff] at h
  obtain ⟨ev, -, h⟩ := h
  split at h
  · exact absurd h (by simp)
  · rw [← Option.some.inj h]
    rfl

private theorem statusCode_statusStage (h : statusStage statusCode = some r) :
    r.statusCode = statusCode := by
  simp only [statusStage, Option.bind_eq_some_iff] at h
  obtain ⟨code, rfl, h⟩ := h
  split at h
  · rw [← Option.some.inj h]
    rfl
  · split at h
    · rw [← Option.some.inj h]
      rfl
    · exact absurd h (by simp)

private theorem statusCode_tokenStage (h : tokenStage lower statusCode = some r) :
    r.statusCode = statusCode := by
  obtain ⟨best, -, rfl⟩ := Option.map_eq_some_iff.mp h
  rfl

private theorem statusCode_sizeStage (h : sizeStage html statusCode = some r) :
    r.statusCode = statusCode := by
  unfold sizeStage at h
  split at h
  · rw [← Option.some.inj h]
    rfl
  · exact absurd h (by simp)

/-- The status code of a report is the one the page came with. -/
@[simp] theorem statusCode_diagnose (html : Str) (statusCode : Option Nat)
    (headers : Option (List (Str × Str))) :
    (diagnose html statusCode headers).statusCode = statusCode := by
  simp only [diagnose]
  cases hh : headerStage (toAsciiLowercase html) statusCode headers with
  | some r => exact statusCode_headerStage hh
  | none =>
    cases hs : statusStage statusCode with
    | some r => exact statusCode_statusStage hs
    | none =>
      cases ht : tokenStage (toAsciiLowercase html) statusCode with
      | some r => exact statusCode_tokenStage ht
      | none =>
        cases hz : sizeStage html statusCode with
        | some r => exact statusCode_sizeStage hz
        | none => rfl

end Reports

end CrwShield.Antibot
