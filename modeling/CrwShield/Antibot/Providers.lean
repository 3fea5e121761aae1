import CrwShield.Antibot.Situation

/-!
# The provider catalogue

Crate `antibot`, `src/crates/antibot/src/providers.toml`, as `parse_providers` reads it
(`situation.rs:611–663`): each table is one row with its kind, ladder step, lowercased tokens and
notes, and the rows stand in the key order of the parsed table.
-/

open CrwShield.Base

namespace CrwShield.Antibot.providers

/-- `[providers.akamai_bot_manager]`. -/
def akamaiBotManager : ProviderEntry where
  name := "akamai_bot_manager"
  kind := .akamaiBotManager
  suggestedLadder := .cdp
  tokensLower :=
    ["akamai-bm", "bm-verify", "akamai/abot", "pm_akamai", "ghostbox-akamai", "akamai-bm-sc",
     "akamai challenge"]
  notes :=
    ("Heavy fingerprinting + sensor data. TLS fingerprint and CDP stealth required; " : Str) ++
      "FlareSolverr often falls back."

/-- `[providers.aws_waf]`. -/
def awsWaf : ProviderEntry where
  name := "aws_waf"
  kind := .awsWaf
  suggestedLadder := .cdp
  tokensLower :=
    ["aws-waf", "aws waf", "x-amz-waf", "awselb", "request rejected", "this request was blocked"]
  notes := "AWS WAF. CDP solves; FlareSolverr works on most sites."

/-- `[providers.cloudflare_iuam]`. -/
def cloudflareIuam : ProviderEntry where
  name := "cloudflare_iuam"
  kind := .cloudflareIuam
  suggestedLadder := .cdp
  tokensLower :=
    ["challenges.cloudflare.com", "cf-chl-bypass", "__cf_chl_jschl_tk__", "cf-mitigated", "ray id",
     "cf_chl_prog", "__cf_chl_jschl_tk__", "/cdn-cgi/challenge-platform/", "cloudflare-static",
     "cf_chl_seq", "turnstile-v0"]
  notes :=
    ("JS challenge with browser-side jschl token. CDP almost always solves; FlareSolverr " : Str) ++
      "as fallback."

/-- `[providers.cloudflare_turnstile]`. -/
def cloudflareTurnstile : ProviderEntry where
  name := "cloudflare_turnstile"
  kind := .cloudflareTurnstile
  suggestedLadder := .cdp
  tokensLower :=
    ["challenges.cloudflare.com/turnstile", "cf-turnstile", "cf-turnstile-script",
     "turnstile.render"]
  notes :=
    ("Invisible captcha. CDP with stealth solves; FlareSolverr solves; manual " : Str) ++
      "reCAPTCHA fallback."

/-- `[providers.datadome_captcha]`. -/
def datadomeCaptcha : ProviderEntry where
  name := "datadome_captcha"
  kind := .dataDomeCaptcha
  suggestedLadder := .flareSolverr
  tokensLower :=
    ["datadome.co", "dd-captcha", "ddc-captcha", "geo.captcha-delivery", "captcha-delivery.com",
     "datadome-captcha", "interstitial-captcha", "datadome-protected"]
  notes :=
    ("Heavy JS challenge + device fingerprinting. TLS fingerprint is critical. " : Str) ++
      "FlareSolverr beats CDP."

/-- `[providers.distil]`. -/
def distil : ProviderEntry where
  name := "distil"
  kind := .distil
  suggestedLadder := .cdp
  tokensLower :=
    ["distil", "distilnetworks", "distl.cs", "distl-rs"]
  notes := "Bot detection WAF. CDP solves."

/-- `[providers.fastly_edge_challenge]`. -/
def fastlyEdgeChallenge : ProviderEntry where
  name := "fastly_edge_challenge"
  kind := .fastlyEdgeChallenge
  suggestedLadder := .cdp
  tokensLower :=
    ["client challenge", "/_fs-ch-", "loading-error", "a required part of this site couldn",
     "please check your connection, disable any ad blockers",
     "javascript is disabled in your browser", "fastly edge", "fastly compute"]
  notes :=
    ("Fastly Compute@Edge bot management (e.g. LeMonde.fr). The 'Client Challenge' page " : Str) ++
      "is served with HTTP 200; CDP with stealth usually solves after first challenge JS runs."

/-- `[providers.friendly_captcha]`. -/
def friendlyCaptcha : ProviderEntry where
  name := "friendly_captcha"
  kind := .friendlyCaptcha
  suggestedLadder := .cdp
  tokensLower :=
    ["friendlycaptcha", "frc-captcha"]
  notes := "Invisible captcha. CDP solves."

/-- `[providers.funcaptcha]`. -/
def funcaptcha : ProviderEntry where
  name := "funcaptcha"
  kind := .funcaptcha
  suggestedLadder := .cdp
  tokensLower :=
    ["funcaptcha", "arkoselabs", "arkose"]
  notes := "Hard captcha. FlareSolverr required for many sites."

/-- `[providers.geetest]`. -/
def geetest : ProviderEntry where
  name := "geetest"
  kind := .geeTest
  suggestedLadder := .cdp
  tokensLower :=
    ["geetest", "gt.js", "geetest_"]
  notes := "Captcha. CDP solves; FlareSolverr works."

/-- `[providers.generic_access_denied]`. -/
def genericAccessDenied : ProviderEntry where
  name := "generic_access_denied"
  kind := .genericAccessDenied
  suggestedLadder := .cdp
  tokensLower :=
    ["access denied", "access denied (403)", "forbidden", "request forbidden",
     "you don't have permission to access"]
  notes := "Generic 403. Try CDP/FlareSolverr. May be IP-based or geo-based."

/-- `[providers.generic_cdn_block]`. -/
def genericCdnBlock : ProviderEntry where
  name := "generic_cdn_block"
  kind := .genericCdnBlock
  suggestedLadder := .cdp
  tokensLower :=
    ["your request has been blocked", "your request was blocked", "request has been denied",
     "blocked by firewall", "blocked by security", "blocked by cdn", "edge security",
     "edge firewall", "denied by policy"]
  notes := "Generic WAF/CDN block. Try CDP first."

/-- `[providers.generic_fingerprint]`. -/
def genericFingerprint : ProviderEntry where
  name := "generic_fingerprint"
  kind := .genericFingerprint
  suggestedLadder := .cdp
  tokensLower :=
    ["fingerprint", "fpjs", "fp-", "browser-fingerprint", "device-fingerprint"]
  notes := "Generic device fingerprinting. Stealth headers and CDP solve."

/-- `[providers.generic_rate_limit]`. -/
def genericRateLimit : ProviderEntry where
  name := "generic_rate_limit"
  kind := .rateLimited
  suggestedLadder := .retryWithDelay
  tokensLower :=
    ["rate limit", "rate-limit", "too many requests", "slow down", "request throttled"]
  notes := "Back off and retry. Use cookies / different IP / different UA."

/-- `[providers.generic_verify]`. -/
def genericVerify : ProviderEntry where
  name := "generic_verify"
  kind := .genericVerify
  suggestedLadder := .cdp
  tokensLower :=
    ["please verify you are a human", "verifying you are human", "verifying that you are human",
     "performing security verification", "security verification", "attention required",
     "checking your browser before accessing", "ddc-captcha"]
  notes := "Generic human-verification page. CDP solves most."

/-- `[providers.geo_block]`. -/
def geoBlock : ProviderEntry where
  name := "geo_block"
  kind := .geoBlocked
  suggestedLadder := .none
  tokensLower :=
    ["not available in your country", "not available in your region", "geo-blocked",
     "geo restricted", "your region", "country not supported"]
  notes := "Bypass requires proxy/VPN from allowed region. No software ladder step can solve."

/-- `[providers.hcaptcha]`. -/
def hcaptcha : ProviderEntry where
  name := "hcaptcha"
  kind := .hcaptcha
  suggestedLadder := .cdp
  tokensLower :=
    ["hcaptcha.com", "h-captcha", "hcaptcha-iframe", "hcaptcha-challenge"]
  notes := "Captcha. CDP with stealth solves; FlareSolverr works."

/-- `[providers.imperva_incapsula]`. -/
def impervaIncapsula : ProviderEntry where
  name := "imperva_incapsula"
  kind := .impervaIncapsula
  suggestedLadder := .cdp
  tokensLower :=
    ["incapsula", "_incapsula_resource", "imperva", "incap_ses_", "visid_incap_", "reese84",
     "pardon our interruption", "you have been blocked"]
  notes := "WAF. CDP can solve; FlareSolverr works on most sites."

/-- `[providers.js_only]`. -/
def jsOnly : ProviderEntry where
  name := "js_only"
  kind := .jsOnly
  suggestedLadder := .cdp
  tokensLower :=
    ["react-root", "noscript", "enable javascript", "this site requires javascript", "next/static",
     "nuxt/", "__nuxt", "data-reactroot", "ng-version", "app-root"]
  notes := "Client-rendered SPA. HTTP fetcher returns shell; CDP renders real content."

/-- `[providers.kasada]`. -/
def kasada : ProviderEntry where
  name := "kasada"
  kind := .kasada
  suggestedLadder := .flareSolverr
  tokensLower :=
    ["kasada", "kpsdk", "x-kpsdk-*", "kasada-akamai", "itrv3"]
  notes := "Browser-side challenge. FlareSolverr more reliable than CDP for many sites."

/-- `[providers.login_wall]`. -/
def loginWall : ProviderEntry where
  name := "login_wall"
  kind := .loginWall
  suggestedLadder := .cdp
  tokensLower :=
    ["sign in to continue", "log in to continue", "please log in", "login required",
     "create an account to continue", "members only", "subscribe to read", "paywall"]
  notes := "Auth wall. CDP + user-supplied session cookies may help."

/-- `[providers.perimeterx]`. -/
def perimeterx : ProviderEntry where
  name := "perimeterx"
  kind := .perimeterX
  suggestedLadder := .flareSolverr
  tokensLower :=
    ["perimeterx", "px-captcha", "px-app", "px-cdn", "px-client", "_pxappid", "pxcaptcha",
     "humansecurity"]
  notes := "JS challenge + captcha. FlareSolverr more reliable than CDP for many sites."

/-- `[providers.reblaze]`. -/
def reblaze : ProviderEntry where
  name := "reblaze"
  kind := .reblaze
  suggestedLadder := .cdp
  tokensLower :=
    ["reblaze", "rbzid", "rbzuid", "reblaze-"]
  notes := "WAF. CDP solves."

/-- `[providers.recaptcha]`. -/
def recaptcha : ProviderEntry where
  name := "recaptcha"
  kind := .recaptcha
  suggestedLadder := .cdp
  tokensLower :=
    ["recaptcha", "grecaptcha", "google.com/recaptcha", "rc-captcha", "grecaptcha.render"]
  notes := "Google captcha. CDP with stealth solves; FlareSolverr works; manual solve otherwise."

/-- `[providers.server_error]`. -/
def serverError : ProviderEntry where
  name := "server_error"
  kind := .serverError
  suggestedLadder := .retryWithDelay
  tokensLower :=
    ["service unavailable", "temporarily unavailable", "server error", "internal server error",
     "bad gateway", "gateway timeout"]
  notes :=
    ("Server-side issue, not bot detection. Retry with delay; surface as 5xx error " : Str) ++
      "if persistent."

/-- `[providers.shape_security]`. -/
def shapeSecurity : ProviderEntry where
  name := "shape_security"
  kind := .shapeSecurity
  suggestedLadder := .cdp
  tokensLower :=
    ["shape security", "f5-shape", "shape-securit", "shap-sec", "x-shape-id", "request blocked"]
  notes := "Heavy fingerprinting. CDP required; FlareSolverr fallback."

/-- `[providers.soft_404]`. -/
def soft404 : ProviderEntry where
  name := "soft_404"
  kind := .softNotFound
  suggestedLadder := .none
  tokensLower :=
    ["page not found", "sorry, we just need to make sure you're not a robot",
     "no longer available", "this product is unavailable", "amazon page not found",
     "page does not exist", "looks like you've reached a dead end"]
  notes := "Real 404, no bot block. Return as-is; ladder has nothing to do."

/-- `[providers.yandex_smartcaptcha]`. -/
def yandexSmartcaptcha : ProviderEntry where
  name := "yandex_smartcaptcha"
  kind := .yandexSmartCaptcha
  suggestedLadder := .cdp
  tokensLower :=
    ["smartcaptcha", "yandex smartcaptcha", "captcha.yandex"]
  notes := "Russian-origin captcha. CDP solves; FlareSolverr works."

/-- Every row of the catalogue, in key order; `providers::all`. -/
def all : List ProviderEntry :=
  [akamaiBotManager, awsWaf, cloudflareIuam, cloudflareTurnstile, datadomeCaptcha, distil,
   fastlyEdgeChallenge, friendlyCaptcha, funcaptcha, geetest, genericAccessDenied, genericCdnBlock,
   genericFingerprint, genericRateLimit, genericVerify, geoBlock, hcaptcha, impervaIncapsula,
   jsOnly, kasada, loginWall, perimeterx, reblaze, recaptcha, serverError, shapeSecurity, soft404,
   yandexSmartcaptcha]

end CrwShield.Antibot.providers
