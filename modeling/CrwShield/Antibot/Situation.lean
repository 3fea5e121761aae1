import CrwShield.Base.Str

/-!
# Situations

Crate `antibot`, `src/crates/antibot/src/situation.rs`: the kinds of outcome a page can be
classified into, the ladder step suggested for each, and the report that carries the evidence.
-/

open CrwShield.Base

namespace CrwShield.Antibot

/-- Category of a detected situation; `situation.rs:23–84`. -/
inductive SituationKind where
  | cleanSuccess
  | jsOnly
  | cloudflareIuam
  | cloudflareTurnstile
  | dataDomeCaptcha
  | akamaiBotManager
  | impervaIncapsula
  | fastlyEdgeChallenge
  | perimeterX
  | recaptcha
  | hcaptcha
  | awsWaf
  | shapeSecurity
  | kasada
  | friendlyCaptcha
  | geeTest
  | funcaptcha
  | yandexSmartCaptcha
  | distil
  | reblaze
  | genericFingerprint
  | genericAccessDenied
  | genericVerify
  | genericCdnBlock
  | rateLimited
  | geoBlocked
  | loginWall
  | softNotFound
  | serverError
  | unknown
  deriving DecidableEq

/-- What the ladder should do next; `situation.rs:200–210`. -/
inductive SuggestedLadder where
  | none
  | cdp
  | flareSolverr
  | retryWithDelay
  deriving DecidableEq

/-- Short identifier used in output and logs; `situation.rs:88–121`. -/
def SituationKind.asStr : SituationKind → Str
  | .cleanSuccess => "clean_success"
  | .jsOnly => "js_only"
  | .cloudflareIuam => "cloudflare_iuam"
  | .cloudflareTurnstile => "cloudflare_turnstile"
  | .dataDomeCaptcha => "datadome_captcha"
  | .akamaiBotManager => "akamai_bot_manager"
  | .impervaIncapsula => "imperva_incapsula"
  | .fastlyEdgeChallenge => "fastly_edge_challenge"
  | .perimeterX => "perimeterx"
  | .recaptcha => "recaptcha"
  | .hcaptcha => "hcaptcha"
  | .awsWaf => "aws_waf"
  | .shapeSecurity => "shape_security"
  | .kasada => "kasada"
  | .friendlyCaptcha => "friendly_captcha"
  | .geeTest => "geetest"
  | .funcaptcha => "funcaptcha"
  | .yandexSmartCaptcha => "yandex_smartcaptcha"
  | .distil => "distil"
  | .reblaze => "reblaze"
  | .genericFingerprint => "generic_fingerprint"
  | .genericAccessDenied => "generic_access_denied"
  | .genericVerify => "generic_verify"
  | .genericCdnBlock => "generic_cdn_block"
  | .rateLimited => "rate_limited"
  | .geoBlocked => "geo_blocked"
  | .loginWall => "login_wall"
  | .softNotFound => "soft_not_found"
  | .serverError => "server_error"
  | .unknown => "unknown"

/-- The kinds that are a challenge, a captcha or a firewall; `situation.rs:125–151`. -/
def SituationKind.isAntiBot : SituationKind → Bool
  | .cloudflareIuam | .cloudflareTurnstile | .dataDomeCaptcha | .akamaiBotManager
  | .impervaIncapsula | .fastlyEdgeChallenge | .perimeterX | .recaptcha | .hcaptcha | .awsWaf
  | .shapeSecurity | .kasada | .friendlyCaptcha | .geeTest | .funcaptcha | .yandexSmartCaptcha
  | .distil | .reblaze | .genericFingerprint | .genericAccessDenied | .genericVerify
  | .genericCdnBlock => true
  | _ => false

/-- Smart default for the next step; `situation.rs:156–189`. -/
def SituationKind.suggestedLadder : SituationKind → SuggestedLadder
  | .cleanSuccess | .geoBlocked | .softNotFound => .none
  | .dataDomeCaptcha | .perimeterX | .kasada | .funcaptcha => .flareSolverr
  | .rateLimited | .serverError => .retryWithDelay
  | _ => .cdp

/-- What a piece of evidence was matched against; `situation.rs:288–295`. -/
inductive EvidenceKind where
  | token
  | statusCode
  | header
  deriving DecidableEq

/-- One piece of evidence for a provider; `situation.rs:278–285`. -/
structure Evidence where
  kind : EvidenceKind
  value : Str
  provider : Str
  deriving DecidableEq

/-- The diagnosis and the evidence that supports it; `situation.rs:231–244`. -/
structure SituationReport where
  kind : SituationKind
  suggestedLadder : SuggestedLadder
  statusCode : Option Nat
  evidence : List Evidence
  notes : Option Str
  deriving DecidableEq

namespace SituationReport

/-- A `CleanSuccess` report; `situation.rs:248–256`. -/
def clean : SituationReport := ⟨.cleanSuccess, .none, none, [], none⟩

/-- Whether to leave the HTTP step for a more expensive one; `situation.rs:260–262`. -/
def shouldEscalate (report : SituationReport) : Bool := report.suggestedLadder ≠ .none

/-- Whether the report is a real block; `situation.rs:265–267`. -/
def isAntiBot (report : SituationReport) : Bool := report.kind.isAntiBot

end SituationReport

/-- A report with optional notes; `situation.rs:557–571`. -/
def buildReport (kind : SituationKind) (suggested : SuggestedLadder) (statusCode : Option Nat)
    (evidence : List Evidence) (notes : Option Str) : SituationReport :=
  ⟨kind, suggested, statusCode, evidence, notes⟩

/-- One row of the provider catalogue; `situation.rs:581–587`. -/
structure ProviderEntry where
  name : Str
  kind : SituationKind
  suggestedLadder : SuggestedLadder
  tokensLower : List Str
  notes : Str

end CrwShield.Antibot
