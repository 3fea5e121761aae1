import CrwShield.Base.Str
import Std.Data.ExtTreeMap.Lemmas

/-!
# Block detection

Crate `antibot`, `src/crates/antibot/src/block_detection.rs`: weighted phrases scored against the
title and the body of a page, and the per-host rotation counters. Weights and confidences are
hundredths; on these values the comparisons of the source's `f32` agree with those of the
decimals.
-/

open CrwShield.Base CrwShield.Base.Str

namespace CrwShield.Antibot

/-- A panic that unwinds the request. -/
inductive Panic where
  /-- A slice of a `str` at a byte offset inside a character. -/
  | charBoundary (offset : Nat)
  deriving DecidableEq

/-- Score from which a response is a block; `block_detection.rs:27`. -/
def blockThreshold : Nat := 70

/-- Size under which a page without markup is suspicious; `block_detection.rs:33`. -/
def emptyThresholdBytes : Nat := 600

/-- Occurrences of a sign-in phrase that make a login wall; `block_detection.rs:40`. -/
def loginWallSignInThreshold : Nat := 3

/-- The system that served a block; `block_detection.rs:44–62`. -/
inductive BlockKind where
  | cloudflare
  | perimeterX
  | datadome
  | awsWaf
  | genericCaptcha
  | empty
  | loginWall
  deriving DecidableEq

/-- Detection result; `block_detection.rs:66–74`. -/
structure BlockSignal where
  kind : BlockKind
  confidence : Nat
  matched : Str
  deriving DecidableEq

/-- A weighted phrase; `block_detection.rs:78–85`. -/
structure Pattern where
  kind : BlockKind
  titleWeight : Nat
  bodyWeight : Nat
  phrase : Str

/-- The pattern table; `block_detection.rs:87–231`. -/
def patterns : List Pattern :=
  [⟨.cloudflare, 90, 30, "Just a moment"⟩,
   ⟨.cloudflare, 60, 40, "cf-ray"⟩,
   ⟨.cloudflare, 60, 40, "cf-browser-verification"⟩,
   ⟨.perimeterX, 95, 30, "Access to this page has been denied"⟩,
   ⟨.perimeterX, 70, 50, "Press & Hold"⟩,
   ⟨.perimeterX, 70, 50, "Press and Hold"⟩,
   ⟨.perimeterX, 60, 40, "_pxAppId"⟩,
   ⟨.datadome, 0, 70, "datadome"⟩,
   ⟨.datadome, 0, 50, "dd.leboncoin.fr"⟩,
   ⟨.awsWaf, 0, 90, "awswaf-token"⟩,
   ⟨.awsWaf, 0, 70, "/_sec/verify"⟩,
   ⟨.awsWaf, 60, 30, "AWS WAF"⟩,
   ⟨.genericCaptcha, 70, 30, "Robot Check"⟩,
   ⟨.genericCaptcha, 60, 40, "verify you are human"⟩,
   ⟨.genericCaptcha, 50, 50, "captcha"⟩,
   ⟨.genericCaptcha, 50, 50, "I am human"⟩,
   ⟨.loginWall, 70, 50, "Sign in or Sign up"⟩,
   ⟨.loginWall, 60, 50, "Log in to continue"⟩,
   ⟨.loginWall, 60, 40, "Continue with Google"⟩,
   ⟨.loginWall, 0, 70, "authwall"⟩,
   ⟨.loginWall, 50, 50, "Sign in to your account"⟩,
   ⟨.loginWall, 50, 50, "Log in or Sign up"⟩]

/-- Score of one pattern and the place it matched: the title counts before the body;
`block_detection.rs:246–256`. -/
def Pattern.score (p : Pattern) (titleLc htmlLc : Str) : Nat × Str :=
  let phraseLc := toLowercase p.phrase
  if contains phraseLc titleLc then
    (p.titleWeight, ("title contains \"" : Str) ++ p.phrase ++ "\"")
  else if contains phraseLc htmlLc then
    (p.bodyWeight, ("body contains \"" : Str) ++ p.phrase ++ "\"")
  else (0, [])

/-- Keep the first signal of the highest confidence; `block_detection.rs:258–268`. -/
def keepSignal (titleLc htmlLc : Str) (best : Option BlockSignal) (p : Pattern) :
    Option BlockSignal :=
  let scored := p.score titleLc htmlLc
  if blockThreshold ≤ scored.1 then
    match best with
    | some b => if scored.1 ≤ b.confidence then best else some ⟨p.kind, scored.1, scored.2⟩
    | none => some ⟨p.kind, scored.1, scored.2⟩
  else best

/-- The characters whose encodings fill exactly the first `offset` bytes, if there are such. -/
def takeBytes (offset : Nat) : Str → Option Str
  | [] => if offset = 0 then some [] else none
  | c :: cs =>
    if offset = 0 then some []
    else if c.utf8Size ≤ offset then (takeBytes (offset - c.utf8Size) cs).map (c :: ·)
    else none

/-- Markup within the first 512 bytes; the slice panics inside a character;
`block_detection.rs:323–327`. -/
def looksLikeHtml (html : Str) : Except Panic Bool :=
  let offset := min (len html) 512
  match takeBytes offset html with
  | none => .error (.charBoundary offset)
  | some head =>
    let headLc := toLowercase head
    .ok (contains "<!doctype" headLc || contains "<html" headLc)

/-- Signal for a tiny page without markup; `block_detection.rs:271–289`. -/
def emptySignal (html : Str) (best : Option BlockSignal) : Except Panic (Option BlockSignal) :=
  if best.isNone && len html < emptyThresholdBytes then
    match looksLikeHtml html with
    | .error e => .error e
    | .ok true => .ok best
    | .ok false =>
      .ok (some ⟨.empty, 50, ("page is " : Str) ++ ofNat (len html) ++ " bytes (threshold " ++
        ofNat emptyThresholdBytes ++ ")"⟩)
  else .ok best

/-- Signal for a page that repeats sign-in phrases; `block_detection.rs:291–313`. -/
def loginWallSignal (htmlLc : Str) (best : Option BlockSignal) : Option BlockSignal :=
  if best.all fun b ↦ b.kind ≠ .loginWall then
    let signInCount := matchesCount "sign in" htmlLc + matchesCount "log in" htmlLc
    if loginWallSignInThreshold ≤ signInCount then
      some ⟨.loginWall, 60, ("found " : Str) ++ ofNat signInCount ++
        " occurrences of 'sign in' / 'log in' (threshold " ++ ofNat loginWallSignInThreshold ++
        ")"⟩
    else best
  else best

/-- Run the block-detection pass; `block_detection.rs:239–316`. -/
def detect (html title : Str) : Except Panic (Option BlockSignal) :=
  let titleLc := toLowercase title
  let htmlLc := toLowercase html
  (emptySignal html (patterns.foldl (keepSignal titleLc htmlLc) none)).map
    (loginWallSignal htmlLc)

/-- Rotation state of one host; `block_detection.rs:337–346`. -/
structure HostBlockCounter where
  rotations : Nat
  l1Attempted : Bool
  lastRotationUnixMs : Nat
  deriving DecidableEq

/-- A counter as `Default` builds it. -/
def HostBlockCounter.new : HostBlockCounter := ⟨0, false, 0⟩

/-- L1 has been tried; `block_detection.rs:360–362`. -/
def HostBlockCounter.markL1Attempted (c : HostBlockCounter) : HostBlockCounter :=
  { c with l1Attempted := true }

/-- Count a rotation in 64 bits and stamp it; `block_detection.rs:366–375`. -/
def HostBlockCounter.recordRotation (c : HostBlockCounter) (nowUnixMs : Nat) :
    HostBlockCounter :=
  { c with rotations := (c.rotations + 1) % 2 ^ 64, lastRotationUnixMs := nowUnixMs }

/-- Counters of the process by host; `block_detection.rs:392`. -/
abbrev HostCounters := Std.ExtTreeMap Str HostBlockCounter

/-- The counter of a host, new when there is none yet; `block_detection.rs:395–400`. -/
def counterFor (host : Str) (counters : HostCounters) : HostBlockCounter :=
  counters.getD host .new

/-- Change the counter of a host through its shared handle. -/
def updateCounter (host : Str) (f : HostBlockCounter → HostBlockCounter)
    (counters : HostCounters) : HostCounters :=
  counters.insert host (f (counterFor host counters))

/-- A change to one host's counter shows at that host only. -/
theorem counterFor_updateCounter (host h : Str) (f : HostBlockCounter → HostBlockCounter)
    (counters : HostCounters) :
    counterFor h (updateCounter host f counters) =
      if host = h then f (counterFor host counters) else counterFor h counters := by
  simp only [counterFor, updateCounter, Std.ExtTreeMap.getD_insert, Std.compare_eq_iff_eq]

end CrwShield.Antibot
