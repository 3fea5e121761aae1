import CrwShield.Base.AssocMap
import CrwShield.Base.UrlCrate

/-!
# Stealth headers

Crate `antibot`, `src/crates/antibot/src/http_stealth.rs:40–60,273–354`. The header map of a
request: the defaults of a browser profile, overlaid with the headers of the user. The iteration
order of the map is left open by the source; the model takes the order of insertion.
-/

open CrwShield.Base CrwShield.Base.Str

namespace CrwShield.Antibot

/-- What the headers take from a browser profile; `http_stealth.rs:40–50`. -/
structure BrowserProfile where
  userAgent : Str
  secChUa : Str
  secChUaPlatform : Str
  secChUaMobile : Str

/-- The first of `BROWSER_PROFILES`; `http_stealth.rs:53–61`. -/
def BrowserProfile.chromeWindows : BrowserProfile where
  userAgent := "Mozilla/5.0 (Windows NT 10.0; Win64; x64) AppleWebKit/537.36 (KHTML, like Gecko) Chrome/131.0.0.0 Safari/537.36"
  secChUa := "\"Chromium\";v=\"131\", \"Not_A Brand\";v=\"24\", \"Google Chrome\";v=\"131\""
  secChUaPlatform := "\"Windows\""
  secChUaMobile := "?0"

/-- Header fields by their names as spelled; `http_stealth.rs:273–278`. -/
abbrev StealthHeaders : Type := AssocMap Str Str

namespace StealthHeaders

/-- Two names of one header: names are compared without regard to ASCII case. -/
def SameName (a b : Str) : Prop := toAsciiLowercase a = toAsciiLowercase b

instance (a b : Str) : Decidable (SameName a b) :=
  inferInstanceAs (Decidable (toAsciiLowercase a = toAsciiLowercase b))

/-- The headers of a client without stealth; `http_stealth.rs:281–290`. -/
def minimal (profile : BrowserProfile) (extra : StealthHeaders) : StealthHeaders :=
  (AssocMap.ofList [(("User-Agent" : Str), profile.userAgent)]).extend extra.entries

/-- `http_stealth.rs:302–315`. -/
def acceptLanguage (U : UrlCrate) (url : U.Url) : Str :=
  let isEnglish := ((U.hostStr url).map fun h ↦
    endsWith ".com" h || endsWith ".org" h || endsWith ".net" h || endsWith ".io" h).getD true
  if isEnglish then "en-US,en;q=0.9" else "en-US,en;q=0.9,fr;q=0.8"

/-- The client hints of a profile that has them; `http_stealth.rs:330–340`. -/
def clientHints (profile : BrowserProfile) : List (Str × Str) :=
  if profile.secChUa.isEmpty then []
  else [(("Sec-CH-UA" : Str), profile.secChUa), ("Sec-CH-UA-Platform", profile.secChUaPlatform),
    ("Sec-CH-UA-Mobile", profile.secChUaMobile)]

/-- The fields that `build` inserts, in order; `http_stealth.rs:295–340`. -/
def defaults (profile : BrowserProfile) (U : UrlCrate) (url : U.Url) : List (Str × Str) :=
  [(("User-Agent" : Str), profile.userAgent),
    ("Accept",
      "text/html,application/xhtml+xml,application/xml;q=0.9,image/avif,image/webp,*/*;q=0.8"),
    ("Accept-Language", acceptLanguage U url),
    ("Accept-Encoding", "gzip, deflate, br"),
    ("DNT", "1"),
    ("Connection", "keep-alive"),
    ("Upgrade-Insecure-Requests", "1"),
    ("Sec-Fetch-Dest", "document"),
    ("Sec-Fetch-Mode", "navigate"),
    ("Sec-Fetch-Site", "none"),
    ("Sec-Fetch-User", "?1"),
    ("Cache-Control", "max-age=0")] ++ clientHints profile

/-- The headers of a client with stealth; `http_stealth.rs:292–347`. -/
def build (profile : BrowserProfile) (U : UrlCrate) (url : U.Url) (extra : StealthHeaders) :
    StealthHeaders :=
  (AssocMap.ofList (defaults profile U url)).extend extra.entries

/-- Names that a client sets by itself, with stealth or without. -/
def defaultNames (stealth : Bool) (profile : BrowserProfile) : List Str :=
  if stealth then
    ["User-Agent", "Accept", "Accept-Language", "Accept-Encoding", "DNT", "Connection",
      "Upgrade-Insecure-Requests", "Sec-Fetch-Dest", "Sec-Fetch-Mode", "Sec-Fetch-Site",
      "Sec-Fetch-User", "Cache-Control"] ++
      if profile.secChUa.isEmpty then []
      else ["Sec-CH-UA", "Sec-CH-UA-Platform", "Sec-CH-UA-Mobile"]
  else ["User-Agent"]

variable (profile : BrowserProfile) (U : UrlCrate) (url : U.Url)

theorem map_fst_defaults :
    (defaults profile U url).map Prod.fst = defaultNames true profile := by
  unfold defaults clientHints defaultNames
  split <;> simp

/-- No two names of the defaults are names of one header. -/
theorem nodup_defaultNames (stealth : Bool) :
    ((defaultNames stealth profile).map toAsciiLowercase).Nodup := by
  unfold defaultNames
  split
  · split <;> decide
  · decide

/-- No default is a cookie. -/
theorem defaultNames_ne_cookie (stealth : Bool) :
    ∀ name ∈ defaultNames stealth profile, ¬ SameName name "Cookie" := by
  unfold defaultNames
  split
  · split <;> decide
  · decide

/-- The mobile hint is a default of stealth clients whose profile has client hints. -/
theorem defaultNames_ne_mobile_iff (stealth : Bool) :
    (∀ name ∈ defaultNames stealth profile, ¬ SameName name "Sec-CH-UA-Mobile") ↔
      (stealth = true → profile.secChUa = []) := by
  rw [← List.isEmpty_iff]
  cases stealth with
  | false => exact iff_of_true (by rw [defaultNames, if_neg Bool.false_ne_true]; decide) (by simp)
  | true =>
    cases hhints : profile.secChUa.isEmpty with
    | true => exact iff_of_true (by rw [defaultNames, hhints]; decide) (by simp)
    | false => exact iff_of_false (by rw [defaultNames, hhints]; decide) (by simp)

/-- The fields of a request: stealth or minimal; `http.rs:220–224`. -/
def headersFor (stealth : Bool) (extra : StealthHeaders) : StealthHeaders :=
  if stealth then build profile U url extra else minimal profile extra

/-- The user's fields are all set. -/
theorem mem_headersFor {stealth : Bool} {extra : StealthHeaders} {field : Str × Str}
    (h : field ∈ extra.entries) : field ∈ (headersFor profile U url stealth extra).entries := by
  unfold headersFor build minimal
  split <;> exact (AssocMap.mem_extend extra.nodup_keys _).mpr (.inl h)

/-- The names set are the user's and those of the defaults. -/
theorem mem_keys_headersFor {stealth : Bool} {extra : StealthHeaders} {name : Str} :
    name ∈ (headersFor profile U url stealth extra).keys ↔
      name ∈ extra.keys ∨ name ∈ defaultNames stealth profile := by
  have hdefaults : ((defaults profile U url).map Prod.fst).Nodup := by
    rw [map_fst_defaults]
    exact List.Nodup.of_map _ (nodup_defaultNames profile true)
  cases stealth with
  | true =>
    rw [headersFor, if_pos rfl, build, AssocMap.mem_keys_extend extra.nodup_keys,
      AssocMap.mem_keys_ofList hdefaults, map_fst_defaults]
    rfl
  | false =>
    have hagent : ([(("User-Agent" : Str), profile.userAgent)].map Prod.fst).Nodup :=
      List.nodup_singleton _
    rw [headersFor, if_neg Bool.false_ne_true, minimal,
      AssocMap.mem_keys_extend extra.nodup_keys, AssocMap.mem_keys_ofList hagent]
    rfl

/-- No header has two spellings in the map exactly when the user's names are spelled one way, and
as the defaults spell them. -/
theorem nodup_headersFor_iff {stealth : Bool} {extra : StealthHeaders} :
    ((headersFor profile U url stealth extra).entries.map fun f ↦ toAsciiLowercase f.1).Nodup ↔
      (∀ a ∈ extra.keys, ∀ b ∈ extra.keys, SameName a b → a = b) ∧
        ∀ a ∈ extra.keys, ∀ b ∈ defaultNames stealth profile, SameName a b → a = b := by
  rw [AssocMap.nodup_map_keys_iff]
  simp only [mem_keys_headersFor]
  constructor
  · intro h
    exact ⟨fun a ha b hb ↦ h a (.inl ha) b (.inl hb), fun a ha b hb ↦ h a (.inl ha) b (.inr hb)⟩
  · rintro ⟨husers, hdefaults⟩ a (ha | ha) b (hb | hb) hsame
    · exact husers a ha b hb hsame
    · exact hdefaults a ha b hb hsame
    · exact (hdefaults b hb a ha hsame.symm).symm
    · exact List.inj_on_of_nodup_map (nodup_defaultNames profile stealth) ha hb hsame

end StealthHeaders
end CrwShield.Antibot
