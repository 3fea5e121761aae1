import CrwShield.Antibot.StealthHeaders
import CrwShield.Fetch.Http

/-!
# One field for each header

Crate `fetch`, `src/crates/fetch/src/http.rs:184–261`. The fields of a request come from the stealth
map, whose names are compared as spelled, and from two fields appended to it, the cookies and the
mobile hint. A header is ambiguous when two of these name it.
-/

open CrwShield.Base CrwShield.Base.Str CrwShield.Antibot CrwShield.Antibot.StealthHeaders
open CrwShield.Core

namespace CrwShield.Fetch

universe u

/-- The client of a fetcher that picks browser profiles; `http.rs:184–224,237–245`. -/
def profileClient {ω : Type u} {U : UrlCrate} (pickProfile : ω → BrowserProfile)
    (send : U.Url → List (Str × Str) → ω → Except Str (WireResponse U) × ω) : HttpClient ω U where
  stealthHeaders stealth request url w :=
    (headersFor (pickProfile w) U url stealth (AssocMap.ofList request.headers)).entries
  secChUaMobile w := (pickProfile w).secChUaMobile
  send := send

/-- The values sent for a header. -/
def valuesOf (fields : List (Str × Str)) (name : Str) : List Str :=
  (fields.filter fun f ↦ SameName f.1 name).map Prod.snd

/-- Every header has one field at most, and the value of the user where the user gave one. -/
structure Unambiguous (user : StealthHeaders) (fields : List (Str × Str)) : Prop where
  nodup : (fields.map fun f ↦ toAsciiLowercase f.1).Nodup
  users : ∀ f ∈ user.entries, valuesOf fields f.1 = [f.2]

/-- A header with one field has the value of that field. -/
theorem valuesOf_eq {fields : List (Str × Str)} {f : Str × Str}
    (hnodup : (fields.map fun f ↦ toAsciiLowercase f.1).Nodup) (hf : f ∈ fields) :
    valuesOf fields f.1 = [f.2] := by
  have honly : ∀ g ∈ fields, SameName g.1 f.1 → g = f :=
    fun g hg hsame ↦ List.inj_on_of_nodup_map hnodup hg hf hsame
  have hfilter : fields.filter (fun g ↦ SameName g.1 f.1) = fields.filter (· = f) := by
    apply List.filter_congr
    intro g hg
    rw [decide_eq_decide]
    exact ⟨honly g hg, fun h ↦ h ▸ rfl⟩
  have hcount : fields.count f = 1 := List.count_eq_one_of_mem (List.Nodup.of_map _ hnodup) hf
  rw [valuesOf, hfilter, List.filter_eq, hcount]
  rfl

/-- The fields appended to the stealth map: cookies and mobile hint; `http.rs:226–261`. -/
def appendedFields (cookie : Str) (mobile : Bool) (secChUaMobile : Str) : List (Str × Str) :=
  (if cookie.isEmpty then [] else [(("Cookie" : Str), cookie)]) ++
    if mobile then
      [(("Sec-CH-UA-Mobile" : Str), if secChUaMobile.isEmpty then ("?0" : Str) else secChUaMobile)]
    else []

theorem nodup_appendedFields (cookie : Str) (mobile : Bool) (secChUaMobile : Str) :
    ((appendedFields cookie mobile secChUaMobile).map fun f ↦ toAsciiLowercase f.1).Nodup := by
  unfold appendedFields
  split <;> cases mobile
  case isFalse.true =>
    have hne : toAsciiLowercase "Cookie" ∉ [toAsciiLowercase "Sec-CH-UA-Mobile"] := by decide
    exact List.nodup_cons.mpr ⟨hne, List.nodup_singleton _⟩
  all_goals simp

/-- A name is apart from the appended fields exactly when it is neither of theirs. -/
theorem apart_appendedFields_iff {cookie : Str} {mobile : Bool} {secChUaMobile name : Str} :
    (∀ f ∈ appendedFields cookie mobile secChUaMobile, ¬ SameName name f.1) ↔
      (cookie ≠ [] → ¬ SameName name "Cookie") ∧
        (mobile = true → ¬ SameName name "Sec-CH-UA-Mobile") := by
  have hcookie : cookie.isEmpty = true ↔ cookie = [] := List.isEmpty_iff
  unfold appendedFields
  split <;> cases mobile <;> simp_all

namespace HttpFetcher

variable {ω : Type u} {U : UrlCrate} (pickProfile : ω → BrowserProfile)
  (send : U.Url → List (Str × Str) → ω → Except Str (WireResponse U) × ω) (now : ω → Option Nat)
  (fetcher : HttpFetcher) (request : ScrapeRequest) (url : U.Url) (env : Env ω)

/-- The sources of the fields of a request name different headers, or spell a name alike where the
map replaces the default by the user's field. -/
structure SourcesApart : Prop where
  users : ∀ a ∈ (AssocMap.ofList request.headers).keys,
    ∀ b ∈ (AssocMap.ofList request.headers).keys, SameName a b → a = b
  defaults : ∀ a ∈ (AssocMap.ofList request.headers).keys,
    ∀ b ∈ defaultNames fetcher.stealthEnabled (pickProfile env.world), SameName a b → a = b
  cookie : fetcher.cookieHeader (U := U) now request.url env ≠ [] →
    ∀ a ∈ (AssocMap.ofList request.headers).keys, ¬ SameName a "Cookie"
  mobile : request.mobile = true →
    (∀ a ∈ (AssocMap.ofList request.headers).keys, ¬ SameName a "Sec-CH-UA-Mobile") ∧
      (fetcher.stealthEnabled = true → (pickProfile env.world).secChUa = [])

theorem requestHeaders_profileClient :
    fetcher.requestHeaders (profileClient pickProfile send) now request url env =
      (headersFor (pickProfile env.world) U url fetcher.stealthEnabled
        (AssocMap.ofList request.headers)).entries ++
      appendedFields (fetcher.cookieHeader (U := U) now request.url env) request.mobile
        (pickProfile env.world).secChUaMobile :=
  List.append_assoc ..

/-- The stealth map is apart from the appended fields when the user's names and the defaults are. -/
theorem disjoint_appendedFields_iff {profile : BrowserProfile} {stealth mobile : Bool}
    {extra : StealthHeaders} {cookie secChUaMobile : Str} :
    (∀ name ∈ (headersFor profile U url stealth extra).keys,
        ∀ f ∈ appendedFields cookie mobile secChUaMobile, ¬ SameName name f.1) ↔
      (cookie ≠ [] → ∀ a ∈ extra.keys, ¬ SameName a "Cookie") ∧
        (mobile = true → (∀ a ∈ extra.keys, ¬ SameName a "Sec-CH-UA-Mobile") ∧
          (stealth = true → profile.secChUa = [])) := by
  simp only [apart_appendedFields_iff, mem_keys_headersFor, ← defaultNames_ne_mobile_iff]
  constructor
  · intro h
    refine ⟨fun hcookie a ha ↦ (h a (.inl ha)).1 hcookie, fun hmobile ↦ ⟨?_, ?_⟩⟩
    · exact fun a ha ↦ (h a (.inl ha)).2 hmobile
    · exact fun name hname ↦ (h name (.inr hname)).2 hmobile
  · rintro ⟨hcookie, hmobile⟩ name (hname | hname)
    · exact ⟨fun h ↦ hcookie h name hname, fun h ↦ (hmobile h).1 name hname⟩
    · exact ⟨fun _ ↦ defaultNames_ne_cookie profile stealth name hname,
        fun h ↦ (hmobile h).2 name hname⟩

/-- Exactly when the sources are apart no header has two fields. -/
theorem nodup_requestHeaders_iff :
    ((fetcher.requestHeaders (profileClient pickProfile send) now request url env).map
        fun f ↦ toAsciiLowercase f.1).Nodup ↔
      fetcher.SourcesApart (U := U) pickProfile now request env := by
  rw [requestHeaders_profileClient]
  set cookie := fetcher.cookieHeader (U := U) now request.url env
  set extra : StealthHeaders := AssocMap.ofList request.headers
  set headers := headersFor (pickProfile env.world) U url fetcher.stealthEnabled extra
  set appended := appendedFields cookie request.mobile (pickProfile env.world).secChUaMobile
  have hnodup : ((headers.entries ++ appended).map fun f ↦ toAsciiLowercase f.1).Nodup ↔
      (headers.entries.map fun f ↦ toAsciiLowercase f.1).Nodup ∧
        ∀ name ∈ headers.keys, ∀ f ∈ appended, ¬ SameName name f.1 := by
    rw [List.map_append, List.nodup_append]
    simp only [nodup_appendedFields, true_and, List.forall_mem_map, AssocMap.keys, appended,
      SameName, ne_eq]
  rw [hnodup, nodup_headersFor_iff, disjoint_appendedFields_iff]
  constructor
  · rintro ⟨⟨husers, hdefaults⟩, hcookie, hmobile⟩
    exact ⟨husers, hdefaults, hcookie, hmobile⟩
  · intro h
    exact ⟨⟨h.users, h.defaults⟩, h.cookie, h.mobile⟩

/-- The fields of a request are unambiguous exactly when their sources are apart: the user's fields
are among them, so their values are sent unless another field names the header. -/
theorem unambiguous_requestHeaders_iff :
    Unambiguous (AssocMap.ofList request.headers)
        (fetcher.requestHeaders (profileClient pickProfile send) now request url env) ↔
      fetcher.SourcesApart (U := U) pickProfile now request env := by
  rw [← nodup_requestHeaders_iff pickProfile send now fetcher request url env]
  refine ⟨Unambiguous.nodup, fun hnodup ↦ ⟨hnodup, fun f hf ↦ valuesOf_eq hnodup ?_⟩⟩
  rw [requestHeaders_profileClient]
  exact List.mem_append_left _ (mem_headersFor (pickProfile env.world) U url hf)

/-- A user agent spelled in lowercase is sent beside that of the profile. -/
theorem not_unambiguous_userAgent :
    ¬ Unambiguous (AssocMap.ofList [("user-agent", "mine")])
      ((⟨0, true⟩ : HttpFetcher).requestHeaders
        (profileClient (U := UrlCrate.plain) (fun _ : Unit ↦ BrowserProfile.chromeWindows)
          fun _ _ w ↦ (.error "offline", w))
        (fun _ ↦ none)
        { ScrapeRequest.defaultForUrl "https://example.com/" with
          headers := [("user-agent", "mine")] }
        ⟨"https://example.com/", by decide⟩ ⟨fun _ ↦ CookieJar.new, ()⟩) := by
  intro h
  have hapart := (nodup_requestHeaders_iff _ _ _ _ _ _ _).mp h.nodup
  exact absurd (hapart.defaults "user-agent" (by decide) "User-Agent" (by decide) (by decide))
    (by decide)

end HttpFetcher
end CrwShield.Fetch
