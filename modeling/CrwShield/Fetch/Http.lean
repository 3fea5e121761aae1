import CrwShield.Antibot.CookieWrites
import CrwShield.Fetch.Backends

/-!
# The HTTP fetcher

Crate `fetch`, `src/crates/fetch/src/http.rs`. The client that sends a request is a parameter; the
jar supplies the `Cookie` header and takes every `Set-Cookie` header of the response.
-/

open CrwShield.Base CrwShield.Base.Str CrwShield.Antibot CrwShield.Core

namespace CrwShield.Fetch

/-- A response as the client hands it over, after redirects. A header value that is no visible
ASCII text has no text. -/
structure WireResponse (U : UrlCrate) where
  url : U.Url
  status : Nat
  statusText : Str
  headers : List (Str × Option Str)
  body : Except Str Str

namespace WireResponse

variable {U : UrlCrate} (response : WireResponse U)

/-- The `Set-Cookie` values that are text, in order; `http.rs:277–281`. -/
def setCookies : List Str :=
  response.headers.filterMap fun h ↦ if h.1 = ("set-cookie" : Str) then h.2 else none

/-- The headers as a map: a later header of a name replaces an earlier one; `http.rs:269–272`. -/
def headerMap : List (Str × Str) :=
  response.headers.foldl (fun m h ↦ m.filter (·.1 ≠ h.1) ++ [(h.1, h.2.getD [])]) []

end WireResponse

/-- Host under which the cookies of a response are filed; `http.rs:273–276`. -/
def hostForCookies (U : UrlCrate) (finalUrl requestUrl : Str) : Str :=
  ((U.parse finalUrl).toOption.bind U.hostStr).getD requestUrl

/-- Store the `Set-Cookie` values of a response; `http.rs:277–281`. -/
def storeSetCookies (now : Option Nat) (host : Str) (values : List Str) (jar : CookieJar) :
    CookieJar :=
  values.foldl (fun jar s ↦ jar.setFromSetCookie now host s) jar

/-- The writes of a list of `Set-Cookie` values. -/
def setCookieWrites (host : Str) (values : List Str) : List CookieWrite :=
  (values.filterMap parseSetCookie).map (·.write host)

/-- Storing `Set-Cookie` values is the list of their writes. -/
theorem storeSetCookies_eq (now : Option Nat) (host : Str) (values : List Str) (jar : CookieJar) :
    storeSetCookies now host values jar = jar.setAll now (setCookieWrites host values) := by
  induction values generalizing jar with
  | nil => rfl
  | cons s values ih =>
    have hstep : storeSetCookies now host (s :: values) jar =
        storeSetCookies now host values (jar.setFromSetCookie now host s) := rfl
    rw [hstep, ih, CookieJar.setFromSetCookie_eq, ← CookieJar.setAll_append]
    cases hs : parseSetCookie s <;> simp [setCookieWrites, hs]

universe u

/-- The HTTP client: the headers it sends beside the cookies, and what comes back. -/
structure HttpClient (ω : Type u) (U : UrlCrate) where
  /-- Stealth or minimal headers for a request. -/
  stealthHeaders : Bool → ScrapeRequest → U.Url → ω → List (Str × Str)
  /-- `sec-ch-ua-mobile` of the profile that was picked. -/
  secChUaMobile : ω → Str
  /-- Send a `GET` with headers; a failure carries the error text. -/
  send : U.Url → List (Str × Str) → ω → Except Str (WireResponse U) × ω

namespace HttpFetcher

variable {ω : Type u} {U : UrlCrate} (client : HttpClient ω U) (now : ω → Option Nat)
  (fetcher : HttpFetcher)

/-- A fetcher with the given jar; `http.rs:85–125`. -/
def withCookies (stealthEnabled : Bool) (cookies : JarRef) : HttpFetcher :=
  ⟨cookies, stealthEnabled⟩

/-- The `Cookie` header for a URL; `http.rs:226–229`. -/
def cookieHeader (url : Str) (env : Env ω) : Str :=
  (CookieJar.cookieHeaderFor U (env.jars fetcher.cookies) (now env.world) url).getD []

/-- Headers of an outgoing request; `http.rs:237–261`. -/
def requestHeaders (request : ScrapeRequest) (url : U.Url) (env : Env ω) : List (Str × Str) :=
  let cookie := fetcher.cookieHeader (U := U) now request.url env
  let mobile := client.secChUaMobile env.world
  client.stealthHeaders fetcher.stealthEnabled request url env.world ++
    (if cookie.isEmpty then [] else [(("Cookie" : Str), cookie)]) ++
    (if request.mobile then
      [(("Sec-CH-UA-Mobile" : Str), if mobile.isEmpty then ("?0" : Str) else mobile)]
    else [])

/-- Fetch a page; `http.rs:210–301`. -/
def fetch (request : ScrapeRequest) (env : Env ω) : Except CrwError FetchResult × Env ω :=
  match U.parse request.url with
  | .error e => (.error (.invalidUrl e), env)
  | .ok url =>
    match client.send url (fetcher.requestHeaders client now request url env) env.world with
    | (.error e, w) => (.error (.fetch e), { env with world := w })
    | (.ok response, w) =>
      let finalUrl := U.toStr response.url
      let host := hostForCookies U finalUrl request.url
      let env := { env with world := w }.modifyJar fetcher.cookies
        (storeSetCookies (now w) host response.setCookies)
      match response.body with
      | .error e => (.error (.fetch e), env)
      | .ok html =>
        if (200 ≤ response.status ∧ response.status < 300) ∨ response.status = 403 ∨
            response.status = 429 then
          (.ok ⟨request.url, finalUrl, response.status, html, response.headerMap⟩, env)
        else (.error (.http response.status ("HTTP " ++ response.statusText)), env)

/-- A fetch leaves the jars alone, or stores the cookies of the response in the fetcher's jar. -/
theorem jars_fetch (request : ScrapeRequest) (env : Env ω) :
    (fetcher.fetch client now request env).2.jars = env.jars ∨
      ∃ url response w, client.send url (fetcher.requestHeaders client now request url env)
          env.world = (.ok response, w) ∧
        (fetcher.fetch client now request env).2.jars =
          (env.modifyJar fetcher.cookies (storeSetCookies (now w)
            (hostForCookies U (U.toStr response.url) request.url) response.setCookies)).jars := by
  unfold fetch
  split
  · exact .inl rfl
  · next url _ =>
    split
    · exact .inl rfl
    · next response w hsend =>
      refine .inr ⟨url, response, w, hsend, ?_⟩
      cases response.body with
      | error e => rfl
      | ok html => dsimp only; split <;> rfl

end HttpFetcher
end CrwShield.Fetch
