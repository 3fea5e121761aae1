import CrwShield.Antibot.CookieWrites
import CrwShield.Fetch.Backends

/-!
# The browser fetcher

Crate `fetch`, `src/crates/fetch/src/cdp.rs:438–566`. The browser is a parameter: it opens a page
with the cookies it is handed, acts on it and reads it back. The jar supplies those cookies and
takes the page's `document.cookie`.
-/

open CrwShield.Base CrwShield.Base.Str CrwShield.Antibot CrwShield.Core

namespace CrwShield.Fetch

/-- What is read back from a page after its actions. -/
structure RenderedPage where
  html : Str
  finalUrl : Option Str
  documentCookie : Option Str
  /-- Bytes of a screenshot, of the full page or of the viewport. -/
  capture : Bool → Option (List UInt8)

universe u

/-- The browser; a failure at any step up to reading the page ends the fetch. -/
structure Browser (ω : Type u) where
  /-- Open a page with the given cookie header, navigate and run the actions. -/
  render : ScrapeRequest → Option Str → ω → Except CrwError RenderedPage × ω

/-- Calls of `set_cookie` for a `document.cookie` text; `cdp.rs:531–539`. -/
def documentCookieWrites (host cookieStr : Str) : List CookieWrite :=
  (split ';' cookieStr).filterMap fun pair ↦
    (splitOnce "=" (trim pair)).map fun nv ↦ ⟨host, trim nv.1, trim nv.2, none⟩

/-- Calls of `set_cookie` for a page: none unless its final URL has a host and its cookies can be
read; `cdp.rs:528–542`. -/
def pageWrites (U : UrlCrate) (requestUrl : Str) (page : RenderedPage) : List CookieWrite :=
  match (U.parse (page.finalUrl.getD requestUrl)).toOption.bind U.hostStr, page.documentCookie with
  | some host, some cookieStr => documentCookieWrites host cookieStr
  | _, _ => []

/-- Store the cookies of a page; `cdp.rs:528–542`. -/
def storePageCookies (U : UrlCrate) (now : Option Nat) (requestUrl : Str) (page : RenderedPage)
    (jar : CookieJar) : CookieJar :=
  jar.setAll now (pageWrites U requestUrl page)

/-- Whether a screenshot action was requested; `cdp.rs:503–510`. -/
def hasScreenshotAction (request : ScrapeRequest) : Bool :=
  request.actions.any fun action ↦ match action with
    | .screenshot _ => true
    | _ => false

namespace CdpFetcher

variable {ω : Type u} (U : UrlCrate) (browser : Browser ω) (now : ω → Option Nat)
  (fetcher : CdpFetcher)

/-- A fetcher with the given jar; `cdp.rs:154–163`. -/
def withCookies (cookies : JarRef) : CdpFetcher := ⟨cookies⟩

/-- Cookie header handed to the page; `cdp.rs:459`. -/
def cookieHeader (url : Str) (env : Env ω) : Option Str :=
  CookieJar.cookieHeaderFor U (env.jars fetcher.cookies) (now env.world) url

/-- Fetch a page with the browser; `cdp.rs:438–566`. -/
def runFetch (request : ScrapeRequest) (env : Env ω) : Except CrwError CdpFetchResult × Env ω :=
  match U.parse request.url with
  | .error e => (.error (.invalidUrl e), env)
  | .ok _ =>
    match browser.render request (fetcher.cookieHeader U now request.url env) env.world with
    | (.error e, w) => (.error e, { env with world := w })
    | (.ok page, w) =>
      let screenshot :=
        if request.formats.any (· = .screenshot) || hasScreenshotAction request then
          page.capture (hasScreenshotAction request)
        else none
      (.ok ⟨request.url, page.finalUrl.getD request.url, 200, page.html, [], screenshot⟩,
        { env with world := w }.modifyJar fetcher.cookies
          (storePageCookies U (now w) request.url page))

/-- A fetch leaves the jars alone, or stores the cookies of the page in the fetcher's jar. -/
theorem jars_runFetch (request : ScrapeRequest) (env : Env ω) :
    (fetcher.runFetch U browser now request env).2.jars = env.jars ∨
      ∃ page w, browser.render request (fetcher.cookieHeader U now request.url env) env.world =
          (.ok page, w) ∧
        (fetcher.runFetch U browser now request env).2.jars =
          (env.modifyJar fetcher.cookies (storePageCookies U (now w) request.url page)).jars := by
  unfold runFetch
  split
  · exact .inl rfl
  · split
    · exact .inl rfl
    · next page w hrender => exact .inr ⟨page, w, hrender, rfl⟩

end CdpFetcher
end CrwShield.Fetch
