import CrwShield.Antibot.CookieJar
import CrwShield.Core.Types
import Mathlib.Logic.Function.Basic

/-!
# Fetch backends

Crate `fetch`: the values exchanged with the HTTP client, the browser and the FlareSolverr
service, and the environment they act on. Jars are shared by reference, so the environment holds
the contents of each; the rest of the world is a parameter, and so are the answers of the
backends.
-/

open CrwShield.Base CrwShield.Base.Str CrwShield.Antibot CrwShield.Core

namespace CrwShield.Fetch

/-- Identity of a shared cookie jar, the pointer of an `Arc<CookieJar>`. -/
abbrev JarRef := Nat

/-- Result of a page fetch; `http.rs:27–33`. The header map stands in its iteration order. -/
structure FetchResult where
  url : Str
  finalUrl : Str
  statusCode : Nat
  html : Str
  headers : List (Str × Str)
  deriving DecidableEq

/-- Result of a browser fetch; `cdp.rs:42–49`. -/
structure CdpFetchResult where
  url : Str
  finalUrl : Str
  statusCode : Nat
  html : Str
  headers : List (Str × Str)
  screenshot : Option (List UInt8)
  deriving DecidableEq

/-- The page of a browser fetch. -/
def CdpFetchResult.page (res : CdpFetchResult) : FetchResult where
  url := res.url
  finalUrl := res.finalUrl
  statusCode := res.statusCode
  html := res.html
  headers := res.headers

/-- A cookie returned by FlareSolverr; `flaresolverr.rs:17–36`. -/
structure CookieInfo where
  name : Str
  value : Str
  domain : Option Str
  expires : Option Int
  deriving DecidableEq

/-- A page solved by FlareSolverr; `flaresolverr.rs:73–79`. -/
structure FlareSolverrResult where
  html : Str
  statusCode : Nat
  cookies : List CookieInfo
  finalUrl : Str
  userAgent : Option Str

/-- Hosts that may be escalated to FlareSolverr; `flaresolverr.rs:96–102`. -/
structure FlareSolverrAllowlist where
  hosts : List Str
  wildcards : List Str

namespace FlareSolverrAllowlist

/-- The allowlist that never escalates; `flaresolverr.rs:106–108`. -/
def empty : FlareSolverrAllowlist := ⟨[], []⟩

/-- File one entry under the hosts or the wildcard suffixes; `flaresolverr.rs:119–129`. -/
def add (out : FlareSolverrAllowlist) (h : Str) : FlareSolverrAllowlist :=
  let trimmed := trim h
  if trimmed.isEmpty then out
  else if startsWith "*." trimmed then
    { out with wildcards := out.wildcards ++ ['.' :: trimmed.drop 2] }
  else { out with hosts := out.hosts.insert (toAsciiLowercase trimmed) }

/-- Build an allowlist from entries; `flaresolverr.rs:113–131`. -/
def fromHosts (hosts : List Str) : FlareSolverrAllowlist := hosts.foldl add empty

/-- Whether a host is listed, lies below a listed host or ends in a wildcard suffix;
`flaresolverr.rs:143–170`. -/
def isAllowed (list : FlareSolverrAllowlist) (host : Str) : Bool :=
  let host := toAsciiLowercase host
  list.hosts.contains host || list.hosts.any (fun apex ↦ endsWith ('.' :: apex) host) ||
    list.wildcards.any (endsWith · host)

end FlareSolverrAllowlist

/-- The HTTP fetcher, as far as results depend on it; `http.rs:63–69`. -/
structure HttpFetcher where
  cookies : JarRef
  stealthEnabled : Bool

/-- The browser fetcher, as far as results depend on it; `cdp.rs:128–133`. -/
structure CdpFetcher where
  cookies : JarRef

/-- The FlareSolverr client; `flaresolverr.rs:184–187`. -/
structure FlareSolverrClient where
  baseUrl : Str

universe u

/-- The jars by reference, and the world outside the process. -/
structure Env (ω : Type u) where
  jars : JarRef → CookieJar
  world : ω

namespace Env

variable {ω : Type u}

/-- Change one jar through its reference. -/
def modifyJar (env : Env ω) (ref : JarRef) (f : CookieJar → CookieJar) : Env ω :=
  { env with jars := Function.update env.jars ref (f (env.jars ref)) }

end Env

/-- The fetchers as the ladder calls them, and the clock. Every call may read and change the
environment. -/
structure Backends (ω : Type u) where
  /-- What `SystemTime::now` reads at instants that follow one another, in seconds since the epoch,
  if the clock is past it; between them nothing else happens. -/
  now : ω → Nat → Option Nat
  /-- `Fetcher::fetch` of the HTTP fetcher. -/
  http : HttpFetcher → ScrapeRequest → Env ω → Except CrwError FetchResult × Env ω
  /-- `CdpFetcher::fetch_with_screenshot`. -/
  cdp : CdpFetcher → ScrapeRequest → Env ω → Except CrwError CdpFetchResult × Env ω
  /-- `FlareSolverrClient::fetch` of a URL with a time limit in milliseconds. -/
  flaresolverr : FlareSolverrClient → Str → Nat → Env ω →
    Except CrwError FlareSolverrResult × Env ω

/-- Backends that give the same answer to every request and leave the environment alone. -/
def Backends.constant {ω : Type u} (http : Except CrwError FetchResult)
    (cdp : Except CrwError CdpFetchResult) : Backends ω where
  now _ _ := some 0
  http _ _ env := (http, env)
  cdp _ _ env := (cdp, env)
  flaresolverr _ _ _ env := (.error (.fetch "flaresolverr request: connection refused"), env)

end CrwShield.Fetch
