import CrwShield.Antibot.BlockDetection
import CrwShield.Fetch.Cdp
import CrwShield.Fetch.Http
import CrwShield.Fetch.Ladder
import CrwShield.Fetch.TlsProxy

/-!
# The application state

Crate `server`, `src/crates/server/src/state.rs`: how the fetchers, their jars and the ladder are
built from the configuration, and how the jar is seeded from disk. Every `CookieJar::new` allocates
a jar of its own.
-/

open CrwShield.Base CrwShield.Base.Str CrwShield.Antibot CrwShield.Core CrwShield.Fetch

namespace CrwShield.Server

/-- The configuration read when the state is built; `config.rs:5–38`. -/
structure Config where
  stealthEnabled : Bool
  cdpEnabled : Bool
  flaresolverrUrl : Option Str
  cookiePersistencePath : Option Str

/-- What the process finds when it starts. -/
structure Startup where
  /-- Environment variables. -/
  var : Str → Option Str
  /-- What becomes of the proxy child. -/
  proxyChild : ChildOutcome
  /-- `FlareSolverrClient::new`. -/
  newFlaresolverr : Str → Except CrwError FlareSolverrClient
  /-- Whether a probe file can be written next to a path; `state.rs:212–239`. -/
  probeWritable : Str → Bool
  /-- The cookie file at a path. -/
  cookieFile : Str → CookieFile
  /-- Seconds since the epoch. -/
  now : Option Nat

/-- Jars allocated so far. -/
structure JarHeap where
  next : JarRef
  jars : JarRef → CookieJar

/-- No jar yet. -/
def JarHeap.empty : JarHeap := ⟨0, fun _ ↦ .new⟩

/-- `Arc::new(CookieJar::new())`. -/
def JarHeap.alloc (heap : JarHeap) : JarRef × JarHeap :=
  (heap.next, ⟨heap.next + 1, Function.update heap.jars heap.next .new⟩)

/-- A fetcher with a jar of its own; `http.rs:71–78`. -/
def newHttpFetcher (stealthEnabled : Bool) (heap : JarHeap) : HttpFetcher × JarHeap :=
  (.withCookies stealthEnabled heap.alloc.1, heap.alloc.2)

/-- A fetcher with a jar of its own; `cdp.rs:136–145`. -/
def newCdpFetcher (heap : JarHeap) : CdpFetcher × JarHeap :=
  (.withCookies heap.alloc.1, heap.alloc.2)

/-- The allowlist of `FLARESOLVERR_HOSTS`; `flaresolverr.rs:135–140`. -/
def allowlistFromEnv (var : Str → Option Str) : FlareSolverrAllowlist :=
  match var "FLARESOLVERR_HOSTS" with
  | some v => if (trim v).isEmpty then .empty else .fromHosts (split ',' v)
  | none => .empty

/-- `PathBuf::join` of a relative path. -/
def joinPath (dir file : Str) : Str :=
  if dir.isEmpty || endsWith "/" dir then dir ++ file else dir ++ "/" ++ file

/-- Where the jar lives on disk: the configured path, a user-local one, or nowhere;
`state.rs:163–211`. -/
def resolveCookiePersistencePath (startup : Startup) (configuredPath : Option Str) : Option Str :=
  configuredPath.bind fun path ↦
    if startup.probeWritable path then some path
    else
      (startup.var "HOME").bind fun home ↦
        let xdg := (startup.var "XDG_DATA_HOME").getD (joinPath (joinPath home ".local") "share")
        let fallback := joinPath (joinPath xdg "crw-shield") "cookies.json"
        if startup.probeWritable fallback then some fallback else none

/-- Calls of `set_cookie` that put the cookies of a loaded jar into a running one;
`state.rs:266–280`. -/
def seedWrites (now : Option Nat) (loaded : CookieJar) : List CookieWrite :=
  loaded.iter.map fun c ↦ ⟨c.1, c.2.1, c.2.2.1, c.2.2.2.map (· - now.getD 0)⟩

/-- Calls of `set_cookie` that seed a jar from a file; `state.rs:253–298`. -/
def fileWrites (now : Option Nat) (file : CookieFile) : List CookieWrite :=
  match CookieJar.loadFromPath file now with
  | .ok loaded => seedWrites now loaded
  | .error _ => []

/-- Re-seed a jar from the file, if any; `state.rs:253–298`. One reading of the clock stands for the
one on loading and for the two that every cookie takes: the clock does not move meanwhile. -/
def seedCookieJar (now : Option Nat) (file : CookieFile) (jar : CookieJar) : CookieJar :=
  jar.setAll now (fileWrites now file)

/-- Storing a cookie for the rest of its lifetime keeps its expiry. -/
theorem expiry_remaining {t : Nat} {x : Option Nat}
    (hlive : isExpiredUnix x (some t) = false) (hrange : ∀ u, x = some u → u < 2 ^ 64) :
    CookieJar.expiry (some t) (x.map (· - t)) = x := by
  cases x with
  | none => rfl
  | some u =>
    have hu := hrange u rfl
    simp only [isExpiredUnix, decide_eq_false_iff_not, Nat.not_le] at hlive
    have hadd : t + (u - t) = u := by omega
    simp only [CookieJar.expiry, Option.map_some, Option.bind_some, checkedAdd, hadd, hu, if_true,
      if_neg (show u - t ≠ 0 by omega)]

/-- A saved cookie that has not expired comes back as it was, unless the file holds one of its name
under another bucket that normalises to its own. -/
theorem lookup_seedCookieJar {t : Nat} {saved : OnDiskJar} {b n : Str} {e : Entry}
    (hb : normalizeHost b = b) (he : saved.lookup b n = some e)
    (hlive : isExpiredUnix e.expiresAtUnix (some t) = false)
    (hrange : ∀ x, e.expiresAtUnix = some x → x < 2 ^ 64)
    (huniq : ∀ b' e', saved.lookup b' n = some e' → normalizeHost b' = b → b' = b) :
    (seedCookieJar (some t) (.snapshot saved) .new).lookup b n = some e := by
  obtain ⟨loaded, hload⟩ :
      ∃ loaded, CookieJar.loadFromPath (.snapshot saved) (some t) = .ok loaded := ⟨_, rfl⟩
  have hwrites : fileWrites (some t) (.snapshot saved) = seedWrites (some t) loaded := by
    simp only [fileWrites, hload]
  have hloaded : loaded.lookup b n = some e := by
    rw [CookieJar.lookup_loadFromPath hload, he]
    exact Option.filter_some_pos (by rw [hlive]; rfl)
  rw [seedCookieJar, hwrites, CookieJar.lookup_setAll, CookieJar.lookup_new, Option.or_none]
  cases hw : (seedWrites (some t) loaded).findRev? (·.hits b n) with
  | none =>
    -- the entry itself is written back
    rw [List.findRev?_eq_find?_reverse, List.find?_eq_none] at hw
    have hmem : (⟨b, n, e.value, e.expiresAtUnix.map (· - t)⟩ : CookieWrite) ∈
        seedWrites (some t) loaded :=
      List.mem_map.mpr ⟨(b, n, e.value, e.expiresAtUnix), loaded.mem_iter.mpr hloaded, rfl⟩
    exact absurd (CookieWrite.hits_iff.mpr ⟨hb, rfl⟩) (hw _ (List.mem_reverse.mpr hmem))
  | some w =>
    rw [List.findRev?_eq_find?_reverse] at hw
    obtain ⟨⟨b', n', v, x⟩, hiter, rfl⟩ :=
      List.mem_map.mp (List.mem_reverse.mp (List.mem_of_find?_eq_some hw))
    obtain ⟨hb', rfl⟩ := CookieWrite.hits_iff.mp (List.find?_some hw)
    have hl := loaded.mem_iter.mp hiter
    have hsaved : saved.lookup b' n' = some ⟨v, x⟩ := by
      rw [CookieJar.lookup_loadFromPath hload, Option.filter_eq_some_iff] at hl
      exact hl.1
    obtain rfl := huniq b' _ hsaved hb'
    obtain rfl := Option.some.inj (he.symm.trans hsaved)
    have hx : CookieJar.expiry (some t) (x.map (· - t)) = x := expiry_remaining hlive hrange
    simp only [Option.map_some, CookieWrite.entry, Option.getD_some, hx]

/-- The shared state of the server, as far as results depend on it; `state.rs:18–42`. -/
structure AppState where
  ladder : FetchLadder
  tlsProxy : Option TlsProxy
  hostCounters : HostCounters
  cookiePersistencePath : Option Str

namespace AppState

/-- The client, unless none is configured or it cannot be built; `state.rs:97–106`. -/
def buildFlaresolverr (startup : Startup) (config : Config) : Option FlareSolverrClient :=
  match config.flaresolverrUrl with
  | some url => if url.isEmpty then none else (startup.newFlaresolverr url).toOption
  | none => none

/-- What both constructors do once the proxy is decided, with the jars allocated and the ladder's
seeded; `state.rs:68–146,343–374`. -/
def build (startup : Startup) (config : Config) (tlsProxy : Option TlsProxy) :
    AppState × JarHeap :=
  let http := newHttpFetcher config.stealthEnabled .empty
  let cdp := if config.cdpEnabled then
      (some (newCdpFetcher http.2).1, (newCdpFetcher http.2).2)
    else (none, http.2)
  let flaresolverr := buildFlaresolverr startup config
  let ladder := (FetchLadder.new http.1 cdp.1 flaresolverr).withFlaresolverrAllowlist
    (allowlistFromEnv startup.var)
  let cookiePath := resolveCookiePersistencePath startup config.cookiePersistencePath
  let jars := match cookiePath with
    | some path => Function.update cdp.2.jars ladder.cookies
        (seedCookieJar startup.now (startup.cookieFile path) (cdp.2.jars ladder.cookies))
    | none => cdp.2.jars
  (⟨ladder, tlsProxy, ∅, cookiePath⟩, ⟨cdp.2.next, jars⟩)

/-- The state without a proxy; `state.rs:332–385`. -/
def fromConfig (startup : Startup) (config : Config) : AppState × JarHeap :=
  build startup config none

/-- The state with the proxy that the environment asks for; `state.rs:49–146`. -/
def fromConfigAsync (startup : Startup) (config : Config) : AppState × JarHeap :=
  build startup config
    ((TlsProxyConfig.fromEnv startup.var).bind fun cfg ↦
      (TlsProxy.spawn cfg startup.proxyChild).toOption)

end AppState
end CrwShield.Server
