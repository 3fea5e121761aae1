import CrwShield.Antibot.CookieWrites
import CrwShield.Antibot.Diagnose
import CrwShield.Fetch.Backends

/-!
# The fetch ladder

Crate `fetch`, `src/crates/fetch/src/ladder.rs`: HTTP first, the browser when the request or the
page asks for it, FlareSolverr last. `fetch_cases` lists what a successful fetch can return.
-/

open CrwShield.Base CrwShield.Base.Str CrwShield.Antibot CrwShield.Core

namespace CrwShield.Fetch

/-- What backend served a response; `ladder.rs:31–37`. -/
inductive FetchSource where
  | http
  | cdp
  | httpChallengeThenCdp
  | flareSolverr
  | cdpThenFlareSolverr
  deriving DecidableEq

/-- Bundle returned by the ladder; `ladder.rs:53–61`. -/
structure LadderResult where
  fetch : FetchResult
  screenshot : Option (List UInt8)
  source : FetchSource
  situation : SituationReport
  deriving DecidableEq

/-- The composite fetcher, less the proxy handle; `ladder.rs:65–77`. -/
structure FetchLadder where
  http : HttpFetcher
  cdp : Option CdpFetcher
  flaresolverr : Option FlareSolverrClient
  fsAllowlist : FlareSolverrAllowlist
  cookies : JarRef

/-- The ladder shares the HTTP fetcher's jar; `ladder.rs:80–98`. -/
def FetchLadder.new (http : HttpFetcher) (cdp : Option CdpFetcher)
    (flaresolverr : Option FlareSolverrClient) : FetchLadder where
  http := http
  cdp := cdp
  flaresolverr := flaresolverr
  fsAllowlist := .empty
  cookies := http.cookies

/-- `FetchLadder::with_flaresolverr_allowlist`; `ladder.rs:102–105`. -/
def FetchLadder.withFlaresolverrAllowlist (ladder : FetchLadder)
    (allowlist : FlareSolverrAllowlist) : FetchLadder :=
  { ladder with fsAllowlist := allowlist }

/-- Whether to go straight to the browser; `ladder.rs:174–200`. -/
def needsCdp (request : ScrapeRequest) : Bool :=
  !request.skipJs || !request.actions.isEmpty || request.formats.any (· = .screenshot)

/-- The detector run over a fetched page; `ladder.rs:205–217`. -/
def diagnoseFetch (fetch : FetchResult) : SituationReport :=
  diagnose fetch.html (some fetch.statusCode)
    (if fetch.headers.isEmpty then none else some fetch.headers)

/-- Whether to leave the HTTP step; `ladder.rs:225–233`. -/
def httpShouldEscalate (fetch : FetchResult) : Bool :=
  (diagnoseFetch fetch).shouldEscalate || detectEmptyOrBlocked fetch.html

/-- Whether a rendered page is still empty or blocked; `ladder.rs:242–244`. -/
def cdpIsEmptyOrBlocked (html : Str) : Bool := detectEmptyOrBlocked html

/-- Validate a FlareSolverr page: an error text, an overriding kind, or neither;
`ladder.rs:265–331`. -/
def validateFlaresolverrSolution (html : Str) : Except Str (Option SituationKind) :=
  let isDatadome := (["geo.captcha-delivery.com", "datadome", "ddc."] : List Str).any fun f ↦
    contains f (toAsciiLowercase html)
  let threshold := if isDatadome then 1000 else 5000
  if threshold < len html && contains "<title" html then .ok (some .cleanSuccess)
  else if detectEmptyOrBlocked html then
    .error ("flaresolverr returned anti-bot page (kind=" ++ (diagnose html none none).kind.asStr ++
      ", confidence-via-detect-empty-or-blocked)")
  else
    match detectChallenge html with
    | some provider => .error ("flaresolverr returned anti-bot page (" ++ provider ++ ")")
    | none => .ok none

/-- Domain under which a FlareSolverr cookie is checked; `ladder.rs:518–523`. -/
def CookieInfo.cookieDomain (target : Str) (c : CookieInfo) : Str :=
  (c.domain.map fun d ↦ toAsciiLowercase (trimStartMatches '.' d)).getD target

/-- Remaining lifetime of a FlareSolverr cookie; `ladder.rs:535–545`. -/
def CookieInfo.maxAge (now : Option Nat) (c : CookieInfo) : Option Nat :=
  c.expires.bind fun exp ↦
    if ((now.getD 0 : Nat) : Int) < exp then some (exp - ((now.getD 0 : Nat) : Int)).toNat else none

/-- The domain of a FlareSolverr cookie is the target or a parent of it; `ladder.rs:524–525`. -/
def CookieInfo.domainOk (target : Str) (c : CookieInfo) : Bool :=
  c.cookieDomain target = target || endsWith ('.' :: c.cookieDomain target) target

/-- Store the FlareSolverr cookies whose domain matches the target. For each the clock is read
twice, for the lifetime that remains and in `set_cookie`; `ladder.rs:514–548`. -/
def injectFsCookies (clock : Nat → Option Nat) (target : Str) (cookies : List CookieInfo)
    (jar : CookieJar) : CookieJar :=
  cookies.zipIdx.foldl (fun jar c ↦
    if c.1.domainOk target then
      jar.setCookie (clock (2 * c.2 + 1)) target c.1.name c.1.value (c.1.maxAge (clock (2 * c.2)))
    else jar) jar

/-- The writes of a list of FlareSolverr cookies, with what the clock reads at each. -/
def fsWrites (clock : Nat → Option Nat) (target : Str) (cookies : List CookieInfo) :
    List (Option Nat × CookieWrite) :=
  (cookies.zipIdx.filter fun c ↦ c.1.domainOk target).map fun c ↦
    (clock (2 * c.2 + 1), ⟨target, c.1.name, c.1.value, c.1.maxAge (clock (2 * c.2))⟩)

/-- Storing FlareSolverr cookies is the list of their writes. -/
theorem injectFsCookies_eq (clock : Nat → Option Nat) (target : Str) (cookies : List CookieInfo)
    (jar : CookieJar) :
    injectFsCookies clock target cookies jar = jar.setEach (fsWrites clock target cookies) := by
  rw [fsWrites, CookieJar.setEach, List.foldl_map, List.foldl_filter]
  rfl

/-- While the clock stands still, storing FlareSolverr cookies is the list of their writes at one
time. -/
theorem injectFsCookies_still (now : Option Nat) (target : Str) (cookies : List CookieInfo)
    (jar : CookieJar) :
    injectFsCookies (fun _ ↦ now) target cookies jar =
      jar.setAll now ((fsWrites (fun _ ↦ now) target cookies).map Prod.snd) := by
  rw [injectFsCookies_eq, CookieJar.setAll_eq_setEach]
  simp only [fsWrites, List.map_map]
  rfl

/-- The page of a FlareSolverr solution; `ladder.rs:459–470`. -/
def FlareSolverrResult.page (solution : FlareSolverrResult) (request : ScrapeRequest) :
    FetchResult where
  url := request.url
  finalUrl := solution.finalUrl
  statusCode := solution.statusCode
  html := solution.html
  headers := ("x-crw-source", "flaresolverr") ::
    (solution.userAgent.map fun ua ↦ (("x-crw-user-agent" : Str), ua)).toList

/-- A browser result bundled with a source and a situation. -/
def CdpFetchResult.ladderResult (res : CdpFetchResult) (source : FetchSource)
    (situation : SituationReport) : LadderResult :=
  ⟨res.page, res.screenshot, source, situation⟩

/-- The report for a browser page without content; `ladder.rs:721–731`. -/
def emptyCdpReport (statusCode : Nat) : SituationReport :=
  ⟨.jsOnly, .cdp, some statusCode, [],
    some "CDP rendered an empty page; the site likely detected the headless browser"⟩

/-- Whether the browser returned nothing to show; `ladder.rs:720`. -/
def cdpEmpty (html : Str) (screenshot : Option (List UInt8)) : Bool :=
  (trim html).isEmpty && screenshot.isNone

namespace FetchLadder

universe u
variable {ω : Type u} (B : Backends ω) (U : UrlCrate) (ladder : FetchLadder)

/-- Run the browser fetcher; `ladder.rs:394–399`. -/
def tryCdp (request : ScrapeRequest) (env : Env ω) : Except CrwError CdpFetchResult × Env ω :=
  match ladder.cdp with
  | none => (.error (.notImplemented "CDP fetcher not configured"), env)
  | some cdp => B.cdp cdp request env

/-- Escalate to FlareSolverr, unless no client is configured or the host is not allowed;
`ladder.rs:420–575`. -/
def tryFlaresolverr (url : Str) (request : ScrapeRequest) (fromCdp : Bool) (env : Env ω) :
    Except CrwError (Option LadderResult) × Env ω :=
  match (U.parse url).toOption.bind U.hostStr with
  | none => (.ok none, env)
  | some h =>
    if !ladder.fsAllowlist.isAllowed h then (.ok none, env)
    else match ladder.flaresolverr with
    | none => (.ok none, env)
    | some fs =>
      match B.flaresolverr fs url 60000 env with
      | (.error e, env) => (.error e, env)
      | (.ok solution, env) =>
        let fetch := solution.page request
        let situation := diagnoseFetch fetch
        match validateFlaresolverrSolution solution.html with
        | .error msg => (.error (.fetch msg), env)
        | .ok overrideKind =>
          (.ok (some
            { fetch := fetch
              screenshot := none
              source := if fromCdp then .cdpThenFlareSolverr else .flareSolverr
              situation := { situation with kind := overrideKind.getD situation.kind } }),
            env.modifyJar ladder.cookies
              (injectFsCookies (B.now env.world) (toAsciiLowercase h) solution.cookies))

/-- Return a browser page after an HTTP step, with one more escalation if it is empty or blocked;
`ladder.rs:607–626,668–687`. -/
def finishCdp (request : ScrapeRequest) (res : CdpFetchResult) (source : FetchSource)
    (situation : SituationReport) (env : Env ω) : Except CrwError LadderResult × Env ω :=
  if cdpIsEmptyOrBlocked res.html then
    match ladder.tryFlaresolverr B U request.url request true env with
    | (.error e, env) => (.error e, env)
    | (.ok (some fsResult), env) => (.ok fsResult, env)
    | (.ok none, env) => (.ok (res.ladderResult source situation), env)
  else (.ok (res.ladderResult source situation), env)

/-- The path that starts with the browser; `ladder.rs:693–746`. -/
def fetchForcedCdp (request : ScrapeRequest) (env : Env ω) :
    Except CrwError LadderResult × Env ω :=
  match ladder.tryCdp B request env with
  | (.error e, env) => (.error e, env)
  | (.ok res, env) =>
    let situation := diagnoseFetch res.page
    let final := res.ladderResult .cdp
      (if cdpEmpty res.html res.screenshot then emptyCdpReport res.statusCode else situation)
    if situation.suggestedLadder = .flareSolverr then
      match ladder.tryFlaresolverr B U request.url request true env with
      | (.error e, env) => (.error e, env)
      | (.ok (some fsResult), env) => (.ok fsResult, env)
      | (.ok none, env) => (.ok final, env)
    else (.ok final, env)

/-- Run the full ladder; `ladder.rs:578–747`. -/
def fetch (request : ScrapeRequest) (env : Env ω) : Except CrwError LadderResult × Env ω :=
  if needsCdp request then ladder.fetchForcedCdp B U request env
  else
    match B.http ladder.http request env with
    | (.ok fetch, env) =>
      let situation := diagnoseFetch fetch
      if !httpShouldEscalate fetch then (.ok ⟨fetch, none, .http, situation⟩, env)
      else if ladder.cdp.isSome then
        match ladder.tryCdp B request env with
        | (.ok res, env) =>
          ladder.finishCdp B U request res .httpChallengeThenCdp situation env
        | (.error e, env) =>
          match ladder.tryFlaresolverr B U request.url request true env with
          | (.error e, env) => (.error e, env)
          | (.ok (some fsResult), env) => (.ok fsResult, env)
          | (.ok none, env) => (.error e, env)
      else
        match ladder.tryFlaresolverr B U request.url request false env with
        | (.error e, env) => (.error e, env)
        | (.ok (some fsResult), env) => (.ok fsResult, env)
        | (.ok none, env) => (.ok ⟨fetch, none, .http, situation⟩, env)
    | (.error e, env) =>
      if ladder.cdp.isSome then
        match ladder.tryCdp B request env with
        | (.ok res, env) => ladder.finishCdp B U request res .cdp .clean env
        | (.error e, env) => (.error e, env)
      else (.error e, env)

variable {B U ladder}

/-- A FlareSolverr result comes from a solution for an allowed host that the validator accepted. -/
theorem tryFlaresolverr_inv {url : Str} {request : ScrapeRequest} {fromCdp : Bool}
    {env env' : Env ω} {r : LadderResult}
    (h : ladder.tryFlaresolverr B U url request fromCdp env = (.ok (some r), env')) :
    ∃ host fs solution env₁ overrideKind,
      (U.parse url).toOption.bind U.hostStr = some host ∧
      ladder.fsAllowlist.isAllowed host = true ∧ ladder.flaresolverr = some fs ∧
      B.flaresolverr fs url 60000 env = (.ok solution, env₁) ∧
      validateFlaresolverrSolution solution.html = .ok overrideKind ∧
      r = { fetch := solution.page request
            screenshot := none
            source := if fromCdp then .cdpThenFlareSolverr else .flareSolverr
            situation :=
              { diagnoseFetch (solution.page request) with
                kind := overrideKind.getD (diagnoseFetch (solution.page request)).kind } } ∧
      env' = env₁.modifyJar ladder.cookies
        (injectFsCookies (B.now env₁.world) (toAsciiLowercase host) solution.cookies) := by
  unfold tryFlaresolverr at h
  split at h
  · exact absurd h (by simp)
  · next host hhost =>
    split at h
    · exact absurd h (by simp)
    · next hallowed =>
      split at h
      · exact absurd h (by simp)
      · next fs hfs =>
        split at h
        · exact absurd h (by simp)
        · next solution env₁ hsolution =>
          dsimp only at h
          split at h
          · exact absurd h (by simp)
          · next overrideKind hvalid =>
            simp only [Prod.mk.injEq, Except.ok.injEq, Option.some.injEq] at h
            exact ⟨host, fs, solution, env₁, overrideKind, hhost, by simpa using hallowed, hfs,
              hsolution, hvalid, h.1.symm, h.2.symm⟩

/-- A FlareSolverr result was accepted by the validator, and its report is the diagnosis of its
page up to the validator's overriding kind. -/
theorem tryFlaresolverr_some {url : Str} {request : ScrapeRequest} {fromCdp : Bool}
    {env env' : Env ω} {r : LadderResult}
    (h : ladder.tryFlaresolverr B U url request fromCdp env = (.ok (some r), env')) :
    ∃ overrideKind, validateFlaresolverrSolution r.fetch.html = .ok overrideKind ∧
      r.situation =
        { diagnoseFetch r.fetch with kind := overrideKind.getD (diagnoseFetch r.fetch).kind } ∧
      r.source = (if fromCdp then .cdpThenFlareSolverr else .flareSolverr) ∧
      r.screenshot = none := by
  obtain ⟨-, -, solution, -, overrideKind, -, -, -, -, hvalid, rfl, -⟩ := tryFlaresolverr_inv h
  exact ⟨overrideKind, hvalid, rfl, rfl, rfl⟩

/-- A solution for an allowed host that the validator accepts is what the escalation returns. -/
theorem tryFlaresolverr_accepted {url host : Str} {fs : FlareSolverrClient}
    {solution : FlareSolverrResult} {overrideKind : Option SituationKind} {env env₁ : Env ω}
    (hhost : (U.parse url).toOption.bind U.hostStr = some host)
    (hallowed : ladder.fsAllowlist.isAllowed host = true) (hfs : ladder.flaresolverr = some fs)
    (hsolution : B.flaresolverr fs url 60000 env = (.ok solution, env₁))
    (hvalid : validateFlaresolverrSolution solution.html = .ok overrideKind)
    (request : ScrapeRequest) (fromCdp : Bool) :
    ladder.tryFlaresolverr B U url request fromCdp env =
      (.ok (some
        { fetch := solution.page request
          screenshot := none
          source := if fromCdp then .cdpThenFlareSolverr else .flareSolverr
          situation :=
            { diagnoseFetch (solution.page request) with
              kind := overrideKind.getD (diagnoseFetch (solution.page request)).kind } }),
        env₁.modifyJar ladder.cookies
          (injectFsCookies (B.now env₁.world) (toAsciiLowercase host) solution.cookies)) := by
  simp only [tryFlaresolverr, hhost, hallowed, Bool.not_true, Bool.false_eq_true, if_false, hfs,
    hsolution, hvalid]

/-- Without a client there is no escalation. -/
theorem tryFlaresolverr_noClient {url : Str} {request : ScrapeRequest} {fromCdp : Bool}
    {env : Env ω} (h : ladder.flaresolverr = none) :
    (ladder.tryFlaresolverr B U url request fromCdp env).1 = .ok none := by
  unfold tryFlaresolverr
  split
  · rfl
  · rw [h]
    split <;> rfl

variable (B U ladder)

/-- The HTTP step ended with `httpOut`, the browser was asked next and its page `res` was kept. -/
def KeptCdp (request : ScrapeRequest) (env : Env ω) (httpOut : Except CrwError FetchResult)
    (res : CdpFetchResult) : Prop :=
  needsCdp request = false ∧ ladder.cdp.isSome = true ∧
    (∀ page, httpOut = .ok page → httpShouldEscalate page = true) ∧
    ∃ env₁ env₂, B.http ladder.http request env = (httpOut, env₁) ∧
      ladder.tryCdp B request env₁ = (.ok res, env₂) ∧
      (cdpIsEmptyOrBlocked res.html = false ∨
        (ladder.tryFlaresolverr B U request.url request true env₂).1 = .ok none)

/-- What the ladder returns for a browser page kept after the HTTP step. -/
def keptResult (httpOut : Except CrwError FetchResult) (res : CdpFetchResult) : LadderResult :=
  match httpOut with
  | .ok page => res.ladderResult .httpChallengeThenCdp (diagnoseFetch page)
  | .error _ => res.ladderResult .cdp .clean

variable {B U ladder}

private theorem finishCdp_cases {request : ScrapeRequest} {res : CdpFetchResult}
    {source : FetchSource} {situation : SituationReport} {env env' : Env ω} {r : LadderResult}
    (h : ladder.finishCdp B U request res source situation env = (.ok r, env')) :
    ladder.tryFlaresolverr B U request.url request true env = (.ok (some r), env') ∨
    (r = res.ladderResult source situation ∧
      (cdpIsEmptyOrBlocked res.html = false ∨
        (ladder.tryFlaresolverr B U request.url request true env).1 = .ok none)) := by
  unfold finishCdp at h
  split at h
  · split at h
    · exact absurd h (by simp)
    · next hfs =>
      simp only [Prod.mk.injEq, Except.ok.injEq] at h
      obtain ⟨rfl, rfl⟩ := h
      exact .inl hfs
    · next hfs =>
      simp only [Prod.mk.injEq, Except.ok.injEq] at h
      exact .inr ⟨h.1.symm, .inr (by rw [hfs])⟩
  · next hb =>
    simp only [Prod.mk.injEq, Except.ok.injEq] at h
    exact .inr ⟨h.1.symm, .inl (by simpa using hb)⟩

private theorem finishCdp_kept {request : ScrapeRequest} {res : CdpFetchResult}
    {source : FetchSource} {situation : SituationReport} {env : Env ω}
    (h : cdpIsEmptyOrBlocked res.html = false ∨
      (ladder.tryFlaresolverr B U request.url request true env).1 = .ok none) :
    (ladder.finishCdp B U request res source situation env).1 =
      .ok (res.ladderResult source situation) := by
  unfold finishCdp
  by_cases hb : cdpIsEmptyOrBlocked res.html = true
  · rw [if_pos hb]
    have hfs := h.resolve_left (by simp [hb])
    generalize ladder.tryFlaresolverr B U request.url request true env = out at hfs
    obtain ⟨answer, env'⟩ := out
    obtain rfl : answer = .ok none := hfs
    rfl
  · rw [if_neg hb]

/-- What a successful fetch returns: the HTTP page, a FlareSolverr page, a browser page kept after
the HTTP step, or the page of a request that starts with the browser. -/
theorem fetch_cases {request : ScrapeRequest} {env env' : Env ω} {r : LadderResult}
    (h : ladder.fetch B U request env = (.ok r, env')) :
    (∃ page env₁, needsCdp request = false ∧ B.http ladder.http request env = (.ok page, env₁) ∧
      r = ⟨page, none, .http, diagnoseFetch page⟩) ∨
    (∃ fromCdp env₁,
      ladder.tryFlaresolverr B U request.url request fromCdp env₁ = (.ok (some r), env')) ∨
    (∃ httpOut res, ladder.KeptCdp B U request env httpOut res ∧ r = keptResult httpOut res) ∨
    (∃ res env₁, needsCdp request = true ∧ ladder.tryCdp B request env = (.ok res, env₁) ∧
      r = res.ladderResult .cdp
        (if cdpEmpty res.html res.screenshot then emptyCdpReport res.statusCode
          else diagnoseFetch res.page)) := by
  unfold fetch at h
  split at h
  · next hforce =>
    unfold fetchForcedCdp at h
    split at h
    · exact absurd h (by simp)
    · next res env₁ hcdp =>
      dsimp only at h
      split at h
      · split at h
        · exact absurd h (by simp)
        · next hfs =>
          simp only [Prod.mk.injEq, Except.ok.injEq] at h
          obtain ⟨rfl, rfl⟩ := h
          exact .inr (.inl ⟨true, env₁, hfs⟩)
        · simp only [Prod.mk.injEq, Except.ok.injEq] at h
          exact .inr (.inr (.inr ⟨res, env₁, hforce, hcdp, h.1.symm⟩))
      · simp only [Prod.mk.injEq, Except.ok.injEq] at h
        exact .inr (.inr (.inr ⟨res, env₁, hforce, hcdp, h.1.symm⟩))
  · next hforce =>
    have hforce : needsCdp request = false := by simpa using hforce
    split at h
    · next page env₁ hhttp =>
      dsimp only at h
      split at h
      · simp only [Prod.mk.injEq, Except.ok.injEq] at h
        exact .inl ⟨page, env₁, hforce, hhttp, h.1.symm⟩
      · next hesc =>
        have hesc : httpShouldEscalate page = true := by simpa using hesc
        split at h
        · next hsome =>
          split at h
          · next res env₂ hcdp =>
            rcases finishCdp_cases h with hfs | ⟨rfl, hkept⟩
            · exact .inr (.inl ⟨true, env₂, hfs⟩)
            · refine .inr (.inr (.inl ⟨.ok page, res, ?_, rfl⟩))
              refine ⟨hforce, hsome, ?_, env₁, env₂, hhttp, hcdp, hkept⟩
              rintro p hp
              exact Except.ok.inj hp ▸ hesc
          · next env₂ _ =>
            split at h
            · exact absurd h (by simp)
            · next hfs =>
              simp only [Prod.mk.injEq, Except.ok.injEq] at h
              obtain ⟨rfl, rfl⟩ := h
              exact .inr (.inl ⟨true, env₂, hfs⟩)
            · exact absurd h (by simp)
        · split at h
          · exact absurd h (by simp)
          · next hfs =>
            simp only [Prod.mk.injEq, Except.ok.injEq] at h
            obtain ⟨rfl, rfl⟩ := h
            exact .inr (.inl ⟨false, env₁, hfs⟩)
          · simp only [Prod.mk.injEq, Except.ok.injEq] at h
            exact .inl ⟨page, env₁, hforce, hhttp, h.1.symm⟩
    · next e env₁ hhttp =>
      split at h
      · next hsome =>
        split at h
        · next res env₂ hcdp =>
          rcases finishCdp_cases h with hfs | ⟨rfl, hkept⟩
          · exact .inr (.inl ⟨true, env₂, hfs⟩)
          · refine .inr (.inr (.inl ⟨.error e, res, ?_, rfl⟩))
            refine ⟨hforce, hsome, ?_, env₁, env₂, hhttp, hcdp, hkept⟩
            rintro p hp
            exact absurd hp (by simp)
        · exact absurd h (by simp)
      · exact absurd h (by simp)

/-- A browser page kept after the HTTP step is what the ladder returns. -/
theorem fetch_of_keptCdp {request : ScrapeRequest} {env : Env ω}
    {httpOut : Except CrwError FetchResult} {res : CdpFetchResult}
    (h : ladder.KeptCdp B U request env httpOut res) :
    ∃ env', ladder.fetch B U request env = (.ok (keptResult httpOut res), env') := by
  obtain ⟨hforce, hsome, hesc, env₁, env₂, hhttp, hcdp, hkept⟩ := h
  refine ⟨_, Prod.ext ?_ rfl⟩
  unfold fetch
  rw [if_neg (by simp [hforce]), hhttp]
  cases httpOut with
  | ok page =>
    simp only [hesc page rfl, Bool.not_true, Bool.false_eq_true, ↓reduceIte, hsome, hcdp]
    exact finishCdp_kept hkept
  | error e =>
    simp only [hsome, ↓reduceIte, hcdp]
    exact finishCdp_kept hkept

/-- With the HTTP fetcher alone its page is what the ladder returns. -/
theorem fetch_http_alone {request : ScrapeRequest} {env env₁ : Env ω} {page : FetchResult}
    (hforce : needsCdp request = false) (hcdp : ladder.cdp = none)
    (hfs : ladder.flaresolverr = none)
    (hhttp : B.http ladder.http request env = (.ok page, env₁)) :
    (ladder.fetch B U request env).1 = .ok ⟨page, none, .http, diagnoseFetch page⟩ := by
  unfold fetch
  rw [if_neg (by simp [hforce]), hhttp]
  dsimp only
  split
  · rfl
  · rw [hcdp, if_neg (by simp)]
    have hout : (ladder.tryFlaresolverr B U request.url request false env₁).1 = .ok none :=
      tryFlaresolverr_noClient hfs
    generalize ladder.tryFlaresolverr B U request.url request false env₁ = out at hout
    obtain ⟨answer, env'⟩ := out
    obtain rfl : answer = .ok none := hout
    rfl

end FetchLadder
end CrwShield.Fetch
