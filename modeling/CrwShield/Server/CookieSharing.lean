import CrwShield.Base.Runs
import CrwShield.Server.Hitl
import CrwShield.Server.State

/-!
# One jar or two

Whether the HTTP fetcher and the browser send the same cookies. Both constructors of the state give
each fetcher a jar of its own and let the ladder share the HTTP fetcher's, so a cookie stored
through one side is never seen by the other.
-/

open CrwShield.Base CrwShield.Base.Str CrwShield.Antibot CrwShield.Core CrwShield.Fetch

namespace CrwShield.Server

/-- What stores or clears cookies while the server runs. -/
inductive CookieEvent (U : UrlCrate) where
  /-- The HTTP fetcher takes a response. -/
  | httpResponse (requestUrl : Str) (response : WireResponse U)
  /-- The ladder takes a FlareSolverr solution for a host. -/
  | flaresolverrSolution (target : Str) (cookies : List CookieInfo)
  /-- The browser reads a page back. -/
  | browserPage (requestUrl : Str) (page : RenderedPage)
  /-- A human's cookies are filed for a host. -/
  | hitlSolve (host : Str) (cookies : List HitlCookie)
  /-- A cookie file is loaded. -/
  | seed (file : CookieFile)
  /-- L1 clears a host. -/
  | clearL1 (host : Str)

/-- The jars and the clock. -/
structure CookieState where
  jars : JarRef → CookieJar
  clock : Nat

variable {U : UrlCrate}

namespace CookieEvent

/-- What an event does to the jars of a ladder, at a time. -/
def apply (ladder : FetchLadder) (t : Nat) (jars : JarRef → CookieJar) :
    CookieEvent U → JarRef → CookieJar
  | .httpResponse requestUrl response =>
    Function.update jars ladder.http.cookies
      (storeSetCookies (some t) (hostForCookies U (U.toStr response.url) requestUrl)
        response.setCookies (jars ladder.http.cookies))
  | .flaresolverrSolution target cookies =>
    Function.update jars ladder.cookies
      (injectFsCookies (fun _ ↦ some t) target cookies (jars ladder.cookies))
  | .browserPage requestUrl page =>
    match ladder.cdp with
    | some cdp => Function.update jars cdp.cookies
        (storePageCookies U (some t) requestUrl page (jars cdp.cookies))
    | none => jars
  | .hitlSolve host cookies =>
    Function.update jars ladder.cookies (solveJar (some t) host cookies (jars ladder.cookies))
  | .seed file =>
    Function.update jars ladder.cookies (seedCookieJar (some t) file (jars ladder.cookies))
  | .clearL1 host =>
    Function.update jars ladder.cookies
      ((jars ladder.cookies).clearForHostExceptHitl (some t) host).1

/-- The cookies an event stores, in order. -/
def writes (t : Nat) : CookieEvent U → List CookieWrite
  | .httpResponse requestUrl response =>
    setCookieWrites (hostForCookies U (U.toStr response.url) requestUrl) response.setCookies
  | .flaresolverrSolution target cookies =>
    (fsWrites (fun _ ↦ some t) target cookies).map Prod.snd
  | .browserPage requestUrl page => pageWrites U requestUrl page
  | .hitlSolve host cookies => solveWrites host cookies
  | .seed file => fileWrites (some t) file
  | .clearL1 _ => []

/-- The jar an event stores in. -/
def jar (ladder : FetchLadder) : CookieEvent U → Option JarRef
  | .httpResponse _ _ => some ladder.http.cookies
  | .browserPage _ _ => ladder.cdp.map CdpFetcher.cookies
  | _ => some ladder.cookies

/-- An event touches its own jar only. -/
theorem apply_of_ne {ladder : FetchLadder} {event : CookieEvent U} {ref : JarRef}
    (h : event.jar ladder ≠ some ref) (t : Nat) (jars : JarRef → CookieJar) :
    event.apply ladder t jars ref = jars ref := by
  cases event with
  | browserPage requestUrl page =>
    simp only [jar, apply] at h ⊢
    cases hcdp : ladder.cdp with
    | none => rfl
    | some cdp =>
      rw [hcdp] at h
      exact Function.update_of_ne (fun he ↦ h (congrArg some he.symm)) _ _
  | _ => exact Function.update_of_ne (fun he ↦ h (congrArg some he.symm)) _ _

/-- In its own jar an event stores its writes, or else clears. -/
theorem lookup_apply {ladder : FetchLadder} {event : CookieEvent U} {ref : JarRef}
    (h : event.jar ladder = some ref) (t : Nat) (jars : JarRef → CookieJar) :
    (∀ b n, (event.apply ladder t jars ref).lookup b n =
      ((jars ref).setAll (some t) (event.writes t)).lookup b n) ∨
    event.writes t = [] ∧ ∀ b n e, (event.apply ladder t jars ref).lookup b n = some e →
      (jars ref).lookup b n = some e := by
  cases event with
  | httpResponse requestUrl response =>
    obtain rfl := Option.some.inj h
    refine .inl fun b n ↦ ?_
    rw [apply, Function.update_self, storeSetCookies_eq]
    rfl
  | flaresolverrSolution target cookies =>
    obtain rfl := Option.some.inj h
    refine .inl fun b n ↦ ?_
    rw [apply, Function.update_self, injectFsCookies_still]
    rfl
  | browserPage requestUrl page =>
    obtain ⟨cdp, hcdp, rfl⟩ := Option.map_eq_some_iff.mp h
    refine .inl fun b n ↦ ?_
    simp only [apply, hcdp, Function.update_self]
    rfl
  | hitlSolve host cookies =>
    obtain rfl := Option.some.inj h
    refine .inl fun b n ↦ ?_
    rw [apply, Function.update_self, lookup_solveJar]
    rfl
  | seed file =>
    obtain rfl := Option.some.inj h
    refine .inl fun b n ↦ ?_
    rw [apply, Function.update_self]
    rfl
  | clearL1 host =>
    obtain rfl := Option.some.inj h
    refine .inr ⟨rfl, fun b n e he ↦ ?_⟩
    rw [apply, Function.update_self, CookieJar.clearForHostExceptHitl,
      CookieJar.lookup_clearBuckets] at he
    split at he
    · exact absurd he (by simp)
    · exact he

/-- What a fetch of the HTTP fetcher does to the jars is no event or the event of its response. -/
theorem apply_of_httpFetch {ω : Type*} (client : HttpClient ω U) (now : ω → Nat)
    (ladder : FetchLadder) (request : ScrapeRequest) (env : Env ω) :
    (ladder.http.fetch client (some ∘ now) request env).2.jars = env.jars ∨
      ∃ (response : WireResponse U) (t : Nat),
        (ladder.http.fetch client (some ∘ now) request env).2.jars =
        (httpResponse request.url response).apply ladder t env.jars := by
  rcases ladder.http.jars_fetch client (some ∘ now) request env with
    h | ⟨_, response, w, -, h⟩
  · exact .inl h
  · exact .inr ⟨response, now w, h⟩

/-- What a fetch of the browser does to the jars is no event or the event of its page. -/
theorem apply_of_cdpFetch {ω : Type*} (browser : Browser ω) (now : ω → Nat) {ladder : FetchLadder}
    {cdp : CdpFetcher} (hcdp : ladder.cdp = some cdp) (request : ScrapeRequest) (env : Env ω) :
    (cdp.runFetch U browser (some ∘ now) request env).2.jars = env.jars ∨
      ∃ page t, (cdp.runFetch U browser (some ∘ now) request env).2.jars =
        (browserPage request.url page : CookieEvent U).apply ladder t env.jars := by
  rcases cdp.jars_runFetch U browser (some ∘ now) request env with h | ⟨page, w, -, h⟩
  · exact .inl h
  · refine .inr ⟨page, now w, ?_⟩
    simp only [apply, hcdp]
    exact h

end CookieEvent

/-- An event at a time. -/
structure TimedEvent (U : UrlCrate) where
  time : Nat
  event : CookieEvent U

/-- Events happen in the order of their times. -/
def Happens (ladder : FetchLadder) (s : CookieState) (e : TimedEvent U) (s' : CookieState) : Prop :=
  s.clock ≤ e.time ∧ s' = ⟨e.event.apply ladder e.time s.jars, e.time⟩

/-- The HTTP fetcher and the browser would send the same cookies to every URL, now and later. -/
def OneCookieState (U : UrlCrate) (ladder : FetchLadder) (s : CookieState) : Prop :=
  ∀ cdp, ladder.cdp = some cdp → ∀ url t, s.clock ≤ t → ∀ part,
    part ∈ (s.jars ladder.http.cookies).sentCookies (some t) U url ↔
      part ∈ (s.jars cdp.cookies).sentCookies (some t) U url

/-- A bucket that is read for some URL. -/
def IsRead (U : UrlCrate) (b : Str) : Prop :=
  ∃ url host, urlHost U url = some host ∧ b ∈ hostCandidates host

/-- Nothing is left of the event's cookies: the last one for each bucket that is read and each name
has a lifetime of zero. -/
def StoresNothing (e : TimedEvent U) : Prop :=
  ∀ b n w, IsRead U b → (e.event.writes e.time).findRev? (·.hits b n) = some w →
    w.maxAgeSecs = some 0

/-- No cookie of the jar is sent from a time on. -/
def Silent (U : UrlCrate) (clock : Nat) (jar : CookieJar) : Prop :=
  ∀ b n e, IsRead U b → jar.lookup b n = some e →
    isExpiredUnix e.expiresAtUnix (some clock) = true

/-- Cookies do not come back to life. -/
theorem Silent.mono {jar : CookieJar} {clock t : Nat} (h : Silent U clock jar) (ht : clock ≤ t) :
    Silent U t jar := by
  intro b n e hb he
  have := h b n e hb he
  cases hx : e.expiresAtUnix with
  | none => simp [hx, isExpiredUnix] at this
  | some x =>
    simp only [hx, isExpiredUnix, decide_eq_true_eq] at this ⊢
    omega

/-- A silent jar sends nothing. -/
theorem Silent.not_mem {jar : CookieJar} {clock : Nat} (h : Silent U clock jar) {url part : Str} :
    part ∉ jar.sentCookies (some clock) U url := by
  intro hp
  obtain ⟨b, n, e, ⟨host, hurl, hb, hl, hx⟩, -⟩ := CookieJar.mem_sentCookies.mp hp
  rw [h b n e ⟨url, host, hurl, hb⟩ hl] at hx
  exact Bool.false_ne_true hx.symm

variable {ladder : FetchLadder}

/-- Silent jars agree. -/
theorem oneCookieState_of_silent {s : CookieState} (h : ∀ ref, Silent U s.clock (s.jars ref)) :
    OneCookieState U ladder s := by
  intro cdp _ url t ht part
  exact ⟨fun hp ↦ absurd hp ((h _).mono ht).not_mem, fun hp ↦ absurd hp ((h _).mono ht).not_mem⟩

/-- Jars stay silent under an event that stores nothing. -/
theorem silent_apply {e : TimedEvent U} (he : StoresNothing e) {jars : JarRef → CookieJar}
    (h : ∀ ref, Silent U e.time (jars ref)) (ref : JarRef) :
    Silent U e.time (e.event.apply ladder e.time jars ref) := by
  by_cases href : e.event.jar ladder = some ref
  · intro b n en hb hl
    rcases CookieEvent.lookup_apply href e.time jars with hset | ⟨-, hsub⟩
    · rw [hset, CookieJar.lookup_setAll, Option.or_eq_some_iff] at hl
      rcases hl with hl | ⟨-, hl⟩
      · obtain ⟨w, hw, rfl⟩ := Option.map_eq_some_iff.mp hl
        exact CookieJar.isExpiredUnix_expiry.mpr (he b n w hb hw)
      · exact h ref b n en hb hl
    · exact h ref b n en hb (hsub b n en hl)
  · rw [CookieEvent.apply_of_ne href]
    exact h ref

/-- A jar sends what an event has just stored in it. -/
theorem exists_sent {e : TimedEvent U} {ref : JarRef} (href : e.event.jar ladder = some ref)
    {b n url host : Str} {w : CookieWrite} (hurl : urlHost U url = some host)
    (hb : b ∈ hostCandidates host)
    (hw : (e.event.writes e.time).findRev? (·.hits b n) = some w) (hage : w.maxAgeSecs ≠ some 0)
    (jars : JarRef → CookieJar) :
    ∃ part, part ∈ (e.event.apply ladder e.time jars ref).sentCookies (some e.time) U url := by
  refine ⟨_, CookieJar.mem_sentCookies.mpr
    ⟨b, n, w.entry (some e.time), ⟨host, hurl, hb, ?_, ?_⟩, rfl⟩⟩
  · rcases CookieEvent.lookup_apply href e.time jars with hset | ⟨hnil, -⟩
    · rw [hset, CookieJar.lookup_setAll, hw]
      rfl
    · rw [hnil] at hw
      exact absurd hw (by simp [List.findRev?])
  · rw [Bool.eq_false_iff]
    exact fun hx ↦ hage (CookieJar.isExpiredUnix_expiry.mp hx)

/-- Jars that agree after an event, silent before it, were given nothing to store. -/
theorem storesNothing_of_oneCookieState {cdp : CdpFetcher} (hcdp : ladder.cdp = some cdp)
    (hshared : ladder.cookies = ladder.http.cookies) (hne : cdp.cookies ≠ ladder.http.cookies)
    {e : TimedEvent U} {jars : JarRef → CookieJar} (h : ∀ ref, Silent U e.time (jars ref))
    (hone : OneCookieState U ladder ⟨e.event.apply ladder e.time jars, e.time⟩) :
    StoresNothing e := by
  rintro b n w ⟨url, host, hurl, hb⟩ hw
  by_contra hage
  have hagree := hone cdp hcdp url e.time (Nat.le_refl _)
  dsimp only at hagree
  have hjar : e.event.jar ladder = some ladder.http.cookies ∨
      e.event.jar ladder = some cdp.cookies := by
    cases he : e.event with
    | httpResponse _ _ => exact .inl rfl
    | browserPage _ _ => exact .inr (by simp only [CookieEvent.jar, hcdp, Option.map_some])
    | _ => exact .inl (congrArg some hshared)
  rcases hjar with href | href
  · obtain ⟨part, hp⟩ := exists_sent href hurl hb hw hage jars
    have hp' := (hagree part).mp hp
    rw [CookieEvent.apply_of_ne (by rw [href]; exact fun he ↦ hne (Option.some.inj he).symm)] at hp'
    exact (h _).not_mem hp'
  · obtain ⟨part, hp⟩ := exists_sent href hurl hb hw hage jars
    have hp' := (hagree part).mpr hp
    rw [CookieEvent.apply_of_ne (by rw [href]; exact fun he ↦ hne (Option.some.inj he))] at hp'
    exact (h _).not_mem hp'

/-- Jars stay silent along a run that stores nothing. -/
theorem silent_run {s₀ s : CookieState} {events : List (TimedEvent U)}
    (h₀ : ∀ ref, Silent U s₀.clock (s₀.jars ref)) (hrun : Run (Happens ladder) s₀ events s)
    (hall : ∀ e ∈ events, StoresNothing e) (ref : JarRef) : Silent U s.clock (s.jars ref) := by
  induction hrun generalizing ref with
  | nil => exact h₀ ref
  | @snoc events s e s' _ hlast ih =>
    obtain ⟨hle, rfl⟩ := hlast
    exact silent_apply (hall e (by simp))
      (fun ref ↦ (ih (fun e he ↦ hall e (List.mem_append_left _ he)) ref).mono hle) ref

/-- In every run the jars agree all the way exactly when no event stores anything. -/
theorem oneCookieState_run_iff {cdp : CdpFetcher} (hcdp : ladder.cdp = some cdp)
    (hshared : ladder.cookies = ladder.http.cookies) (hne : cdp.cookies ≠ ladder.http.cookies)
    {s₀ s : CookieState} {events : List (TimedEvent U)}
    (h₀ : ∀ ref, Silent U s₀.clock (s₀.jars ref)) (hrun : Run (Happens ladder) s₀ events s) :
    (∀ past s', past <+: events → Run (Happens ladder) s₀ past s' → OneCookieState U ladder s') ↔
      ∀ e ∈ events, StoresNothing e := by
  constructor
  · intro hone
    induction hrun with
    | nil => simp
    | @snoc events s e s' hrun hlast ih =>
      have hpast : ∀ e ∈ events, StoresNothing e :=
        ih fun past s' hpre ↦ hone past s' (hpre.trans (List.prefix_append _ _))
      obtain ⟨hle, rfl⟩ := hlast
      have hlast : StoresNothing e := storesNothing_of_oneCookieState hcdp hshared hne
        (fun ref ↦ (silent_run h₀ hrun hpast ref).mono hle)
        (hone _ _ (List.prefix_refl _) (hrun.snoc ⟨hle, rfl⟩))
      intro e' he'
      rcases List.mem_append.mp he' with he' | he'
      · exact hpast e' he'
      · rw [List.mem_singleton.mp he']
        exact hlast
  · intro hall past s' hpre hpast
    exact oneCookieState_of_silent (silent_run h₀ hpast fun e he ↦ hall e (hpre.subset he))

section Built

/-- The state as one of the two constructors builds it. -/
def IsBuilt (startup : Startup) (config : Config) (built : AppState × JarHeap) : Prop :=
  built = AppState.fromConfig startup config ∨ built = AppState.fromConfigAsync startup config

/-- The loading of the cookie file, if there is one, at the start. -/
def seedEvent (startup : Startup) (config : Config) (U : UrlCrate) (t : Nat) :
    Option (TimedEvent U) :=
  (resolveCookiePersistencePath startup config.cookiePersistencePath).map fun path ↦
    ⟨t, .seed (startup.cookieFile path)⟩

variable {startup : Startup} {config : Config}

private theorem update_new (ref : JarRef) :
    Function.update (fun _ ↦ CookieJar.new) ref .new = fun _ ↦ CookieJar.new :=
  Function.update_eq_self_iff.mpr rfl

/-- With the browser enabled, the ladder shares the HTTP fetcher's jar, the browser has another,
and only the cookie file has been stored. -/
theorem built_jars {built : AppState × JarHeap} (h : IsBuilt startup config built)
    (hcdp : config.cdpEnabled = true) {t : Nat} (ht : startup.now = some t) (U : UrlCrate) :
    built.1.ladder.cookies = built.1.ladder.http.cookies ∧
      (∃ cdp, built.1.ladder.cdp = some cdp ∧ cdp.cookies ≠ built.1.ladder.http.cookies) ∧
      built.2.jars = match seedEvent startup config U t with
        | some e => e.event.apply built.1.ladder t fun _ ↦ .new
        | none => fun _ ↦ .new := by
  obtain ⟨proxy, rfl⟩ : ∃ proxy, built = AppState.build startup config proxy :=
    h.elim (fun h ↦ ⟨_, h⟩) fun h ↦ ⟨_, h⟩
  refine ⟨rfl, ?_, ?_⟩
  · refine ⟨.withCookies 1, ?_, Nat.one_ne_zero⟩
    simp only [AppState.build, hcdp, if_true]
    rfl
  · have hheap : (newCdpFetcher (newHttpFetcher config.stealthEnabled .empty).2).2.jars =
        fun _ ↦ CookieJar.new := by
      simp only [newCdpFetcher, newHttpFetcher, JarHeap.alloc, JarHeap.empty, update_new]
    simp only [AppState.build, hcdp, if_true, hheap, ht, seedEvent]
    cases resolveCookiePersistencePath startup config.cookiePersistencePath <;> rfl

private theorem silent_new (clock : Nat) : Silent U clock .new := by
  intro b n e _ he
  rw [CookieJar.lookup_new] at he
  exact absurd he (by simp)

/-- With the browser enabled, the fetchers keep one cookie state along a run from a state built by
either constructor exactly when neither the cookie file nor any event stores a cookie. -/
theorem oneCookieState_iff {built : AppState × JarHeap} (hbuilt : IsBuilt startup config built)
    (hcdp : config.cdpEnabled = true) {t : Nat} (ht : startup.now = some t) {s : CookieState}
    {events : List (TimedEvent U)}
    (hrun : Run (Happens built.1.ladder) ⟨built.2.jars, t⟩ events s) :
    (∀ past s', past <+: events → Run (Happens built.1.ladder) ⟨built.2.jars, t⟩ past s' →
      OneCookieState U built.1.ladder s') ↔
      (∀ e ∈ seedEvent startup config U t, StoresNothing e) ∧ ∀ e ∈ events, StoresNothing e := by
  obtain ⟨hshared, ⟨cdp, hc, hne⟩, hjars⟩ := built_jars hbuilt hcdp ht U
  cases hseed : seedEvent startup config U t with
  | none =>
    rw [hseed] at hjars
    rw [oneCookieState_run_iff hc hshared hne (by rw [hjars]; exact fun _ ↦ silent_new t) hrun]
    simp
  | some e =>
    have htime : e.time = t := by
      obtain ⟨path, -, rfl⟩ := Option.map_eq_some_iff.mp hseed
      rfl
    subst htime
    rw [hseed] at hjars
    dsimp only at hjars
    have hquiet : (∀ past s', past <+: events →
        Run (Happens built.1.ladder) ⟨built.2.jars, e.time⟩ past s' →
          OneCookieState U built.1.ladder s') → StoresNothing e := by
      intro hone
      refine storesNothing_of_oneCookieState hc hshared hne (fun _ ↦ silent_new e.time) ?_
      rw [← hjars]
      exact hone [] _ List.nil_prefix .nil
    have hsilent : StoresNothing e → ∀ ref, Silent U e.time (built.2.jars ref) := by
      intro he
      rw [hjars]
      exact silent_apply he fun _ ↦ silent_new e.time
    constructor
    · intro hone
      refine ⟨fun e' he' ↦ ?_, ?_⟩
      · obtain rfl := Option.some.inj he'
        exact hquiet hone
      · exact (oneCookieState_run_iff hc hshared hne (hsilent (hquiet hone)) hrun).mp hone
    · rintro ⟨hfile, hall⟩
      exact (oneCookieState_run_iff hc hshared hne (hsilent (hfile e rfl)) hrun).mpr hall

end Built

/-- A start without environment variables. -/
def firstBoot : Startup where
  var _ := none
  proxyChild := .ready
  newFlaresolverr url := .ok ⟨url⟩
  probeWritable _ := true
  cookieFile _ := .missing
  now := some 0

/-- The browser enabled, and cookies kept in memory only. -/
def browserConfig : Config where
  stealthEnabled := true
  cdpEnabled := true
  flaresolverrUrl := none
  cookiePersistencePath := none

/-- The state of that start, built without a proxy. -/
def firstState : AppState × JarHeap := AppState.fromConfig firstBoot browserConfig

theorem oneCookieState_iff_clear :
    (∀ past s', past <+: [(⟨5, .clearL1 "shop.example"⟩ : TimedEvent .plain)] →
      Run (Happens firstState.1.ladder) ⟨firstState.2.jars, 0⟩ past s' →
        OneCookieState .plain firstState.1.ladder s') ↔
      (∀ e ∈ seedEvent firstBoot browserConfig .plain 0, StoresNothing e) ∧
        ∀ e ∈ [(⟨5, .clearL1 "shop.example"⟩ : TimedEvent .plain)], StoresNothing e :=
  oneCookieState_iff (.inl rfl) rfl rfl (.snoc .nil ⟨Nat.zero_le 5, rfl⟩)

/-- A response of `shop.example` that sets a session cookie. -/
def shopResponse : WireResponse .plain where
  url := ⟨"https://shop.example/", by decide⟩
  status := 200
  statusText := "200 OK"
  headers := [("set-cookie", some "id=7")]
  body := .ok []

/-- A cookie that the HTTP fetcher stores is not sent by the browser. -/
theorem not_oneCookieState_httpCookie :
    ¬ ∀ (startup : Startup) (config : Config) (built : AppState × JarHeap) (U : UrlCrate) (t : Nat)
        (events : List (TimedEvent U)) (s : CookieState),
      IsBuilt startup config built → config.cdpEnabled = true → startup.now = some t →
      Run (Happens built.1.ladder) ⟨built.2.jars, t⟩ events s →
        OneCookieState U built.1.ladder s := by
  intro h
  let e : TimedEvent .plain := ⟨0, .httpResponse "https://shop.example/" shopResponse⟩
  have hone := h firstBoot browserConfig firstState .plain 0 [e] _ (.inl rfl) rfl rfl
    (.snoc .nil ⟨Nat.le_refl 0, rfl⟩)
  obtain ⟨hshared, ⟨cdp, hcdp, hne⟩, hjars⟩ :=
    built_jars (.inl rfl : IsBuilt firstBoot browserConfig firstState) rfl rfl .plain
  have hsilent : ∀ ref, Silent .plain 0 (firstState.2.jars ref) := by
    rw [hjars]
    exact fun _ ↦ silent_new 0
  have hnothing : StoresNothing e :=
    storesNothing_of_oneCookieState hcdp hshared hne hsilent hone
  have hage := hnothing "shop.example" "id" ⟨"shop.example", "id", "7", none⟩
    ⟨"https://shop.example/", "shop.example", by decide, by decide⟩
    (by decide)
  exact absurd hage (by decide)

end CrwShield.Server
