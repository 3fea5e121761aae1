import CrwShield.Antibot.PageDetectors
import CrwShield.Fetch.Ladder

/-!
# The step after the HTTP page

The steps that `FetchLadder::fetch` takes, `src/crates/fetch/src/ladder.rs:578–661`, against the
step that the diagnosis of the HTTP page suggests. The fetchers are run with their calls noted.
-/

open CrwShield.Base CrwShield.Base.Str CrwShield.Antibot CrwShield.Core

namespace CrwShield.Fetch

universe u
variable {ω : Type u}

/-- A call of a fetcher. -/
inductive LadderStep where
  | http
  | cdp
  | flaresolverr
  deriving DecidableEq

/-- Run a fetcher and note the step. -/
def noted {α : Type} (step : LadderStep) (f : Env ω → α × Env ω) (env : Env (ω × List LadderStep)) :
    α × Env (ω × List LadderStep) :=
  let out := f ⟨env.jars, env.world.1⟩
  (out.1, ⟨out.2.jars, out.2.world, env.world.2 ++ [step]⟩)

/-- The same fetchers, with their calls noted in order. -/
def Backends.traced (B : Backends ω) : Backends (ω × List LadderStep) where
  now w := B.now w.1
  http fetcher request := noted .http (B.http fetcher request)
  cdp fetcher request := noted .cdp (B.cdp fetcher request)
  flaresolverr client url millis := noted .flaresolverr (B.flaresolverr client url millis)

namespace FetchLadder

variable (B : Backends ω) (U : UrlCrate) (ladder : FetchLadder)

/-- What a fetch returns, and the steps it takes. -/
def tracedFetch (request : ScrapeRequest) (env : Env ω) :
    Except CrwError LadderResult × List LadderStep :=
  let out := ladder.fetch B.traced U request ⟨env.jars, env.world, []⟩
  (out.1, out.2.world.2)

/-- A client is configured and the host of the URL is allowed. -/
def FlaresolverrReady (url : Str) : Prop :=
  ladder.flaresolverr.isSome ∧
    ∃ h, (U.parse url).toOption.bind U.hostStr = some h ∧ ladder.fsAllowlist.isAllowed h

variable {ladder} in
theorem steps_tryCdp (request : ScrapeRequest) (env : Env (ω × List LadderStep))
    (h : ladder.cdp.isSome) :
    (ladder.tryCdp B.traced request env).2.world.2 = env.world.2 ++ [.cdp] := by
  obtain ⟨cdp, hcdp⟩ := Option.isSome_iff_exists.mp h
  simp only [tryCdp, hcdp, Backends.traced, noted]

/-- Where FlareSolverr is ready it is called; otherwise the page at hand is left alone. -/
theorem steps_tryFlaresolverr (url : Str) (request : ScrapeRequest) (fromCdp : Bool)
    (env : Env (ω × List LadderStep)) :
    (ladder.FlaresolverrReady U url ∧
      (ladder.tryFlaresolverr B.traced U url request fromCdp env).2.world.2 =
        env.world.2 ++ [.flaresolverr]) ∨
    (¬ ladder.FlaresolverrReady U url ∧
      ladder.tryFlaresolverr B.traced U url request fromCdp env = (.ok none, env)) := by
  unfold tryFlaresolverr FlaresolverrReady
  cases hhost : (U.parse url).toOption.bind U.hostStr with
  | none => exact .inr ⟨by simp, rfl⟩
  | some h =>
    dsimp only
    by_cases hallowed : ladder.fsAllowlist.isAllowed h = true
    · simp only [hallowed, Bool.not_true, Bool.false_eq_true, ↓reduceIte]
      cases hclient : ladder.flaresolverr with
      | none => exact .inr ⟨by simp, rfl⟩
      | some fs =>
        refine .inl ⟨⟨rfl, h, rfl, hallowed⟩, ?_⟩
        dsimp only [Backends.traced, noted]
        rcases B.flaresolverr fs url 60000 ⟨env.jars, env.world.1⟩ with ⟨_ | solution, env'⟩
        · rfl
        · dsimp only
          cases validateFlaresolverrSolution solution.html with
          | error msg => rfl
          | ok overrideKind => rfl
    · have hdenied : ladder.fsAllowlist.isAllowed h = false := by simpa using hallowed
      simp only [hdenied, Bool.not_false, ↓reduceIte]
      exact .inr ⟨by simp [hdenied], trivial⟩

/-- Once taken, a step stays noted. -/
theorem steps_finishCdp (request : ScrapeRequest) (res : CdpFetchResult) (source : FetchSource)
    (situation : SituationReport) (env : Env (ω × List LadderStep)) :
    ∃ rest, (ladder.finishCdp B.traced U request res source situation env).2.world.2 =
      env.world.2 ++ rest := by
  unfold finishCdp
  split
  · rcases steps_tryFlaresolverr B U ladder request.url request true env with
      ⟨-, hsteps⟩ | ⟨-, heq⟩
    · rcases hfs : ladder.tryFlaresolverr B.traced U request.url request true env with
        ⟨_ | _ | _, env'⟩ <;> rw [hfs] at hsteps <;> exact ⟨_, hsteps⟩
    · rw [heq]
      exact ⟨[], (List.append_nil _).symm⟩
  · exact ⟨[], (List.append_nil _).symm⟩

variable {B U ladder}

section HttpPage

variable {request : ScrapeRequest} {env : Env ω} {page : FetchResult}

private theorem traced_http (hhttp : (B.http ladder.http request env).1 = .ok page) :
    ∃ env', B.traced.http ladder.http request ⟨env.jars, env.world, []⟩ =
    (.ok page, env') ∧ env'.world.2 = [.http] := by
  refine ⟨_, Prod.ext hhttp rfl, rfl⟩

variable (hforce : needsCdp request = false)
  (hhttp : (B.http ladder.http request env).1 = .ok page)
include hforce hhttp

/-- A page that is not escalated is returned. -/
theorem tracedFetch_kept (hesc : httpShouldEscalate page = false) :
    ladder.tracedFetch B U request env =
      (.ok ⟨page, none, .http, diagnoseFetch page⟩, [.http]) := by
  obtain ⟨env', htraced, hsteps⟩ := traced_http hhttp
  unfold tracedFetch fetch
  simp only [hforce, htraced, hesc, Bool.false_eq_true, Bool.not_false, ↓reduceIte, hsteps]

/-- A page that is escalated is fetched again by the browser, if there is one. -/
theorem tracedFetch_cdp (hesc : httpShouldEscalate page = true) (hcdp : ladder.cdp.isSome) :
    ∃ rest, (ladder.tracedFetch B U request env).2 = .http :: .cdp :: rest := by
  obtain ⟨env', htraced, hsteps⟩ := traced_http hhttp
  unfold tracedFetch fetch
  simp only [hforce, htraced, hesc, hcdp, Bool.false_eq_true, Bool.not_true, ↓reduceIte]
  have hnoted := steps_tryCdp B request env' hcdp
  rw [hsteps] at hnoted
  rcases htry : ladder.tryCdp B.traced request env' with ⟨e | res, env''⟩ <;> rw [htry] at hnoted
  · dsimp only at hnoted ⊢
    rcases steps_tryFlaresolverr B U ladder request.url request true env'' with
      ⟨-, hfs⟩ | ⟨-, heq⟩
    · rcases hout : ladder.tryFlaresolverr B.traced U request.url request true env'' with
        ⟨_ | _ | _, env₃⟩ <;> rw [hout, hnoted] at hfs <;> exact ⟨[.flaresolverr], hfs⟩
    · rw [heq]
      exact ⟨[], hnoted⟩
  · obtain ⟨rest, hrest⟩ := steps_finishCdp B U ladder request res .httpChallengeThenCdp
      (diagnoseFetch page) env''
    refine ⟨rest, hrest.trans ?_⟩
    rw [hnoted]
    rfl

/-- Without a browser, a page that is escalated goes to FlareSolverr, if that is ready. -/
theorem tracedFetch_flaresolverr (hesc : httpShouldEscalate page = true) (hcdp : ladder.cdp = none)
    (hready : ladder.FlaresolverrReady U request.url) :
    (ladder.tracedFetch B U request env).2 = [.http, .flaresolverr] := by
  obtain ⟨env', htraced, hsteps⟩ := traced_http hhttp
  unfold tracedFetch fetch
  simp only [hforce, htraced, hesc, hcdp, Option.isSome_none, Bool.false_eq_true, Bool.not_true,
    ↓reduceIte]
  rcases steps_tryFlaresolverr B U ladder request.url request false env' with
    ⟨-, hfs⟩ | ⟨hnot, -⟩
  · rw [hsteps] at hfs
    rcases hout : ladder.tryFlaresolverr B.traced U request.url request false env' with
      ⟨_ | _ | _, env₃⟩ <;> rw [hout] at hfs <;> exact hfs
  · exact absurd hready hnot

/-- With no other fetcher, a page that is escalated is returned after all. -/
theorem tracedFetch_stuck (hesc : httpShouldEscalate page = true) (hcdp : ladder.cdp = none)
    (hready : ¬ ladder.FlaresolverrReady U request.url) :
    ladder.tracedFetch B U request env =
      (.ok ⟨page, none, .http, diagnoseFetch page⟩, [.http]) := by
  obtain ⟨env', htraced, hsteps⟩ := traced_http hhttp
  unfold tracedFetch fetch
  simp only [hforce, htraced, hesc, hcdp, Option.isSome_none, Bool.false_eq_true, Bool.not_true,
    ↓reduceIte]
  rcases steps_tryFlaresolverr B U ladder request.url request false env' with
    ⟨hyes, -⟩ | ⟨-, heq⟩
  · exact absurd hyes hready
  · simp only [heq, hsteps]

end HttpPage

/-- The step after an HTTP page, where it follows the diagnosis: the browser when the diagnosis
suggests it and there is one; FlareSolverr when the diagnosis suggests it, it is ready and there is
no browser; no browser where there is none and the diagnosis suggests to wait, as for every page
without a browser; and where the diagnosis suggests to stay, the page itself, unless the legacy
test finds it empty or blocked. Then the browser takes over, and with neither a browser nor
FlareSolverr the page is returned after all. -/
theorem fetch_next_step {request : ScrapeRequest} {env : Env ω} {page : FetchResult}
    (hforce : needsCdp request = false) (hhttp : (B.http ladder.http request env).1 = .ok page) :
    ((diagnoseFetch page).suggestedLadder = .cdp → ladder.cdp.isSome →
      ∃ rest, (ladder.tracedFetch B U request env).2 = .http :: .cdp :: rest) ∧
    ((diagnoseFetch page).suggestedLadder = .flareSolverr →
      ladder.FlaresolverrReady U request.url → ladder.cdp = none →
      (ladder.tracedFetch B U request env).2 = [.http, .flaresolverr]) ∧
    ((diagnoseFetch page).suggestedLadder = .retryWithDelay → ladder.cdp = none →
      .cdp ∉ (ladder.tracedFetch B U request env).2) ∧
    ((diagnoseFetch page).suggestedLadder = .none → detectEmptyOrBlocked page.html = false →
      ladder.tracedFetch B U request env =
        (.ok ⟨page, none, .http, diagnoseFetch page⟩, [.http])) ∧
    ((diagnoseFetch page).suggestedLadder = .none → detectEmptyOrBlocked page.html = true →
      ladder.cdp.isSome →
      ∃ rest, (ladder.tracedFetch B U request env).2 = .http :: .cdp :: rest) ∧
    ((diagnoseFetch page).suggestedLadder = .none → detectEmptyOrBlocked page.html = true →
      ladder.cdp = none → ¬ ladder.FlaresolverrReady U request.url →
      ladder.tracedFetch B U request env =
        (.ok ⟨page, none, .http, diagnoseFetch page⟩, [.http])) := by
  have hesc : (diagnoseFetch page).suggestedLadder ≠ .none → httpShouldEscalate page = true := by
    intro hne
    simp [httpShouldEscalate, SituationReport.shouldEscalate, hne]
  have hlegacy : (diagnoseFetch page).suggestedLadder = .none →
      httpShouldEscalate page = detectEmptyOrBlocked page.html := by
    intro hnone
    simp [httpShouldEscalate, SituationReport.shouldEscalate, hnone]
  refine ⟨fun hs hcdp ↦ ?_, fun hs hready hcdp ↦ ?_, fun hs hcdp ↦ ?_, fun hs hkeep ↦ ?_,
    fun hs hblocked hcdp ↦ ?_, fun hs hblocked hcdp hready ↦ ?_⟩
  · exact tracedFetch_cdp hforce hhttp (hesc (by simp [hs])) hcdp
  · exact tracedFetch_flaresolverr hforce hhttp (hesc (by simp [hs])) hcdp hready
  · by_cases hready : ladder.FlaresolverrReady U request.url
    · rw [tracedFetch_flaresolverr hforce hhttp (hesc (by simp [hs])) hcdp hready]
      decide
    · rw [tracedFetch_stuck hforce hhttp (hesc (by simp [hs])) hcdp hready]
      simp
  · exact tracedFetch_kept hforce hhttp ((hlegacy hs).trans hkeep)
  · exact tracedFetch_cdp hforce hhttp ((hlegacy hs).trans hblocked) hcdp
  · exact tracedFetch_stuck hforce hhttp ((hlegacy hs).trans hblocked) hcdp hready

/-- A page of text that names a request id once. -/
def rayIdPage : FetchResult where
  url := "https://example.com/"
  finalUrl := "https://example.com/"
  statusCode := 200
  html := List.replicate 65 '語' ++ " ray id"
  headers := []

/-- A ladder with a browser. -/
def browserLadder : FetchLadder := .new ⟨0, true⟩ (some ⟨0⟩) none

/-- Fetchers of which the first serves that page. -/
def rayIdBackends : Backends Unit := .constant (.ok rayIdPage) (.error (.fetch "no browser"))

private theorem http_rayId :
    (rayIdBackends.http browserLadder.http (.defaultForUrl "https://example.com/")
      ⟨fun _ ↦ .new, ()⟩).1 = .ok rayIdPage := rfl

private theorem lower_rayIdPage :
    toAsciiLowercase rayIdPage.html = List.replicate 65 '語' ++ ' ' :: rayId.1 := by
  decide

private theorem occurring_rayIdPage {entry : ProviderEntry} (hentry : entry ∈ providers.all) :
    occurring (toAsciiLowercase rayIdPage.html) entry =
      if entry.kind = rayId.2 then [rayId.1] else [] := by
  rw [lower_rayIdPage]
  exact occurring_rayId 65 hentry

private theorem not_hasTwo_rayIdPage :
    providers.all.find? (hasTwo (toAsciiLowercase rayIdPage.html)) = none := by
  rw [List.find?_eq_none]
  intro entry hentry
  rw [hasTwo, occurring_rayIdPage hentry]
  split
  · exact Bool.false_ne_true
  · exact Bool.false_ne_true

-- One short token is too little at status 200, and enough for the detector that sees no status.
private theorem diagnose_rayIdPage :
    (diagnoseFetch rayIdPage).suggestedLadder = .none ∧
      detectEmptyOrBlocked rayIdPage.html = true := by
  constructor
  · have hclean : (diagnose rayIdPage.html (some 200) none).kind = .cleanSuccess := by
      refine clean_ok_iff.mpr ⟨rfl, ?_, by decide⟩
      rw [scanned, not_hasTwo_rayIdPage, Option.none_or, List.find?_eq_none]
      intro entry hentry
      rw [isStrong_ok, hasTwo, occurring_rayIdPage hentry]
      have hshort : len rayId.1 < 14 := by decide
      split
      · rintro (htwo | ⟨token, heq, hlong⟩)
        · exact Bool.false_ne_true htwo
        · rw [← (List.cons.inj heq).1] at hlong
          omega
      · rintro (htwo | ⟨token, heq, -⟩)
        · exact Bool.false_ne_true htwo
        · exact List.cons_ne_nil _ _ heq.symm
    change (diagnose rayIdPage.html (some 200) none).suggestedLadder = .none
    rw [diagnose_clean hclean]
    rfl
  · have hfirst : (providers.all.find? (hasOne (toAsciiLowercase rayIdPage.html))).map
        ProviderEntry.kind = some .cloudflareIuam := by
      have hone : ∀ entry ∈ providers.all, hasOne (toAsciiLowercase rayIdPage.html) entry =
          (entry.kind == .cloudflareIuam) := by
        intro entry hentry
        rw [hasOne, occurring_rayIdPage hentry]
        by_cases hkind : entry.kind = rayId.2
        · rw [if_pos hkind, hkind]
          rfl
        · rw [if_neg hkind]
          exact (beq_eq_false_iff_ne.mpr hkind).symm
      rw [List.find?_congr hone]
      decide
    obtain ⟨entry, hentry, hkind⟩ := Option.map_eq_some_iff.mp hfirst
    have hscan : scanned (toAsciiLowercase rayIdPage.html) none = some entry := by
      rw [scanned_of_ne (by simp), not_hasTwo_rayIdPage, Option.none_or, hentry]
    have hreport : (diagnose rayIdPage.html none none).kind = .cloudflareIuam := by
      rw [diagnose_scan rfl rfl, hscan]
      exact hkind
    unfold detectEmptyOrBlocked
    dsimp only
    rw [hreport]
    rfl

theorem fetch_next_step_rayId :
    ∃ rest, (browserLadder.tracedFetch rayIdBackends .plain
      (.defaultForUrl "https://example.com/") ⟨fun _ ↦ .new, ()⟩).2 = .http :: .cdp :: rest :=
  (fetch_next_step (by rfl) http_rayId).2.2.2.2.1 diagnose_rayIdPage.1 diagnose_rayIdPage.2 rfl

/-- A clean page that names a request id once is not returned: the browser is asked. -/
theorem not_fetch_suggested_rayId :
    ¬ ∀ (B : Backends Unit) (U : UrlCrate) (ladder : FetchLadder) (request : ScrapeRequest)
        (env : Env Unit) (page : FetchResult),
      needsCdp request = false → (B.http ladder.http request env).1 = .ok page →
      ((diagnoseFetch page).suggestedLadder = .flareSolverr →
        ladder.FlaresolverrReady U request.url →
        ∃ rest, (ladder.tracedFetch B U request env).2 = .http :: .flaresolverr :: rest) ∧
      ((diagnoseFetch page).suggestedLadder = .retryWithDelay →
        .cdp ∉ (ladder.tracedFetch B U request env).2) ∧
      ((diagnoseFetch page).suggestedLadder = .cdp → ladder.cdp.isSome →
        ∃ rest, (ladder.tracedFetch B U request env).2 = .http :: .cdp :: rest) ∧
      ((diagnoseFetch page).suggestedLadder = .none →
        ladder.tracedFetch B U request env =
          (.ok ⟨page, none, .http, diagnoseFetch page⟩, [.http])) := by
  intro hclaim
  obtain ⟨-, -, -, hnone⟩ := hclaim rayIdBackends .plain browserLadder
    (.defaultForUrl "https://example.com/") ⟨fun _ ↦ .new, ()⟩ rayIdPage (by rfl) rfl
  have hkept := hnone diagnose_rayIdPage.1
  obtain ⟨rest, hsteps⟩ := tracedFetch_cdp (U := .plain) (by rfl) http_rayId
    (by simp [httpShouldEscalate, diagnose_rayIdPage.2]) rfl
  rw [hkept] at hsteps
  exact absurd hsteps (by simp)

end FetchLadder
end CrwShield.Fetch
