import CrwShield.Fetch.Ladder

/-!
# The calls of a fetch

Which fetchers `FetchLadder::fetch`, `src/crates/fetch/src/ladder.rs:578–747`, calls for one
request, with what they answer, against what it returns. The fetchers are run with their answers
logged.
-/

open CrwShield.Base CrwShield.Base.Str CrwShield.Antibot CrwShield.Core

namespace CrwShield.Fetch

universe u
variable {ω : Type u}

/-- A call of a fetcher, with its answer. -/
inductive LadderCall where
  | http (answer : Except CrwError FetchResult)
  | cdp (answer : Except CrwError CdpFetchResult)
  | flaresolverr (answer : Except CrwError FlareSolverrResult)

/-- The rungs of the ladder. -/
inductive Rung where
  | http
  | cdp
  | flaresolverr
  deriving DecidableEq

namespace LadderCall

/-- The rung of a call. -/
def rung : LadderCall → Rung
  | .http _ => .http
  | .cdp _ => .cdp
  | .flaresolverr _ => .flaresolverr

/-- The page and the screenshot that a call answered with. -/
def served (request : ScrapeRequest) : LadderCall → Option (FetchResult × Option (List UInt8))
  | .http (.ok page) => some (page, none)
  | .cdp (.ok res) => some (res.page, res.screenshot)
  | .flaresolverr (.ok solution) => some (solution.page request, none)
  | _ => none

/-- Why a call ends the fetch without a page: it failed, or the page of the solver was refused. -/
def failure : LadderCall → Option CrwError
  | .http (.error e) | .cdp (.error e) | .flaresolverr (.error e) => some e
  | .flaresolverr (.ok solution) =>
    match validateFlaresolverrSolution solution.html with
    | .error msg => some (.fetch msg)
    | .ok _ => none
  | _ => none

end LadderCall

/-- The environment with a log beside the world. -/
def Env.withLog (env : Env ω) (log : List LadderCall) : Env (ω × List LadderCall) :=
  ⟨env.jars, env.world, log⟩

/-- Run a fetcher and log its answer. -/
def logged {α : Type} (call : α → LadderCall) (f : Env ω → α × Env ω)
    (env : Env (ω × List LadderCall)) : α × Env (ω × List LadderCall) :=
  let out := f ⟨env.jars, env.world.1⟩
  (out.1, out.2.withLog (env.world.2 ++ [call out.1]))

/-- The same fetchers, with their answers logged. -/
def Backends.logged (B : Backends ω) : Backends (ω × List LadderCall) where
  now w := B.now w.1
  http fetcher request := Fetch.logged .http (B.http fetcher request)
  cdp fetcher request := Fetch.logged .cdp (B.cdp fetcher request)
  flaresolverr client url millis := Fetch.logged .flaresolverr (B.flaresolverr client url millis)

/-- The rungs from which a source says that a page comes. -/
def FetchSource.rungs : FetchSource → List (List Rung)
  | .http => [[.http]]
  | .cdp => [[.cdp], [.http, .cdp]]
  | .httpChallengeThenCdp => [[.http, .cdp]]
  | .flareSolverr => [[.http, .flaresolverr]]
  | .cdpThenFlareSolverr => [[.cdp, .flaresolverr], [.http, .cdp, .flaresolverr]]

namespace FetchLadder

variable (B : Backends ω) (U : UrlCrate) (ladder : FetchLadder)

/-- The calls that a fetch makes, in their order. -/
def fetchCalls (request : ScrapeRequest) (env : Env ω) : List LadderCall :=
  (ladder.fetch B.logged U request (env.withLog [])).2.world.2

/-- The solver may be asked: there is a client, and the host of the URL is allowed. -/
def SolverAllowed (url : Str) : Prop :=
  ladder.flaresolverr.isSome ∧
    ∃ h, (U.parse url).toOption.bind U.hostStr = some h ∧ ladder.fsAllowlist.isAllowed h

/-- The calls of a fetch account for what it returns. Each rung is called once at most, from the
bottom up, and only where it is configured and asked for; a page is the one that the last call
answered with, under a source that names the rungs called; an error is that of the last call, or
that of a missing browser. -/
structure Accounted (request : ScrapeRequest) (out : Except CrwError LadderResult)
    (calls : List LadderCall) : Prop where
  once : (calls.map LadderCall.rung).Sublist [.http, .cdp, .flaresolverr]
  first : .http ∈ calls.map LadderCall.rung ↔ needsCdp request = false
  browser : .cdp ∈ calls.map LadderCall.rung → ladder.cdp.isSome
  solver : .flaresolverr ∈ calls.map LadderCall.rung → ladder.SolverAllowed U request.url
  page : ∀ r, out = .ok r → calls.map LadderCall.rung ∈ r.source.rungs ∧
    calls.getLast?.bind (LadderCall.served request) = some (r.fetch, r.screenshot)
  error : ∀ e, out = .error e → calls.getLast?.bind LadderCall.failure = some e ∨
    calls = [] ∧ ladder.cdp = none ∧ e = .notImplemented "CDP fetcher not configured"

/-- How an escalation to the solver ends, and what it calls. -/
inductive SolverEnd (url : Str) (request : ScrapeRequest) (fromCdp : Bool) :
    Except CrwError (Option LadderResult) → List LadderCall → Prop where
  | skipped : ¬ ladder.SolverAllowed U url → SolverEnd url request fromCdp (.ok none) []
  | failed {answer : Except CrwError FlareSolverrResult} {e : CrwError} :
      ladder.SolverAllowed U url → (LadderCall.flaresolverr answer).failure = some e →
      SolverEnd url request fromCdp (.error e) [.flaresolverr answer]
  | solved {answer : Except CrwError FlareSolverrResult} {r : LadderResult} :
      ladder.SolverAllowed U url →
      (LadderCall.flaresolverr answer).served request = some (r.fetch, r.screenshot) →
      r.source = (if fromCdp then .cdpThenFlareSolverr else .flareSolverr) →
      SolverEnd url request fromCdp (.ok (some r)) [.flaresolverr answer]

/-- What an escalation returns where another answer is kept if the solver was not asked. -/
def orKept (kept : Except CrwError LadderResult) :
    Except CrwError (Option LadderResult) → Except CrwError LadderResult
  | .error e => .error e
  | .ok (some r) => .ok r
  | .ok none => kept

/-- Ask the solver, and keep another answer if it was not asked. -/
def escalate (kept : Except CrwError LadderResult) (request : ScrapeRequest) (fromCdp : Bool)
    (env : Env ω) : Except CrwError LadderResult × Env ω :=
  let out := ladder.tryFlaresolverr B U request.url request fromCdp env
  (orKept kept out.1, out.2)

/-- The calls made before the solver may be asked. -/
structure Climbed (request : ScrapeRequest) (fromCdp : Bool) (calls : List LadderCall) :
    Prop where
  once : (calls.map LadderCall.rung).Sublist [.http, .cdp]
  first : .http ∈ calls.map LadderCall.rung ↔ needsCdp request = false
  browser : .cdp ∈ calls.map LadderCall.rung → ladder.cdp.isSome
  source : calls.map LadderCall.rung ++ [.flaresolverr] ∈
    (if fromCdp then FetchSource.cdpThenFlareSolverr else .flareSolverr).rungs

/-- A program makes some calls when it is run on logged fetchers, and is otherwise the same. -/
def Logs {α : Type} (logged : Env (ω × List LadderCall) → α × Env (ω × List LadderCall))
    (out : α × Env ω) (env : Env ω) (calls : List LadderCall) : Prop :=
  ∀ log, logged (env.withLog log) = (out.1, out.2.withLog (log ++ calls))

variable {B U ladder}

section Steps

variable {request : ScrapeRequest} {url : Str} {env : Env ω}

theorem logs_http (ladder : FetchLadder) (request : ScrapeRequest) (env : Env ω) :
    Logs (B.logged.http ladder.http request) (B.http ladder.http request env) env
      [.http (B.http ladder.http request env).1] := fun _ ↦ rfl

theorem logs_tryCdp (hcdp : ladder.cdp.isSome) (request : ScrapeRequest) (env : Env ω) :
    Logs (ladder.tryCdp B.logged request) (ladder.tryCdp B request env) env
      [.cdp (ladder.tryCdp B request env).1] := by
  intro log
  obtain ⟨cdp, hcdp⟩ := Option.isSome_iff_exists.mp hcdp
  simp only [tryCdp, hcdp]
  rfl

/-- The solver is called where it is allowed, and its answer decides. -/
theorem logs_tryFlaresolverr (url : Str) (request : ScrapeRequest) (fromCdp : Bool)
    (env : Env ω) :
    ∃ calls, Logs (ladder.tryFlaresolverr B.logged U url request fromCdp)
        (ladder.tryFlaresolverr B U url request fromCdp env) env calls ∧
      SolverEnd U ladder url request fromCdp
        (ladder.tryFlaresolverr B U url request fromCdp env).1 calls := by
  unfold tryFlaresolverr Logs
  cases hhost : (U.parse url).toOption.bind U.hostStr with
  | none =>
    refine ⟨[], fun log ↦ by rw [List.append_nil], .skipped ?_⟩
    rintro ⟨-, h, hsome, -⟩
    exact absurd (hhost.symm.trans hsome) (by simp)
  | some h =>
    dsimp only
    by_cases hallowed : ladder.fsAllowlist.isAllowed h = true
    · simp only [hallowed, Bool.not_true, Bool.false_eq_true, ↓reduceIte]
      cases hclient : ladder.flaresolverr with
      | none =>
        refine ⟨[], fun log ↦ by rw [List.append_nil], .skipped ?_⟩
        rintro ⟨hsome, -⟩
        rw [hclient] at hsome
        exact absurd hsome (by simp)
      | some fs =>
        have hready : ladder.SolverAllowed U url := ⟨by rw [hclient]; rfl, h, hhost, hallowed⟩
        refine ⟨[.flaresolverr (B.flaresolverr fs url 60000 env).1], fun log ↦ ?_, ?_⟩
        · dsimp only [Backends.logged, Fetch.logged, Env.withLog]
          rcases B.flaresolverr fs url 60000 env with ⟨_ | solution, env'⟩
          · rfl
          · dsimp only
            cases validateFlaresolverrSolution solution.html with
            | error msg => rfl
            | ok overrideKind => rfl
        · rcases hout : B.flaresolverr fs url 60000 env with ⟨e | solution, env'⟩
          · simp only [hout]
            exact .failed hready rfl
          · simp only [hout]
            cases hvalid : validateFlaresolverrSolution solution.html with
            | error msg =>
              have hfail :
                  (LadderCall.flaresolverr (.ok solution)).failure = some (.fetch msg) := by
                simp only [LadderCall.failure, hvalid]
              exact .failed hready hfail
            | ok overrideKind => exact .solved hready rfl rfl
    · have hdenied : ladder.fsAllowlist.isAllowed h = false := by simpa using hallowed
      simp only [hdenied, Bool.not_false, ↓reduceIte]
      refine ⟨[], fun log ↦ by rw [List.append_nil], .skipped ?_⟩
      rintro ⟨-, h', hsome, hyes⟩
      obtain rfl := Option.some.inj (hhost.symm.trans hsome)
      exact absurd (hdenied.symm.trans hyes) Bool.false_ne_true

/-- The three ways in which a fetch goes on after it asked the solver. -/
theorem escalate_eq (kept : Except CrwError LadderResult) (fromCdp : Bool) :
    ladder.escalate B U kept request fromCdp env =
      match ladder.tryFlaresolverr B U request.url request fromCdp env with
      | (.error e, env) => (.error e, env)
      | (.ok (some r), env) => (.ok r, env)
      | (.ok none, env) => (kept, env) := by
  unfold escalate
  rcases ladder.tryFlaresolverr B U request.url request fromCdp env with ⟨_ | _ | _, _⟩ <;> rfl

theorem finishCdp_eq (res : CdpFetchResult) (source : FetchSource) (situation : SituationReport) :
    ladder.finishCdp B U request res source situation env =
      if cdpIsEmptyOrBlocked res.html then
        ladder.escalate B U (.ok (res.ladderResult source situation)) request true env
      else (.ok (res.ladderResult source situation), env) := by
  rw [escalate_eq]
  rfl

theorem fetchForcedCdp_eq :
    ladder.fetchForcedCdp B U request env =
      match ladder.tryCdp B request env with
      | (.error e, env) => (.error e, env)
      | (.ok res, env) =>
        let final := res.ladderResult .cdp
          (if cdpEmpty res.html res.screenshot then emptyCdpReport res.statusCode
            else diagnoseFetch res.page)
        if (diagnoseFetch res.page).suggestedLadder = .flareSolverr then
          ladder.escalate B U (.ok final) request true env
        else (.ok final, env) := by
  simp only [escalate_eq]
  rfl

theorem fetch_eq :
    ladder.fetch B U request env =
      if needsCdp request then ladder.fetchForcedCdp B U request env
      else
        match B.http ladder.http request env with
        | (.ok page, env) =>
          if !httpShouldEscalate page then (.ok ⟨page, none, .http, diagnoseFetch page⟩, env)
          else if ladder.cdp.isSome then
            match ladder.tryCdp B request env with
            | (.ok res, env) =>
              ladder.finishCdp B U request res .httpChallengeThenCdp (diagnoseFetch page) env
            | (.error e, env) => ladder.escalate B U (.error e) request true env
          else
            ladder.escalate B U (.ok ⟨page, none, .http, diagnoseFetch page⟩) request false env
        | (.error e, env) =>
          if ladder.cdp.isSome then
            match ladder.tryCdp B request env with
            | (.ok res, env) => ladder.finishCdp B U request res .cdp .clean env
            | (.error e, env) => (.error e, env)
          else (.error e, env) := by
  simp only [escalate_eq]
  rfl

end Steps

section Accounts

variable {request : ScrapeRequest} {fromCdp : Bool} {pre calls : List LadderCall}

/-- The calls before the solver account for an answer of the last one. -/
theorem Climbed.accounted (hpre : Climbed ladder request fromCdp pre)
    {out : Except CrwError LadderResult}
    (hpage : ∀ r, out = .ok r → pre.map LadderCall.rung ∈ r.source.rungs ∧
      pre.getLast?.bind (LadderCall.served request) = some (r.fetch, r.screenshot))
    (herror : ∀ e, out = .error e → pre.getLast?.bind LadderCall.failure = some e) :
    Accounted U ladder request out pre where
  once := hpre.once.trans (by simp)
  first := hpre.first
  browser := hpre.browser
  solver h := absurd (hpre.once.subset h) (by simp)
  page := hpage
  error e h := .inl (herror e h)

/-- The page of the last call is returned. -/
theorem Climbed.kept (hpre : Climbed ladder request fromCdp pre) {r : LadderResult}
    (hsource : pre.map LadderCall.rung ∈ r.source.rungs)
    (hserved : pre.getLast?.bind (LadderCall.served request) = some (r.fetch, r.screenshot)) :
    Accounted U ladder request (.ok r) pre := by
  refine hpre.accounted (fun r' h ↦ ?_) fun e h ↦ nomatch h
  obtain rfl : r = r' := Except.ok.inj h
  exact ⟨hsource, hserved⟩

/-- The error of the last call is returned. -/
theorem Climbed.lost (hpre : Climbed ladder request fromCdp pre) {e : CrwError}
    (hfailure : pre.getLast?.bind LadderCall.failure = some e) :
    Accounted U ladder request (.error e) pre := by
  refine hpre.accounted (fun r h ↦ nomatch h) fun e' h ↦ ?_
  obtain rfl : e = e' := Except.error.inj h
  exact hfailure

/-- The calls before the solver, with that of the solver, account for what is then returned. -/
theorem Climbed.escalated (hpre : Climbed ladder request fromCdp pre)
    {kept : Except CrwError LadderResult} {answer : Except CrwError (Option LadderResult)}
    (hkept : Accounted U ladder request kept pre)
    (hend : SolverEnd U ladder request.url request fromCdp answer calls) :
    Accounted U ladder request (orKept kept answer) (pre ++ calls) := by
  have honce (a : Except CrwError FlareSolverrResult) :
      ((pre ++ [LadderCall.flaresolverr a]).map LadderCall.rung).Sublist
        [.http, .cdp, .flaresolverr] := by
    rw [List.map_append]
    exact hpre.once.append (List.Sublist.refl [Rung.flaresolverr])
  have hmem (a : Except CrwError FlareSolverrResult) (rung : Rung) (hrung : rung ≠ .flaresolverr) :
      rung ∈ (pre ++ [LadderCall.flaresolverr a]).map LadderCall.rung ↔
        rung ∈ pre.map LadderCall.rung := by
    rw [List.map_append, List.mem_append]
    exact or_iff_left fun h ↦ hrung (List.mem_singleton.mp h)
  cases hend with
  | skipped _ =>
    rw [List.append_nil]
    exact hkept
  | @failed a e hready hfail =>
    exact
      { once := honce a
        first := (hmem a .http (by simp)).trans hpre.first
        browser := fun h ↦ hpre.browser ((hmem a .cdp (by simp)).mp h)
        solver := fun _ ↦ hready
        page := fun r h ↦ nomatch h
        error := fun e' h ↦ by
          obtain rfl : e = e' := Except.error.inj h
          exact .inl (by rw [List.getLast?_concat]; exact hfail) }
  | @solved a r hready hserved hsource =>
    exact
      { once := honce a
        first := (hmem a .http (by simp)).trans hpre.first
        browser := fun h ↦ hpre.browser ((hmem a .cdp (by simp)).mp h)
        solver := fun _ ↦ hready
        page := fun r' h ↦ by
          obtain rfl : r = r' := Except.ok.inj h
          refine ⟨?_, by rw [List.getLast?_concat]; exact hserved⟩
          rw [hsource, List.map_append]
          exact hpre.source
        error := fun e h ↦ nomatch h }

variable {env : Env ω}

/-- Asking the solver after some calls. -/
theorem Climbed.escalate (hpre : Climbed ladder request fromCdp pre)
    {kept : Except CrwError LadderResult} (hkept : Accounted U ladder request kept pre)
    (env : Env ω) :
    ∃ calls, Accounted U ladder request (ladder.escalate B U kept request fromCdp env).1
        (pre ++ calls) ∧
      Logs (ladder.escalate B.logged U kept request fromCdp)
        (ladder.escalate B U kept request fromCdp env) env calls := by
  obtain ⟨calls, hlogs, hend⟩ :=
    logs_tryFlaresolverr (B := B) request.url request fromCdp env
  refine ⟨calls, hpre.escalated hkept hend, fun log ↦ ?_⟩
  simp only [FetchLadder.escalate, hlogs log]

/-- Ending with a page of the browser after some calls. -/
theorem Climbed.finishCdp (hpre : Climbed ladder request true pre) {res : CdpFetchResult}
    {source : FetchSource} {situation : SituationReport}
    (hkept : Accounted U ladder request (.ok (res.ladderResult source situation)) pre)
    (env : Env ω) :
    ∃ calls, Accounted U ladder request
        (ladder.finishCdp B U request res source situation env).1 (pre ++ calls) ∧
      Logs (ladder.finishCdp B.logged U request res source situation)
        (ladder.finishCdp B U request res source situation env) env calls := by
  by_cases hempty : cdpIsEmptyOrBlocked res.html = true
  · simp only [Logs, finishCdp_eq, hempty, if_true]
    exact hpre.escalate hkept env
  · simp only [Logs, finishCdp_eq, hempty, Bool.false_eq_true, if_false]
    exact ⟨[], by rwa [List.append_nil], fun log ↦ by rw [List.append_nil]⟩

theorem climbed_http (ladder : FetchLadder) (hforced : needsCdp request = false)
    (page : Except CrwError FetchResult) : Climbed ladder request false [.http page] where
  once := by simp [LadderCall.rung]
  first := by simp [LadderCall.rung, hforced]
  browser h := by simp [LadderCall.rung] at h
  source := by simp [LadderCall.rung, FetchSource.rungs]

theorem climbed_cdp (hforced : needsCdp request = true) (hcdp : ladder.cdp.isSome)
    (res : Except CrwError CdpFetchResult) : Climbed ladder request true [.cdp res] where
  once := by simp [LadderCall.rung]
  first := by simp [LadderCall.rung, hforced]
  browser _ := hcdp
  source := by simp [LadderCall.rung, FetchSource.rungs]

theorem climbed_http_cdp (hforced : needsCdp request = false) (hcdp : ladder.cdp.isSome)
    (page : Except CrwError FetchResult) (res : Except CrwError CdpFetchResult) :
    Climbed ladder request true [.http page, .cdp res] where
  once := by simp [LadderCall.rung]
  first := by simp [LadderCall.rung, hforced]
  browser _ := hcdp
  source := by simp [LadderCall.rung, FetchSource.rungs]

/-- A fetch that starts with the browser. -/
theorem fetchForcedCdp_accounted (hforced : needsCdp request = true) (env : Env ω) :
    ∃ calls, Accounted U ladder request (ladder.fetchForcedCdp B U request env).1 calls ∧
      Logs (ladder.fetchForcedCdp B.logged U request)
        (ladder.fetchForcedCdp B U request env) env calls := by
  by_cases hcdp : ladder.cdp.isSome
  · have hlogs := logs_tryCdp (B := B) hcdp request env
    have hpre := climbed_cdp hforced hcdp
    rcases hres : ladder.tryCdp B request env with ⟨e | res, env₁⟩
    · rw [hres] at hlogs
      refine ⟨[.cdp (.error e)], ?_, fun log ↦ ?_⟩
      · simp only [fetchForcedCdp_eq, hres]
        exact (hpre (.error e)).lost rfl
      · simp only [fetchForcedCdp_eq, hres, hlogs log]
    · rw [hres] at hlogs
      have hkept (situation : SituationReport) :
          Accounted U ladder request (.ok (res.ladderResult .cdp situation)) [.cdp (.ok res)] :=
        (hpre (.ok res)).kept (List.mem_cons_self ..) rfl
      by_cases hsolver : (diagnoseFetch res.page).suggestedLadder = .flareSolverr
      · obtain ⟨calls, haccounted, hlogs'⟩ := (hpre (.ok res)).escalate (B := B) (hkept
          (if cdpEmpty res.html res.screenshot then emptyCdpReport res.statusCode
            else diagnoseFetch res.page)) env₁
        refine ⟨.cdp (.ok res) :: calls, ?_, fun log ↦ ?_⟩
        · simp only [fetchForcedCdp_eq, hres, hsolver, if_true]
          exact haccounted
        · simp only [fetchForcedCdp_eq, hres, hlogs log, hsolver, if_true, hlogs' _,
            List.append_assoc, List.singleton_append]
      · refine ⟨[.cdp (.ok res)], ?_, fun log ↦ ?_⟩
        · simp only [fetchForcedCdp_eq, hres, hsolver, if_false]
          exact hkept _
        · simp only [fetchForcedCdp_eq, hres, hlogs log, hsolver, if_false]
  · have hnone : ladder.cdp = none := by simpa using hcdp
    refine ⟨[], ?_, fun log ↦ ?_⟩
    · simp only [fetchForcedCdp_eq, tryCdp, hnone]
      exact
        { once := by simp
          first := by simp [hforced]
          browser := fun h ↦ by simp at h
          solver := fun h ↦ by simp at h
          page := fun r h ↦ nomatch h
          error := fun e h ↦ .inr ⟨rfl, hnone, (Except.error.inj h).symm⟩ }
    · simp only [fetchForcedCdp_eq, tryCdp, hnone, List.append_nil]

/-- A fetch whose HTTP step failed. -/
theorem fetch_accounted_httpError (hforced : needsCdp request = false) {env env₁ : Env ω}
    {e : CrwError} (hpage : B.http ladder.http request env = (.error e, env₁)) :
    ∃ calls, Accounted U ladder request (ladder.fetch B U request env).1 calls ∧
      Logs (ladder.fetch B.logged U request) (ladder.fetch B U request env) env calls := by
  have hhttp := logs_http (B := B) ladder request env
  rw [hpage] at hhttp
  by_cases hcdp : ladder.cdp.isSome
  · have hlogs := logs_tryCdp (B := B) hcdp request env₁
    have hpre := climbed_http_cdp hforced hcdp (.error e)
    rcases hres : ladder.tryCdp B request env₁ with ⟨e' | res, env₂⟩
    · rw [hres] at hlogs
      refine ⟨[.http (.error e), .cdp (.error e')], ?_, fun log ↦ ?_⟩
      · simp only [fetch_eq, hforced, hpage, hcdp, hres, Bool.false_eq_true, if_false, if_true]
        exact (hpre (.error e')).lost rfl
      · simp only [fetch_eq, hforced, hhttp log, hpage, hcdp, hlogs _, hres, Bool.false_eq_true,
          if_false, if_true, List.append_assoc, List.singleton_append]
    · rw [hres] at hlogs
      have hkept : Accounted U ladder request (.ok (res.ladderResult .cdp .clean))
          [.http (.error e), .cdp (.ok res)] :=
        (hpre (.ok res)).kept (List.mem_cons_of_mem _ (List.mem_cons_self ..)) rfl
      obtain ⟨calls, haccounted, hrest⟩ := (hpre (.ok res)).finishCdp (B := B) hkept env₂
      refine ⟨[.http (.error e), .cdp (.ok res)] ++ calls, ?_, fun log ↦ ?_⟩
      · simp only [fetch_eq, hforced, hpage, hcdp, hres, Bool.false_eq_true, if_false, if_true]
        exact haccounted
      · simp only [fetch_eq, hforced, hhttp log, hpage, hcdp, hlogs _, hres, hrest _,
          Bool.false_eq_true, if_false, if_true, List.append_assoc, List.cons_append,
          List.nil_append]
  · refine ⟨[.http (.error e)], ?_, fun log ↦ ?_⟩
    · simp only [fetch_eq, hforced, hpage, hcdp, Bool.false_eq_true, if_false]
      exact (climbed_http ladder hforced (.error e)).lost rfl
    · simp only [fetch_eq, hforced, hhttp log, hpage, hcdp, Bool.false_eq_true, if_false]

/-- A fetch whose HTTP step returned a page that asks for more. -/
theorem fetch_accounted_escalated (hforced : needsCdp request = false) {env env₁ : Env ω}
    {page : FetchResult} (hpage : B.http ladder.http request env = (.ok page, env₁))
    (hmore : httpShouldEscalate page = true) :
    ∃ calls, Accounted U ladder request (ladder.fetch B U request env).1 calls ∧
      Logs (ladder.fetch B.logged U request) (ladder.fetch B U request env) env calls := by
  have hhttp := logs_http (B := B) ladder request env
  rw [hpage] at hhttp
  by_cases hcdp : ladder.cdp.isSome
  · have hlogs := logs_tryCdp (B := B) hcdp request env₁
    have hpre := climbed_http_cdp hforced hcdp (.ok page)
    rcases hres : ladder.tryCdp B request env₁ with ⟨e | res, env₂⟩
    · rw [hres] at hlogs
      have hlost : Accounted U ladder request (.error e) [.http (.ok page), .cdp (.error e)] :=
        (hpre (.error e)).lost rfl
      obtain ⟨calls, haccounted, hrest⟩ := (hpre (.error e)).escalate (B := B) hlost env₂
      refine ⟨[.http (.ok page), .cdp (.error e)] ++ calls, ?_, fun log ↦ ?_⟩
      · simp only [fetch_eq, hforced, hpage, hmore, hcdp, hres, Bool.not_true, Bool.false_eq_true,
          if_false, if_true]
        exact haccounted
      · simp only [fetch_eq, hforced, hhttp log, hpage, hmore, hcdp, hlogs _, hres, hrest _,
          Bool.not_true, Bool.false_eq_true, if_false, if_true, List.append_assoc,
          List.cons_append, List.nil_append]
    · rw [hres] at hlogs
      have hkept : Accounted U ladder request
          (.ok (res.ladderResult .httpChallengeThenCdp (diagnoseFetch page)))
          [.http (.ok page), .cdp (.ok res)] :=
        (hpre (.ok res)).kept (List.mem_cons_self ..) rfl
      obtain ⟨calls, haccounted, hrest⟩ := (hpre (.ok res)).finishCdp (B := B) hkept env₂
      refine ⟨[.http (.ok page), .cdp (.ok res)] ++ calls, ?_, fun log ↦ ?_⟩
      · simp only [fetch_eq, hforced, hpage, hmore, hcdp, hres, Bool.not_true, Bool.false_eq_true,
          if_false, if_true]
        exact haccounted
      · simp only [fetch_eq, hforced, hhttp log, hpage, hmore, hcdp, hlogs _, hres, hrest _,
          Bool.not_true, Bool.false_eq_true, if_false, if_true, List.append_assoc,
          List.cons_append, List.nil_append]
  · have hpre := climbed_http ladder hforced (.ok page)
    have hkept : Accounted U ladder request (.ok ⟨page, none, .http, diagnoseFetch page⟩)
        [.http (.ok page)] := hpre.kept (List.mem_cons_self ..) rfl
    obtain ⟨calls, haccounted, hrest⟩ := hpre.escalate (B := B) hkept env₁
    refine ⟨[.http (.ok page)] ++ calls, ?_, fun log ↦ ?_⟩
    · simp only [fetch_eq, hforced, hpage, hmore, hcdp, Bool.not_true, Bool.false_eq_true, if_false]
      exact haccounted
    · simp only [fetch_eq, hforced, hhttp log, hpage, hmore, hcdp, hrest _, Bool.not_true,
        Bool.false_eq_true, if_false, List.append_assoc]

/-- What a fetch returns, and some calls that account for it. -/
theorem fetch_accounted_calls (request : ScrapeRequest) (env : Env ω) :
    ∃ calls, Accounted U ladder request (ladder.fetch B U request env).1 calls ∧
      Logs (ladder.fetch B.logged U request) (ladder.fetch B U request env) env calls := by
  cases hforced : needsCdp request with
  | true =>
    simp only [Logs, fetch_eq, hforced, if_true]
    exact fetchForcedCdp_accounted hforced env
  | false =>
    rcases hpage : B.http ladder.http request env with ⟨e | page, env₁⟩
    · exact fetch_accounted_httpError hforced hpage
    · by_cases hmore : httpShouldEscalate page = true
      · exact fetch_accounted_escalated hforced hpage hmore
      · have hdone : httpShouldEscalate page = false := by simpa using hmore
        have hhttp := logs_http (B := B) ladder request env
        rw [hpage] at hhttp
        refine ⟨[.http (.ok page)], ?_, fun log ↦ ?_⟩
        · simp only [fetch_eq, hforced, hpage, hdone, Bool.false_eq_true, if_false, Bool.not_false,
            if_true]
          exact (climbed_http ladder hforced (.ok page)).kept (List.mem_cons_self ..) rfl
        · simp only [fetch_eq, hforced, hhttp log, hpage, hdone, Bool.false_eq_true, if_false,
            Bool.not_false, if_true]

end Accounts

/-- A fetch is the same with its answers logged, and its calls account for what it returns. -/
theorem fetch_accounted (B : Backends ω) (U : UrlCrate) (ladder : FetchLadder)
    (request : ScrapeRequest) (env : Env ω) :
    ladder.fetch B.logged U request (env.withLog []) =
      ((ladder.fetch B U request env).1,
        (ladder.fetch B U request env).2.withLog (ladder.fetchCalls B U request env)) ∧
      Accounted U ladder request (ladder.fetch B U request env).1
        (ladder.fetchCalls B U request env) := by
  obtain ⟨calls, haccounted, hlogs⟩ :=
    fetch_accounted_calls (B := B) (U := U) request env
  have hcalls : ladder.fetchCalls B U request env = calls := by
    rw [fetchCalls, hlogs []]
    rfl
  rw [hcalls]
  exact ⟨hlogs [], haccounted⟩

end FetchLadder
end CrwShield.Fetch
