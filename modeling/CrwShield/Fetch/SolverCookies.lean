import CrwShield.Fetch.Solutions

/-!
# Cookies of a solution

Crate `fetch`, `src/crates/fetch/src/ladder.rs:503–557`, and crate `antibot`,
`src/crates/antibot/src/cookie_jar.rs:112–131`: the cookies of an accepted solution go into the jar
of the host that was solved. For each of them the clock is read twice, and its lifetime comes out
right when the second reading is not later than the first.
-/

open CrwShield.Base CrwShield.Base.Str CrwShield.Base.Hierarchy CrwShield.Antibot CrwShield.Core

namespace CrwShield.Fetch

/-- The domain of the cookie is the host or a parent of it; without a domain it is the host's. -/
def CookieInfo.IsFor (host : Str) (c : CookieInfo) : Prop :=
  Under '.' (toAsciiLowercase host) (c.cookieDomain (toAsciiLowercase host))

instance (host : Str) (c : CookieInfo) : Decidable (c.IsFor host) :=
  inferInstanceAs (Decidable (Under _ _ _))

/-- The last cookie of a name that is for the host, and its place in the list. -/
def lastFor (host : Str) (cookies : List CookieInfo) (name : Str) : Option (CookieInfo × Nat) :=
  cookies.zipIdx.findRev? fun c ↦ c.1.IsFor host ∧ c.1.name = name

/-- The expiry of the cookie at a place, as the clock is read for it. -/
def storedExpiry (clock : Nat → Option Nat) (c : CookieInfo × Nat) : Option Nat :=
  CookieJar.expiry (clock (2 * c.2 + 1)) (c.1.maxAge (clock (2 * c.2)))

section Injection

variable {host : Str} {clock : Nat → Option Nat} {cookies : List CookieInfo} {jar : CookieJar}

private theorem domainOk_iff {c : CookieInfo} :
    c.domainOk (toAsciiLowercase host) = true ↔ c.IsFor host := by
  rw [CookieInfo.domainOk, Bool.or_eq_true, decide_eq_true_eq, endsWith,
    List.isSuffixOf_iff_suffix, eq_comm]
  rfl

/-- After an injection the host's bucket holds the last cookie of each name that is for the host,
and every other entry is the one before. -/
theorem lookup_injectFsCookies (b n : Str) :
    (injectFsCookies clock (toAsciiLowercase host) cookies jar).lookup b n =
      if normalizeHost (toAsciiLowercase host) = b then
        ((lastFor host cookies n).map fun c ↦ ⟨c.1.value, storedExpiry clock c⟩).or (jar.lookup b n)
      else jar.lookup b n := by
  have hlast : (fsWrites clock (toAsciiLowercase host) cookies).findRev? (·.2.hits b n) =
      if normalizeHost (toAsciiLowercase host) = b then
        (lastFor host cookies n).map fun c ↦
          (clock (2 * c.2 + 1),
            ⟨toAsciiLowercase host, c.1.name, c.1.value, c.1.maxAge (clock (2 * c.2))⟩)
      else none := by
    simp only [fsWrites, lastFor, List.findRev?_eq_find?_reverse, ← List.map_reverse,
      ← List.filter_reverse, List.find?_map, List.find?_filter]
    by_cases hb : normalizeHost (toAsciiLowercase host) = b
    · rw [if_pos hb]
      congr 2
      funext c
      rw [Bool.eq_iff_iff]
      simp only [decide_eq_true_eq, domainOk_iff, Function.comp_apply,
        CookieWrite.hits_iff, hb, true_and]
    · rw [if_neg hb, Option.map_eq_none_iff, List.find?_eq_none]
      simp [CookieWrite.hits, hb]
  rw [injectFsCookies_eq, CookieJar.lookup_setEach, hlast]
  by_cases hb : normalizeHost (toAsciiLowercase host) = b
  · rw [if_pos hb, if_pos hb, Option.map_map]
    rfl
  · rw [if_neg hb, if_neg hb]
    rfl

/-- A cookie is stored with its time to go at the first reading, counted from the second; one that
the clock has reached is stored without an expiry. -/
theorem storedExpiry_eq (clock : Nat → Option Nat) (c : CookieInfo × Nat) :
    storedExpiry clock c =
      (clock (2 * c.2 + 1)).bind fun n ↦ c.1.expires.bind fun e ↦
        if ((clock (2 * c.2)).getD 0 : Int) < e ∧ n + (e - (clock (2 * c.2)).getD 0) < 2 ^ 64 then
          some (n + (e - (clock (2 * c.2)).getD 0)).toNat
        else none := by
  unfold storedExpiry CookieInfo.maxAge CookieJar.expiry
  cases hexp : c.1.expires with
  | none => cases clock (2 * c.2 + 1) <;> rfl
  | some e =>
    generalize (clock (2 * c.2)).getD 0 = first
    cases clock (2 * c.2 + 1) with
    | none =>
      simp only [Option.bind_some, Option.bind_none]
      by_cases hlt : (first : Int) < e
      · simp [hlt]
      · simp [hlt]
    | some n =>
      simp only [Option.bind_some]
      by_cases hlt : (first : Int) < e
      · have hsecs : (e - first).toNat ≠ 0 := by omega
        simp only [hlt, if_true, Option.bind_some, hsecs, if_false, true_and, checkedAdd]
        have hsum : n + (e - first).toNat = (n + (e - first)).toNat := by omega
        rw [hsum]
        by_cases hbig : n + (e - first) < 2 ^ 64
        · rw [if_pos hbig, if_pos (by omega)]
        · rw [if_neg hbig, if_neg (by omega)]
      · simp only [hlt, if_false, Option.bind_none, false_and]

end Injection

section Solution

universe u
variable {ω : Type u} {B : Backends ω} {U : UrlCrate} {ladder : FetchLadder}

/-- What is sent after the solution was sent before, or is a cookie of it for the host. -/
def DomainsKept (U : UrlCrate) (host : Str) (cookies : List CookieInfo) (before after : CookieJar) :
    Prop :=
  ∀ t url b n e, after.Sends t U url b n e →
    before.Sends t U url b n e ∨ ∃ c ∈ cookies, c.IsFor host ∧ c.name = n ∧ c.value = e.value

/-- From the first reading of the clock for it on, the last cookie of a name for the host is sent
before its expiry only. -/
def LifetimesKept (U : UrlCrate) (host : Str) (clock : Nat → Option Nat)
    (cookies : List CookieInfo) (after : CookieJar) : Prop :=
  ∀ c i, lastFor host cookies c.name = some (c, i) → ∀ t : Nat, (clock (2 * i)).getD 0 ≤ t →
    ∀ url entry, after.Sends (some t) U url (normalizeHost host) c.name entry →
      ∀ e, c.expires = some e → 0 < e → (t : Int) < e

/-- When the cookie at a place is stored, the clock has not reached its expiry and does not move on
between the two readings. -/
def StoredInTime (clock : Nat → Option Nat) (i : Nat) (e : Int) : Prop :=
  ∃ n, clock (2 * i + 1) = some n ∧ n ≤ (clock (2 * i)).getD 0 ∧
    ((clock (2 * i)).getD 0 : Int) < e ∧ n + (e - (clock (2 * i)).getD 0) < 2 ^ 64

private theorem domainsKept_inject {host : Str} {cookies : List CookieInfo}
    {clock : Nat → Option Nat} {jar : CookieJar} :
    DomainsKept U host cookies jar
      (injectFsCookies clock (toAsciiLowercase host) cookies jar) := by
  intro t url b n e hsends
  obtain ⟨h, hurl, hb, hlookup, hlive⟩ := hsends
  rw [lookup_injectFsCookies] at hlookup
  split at hlookup
  · rcases Option.or_eq_some_iff.mp hlookup with hlast | ⟨-, hold⟩
    · obtain ⟨⟨c, i⟩, hc, rfl⟩ := Option.map_eq_some_iff.mp hlast
      rw [lastFor, List.findRev?_eq_find?_reverse] at hc
      have hfor : c.IsFor host ∧ c.name = n := by simpa using List.find?_some hc
      have hmem := List.mem_reverse.mp (List.mem_of_find?_eq_some hc)
      exact .inr ⟨c, List.fst_mem_of_mem_zipIdx hmem, hfor.1, hfor.2, rfl⟩
    · exact .inl ⟨h, hurl, hb, hold, hlive⟩
  · exact .inl ⟨h, hurl, hb, hlookup, hlive⟩

/-- What the injection stores under a bucket that is walked for a URL is sent until it expires. -/
private theorem sends_inject {host url : Str} {cookies : List CookieInfo}
    {clock : Nat → Option Nat} {jar : CookieJar} {c : CookieInfo} {i : Nat} {entry : Entry}
    {t : Nat} (hU : U.Lawful) (hhost : (U.parse url).toOption.bind U.hostStr = some host)
    (hne : normalizeHost host ≠ []) (hlast : lastFor host cookies c.name = some (c, i)) :
    (injectFsCookies clock (toAsciiLowercase host) cookies jar).Sends (some t) U url
        (normalizeHost host) c.name entry ↔
      entry = ⟨c.value, storedExpiry clock (c, i)⟩ ∧
        isExpiredUnix entry.expiresAtUnix (some t) = false := by
  obtain ⟨u, hu, hstr⟩ := Option.bind_eq_some_iff.mp hhost
  have hspace := hU.hostStr_noSpace u host hstr
  have hurl : urlHost U url = some (normalizeHost host) := by
    unfold urlHost
    cases hp : U.parse url with
    | error e => simp [hp, Except.toOption] at hu
    | ok u' =>
      obtain rfl : u' = u := by simpa [hp, Except.toOption] using hu
      simp only [hstr, Option.map_some]
  have hbucket : normalizeHost host ∈ hostCandidates (normalizeHost host) := by
    rw [mem_hostCandidates, normalizeHost_idem hspace]
    exact ⟨hne, .refl _⟩
  have hlookup : (injectFsCookies clock (toAsciiLowercase host) cookies jar).lookup
      (normalizeHost host) c.name = some ⟨c.value, storedExpiry clock (c, i)⟩ := by
    rw [lookup_injectFsCookies, if_pos (normalizeHost_toAsciiLowercase hspace), hlast]
    rfl
  constructor
  · rintro ⟨_, -, -, hentry, hlive⟩
    exact ⟨(Option.some.inj (hlookup.symm.trans hentry)).symm, hlive⟩
  · rintro ⟨rfl, hlive⟩
    exact ⟨_, hurl, hbucket, hlookup, hlive⟩

/-- The cookie at a place is gone at its expiry, at all times from the first reading on, exactly
when it is stored in time. -/
private theorem expired_iff_storedInTime {clock : Nat → Option Nat} {c : CookieInfo × Nat} {e : Int}
    (hexp : c.1.expires = some e) (hpos : 0 < e) :
    (∀ t : Nat, (clock (2 * c.2)).getD 0 ≤ t →
        isExpiredUnix (storedExpiry clock c) (some t) = false → (t : Int) < e) ↔
      StoredInTime clock c.2 e := by
  rw [storedExpiry_eq, hexp]
  unfold StoredInTime
  generalize (clock (2 * c.2)).getD 0 = first
  cases hsecond : clock (2 * c.2 + 1) with
  | none =>
    refine iff_of_false (fun h ↦ ?_) (by simp)
    -- a cookie stored without an expiry is still sent when its time is over
    have := h (max first e.toNat) (le_max_left _ _) rfl
    omega
  | some n =>
    simp only [Option.bind_some, Option.some.injEq, exists_eq_left']
    by_cases hstored : (first : Int) < e ∧ n + (e - first) < 2 ^ 64
    · simp only [hstored, and_self, if_true, and_true, isExpiredUnix, decide_eq_false_iff_not]
      refine ⟨fun h ↦ ?_, fun h t _ hlive ↦ by omega⟩
      by_contra hlate
      have := h e.toNat (by omega) (by omega)
      omega
    · rw [if_neg hstored]
      refine iff_of_false (fun h ↦ ?_) fun h ↦ hstored ⟨h.2.1, h.2.2⟩
      have := h (max first e.toNat) (le_max_left _ _) rfl
      omega

/-- Lifetimes are kept exactly when every cookie that stays is stored in time. -/
private theorem lifetimesKept_iff {host url : Str} {cookies : List CookieInfo}
    {clock : Nat → Option Nat} {jar : CookieJar} (hU : U.Lawful)
    (hhost : (U.parse url).toOption.bind U.hostStr = some host) :
    LifetimesKept U host clock cookies
        (injectFsCookies clock (toAsciiLowercase host) cookies jar) ↔
      normalizeHost host = [] ∨ ∀ c i, lastFor host cookies c.name = some (c, i) →
        ∀ e, c.expires = some e → 0 < e → StoredInTime clock i e := by
  constructor
  · intro hkept
    rw [or_iff_not_imp_left]
    intro hne c i hlast e hexp hpos
    refine (@expired_iff_storedInTime clock (c, i) e hexp hpos).mp fun t ht hlive ↦ ?_
    have hsends : (injectFsCookies clock (toAsciiLowercase host) cookies jar).Sends (some t) U url
        (normalizeHost host) c.name ⟨c.value, storedExpiry clock (c, i)⟩ :=
      (sends_inject hU hhost hne hlast).mpr ⟨rfl, hlive⟩
    exact hkept c i hlast t ht url _ hsends e hexp hpos
  · rintro hcond c i hlast t ht url' entry ⟨_, _, hb, hlookup, hlive⟩ e hexp hpos
    have hne := (mem_hostCandidates.mp hb).1
    have hspace : normalizeHost (toAsciiLowercase host) = normalizeHost host := by
      obtain ⟨u, hu, hstr⟩ := Option.bind_eq_some_iff.mp hhost
      exact normalizeHost_toAsciiLowercase (hU.hostStr_noSpace u host hstr)
    rw [lookup_injectFsCookies, hlast, if_pos hspace] at hlookup
    obtain rfl : _ = entry := Option.some.inj hlookup
    exact (@expired_iff_storedInTime clock (c, i) e hexp hpos).mpr
      ((hcond.resolve_left hne) c i hlast e hexp hpos) t ht hlive

/-- The cookies of an accepted solution keep their domains, and they keep their lifetimes exactly
when the host has no bucket or each of them that stays is stored in time. -/
theorem solution_cookies_iff {fs : FlareSolverrClient} {url host : Str} {request : ScrapeRequest}
    {fromCdp : Bool} {env env₁ env' : Env ω} {solution : FlareSolverrResult} {r : LadderResult}
    (hU : U.Lawful) (hfs : ladder.flaresolverr = some fs)
    (hhost : (U.parse url).toOption.bind U.hostStr = some host)
    (hsolution : B.flaresolverr fs url 60000 env = (.ok solution, env₁))
    (h : ladder.tryFlaresolverr B U url request fromCdp env = (.ok (some r), env')) :
    (DomainsKept U host solution.cookies (env₁.jars ladder.cookies) (env'.jars ladder.cookies) ∧
      LifetimesKept U host (B.now env₁.world) solution.cookies (env'.jars ladder.cookies)) ↔
      normalizeHost host = [] ∨ ∀ c i, lastFor host solution.cookies c.name = some (c, i) →
        ∀ e, c.expires = some e → 0 < e → StoredInTime (B.now env₁.world) i e := by
  obtain ⟨host', fs', solution', env₁', -, hhost', -, hfs', hsolution', -, -, rfl⟩ :=
    FetchLadder.tryFlaresolverr_inv h
  obtain rfl : host = host' := Option.some.inj (hhost.symm.trans hhost')
  obtain rfl : fs = fs' := Option.some.inj (hfs.symm.trans hfs')
  obtain ⟨hsol, rfl⟩ := Prod.mk.inj (hsolution.symm.trans hsolution')
  obtain rfl := Except.ok.inj hsol
  have hjar : (env₁.modifyJar ladder.cookies (injectFsCookies (B.now env₁.world)
      (toAsciiLowercase host) solution.cookies)).jars ladder.cookies =
        injectFsCookies (B.now env₁.world) (toAsciiLowercase host) solution.cookies
          (env₁.jars ladder.cookies) := Function.update_self ..
  rw [hjar, ← lifetimesKept_iff hU hhost]
  exact and_iff_right domainsKept_inject

end Solution

/-- A solved page with one cookie of the host that expires at a time. -/
def solvedUntil (expires : Int) : FlareSolverrResult :=
  { solvedWith regionPage with
    cookies := [⟨"cf_clearance", "v", some ".example.com", some expires⟩] }

/-- A cookie that expires in a hundred seconds is kept for a hundred seconds. -/
theorem solution_cookies_fresh :
    ∃ r env', solverLadder.tryFlaresolverr (.solver (solvedUntil 100)) .plain
        "https://example.com/" (.defaultForUrl "https://example.com/") false
        ⟨fun _ ↦ .new, ()⟩ = (.ok (some r), env') ∧
      DomainsKept .plain "example.com" (solvedUntil 100).cookies .new (env'.jars 0) ∧
      LifetimesKept .plain "example.com" (fun _ ↦ some 0) (solvedUntil 100).cookies
        (env'.jars 0) := by
  have h := @tryFlaresolverr_solver (.solver (solvedUntil 100)) _ _ (fun _ _ _ _ ↦ rfl)
    validate_regionPage (.defaultForUrl "https://example.com/") ⟨fun _ ↦ .new, ()⟩
  refine ⟨_, _, h, (solution_cookies_iff UrlCrate.lawful_plain rfl hostStr_example rfl h).mpr
    (.inr fun c i hlast e hexp _ ↦ ?_)⟩
  rw [lastFor, List.findRev?_eq_find?_reverse] at hlast
  have hmem := List.fst_mem_of_mem_zipIdx (List.mem_reverse.mp (List.mem_of_find?_eq_some hlast))
  have hc : c = ⟨"cf_clearance", "v", some ".example.com", some 100⟩ := List.mem_singleton.mp hmem
  rw [hc] at hexp
  obtain rfl := Option.some.inj hexp
  exact ⟨0, rfl, (by decide : 0 ≤ 0 ∧ (0 : Int) < 100 ∧ (0 : Int) + (100 - 0) < 2 ^ 64)⟩

/-- A cookie that had expired fifty seconds before it was received is sent. -/
theorem expired_cookie_sent :
    ¬ ∀ (B : Backends Unit) (ladder : FetchLadder) (fs : FlareSolverrClient) (url host : Str)
      (request : ScrapeRequest) (fromCdp : Bool) (env env₁ env' : Env Unit)
      (solution : FlareSolverrResult) (r : LadderResult),
      ladder.flaresolverr = some fs →
      (UrlCrate.plain.parse url).toOption.bind UrlCrate.plain.hostStr = some host →
      B.flaresolverr fs url 60000 env = (.ok solution, env₁) →
      ladder.tryFlaresolverr B .plain url request fromCdp env = (.ok (some r), env') →
        LifetimesKept .plain host (B.now env₁.world) solution.cookies
          (env'.jars ladder.cookies) := by
  intro hall
  have hrun := @tryFlaresolverr_solver
    { Backends.solver (solvedUntil 50) with now := fun _ _ ↦ some 100 } _ _ (fun _ _ _ _ ↦ rfl)
    validate_regionPage (.defaultForUrl "https://example.com/") ⟨fun _ ↦ .new, ()⟩
  have hkept : LifetimesKept .plain "example.com" (fun _ ↦ some 100) (solvedUntil 50).cookies
      (injectFsCookies (fun _ ↦ some 100) (toAsciiLowercase "example.com") (solvedUntil 50).cookies
        .new) :=
    hall _ _ _ _ _ _ _ _ _ _ _ _ rfl hostStr_example rfl hrun
  have hlast : lastFor "example.com" (solvedUntil 50).cookies "cf_clearance" =
      some (⟨"cf_clearance", "v", some ".example.com", some 50⟩, 0) := by
    decide
  have hne : normalizeHost "example.com" ≠ [] := by decide
  rw [lifetimesKept_iff UrlCrate.lawful_plain hostStr_example] at hkept
  obtain ⟨n, hn, -, hlt, -⟩ := hkept.resolve_left hne
    ⟨"cf_clearance", "v", some ".example.com", some 50⟩ 0 hlast 50 rfl (by decide)
  exact absurd hlt (by decide)

end CrwShield.Fetch
