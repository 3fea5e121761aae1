import CrwShield.Base.Runs
import CrwShield.Server.Hitl
import CrwShield.Server.State

/-!
# Cookies after a human solve

What becomes of the cookies posted for a queue entry while L1 clears hosts and the server restarts.
A solve stamps one bucket, the one of its resolved host; the cookies of other buckets, and all of
them after a restart, are cleared like any other. One reading of the clock stands for those that a
solve takes.
-/

open CrwShield.Base CrwShield.Base.Str CrwShield.Base.Hierarchy CrwShield.Antibot

namespace CrwShield.Server

section Solve

universe u
variable {ω : Type u} {io : HitlIo ω} {persistencePath : Option Str} {id : Str}
  {cookies : List HitlCookie}

/-- The first entry with an id among lines of the queue. -/
def entryAmong (io : HitlIo ω) (id : Str) (queue : List Str) : Option Json :=
  queue.findSome? fun line ↦
    if (trim line).isEmpty then none
    else (io.parseJson line).toOption.filter fun entry ↦
      (entry.get? "id").bind Json.asStr = some id

/-- The queue entry with an id. -/
def queueEntry (io : HitlIo ω) (id : Str) (w : ω) : Option Json :=
  (io.readToString (hitlQueuePath io.queuePathVar) w).toOption.bind fun content ↦
    entryAmong io id (lines content)

/-- Host of the URL of an entry, as a solve extracts it. -/
def entryHost (entry : Json) : Option Str := ((entry.get? "url").bind Json.asStr).bind urlHostStr

private theorem solveMatched_ok {entry : Json} {walk walk' : SolveWalk ω}
    (h : solveMatched io persistencePath cookies entry walk = (.ok (), walk')) :
    ∃ host, resolvedHost cookies (entryHost entry) = some host ∧ walk'.found = true ∧
      walk'.jar = solveJar (io.now walk.world) host cookies walk.jar := by
  unfold solveMatched at h
  split at h
  · exact absurd (Prod.mk.inj h).1 (by simp)
  · next host hhost =>
    dsimp only at h
    split at h
    · exact absurd (Prod.mk.inj h).1 (by simp)
    · obtain ⟨-, rfl⟩ := Prod.mk.inj h
      exact ⟨host, hhost, rfl, rfl⟩

/-- Once an entry has been matched the walk changes no cookie. -/
private theorem solveLines_found {queue : List Str} {walk walk' : SolveWalk ω}
    (hf : walk.found = true)
    (h : solveLines io persistencePath id cookies queue walk = (.ok (), walk')) :
    walk'.found = true ∧ walk'.jar = walk.jar := by
  induction queue generalizing walk with
  | nil =>
    obtain ⟨-, rfl⟩ := Prod.mk.inj h
    exact ⟨hf, rfl⟩
  | cons line rest ih =>
    unfold solveLines at h
    split at h
    · exact ih hf h
    · split at h
      · exact absurd (Prod.mk.inj h).1 (by simp)
      · simp only [hf, Bool.not_true, Bool.false_and, Bool.false_eq_true, if_false] at h
        have hrest := ih rfl h
        exact hrest

/-- A walk that ends well has solved the first entry with the id, if there is one. -/
private theorem solveLines_ok {queue : List Str} {walk walk' : SolveWalk ω}
    (hf : walk.found = false)
    (h : solveLines io persistencePath id cookies queue walk = (.ok (), walk')) :
    match entryAmong io id queue with
    | none => walk'.found = false
    | some entry => ∃ host, resolvedHost cookies (entryHost entry) = some host ∧
        walk'.jar = solveJar (io.now walk.world) host cookies walk.jar := by
  induction queue generalizing walk with
  | nil =>
    obtain ⟨-, rfl⟩ := Prod.mk.inj h
    exact hf
  | cons line rest ih =>
    unfold solveLines at h
    rw [entryAmong, List.findSome?_cons]
    split at h
    · next hblank =>
      rw [if_pos hblank]
      exact ih hf h
    · next hblank =>
      rw [if_neg hblank]
      split at h
      · exact absurd (Prod.mk.inj h).1 (by simp)
      · next entry hparse =>
        simp only [hparse, Except.toOption]
        by_cases hid : (entry.get? "id").bind Json.asStr = some id
        · rw [Option.filter_some_pos (by simpa using hid)]
          simp only [hf, hid, Bool.not_false, decide_true, Bool.and_true, if_true] at h
          split at h
          · exact absurd (Prod.mk.inj h).1 (by simp)
          · next walk₁ hmatched =>
            obtain ⟨host, hhost, hfound, hjar⟩ := solveMatched_ok hmatched
            exact ⟨host, hhost, (solveLines_found hfound h).2.trans hjar⟩
        · rw [Option.filter_some_neg (by simpa using hid)]
          simp only [hf, hid, Bool.not_false, decide_false, Bool.and_false, Bool.false_eq_true,
            if_false] at h
          have hrest := ih rfl h
          exact hrest

/-- A successful solve stores the posted cookies for the resolved host of its entry, and stamps that
host. -/
theorem jar_of_handleHitlSolve {jar jar' : CookieJar} {w w' : ω} {answer entry : Json}
    (h : handleHitlSolve io persistencePath id ⟨cookies⟩ jar w = (.ok answer, jar', w'))
    (hentry : queueEntry io id w = some entry) :
    ∃ host, resolvedHost cookies (entryHost entry) = some host ∧
      jar' = solveJar (io.now w) host cookies jar := by
  obtain ⟨content, hread, hamong⟩ := Option.bind_eq_some_iff.mp hentry
  have hread : io.readToString (hitlQueuePath io.queuePathVar) w = .ok content := by
    revert hread
    cases io.readToString (hitlQueuePath io.queuePathVar) w with
    | error e => exact fun hr ↦ absurd hr (by simp [Except.toOption])
    | ok c => exact fun hr ↦ congrArg _ (Option.some.inj hr)
  unfold handleHitlSolve at h
  split at h
  · exact absurd (Prod.mk.inj h).1 (by simp)
  · simp only [hread] at h
    split at h
    · exact absurd (Prod.mk.inj h).1 (by simp)
    · next walk hlines =>
      have hwalk := solveLines_ok rfl hlines
      rw [hamong] at hwalk
      obtain ⟨host, hhost, hjar⟩ := hwalk
      refine ⟨host, hhost, ?_⟩
      rw [← hjar]
      split at h
      · exact absurd (Prod.mk.inj h).1 (by simp)
      · split at h
        · exact absurd (Prod.mk.inj h).1 (by simp)
        · split at h
          · exact absurd (Prod.mk.inj h).1 (by simp)
          · exact (Prod.mk.inj (Prod.mk.inj h).2).1.symm

end Solve

/-- What may happen to the jar after a solve. -/
inductive JarEvent where
  /-- L1 clears a host. -/
  | clear (host : Str)
  /-- The jar is written to disk. -/
  | save
  /-- The server restarts and seeds its jar from disk. -/
  | restart

/-- The jar, what was saved since the solve, the clock, and whether the server has restarted. -/
structure SolvedState where
  jar : CookieJar
  saved : Option OnDiskJar
  clock : Nat
  restarted : Bool

/-- An event at a time, none earlier than the last. Clears are within the protect window of the
solve at `t₀`, and a restart finds a jar saved since. -/
def AfterSolve (t₀ : Nat) (s : SolvedState) (e : Nat × JarEvent) (s' : SolvedState) : Prop :=
  s.clock ≤ e.1 ∧
    match e.2 with
    | .clear host => e.1 < t₀ + hitlProtectWindowSecs ∧
        s' = ⟨(s.jar.clearForHostExceptHitl (some e.1) host).1, s.saved, e.1, s.restarted⟩
    | .save => s' = ⟨s.jar, some s.jar.snapshot, e.1, s.restarted⟩
    | .restart => ∃ saved, s.saved = some saved ∧
        s' = ⟨seedCookieJar (some e.1) (.snapshot saved) .new, some saved, e.1, true⟩

/-- Bucket under which a posted cookie is stored. -/
def bucketOf (w : CookieWrite) : Str := normalizeHost w.host

/-- Whether a cookie posted at `t₀` has not expired at `t`. -/
def LiveAt (t₀ t : Nat) (w : CookieWrite) : Prop :=
  isExpiredUnix (w.entry (some t₀)).expiresAtUnix (some t) = false

/-- A step that spares the posted cookies: a clear walks no bucket of a live one but the stamped
bucket, and that only before a restart; and a saved jar that is loaded holds no bucket of another
spelling. -/
def Spares (t₀ : Nat) (stamped : Str) (posted : List CookieWrite) (s : SolvedState)
    (e : Nat × JarEvent) : Prop :=
  match e.2 with
  | .clear host =>
    ∀ w ∈ posted, LiveAt t₀ e.1 w → bucketOf w ∈ hostCandidates (normalizeHost host) →
      bucketOf w = stamped ∧ s.restarted = false
  | .save => True
  | .restart => ∀ saved, s.saved = some saved → ∀ w ∈ posted, ∀ b e',
      saved.lookup b w.name = some e' → normalizeHost b = bucketOf w → b = bucketOf w

/-- Every live posted cookie is stored, in the jar and in what was saved; and until a restart the
bucket is stamped with the time of the solve. -/
structure Kept (t₀ : Nat) (stamped : Str) (posted : List CookieWrite) (s : SolvedState) : Prop where
  jar : ∀ w ∈ posted, LiveAt t₀ s.clock w →
    s.jar.lookup (bucketOf w) w.name = some (w.entry (some t₀))
  saved : ∀ saved, s.saved = some saved → ∀ w ∈ posted, LiveAt t₀ s.clock w →
    saved.lookup (bucketOf w) w.name = some (w.entry (some t₀))
  stamp : s.restarted = false → s.jar.lastHitlSolvedUnix[stamped]? = some t₀

/-- Expired cookies stay expired. -/
theorem LiveAt.anti {t₀ t t' : Nat} {w : CookieWrite} (h : LiveAt t₀ t' w) (ht : t ≤ t') :
    LiveAt t₀ t w := by
  unfold LiveAt at h ⊢
  cases hx : (w.entry (some t₀)).expiresAtUnix with
  | none => rfl
  | some x =>
    simp only [hx, isExpiredUnix, decide_eq_false_iff_not] at h ⊢
    omega

/-- A live cookie's expiry is in range. -/
theorem LiveAt.expiry_lt {t₀ t : Nat} {w : CookieWrite} (ht : t₀ ≤ t) (h : LiveAt t₀ t w) {x : Nat}
    (hx : (w.entry (some t₀)).expiresAtUnix = some x) : x < 2 ^ 64 := by
  unfold LiveAt at h
  rw [hx] at h
  simp only [isExpiredUnix, decide_eq_false_iff_not, Nat.not_le] at h
  simp only [CookieWrite.entry, CookieJar.expiry] at hx
  cases hage : w.maxAgeSecs with
  | none => simp [hage] at hx
  | some secs =>
    simp only [hage, Option.bind_some] at hx
    split at hx
    · -- a lifetime of zero is over at once
      have := Option.some.inj hx
      omega
    · unfold checkedAdd at hx
      split at hx
      · obtain rfl := Option.some.inj hx
        assumption
      · exact absurd hx (by simp)

/-- One sparing step keeps the live cookies. -/
theorem Kept.step {t₀ : Nat} {stamped : Str} {posted : List CookieWrite} {s s' : SolvedState}
    {e : Nat × JarEvent} (hbuckets : ∀ w ∈ posted, normalizeHost (bucketOf w) = bucketOf w)
    (ht : t₀ ≤ s.clock) (h : Kept t₀ stamped posted s) (hspares : Spares t₀ stamped posted s e)
    (hstep : AfterSolve t₀ s e s') : Kept t₀ stamped posted s' := by
  obtain ⟨hle, hstep⟩ := hstep
  obtain ⟨t, event⟩ := e
  cases event with
  | clear host =>
    obtain ⟨hwindow, rfl⟩ := hstep
    refine ⟨fun w hw hlive ↦ ?_, fun saved hs w hw hlive ↦ h.saved saved hs w hw (hlive.anti hle),
      h.stamp⟩
    rw [CookieJar.clearForHostExceptHitl, CookieJar.lookup_clearBuckets, if_neg]
    · exact h.jar w hw (hlive.anti hle)
    · rintro ⟨hb, hkeep⟩
      obtain ⟨hstamped, hrestarted⟩ := hspares w hw hlive hb
      have hstamp := h.stamp hrestarted
      simp only [CookieJar.isProtected, hstamped, hstamp, Option.getD_some,
        decide_eq_false_iff_not] at hkeep
      omega
  | save =>
    obtain rfl := hstep
    refine ⟨fun w hw hlive ↦ h.jar w hw (hlive.anti hle), fun saved hs w hw hlive ↦ ?_, h.stamp⟩
    obtain rfl := Option.some.inj hs
    exact h.jar w hw (hlive.anti hle)
  | restart =>
    obtain ⟨saved, hs, rfl⟩ := hstep
    refine ⟨fun w hw hlive ↦ ?_, fun saved' hs' w hw hlive ↦ ?_, by simp⟩
    · exact lookup_seedCookieJar (hbuckets w hw) (h.saved saved hs w hw (hlive.anti hle)) hlive
        (fun x hx ↦ hlive.expiry_lt (Nat.le_trans ht hle) hx) (hspares saved hs w hw)
    · obtain rfl := Option.some.inj hs'
      exact h.saved _ hs w hw (hlive.anti hle)

/-- Sparing runs keep the live cookies. -/
theorem Kept.run {t₀ : Nat} {stamped : Str} {posted : List CookieWrite} {s s' : SolvedState}
    {events : List (Nat × JarEvent)}
    (hbuckets : ∀ w ∈ posted, normalizeHost (bucketOf w) = bucketOf w) (ht : t₀ ≤ s.clock)
    (h : Kept t₀ stamped posted s)
    (hrun : Run (Guarded (Spares t₀ stamped posted) (AfterSolve t₀)) s events s') :
    Kept t₀ stamped posted s' := by
  refine (hrun.invariant (I := fun s ↦ t₀ ≤ s.clock ∧ Kept t₀ stamped posted s) ?_ ⟨ht, h⟩).2
  rintro s e s' ⟨ht, h⟩ ⟨hspares, hstep⟩
  refine ⟨?_, h.step hbuckets ht hspares hstep⟩
  obtain ⟨hle, hstep⟩ := hstep
  have hclock : s'.clock = e.1 := by
    obtain ⟨t, event⟩ := e
    cases event with
    | clear host => obtain ⟨-, rfl⟩ := hstep; rfl
    | save => obtain rfl := hstep; rfl
    | restart => obtain ⟨saved, -, rfl⟩ := hstep; rfl
  omega

/-- An explicit domain that domain-matches a host. -/
def DomainMatches (host d : Str) : Prop :=
  normalizeHost d ≠ [] ∧ Under '.' (normalizeHost host) (normalizeHost d)

/-- The writes of a solve for an entry whose URL has the host `host`. -/
def postedWrites (host : Str) (cookies : List HitlCookie) : List CookieWrite :=
  solveWrites ((cookies.findSome? HitlCookie.domain).getD host) cookies

/-- The bucket that a solve for an entry stamps: that of the first domain posted, and otherwise of
the host. -/
def stampedBucket (host : Str) (cookies : List HitlCookie) : Str :=
  normalizeHost ((cookies.findSome? HitlCookie.domain).getD host)

/-- Posted cookies of one bucket and name are stored alike, so none replaces another. -/
def Unambiguous (t₀ : Nat) (posted : List CookieWrite) : Prop :=
  ∀ w ∈ posted, ∀ w' ∈ posted, bucketOf w = bucketOf w' → w.name = w'.name →
    w.entry (some t₀) = w'.entry (some t₀)

/-- Right after a solve every posted cookie is stored, and the bucket of the host stamped. -/
theorem kept_of_solve {t₀ : Nat} {host : Str} {cookies : List HitlCookie} {jar : CookieJar}
    (h : Unambiguous t₀ (solveWrites host cookies)) :
    Kept t₀ (normalizeHost host) (solveWrites host cookies)
      ⟨solveJar (some t₀) host cookies jar, none, t₀, false⟩ := by
  refine ⟨fun w hw _ ↦ ?_, fun saved hs ↦ absurd hs (by simp), fun _ ↦ ?_⟩
  rotate_left
  · exact Std.ExtTreeMap.getElem?_insert_self
  dsimp only
  rw [lookup_solveJar, CookieJar.lookup_setAll]
  cases hlast : (solveWrites host cookies).findRev? (·.hits (bucketOf w) w.name) with
  | none =>
    rw [List.findRev?_eq_find?_reverse, List.find?_eq_none] at hlast
    exact absurd (CookieWrite.hits_iff.mpr ⟨rfl, rfl⟩) (hlast w (List.mem_reverse.mpr hw))
  | some w' =>
    rw [List.findRev?_eq_find?_reverse] at hlast
    have hw' := List.mem_reverse.mp (List.mem_of_find?_eq_some hlast)
    obtain ⟨hb, hn⟩ := CookieWrite.hits_iff.mp (List.find?_some hlast)
    exact congrArg some (h w' hw' w hw hb hn)

section Entry

variable {U : UrlCrate} (hU : U.Lawful) {u : Str} {url : U.Url} {h : Str}
  {cookies : List HitlCookie}
include hU

/-- A host extracted by hand from a URL that has it is normal. -/
private theorem normalizeHost_entryHost (hhost : U.hostStr url = some h)
    (hsame : urlHostStr u = some h) : normalizeHost h = h := by
  obtain ⟨raw, rfl⟩ : ∃ raw, h = normalizeHost raw := by
    unfold urlHostStr at hsame
    dsimp only at hsame
    split at hsame
    · exact absurd hsame (by simp)
    · exact ⟨_, (Option.some.inj hsame).symm⟩
  exact normalizeHost_bucket (hU.hostStr_noSpace _ _ hhost)

/-- Posted cookies are stored in normal buckets that the entry's host lies under. -/
private theorem under_bucketOf (hhost : U.hostStr url = some h) (hsame : urlHostStr u = some h)
    (hne : h ≠ []) (hdom : ∀ c ∈ cookies, ∀ d, c.domain = some d → DomainMatches h d)
    {w : CookieWrite} (hw : w ∈ postedWrites h cookies) :
    bucketOf w ≠ [] ∧ Under '.' h (bucketOf w) ∧ normalizeHost (bucketOf w) = bucketOf w := by
  have hnorm := normalizeHost_entryHost hU hhost hsame
  have hspace := hU.hostStr_noSpace _ _ hhost
  have hexplicit : ∀ d, DomainMatches h d →
      normalizeHost d ≠ [] ∧ Under '.' h (normalizeHost d) ∧
        normalizeHost (normalizeHost d) = normalizeHost d := by
    rintro d ⟨hd, hu⟩
    exact ⟨hd, hnorm ▸ hu, normalizeHost_of_under hspace hu⟩
  obtain ⟨c, hc, rfl⟩ := List.mem_map.mp hw
  unfold bucketOf
  dsimp only
  cases hcd : c.domain with
  | some d => exact hexplicit d (hdom c hc d hcd)
  | none =>
    rw [Option.getD_none]
    cases hfirst : cookies.findSome? HitlCookie.domain with
    | some d =>
      obtain ⟨c', hc', hd⟩ := List.exists_of_findSome?_eq_some hfirst
      exact hexplicit d (hdom c' hc' d hd)
    | none =>
      rw [Option.getD_none, hnorm]
      exact ⟨hne, .refl h, hnorm⟩

/-- After a successful solve every posted cookie stays in the header for the entry's URL while it
lives, in every run of clears, saves and restarts that spares the posted cookies. -/
theorem solved_cookies_survive {ω : Type*} {io : HitlIo ω} {persistencePath : Option Str} {id : Str}
    {jar jar' : CookieJar} {w w' : ω} {answer entry : Json} {t₀ : Nat} {s : SolvedState}
    {events : List (Nat × JarEvent)}
    (hsolve : handleHitlSolve io persistencePath id ⟨cookies⟩ jar w = (.ok answer, jar', w'))
    (hentry : queueEntry io id w = some entry)
    (hurl : (entry.get? "url").bind Json.asStr = some u)
    (hparse : U.parse u = .ok url) (hhost : U.hostStr url = some h)
    (hsame : urlHostStr u = some h) (hne : h ≠ [])
    (hdom : ∀ c ∈ cookies, ∀ d, c.domain = some d → DomainMatches h d)
    (hnow : io.now w = some t₀) (hposted : Unambiguous t₀ (postedWrites h cookies))
    (hrun : Run (Guarded (Spares t₀ (stampedBucket h cookies) (postedWrites h cookies))
      (AfterSolve t₀)) ⟨jar', none, t₀, false⟩ events s) :
    ∀ c ∈ postedWrites h cookies, ∀ t, s.clock ≤ t → LiveAt t₀ t c →
      c.name ++ "=" ++ c.value ∈ s.jar.sentCookies (some t) U u := by
  have hbucket := fun c hc ↦ under_bucketOf hU (w := c) hhost hsame hne hdom hc
  obtain ⟨host, hres, rfl⟩ := jar_of_handleHitlSolve hsolve hentry
  have hres : (cookies.findSome? HitlCookie.domain).getD h = host := by
    rw [entryHost, hurl, Option.bind_some, hsame, resolvedHost, Option.or_some] at hres
    exact Option.some.inj hres
  rw [hnow] at hrun
  have hkept : Kept t₀ (stampedBucket h cookies) (postedWrites h cookies) s := by
    refine Kept.run (fun c hc ↦ (hbucket c hc).2.2) (Nat.le_refl t₀) ?_ hrun
    rw [postedWrites, hres] at hposted
    rw [stampedBucket, postedWrites, hres]
    exact kept_of_solve hposted
  intro c hc t ht hlive
  obtain ⟨hb, hu, -⟩ := hbucket c hc
  have hnorm := normalizeHost_entryHost hU hhost hsame
  refine CookieJar.mem_sentCookies.mpr ⟨bucketOf c, c.name, c.entry (some t₀),
    ⟨h, ?_, ?_, hkept.jar c hc (hlive.anti ht), hlive⟩, rfl⟩
  · simp only [urlHost, hparse, hhost, Option.map_some, hnorm]
  · exact mem_hostCandidates.mpr ⟨hb, hnorm.symm ▸ hu⟩

end Entry

/-- A queue with one entry, on a disk that takes every write, at second zero. -/
def shopQueue : HitlIo Unit where
  queuePathVar := none
  now _ := some 0
  nowRfc3339 _ := "1970-01-01T00:00:00+00:00"
  newId w := ("1", w)
  parseJson _ := .ok (.ofMembers [("id", .str "1"), ("url", .str "https://www.shop.example/")])
  printJson _ := .ok []
  openAppend _ w := (.ok (), w)
  writeAll _ _ w := (.ok (), w)
  readToString _ _ := .ok "entry"
  write _ _ w := (.ok (), w)
  rename _ _ w := (.ok (), w)
  saveJar _ _ w := (.ok (), w)

/-- The jar after a solve of that entry with the posted cookies. -/
def shopJar (cookies : List HitlCookie) : CookieJar :=
  (handleHitlSolve shopQueue none "1" ⟨cookies⟩ .new ()).2.1

/-- The state ten seconds later, once L1 has cleared the host. -/
def shopCleared (cookies : List HitlCookie) : SolvedState :=
  ⟨((shopJar cookies).clearForHostExceptHitl (some 10) "www.shop.example").1, none, 10, false⟩

private theorem run_shopCleared (cookies : List HitlCookie) :
    AfterSolve 0 ⟨shopJar cookies, none, 0, false⟩ (10, .clear "www.shop.example")
      (shopCleared cookies) :=
  ⟨Nat.zero_le 10, by decide, rfl⟩

private theorem handleHitlSolve_shop {cookies : List HitlCookie}
    (h : (handleHitlSolve shopQueue none "1" ⟨cookies⟩ .new ()).1.isOk = true) :
    ∃ answer, handleHitlSolve shopQueue none "1" ⟨cookies⟩ .new () =
      (.ok answer, shopJar cookies, ()) := by
  cases hout : (handleHitlSolve shopQueue none "1" ⟨cookies⟩ .new ()).1 with
  | error e => rw [hout] at h; exact absurd h (by simp [Except.isOk, Except.toBool])
  | ok answer => exact ⟨answer, Prod.ext hout rfl⟩

private theorem isPlainUrl_shop : isPlainUrl "https://www.shop.example/" = true := by decide

/-- A cookie without a domain, as the form posts it. -/
def clearance : HitlCookie := ⟨"cf", "1", none, none⟩

theorem solved_cookies_survive_clear :
    ("cf" : Str) ++ "=" ++ "1" ∈ (shopCleared [clearance]).jar.sentCookies (some 20) .plain
      "https://www.shop.example/" := by
  obtain ⟨answer, hsolve⟩ := @handleHitlSolve_shop [clearance] (by decide)
  have hposted : postedWrites "www.shop.example" [clearance] =
      [⟨"www.shop.example", "cf", "1", none⟩] := rfl
  refine solved_cookies_survive UrlCrate.lawful_plain hsolve rfl rfl
    (UrlCrate.parse_plain isPlainUrl_shop) (UrlCrate.hostStr_plain _ (by decide))
    (h := "www.shop.example") (by decide) (by decide) ?_ rfl ?_
    (.snoc .nil ⟨?_, run_shopCleared [clearance]⟩)
    ⟨"www.shop.example", "cf", "1", none⟩ (by rw [hposted]; exact .head _) 20 (by decide) rfl
  · intro c hc d hd
    obtain rfl := List.mem_singleton.mp hc
    have hnone : clearance.domain = none := rfl
    rw [hnone] at hd
    cases hd
  · rw [hposted]
    intro w hw w' hw' _ _
    rw [List.mem_singleton.mp hw, List.mem_singleton.mp hw']
  · rw [hposted]
    intro w hw _ _
    obtain rfl := List.mem_singleton.mp hw
    exact ⟨by decide, rfl⟩

/-- A cookie for the site and one for its host: only the bucket of the first is stamped. -/
def twoDomains : List HitlCookie :=
  [⟨"a", "1", some "shop.example", none⟩, ⟨"b", "2", some "www.shop.example", none⟩]

/-- L1 on the entry's host clears a posted cookie whose bucket was not stamped. -/
theorem not_solved_cookies_survive_twoDomains :
    ¬ ∀ (U : UrlCrate) (io : HitlIo Unit) (persistencePath : Option Str) (id u h : Str)
        (url : U.Url) (cookies : List HitlCookie) (jar jar' : CookieJar) (answer entry : Json)
        (t₀ : Nat) (s : SolvedState) (events : List (Nat × JarEvent)),
      U.Lawful → handleHitlSolve io persistencePath id ⟨cookies⟩ jar () = (.ok answer, jar', ()) →
      queueEntry io id () = some entry → (entry.get? "url").bind Json.asStr = some u →
      U.parse u = .ok url → U.hostStr url = some h → urlHostStr u = some h → h ≠ [] →
      (∀ c ∈ cookies, ∀ d, c.domain = some d → DomainMatches h d) → io.now () = some t₀ →
      Run (AfterSolve t₀) ⟨jar', none, t₀, false⟩ events s →
        ∀ c ∈ postedWrites h cookies, ∀ t, s.clock ≤ t → LiveAt t₀ t c →
          c.name ++ "=" ++ c.value ∈ s.jar.sentCookies (some t) U u := by
  intro hall
  obtain ⟨answer, hsolve⟩ := @handleHitlSolve_shop twoDomains (by decide)
  have hlost : ("b" : Str) ++ "=" ++ "2" ∉ (shopCleared twoDomains).jar.sentCookies (some 20) .plain
      "https://www.shop.example/" := by decide +kernel
  have hmatch : ∀ d ∈ (["shop.example", "www.shop.example"] : List Str), normalizeHost d ≠ [] ∧
      Under '.' (normalizeHost "www.shop.example") (normalizeHost d) := by decide
  refine hlost (hall .plain shopQueue none "1" _ "www.shop.example" _ twoDomains .new _ answer _ 0
    _ _ UrlCrate.lawful_plain hsolve rfl rfl (UrlCrate.parse_plain isPlainUrl_shop)
    (UrlCrate.hostStr_plain _ (by decide)) (by decide) (by decide) ?_ rfl
    (.snoc .nil (run_shopCleared twoDomains)) ⟨"www.shop.example", "b", "2", none⟩
    (.tail _ (.head _)) 20 (by decide) rfl)
  intro c hc d hd
  refine hmatch d ?_
  rcases List.mem_cons.mp hc with rfl | hc
  · exact Option.some.inj hd ▸ .head _
  · obtain rfl := List.mem_singleton.mp hc
    exact Option.some.inj hd ▸ .tail _ (.head _)

end CrwShield.Server
