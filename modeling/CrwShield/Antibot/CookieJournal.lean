import CrwShield.Antibot.CookieWrites
import CrwShield.Base.Journal

/-!
# The jar as a journal

Crate `antibot`, `src/crates/antibot/src/cookie_jar.rs`. Whatever is done to a jar, it holds the
cookies that have been set and that no clearing has removed since. The sweep of expired cookies
cannot be observed: what a host is sent depends on the writes and the clearings of hosts alone.
-/

open CrwShield.Base CrwShield.Base.Str

namespace CrwShield.Antibot

/-- A call that changes a jar. -/
inductive JarCall where
  | setCookie (w : CookieWrite)
  | setFromSetCookie (urlHost line : Str)
  | clearExpired
  | clearForHost (host : Str)
  | clearForHostExceptHitl (host : Str)
  | markHitlSolved (host : Str) (timestampUnix : Nat)
  deriving DecidableEq

/-- A call with what the clock reads. -/
structure TimedCall where
  now : Option Nat
  call : JarCall
  deriving DecidableEq

namespace TimedCall

/-- The jar after a call. -/
def apply (jar : CookieJar) (c : TimedCall) : CookieJar :=
  match c.call with
  | .setCookie w => jar.setCookie c.now w.host w.name w.value w.maxAgeSecs
  | .setFromSetCookie urlHost line => jar.setFromSetCookie c.now urlHost line
  | .clearExpired => jar.clearExpired c.now
  | .clearForHost host => (jar.clearForHost host).1
  | .clearForHostExceptHitl host => (jar.clearForHostExceptHitl c.now host).1
  | .markHitlSolved host timestampUnix => jar.markHitlSolved host timestampUnix

/-- The call of `set_cookie` that a call amounts to. -/
def write (c : TimedCall) : Option CookieWrite :=
  match c.call with
  | .setCookie w => some w
  | .setFromSetCookie urlHost line =>
    (parseSetCookie line).map (·.write urlHost)
  | _ => none

/-- The stamp that a call puts on a bucket. -/
def stamp (b : Str) (c : TimedCall) : Option Nat :=
  match c.call with
  | .markHitlSolved host timestampUnix =>
    if normalizeHost host = b then some timestampUnix else none
  | _ => none

end TimedCall

/-- The last stamp that some calls have put on a bucket. -/
def lastStamp (calls : List TimedCall) (b : Str) : Option Nat :=
  calls.reverse.findSome? (TimedCall.stamp b)

/-- A call removes a cookie: by its expiry, or by its bucket, which a recent stamp protects from one
of the clearings. -/
def removesCookie (before : List TimedCall) (c : TimedCall) (key : Str × Str) (e : Entry) : Bool :=
  match c.call with
  | .clearExpired => isExpiredUnix e.expiresAtUnix c.now
  | .clearForHost host => key.1 ∈ hostCandidates (normalizeHost host)
  | .clearForHostExceptHitl host =>
    key.1 ∈ hostCandidates (normalizeHost host) &&
      !(lastStamp before key.1).any (c.now.getD 0 - · < hitlProtectWindowSecs)
  | _ => false

/-- The journal of a jar, by bucket and name. -/
def cookieJournal : Journal TimedCall (Str × Str) Entry where
  writes c := c.write.map fun w ↦ ((normalizeHost w.host, w.name), w.entry c.now)
  removes := removesCookie

/-- The jar after some calls. -/
def jarAfter (calls : List TimedCall) : CookieJar := calls.foldl TimedCall.apply .new

section Journal

variable {calls : List TimedCall} {c : TimedCall} {b n : Str} {e : Entry}

theorem lastStamp_concat (calls : List TimedCall) (c : TimedCall) (b : Str) :
    lastStamp (calls ++ [c]) b = (c.stamp b).or (lastStamp calls b) := by
  unfold lastStamp
  rw [List.reverse_append, List.reverse_singleton, List.singleton_append, List.findSome?_cons]
  cases c.stamp b <;> rfl

theorem stamps_apply (jar : CookieJar) (c : TimedCall) (b : Str) :
    (c.apply jar).lastHitlSolvedUnix[b]? = (c.stamp b).or jar.lastHitlSolvedUnix[b]? := by
  obtain ⟨now, call⟩ := c
  cases call with
  | setFromSetCookie urlHost line =>
    show (jar.setFromSetCookie now urlHost line).lastHitlSolvedUnix[b]? = _
    unfold CookieJar.setFromSetCookie
    cases parseSetCookie line <;> rfl
  | markHitlSolved host timestampUnix =>
    show (jar.lastHitlSolvedUnix.insert (normalizeHost host) timestampUnix)[b]? =
      (if normalizeHost host = b then some timestampUnix else none).or _
    rw [Std.ExtTreeMap.getElem?_insert]
    by_cases hb : normalizeHost host = b
    · simp [hb]
    · simp [hb]
  | setCookie w => rfl
  | clearExpired => rfl
  | clearForHost host => rfl
  | clearForHostExceptHitl host => rfl

/-- The stamp of a bucket is the last one put on it. -/
theorem stamps_jarAfter (calls : List TimedCall) (b : Str) :
    (jarAfter calls).lastHitlSolvedUnix[b]? = lastStamp calls b := by
  unfold jarAfter
  induction calls using List.reverseRecOn with
  | nil =>
    show (∅ : Std.ExtTreeMap Str Nat)[b]? = none
    simp
  | append_singleton calls c ih =>
    rw [List.foldl_append, List.foldl_cons, List.foldl_nil, stamps_apply, ih, lastStamp_concat]

theorem isProtected_jarAfter (calls : List TimedCall) (now : Nat) (b : Str) :
    (jarAfter calls).isProtected now b =
      (lastStamp calls b).any (now - · < hitlProtectWindowSecs) := by
  rw [CookieJar.isProtected, stamps_jarAfter]
  cases lastStamp calls b <;> rfl

/-- The law of a call that writes. -/
theorem lookup_write {jar : CookieJar} {w : CookieWrite} (hw : c.write = some w) (b n : Str) :
    (c.apply jar).lookup b n =
      if normalizeHost w.host = b ∧ w.name = n then some (w.entry c.now) else jar.lookup b n := by
  obtain ⟨now, call⟩ := c
  cases call with
  | setCookie w' =>
    obtain rfl := Option.some.inj hw
    exact jar.lookup_setCookie now w'.host w'.name w'.value w'.maxAgeSecs b n
  | setFromSetCookie urlHost line =>
    obtain ⟨p, hp, rfl⟩ := Option.map_eq_some_iff.mp hw
    show (jar.setFromSetCookie now urlHost line).lookup b n = _
    rw [CookieJar.setFromSetCookie, hp]
    exact jar.lookup_setCookie now _ p.name p.value p.maxAgeSecs b n
  | clearExpired => exact absurd hw (by simp [TimedCall.write])
  | clearForHost host => exact absurd hw (by simp [TimedCall.write])
  | clearForHostExceptHitl host => exact absurd hw (by simp [TimedCall.write])
  | markHitlSolved host timestampUnix => exact absurd hw (by simp [TimedCall.write])

/-- The law of a call that does not write: what it does not remove stays. -/
theorem lookup_noWrite (calls : List TimedCall) (hw : c.write = none) (b n : Str) :
    (c.apply (jarAfter calls)).lookup b n =
      ((jarAfter calls).lookup b n).filter fun e ↦ !removesCookie calls c (b, n) e := by
  have hbuckets {p : Prop} [Decidable p] {d : Bool} (hp : p ↔ d = true) :
      (if p then none else (jarAfter calls).lookup b n) =
        ((jarAfter calls).lookup b n).filter fun _ ↦ !d := by
    cases d with
    | true =>
      rw [if_pos (hp.mpr rfl)]
      cases (jarAfter calls).lookup b n <;> rfl
    | false =>
      rw [if_neg (mt hp.mp Bool.false_ne_true)]
      cases (jarAfter calls).lookup b n <;> rfl
  have hsame : (jarAfter calls).lookup b n =
      ((jarAfter calls).lookup b n).filter fun _ ↦ !false := by
    cases (jarAfter calls).lookup b n <;> rfl
  obtain ⟨now, call⟩ := c
  cases call with
  | setCookie w => exact absurd hw (by simp [TimedCall.write])
  | setFromSetCookie urlHost line =>
    have hnone : parseSetCookie line = none := by simpa [TimedCall.write] using hw
    show ((jarAfter calls).setFromSetCookie now urlHost line).lookup b n = _
    rw [CookieJar.setFromSetCookie, hnone]
    exact hsame
  | clearExpired => exact (jarAfter calls).lookup_clearExpired now b n
  | clearForHost host =>
    show ((jarAfter calls).clearBuckets _ _).1.lookup b n = _
    rw [CookieJar.lookup_clearBuckets]
    show _ = ((jarAfter calls).lookup b n).filter fun _ ↦
      !Decidable.decide (b ∈ hostCandidates (normalizeHost host))
    exact hbuckets (by simp)
  | clearForHostExceptHitl host =>
    show ((jarAfter calls).clearBuckets _ _).1.lookup b n = _
    rw [CookieJar.lookup_clearBuckets, isProtected_jarAfter]
    show _ = ((jarAfter calls).lookup b n).filter fun _ ↦
      !(Decidable.decide (b ∈ hostCandidates (normalizeHost host)) &&
        !(lastStamp calls b).any (now.getD 0 - · < hitlProtectWindowSecs))
    exact hbuckets (by simp)
  | markHitlSolved host timestampUnix => exact hsame

/-- A jar holds under a bucket and a name exactly the cookie that has been set there and has
survived since. -/
theorem lookup_jarAfter (calls : List TimedCall) (b n : Str) (e : Entry) :
    (jarAfter calls).lookup b n = some e ↔ cookieJournal.Survives calls (b, n) e := by
  let table (jar : CookieJar) (key : Str × Str) := jar.lookup key.1 key.2
  show table (calls.foldl TimedCall.apply .new) (b, n) = some e ↔ _
  refine Journal.holds_iff_survives (fun key ↦ CookieJar.lookup_new key.1 key.2) ?_ calls (b, n) e
  rintro before c ⟨b, n⟩ e
  show (c.apply (jarAfter before)).lookup b n = some e ↔
    c.write.map _ = _ ∨ (jarAfter before).lookup b n = some e ∧ _
  cases hw : c.write with
  | none =>
    have hwrites : cookieJournal.writes c = none := by
      show c.write.map _ = none
      rw [hw]
      rfl
    rw [lookup_noWrite before hw, Option.filter_eq_some_iff, Journal.Spares, hwrites]
    show _ ∧ (!removesCookie before c (b, n) e) = true ↔ _
    rw [Bool.not_eq_true']
    constructor
    · rintro ⟨hlookup, hkept⟩
      exact .inr ⟨hlookup, fun _ ↦ by simp, hkept⟩
    · rintro (hnone | ⟨hlookup, -, hkept⟩)
      · exact absurd hnone (by simp)
      · exact ⟨hlookup, hkept⟩
  | some w =>
    have hwrites : cookieJournal.writes c =
        some ((normalizeHost w.host, w.name), w.entry c.now) := by
      show c.write.map _ = _
      rw [hw]
      rfl
    have hkeeps : removesCookie before c (b, n) e = false := by
      obtain ⟨now, call⟩ := c
      cases call with
      | setCookie w' => rfl
      | setFromSetCookie urlHost line => rfl
      | clearExpired => exact absurd hw (by simp [TimedCall.write])
      | clearForHost host => exact absurd hw (by simp [TimedCall.write])
      | clearForHostExceptHitl host => exact absurd hw (by simp [TimedCall.write])
      | markHitlSolved host timestampUnix => exact absurd hw (by simp [TimedCall.write])
    rw [lookup_write hw, Journal.Spares, hwrites, Option.map_some]
    by_cases hkey : normalizeHost w.host = b ∧ w.name = n
    · obtain ⟨rfl, rfl⟩ := hkey
      simp
    · rw [if_neg hkey]
      have hne : ∀ v, some ((normalizeHost w.host, w.name), w.entry c.now) ≠ some ((b, n), v) := by
        intro v heq
        obtain ⟨hpair, -⟩ := Prod.mk.inj (Option.some.inj heq)
        exact hkey (Prod.mk.inj hpair)
      constructor
      · exact fun hlookup ↦ .inr ⟨hlookup, hne, hkeeps⟩
      · rintro (heq | ⟨hlookup, -, -⟩)
        · exact absurd heq (hne e)
        · exact hlookup

/-- What a host is sent after any calls: of the buckets it lies under, the cookies that have been
set and have survived every call since, unless they have expired. -/
theorem mem_headerParts_jarAfter (calls : List TimedCall) (now : Option Nat) (host part : Str) :
    part ∈ (jarAfter calls).headerParts now host ↔
      ∃ b n e, b ∈ hostCandidates host ∧ cookieJournal.Survives calls (b, n) e ∧
        isExpiredUnix e.expiresAtUnix now = false ∧ part = n ++ "=" ++ e.value := by
  rw [CookieJar.mem_headerParts]
  simp only [lookup_jarAfter]

end Journal

section Sweeps

/-- A clock that is not behind another one, if that one reads anything. -/
def ClockLe (now later : Option Nat) : Prop := ∀ t ∈ now, ∃ u ∈ later, t ≤ u

instance (now later : Option Nat) : Decidable (ClockLe now later) :=
  inferInstanceAs (Decidable (∀ t ∈ now, ∃ u ∈ later, t ≤ u))

/-- The call is not a sweep of expired cookies. -/
def TimedCall.isNoSweep (c : TimedCall) : Bool := c.call ≠ .clearExpired

variable {calls : List TimedCall} {c : TimedCall} {now : Option Nat}

/-- What has expired stays expired. -/
theorem isExpiredUnix_mono {x earlier later : Option Nat} (hclock : ClockLe earlier later)
    (h : isExpiredUnix x earlier = true) : isExpiredUnix x later = true := by
  cases x with
  | none => exact absurd h (by simp [isExpiredUnix])
  | some e =>
    cases earlier with
    | none => exact absurd h (by simp [isExpiredUnix])
    | some t =>
      obtain ⟨u, hu, hle⟩ := hclock t rfl
      rw [Option.mem_def] at hu
      subst hu
      have hexpired : e ≤ t := of_decide_eq_true h
      exact decide_eq_true (Nat.le_trans hexpired hle)

/-- Sweeps put no stamps. -/
theorem lastStamp_noSweeps (calls : List TimedCall) (b : Str) :
    lastStamp (calls.filter TimedCall.isNoSweep) b = lastStamp calls b := by
  induction calls using List.reverseRecOn with
  | nil => rfl
  | append_singleton calls c ih =>
    rw [List.filter_append, lastStamp_concat]
    by_cases hsweep : c.call = .clearExpired
    · have hstamp : c.stamp b = none := by
        unfold TimedCall.stamp
        rw [hsweep]
      rw [List.filter_cons_of_neg (by simp [TimedCall.isNoSweep, hsweep]), hstamp, List.filter_nil,
        List.append_nil, ih, Option.none_or]
    · rw [List.filter_cons_of_pos (by simp [TimedCall.isNoSweep, hsweep]), List.filter_nil,
        lastStamp_concat, ih]

theorem removesCookie_noSweeps (calls : List TimedCall) (c : TimedCall) :
    removesCookie (calls.filter TimedCall.isNoSweep) c = removesCookie calls c := by
  funext key e
  unfold removesCookie
  cases c.call with
  | clearForHostExceptHitl host =>
    dsimp only
    rw [lastStamp_noSweeps]
  | _ => rfl

theorem jarAfter_concat (calls : List TimedCall) (c : TimedCall) :
    jarAfter (calls ++ [c]) = c.apply (jarAfter calls) := by
  rw [jarAfter, List.foldl_append]
  rfl

/-- With and without sweeps, a jar holds the same cookies among those that have not expired. -/
theorem live_noSweeps (hclock : ∀ c ∈ calls, ClockLe c.now now) (b n : Str) :
    ((jarAfter calls).lookup b n).filter (fun e ↦ !isExpiredUnix e.expiresAtUnix now) =
      ((jarAfter (calls.filter TimedCall.isNoSweep)).lookup b n).filter fun e ↦
        !isExpiredUnix e.expiresAtUnix now := by
  induction calls using List.reverseRecOn with
  | nil => rfl
  | append_singleton calls c ih =>
    have hbefore := ih fun d hd ↦ hclock d (List.mem_append_left _ hd)
    have hlast : ClockLe c.now now := hclock c (List.mem_append_right _ List.mem_cons_self)
    rw [List.filter_append, jarAfter_concat]
    by_cases hsweep : c.call = .clearExpired
    · -- what the sweep drops has expired by now
      have hwrite : c.write = none := by
        unfold TimedCall.write
        rw [hsweep]
      rw [List.filter_cons_of_neg (by simp [TimedCall.isNoSweep, hsweep]), List.filter_nil,
        List.append_nil, lookup_noWrite calls hwrite, ← hbefore, Option.filter_filter]
      congr 1
      funext e
      have hremoves : removesCookie calls c (b, n) e = isExpiredUnix e.expiresAtUnix c.now := by
        unfold removesCookie
        rw [hsweep]
      rw [hremoves]
      cases hgone : isExpiredUnix e.expiresAtUnix c.now with
      | true =>
        rw [isExpiredUnix_mono hlast hgone]
        rfl
      | false => rfl
    · rw [List.filter_cons_of_pos (by simp [TimedCall.isNoSweep, hsweep]), List.filter_nil,
        jarAfter_concat]
      cases hwrite : c.write with
      | none =>
        have hcommute (o : Option Entry) (p q : Entry → Bool) :
            (o.filter p).filter q = (o.filter q).filter p := by
          rw [Option.filter_filter, Option.filter_filter]
          simp only [Bool.and_comm]
        rw [lookup_noWrite calls hwrite, lookup_noWrite _ hwrite, removesCookie_noSweeps, hcommute,
          hbefore, hcommute]
      | some w =>
        rw [lookup_write hwrite, lookup_write hwrite]
        split
        · rfl
        · exact hbefore

/-- Sweeping expired cookies cannot be observed: whatever is done to a jar, at any clock that no
call was ahead of every URL is sent what it would be sent without the sweeps. -/
theorem sweeps_invisible (hclock : ∀ c ∈ calls, ClockLe c.now now) (U : UrlCrate) (url : Str) :
    CookieJar.cookieHeaderFor U (jarAfter calls) now url =
      CookieJar.cookieHeaderFor U (jarAfter (calls.filter TimedCall.isNoSweep)) now url := by
  unfold CookieJar.cookieHeaderFor
  congr 1
  funext host
  rw [CookieJar.headerParts_congr (live_noSweeps hclock) host]

/-- A cookie that outlives a sweep, one that does not, and a clearing of another host. -/
def sweptCalls : List TimedCall :=
  [⟨some 10, .setCookie ⟨"shop.example", "id", "1", none⟩⟩,
    ⟨some 11, .setFromSetCookie "www.shop.example" "seen=1; Max-Age=5; Domain=.shop.example"⟩,
    ⟨some 20, .clearExpired⟩,
    ⟨some 21, .clearForHost "news.example"⟩]

theorem sweeps_invisible_swept :
    CookieJar.cookieHeaderFor .plain (jarAfter sweptCalls) (some 30) "https://shop.example/" =
      CookieJar.cookieHeaderFor .plain (jarAfter (sweptCalls.filter TimedCall.isNoSweep)) (some 30)
        "https://shop.example/" :=
  sweeps_invisible (by decide) .plain _

end Sweeps
end CrwShield.Antibot
