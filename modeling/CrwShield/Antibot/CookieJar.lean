import CrwShield.Base.Hierarchy
import CrwShield.Base.UrlCrate
import Std.Data.ExtTreeMap.Lemmas

/-!
# The cookie jar

Crate `antibot`, `src/crates/antibot/src/cookie_jar.rs`. A jar maps host to name to entry and
keeps a stamp per host for the last human solve. Maps iterate in key order where the source leaves
the order open. `lookup` observes one stored cookie; each operation has one law about it.
-/

open CrwShield.Base CrwShield.Base.Str CrwShield.Base.Hierarchy

namespace CrwShield.Antibot

/-- Seconds after a human solve during which L1 keeps the host's cookies; `cookie_jar.rs:49`. -/
def hitlProtectWindowSecs : Nat := 3600

/-- On-disk format version; `cookie_jar.rs:64`. -/
def cookieJarFormatVersion : Nat := 1

/-- A single cookie entry; `cookie_jar.rs:68–75`. -/
structure Entry where
  value : Str
  expiresAtUnix : Option Nat
  deriving DecidableEq

/-- Cookie name to entry. -/
abbrev Bucket := Std.ExtTreeMap Str Entry

/-- Contents of the jar behind its mutex; `cookie_jar.rs:78–99`. -/
structure CookieJar where
  cookies : Std.ExtTreeMap Str Bucket
  lastHitlSolvedUnix : Std.ExtTreeMap Str Nat

/-- What `save_to_path` serialises; `cookie_jar.rs:406–409`. -/
structure OnDiskJar where
  version : Nat
  cookies : Std.ExtTreeMap Str Bucket

/-- What the loader can find at a path: nothing, bytes that do not parse, or a snapshot. -/
inductive CookieFile where
  | missing
  | unreadable (error : Str)
  | snapshot (jar : OnDiskJar)

/-- Host keys are trimmed, stripped of leading dots and lowercased; `cookie_jar.rs:516–518`. -/
def normalizeHost (host : Str) : Str := toAsciiLowercase (trimStartMatches '.' (trim host))

/-- Host part of a URL, by the parser or else by hand; `cookie_jar.rs:523–540`. -/
def urlHost (U : UrlCrate) (url : Str) : Option Str :=
  match U.parse url with
  | .ok parsed => (U.hostStr parsed).map normalizeHost
  | .error _ =>
    let afterScheme := ((splitOnce "://" url).map Prod.snd).getD url
    let hostPart := ((splitOnce "/" afterScheme).map Prod.fst).getD afterScheme
    let host := (split ':' hostPart).headD []
    if host.isEmpty then none else some (normalizeHost host)

/-- The host and its parent domains; `cookie_jar.rs:544–560`. -/
def hostCandidates (host : Str) : List Str := lineage '.' (normalizeHost host)

/-- Whether an expiry lies in the past or now; `cookie_jar.rs:509–514`. -/
def isExpiredUnix : Option Nat → Option Nat → Bool
  | some t, some now => t ≤ now
  | _, _ => false

/-- `u64::checked_add`. -/
def checkedAdd (a b : Nat) : Option Nat := if a + b < 2 ^ 64 then some (a + b) else none

namespace CookieJar

/-- A fresh, empty jar; `cookie_jar.rs:103–107`. -/
def new : CookieJar := ⟨∅, ∅⟩

/-- Absolute expiry of a cookie stored at `now` with the given lifetime; `cookie_jar.rs:113–120`. -/
def expiry (now maxAgeSecs : Option Nat) : Option Nat :=
  maxAgeSecs.bind fun secs ↦ if secs = 0 then now else now.bind fun n ↦ checkedAdd n secs

/-- Store a cookie for a host; `cookie_jar.rs:112–131`. -/
def setCookie (jar : CookieJar) (now : Option Nat) (host name value : Str)
    (maxAgeSecs : Option Nat) : CookieJar :=
  { jar with
    cookies := jar.cookies.alter (normalizeHost host) fun bucket ↦
      some ((bucket.getD ∅).insert name ⟨value, expiry now maxAgeSecs⟩) }

/-- `name=value` pairs sent to a host, most specific bucket first; `cookie_jar.rs:143–153`. -/
def headerParts (jar : CookieJar) (now : Option Nat) (host : Str) : List Str :=
  (hostCandidates host).flatMap fun h ↦
    match jar.cookies[h]? with
    | none => []
    | some bucket => bucket.toList.filterMap fun cookie ↦
        if isExpiredUnix cookie.2.expiresAtUnix now then none
        else some (cookie.1 ++ "=" ++ cookie.2.value)

/-- Value of the `Cookie:` header for a URL; `cookie_jar.rs:139–159`. -/
def cookieHeaderFor (U : UrlCrate) (jar : CookieJar) (now : Option Nat) (url : Str) :
    Option Str :=
  (urlHost U url).bind fun host ↦
    let parts := headerParts jar now host
    if parts.isEmpty then none else some (join "; " parts)

/-- Drop every expired cookie; `cookie_jar.rs:163–170`. -/
def clearExpired (jar : CookieJar) (now : Option Nat) : CookieJar :=
  let kept := jar.cookies.map fun _ bucket ↦
    bucket.filter fun _ entry ↦ !isExpiredUnix entry.expiresAtUnix now
  { jar with cookies := kept.filter fun _ bucket ↦ !bucket.isEmpty }

/-- Empty one bucket unless it is kept, counting the cookies removed. -/
def sweep (keep : Str → Bool) (acc : Std.ExtTreeMap Str Bucket × Nat) (h : Str) :
    Std.ExtTreeMap Str Bucket × Nat :=
  if keep h then acc
  else match acc.1[h]? with
    | none => acc
    | some bucket => (acc.1.insert h ∅, acc.2 + bucket.size)

/-- Sweep the listed buckets, then drop the empty ones; the loop shared by `clear_for_host` and
`clear_for_host_except_hitl`, `cookie_jar.rs:182–195,245–270`. -/
def clearBuckets (jar : CookieJar) (keep : Str → Bool) (hosts : List Str) : CookieJar × Nat :=
  let swept := hosts.foldl (sweep keep) (jar.cookies, 0)
  ({ jar with cookies := swept.1.filter fun _ bucket ↦ !bucket.isEmpty }, swept.2)

/-- Drop every cookie stored for a host and its parents; `cookie_jar.rs:182–195`. -/
def clearForHost (jar : CookieJar) (host : Str) : CookieJar × Nat :=
  jar.clearBuckets (fun _ ↦ false) (hostCandidates (normalizeHost host))

/-- Stamp a host as solved by a human; `cookie_jar.rs:209–215`. -/
def markHitlSolved (jar : CookieJar) (host : Str) (timestampUnix : Nat) : CookieJar :=
  { jar with
    lastHitlSolvedUnix := jar.lastHitlSolvedUnix.insert (normalizeHost host) timestampUnix }

/-- Whether a bucket was stamped within the protect window; `cookie_jar.rs:254–258`. -/
def isProtected (jar : CookieJar) (now : Nat) (h : Str) : Bool :=
  match jar.lastHitlSolvedUnix[h]? with
  | none => false
  | some t => now - t < hitlProtectWindowSecs

/-- Variant of `clearForHost` that keeps recently solved buckets; `cookie_jar.rs:245–270`. -/
def clearForHostExceptHitl (jar : CookieJar) (now : Option Nat) (host : Str) : CookieJar × Nat :=
  jar.clearBuckets (jar.isProtected (now.getD 0)) (hostCandidates (normalizeHost host))

/-- Snapshot written to disk: the cookies, not the stamps; `cookie_jar.rs:410–416`. -/
def snapshot (jar : CookieJar) : OnDiskJar := ⟨cookieJarFormatVersion, jar.cookies⟩

/-- Read a jar back, dropping expired cookies and all stamps; `cookie_jar.rs:453–495`. -/
def loadFromPath (file : CookieFile) (now : Option Nat) : Except Str CookieJar :=
  match file with
  | .missing => .ok new
  | .unreadable error => .error error
  | .snapshot parsed =>
    let kept := parsed.cookies.map fun _ bucket ↦
      bucket.filter fun _ entry ↦ !isExpiredUnix entry.expiresAtUnix now
    .ok ⟨kept.filter fun _ bucket ↦ !bucket.isEmpty, ∅⟩

/-- Every stored cookie as host, name, value and expiry; `cookie_jar.rs:363–377`. -/
def iter (jar : CookieJar) : List (Str × Str × Str × Option Nat) :=
  jar.cookies.toList.flatMap fun host ↦
    host.2.toList.map fun cookie ↦ (host.1, cookie.1, cookie.2.value, cookie.2.expiresAtUnix)

/-- The entry stored under a bucket and a name, expired or not. -/
def lookup (jar : CookieJar) (bucket name : Str) : Option Entry :=
  jar.cookies[bucket]?.bind fun b ↦ b[name]?

end CookieJar

/-- The parts of a `Set-Cookie` value that the jar reads; `cookie_jar.rs:295–338`. -/
structure SetCookie where
  name : Str
  value : Str
  maxAgeSecs : Option Nat
  domain : Option Str
  deriving DecidableEq

/-- One attribute: the last `Max-Age` and the last `Domain` that parse win;
`cookie_jar.rs:308–336`. -/
def SetCookie.attribute (cookie : SetCookie) (raw : Str) : SetCookie :=
  match splitOnce "=" (trim raw) with
  | none => cookie
  | some (k, v) =>
    let key := toAsciiLowercase (trim k)
    if key = "max-age" then
      match parseI64 (trim v) with
      | some n => if 0 ≤ n then { cookie with maxAgeSecs := some n.toNat } else cookie
      | none => cookie
    else if key = "domain" then
      let d := toAsciiLowercase (trimStartMatches '.' (trim v))
      if d.isEmpty then cookie else { cookie with domain := some d }
    else cookie

/-- Parse a `Set-Cookie` value; `cookie_jar.rs:295–336`. -/
def parseSetCookie (setCookie : Str) : Option SetCookie :=
  match split ';' setCookie with
  | [] => none
  | first :: attributes =>
    (splitOnce "=" first).bind fun nv ↦
      let name := trim nv.1
      if name.isEmpty then none
      else some (attributes.foldl SetCookie.attribute ⟨name, trim nv.2, none, none⟩)

/-- Host argument under which a parsed cookie is stored; `cookie_jar.rs:339`. -/
def SetCookie.storeHost (cookie : SetCookie) (urlHost : Str) : Str :=
  cookie.domain.getD (normalizeHost urlHost)

/-- Parse a `Set-Cookie` value and store it; `cookie_jar.rs:295–341`. -/
def CookieJar.setFromSetCookie (jar : CookieJar) (now : Option Nat) (urlHost setCookie : Str) :
    CookieJar :=
  match parseSetCookie setCookie with
  | none => jar
  | some c => jar.setCookie now (c.storeHost urlHost) c.name c.value c.maxAgeSecs

/-- Hosts whose buckets a lookup or a clearing walks: the host and its parent domains. -/
theorem mem_hostCandidates {b host : Str} :
    b ∈ hostCandidates host ↔ b ≠ [] ∧ Under '.' (normalizeHost host) b := mem_lineage

/-- A host that is already normal is left alone. -/
def NormalHost (host : Str) : Prop := normalizeHost host = host

namespace CookieJar

variable (jar : CookieJar)

@[simp] theorem lookup_new (b n : Str) : new.lookup b n = none := by simp [lookup, new]

/-- Storing a cookie sets that bucket and name and no other. -/
theorem lookup_setCookie (now : Option Nat) (host name value : Str) (age : Option Nat)
    (b n : Str) :
    (jar.setCookie now host name value age).lookup b n =
      if normalizeHost host = b ∧ name = n then some ⟨value, expiry now age⟩
      else jar.lookup b n := by
  simp only [lookup, setCookie, Std.ExtTreeMap.getElem?_alter, Std.compare_eq_iff_eq]
  by_cases hb : normalizeHost host = b
  · subst hb
    simp only [↓reduceIte, Option.bind_some, Std.ExtTreeMap.getElem?_insert,
      Std.compare_eq_iff_eq, true_and]
    split
    · rfl
    · cases jar.cookies[normalizeHost host]? <;> simp
  · simp only [hb, ↓reduceIte, false_and]

/-- Storing a cookie leaves the stamps alone. -/
@[simp] theorem stamps_setCookie (now : Option Nat) (host name value : Str) (age : Option Nat) :
    (jar.setCookie now host name value age).lastHitlSolvedUnix = jar.lastHitlSolvedUnix := rfl

private theorem getElem?_sweep (keep : Str → Bool) (hosts : List Str)
    (acc : Std.ExtTreeMap Str Bucket × Nat) (b : Str) :
    (hosts.foldl (sweep keep) acc).1[b]? =
      if b ∈ hosts ∧ keep b = false then acc.1[b]?.map fun _ ↦ ∅ else acc.1[b]? := by
  induction hosts generalizing acc with
  | nil => simp
  | cons h hosts ih =>
    rw [List.foldl_cons, ih]
    by_cases hk : keep h
    · have hs : sweep keep acc h = acc := by simp [sweep, hk]
      rw [hs]
      by_cases hbh : b = h
      · subst hbh
        simp [hk]
      · simp [hbh]
    · cases hg : acc.1[h]? with
      | none =>
        have hs : sweep keep acc h = acc := by simp [sweep, hk, hg]
        rw [hs]
        by_cases hbh : b = h
        · subst hbh
          simp [hg]
        · simp [hbh]
      | some bucket =>
        have hs : (sweep keep acc h).1 = acc.1.insert h ∅ := by simp [sweep, hk, hg]
        rw [hs, Std.ExtTreeMap.getElem?_insert]
        by_cases hbh : b = h
        · subst hbh
          simp [hk, hg]
        · simp [hbh, Ne.symm hbh]

/-- Clearing drops the listed buckets that are not kept, and every bucket that is empty. -/
theorem cookies_clearBuckets (keep : Str → Bool) (hosts : List Str) (b : Str) :
    (jar.clearBuckets keep hosts).1.cookies[b]? =
      if b ∈ hosts ∧ keep b = false then none
      else jar.cookies[b]?.filter fun bucket ↦ !bucket.isEmpty := by
  simp only [clearBuckets, Std.ExtTreeMap.getElem?_filter', getElem?_sweep]
  split
  · cases jar.cookies[b]? <;> simp
  · rfl

/-- Clearing removes exactly the cookies of the listed buckets that are not kept. -/
theorem lookup_clearBuckets (keep : Str → Bool) (hosts : List Str) (b n : Str) :
    (jar.clearBuckets keep hosts).1.lookup b n =
      if b ∈ hosts ∧ keep b = false then none else jar.lookup b n := by
  simp only [lookup, cookies_clearBuckets]
  split
  · rfl
  · cases jar.cookies[b]? with
    | none => rfl
    | some bucket =>
      by_cases he : bucket.isEmpty
      · rw [Std.ExtTreeMap.isEmpty_iff] at he
        subst he
        simp
      · rw [Option.filter_some_pos (by simpa using he), Option.bind_some]

/-- Clearing expired cookies leaves exactly the others. -/
theorem lookup_clearExpired (now : Option Nat) (b n : Str) :
    (jar.clearExpired now).lookup b n =
      (jar.lookup b n).filter fun e ↦ !isExpiredUnix e.expiresAtUnix now := by
  simp only [lookup, clearExpired, Std.ExtTreeMap.getElem?_filter', Std.ExtTreeMap.getElem?_map]
  cases jar.cookies[b]? with
  | none => rfl
  | some bucket =>
    let kept := bucket.filter fun _ e ↦ !isExpiredUnix e.expiresAtUnix now
    have hkept : kept[n]? = bucket[n]?.filter fun e ↦ !isExpiredUnix e.expiresAtUnix now :=
      Std.ExtTreeMap.getElem?_filter'
    rw [Option.map_some, Option.bind_some, ← hkept]
    by_cases he : kept.isEmpty
    · rw [Option.filter_some_neg (by simpa using he), Std.ExtTreeMap.isEmpty_iff.mp he]
      simp
    · rw [Option.filter_some_pos (by simpa using he), Option.bind_some]

/-- What a host is sent: the unexpired cookies of the buckets it lies under. -/
theorem mem_headerParts {now : Option Nat} {host part : Str} :
    part ∈ jar.headerParts now host ↔
      ∃ b n e, b ∈ hostCandidates host ∧ jar.lookup b n = some e ∧
        isExpiredUnix e.expiresAtUnix now = false ∧ part = n ++ "=" ++ e.value := by
  simp only [headerParts, List.mem_flatMap]
  constructor
  · rintro ⟨b, hb, hp⟩
    cases hg : jar.cookies[b]? with
    | none => simp [hg] at hp
    | some bucket =>
      simp only [hg, List.mem_filterMap] at hp
      obtain ⟨⟨n, e⟩, hm, hp⟩ := hp
      have he : bucket[n]? = some e := Std.ExtTreeMap.mem_toList_iff_getElem?_eq_some.mp hm
      split at hp
      · exact absurd hp (by simp)
      · next hx =>
        exact ⟨b, n, e, hb, by simp [lookup, hg, he], by simpa using hx,
          (Option.some.inj hp).symm⟩
  · rintro ⟨b, n, e, hb, hl, hx, rfl⟩
    refine ⟨b, hb, ?_⟩
    cases hg : jar.cookies[b]? with
    | none => simp [lookup, hg] at hl
    | some bucket =>
      have he : bucket[n]? = some e := by simpa [lookup, hg] using hl
      simp only [List.mem_filterMap]
      exact ⟨(n, e), Std.ExtTreeMap.mem_toList_iff_getElem?_eq_some.mpr he, by simp [hx]⟩

/-- The parts that one bucket contributes to the header. -/
def bucketParts (now : Option Nat) (bucket : Bucket) : List Str :=
  bucket.toList.filterMap fun cookie ↦
    if isExpiredUnix cookie.2.expiresAtUnix now then none
    else some (cookie.1 ++ "=" ++ cookie.2.value)

/-- A bucket contributes its unexpired cookies. -/
theorem bucketParts_eq (now : Option Nat) (bucket : Bucket) :
    bucketParts now bucket =
      (bucket.filter fun _ e ↦ !isExpiredUnix e.expiresAtUnix now).toList.map
        fun cookie ↦ (cookie.1 ++ "=" ++ cookie.2.value : Str) := by
  rw [Std.ExtTreeMap.toList_filter, bucketParts]
  induction bucket.toList with
  | nil => rfl
  | cons cookie cookies ih =>
    rw [List.filterMap_cons, List.filter_cons]
    by_cases hx : isExpiredUnix cookie.2.expiresAtUnix now
    · simp only [hx, if_true, Bool.not_true, Bool.false_eq_true, if_false]
      exact ih
    · simp only [hx, Bool.not_false, if_true, Bool.false_eq_true, if_false, List.map_cons]
      exact congrArg _ ih

/-- A host is sent what each bucket it lies under contributes, the most specific first. -/
theorem headerParts_eq (jar : CookieJar) (now : Option Nat) (host : Str) :
    jar.headerParts now host =
      (hostCandidates host).flatMap fun b ↦ bucketParts now (jar.cookies[b]?.getD ∅) := by
  unfold headerParts
  congr 1
  funext b
  cases jar.cookies[b]? <;> rfl

/-- A cookie is stored in its bucket. -/
theorem getElem?_bucket (jar : CookieJar) (b n : Str) :
    (jar.cookies[b]?.getD ∅)[n]? = jar.lookup b n := by
  unfold lookup
  cases jar.cookies[b]? <;> simp

/-- Jars that store the same unexpired cookies send the same header. -/
theorem headerParts_congr {jar jar' : CookieJar} {now : Option Nat}
    (h : ∀ b n, (jar.lookup b n).filter (fun e ↦ !isExpiredUnix e.expiresAtUnix now) =
      (jar'.lookup b n).filter fun e ↦ !isExpiredUnix e.expiresAtUnix now) (host : Str) :
    jar.headerParts now host = jar'.headerParts now host := by
  rw [headerParts_eq, headerParts_eq]
  congr 1
  funext b
  have hbucket : (jar.cookies[b]?.getD ∅).filter (fun _ e ↦ !isExpiredUnix e.expiresAtUnix now) =
      (jar'.cookies[b]?.getD ∅).filter fun _ e ↦ !isExpiredUnix e.expiresAtUnix now := by
    refine Std.ExtTreeMap.ext_getElem? fun n ↦ ?_
    rw [Std.ExtTreeMap.getElem?_filter', Std.ExtTreeMap.getElem?_filter', getElem?_bucket,
      getElem?_bucket]
    exact h b n
  rw [bucketParts_eq, bucketParts_eq, hbucket]

/-- The cookies a jar lists are the ones it stores. -/
theorem mem_iter {b n v : Str} {x : Option Nat} :
    (b, n, v, x) ∈ jar.iter ↔ jar.lookup b n = some ⟨v, x⟩ := by
  simp only [iter, List.mem_flatMap, List.mem_map, Prod.mk.injEq, Prod.exists, lookup,
    Option.bind_eq_some_iff, Std.ExtTreeMap.mem_toList_iff_getElem?_eq_some]
  constructor
  · rintro ⟨b', bucket, hb, n', e, hn, rfl, rfl, rfl, rfl⟩
    exact ⟨bucket, hb, hn⟩
  · rintro ⟨bucket, hb, hn⟩
    exact ⟨b, bucket, hb, n, ⟨v, x⟩, hn, rfl, rfl, rfl, rfl⟩

end CookieJar
end CrwShield.Antibot
