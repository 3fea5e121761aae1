import CrwShield.Antibot.CookieJar

/-!
# Lists of cookie writes

Every writer of the jar, the HTTP fetcher, the browser, FlareSolverr, the human solve and the
restart, calls `set_cookie` a number of times in a row. The jar after such a list of calls holds
under a bucket and a name what the last call for them stored.
-/

open CrwShield.Base CrwShield.Base.Str CrwShield.Base.Hierarchy

namespace CrwShield.Antibot

/-- Arguments of one call of `set_cookie`; `cookie_jar.rs:112`. -/
structure CookieWrite where
  host : Str
  name : Str
  value : Str
  maxAgeSecs : Option Nat
  deriving DecidableEq

namespace CookieWrite

/-- Whether the call stores under a bucket and a name. -/
def hits (b n : Str) (w : CookieWrite) : Bool := normalizeHost w.host = b && w.name = n

/-- The entry a call stores at a time. -/
def entry (now : Option Nat) (w : CookieWrite) : Entry :=
  ⟨w.value, CookieJar.expiry now w.maxAgeSecs⟩

theorem hits_iff {b n : Str} {w : CookieWrite} :
    w.hits b n = true ↔ normalizeHost w.host = b ∧ w.name = n := by
  simp only [hits, Bool.and_eq_true, decide_eq_true_eq]

end CookieWrite

/-- The entry saved under a bucket and a name, expired or not. -/
def OnDiskJar.lookup (saved : OnDiskJar) (bucket name : Str) : Option Entry :=
  saved.cookies[bucket]?.bind fun b ↦ b[name]?

namespace CookieJar

/-- Calls of `set_cookie` one after the other, each with what the clock reads at it. -/
def setEach (jar : CookieJar) (writes : List (Option Nat × CookieWrite)) : CookieJar :=
  writes.foldl (fun jar w ↦ jar.setCookie w.1 w.2.host w.2.name w.2.value w.2.maxAgeSecs) jar

/-- Calls of `set_cookie` one after the other, at one time. -/
def setAll (jar : CookieJar) (now : Option Nat) (writes : List CookieWrite) : CookieJar :=
  writes.foldl (fun jar w ↦ jar.setCookie now w.host w.name w.value w.maxAgeSecs) jar

variable (jar : CookieJar) (now : Option Nat)

@[simp] theorem setAll_cons (w : CookieWrite) (writes : List CookieWrite) :
    jar.setAll now (w :: writes) =
      (jar.setCookie now w.host w.name w.value w.maxAgeSecs).setAll now writes := rfl

theorem setAll_append (ws ws' : List CookieWrite) :
    jar.setAll now (ws ++ ws') = (jar.setAll now ws).setAll now ws' := List.foldl_append

/-- The last call for a bucket and a name wins. -/
theorem lookup_setEach (writes : List (Option Nat × CookieWrite)) (b n : Str) :
    (jar.setEach writes).lookup b n =
      ((writes.findRev? (·.2.hits b n)).map fun w ↦ w.2.entry w.1).or (jar.lookup b n) := by
  induction writes generalizing jar with
  | nil => rfl
  | cons w writes ih =>
    have hcons : jar.setEach (w :: writes) =
        (jar.setCookie w.1 w.2.host w.2.name w.2.value w.2.maxAgeSecs).setEach writes := rfl
    rw [hcons, ih, List.findRev?, lookup_setCookie]
    cases writes.findRev? (·.2.hits b n) with
    | some w' => rfl
    | none =>
      by_cases hw : w.2.hits b n
      · simp only [hw, if_pos (CookieWrite.hits_iff.mp hw)]
        rfl
      · simp only [hw, if_neg (mt CookieWrite.hits_iff.mpr hw)]
        rfl

theorem setAll_eq_setEach (writes : List CookieWrite) :
    jar.setAll now writes = jar.setEach (writes.map fun w ↦ (now, w)) := by
  rw [setEach, List.foldl_map]
  rfl

theorem lookup_setAll (writes : List CookieWrite) (b n : Str) :
    (jar.setAll now writes).lookup b n =
      ((writes.findRev? (·.hits b n)).map (·.entry now)).or (jar.lookup b n) := by
  rw [setAll_eq_setEach, lookup_setEach, List.findRev?_eq_find?_reverse, ← List.map_reverse,
    List.find?_map, List.findRev?_eq_find?_reverse, Option.map_map]
  rfl

/-- A loaded jar holds the cookies of the snapshot that have not expired. -/
theorem lookup_loadFromPath {parsed : OnDiskJar} {now : Option Nat} {loaded : CookieJar}
    (h : loadFromPath (.snapshot parsed) now = .ok loaded) (b n : Str) :
    loaded.lookup b n = (parsed.lookup b n).filter fun e ↦
      !isExpiredUnix e.expiresAtUnix now := by
  obtain rfl := Except.ok.inj h
  exact lookup_clearExpired ⟨parsed.cookies, ∅⟩ now b n

/-- The cookies sent with a request for a URL, the parts of the `Cookie:` header. -/
def sentCookies (U : UrlCrate) (url : Str) : List Str :=
  ((urlHost U url).map (jar.headerParts now)).getD []

/-- The header is the list of the cookies sent, or is left out. -/
theorem cookieHeaderFor_eq (U : UrlCrate) (url : Str) :
    cookieHeaderFor U jar now url =
      if (jar.sentCookies now U url).isEmpty then none
      else some (join "; " (jar.sentCookies now U url)) := by
  unfold cookieHeaderFor sentCookies
  cases urlHost U url <;> rfl

/-- The cookie stored under a bucket and a name is sent with requests for a URL. -/
def Sends (U : UrlCrate) (url b n : Str) (e : Entry) : Prop :=
  ∃ host, urlHost U url = some host ∧ b ∈ hostCandidates host ∧ jar.lookup b n = some e ∧
    isExpiredUnix e.expiresAtUnix now = false

/-- The parts of the header are the names and values of the cookies sent. -/
theorem mem_sentCookies {jar : CookieJar} {now : Option Nat} {U : UrlCrate} {url part : Str} :
    part ∈ jar.sentCookies now U url ↔
      ∃ b n e, jar.Sends now U url b n e ∧ part = n ++ "=" ++ e.value := by
  unfold sentCookies Sends
  cases urlHost U url with
  | none => simp
  | some host =>
    simp only [Option.map_some, Option.getD_some, mem_headerParts, Option.some.injEq]
    constructor
    · rintro ⟨b, n, e, hb, hl, hx, rfl⟩
      exact ⟨b, n, e, ⟨host, rfl, hb, hl, hx⟩, rfl⟩
    · rintro ⟨b, n, e, ⟨_, rfl, hb, hl, hx⟩, rfl⟩
      exact ⟨b, n, e, hb, hl, hx, rfl⟩

/-- What is stored at a time is expired at once exactly for a lifetime of zero. -/
theorem isExpiredUnix_expiry {t : Nat} {age : Option Nat} :
    isExpiredUnix (expiry (some t) age) (some t) = true ↔ age = some 0 := by
  cases age with
  | none => simp [expiry, isExpiredUnix]
  | some secs =>
    by_cases hs : secs = 0
    · simp [expiry, isExpiredUnix, hs]
    · simp only [expiry, Option.bind_some, hs, if_false, Option.some.injEq, iff_false]
      unfold checkedAdd
      split
      · simp only [isExpiredUnix, decide_eq_true_eq]
        omega
      · simp [isExpiredUnix]

end CookieJar

/-- A parsed `Set-Cookie` value is one write. -/
def SetCookie.write (cookie : SetCookie) (urlHost : Str) : CookieWrite :=
  ⟨cookie.storeHost urlHost, cookie.name, cookie.value, cookie.maxAgeSecs⟩

/-- A `Set-Cookie` value stores the cookie it parses to, if any. -/
theorem CookieJar.setFromSetCookie_eq (jar : CookieJar) (now : Option Nat) (urlHost value : Str) :
    jar.setFromSetCookie now urlHost value =
      jar.setAll now ((parseSetCookie value).toList.map (·.write urlHost)) := by
  unfold setFromSetCookie
  cases parseSetCookie value <;> rfl

section Hosts

private theorem trim_of_noSpace {s : Str} (h : ∀ c ∈ s, isWhitespace c = false) : trim s = s := by
  have hd : s.dropWhile isWhitespace = s := by
    cases s with
    | nil => rfl
    | cons c cs => exact List.dropWhile_cons_of_neg (by simp [h c])
  rw [trim, hd, List.rdropWhile_eq_self_iff]
  intro hl
  simp [h _ (List.getLast_mem hl)]

/-- A host without white space is lowercased, less its leading dots. -/
theorem normalizeHost_of_noSpace {host : Str} (h : ∀ c ∈ host, isWhitespace c = false) :
    normalizeHost host = toAsciiLowercase (trimStartMatches '.' host) := by
  rw [normalizeHost, trim_of_noSpace h]

private theorem noSpace_normalizeHost {host : Str} (h : ∀ c ∈ host, isWhitespace c = false) :
    ∀ c ∈ normalizeHost host, isWhitespace c = false := by
  rw [normalizeHost_of_noSpace h]
  intro c hc
  obtain ⟨d, hd, rfl⟩ := List.mem_map.mp hc
  rw [isWhitespace_toLower]
  exact h d ((List.dropWhile_sublist _).mem hd)

private theorem dot_comp_toLower :
    ((· == '.') : Char → Bool) ∘ Char.toLower = (· == '.') := by
  funext c
  rw [Bool.eq_iff_iff]
  simp only [Function.comp_apply, beq_iff_eq, toLower_eq_iff (show '.'.toNat < 65 by decide)]

/-- A bucket without white space is a normal host. -/
theorem normalizeHost_bucket {host : Str}
    (h : ∀ c ∈ normalizeHost host, isWhitespace c = false) :
    NormalHost (normalizeHost host) := by
  have hlower : Char.toLower ∘ Char.toLower = Char.toLower := funext toLower_toLower
  rw [NormalHost, normalizeHost_of_noSpace h]
  simp only [normalizeHost, toAsciiLowercase, trimStartMatches, List.dropWhile_map,
    dot_comp_toLower, List.dropWhile_idempotent, List.map_map, hlower]

/-- Normalising a host without white space twice is normalising it once. -/
theorem normalizeHost_idem {host : Str} (h : ∀ c ∈ host, isWhitespace c = false) :
    normalizeHost (normalizeHost host) = normalizeHost host :=
  normalizeHost_bucket (noSpace_normalizeHost h)

/-- Folding a host without white space does not change its bucket. -/
theorem normalizeHost_toAsciiLowercase {host : Str} (h : ∀ c ∈ host, isWhitespace c = false) :
    normalizeHost (toAsciiLowercase host) = normalizeHost host := by
  have hlower : ∀ c ∈ toAsciiLowercase host, isWhitespace c = false := by
    intro c hc
    obtain ⟨d, hd, rfl⟩ := List.mem_map.mp hc
    rw [isWhitespace_toLower]
    exact h d hd
  rw [normalizeHost_of_noSpace hlower, normalizeHost_of_noSpace h]
  simp only [toAsciiLowercase, trimStartMatches, List.dropWhile_map, dot_comp_toLower]
  exact toAsciiLowercase_idem _

/-- The names a host without white space lies under are normal. -/
theorem normalizeHost_of_under {host d : Str} (h : ∀ c ∈ host, isWhitespace c = false)
    (hu : Under '.' (normalizeHost host) (normalizeHost d)) :
    NormalHost (normalizeHost d) := by
  refine normalizeHost_bucket fun c hc ↦ noSpace_normalizeHost h c ?_
  rcases hu with hu | hu
  · rw [hu]
    exact hc
  · exact hu.subset (List.mem_cons_of_mem _ hc)

end Hosts
end CrwShield.Antibot
