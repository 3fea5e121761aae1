import CrwShield.Base.Runs
import CrwShield.Server.State

/-!
# Cookie persistence

A jar saved by `save_to_path`, `src/crates/antibot/src/cookie_jar.rs:399–447`, and seeded back by
`seed_cookie_jar`, `src/crates/server/src/state.rs:253–298`, sends the same cookies as before.
Expiries are absolute on disk and become lifetimes again when the jar is seeded; the invariant says
that every stored expiry can be restored that way.
-/

open CrwShield.Base CrwShield.Base.Str CrwShield.Antibot

namespace CrwShield.Server

/-- An operation on a jar. -/
inductive JarOp where
  | setCookie (host name value : Str) (maxAgeSecs : Option Nat)
  | setFromSetCookie (urlHost line : Str)
  | clearExpired
  | clearForHost (host : Str)

/-- The jar after an operation at a time. -/
def JarOp.apply (now : Option Nat) (jar : CookieJar) : JarOp → CookieJar
  | .setCookie host name value maxAgeSecs => jar.setCookie now host name value maxAgeSecs
  | .setFromSetCookie urlHost line => jar.setFromSetCookie now urlHost line
  | .clearExpired => jar.clearExpired now
  | .clearForHost host => (jar.clearForHost host).1

/-- No white space in a text. -/
def NoSpace (s : Str) : Prop := ∀ c ∈ s, isWhitespace c = false

instance (s : Str) : Decidable (NoSpace s) :=
  List.decidableBAll (fun c ↦ isWhitespace c = false) s

/-- No white space in the host of an operation, nor in the `Domain` attribute. -/
def JarOp.NoSpace : JarOp → Prop
  | .setCookie host _ _ _ => Server.NoSpace host
  | .setFromSetCookie urlHost line => Server.NoSpace urlHost ∧
      ∀ d ∈ (parseSetCookie line).bind SetCookie.domain, Server.NoSpace d
  | .clearExpired => True
  | .clearForHost host => Server.NoSpace host

instance : (op : JarOp) → Decidable op.NoSpace
  | .setCookie host _ _ _ => inferInstanceAs (Decidable (Server.NoSpace host))
  | .setFromSetCookie urlHost line => inferInstanceAs (Decidable (Server.NoSpace urlHost ∧
      ∀ d ∈ (parseSetCookie line).bind SetCookie.domain, Server.NoSpace d))
  | .clearExpired => inferInstanceAs (Decidable True)
  | .clearForHost host => inferInstanceAs (Decidable (Server.NoSpace host))

/-- A clock that is not behind another. A clock before the epoch reads nothing. -/
def NotBehind (now later : Option Nat) : Prop := ∀ t, now = some t → ∃ u, later = some u ∧ t ≤ u

/-- The jar after a restart: saved, and seeded back at a time. -/
def reload (load : Option Nat) (jar : CookieJar) : CookieJar :=
  seedCookieJar load (.snapshot jar.snapshot) .new

/-- Every bucket is a normal host, and every expiry that lies ahead is one that `set_cookie` can
store. -/
structure Persistable (load : Option Nat) (jar : CookieJar) : Prop where
  normal : ∀ b n e, jar.lookup b n = some e → normalizeHost b = b
  storable : ∀ b n e x, jar.lookup b n = some e → e.expiresAtUnix = some x →
    ∃ t, load = some t ∧ (x ≤ t ∨ x < 2 ^ 64)

theorem persistable_new (load : Option Nat) : Persistable load .new where
  normal b n e h := absurd h (by simp)
  storable b n e x h := absurd h (by simp)

/-- An expiry set by a clock that is not ahead is storable. -/
theorem storable_expiry {now load age : Option Nat} {x : Nat} (hclock : NotBehind now load)
    (h : CookieJar.expiry now age = some x) : ∃ t, load = some t ∧ (x ≤ t ∨ x < 2 ^ 64) := by
  cases age with
  | none => exact absurd h (by simp [CookieJar.expiry])
  | some secs =>
    by_cases hzero : secs = 0
    · obtain ⟨t, ht, hle⟩ := hclock x (by simpa [CookieJar.expiry, hzero] using h)
      exact ⟨t, ht, .inl hle⟩
    · cases now with
      | none => exact absurd h (by simp [CookieJar.expiry])
      | some n =>
        obtain ⟨t, ht, -⟩ := hclock n rfl
        refine ⟨t, ht, .inr ?_⟩
        simp only [CookieJar.expiry, Option.bind_some, if_neg hzero, checkedAdd] at h
        split at h
        · obtain rfl := Option.some.inj h
          assumption
        · exact absurd h (by simp)

variable {load : Option Nat} {jar : CookieJar}

/-- Storing a cookie for a host without white space. -/
theorem Persistable.setCookie (h : Persistable load jar) {now : Option Nat} {host : Str}
    (hspace : NormalHost (normalizeHost host))
    (hclock : NotBehind now load) (name value : Str) (age : Option Nat) :
    Persistable load (jar.setCookie now host name value age) where
  normal b n e he := by
    rw [CookieJar.lookup_setCookie] at he
    split at he
    · next hb => rw [← hb.1]; exact hspace
    · exact h.normal b n e he
  storable b n e x he hx := by
    rw [CookieJar.lookup_setCookie] at he
    split at he
    · obtain rfl := Option.some.inj he
      exact storable_expiry hclock hx
    · exact h.storable b n e x he hx

/-- Dropping cookies. -/
theorem Persistable.of_lookup (h : Persistable load jar) {jar' : CookieJar}
    (hsub : ∀ b n e, jar'.lookup b n = some e → jar.lookup b n = some e) :
    Persistable load jar' where
  normal b n e he := h.normal b n e (hsub b n e he)
  storable b n e x he hx := h.storable b n e x (hsub b n e he) hx

/-- Every operation keeps the invariant. -/
theorem Persistable.apply (h : Persistable load jar) {now : Option Nat} {op : JarOp}
    (hspace : op.NoSpace) (hclock : NotBehind now load) : Persistable load (op.apply now jar) := by
  cases op with
  | setCookie host name value age =>
    exact h.setCookie (normalizeHost_idem hspace) hclock name value age
  | setFromSetCookie urlHost line =>
    obtain ⟨hurl, hdomain⟩ := hspace
    show Persistable load (jar.setFromSetCookie now urlHost line)
    unfold CookieJar.setFromSetCookie
    cases hparse : parseSetCookie line with
    | none => exact h
    | some c =>
      refine h.setCookie ?_ hclock c.name c.value c.maxAgeSecs
      unfold SetCookie.storeHost
      cases hd : c.domain with
      | none =>
        rw [Option.getD_none, normalizeHost_idem hurl]
        exact normalizeHost_idem hurl
      | some d => exact normalizeHost_idem (hdomain d (by rw [hparse]; exact hd))
  | clearExpired =>
    refine h.of_lookup fun b n e he ↦ ?_
    rw [show (JarOp.clearExpired.apply now jar) = jar.clearExpired now from rfl,
      CookieJar.lookup_clearExpired, Option.filter_eq_some_iff] at he
    exact he.1
  | clearForHost host =>
    refine h.of_lookup fun b n e he ↦ ?_
    rw [show ((JarOp.clearForHost host).apply now jar) = (jar.clearForHost host).1 from rfl,
      CookieJar.clearForHost, CookieJar.lookup_clearBuckets] at he
    split at he
    · exact absurd he (by simp)
    · exact he

/-- Seeding a fresh jar with the cookies of a loaded one restores them, where their buckets are
normal and their expiries come back from their lifetimes. -/
theorem lookup_seedWrites {now : Option Nat} {loaded : CookieJar}
    (hnormal : ∀ b n e, loaded.lookup b n = some e → normalizeHost b = b)
    (hexpiry : ∀ b n e, loaded.lookup b n = some e →
      CookieJar.expiry now (e.expiresAtUnix.map (· - now.getD 0)) = e.expiresAtUnix) (b n : Str) :
    (CookieJar.new.setAll now (seedWrites now loaded)).lookup b n = loaded.lookup b n := by
  rw [CookieJar.lookup_setAll, CookieJar.lookup_new, Option.or_none, List.findRev?_eq_find?_reverse]
  cases hw : (seedWrites now loaded).reverse.find? (·.hits b n) with
  | none =>
    rw [List.find?_eq_none] at hw
    cases he : loaded.lookup b n with
    | none => rfl
    | some e =>
      have hmem : (⟨b, n, e.value, e.expiresAtUnix.map (· - now.getD 0)⟩ : CookieWrite) ∈
          seedWrites now loaded :=
        List.mem_map.mpr ⟨(b, n, e.value, e.expiresAtUnix), loaded.mem_iter.mpr he, rfl⟩
      exact absurd (CookieWrite.hits_iff.mpr ⟨hnormal b n e he, rfl⟩)
        (hw _ (List.mem_reverse.mpr hmem))
  | some w =>
    obtain ⟨⟨b', n', v, x⟩, hiter, rfl⟩ :=
      List.mem_map.mp (List.mem_reverse.mp (List.mem_of_find?_eq_some hw))
    obtain ⟨hb, rfl⟩ := CookieWrite.hits_iff.mp (List.find?_some hw)
    have hl := loaded.mem_iter.mp hiter
    obtain rfl : b' = b := (hnormal b' n' _ hl).symm.trans hb
    have hx : CookieJar.expiry now (x.map (· - now.getD 0)) = x := hexpiry b' n' _ hl
    rw [hl, Option.map_some, CookieWrite.entry, hx]

/-- A live expiry that is storable comes back from its remaining lifetime. -/
theorem expiry_of_storable {x : Option Nat} (hlive : isExpiredUnix x load = false)
    (hstorable : ∀ u, x = some u → ∃ t, load = some t ∧ (u ≤ t ∨ u < 2 ^ 64)) :
    CookieJar.expiry load (x.map (· - load.getD 0)) = x := by
  cases x with
  | none => rfl
  | some u =>
    obtain ⟨t, rfl, hu⟩ := hstorable u rfl
    exact expiry_remaining hlive fun v hv ↦ by
      obtain rfl := Option.some.inj hv
      simp only [isExpiredUnix, decide_eq_false_iff_not] at hlive
      exact hu.resolve_left hlive

/-- After a restart the jar holds the cookies that had not expired by then, with their expiries. -/
theorem Persistable.lookup_reload (h : Persistable load jar) (b n : Str) :
    (reload load jar).lookup b n =
      (jar.lookup b n).filter fun e ↦ !isExpiredUnix e.expiresAtUnix load := by
  obtain ⟨loaded, hload⟩ :
      ∃ loaded, CookieJar.loadFromPath (.snapshot jar.snapshot) load = .ok loaded := ⟨_, rfl⟩
  have hlookup (b n : Str) : loaded.lookup b n =
      (jar.lookup b n).filter fun e ↦ !isExpiredUnix e.expiresAtUnix load :=
    CookieJar.lookup_loadFromPath hload b n
  have hwrites : fileWrites load (.snapshot jar.snapshot) = seedWrites load loaded := by
    simp only [fileWrites, hload]
  rw [reload, seedCookieJar, hwrites, ← hlookup]
  refine lookup_seedWrites (fun b n e he ↦ ?_) (fun b n e he ↦ ?_) b n
  · rw [hlookup, Option.filter_eq_some_iff] at he
    exact h.normal b n e he.1
  · rw [hlookup, Option.filter_eq_some_iff] at he
    exact expiry_of_storable (by simpa using he.2) fun x hx ↦ h.storable b n e x he.1 hx

/-- What has expired stays expired. -/
theorem isExpiredUnix_of_notBehind {x now : Option Nat} (hlater : NotBehind load now)
    (h : isExpiredUnix x load = true) : isExpiredUnix x now = true := by
  cases x with
  | none => exact absurd h (by simp [isExpiredUnix])
  | some u =>
    cases load with
    | none => exact absurd h (by simp [isExpiredUnix])
    | some t =>
      obtain ⟨v, rfl, hle⟩ := hlater t rfl
      simp only [isExpiredUnix, decide_eq_true_eq] at h ⊢
      omega

/-- A jar that any operations on hosts without white space have built sends, at any time after it
was saved and loaded, what it would have sent without the restart. -/
theorem persistence_lossless (U : UrlCrate) {ops : List (Option Nat × JarOp)}
    (hrun : Run (Steps fun jar op ↦ op.2.apply op.1 jar) .new ops jar)
    (hspace : ∀ op ∈ ops, op.2.NoSpace) (hclock : ∀ op ∈ ops, NotBehind op.1 load)
    {now : Option Nat} (hlater : NotBehind load now) (url : Str) :
    (reload load jar).cookieHeaderFor U now url = jar.cookieHeaderFor U now url := by
  have hjar : Persistable load jar := by
    have hinv : (∀ op ∈ ops, op.2.NoSpace) → (∀ op ∈ ops, NotBehind op.1 load) →
        Persistable load jar := by
      refine hrun.history (I := fun ops jar ↦ (∀ op ∈ ops, op.2.NoSpace) →
        (∀ op ∈ ops, NotBehind op.1 load) → Persistable load jar) ?_ fun _ _ ↦ persistable_new load
      rintro ops jar op jar' ih rfl hspace hclock
      have hmem : op ∈ ops ++ [op] := by simp
      have hbefore := ih (fun o ho ↦ hspace o (List.mem_append_left _ ho))
        fun o ho ↦ hclock o (List.mem_append_left _ ho)
      exact hbefore.apply (hspace op hmem) (hclock op hmem)
    exact hinv hspace hclock
  have hparts (host : Str) :
      (reload load jar).headerParts now host = jar.headerParts now host := by
    refine CookieJar.headerParts_congr (fun b n ↦ ?_) host
    rw [hjar.lookup_reload]
    cases jar.lookup b n with
    | none => rfl
    | some e =>
      by_cases hx : isExpiredUnix e.expiresAtUnix load = true
      · have hx' := isExpiredUnix_of_notBehind hlater hx
        simp [Option.filter, hx, hx']
      · simp [Option.filter, hx]
  unfold CookieJar.cookieHeaderFor
  simp only [hparts]

/-- A cookie for a minute, a session cookie and one that expires at once. -/
def shopOps : List (Option Nat × JarOp) :=
  [(some 100, .setCookie "Shop.Example" "id" "7" (some 60)),
   (some 110, .setFromSetCookie "www.shop.example" "lang=de; Domain=.shop.example"),
   (some 110, .setCookie "shop.example" "old" "1" (some 0)), (some 115, .clearExpired)]

/-- The jar with these cookies. -/
def shopRunJar : CookieJar := shopOps.foldl (fun jar op ↦ op.2.apply op.1 jar) .new

theorem persistence_lossless_shop :
    (reload (some 120) shopRunJar).cookieHeaderFor .plain (some 130) "https://www.shop.example/" =
      shopRunJar.cookieHeaderFor .plain (some 130) "https://www.shop.example/" := by
  have hearly : ∀ op ∈ shopOps, op.1.getD 0 ≤ 120 := by decide
  refine persistence_lossless .plain (Run.steps_iff.mpr rfl) ?_ ?_ ?_ _
  · decide
  · intro op hop t ht
    have hle := hearly op hop
    rw [ht] at hle
    exact ⟨120, rfl, hle⟩
  · intro t ht
    obtain rfl := Option.some.inj ht
    exact ⟨130, rfl, by omega⟩

example : shopRunJar.cookieHeaderFor .plain (some 130) "https://www.shop.example/" =
    some "id=7; lang=de" := by decide +kernel

end CrwShield.Server
