import CrwShield.Antibot.CookieWrites

/-!
# Lifetimes of received cookies

Crate `antibot`, `src/crates/antibot/src/cookie_jar.rs:112–131,295–341,507–514`. A `Max-Age`
attribute is read as an `i64`, a value below zero counts as no attribute, and a cookie without a
lifetime is kept for ever.
-/

open CrwShield.Base CrwShield.Base.Str

namespace CrwShield.Antibot

/-- An integer of any size: an optional sign and digits. -/
def integer (s : Str) : Option Int :=
  let body := if s.head? = some '-' ∨ s.head? = some '+' then s.tail else s
  (parseDigits body).map fun (n : Nat) ↦ if s.head? = some '-' then -(n : Int) else n

/-- The trimmed value of an attribute, when the attribute has a key. -/
def attributeValue (key raw : Str) : Option Str :=
  (splitOnce "=" (trim raw)).bind fun kv ↦
    if toAsciiLowercase (trim kv.1) = key then some (trim kv.2) else none

/-- The integer in a `Max-Age` attribute. -/
def maxAge (raw : Str) : Option Int := (attributeValue "max-age" raw).bind integer

/-- The integers in the `Max-Age` attributes of a `Set-Cookie` value, from left to right. -/
def maxAges (setCookie : Str) : List Int := (split ';' setCookie).tail.filterMap maxAge

/-- A lifetime that the jar takes from an attribute. -/
def IsReadable (n : Int) : Prop := 0 ≤ n ∧ n < 2 ^ 63

instance (n : Int) : Decidable (IsReadable n) := inferInstanceAs (Decidable (_ ∧ _))

/-- The last lifetime that the jar takes from a `Set-Cookie` value. -/
def readMaxAge (setCookie : Str) : Option Int := ((maxAges setCookie).filter IsReadable).getLast?

section Parsing

/-- An `i64` is an integer in range. -/
theorem parseI64_eq (s : Str) :
    parseI64 s = (integer s).filter fun n ↦ -2 ^ 63 ≤ n ∧ n < 2 ^ 63 := by
  dsimp only [parseI64, integer]
  cases parseDigits (if s.head? = some '-' ∨ s.head? = some '+' then s.tail else s) with
  | none => rfl
  | some n =>
    rw [Option.bind_some, Option.map_some, Option.filter_some]
    by_cases hneg : s.head? = some '-'
    · simp only [hneg, if_true, decide_eq_true_eq]
      have hrange : n ≤ 2 ^ 63 ↔ -2 ^ 63 ≤ -(n : Int) ∧ -(n : Int) < 2 ^ 63 := by omega
      simp only [hrange]
    · simp only [hneg, if_false, decide_eq_true_eq]
      have hrange : n < 2 ^ 63 ↔ -2 ^ 63 ≤ (n : Int) ∧ (n : Int) < 2 ^ 63 := by omega
      simp only [hrange]

/-- The lifetimes that the jar takes are the `i64` values from zero on. -/
theorem filter_parseI64 (s : Str) :
    (parseI64 s).filter (0 ≤ ·) = (integer s).filter IsReadable := by
  rw [parseI64_eq, Option.filter_filter]
  congr 1
  funext n
  rw [Bool.eq_iff_iff, Bool.and_eq_true, decide_eq_true_eq, decide_eq_true_eq, decide_eq_true_eq,
    IsReadable]
  omega

/-- An attribute changes the lifetime when it is a `Max-Age` that the jar takes. -/
theorem maxAgeSecs_attribute (cookie : SetCookie) (raw : Str) :
    (cookie.attribute raw).maxAgeSecs =
      (((maxAge raw).filter IsReadable).map Int.toNat).or cookie.maxAgeSecs := by
  unfold SetCookie.attribute maxAge attributeValue
  cases splitOnce "=" (trim raw) with
  | none => rfl
  | some kv =>
    rw [Option.bind_some]
    dsimp only
    by_cases hkey : toAsciiLowercase (trim kv.1) = "max-age"
    · rw [if_pos hkey, if_pos hkey, Option.bind_some, ← filter_parseI64]
      cases parseI64 (trim kv.2) with
      | none => rfl
      | some n =>
        rw [Option.filter_some]
        by_cases hn : 0 ≤ n
        · simp only [hn, if_true, decide_true, Option.map_some, Option.some_or]
        · simp only [hn, if_false, decide_false, Bool.false_eq_true, Option.map_none,
            Option.none_or]
    · rw [if_neg hkey, if_neg hkey, Option.bind_none]
      split
      · split <;> rfl
      · rfl

/-- After the attributes the lifetime is the last one taken. -/
theorem maxAgeSecs_attributes (attributes : List Str) (cookie : SetCookie) :
    (attributes.foldl SetCookie.attribute cookie).maxAgeSecs =
      ((((attributes.filterMap maxAge).filter IsReadable).getLast?).map Int.toNat).or
        cookie.maxAgeSecs := by
  induction attributes using List.reverseRecOn with
  | nil => rfl
  | append_singleton attributes raw ih =>
    rw [List.foldl_append, List.foldl_cons, List.foldl_nil, maxAgeSecs_attribute, ih,
      List.filterMap_append, List.filter_append, List.getLast?_append]
    cases hraw : maxAge raw with
    | none => simp [hraw]
    | some n =>
      by_cases hn : IsReadable n <;> simp [hraw, hn, Option.filter_some]

/-- The lifetime of a parsed cookie. -/
theorem maxAgeSecs_parseSetCookie {setCookie : Str} {c : SetCookie}
    (hc : parseSetCookie setCookie = some c) :
    c.maxAgeSecs = (readMaxAge setCookie).map Int.toNat := by
  unfold parseSetCookie at hc
  unfold readMaxAge maxAges
  split at hc
  · exact absurd hc (by simp)
  · next first attributes hsplit =>
    obtain ⟨nv, -, hc⟩ := Option.bind_eq_some_iff.mp hc
    dsimp only at hc
    split at hc
    · exact absurd hc (by simp)
    · rw [← Option.some.inj hc, maxAgeSecs_attributes, hsplit]
      simp

/-- A last lifetime that the jar can take is the one it takes. -/
theorem readMaxAge_of_readable {value : Str} {n : Int} (hn : (maxAges value).getLast? = some n)
    (hread : IsReadable n) : readMaxAge value = some n := by
  obtain ⟨ages, hages⟩ := List.getLast?_eq_some_iff.mp hn
  have hlast : [n].filter IsReadable = [n] := List.filter_cons_of_pos (by simpa using hread)
  rw [readMaxAge, hages, List.filter_append, hlast, List.getLast?_concat]

theorem isReadable_of_readMaxAge {value : Str} {m : Int} (hm : readMaxAge value = some m) :
    IsReadable m := by
  simpa using (List.mem_filter.mp (List.mem_of_getLast? hm)).2

end Parsing

namespace CookieJar

/-- The cookie under a bucket and a name is unexpired at a time. -/
def LiveAt (jar : CookieJar) (t : Nat) (b n : Str) : Prop :=
  ∃ e, jar.lookup b n = some e ∧ isExpiredUnix e.expiresAtUnix (some t) = false

/-- A cookie is sent with the requests its bucket is read for, as long as it is live. -/
theorem sends_iff_liveAt {jar : CookieJar} {t : Nat} {U : UrlCrate} {url b n : Str} :
    (∃ e, jar.Sends (some t) U url b n e) ↔
      (∃ host, urlHost U url = some host ∧ b ∈ hostCandidates host) ∧ jar.LiveAt t b n := by
  constructor
  · rintro ⟨e, host, hhost, hb, he, hx⟩
    exact ⟨⟨host, hhost, hb⟩, e, he, hx⟩
  · rintro ⟨⟨host, hhost, hb⟩, e, he, hx⟩
    exact ⟨e, host, hhost, hb, he, hx⟩

end CookieJar

section Lifetime

variable {jar : CookieJar} {urlHost value : Str} {c : SetCookie} {t t' : Nat}

/-- A received cookie is live until the clock has passed the lifetime taken, for ever without one or
when the sum leaves `u64`. -/
theorem liveAt_setFromSetCookie (hclock : t < 2 ^ 64) (hc : parseSetCookie value = some c)
    (ht : t ≤ t') :
    (jar.setFromSetCookie (some t) urlHost value).LiveAt t'
        (normalizeHost (c.storeHost urlHost)) c.name ↔
      ∀ m, readMaxAge value = some m → t + m.toNat < 2 ^ 64 → t' < t + m.toNat := by
  have hlookup : (jar.setFromSetCookie (some t) urlHost value).lookup
      (normalizeHost (c.storeHost urlHost)) c.name =
        some ⟨c.value, CookieJar.expiry (some t) ((readMaxAge value).map Int.toNat)⟩ := by
    rw [CookieJar.setFromSetCookie, hc, ← maxAgeSecs_parseSetCookie hc]
    exact (CookieJar.lookup_setCookie ..).trans (if_pos ⟨rfl, rfl⟩)
  have hlive : (jar.setFromSetCookie (some t) urlHost value).LiveAt t'
      (normalizeHost (c.storeHost urlHost)) c.name ↔
        isExpiredUnix (CookieJar.expiry (some t) ((readMaxAge value).map Int.toNat)) (some t') =
          false := by
    unfold CookieJar.LiveAt
    rw [hlookup]
    simp
  rw [hlive]
  cases readMaxAge value with
  | none => simp [CookieJar.expiry, isExpiredUnix]
  | some m =>
    simp only [CookieJar.expiry, Option.map_some, Option.bind_some, Option.some.injEq,
      forall_eq', checkedAdd]
    by_cases hzero : m.toNat = 0
    · simp only [hzero, if_true, isExpiredUnix, decide_eq_false_iff_not]
      omega
    · rw [if_neg hzero]
      by_cases hsum : t + m.toNat < 2 ^ 64
      · simp only [hsum, if_true, isExpiredUnix, decide_eq_false_iff_not, forall_const]
        omega
      · simp only [hsum, if_false, isExpiredUnix, false_implies]

/-- The lifetime of a received cookie is honoured exactly when the jar can take it, or it is
negative and the last one taken is zero, or it is beyond `i64` and neither it nor the last one taken
ends within `u64`. -/
theorem maxAge_honoured_iff {n : Int} (hclock : t < 2 ^ 64) (hc : parseSetCookie value = some c)
    (hn : (maxAges value).getLast? = some n) :
    (∀ t', t ≤ t' → t' < 2 ^ 64 →
      ((jar.setFromSetCookie (some t) urlHost value).LiveAt t'
        (normalizeHost (c.storeHost urlHost)) c.name ↔ 0 < n ∧ (t' : Int) < t + n)) ↔
      IsReadable n ∨ (n < 0 ∧ readMaxAge value = some 0) ∨
        (2 ^ 63 ≤ n ∧ 2 ^ 64 ≤ t + n ∧ ∀ m, readMaxAge value = some m → 2 ^ 64 ≤ t + m) := by
  have hlive {t' : Nat} (ht : t ≤ t') :=
    @liveAt_setFromSetCookie jar urlHost value c t t' hclock hc ht
  have hread {m : Int} (hm : readMaxAge value = some m) : 0 ≤ m ∧ m < 2 ^ 63 :=
    isReadable_of_readMaxAge hm
  rcases lt_or_ge n 0 with hneg | hpos
  · have hnot : ¬ IsReadable n := fun h ↦ absurd h.1 (by omega)
    have hsmall : ¬ 2 ^ 63 ≤ n := by omega
    simp only [hnot, hneg, hsmall, false_and, or_false, false_or, true_and]
    constructor
    · intro h
      -- at the time of receipt the cookie is gone already
      have hgone := mt (h t le_rfl hclock).mp (by omega)
      rw [hlive le_rfl] at hgone
      push Not at hgone
      obtain ⟨m, hm, -, hle⟩ := hgone
      have hm0 := (hread hm).1
      have hzero : m = 0 := by omega
      rw [hm, hzero]
    · intro hzero t' ht _
      refine iff_of_false ?_ (by omega)
      rw [hlive ht]
      intro hall
      have hlt := hall 0 hzero (by simpa using hclock)
      simp only [Int.toNat_zero] at hlt
      omega
  · rcases lt_or_ge n (2 ^ 63) with hsmall | hbig
    · refine iff_of_true (fun t' ht hend ↦ ?_) (.inl ⟨hpos, hsmall⟩)
      rw [hlive ht, readMaxAge_of_readable hn ⟨hpos, hsmall⟩]
      simp only [Option.some.injEq, forall_eq']
      omega
    · have hnot : ¬ IsReadable n := fun h ↦ absurd h.2 (by omega)
      have hneg : ¬ n < 0 := by omega
      simp only [hnot, hneg, hbig, false_and, false_or, true_and]
      constructor
      · intro h
        -- the cookie outlives the last lifetime taken, so that one does not end
        have hlast : ∀ m, readMaxAge value = some m → 2 ^ 64 ≤ (t : Int) + m := by
          intro m hm
          by_contra hlt
          have hm0 := hread hm
          have hstill := (h (t + m.toNat) (by omega) (by omega)).mpr (by omega)
          rw [hlive (by omega)] at hstill
          exact absurd (hstill m hm (by omega)) (by omega)
        have hend : (jar.setFromSetCookie (some t) urlHost value).LiveAt (2 ^ 64 - 1)
            (normalizeHost (c.storeHost urlHost)) c.name := by
          rw [hlive (by omega)]
          intro m hm hsum
          have hm0 := hread hm
          have := hlast m hm
          omega
        have := ((h (2 ^ 64 - 1) (by omega) (by omega)).mp hend).2
        exact ⟨by omega, hlast⟩
      · rintro ⟨hsum, hlast⟩ t' ht hend
        refine iff_of_true ?_ (by omega)
        rw [hlive ht]
        intro m hm hlt
        have hm0 := hread hm
        have := hlast m hm
        omega

/-- A cookie with a `Max-Age` of a minute is sent for a minute. -/
theorem maxAge_honoured_minute :
    (∀ t', 1000 ≤ t' → t' < 2 ^ 64 →
      ((CookieJar.new.setFromSetCookie (some 1000) "shop.example" "id=7; Max-Age=60").LiveAt t'
        (normalizeHost ((⟨"id", "7", some 60, none⟩ : SetCookie).storeHost "shop.example")) "id" ↔
          (0 : Int) < 60 ∧ (t' : Int) < (1000 : Nat) + 60)) ↔
      IsReadable 60 ∨ ((60 : Int) < 0 ∧ readMaxAge "id=7; Max-Age=60" = some 0) ∨
        (2 ^ 63 ≤ (60 : Int) ∧ 2 ^ 64 ≤ ((1000 : Nat) : Int) + 60 ∧
          ∀ m, readMaxAge "id=7; Max-Age=60" = some m → 2 ^ 64 ≤ ((1000 : Nat) : Int) + m) :=
  maxAge_honoured_iff (by decide) (by decide) (by decide)

/-- A cookie deleted with a negative `Max-Age` is sent for ever. -/
theorem negative_maxAge_kept :
    ¬ ∀ (jar : CookieJar) (urlHost value : Str) (c : SetCookie) (t : Nat) (n : Int), t < 2 ^ 64 →
      parseSetCookie value = some c → (maxAges value).getLast? = some n →
        ∀ t', t ≤ t' → t' < 2 ^ 64 →
          ((jar.setFromSetCookie (some t) urlHost value).LiveAt t'
            (normalizeHost (c.storeHost urlHost)) c.name ↔ 0 < n ∧ (t' : Int) < t + n) := by
  intro hall
  have hparse : parseSetCookie "id=7; Max-Age=-1" = some ⟨"id", "7", none, none⟩ := by
    decide
  have hread : readMaxAge "id=7; Max-Age=-1" = none := by decide
  have hkept := hall .new "shop.example" "id=7; Max-Age=-1" _ 1000 (-1) (by decide) hparse
    (by decide) 1000 le_rfl (by decide)
  rw [liveAt_setFromSetCookie (by decide) hparse le_rfl, hread] at hkept
  exact absurd (hkept.mp (by simp)).1 (by decide)

end Lifetime
end CrwShield.Antibot
