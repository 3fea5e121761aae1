import CrwShield.Antibot.CookieWrites

/-!
# Lookup and clearing

Crate `antibot`, `src/crates/antibot/src/cookie_jar.rs:139–195,516–560`. The `Cookie:` header and
`clear_for_host` walk the same buckets, the lineage of the host.
-/

open CrwShield.Base CrwShield.Base.Str CrwShield.Base.Hierarchy

namespace CrwShield.Antibot

/-- A bucket is read for a host: it is stored under the host or a parent domain of it. -/
def IsReadFor (host b : Str) : Prop := b ≠ [] ∧ Under '.' host b

instance (host b : Str) : Decidable (IsReadFor host b) := inferInstanceAs (Decidable (_ ∧ _))

/-- A stored cookie: its bucket, its name and its entry. -/
structure StoredCookie where
  bucket : Str
  name : Str
  entry : Entry

/-- Two cookies of one bucket have different names, and otherwise the first is of a more specific
bucket. -/
def StoredCookie.Precedes (c d : StoredCookie) : Prop :=
  (c.bucket = d.bucket ∧ c.name ≠ d.name) ∨ '.' :: d.bucket <:+ c.bucket

namespace CookieJar

/-- A header lists the unexpired cookies read for a host, each once, those of a more specific bucket
before those of a less specific one. -/
def ListsExactly (jar : CookieJar) (now : Option Nat) (host : Str) (header : Option Str) : Prop :=
  ∃ sent : List StoredCookie,
    (∀ c, c ∈ sent ↔ IsReadFor host c.bucket ∧ jar.lookup c.bucket c.name = some c.entry ∧
      isExpiredUnix c.entry.expiresAtUnix now = false) ∧
    sent.Pairwise StoredCookie.Precedes ∧
    header = if sent.isEmpty then none
      else some (join "; " (sent.map fun c ↦ c.name ++ "=" ++ c.entry.value))

/-- A clearing drops the buckets that are read for a host, keeps every other that is not empty, and
counts the cookies it removed, the expired ones among them. -/
def ClearsExactly (jar : CookieJar) (host : Str) (cleared : CookieJar × Nat) : Prop :=
  (∀ b, cleared.1.cookies[b]? =
    if IsReadFor host b then none else jar.cookies[b]?.filter fun bucket ↦ !bucket.isEmpty) ∧
  cleared.1.lastHitlSolvedUnix = jar.lastHitlSolvedUnix ∧
  ∃ removed : List StoredCookie,
    (∀ c, c ∈ removed ↔ IsReadFor host c.bucket ∧ jar.lookup c.bucket c.name = some c.entry) ∧
    removed.Pairwise StoredCookie.Precedes ∧ cleared.2 = removed.length

section Listing

variable {jar : CookieJar}

/-- The cookies of a list of buckets that pass a test. -/
def listed (jar : CookieJar) (keep : Entry → Bool) (hosts : List Str) : List StoredCookie :=
  hosts.flatMap fun b ↦
    ((jar.cookies[b]?.getD ∅).filter fun _ e ↦ keep e).toList.map fun c ↦ ⟨b, c.1, c.2⟩

theorem mem_listed {keep : Entry → Bool} {hosts : List Str} {c : StoredCookie} :
    c ∈ jar.listed keep hosts ↔
      c.bucket ∈ hosts ∧ jar.lookup c.bucket c.name = some c.entry ∧ keep c.entry = true := by
  have hbucket (b n : Str) (e : Entry) :
      (n, e) ∈ ((jar.cookies[b]?.getD ∅).filter fun _ e ↦ keep e).toList ↔
        jar.lookup b n = some e ∧ keep e = true := by
    rw [Std.ExtTreeMap.mem_toList_iff_getElem?_eq_some, Std.ExtTreeMap.getElem?_filter',
      getElem?_bucket, Option.filter_eq_some_iff]
  simp only [listed, List.mem_flatMap, List.mem_map]
  constructor
  · rintro ⟨b, hb, ⟨n, e⟩, hmem, rfl⟩
    exact ⟨hb, (hbucket b n e).mp hmem⟩
  · rintro ⟨hb, hstored⟩
    exact ⟨c.bucket, hb, (c.name, c.entry), (hbucket _ _ _).mpr hstored, rfl⟩

/-- Along a lineage the cookies stand once each, the most specific first. -/
theorem listed_pairwise (keep : Entry → Bool) (host : Str) :
    (jar.listed keep (lineage '.' host)).Pairwise StoredCookie.Precedes := by
  rw [listed, List.pairwise_flatMap]
  constructor
  · intro b _
    rw [List.pairwise_map]
    refine Std.ExtTreeMap.distinct_keys_toList.imp fun {x y} hne ↦ .inl ⟨rfl, ?_⟩
    simpa using hne
  · refine (lineage_pairwise host).imp fun {b b'} hb c hc d hd ↦ .inr ?_
    obtain ⟨_, _, rfl⟩ := List.mem_map.mp hc
    obtain ⟨_, _, rfl⟩ := List.mem_map.mp hd
    exact hb

end Listing

section Sweep

private theorem count_sweep {hosts : List Str} (hnodup : hosts.Nodup)
    (acc : Std.ExtTreeMap Str Bucket × Nat) :
    (hosts.foldl (sweep fun _ ↦ false) acc).2 =
      acc.2 + (hosts.map fun b ↦ (acc.1[b]?.getD (∅ : Bucket)).size).sum := by
  induction hosts generalizing acc with
  | nil => rfl
  | cons h hosts ih =>
    obtain ⟨hnew, hrest⟩ := List.nodup_cons.mp hnodup
    rw [List.foldl_cons, ih hrest, List.map_cons, List.sum_cons]
    cases hg : acc.1[h]? with
    | none =>
      have hs : sweep (fun _ ↦ false) acc h = acc := by simp [sweep, hg]
      rw [hs, Option.getD_none, Std.ExtTreeMap.size_empty, Nat.zero_add]
    | some bucket =>
      have hs : sweep (fun _ ↦ false) acc h = (acc.1.insert h ∅, acc.2 + bucket.size) := by
        simp [sweep, hg]
      -- the buckets still to come are not the one just emptied
      have hlater : (hosts.map fun b ↦ ((acc.1.insert h ∅)[b]?.getD (∅ : Bucket)).size) =
          hosts.map fun b ↦ (acc.1[b]?.getD (∅ : Bucket)).size := by
        refine List.map_congr_left fun b hb ↦ ?_
        have hne : h ≠ b := fun heq ↦ hnew (heq ▸ hb)
        rw [Std.ExtTreeMap.getElem?_insert, if_neg (by simpa using hne)]
      rw [hs, hlater, Option.getD_some, Nat.add_assoc]

/-- A clearing counts the cookies of the buckets it lists. -/
theorem count_clearBuckets (jar : CookieJar) {hosts : List Str} (hnodup : hosts.Nodup) :
    (jar.clearBuckets (fun _ ↦ false) hosts).2 = (jar.listed (fun _ ↦ true) hosts).length := by
  have hlength (b : Str) :
      (((jar.cookies[b]?.getD ∅).filter fun _ _ ↦ true).toList.map fun c ↦
        (⟨b, c.1, c.2⟩ : StoredCookie)).length = (jar.cookies[b]?.getD ∅).size := by
    rw [List.length_map, Std.ExtTreeMap.toList_filter, List.filter_true,
      Std.ExtTreeMap.length_toList]
  rw [clearBuckets, count_sweep hnodup, listed, List.length_flatMap, Nat.zero_add]
  simp only [hlength]

private theorem foldl_sweep_of_none {keep : Str → Bool} {hosts : List Str}
    {acc : Std.ExtTreeMap Str Bucket × Nat}
    (h : ∀ b ∈ hosts, keep b = false → acc.1[b]? = none) : hosts.foldl (sweep keep) acc = acc := by
  induction hosts with
  | nil => rfl
  | cons b hosts ih =>
    have hb : sweep keep acc b = acc := by
      unfold sweep
      cases hk : keep b with
      | true => rfl
      | false => simp only [h b List.mem_cons_self hk, Bool.false_eq_true, if_false]
    rw [List.foldl_cons, hb, ih fun b hb ↦ h b (List.mem_cons_of_mem _ hb)]

/-- Clearing the same buckets again changes nothing. -/
theorem clearBuckets_clearBuckets (jar : CookieJar) (keep : Str → Bool) (hosts : List Str) :
    (jar.clearBuckets keep hosts).1.clearBuckets keep hosts =
      ((jar.clearBuckets keep hosts).1, 0) := by
  have hcookies := jar.cookies_clearBuckets keep hosts
  generalize (jar.clearBuckets keep hosts).1 = cleared at hcookies ⊢
  have hgone : ∀ b ∈ hosts, keep b = false → cleared.cookies[b]? = none :=
    fun b hb hk ↦ (hcookies b).trans (if_pos ⟨hb, hk⟩)
  rw [clearBuckets, foldl_sweep_of_none hgone]
  have hkept : cleared.cookies.filter (fun _ bucket ↦ !bucket.isEmpty) = cleared.cookies := by
    ext1 b
    rw [Std.ExtTreeMap.getElem?_filter', hcookies b]
    split
    · rfl
    · rw [Option.filter_filter]
      simp only [Bool.and_self]
  rw [hkept]

end Sweep

section Walk

variable (jar : CookieJar) {host : Str}

/-- Lookup and clearing walk the lineage of a normal host. -/
theorem hostCandidates_normal (hnormal : NormalHost host) :
    hostCandidates host = lineage '.' host := by
  rw [hostCandidates, hnormal]

theorem clearForHost_normal (hnormal : NormalHost host) :
    jar.clearForHost host = jar.clearBuckets (fun _ ↦ false) (lineage '.' host) := by
  rw [clearForHost, hnormal, hostCandidates_normal hnormal]

theorem mem_lineage_iff {b : Str} : b ∈ lineage '.' host ↔ IsReadFor host b := mem_lineage

/-- The parts of the header are the unexpired cookies along the lineage. -/
theorem headerParts_normal (now : Option Nat) (hnormal : NormalHost host) :
    jar.headerParts now host =
      (jar.listed (fun e ↦ !isExpiredUnix e.expiresAtUnix now) (lineage '.' host)).map
        fun c ↦ (c.name ++ "=" ++ c.entry.value : Str) := by
  rw [headerParts_eq, hostCandidates_normal hnormal, listed, List.map_flatMap]
  congr 1
  funext b
  rw [bucketParts_eq, List.map_map]
  rfl

theorem clearForHost_exact (hnormal : NormalHost host) :
    jar.ClearsExactly host (jar.clearForHost host) := by
  rw [clearForHost_normal jar hnormal]
  refine ⟨fun b ↦ ?_, rfl, jar.listed (fun _ ↦ true) (lineage '.' host), fun c ↦ ?_,
    listed_pairwise _ _, count_clearBuckets jar (nodup_lineage host)⟩
  · rw [cookies_clearBuckets]
    simp only [mem_lineage_iff, and_true]
  · rw [mem_listed, mem_lineage_iff, eq_self_iff_true, and_true]

/-- The header for a normal host lists exactly the cookies read for it. -/
theorem header_exact (now : Option Nat) (hnormal : NormalHost host) :
    jar.ListsExactly now host
      (if (jar.headerParts now host).isEmpty then none
        else some (join "; " (jar.headerParts now host))) := by
  refine ⟨jar.listed (fun e ↦ !isExpiredUnix e.expiresAtUnix now) (lineage '.' host),
    fun c ↦ ?_, listed_pairwise _ _, ?_⟩
  · rw [mem_listed, mem_lineage_iff, Bool.not_eq_true']
  · rw [headerParts_normal jar now hnormal, List.isEmpty_map]

/-- After a clearing no cookie is read for the host. -/
theorem headerParts_cleared (later : Option Nat) (hnormal : NormalHost host) :
    (jar.clearForHost host).1.headerParts later host = [] := by
  rw [headerParts_normal _ later hnormal, List.map_eq_nil_iff, List.eq_nil_iff_forall_not_mem]
  intro c hc
  obtain ⟨hread, hlookup, -⟩ := mem_listed.mp hc
  have hgone := (clearForHost_exact jar hnormal).1 c.bucket
  rw [if_pos (mem_lineage_iff.mp hread)] at hgone
  rw [lookup, hgone] at hlookup
  exact absurd hlookup (by simp)

end Walk

section Url

variable {U : UrlCrate} {url host : Str} {u : U.Url}

/-- For a URL with a host the header lists exactly the cookies read for the host, and clearing the
host removes exactly those, so that nothing is sent or left to remove afterwards. -/
theorem lookup_and_clear_exact (hU : U.Lawful) (hparse : U.parse url = .ok u)
    (hhost : U.hostStr u = some host) (jar : CookieJar) (now : Option Nat) :
    jar.ListsExactly now (normalizeHost host) (cookieHeaderFor U jar now url) ∧
      jar.ClearsExactly (normalizeHost host) (jar.clearForHost (normalizeHost host)) ∧
      (∀ later, cookieHeaderFor U (jar.clearForHost (normalizeHost host)).1 later url = none) ∧
      (jar.clearForHost (normalizeHost host)).1.clearForHost (normalizeHost host) =
        ((jar.clearForHost (normalizeHost host)).1, 0) := by
  have hnormal : NormalHost (normalizeHost host) :=
    normalizeHost_idem (hU.hostStr_noSpace u host hhost)
  have hurl : urlHost U url = some (normalizeHost host) := by
    simp only [urlHost, hparse, hhost, Option.map_some]
  have hheader (jar : CookieJar) (now : Option Nat) : cookieHeaderFor U jar now url =
      if (jar.headerParts now (normalizeHost host)).isEmpty then none
      else some (join "; " (jar.headerParts now (normalizeHost host))) := by
    have hsent : jar.sentCookies now U url = jar.headerParts now (normalizeHost host) := by
      rw [sentCookies, hurl]
      rfl
    rw [cookieHeaderFor_eq, hsent]
  refine ⟨?_, clearForHost_exact jar hnormal, fun later ↦ ?_, ?_⟩
  · rw [hheader]
    exact header_exact jar now hnormal
  · rw [hheader, headerParts_cleared jar later hnormal]
    rfl
  · rw [clearForHost_normal jar hnormal, clearForHost_normal _ hnormal]
    exact clearBuckets_clearBuckets ..

/-- The jar of a shop with a cookie of its own. -/
theorem lookup_and_clear_exact_shop :
    let jar := CookieJar.new.setCookie (some 0) "shop.example" "id" "7" none
    jar.ListsExactly (some 0) (normalizeHost "www.shop.example")
        (cookieHeaderFor .plain jar (some 0) "https://www.shop.example/") ∧
      jar.ClearsExactly (normalizeHost "www.shop.example")
        (jar.clearForHost (normalizeHost "www.shop.example")) ∧
      (∀ later, cookieHeaderFor .plain (jar.clearForHost (normalizeHost "www.shop.example")).1
        later "https://www.shop.example/" = none) ∧
      (jar.clearForHost (normalizeHost "www.shop.example")).1.clearForHost
          (normalizeHost "www.shop.example") =
        ((jar.clearForHost (normalizeHost "www.shop.example")).1, 0) := by
  have hplain : isPlainUrl "https://www.shop.example/" = true := by decide
  exact lookup_and_clear_exact UrlCrate.lawful_plain (UrlCrate.parse_plain hplain)
    (UrlCrate.hostStr_plain hplain (by decide)) _ _

end Url

end CookieJar
end CrwShield.Antibot
