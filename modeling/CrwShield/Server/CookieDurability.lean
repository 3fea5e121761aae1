import CrwShield.Antibot.CookieJournal
import CrwShield.Base.Durability
import CrwShield.Server.CookiePersistence

/-!
# Cookies across crashes

Crate `server`, `src/crates/server/src/state.rs:253–328`: the background loop saves the jar, and a
server that starts again seeds its jar from the file. Whenever it is saved and whenever the server
crashes, the jar is as if the calls since the last save had not been made.
-/

open CrwShield.Base CrwShield.Base.Str CrwShield.Antibot

namespace CrwShield.Server

/-- No white space in the host of a call, nor in the `Domain` attribute. -/
def CallNoSpace (c : TimedCall) : Prop :=
  match c.call with
  | .setCookie w => NoSpace w.host
  | .setFromSetCookie urlHost line => NoSpace urlHost ∧
      ∀ d ∈ (parseSetCookie line).bind SetCookie.domain, NoSpace d
  | _ => True

/-- The jar of a running server and its file; `state.rs:253–328`. -/
def cookieStore : Store CookieJar OnDiskJar TimedCall (Option Nat) where
  start := .new
  apply := TimedCall.apply
  snapshot := CookieJar.snapshot
  recover now saved := seedCookieJar now ((saved.map CookieFile.snapshot).getD .missing) .new

/-- What a restart does to the jar that was saved: expired cookies are dropped, and the stamps of
solves are forgotten. -/
def forget (now : Option Nat) (jar : CookieJar) : CookieJar :=
  ⟨(jar.clearExpired now).cookies, ∅⟩

/-- The jar after a deed. -/
def applyDeed (jar : CookieJar) : Deed TimedCall (Option Nat) → CookieJar
  | .op c => c.apply jar
  | .recovery now => forget now jar

/-- The jar that some deeds make. -/
def jarOf (deeds : List (Deed TimedCall (Option Nat))) : CookieJar := deeds.foldl applyDeed .new

/-- What the clock reads at a deed. -/
def deedClock : Deed TimedCall (Option Nat) → Option Nat
  | .op c => c.now
  | .recovery now => now

/-- The clock is never set back, and hosts have no white space. -/
structure OrderlyDeeds (deeds : List (Deed TimedCall (Option Nat))) : Prop where
  clock : deeds.Pairwise fun d d' ↦ ClockLe (deedClock d) (deedClock d')
  noSpace : ∀ c, .op c ∈ deeds → CallNoSpace c

/-- Jars with the same cookies and the same stamps. -/
structure SameJar (jar jar' : CookieJar) : Prop where
  lookup : ∀ b n, jar.lookup b n = jar'.lookup b n
  stamps : ∀ b : Str, jar.lastHitlSolvedUnix[b]? = jar'.lastHitlSolvedUnix[b]?

section Calls

variable {jar jar' : CookieJar} {c : TimedCall} {load : Option Nat}

/-- A call cannot tell such jars apart. -/
theorem SameJar.apply (h : SameJar jar jar') (c : TimedCall) :
    SameJar (c.apply jar) (c.apply jar') where
  stamps b := by rw [stamps_apply, stamps_apply, h.stamps]
  lookup b n := by
    obtain ⟨now, call⟩ := c
    cases call with
    | setCookie w =>
      show (jar.setCookie _ _ _ _ _).lookup b n = (jar'.setCookie _ _ _ _ _).lookup b n
      rw [CookieJar.lookup_setCookie, CookieJar.lookup_setCookie, h.lookup]
    | setFromSetCookie urlHost line =>
      show (jar.setFromSetCookie _ _ _).lookup b n = (jar'.setFromSetCookie _ _ _).lookup b n
      unfold CookieJar.setFromSetCookie
      cases parseSetCookie line with
      | none => exact h.lookup b n
      | some p =>
        show (jar.setCookie _ _ _ _ _).lookup b n = (jar'.setCookie _ _ _ _ _).lookup b n
        rw [CookieJar.lookup_setCookie, CookieJar.lookup_setCookie, h.lookup]
    | clearExpired =>
      show (jar.clearExpired _).lookup b n = (jar'.clearExpired _).lookup b n
      rw [CookieJar.lookup_clearExpired, CookieJar.lookup_clearExpired, h.lookup]
    | clearForHost host =>
      show (jar.clearBuckets _ _).1.lookup b n = (jar'.clearBuckets _ _).1.lookup b n
      rw [CookieJar.lookup_clearBuckets, CookieJar.lookup_clearBuckets, h.lookup]
    | clearForHostExceptHitl host =>
      have hprotected (t : Nat) : jar.isProtected t b = jar'.isProtected t b := by
        rw [CookieJar.isProtected, CookieJar.isProtected, h.stamps]
      show (jar.clearBuckets _ _).1.lookup b n = (jar'.clearBuckets _ _).1.lookup b n
      rw [CookieJar.lookup_clearBuckets, CookieJar.lookup_clearBuckets, h.lookup, hprotected]
    | markHitlSolved host timestampUnix => exact h.lookup b n

/-- A call keeps what a restart needs. -/
theorem Persistable.call (h : Persistable load jar) (hspace : CallNoSpace c)
    (hclock : NotBehind c.now load) : Persistable load (c.apply jar) := by
  obtain ⟨now, call⟩ := c
  cases call with
  | setCookie w =>
    exact @Persistable.apply load jar h now (.setCookie w.host w.name w.value w.maxAgeSecs) hspace
      hclock
  | setFromSetCookie urlHost line =>
    exact @Persistable.apply load jar h now (.setFromSetCookie urlHost line) hspace hclock
  | clearExpired =>
    refine h.of_lookup fun b n e he ↦ ?_
    exact (Option.filter_eq_some_iff.mp ((jar.lookup_clearExpired now b n).symm.trans he)).1
  | clearForHost host | clearForHostExceptHitl host =>
    refine h.of_lookup fun b n e he ↦ ?_
    have hcleared := (jar.lookup_clearBuckets _ _ b n).symm.trans he
    split at hcleared
    · exact absurd hcleared (by simp)
    · exact hcleared
  | markHitlSolved host timestampUnix => exact h.of_lookup fun b n e he ↦ he

theorem lookup_forget (now : Option Nat) (jar : CookieJar) (b n : Str) :
    (forget now jar).lookup b n =
      (jar.lookup b n).filter fun e ↦ !isExpiredUnix e.expiresAtUnix now :=
  jar.lookup_clearExpired now b n

theorem stamps_setAll (now : Option Nat) (writes : List CookieWrite) (jar : CookieJar) :
    (jar.setAll now writes).lastHitlSolvedUnix = jar.lastHitlSolvedUnix := by
  induction writes generalizing jar with
  | nil => rfl
  | cons w writes ih => exact ih _

end Calls

/-- What holds of the jar of a running server and the deeds that are left. -/
structure Recalled (deeds : List (Deed TimedCall (Option Nat))) (jar : CookieJar) : Prop where
  same : SameJar jar (jarOf deeds)
  persistable : ∀ load, (∀ d ∈ deeds, NotBehind (deedClock d) load) → Persistable load jar

section Recalled

variable {deeds : List (Deed TimedCall (Option Nat))} {jar : CookieJar}

theorem jarOf_concat (d : Deed TimedCall (Option Nat)) :
    jarOf (deeds ++ [d]) = applyDeed (jarOf deeds) d := by
  rw [jarOf, List.foldl_append]
  rfl

theorem OrderlyDeeds.init {d : Deed TimedCall (Option Nat)} (h : OrderlyDeeds (deeds ++ [d])) :
    OrderlyDeeds deeds where
  clock := (List.pairwise_append.mp h.clock).1
  noSpace c hc := h.noSpace c (List.mem_append_left _ hc)

theorem OrderlyDeeds.last {d : Deed TimedCall (Option Nat)} (h : OrderlyDeeds (deeds ++ [d])) :
    ∀ d' ∈ deeds, NotBehind (deedClock d') (deedClock d) :=
  fun d' hd' ↦ (List.pairwise_append.mp h.clock).2.2 d' hd' d (List.mem_singleton_self d)

theorem Recalled.op (h : Recalled deeds jar) {c : TimedCall} (hspace : CallNoSpace c) :
    Recalled (deeds ++ [.op c]) (c.apply jar) where
  same := by
    rw [jarOf_concat]
    exact h.same.apply c
  persistable load hload := by
    rw [List.forall_mem_append, List.forall_mem_singleton] at hload
    exact (h.persistable load hload.1).call hspace hload.2

/-- A jar comes back from its snapshot without the expired cookies and without stamps. -/
theorem Recalled.recovery (h : Recalled deeds jar) {now : Option Nat}
    (hnow : ∀ d ∈ deeds, NotBehind (deedClock d) now) :
    Recalled (deeds ++ [.recovery now]) (reload now jar) := by
  have hlookup := (h.persistable now hnow).lookup_reload
  constructor
  · rw [jarOf_concat]
    constructor
    · intro b n
      show _ = (forget now (jarOf deeds)).lookup b n
      rw [hlookup, lookup_forget, h.same.lookup]
    · intro b
      show ((CookieJar.new.setAll _ _).lastHitlSolvedUnix)[b]? = _
      rw [stamps_setAll]
      rfl
  · intro load hload
    rw [List.forall_mem_append] at hload
    refine (h.persistable load hload.1).of_lookup fun b n e he ↦ ?_
    rw [hlookup] at he
    exact (Option.filter_eq_some_iff.mp he).1

/-- Before the first save a restart finds no file. -/
theorem Recalled.fresh (now : Option Nat) :
    Recalled [.recovery now] (cookieStore.recover now none) := by
  have hnew : cookieStore.recover now none = .new := rfl
  rw [hnew]
  refine ⟨⟨fun b n ↦ ?_, fun b ↦ rfl⟩, fun load _ ↦ persistable_new load⟩
  show _ = (forget now .new).lookup b n
  rw [lookup_forget, CookieJar.lookup_new]
  rfl

end Recalled

/-- A crash takes back no more than the calls since the last save: whenever the jar is saved and
whenever the server crashes, every URL is sent what the calls that are left would have it sent. -/
theorem cookies_durable {events : List (StoreEvent TimedCall (Option Nat))}
    (horderly : OrderlyDeeds (events.filterMap StoreEvent.deed)) (U : UrlCrate)
    (now : Option Nat) (url : Str) :
    CookieJar.cookieHeaderFor U (cookieStore.run events).1 now url =
      CookieJar.cookieHeaderFor U (jarOf (surviving events)) now url := by
  have hleft : OrderlyDeeds (surviving events) :=
    ⟨horderly.clock.sublist surviving_sublist,
      fun c hc ↦ horderly.noSpace c (surviving_sublist.subset hc)⟩
  have hrecalled : Recalled (surviving events) (cookieStore.run events).1 := by
    refine cookieStore.holds (I := fun deeds jar ↦ OrderlyDeeds deeds → Recalled deeds jar)
      ?_ ?_ ?_ ?_ events hleft
    · exact fun _ ↦ ⟨⟨fun _ _ ↦ rfl, fun _ ↦ rfl⟩, fun load _ ↦ persistable_new load⟩
    · exact fun deeds jar c h hnext ↦ (h hnext.init).op (hnext.noSpace c (by simp))
    · exact fun deeds jar now h hnext ↦ (h hnext.init).recovery hnext.last
    · exact fun now _ ↦ .fresh now
  unfold CookieJar.cookieHeaderFor
  congr 1
  funext host
  rw [CookieJar.headerParts_congr (fun b n ↦ ?_) host]
  rw [hrecalled.same.lookup]

/-- A cookie that is saved, one that is set after the save and lost, and one set after the crash. -/
def crashEvents : List (StoreEvent TimedCall (Option Nat)) :=
  [.op ⟨some 100, .setCookie ⟨"shop.example", "id", "7", some 60⟩⟩, .save,
    .op ⟨some 110, .setCookie ⟨"shop.example", "cart", "1", none⟩⟩, .crash (some 120),
    .op ⟨some 130, .setFromSetCookie "www.shop.example" "lang=de; Domain=.shop.example"⟩]

example : CookieJar.cookieHeaderFor .plain (cookieStore.run crashEvents).1 (some 140)
    "https://www.shop.example/" = some "id=7; lang=de" := by decide +kernel

theorem cookies_durable_crash :
    CookieJar.cookieHeaderFor .plain (cookieStore.run crashEvents).1 (some 140)
        "https://www.shop.example/" =
      CookieJar.cookieHeaderFor .plain (jarOf (surviving crashEvents)) (some 140)
        "https://www.shop.example/" := by
  refine cookies_durable ⟨?_, ?_⟩ .plain _ _
  · decide
  · intro c hc
    simp only [crashEvents, StoreEvent.deed, List.filterMap_cons, List.filterMap_nil, List.mem_cons,
      Deed.op.injEq, List.not_mem_nil, or_false, reduceCtorEq, false_or] at hc
    rcases hc with rfl | rfl | rfl
    · exact (by decide : NoSpace ("shop.example" : Str))
    · exact (by decide : NoSpace ("shop.example" : Str))
    · exact (by decide : NoSpace ("www.shop.example" : Str) ∧
        ∀ d ∈ (parseSetCookie "lang=de; Domain=.shop.example").bind SetCookie.domain, NoSpace d)

end CrwShield.Server
