import CrwShield.Base.Unwinding
import CrwShield.Fetch.RotationSteps

/-!
# Hosts that share the TLS ladder

Crate `fetch`, `src/crates/fetch/src/ladder.rs:767–909`, with the proxy of `tls_proxy.rs:355–458`.
The counters are per host, and the profile ladder that an L2 consumes belongs to the process. What
the calls for one host do depends on the other hosts exactly through what is left of the ladder.
-/

open CrwShield.Base CrwShield.Base.Str CrwShield.Antibot CrwShield.Core

namespace CrwShield.Fetch

universe u

/-- The counters and the proxy that the calls share, the calls of each host, oldest first, and what
they settled. -/
structure SharedCalls where
  counters : HostCounters
  proxy : Option TlsProxy
  calls : Str → List Phase
  log : List (Str × Milestone)

/-- A call is made, or a call of a host goes on, with the page, the child and the time it gets if it
asks for them. -/
inductive SharedLabel where
  | call (url : Str)
  | resume (host : Str) (k : ℕ) (page : Except CrwError LadderResult) (child : ChildOutcome)
      (nowUnixMs : ℕ)

/-- The host whose call it is. -/
def SharedLabel.host (U : UrlCrate) : SharedLabel → Str
  | .call url => counterHost U url
  | .resume host .. => host

/-- One step of the calls; a call that has returned stays where it is. -/
def sharedStep (U : UrlCrate) (s : SharedCalls) : SharedLabel → SharedCalls
  | .call url =>
    { s with
      calls := Function.update s.calls (counterHost U url)
        (s.calls (counterHost U url) ++ [.fetching]) }
  | .resume host k page child nowUnixMs =>
    match (s.calls host)[k]? with
    | none => s
    | some phase =>
      match advance host s.proxy.isSome ⟨page, proxyAnswer s.proxy child, nowUnixMs⟩ s.counters
          phase with
      | none => s
      | some (phase', counters, entry) =>
        { counters := counters
          proxy := proxyAfter s.proxy child phase
          calls := Function.update s.calls host ((s.calls host).set k phase')
          log := s.log ++ entry.toList.map (host, ·) }

/-- The child comes up. -/
def ChildOutcome.isReady : ChildOutcome → Bool
  | .ready => true
  | _ => false

/-- When a call that goes on is about to rotate, with a child that comes up: whether the ladder has
a profile left. -/
def SharedCalls.ladderLeft (s : SharedCalls) : SharedLabel → Option Bool
  | .call _ => none
  | .resume host k _ child _ =>
    match (s.calls host)[k]?, s.proxy with
    | some (.cooling _), some p =>
      if child.isReady && p.config.port.isSome then some p.nextProfile.isSome else none
    | _, _ => none

/-- The steps of a call that meets no other are labels of its host. -/
private theorem run_of_solo {U : UrlCrate} {host : Str} {s t : SoloState}
    (h : Relation.ReflTransGen (SoloStep host) s t) (calls : Str → List Phase)
    (log : List (Str × Milestone)) :
    ∃ (labels : List SharedLabel) (log' : List (Str × Milestone)),
      (∀ l ∈ labels, l.host U = host) ∧
      labels.foldl (sharedStep U)
        ⟨s.counters, s.proxy, Function.update calls host (calls host ++ [s.phase]), log⟩ =
        ⟨t.counters, t.proxy, Function.update calls host (calls host ++ [t.phase]), log'⟩ := by
  induction h with
  | refl => exact ⟨[], log, by simp, rfl⟩
  | @tail u t _ hlast ih =>
    obtain ⟨labels, log', hlabels, hrun⟩ := ih
    obtain ⟨page, child, nowUnixMs, entry, hadv, hproxy⟩ := hlast
    refine ⟨labels ++ [.resume host (calls host).length page child nowUnixMs],
      log' ++ entry.toList.map (host, ·), ?_, ?_⟩
    · intro l hl
      rcases List.mem_append.mp hl with hl | hl
      · exact hlabels l hl
      · rw [List.mem_singleton.mp hl]
        rfl
    · rw [List.foldl_append, hrun, List.foldl_cons, List.foldl_nil, hproxy]
      simp [sharedStep, hadv]

/-- A call of `fetch_with_rotation` that meets no other is a run of labels of its host. -/
theorem run_shared_fetchWithRotation {ω : Type u} {W : Machine ω} {U : UrlCrate}
    {ladder : FetchLadder} (request : ScrapeRequest) (st : RotationState ω)
    (calls : Str → List Phase) (log : List (Str × Milestone)) :
    ∃ (labels : List SharedLabel) (log' : List (Str × Milestone)),
      (∀ l ∈ labels, l.host U = counterHost U request.url) ∧
      labels.foldl (sharedStep U) ⟨st.counters, st.proxy, calls, log⟩ =
        ⟨(ladder.fetchWithRotation W U request st).2.counters,
          (ladder.fetchWithRotation W U request st).2.proxy,
          Function.update calls (counterHost U request.url) (calls (counterHost U request.url) ++
            [.returned (ladder.fetchWithRotation W U request st).1]), log'⟩ := by
  obtain ⟨labels, log', hlabels, hrun⟩ :=
    @run_of_solo U _ _ _ (@solo_fetchWithRotation ω W U ladder request st) calls log
  refine ⟨.call request.url :: labels, log', ?_, hrun⟩
  intro l hl
  rcases List.mem_cons.mp hl with rfl | hl
  · rfl
  · exact hlabels l hl

/-- What is left of the ladder at each rotation of a host. -/
def ladderAnswers (U : UrlCrate) (host : Str) : SharedCalls → List SharedLabel → List Bool :=
  answers (sharedStep U) (fun l ↦ l.host U = host) SharedCalls.ladderLeft

/-- L1, L2 or L3. -/
def Milestone.isDecision : Milestone → Bool
  | .cleared | .rotate | .failed => true
  | .kept | .rotated => false

/-- The decisions for a host, oldest first. -/
def decisions (host : Str) (log : List (Str × Milestone)) : List (Str × Milestone) :=
  log.filter fun entry ↦ entry.1 = host && entry.2.isDecision

/-- The same decisions were taken for a host, and the proxy rotated for it as often. -/
structure SameActions (host : Str) (s t : SharedCalls) : Prop where
  decisions : decisions host s.log = Fetch.decisions host t.log
  rotations : s.log.count (host, .rotated) = t.log.count (host, .rotated)

/-- A host sees the same: its counter, its calls and what they settled, and the settings of the
proxy. -/
structure Alike (host : Str) (s t : SharedCalls) : Prop where
  counter : counterFor host s.counters = counterFor host t.counters
  calls : s.calls host = t.calls host
  log : s.log.filter (fun entry ↦ entry.1 = host) = t.log.filter fun entry ↦ entry.1 = host
  config : s.proxy.map TlsProxy.config = t.proxy.map TlsProxy.config

theorem Alike.refl (host : Str) (s : SharedCalls) : Alike host s s := ⟨rfl, rfl, rfl, rfl⟩

theorem Alike.symm {host : Str} {s t : SharedCalls} (h : Alike host s t) : Alike host t s :=
  ⟨h.counter.symm, h.calls.symm, h.log.symm, h.config.symm⟩

theorem Alike.trans {host : Str} {s t u : SharedCalls} (h : Alike host s t)
    (h' : Alike host t u) : Alike host s u :=
  ⟨h.counter.trans h'.counter, h.calls.trans h'.calls, h.log.trans h'.log,
    h.config.trans h'.config⟩

/-- Hosts that see the same have taken the same actions. -/
theorem Alike.sameActions {host : Str} {s t : SharedCalls} (h : Alike host s t) :
    SameActions host s t where
  decisions := by
    have hfilter : ∀ log : List (Str × Milestone), decisions host log =
        (log.filter fun entry ↦ entry.1 = host).filter fun entry ↦ entry.2.isDecision := by
      intro log
      rw [List.filter_filter]
      exact List.filter_congr fun entry _ ↦ Bool.and_comm _ _
    rw [hfilter, hfilter, h.log]
  rotations := by
    have hcount : ∀ log : List (Str × Milestone), log.count (host, .rotated) =
        (log.filter fun entry ↦ entry.1 = host).count (host, .rotated) := by
      intro log
      rw [List.count_filter (by simp)]
    rw [hcount s.log, hcount t.log, h.log]

/-- A rotation keeps the settings. -/
theorem config_rotate (p : TlsProxy) (child : ChildOutcome) :
    (p.rotate child).2.config = p.config := by
  rcases hout : p.rotate child with ⟨answer, q⟩
  rcases TlsProxy.rotate_cases hout with ⟨-, -, rfl⟩ | ⟨e, -, rfl⟩ | ⟨next, -, -, rfl⟩
  · rfl
  · rfl
  · rfl

/-- The proxy rotates exactly when the ladder has a profile left and the child comes up. -/
theorem rotates_iff (p : TlsProxy) (child : ChildOutcome) :
    (p.rotate child).1.toOption.join.isSome =
      (child.isReady && p.config.port.isSome && p.nextProfile.isSome) := by
  unfold TlsProxy.rotate TlsProxy.startChild
  cases p.nextProfile with
  | none => simp [Except.toOption]
  | some next =>
    cases child with
    | ready => cases p.config.port <;> rfl
    | spawnFailed error => rfl
    | notReady => cases p.config.port <;> rfl
    | exited status => cases p.config.port <;> rfl

section Steps

variable {U : UrlCrate} {host : Str} {s t : SharedCalls}

/-- A step of a call leaves the counters of the other hosts alone. -/
theorem counterFor_advance {h : Str} {hasProxy : Bool} {a : Answers}
    {counters counters' : HostCounters} {p q : Phase} {entry : Option Milestone}
    (hadv : advance host hasProxy a counters p = some (q, counters', entry)) (hne : host ≠ h) :
    counterFor h counters' = counterFor h counters :=
  (moved_of_advance hadv).counterFor_of_ne hne

/-- A step of a call depends on its host's counter only, and on whether the proxy rotates. -/
theorem advance_congr {hasProxy : Bool} {a a' : Answers} {counters counters' : HostCounters}
    (p : Phase) (hpage : a.page = a'.page) (hnow : a.nowUnixMs = a'.nowUnixMs)
    (hrotation : p.isCooling = true →
      a.rotation.toOption.join.isSome = a'.rotation.toOption.join.isSome)
    (hcounter : counterFor host counters = counterFor host counters') :
    (advance host hasProxy a counters p).map
        (fun out ↦ (out.1, counterFor host out.2.1, out.2.2)) =
      (advance host hasProxy a' counters' p).map
        fun out ↦ (out.1, counterFor host out.2.1, out.2.2) := by
  have hupdate : ∀ f, counterFor host (updateCounter host f counters) =
      counterFor host (updateCounter host f counters') := by
    intro f
    rw [counterFor_updateCounter, counterFor_updateCounter, if_pos rfl, if_pos rfl, hcounter]
  cases p with
  | fetching =>
    simp only [advance, hpage]
    rcases a'.page with e | page
    · simp [hcounter]
    · dsimp only
      rcases detect page.fetch.html "" with e | _ | signal <;> simp [hcounter]
  | blocked page =>
    simp only [advance, hcounter]
    split <;> simp [hcounter]
  | inBudget page =>
    simp only [advance, hcounter]
    split <;> simp [hcounter]
  | unmarked => simp [advance, hupdate]
  | cooling page =>
    have hsame := hrotation rfl
    rcases hr : a.rotation with e | _ | new <;> rcases hr' : a'.rotation with e' | _ | new' <;>
      simp_all [advance, Except.toOption]
  | rotated => simp [advance, hnow, hupdate]
  | refetching => simp [advance, hpage, hcounter]
  | returned _ => rfl

/-- A step does what the call's phase does, or nothing. -/
theorem sharedStep_resume {k : ℕ} {page : Except CrwError LadderResult} {child : ChildOutcome}
    {nowUnixMs : ℕ} :
    (sharedStep U s (.resume host k page child nowUnixMs) = s ∧
      ((s.calls host)[k]?.bind fun phase ↦ advance host s.proxy.isSome
        ⟨page, proxyAnswer s.proxy child, nowUnixMs⟩ s.counters phase) = none) ∨
    ∃ phase phase' counters entry, (s.calls host)[k]? = some phase ∧
      advance host s.proxy.isSome ⟨page, proxyAnswer s.proxy child, nowUnixMs⟩ s.counters phase =
        some (phase', counters, entry) ∧
      sharedStep U s (.resume host k page child nowUnixMs) =
        { counters := counters
          proxy := proxyAfter s.proxy child phase
          calls := Function.update s.calls host ((s.calls host).set k phase')
          log := s.log ++ entry.toList.map (host, ·) } := by
  cases hphase : (s.calls host)[k]? with
  | none => exact .inl ⟨by simp [sharedStep, hphase], rfl⟩
  | some phase =>
    cases hadv : advance host s.proxy.isSome ⟨page, proxyAnswer s.proxy child, nowUnixMs⟩
        s.counters phase with
    | none => exact .inl ⟨by simp [sharedStep, hphase, hadv], hadv⟩
    | some out =>
      obtain ⟨phase', counters, entry⟩ := out
      exact .inr ⟨phase, phase', counters, entry, rfl, hadv, by simp [sharedStep, hphase, hadv]⟩

/-- The settings of the proxy do not change. -/
theorem config_sharedStep (l : SharedLabel) :
    (sharedStep U s l).proxy.map TlsProxy.config = s.proxy.map TlsProxy.config := by
  cases l with
  | call url => rfl
  | resume host k page child nowUnixMs =>
    rcases @sharedStep_resume U host s k page child nowUnixMs with
      ⟨heq, -⟩ | ⟨phase, phase', counters, entry, -, -, heq⟩
    · rw [heq]
    · rw [heq]
      dsimp only
      unfold proxyAfter
      split
      · cases s.proxy with
        | none => rfl
        | some p => exact congrArg some (config_rotate p child)
      · rfl

/-- A label of another host changes nothing that the host sees. -/
theorem alike_other {l : SharedLabel} (hl : l.host U ≠ host) :
    Alike host (sharedStep U s l) s := by
  refine ⟨?_, ?_, ?_, config_sharedStep l⟩
  · cases l with
    | call url => rfl
    | resume other k page child nowUnixMs =>
      rcases @sharedStep_resume U other s k page child nowUnixMs with
        ⟨heq, -⟩ | ⟨phase, phase', counters, entry, -, hadv, heq⟩
      · rw [heq]
      · rw [heq]
        exact counterFor_advance hadv hl
  · cases l with
    | call url => exact Function.update_of_ne (Ne.symm hl) _ _
    | resume other k page child nowUnixMs =>
      rcases @sharedStep_resume U other s k page child nowUnixMs with
        ⟨heq, -⟩ | ⟨phase, phase', counters, entry, -, -, heq⟩
      · rw [heq]
      · rw [heq]
        exact Function.update_of_ne (Ne.symm hl) _ _
  · cases l with
    | call url => rfl
    | resume other k page child nowUnixMs =>
      have hother : other ≠ host := hl
      rcases @sharedStep_resume U other s k page child nowUnixMs with
        ⟨heq, -⟩ | ⟨phase, phase', counters, entry, -, -, heq⟩
      · rw [heq]
      · rw [heq]
        cases entry <;> simp [List.filter_append, hother]

/-- The proxy answers two states alike when their ladders are. -/
theorem proxyAnswer_congr {k : ℕ} {page : LadderResult} {answer : Except CrwError LadderResult}
    {child : ChildOutcome} {nowUnixMs : ℕ} (h : Alike host s t)
    (hphase : (s.calls host)[k]? = some (.cooling page))
    (hasks : s.ladderLeft (.resume host k answer child nowUnixMs) =
      t.ladderLeft (.resume host k answer child nowUnixMs)) :
    (proxyAnswer s.proxy child).toOption.join.isSome =
      (proxyAnswer t.proxy child).toOption.join.isSome := by
  have hphase' : (t.calls host)[k]? = some (.cooling page) := h.calls ▸ hphase
  have hconfig := h.config
  simp only [SharedCalls.ladderLeft, hphase, hphase'] at hasks
  cases hs : s.proxy with
  | none =>
    have ht : t.proxy = none := by simpa [hs] using hconfig.symm
    rw [ht]
  | some p =>
    obtain ⟨q, ht, hq⟩ : ∃ q, t.proxy = some q ∧ q.config = p.config := by
      rw [hs] at hconfig
      exact Option.map_eq_some_iff.mp hconfig.symm
    simp only [hs, ht, hq] at hasks
    simp only [ht, proxyAnswer, rotates_iff, hq]
    cases hup : child.isReady && p.config.port.isSome with
    | false => rfl
    | true =>
      simp only [hup, ↓reduceIte, Option.some.injEq] at hasks
      simpa using hasks

theorem Alike.isSome_proxy (h : Alike host s t) : s.proxy.isSome = t.proxy.isSome := by
  simpa using congrArg Option.isSome h.config

/-- A label of the host's own keeps the states alike when the ladder is. -/
theorem Alike.both {l : SharedLabel} (h : Alike host s t) (hl : l.host U = host)
    (hasks : s.ladderLeft l = t.ladderLeft l) :
    Alike host (sharedStep U s l) (sharedStep U t l) := by
  have hconfig : (sharedStep U s l).proxy.map TlsProxy.config =
      (sharedStep U t l).proxy.map TlsProxy.config := by
    rw [config_sharedStep, config_sharedStep, h.config]
  cases l with
  | call url =>
    have hurl : counterHost U url = host := hl
    refine ⟨h.counter, ?_, h.log, hconfig⟩
    simp [sharedStep, hurl, h.calls]
  | resume other k page child nowUnixMs =>
    obtain rfl : other = host := hl
    have hview : ∀ phase, (s.calls other)[k]? = some phase →
        (advance other s.proxy.isSome ⟨page, proxyAnswer s.proxy child, nowUnixMs⟩ s.counters
          phase).map (fun out ↦ (out.1, counterFor other out.2.1, out.2.2)) =
        (advance other t.proxy.isSome ⟨page, proxyAnswer t.proxy child, nowUnixMs⟩ t.counters
          phase).map fun out ↦ (out.1, counterFor other out.2.1, out.2.2) := by
      intro phase hphase
      rw [h.isSome_proxy]
      refine advance_congr phase rfl rfl (fun hcooling ↦ ?_) h.counter
      cases phase with
      | cooling cooled => exact proxyAnswer_congr h hphase hasks
      | _ => exact absurd hcooling (by simp [Phase.isCooling])
    rcases @sharedStep_resume U other s k page child nowUnixMs with
      ⟨heq, hnone⟩ | ⟨phase, phase', counters, entry, hphase, hadv, heq⟩
    · have hnone' : ((t.calls other)[k]?.bind fun phase ↦ advance other t.proxy.isSome
          ⟨page, proxyAnswer t.proxy child, nowUnixMs⟩ t.counters phase) = none := by
        rw [← h.calls]
        cases hphase : (s.calls other)[k]? with
        | none => rfl
        | some phase =>
          have hadv := hview phase hphase
          rw [hphase] at hnone
          rw [show advance other s.proxy.isSome _ s.counters phase = none from hnone] at hadv
          simpa using hadv.symm
      rcases @sharedStep_resume U other t k page child nowUnixMs with
        ⟨heq', -⟩ | ⟨phase, phase', counters, entry, hphase, hadv, -⟩
      · rw [heq, heq']
        exact h
      · rw [hphase] at hnone'
        exact absurd (hnone'.symm.trans hadv) (by simp)
    · have hphase' : (t.calls other)[k]? = some phase := h.calls ▸ hphase
      have hadv' := hview phase hphase
      rw [hadv, Option.map_some] at hadv'
      obtain ⟨⟨q, counters', entry'⟩, hout, hsame⟩ := Option.map_eq_some_iff.mp hadv'.symm
      simp only [Prod.mk.injEq] at hsame
      obtain ⟨rfl, hcounter, rfl⟩ := hsame
      have heq' : sharedStep U t (.resume other k page child nowUnixMs) =
          { counters := counters'
            proxy := proxyAfter t.proxy child phase
            calls := Function.update t.calls other ((t.calls other).set k q)
            log := t.log ++ entry'.toList.map (other, ·) } := by
        simp [sharedStep, hphase', hout]
      rw [heq, heq'] at hconfig ⊢
      refine ⟨hcounter.symm, ?_, ?_, hconfig⟩
      · simp [h.calls]
      · rw [List.filter_append, List.filter_append, h.log]

/-- A host's view is kept by the other hosts, and by its own calls when the ladder is as left. -/
theorem unwinds (U : UrlCrate) (host : Str) :
    Unwinds (sharedStep U) (fun l ↦ l.host U = host) SharedCalls.ladderLeft (Alike host) where
  left s t l hl h := (alike_other (by simpa using hl)).trans h
  right s t l hl h := h.trans (alike_other (by simpa using hl)).symm
  asked s t l hl h := by
    cases l with
    | call url => simp [SharedCalls.ladderLeft]
    | resume other k page child nowUnixMs =>
      have hother : SharedLabel.host U (.resume other k page child nowUnixMs) = host := by
        simpa using hl
      obtain rfl : other = host := hother
      have hconfig := h.config
      simp only [SharedCalls.ladderLeft, ← h.calls]
      split
      · next p hphase hs =>
        obtain ⟨q, ht, hq⟩ : ∃ q, t.proxy = some q ∧ q.config = p.config := by
          rw [hs] at hconfig
          exact Option.map_eq_some_iff.mp hconfig.symm
        rw [ht]
        simp only [hphase, hq]
        split <;> simp
      · next hno =>
        split
        · next q hphase ht =>
          obtain ⟨p, hs, -⟩ : ∃ p, s.proxy = some p ∧ p.config = q.config := by
            rw [ht] at hconfig
            exact Option.map_eq_some_iff.mp hconfig
          exact absurd hs (hno _ p hphase)
        · rfl
  both s t l hl h hasks := h.both (by simpa using hl) hasks

/-- The proxy, if there is one, is at the end of its ladder. -/
def Exhausted (s : SharedCalls) : Prop := ∀ p, s.proxy = some p → p.nextProfile = none

/-- A step settles at most one thing, and nothing that was settled is lost. -/
theorem log_sharedStep (l : SharedLabel) : s.log <+: (sharedStep U s l).log := by
  cases l with
  | call url => exact List.prefix_rfl
  | resume other k page child nowUnixMs =>
    rcases @sharedStep_resume U other s k page child nowUnixMs with
      ⟨heq, -⟩ | ⟨phase, phase', counters, entry, -, -, heq⟩
    · rw [heq]
    · rw [heq]
      exact List.prefix_append _ _

/-- The proxy rotates for a host at least as often in a longer run. -/
theorem count_foldl_le (x : Str × Milestone) (labels : List SharedLabel) :
    s.log.count x ≤ (labels.foldl (sharedStep U) s).log.count x := by
  induction labels generalizing s with
  | nil => exact Nat.le_refl _
  | cons l labels ih => exact ((log_sharedStep l).sublist.count_le x).trans ih

/-- At the end of the ladder the proxy rotates for nobody, and stays there. -/
theorem Exhausted.step (h : Exhausted s) (l : SharedLabel) (other : Str) :
    Exhausted (sharedStep U s l) ∧
      (sharedStep U s l).log.count (other, .rotated) = s.log.count (other, .rotated) := by
  cases l with
  | call url => exact ⟨h, rfl⟩
  | resume host k page child nowUnixMs =>
    have hrotate : ∀ p, s.proxy = some p → p.rotate child = (.ok none, p) := by
      intro p hp
      simp only [TlsProxy.rotate, h p hp]
    have hanswer : proxyAnswer s.proxy child = .ok none := by
      cases hp : s.proxy with
      | none => rfl
      | some p => exact congrArg Prod.fst (hrotate p hp)
    rcases @sharedStep_resume U host s k page child nowUnixMs with
      ⟨heq, -⟩ | ⟨phase, phase', counters, entry, hphase, hadv, heq⟩
    · rw [heq]
      exact ⟨h, rfl⟩
    · rw [heq]
      constructor
      · intro p hp
        dsimp only at hp
        unfold proxyAfter at hp
        split at hp
        · obtain ⟨q, hq, rfl⟩ := Option.map_eq_some_iff.mp hp
          rw [hrotate q hq]
          exact h q hq
        · exact h p hp
      · have hentry : entry ≠ some .rotated := by
          rintro rfl
          cases moved_of_advance hadv with
          | rotated hnew =>
            rw [hanswer] at hnew
            exact absurd hnew (by simp [Except.toOption])
        rw [List.count_append]
        cases entry with
        | none => simp
        | some m =>
          have hm : m ≠ .rotated := fun heq ↦ hentry (congrArg some heq)
          simp [hm]

theorem Exhausted.count_foldl (h : Exhausted s) (labels : List SharedLabel) (other : Str) :
    (labels.foldl (sharedStep U) s).log.count (other, .rotated) =
      s.log.count (other, .rotated) := by
  induction labels generalizing s with
  | nil => rfl
  | cons l labels ih =>
    obtain ⟨hstep, hcount⟩ := h.step (U := U) l other
    exact (ih hstep).trans hcount

/-- Where the ladder has nothing left for a rotation it is exhausted. -/
theorem exhausted_of_ladderLeft {l : SharedLabel} (h : s.ladderLeft l = some false) :
    Exhausted s := by
  cases l with
  | call url => exact absurd h (by simp [SharedCalls.ladderLeft])
  | resume host k page child nowUnixMs =>
    simp only [SharedCalls.ladderLeft] at h
    split at h
    · next p hphase hs =>
      split at h
      · intro q hq
        obtain rfl := Option.some.inj (hs.symm.trans hq)
        simpa using h
      · exact absurd h (by simp)
    · exact absurd h (by simp)

/-- Where the ladder has a profile left for a rotation the proxy rotates. -/
theorem log_of_ladderLeft {l : SharedLabel} (h : s.ladderLeft l = some true) :
    (sharedStep U s l).log = s.log ++ [(l.host U, .rotated)] := by
  cases l with
  | call url => exact absurd h (by simp [SharedCalls.ladderLeft])
  | resume host k page child nowUnixMs =>
    simp only [SharedCalls.ladderLeft] at h
    split at h
    · next page' p hphase hs =>
      split at h
      · next hup =>
        have hrotates := rotates_iff p child
        rw [hup, Option.some.inj h] at hrotates
        obtain ⟨new, hnew⟩ : ∃ new, (p.rotate child).1 = .ok (some new) := by
          rcases hanswer : (p.rotate child).1 with e | _ | new
          · rw [hanswer] at hrotates
            exact absurd hrotates (by simp [Except.toOption])
          · rw [hanswer] at hrotates
            exact absurd hrotates (by simp [Except.toOption])
          · exact ⟨new, rfl⟩
        simp [sharedStep, hphase, hs, proxyAnswer, hnew, advance, SharedLabel.host]
      · exact absurd h (by simp)
    · exact absurd h (by simp)

variable {labels labels' : List SharedLabel}

/-- Where one run has a profile left and the other has none, the proxy rotates more often in the
first. -/
theorem count_lt_of_diverge (h : Alike host s t) {l : SharedLabel} (hl : l.host U = host)
    (hleft : s.ladderLeft l = some true) (hnone : t.ladderLeft l = some false) :
    ((l :: labels').foldl (sharedStep U) t).log.count (host, .rotated) <
      ((l :: labels).foldl (sharedStep U) s).log.count (host, .rotated) := by
  have hsame := h.sameActions.rotations
  have hstep : (sharedStep U s l).log.count (host, .rotated) =
      s.log.count (host, .rotated) + 1 := by
    rw [log_of_ladderLeft hleft, hl]
    simp
  have hmore := count_foldl_le (U := U) (s := sharedStep U s l) (host, .rotated) labels
  have hexhausted := exhausted_of_ladderLeft hnone
  rw [hexhausted.count_foldl, List.foldl_cons]
  omega

/-- Runs that answer a host's rotations differently do not rotate as often for it. -/
theorem rotations_ne_of_diverges
    (h : Diverges (sharedStep U) (fun l ↦ l.host U = host) SharedCalls.ladderLeft (Alike host) s t
      labels labels') :
    (labels.foldl (sharedStep U) s).log.count (host, .rotated) ≠
      (labels'.foldl (sharedStep U) t).log.count (host, .rotated) := by
  cases h with
  | intro before after before' after' l a b own related left right ne =>
    have hl : l.host U = host := by simpa using own
    rw [List.foldl_append, List.foldl_append]
    cases a with
    | true =>
      have hb : b = false := by simpa using ne.symm
      exact (count_lt_of_diverge related hl left (hb ▸ right)).ne'
    | false =>
      have hb : b = true := by simpa using ne.symm
      exact (count_lt_of_diverge related.symm hl (hb ▸ right) left).ne

/-- Two runs with the same calls, pages and children for a host take the same actions for it exactly
when the proxy's ladder has a profile left for its rotations in one run where it has one in the
other. -/
theorem sameActions_iff {s₀ : SharedCalls}
    (h : labels.filter (fun l ↦ l.host U = host) = labels'.filter fun l ↦ l.host U = host) :
    SameActions host (labels.foldl (sharedStep U) s₀) (labels'.foldl (sharedStep U) s₀) ↔
      ladderAnswers U host s₀ labels = ladderAnswers U host s₀ labels' := by
  rcases (unwinds U host).alike_or_diverge (Alike.refl host s₀) h with
    ⟨hanswers, halike⟩ | ⟨hne, hdiverges⟩
  · exact ⟨fun _ ↦ hanswers, fun _ ↦ halike.sameActions⟩
  · constructor
    · intro hsame
      exact absurd hsame.rotations (rotations_ne_of_diverges hdiverges)
    · intro hanswers
      exact absurd hanswers hne

end Steps

/-- State of a process that has just started, with a proxy at the start of a ladder. -/
def ladderStart (profiles : List Str) : SharedCalls where
  counters := ∅
  proxy := some ⟨{ defaultConfig with profiles := profiles }, some "chrome_120", "chrome_120"⟩
  calls _ := []
  log := []

/-- An answer without a body, which the detector takes for a block. -/
def blockedPage (url : Str) : LadderResult where
  fetch := ⟨url, url, 403, [], []⟩
  screenshot := none
  source := .http
  situation := buildReport .genericAccessDenied .cdp (some 403) [] none

/-- The `k`-th call for a site that blocks every request, with `n` steps. -/
def blockedCall (url : Str) (k n : ℕ) : List SharedLabel :=
  .call url ::
    List.replicate n (.resume (counterHost .plain url) k (.ok (blockedPage url)) .ready 0)

/-- A call that takes L1, and one that rotates. -/
def blockedTwice (url : Str) : List SharedLabel := blockedCall url 0 5 ++ blockedCall url 1 7

theorem host_of_mem_blockedTwice {url : Str} {l : SharedLabel} (h : l ∈ blockedTwice url) :
    l.host .plain = counterHost .plain url := by
  have hcall : ∀ {k n}, l ∈ blockedCall url k n → l.host .plain = counterHost .plain url := by
    intro k n hl
    rcases List.mem_cons.mp hl with rfl | hl
    · rfl
    · rw [List.eq_of_mem_replicate hl]
      rfl
  rcases List.mem_append.mp h with h | h
  · exact hcall h
  · exact hcall h

/-- The calls for another site before those for a site leave the site's labels. -/
theorem filter_blockedTwice {url other : Str}
    (hne : counterHost .plain other ≠ counterHost .plain url) :
    (blockedTwice url).filter (fun l ↦ l.host .plain = counterHost .plain url) =
      (blockedTwice other ++ blockedTwice url).filter
        fun l ↦ l.host .plain = counterHost .plain url := by
  have hother : (blockedTwice other).filter
      (fun l ↦ l.host .plain = counterHost .plain url) = [] := by
    rw [List.filter_eq_nil_iff]
    intro l hl
    rw [host_of_mem_blockedTwice hl]
    simpa using hne
  rw [List.filter_append, hother, List.nil_append]

theorem sameActions_iff_defaultLadder :
    SameActions (counterHost .plain "https://b.example/")
        ((blockedTwice "https://b.example/").foldl (sharedStep .plain)
          (ladderStart defaultProfiles))
        ((blockedTwice "https://a.example/" ++ blockedTwice "https://b.example/").foldl
          (sharedStep .plain) (ladderStart defaultProfiles)) ∧
      ladderAnswers .plain (counterHost .plain "https://b.example/") (ladderStart defaultProfiles)
        (blockedTwice "https://b.example/") = [true] := by
  have hanswers : ladderAnswers .plain (counterHost .plain "https://b.example/")
      (ladderStart defaultProfiles) (blockedTwice "https://b.example/") =
      ladderAnswers .plain (counterHost .plain "https://b.example/") (ladderStart defaultProfiles)
        (blockedTwice "https://a.example/" ++ blockedTwice "https://b.example/") := by
    decide
  exact ⟨(sameActions_iff (filter_blockedTwice (by decide))).mpr hanswers,
    by decide⟩

/-- On a ladder of two profiles the rotation for one site leaves none for the other. -/
theorem not_sameActions_shortLadder :
    ¬ ∀ (U : UrlCrate) (host : Str) (s₀ : SharedCalls) (labels labels' : List SharedLabel),
      labels.filter (fun l ↦ l.host U = host) = labels'.filter (fun l ↦ l.host U = host) →
      SameActions host (labels.foldl (sharedStep U) s₀) (labels'.foldl (sharedStep U) s₀) := by
  intro hall
  have hsame := (hall .plain (counterHost .plain "https://b.example/")
    (ladderStart ["chrome_120", "chrome_117"]) (blockedTwice "https://b.example/")
    (blockedTwice "https://a.example/" ++ blockedTwice "https://b.example/")
    (filter_blockedTwice (by decide))).rotations
  revert hsame
  decide

end CrwShield.Fetch
