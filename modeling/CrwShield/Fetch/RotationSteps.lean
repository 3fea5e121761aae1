import Mathlib.Logic.Relation
import CrwShield.Base.Runs
import CrwShield.Fetch.Rotation

/-!
# Interleaved calls of the ladder with rotation

Crate `fetch`, `src/crates/fetch/src/ladder.rs:767–909`, with `decide` of `rotation.rs:69–121`. Any
number of calls run at once; one call goes from one await point or access to a host's counter to
the next, and others may go on in between. What a call is answered where it awaits is arbitrary.
-/

open CrwShield.Base CrwShield.Base.Str CrwShield.Antibot CrwShield.Core

namespace CrwShield.Fetch

universe u

/-- Where a call stands. -/
inductive Phase where
  /-- It awaits the first page; `ladder.rs:773`. -/
  | fetching
  /-- Its page is blocked and the host's counter has not been read; `rotation.rs:82`. -/
  | blocked (page : LadderResult)
  /-- The rotations read are within the budget; `rotation.rs:97`. -/
  | inBudget (page : LadderResult)
  /-- The L1 flag read is clear, and L1 follows; `rotation.rs:98`. -/
  | unmarked
  /-- It awaits the cooldown and the proxy; `ladder.rs:820–839`. -/
  | cooling (page : LadderResult)
  /-- The proxy has rotated and the rotation is not recorded; `ladder.rs:861`. -/
  | rotated
  /-- It awaits the second page; `ladder.rs:809`, `ladder.rs:862`. -/
  | refetching
  | returned (result : Except Failure LadderResult)

/-- What a call is answered: a page, the answer of `rotate`, the time. -/
structure Answers where
  page : Except CrwError LadderResult
  rotation : Except CrwError (Option Str)
  nowUnixMs : Nat

/-- What a step of a call settles for its host. -/
inductive Milestone where
  /-- The block is within the budget: L1 or L2 follows. -/
  | kept
  /-- The block is decided `Fail`. -/
  | failed
  /-- The block is decided `ClearAndRetry`: the host is marked and its cookies are cleared. -/
  | cleared
  /-- The block is decided `Rotate`. -/
  | rotate
  /-- The proxy has rotated for the host. -/
  | rotated
  deriving DecidableEq

/-- One step of a call, to its next await point or access to the counter. -/
def advance (host : Str) (hasProxy : Bool) (a : Answers) (counters : HostCounters) :
    Phase → Option (Phase × HostCounters × Option Milestone)
  | .fetching =>
    match a.page with
    | .error e => some (.returned (.error (.error e)), counters, none)
    | .ok page =>
      match detect page.fetch.html "" with
      | .error p => some (.returned (.error (.panic p)), counters, none)
      | .ok none => some (.returned (.ok page), counters, none)
      | .ok (some _) => some (.blocked page, counters, none)
  | .blocked page =>
    if maxRotationsPerHost ≤ (counterFor host counters).rotations then
      some (.returned (.ok page), counters, some .failed)
    else some (.inBudget page, counters, some .kept)
  | .inBudget page =>
    if !(counterFor host counters).l1Attempted then some (.unmarked, counters, none)
    else some (if hasProxy then .cooling page else .returned (.ok page), counters, some .rotate)
  | .unmarked => some (.refetching, updateCounter host .markL1Attempted counters, some .cleared)
  | .cooling page =>
    match a.rotation with
    | .ok (some _) => some (.rotated, counters, some .rotated)
    | .ok none => some (.returned (.ok page), counters, none)
    | .error _ => some (.returned (.ok page), counters, none)
  | .rotated =>
    some (.refetching, updateCounter host (·.recordRotation a.nowUnixMs) counters, none)
  | .refetching => some (.returned (a.page.mapError .error), counters, none)
  | .returned _ => none

/-- A call: its URL, whether its ladder has a proxy, and where it stands. -/
structure RotationCall where
  url : Str
  hasProxy : Bool
  phase : Phase

/-- The counters that the calls share, the calls, and what they settled, oldest first. -/
structure RotationCalls where
  counters : HostCounters
  calls : List RotationCall
  log : List (Str × Milestone)

/-- A call is made, or the call at an index goes on. -/
inductive RotationLabel where
  | call (url : Str) (hasProxy : Bool)
  | resume (i : Nat) (a : Answers)

/-- State of a process that has just started. -/
def RotationCalls.start : RotationCalls := ⟨∅, [], []⟩

/-- One step of the calls. -/
def rotationStep (U : UrlCrate) (s : RotationCalls) : RotationLabel → Option RotationCalls
  | .call url hasProxy => some { s with calls := s.calls ++ [⟨url, hasProxy, .fetching⟩] }
  | .resume i a =>
    s.calls[i]?.bind fun c ↦
      let host := counterHost U c.url
      (advance host c.hasProxy a s.counters c.phase).map fun out ↦
        { counters := out.2.1
          calls := s.calls.set i { c with phase := out.1 }
          log := s.log ++ out.2.2.toList.map (host, ·) }

/-- Runs of calls, interleaved in any way. -/
abbrev RotationRun (U : UrlCrate) : RotationCalls → List RotationLabel → RotationCalls → Prop :=
  Run (PartialSteps (rotationStep U))

/-- A call that goes on changes its own place among the calls. -/
theorem resume_cases {U : UrlCrate} {s s' : RotationCalls} {i : Nat} {a : Answers}
    (h : rotationStep U s (.resume i a) = some s') :
    ∃ before c after phase counters entry,
      s.calls[i]? = some c ∧ s.calls = before ++ c :: after ∧
      advance (counterHost U c.url) c.hasProxy a s.counters c.phase =
        some (phase, counters, entry) ∧
      s' = ⟨counters, before ++ { c with phase := phase } :: after,
        s.log ++ entry.toList.map (counterHost U c.url, ·)⟩ := by
  obtain ⟨c, hc, hmap⟩ := Option.bind_eq_some_iff.mp h
  obtain ⟨⟨phase, counters, entry⟩, hadv, rfl⟩ := Option.map_eq_some_iff.mp hmap
  obtain ⟨hlt, rfl⟩ := List.getElem?_eq_some_iff.mp hc
  refine ⟨s.calls.take i, s.calls[i], s.calls.drop (i + 1), phase, counters, entry, hc, ?_, hadv,
    ?_⟩
  · rw [List.getElem_cons_drop, List.take_append_drop]
  · rw [List.set_eq_take_append_cons_drop, if_pos hlt]

/-- What one step of a call does, by where the call stands. -/
inductive Moved (host : Str) (hasProxy : Bool) (a : Answers) (counters : HostCounters) :
    Phase → Phase → HostCounters → Option Milestone → Prop
  | blocked {page : LadderResult} :
      Moved host hasProxy a counters .fetching (.blocked page) counters none
  | answered {result : Except Failure LadderResult} :
      Moved host hasProxy a counters .fetching (.returned result) counters none
  | failed {page : LadderResult}
      (hspent : maxRotationsPerHost ≤ (counterFor host counters).rotations) :
      Moved host hasProxy a counters (.blocked page) (.returned (.ok page)) counters (some .failed)
  | kept {page : LadderResult}
      (hn : (counterFor host counters).rotations < maxRotationsPerHost) :
      Moved host hasProxy a counters (.blocked page) (.inBudget page) counters (some .kept)
  | first {page : LadderResult} (hfirst : (counterFor host counters).l1Attempted = false) :
      Moved host hasProxy a counters (.inBudget page) .unmarked counters none
  | rotate {page : LadderResult} (hagain : (counterFor host counters).l1Attempted = true) :
      Moved host hasProxy a counters (.inBudget page)
        (if hasProxy then .cooling page else .returned (.ok page)) counters (some .rotate)
  | cleared : Moved host hasProxy a counters .unmarked .refetching
      (updateCounter host .markL1Attempted counters) (some .cleared)
  | rotated {page : LadderResult} (hnew : a.rotation.toOption.join.isSome) :
      Moved host hasProxy a counters (.cooling page) .rotated counters (some .rotated)
  | unrotated {page : LadderResult} (hnone : a.rotation.toOption.join = none) :
      Moved host hasProxy a counters (.cooling page) (.returned (.ok page)) counters none
  | recorded : Moved host hasProxy a counters .rotated .refetching
      (updateCounter host (·.recordRotation a.nowUnixMs) counters) none
  | refetched {result : Except Failure LadderResult} :
      Moved host hasProxy a counters .refetching (.returned result) counters none

theorem moved_of_advance {host : Str} {hasProxy : Bool} {a : Answers}
    {counters counters' : HostCounters} {p q : Phase} {entry : Option Milestone}
    (h : advance host hasProxy a counters p = some (q, counters', entry)) :
    Moved host hasProxy a counters p q counters' entry := by
  cases p with
  | fetching =>
    simp only [advance] at h
    repeat' split at h
    all_goals
      simp only [Option.some.injEq, Prod.mk.injEq] at h
      obtain ⟨rfl, rfl, rfl⟩ := h
    · exact .answered
    · exact .answered
    · exact .answered
    · exact .blocked
  | blocked page =>
    simp only [advance] at h
    split at h
    · next hspent =>
      simp only [Option.some.injEq, Prod.mk.injEq] at h
      obtain ⟨rfl, rfl, rfl⟩ := h
      exact .failed hspent
    · next hspent =>
      simp only [Option.some.injEq, Prod.mk.injEq] at h
      obtain ⟨rfl, rfl, rfl⟩ := h
      exact .kept (Nat.lt_of_not_le hspent)
  | inBudget page =>
    simp only [advance] at h
    split at h
    · next hfirst =>
      simp only [Option.some.injEq, Prod.mk.injEq] at h
      obtain ⟨rfl, rfl, rfl⟩ := h
      exact .first (by simpa using hfirst)
    · next hagain =>
      simp only [Option.some.injEq, Prod.mk.injEq] at h
      obtain ⟨rfl, rfl, rfl⟩ := h
      exact .rotate (by simpa using hagain)
  | unmarked =>
    simp only [advance, Option.some.injEq, Prod.mk.injEq] at h
    obtain ⟨rfl, rfl, rfl⟩ := h
    exact .cleared
  | cooling page =>
    rcases hrot : a.rotation with e | _ | new <;>
      simp only [advance, hrot, Option.some.injEq, Prod.mk.injEq] at h <;>
      obtain ⟨rfl, rfl, rfl⟩ := h
    · exact .unrotated (by simp [hrot, Except.toOption])
    · exact .unrotated (by simp [hrot, Except.toOption])
    · exact .rotated (by simp [hrot, Except.toOption])
  | rotated =>
    simp only [advance, Option.some.injEq, Prod.mk.injEq] at h
    obtain ⟨rfl, rfl, rfl⟩ := h
    exact .recorded
  | refetching =>
    simp only [advance, Option.some.injEq, Prod.mk.injEq] at h
    obtain ⟨rfl, rfl, rfl⟩ := h
    exact .refetched
  | returned _ => exact absurd h (by simp [advance])

/-- A step of a call for another host leaves the host's counter alone. -/
theorem Moved.counterFor_of_ne {host h : Str} {hasProxy : Bool} {a : Answers}
    {counters counters' : HostCounters} {p q : Phase} {entry : Option Milestone}
    (hm : Moved host hasProxy a counters p q counters' entry) (hne : host ≠ h) :
    counterFor h counters' = counterFor h counters := by
  cases hm with
  | cleared => rw [counterFor_updateCounter, if_neg hne]
  | recorded => rw [counterFor_updateCounter, if_neg hne]
  | _ => rfl

/-- What a step of the calls does: a call is made, or one of them moves. -/
theorem rotationStep_cases {U : UrlCrate} {s s' : RotationCalls} {l : RotationLabel}
    (h : rotationStep U s l = some s') :
    (∃ url hasProxy, l = .call url hasProxy ∧
      s' = { s with calls := s.calls ++ [⟨url, hasProxy, .fetching⟩] }) ∨
    ∃ i a before c after phase counters entry, l = .resume i a ∧
      s.calls[i]? = some c ∧ s.calls = before ++ c :: after ∧
      Moved (counterHost U c.url) c.hasProxy a s.counters c.phase phase counters entry ∧
      s' = ⟨counters, before ++ { c with phase := phase } :: after,
        s.log ++ entry.toList.map (counterHost U c.url, ·)⟩ := by
  cases l with
  | call url hasProxy => exact .inl ⟨url, hasProxy, rfl, (Option.some.inj h).symm⟩
  | resume i a =>
    obtain ⟨before, c, after, phase, counters, entry, hc, hcalls, hadv, hs'⟩ := resume_cases h
    exact .inr ⟨i, a, before, c, after, phase, counters, entry, rfl, hc, hcalls,
      moved_of_advance hadv, hs'⟩

section Alone

/-- The call awaits the proxy. -/
def Phase.isCooling : Phase → Bool
  | .cooling _ => true
  | _ => false

/-- The answer of the proxy to a rotation. -/
def proxyAnswer (proxy : Option TlsProxy) (child : ChildOutcome) : Except CrwError (Option Str) :=
  match proxy with
  | some p => (p.rotate child).1
  | none => .ok none

/-- The proxy after a step of a call: a call that awaits it rotates it. -/
def proxyAfter (proxy : Option TlsProxy) (child : ChildOutcome) (phase : Phase) :
    Option TlsProxy :=
  if phase.isCooling then proxy.map fun p ↦ (p.rotate child).2 else proxy

/-- Where a call stands, with the counters and the proxy that it shares. -/
structure SoloState where
  phase : Phase
  counters : HostCounters
  proxy : Option TlsProxy

/-- A step of a call whose counter and proxy nobody else changes. -/
def SoloStep (host : Str) (s t : SoloState) : Prop :=
  ∃ page child nowUnixMs entry,
    advance host s.proxy.isSome ⟨page, proxyAnswer s.proxy child, nowUnixMs⟩ s.counters s.phase =
      some (t.phase, t.counters, entry) ∧ t.proxy = proxyAfter s.proxy child s.phase

/-- A step of a call whose counter nobody else changes. -/
def AloneStep (host : Str) (hasProxy : Bool) (p q : Phase × HostCounters) : Prop :=
  ∃ a entry, advance host hasProxy a p.2 p.1 = some (q.1, q.2, entry)

variable {ω : Type u} {W : Machine ω} {U : UrlCrate} {ladder : FetchLadder}

private theorem solo_refetch {request : ScrapeRequest} {host : Str} {counters : HostCounters}
    {proxy : Option TlsProxy} {st : RotationState ω} (hc : st.counters = counters)
    (hp : st.proxy = proxy) :
    SoloStep host ⟨.refetching, counters, proxy⟩
      ⟨.returned (ladder.refetch W U request st).1, (ladder.refetch W U request st).2.counters,
        (ladder.refetch W U request st).2.proxy⟩ := by
  subst hc hp
  exact ⟨(ladder.fetch W.toBackends U request st.env).1, .ready, 0, none, rfl, rfl⟩

private theorem solo_rotateAndRetry {request : ScrapeRequest} {host : Str} {idx : Nat}
    {page : LadderResult} (st : RotationState ω)
    (hagain : (counterFor host st.counters).l1Attempted) :
    Relation.ReflTransGen (SoloStep host) ⟨.inBudget page, st.counters, st.proxy⟩
      ⟨.returned (ladder.rotateAndRetry W U request host idx page st).1,
        (ladder.rotateAndRetry W U request host idx page st).2.counters,
        (ladder.rotateAndRetry W U request host idx page st).2.proxy⟩ := by
  have hdecided : SoloStep host ⟨.inBudget page, st.counters, st.proxy⟩
      ⟨if st.proxy.isSome then .cooling page else .returned (.ok page), st.counters, st.proxy⟩ :=
    ⟨.ok page, .ready, 0, some .rotate, by simp [advance, hagain], rfl⟩
  unfold FetchLadder.rotateAndRetry
  split
  · next hproxy =>
    rw [hproxy] at hdecided ⊢
    exact .single hdecided
  · next p hproxy =>
    rw [hproxy] at hdecided ⊢
    refine .head hdecided ?_
    -- without a next profile no child is started, and the answer does not depend on one
    obtain ⟨child, hrotation⟩ : ∃ child,
        (FetchLadder.rotateProxy W p (W.sleep l2CooldownSecs st.env.world)).1 =
          p.rotate child := by
      unfold FetchLadder.rotateProxy
      split
      · exact ⟨_, rfl⟩
      · exact ⟨.ready, rfl⟩
    generalize FetchLadder.rotateProxy W p (W.sleep l2CooldownSecs st.env.world) = rotation
      at hrotation ⊢
    obtain ⟨⟨answer, p'⟩, w⟩ := rotation
    have hrotate : p.rotate child = (answer, p') := hrotation.symm
    have hanswer : ∀ q counters entry,
        advance host true ⟨.ok page, answer, 0⟩ st.counters (.cooling page) =
          some (q, counters, entry) →
        SoloStep host ⟨.cooling page, st.counters, some p⟩ ⟨q, counters, some p'⟩ := by
      intro q counters entry hadv
      refine ⟨.ok page, child, 0, entry, ?_, ?_⟩
      · simpa [proxyAnswer, hrotate] using hadv
      · simp [proxyAfter, Phase.isCooling, hrotate]
    rcases answer with e | _ | new
    · exact .single (hanswer _ _ _ rfl)
    · exact .single (hanswer _ _ _ rfl)
    · refine .head (hanswer .rotated st.counters _ rfl) ?_
      have hrecorded : SoloStep host ⟨.rotated, st.counters, some p'⟩ ⟨.refetching,
          updateCounter host (·.recordRotation (W.nowUnixMs w)) st.counters, some p'⟩ :=
        ⟨.ok page, .ready, W.nowUnixMs w, none, rfl, rfl⟩
      exact .head hrecorded (.single (solo_refetch rfl rfl))

/-- A call that runs alone takes the steps of one call and returns its result. -/
theorem solo_fetchWithRotation (request : ScrapeRequest) (st : RotationState ω) :
    Relation.ReflTransGen (SoloStep (counterHost U request.url))
      ⟨.fetching, st.counters, st.proxy⟩
      ⟨.returned (ladder.fetchWithRotation W U request st).1,
        (ladder.fetchWithRotation W U request st).2.counters,
        (ladder.fetchWithRotation W U request st).2.proxy⟩ := by
  unfold FetchLadder.fetchWithRotation
  rcases hfetch : ladder.fetch W.toBackends U request st.env with ⟨e | page, env⟩
  · exact .single ⟨.error e, .ready, 0, none, rfl, rfl⟩
  · dsimp only
    have hstep : ∀ {p : Phase} (q : Phase) (counters : HostCounters) (entry : Option Milestone),
        p.isCooling = false →
        (∀ rotation, advance (counterHost U request.url) st.proxy.isSome ⟨.ok page, rotation, 0⟩
          st.counters p = some (q, counters, entry)) →
        SoloStep (counterHost U request.url) ⟨p, st.counters, st.proxy⟩
          ⟨q, counters, st.proxy⟩ := by
      intro p q counters entry hp hadv
      exact ⟨.ok page, .ready, 0, entry, hadv _, by simp [proxyAfter, hp]⟩
    unfold Antibot.decide
    rcases hdetect : detect page.fetch.html "" with p | _ | signal
    · exact .single (hstep _ _ none rfl fun _ ↦ by simp only [advance, hdetect])
    · exact .single (hstep _ _ none rfl fun _ ↦ by simp only [advance, hdetect, decideSignal])
    · refine .head (hstep (.blocked page) st.counters none rfl fun _ ↦ by
        simp only [advance, hdetect]) ?_
      simp only [decideSignal]
      by_cases hspent :
          maxRotationsPerHost ≤ (counterFor (counterHost U request.url) st.counters).rotations
      · simp only [hspent, ↓reduceIte]
        exact .single (hstep _ _ (some .failed) rfl fun _ ↦ by
          simp only [advance, hspent, ↓reduceIte])
      · simp only [hspent, ↓reduceIte]
        refine .head (hstep (.inBudget page) st.counters (some .kept) rfl fun _ ↦ by
          simp only [advance, hspent, ↓reduceIte]) ?_
        cases hagain : (counterFor (counterHost U request.url) st.counters).l1Attempted with
        | false =>
          refine .head (hstep .unmarked st.counters none rfl fun _ ↦ by
            simp only [advance, hagain, Bool.not_false, ↓reduceIte]) ?_
          refine .head (hstep .refetching _ (some .cleared) rfl fun _ ↦ rfl) (.single ?_)
          exact solo_refetch rfl rfl
        | true =>
          simp only [Bool.not_true, Bool.false_eq_true, ↓reduceIte]
          exact solo_rotateAndRetry { st with env := env } hagain

/-- A step of a call with its proxy is one of the call. -/
theorem SoloStep.alone {host : Str} {s t : SoloState} (h : SoloStep host s t) :
    t.proxy.isSome = s.proxy.isSome ∧
      AloneStep host s.proxy.isSome (s.phase, s.counters) (t.phase, t.counters) := by
  obtain ⟨page, child, nowUnixMs, entry, hadv, hproxy⟩ := h
  refine ⟨?_, _, entry, hadv⟩
  rw [hproxy, proxyAfter]
  split
  · exact Option.isSome_map
  · rfl

/-- A call that runs alone takes the steps of one call and returns its result. -/
theorem alone_fetchWithRotation (request : ScrapeRequest) (st : RotationState ω) :
    Relation.ReflTransGen (AloneStep (counterHost U request.url) st.proxy.isSome)
      (.fetching, st.counters)
      (.returned (ladder.fetchWithRotation W U request st).1,
        (ladder.fetchWithRotation W U request st).2.counters) := by
  have halone : ∀ {s t : SoloState},
      Relation.ReflTransGen (SoloStep (counterHost U request.url)) s t →
      t.proxy.isSome = s.proxy.isSome ∧
        Relation.ReflTransGen (AloneStep (counterHost U request.url) s.proxy.isSome)
          (s.phase, s.counters) (t.phase, t.counters) := by
    intro s t h
    induction h with
    | refl => exact ⟨rfl, .refl⟩
    | tail _ hlast ih =>
      obtain ⟨hsome, hstep⟩ := hlast.alone
      rw [ih.1] at hsome hstep
      exact ⟨hsome, ih.2.tail hstep⟩
  exact (halone (solo_fetchWithRotation request st)).2

private theorem run_of_alone {url : Str} {hasProxy : Bool} {p q : Phase × HostCounters}
    (h : Relation.ReflTransGen (AloneStep (counterHost U url) hasProxy) p q)
    (calls : List RotationCall) (log : List (Str × Milestone)) :
    ∃ labels log', RotationRun U ⟨p.2, calls ++ [⟨url, hasProxy, p.1⟩], log⟩ labels
      ⟨q.2, calls ++ [⟨url, hasProxy, q.1⟩], log'⟩ := by
  induction h with
  | refl => exact ⟨[], log, .nil⟩
  | @tail b c _ hlast ih =>
    obtain ⟨labels, log', hrun⟩ := ih
    obtain ⟨a, entry, hadv⟩ := hlast
    have hstep : rotationStep U ⟨b.2, calls ++ [⟨url, hasProxy, b.1⟩], log'⟩
        (.resume calls.length a) = some ⟨c.2, calls ++ [⟨url, hasProxy, c.1⟩],
          log' ++ entry.toList.map (counterHost U url, ·)⟩ := by
      simp only [rotationStep, List.getElem?_concat_length, Option.bind_some, hadv,
        Option.map_some, List.set_append_right _ _ (Nat.le_refl _), Nat.sub_self,
        List.set_cons_zero]
    exact ⟨_, _, hrun.snoc hstep⟩

/-- A call that runs alone is a run of the interleaved calls. -/
theorem run_fetchWithRotation (request : ScrapeRequest) (st : RotationState ω)
    (calls : List RotationCall) (log : List (Str × Milestone)) :
    ∃ labels log', RotationRun U ⟨st.counters, calls, log⟩ labels
      ⟨(ladder.fetchWithRotation W U request st).2.counters,
        calls ++ [⟨request.url, st.proxy.isSome,
          .returned (ladder.fetchWithRotation W U request st).1⟩], log'⟩ := by
  obtain ⟨labels, log', hrun⟩ := run_of_alone
    (q := (.returned (ladder.fetchWithRotation W U request st).1, _))
    (alone_fetchWithRotation request st) calls log
  have hcall : RotationRun U ⟨st.counters, calls, log⟩ [.call request.url st.proxy.isSome]
      ⟨st.counters, calls ++ [⟨request.url, st.proxy.isSome, .fetching⟩], log⟩ := .single rfl
  exact ⟨_, log', hcall.append hrun⟩

end Alone

end CrwShield.Fetch
