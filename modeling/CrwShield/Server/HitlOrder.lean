import CrwShield.Server.Verdicts

/-!
# When a human is asked

Runs of `handle_scrape` calls, `handlers.rs:869–1057`, with a proxy attached whose rotations
succeed. The rotation counters account for what the calls did. A call decides on its first page
only, with a detector that is not the one which asks for a human. So the ladder is behind the host
of a call that answers `HITL_REQUIRED` as long as the site meets `BlocksLift`: its blocks are seen
by both detectors, and lift after each rung that is not the last.
-/

open CrwShield.Base CrwShield.Base.Str CrwShield.Antibot CrwShield.Core CrwShield.Fetch

namespace CrwShield.Server

/-- Whether an event is a rotation for a host. -/
def isRotationOf (host : Str) : RotationEvent → Bool
  | .rotated h _ => h = host
  | _ => false

/-- Rotations performed for a host. -/
def rotationsOf (host : Str) (log : List RotationEvent) : Nat := log.countP (isRotationOf host)

/-- Cookies of the host were cleared, and not after a rotation for it. -/
def ClearedFirst (host : Str) (log : List RotationEvent) : Prop :=
  ∃ pre n post, log = pre ++ .cleared host n :: post ∧ rotationsOf host pre = 0

/-- The proxy has no further profile. -/
def ProfilesExhausted (proxy : Option TlsProxy) : Prop := ∀ p ∈ proxy, p.nextProfile = none

/-- The automatic ladder is behind the host: first L1, then the rotations allowed on a host or as
many as there are profiles. -/
def LadderExhausted (host : Str) (log : List RotationEvent) (proxy : Option TlsProxy) : Prop :=
  ∃ pre n post, log = pre ++ .cleared host n :: post ∧ rotationsOf host pre = 0 ∧
    (maxRotationsPerHost ≤ rotationsOf host post ∨ ProfilesExhausted proxy)

/-- No rung of the ladder is left for a host with such a counter: L1 was taken, and the rotations
allowed or the profiles are used up. -/
def Spent (c : HostBlockCounter) (proxy : Option TlsProxy) : Prop :=
  c.l1Attempted = true ∧ (maxRotationsPerHost ≤ c.rotations ∨ ProfilesExhausted proxy)

/-- Whether a call answered that a human is required. -/
def answersHitl : Except Panic (Except ErrorResponse ScrapeResponse) → Bool
  | .ok (.error err) => err.error = "HITL_REQUIRED"
  | _ => false

@[simp] theorem rotationsOf_append (host : Str) (xs ys : List RotationEvent) :
    rotationsOf host (xs ++ ys) = rotationsOf host xs + rotationsOf host ys :=
  List.countP_append

/-- More events leave the clearing first. -/
theorem ClearedFirst.append {host : Str} {log : List RotationEvent} (h : ClearedFirst host log)
    (events : List RotationEvent) : ClearedFirst host (log ++ events) := by
  obtain ⟨pre, n, post, rfl, hpre⟩ := h
  exact ⟨pre, n, post ++ events, by simp, hpre⟩

/-- With the clearing first, the rotations of the log all follow it. -/
theorem ClearedFirst.exhausted {host : Str} {log : List RotationEvent} {proxy : Option TlsProxy}
    (h : ClearedFirst host log)
    (hx : maxRotationsPerHost ≤ rotationsOf host log ∨ ProfilesExhausted proxy) :
    LadderExhausted host log proxy := by
  obtain ⟨pre, n, post, rfl, hpre⟩ := h
  refine ⟨pre, n, post, rfl, hpre, hx.imp_left fun hmax ↦ ?_⟩
  have hcons : rotationsOf host (RotationEvent.cleared host n :: post) = rotationsOf host post :=
    List.countP_cons_of_neg (by simp [isRotationOf])
  rwa [rotationsOf_append, hpre, hcons, Nat.zero_add] at hmax

/-- With the ladder behind the host, its rotations or its profiles are used up. -/
theorem LadderExhausted.spent {host : Str} {log : List RotationEvent} {proxy : Option TlsProxy}
    (h : LadderExhausted host log proxy) :
    maxRotationsPerHost ≤ rotationsOf host log ∨ ProfilesExhausted proxy := by
  obtain ⟨pre, n, post, rfl, -, hx⟩ := h
  refine hx.imp_left fun hmax ↦ Nat.le_trans hmax ?_
  have hsub : post.Sublist (pre ++ RotationEvent.cleared host n :: post) :=
    (List.sublist_cons_self _ post).trans (List.sublist_append_right pre _)
  exact hsub.countP_le

section Pages

universe u
variable {ω : Type u} (W : Machine ω) (U : UrlCrate) (ladder : FetchLadder)

/-- Where a call fetches again after L1: the cookies of the host are cleared and a second has
passed. -/
def clearedEnv (host : Str) (env : Env ω) : Env ω :=
  let jar := (env.jars ladder.cookies).clearForHostExceptHitl (W.now env.world 0) host
  let env := env.modifyJar ladder.cookies fun _ ↦ jar.1
  { env with world := W.sleep 1 env.world }

/-- Where a call fetches again after L2: the cooldown has passed and the proxy has rotated. -/
def rotatedEnv (proxy : TlsProxy) (env : Env ω) : Env ω :=
  { env with
    world := (FetchLadder.rotateProxy W proxy (W.sleep l2CooldownSecs env.world)).2 }

variable {W U ladder} {request : ScrapeRequest} {st : RotationState ω} {r : LadderResult}

private theorem fetch_of_refetch (h : (ladder.refetch W U request st).1 = .ok r) :
    (ladder.fetch W.toBackends U request st.env).1 = .ok r := by
  unfold FetchLadder.refetch at h
  dsimp only at h
  cases hout : (ladder.fetch W.toBackends U request st.env).1 with
  | error e =>
    rw [hout] at h
    exact absurd h (by simp [Except.mapError])
  | ok page =>
    rw [hout] at h
    exact congrArg Except.ok (Except.ok.inj h)

/-- The decision of a call is taken on its first page, and the page it returns is that one unless
a rung follows. -/
theorem page_of_decision (h : (ladder.fetchWithRotation W U request st).1 = .ok r) :
    ∃ page env signal, ladder.fetch W.toBackends U request st.env = (.ok page, env) ∧
      detect page.fetch.html "" = .ok signal ∧
      ladder.decisionFor W U request st = some (decideSignal signal
        (counterFor (counterHost U request.url) st.counters) 0 totalProfiles) ∧
      match decideSignal signal (counterFor (counterHost U request.url) st.counters) 0
        totalProfiles with
      | .accept | .fail _ _ => r = page
      | .clearAndRetry _ => (ladder.fetch W.toBackends U request
          (clearedEnv W ladder (counterHost U request.url) env)).1 = .ok r
      | .rotate _ i => (ladder.rotateAndRetry W U request (counterHost U request.url) i page
          { st with env := env }).1 = .ok r := by
  unfold FetchLadder.fetchWithRotation at h
  unfold FetchLadder.decisionFor
  rcases hfetch : ladder.fetch W.toBackends U request st.env with ⟨e | page, env⟩
  · rw [hfetch] at h
    exact absurd h (by simp)
  · rw [hfetch] at h
    dsimp only at h ⊢
    unfold Antibot.decide at h ⊢
    cases hdetect : detect page.fetch.html "" with
    | error p =>
      rw [hdetect] at h
      exact absurd h (by simp)
    | ok signal =>
      rw [hdetect] at h
      dsimp only at h ⊢
      refine ⟨page, env, signal, rfl, hdetect, ?_, ?_⟩
      · split <;> simp_all [Except.toOption]
      · cases hd : decideSignal signal (counterFor (counterHost U request.url) st.counters) 0
          totalProfiles with
        | accept =>
          rw [hd] at h
          exact (Except.ok.inj h).symm
        | clearAndRetry signal' =>
          rw [hd] at h
          exact fetch_of_refetch h
        | rotate signal' i =>
          rw [hd] at h
          exact h
        | fail signal' n =>
          rw [hd] at h
          exact (Except.ok.inj h).symm

/-- A rotation that succeeds is followed by a fetch. -/
theorem page_of_rotation {host : Str} {i : Nat} {page : LadderResult} {env : Env ω} {p : TlsProxy}
    {next : Str} (hproxy : st.proxy = some p) (hport : p.config.port.isSome = true)
    (hnext : p.nextProfile = some next) (hready : ∀ w, (W.startChild w).1 = .ready)
    (h : (ladder.rotateAndRetry W U request host i page { st with env := env }).1 = .ok r) :
    (ladder.fetch W.toBackends U request (rotatedEnv W p env)).1 = .ok r := by
  have hrotate : (FetchLadder.rotateProxy W p (W.sleep l2CooldownSecs env.world)).1 =
      (.ok (some next), { p with child := some next, currentProfile := next }) := by
    rw [← TlsProxy.rotate_ready hport hnext]
    simp [FetchLadder.rotateProxy, hnext, hready]
  unfold FetchLadder.rotateAndRetry at h
  dsimp only at h
  rw [hproxy] at h
  dsimp only at h
  rw [hrotate] at h
  exact fetch_of_refetch h

end Pages

section Runs

universe u

/-- The counters account for the log: rotations are counted, and none is performed for a host whose
cookies have not been cleared. -/
structure Accounted (st : Shared) : Prop where
  counted : ∀ h, (counterFor h st.counters).rotations = rotationsOf h st.log
  before : ∀ h, (counterFor h st.counters).l1Attempted = false → rotationsOf h st.log = 0
  after : ∀ h, (counterFor h st.counters).l1Attempted = true → ClearedFirst h st.log

/-- A proxy with a valid listen address is attached. -/
def Attached (proxy : Option TlsProxy) : Prop := ∃ p, proxy = some p ∧ p.config.port.isSome = true

/-- Fresh counters and an empty log agree. -/
theorem accounted_fresh {st : Shared} (hc : st.counters = ∅) (hl : st.log = []) :
    Accounted st := by
  have hnew : ∀ h, counterFor h st.counters = .new := by simp [hc, counterFor]
  refine ⟨fun h ↦ ?_, fun h _ ↦ ?_, fun h hone ↦ ?_⟩
  · rw [hnew, hl]
    rfl
  · rw [hl]
    rfl
  · rw [hnew] at hone
    exact absurd hone (by simp [HostBlockCounter.new])

/-- Events that are no rotations do not disturb the accounts of unchanged counters. -/
private theorem Accounted.log_append {st st' : Shared} (h : Accounted st)
    (hc : st'.counters = st.counters) {events : List RotationEvent}
    (hl : st'.log = st.log ++ events) (hno : ∀ h, rotationsOf h events = 0) : Accounted st' := by
  refine ⟨fun g ↦ ?_, fun g hg ↦ ?_, fun g hg ↦ ?_⟩
  · rw [hc, hl, rotationsOf_append, hno, h.counted g, Nat.add_zero]
  · rw [hc] at hg
    rw [hl, rotationsOf_append, hno, h.before g hg]
  · rw [hc] at hg
    rw [hl]
    exact (h.after g hg).append events

private theorem Accounted.cleared {st st' : Shared} {host : Str} {n : Nat}
    (h : Accounted st) (hfirst : (counterFor host st.counters).l1Attempted = false)
    (hc : st'.counters = updateCounter host .markL1Attempted st.counters)
    (hl : st'.log = st.log ++ [.cleared host n]) : Accounted st' := by
  have hno : ∀ g, rotationsOf g [RotationEvent.cleared host n] = 0 := fun g ↦ rfl
  refine ⟨fun g ↦ ?_, fun g hg ↦ ?_, fun g hg ↦ ?_⟩
  · rw [hc, hl, rotationsOf_append, hno, counterFor_updateCounter]
    split
    · next heq => rw [heq]; exact h.counted g
    · exact h.counted g
  · rw [hc, counterFor_updateCounter] at hg
    rw [hl, rotationsOf_append, hno]
    split at hg
    · exact absurd hg (by simp [HostBlockCounter.markL1Attempted])
    · exact h.before g hg
  · rw [hc, counterFor_updateCounter] at hg
    rw [hl]
    by_cases heq : host = g
    · subst heq
      exact ⟨st.log, n, [], rfl, h.before host hfirst⟩
    · rw [if_neg heq] at hg
      exact (h.after g hg).append _

private theorem Accounted.rotated {st st' : Shared} {host next : Str} {ms : Nat}
    (h : Accounted st) (hn : (counterFor host st.counters).rotations < maxRotationsPerHost)
    (hagain : (counterFor host st.counters).l1Attempted = true)
    (hc : st'.counters = updateCounter host (·.recordRotation ms) st.counters)
    (hl : st'.log = st.log ++ [.rotated host next]) : Accounted st' := by
  have hone : ∀ g, rotationsOf g [RotationEvent.rotated host next] = if host = g then 1 else 0 := by
    intro g
    by_cases heq : host = g <;> simp [rotationsOf, isRotationOf, heq]
  refine ⟨fun g ↦ ?_, fun g hg ↦ ?_, fun g hg ↦ ?_⟩
  · rw [hc, hl, rotationsOf_append, hone, counterFor_updateCounter]
    split
    · next heq =>
      subst heq
      have hsmall : (counterFor host st.counters).rotations + 1 < 2 ^ 64 := by
        unfold maxRotationsPerHost at hn
        omega
      simp only [HostBlockCounter.recordRotation]
      rw [Nat.mod_eq_of_lt hsmall, h.counted host]
    · exact h.counted g
  · rw [hc, counterFor_updateCounter] at hg
    rw [hl, rotationsOf_append, hone]
    by_cases heq : host = g
    · subst heq
      rw [if_pos rfl] at hg
      exact absurd (hg.symm.trans hagain) (by simp)
    · rw [if_neg heq] at hg ⊢
      exact h.before g hg
  · rw [hl]
    refine ClearedFirst.append (h.after g ?_) _
    rw [hc, counterFor_updateCounter] at hg
    split at hg
    · next heq => exact heq ▸ hg
    · exact hg

variable {ω : Type u} {W : Machine ω} {host : Str} {st st' : Shared} {d : Option RotationDecision}

/-- The effect of every decision keeps the accounts. -/
theorem Accounted.effect (h : Accounted st) (he : FetchLadder.Effect W host st st' d) :
    Accounted st' := by
  cases he with
  | undecided hc hp hl => exact h.log_append hc (hl.trans (List.append_nil _).symm) fun _ ↦ rfl
  | accepted hc hp hl => exact h.log_append hc (hl.trans (List.append_nil _).symm) fun _ ↦ rfl
  | spent hn hc hp hl => exact h.log_append hc hl fun _ ↦ rfl
  | cleared hn hfirst hc hp hl => exact h.cleared hfirst hc hl
  | noProxy hagain hproxy hc hp hl => exact h.log_append hc hl fun _ ↦ rfl
  | exhausted hagain hproxy hnext hc hp hl => exact h.log_append hc hl fun _ ↦ rfl
  | rotateFailed hagain hproxy hfail hc hp hl => exact h.log_append hc hl fun _ ↦ rfl
  | rotated hn hagain hproxy hnext hc hp hl => exact h.rotated hn hagain hc hl

/-- The proxy stays attached. -/
theorem Attached.effect (h : Attached st.proxy) (he : FetchLadder.Effect W host st st' d) :
    Attached st'.proxy := by
  obtain ⟨p, hp, hport⟩ := h
  cases he with
  | undecided hc hp' hl => exact ⟨p, hp'.trans hp, hport⟩
  | accepted hc hp' hl => exact ⟨p, hp'.trans hp, hport⟩
  | spent hn hc hp' hl => exact ⟨p, hp'.trans hp, hport⟩
  | cleared hn hfirst hc hp' hl => exact ⟨p, hp'.trans hp, hport⟩
  | noProxy hagain hproxy hc hp' hl => exact absurd (hp.symm.trans hproxy) (by simp)
  | exhausted hagain hproxy hnext hc hp' hl =>
    obtain rfl := Option.some.inj (hproxy.symm.trans hp)
    exact ⟨_, hp', hport⟩
  | rotateFailed hagain hproxy hfail hc hp' hl =>
    obtain rfl := Option.some.inj (hproxy.symm.trans hp)
    exact ⟨_, hp', hport⟩
  | rotated hn hagain hproxy hnext hc hp' hl =>
    obtain rfl := Option.some.inj (hproxy.symm.trans hp)
    exact ⟨_, hp', hport⟩

variable (H : Host ω) (U : UrlCrate) (cdpEnabled : Bool) (ladder : FetchLadder)

/-- One call of `handle_scrape`, with its answer. -/
def Scrapes (st : RotationState ω)
    (call : ScrapeRequest × Except Panic (Except ErrorResponse ScrapeResponse))
    (st' : RotationState ω) : Prop :=
  handleScrape H U cdpEnabled ladder call.1 st = (call.2, st')

/-- What the site answers to a call for whose host the ladder is not spent. A first page that is
diagnosed as a block is detected as one; what follows L1 is diagnosed as a block only where the
proxy has no next profile, and what follows a rotation only where it was the third of the host or
the proxy has no profile after the new one. -/
structure BlocksLift (st : RotationState ω) (req : ScrapeRequest) : Prop where
  seen : ∀ page env, ladder.fetch H.toBackends U req (waited H st).env = (.ok page, env) →
    page.situation.isAntiBot = true → Detected page.fetch.html "" ∨
      Spent (counterFor (counterHost U req.url) st.counters) st.proxy
  afterL1 : ∀ page env r, ladder.fetch H.toBackends U req (waited H st).env = (.ok page, env) →
    Detected page.fetch.html "" →
    (counterFor (counterHost U req.url) st.counters).l1Attempted = false →
    (ladder.fetch H.toBackends U req
      (clearedEnv H.toMachine ladder (counterHost U req.url) env)).1 = .ok r →
    r.situation.isAntiBot = true → ProfilesExhausted st.proxy
  afterL2 : ∀ page env p next r,
    ladder.fetch H.toBackends U req (waited H st).env = (.ok page, env) →
    Detected page.fetch.html "" →
    (counterFor (counterHost U req.url) st.counters).l1Attempted = true →
    st.proxy = some p → p.nextProfile = some next →
    (ladder.fetch H.toBackends U req (rotatedEnv H.toMachine p env)).1 = .ok r →
    r.situation.isAntiBot = true →
    maxRotationsPerHost ≤ (counterFor (counterHost U req.url) st.counters).rotations + 1 ∨
      successor p.config.profiles next = none

/-- Calls that the site answers so. -/
abbrev LiftedScrapes :=
  Guarded (fun st call ↦ BlocksLift H U ladder st call.1) (Scrapes H U cdpEnabled ladder)

variable {H U cdpEnabled ladder}

/-- The codes of the fetch layer do not ask for a human. -/
private theorem not_answersHitl_new {code message : Str} (h : code ∈ CrwError.codes) :
    answersHitl (.ok (.error (.new code message))) = false := by
  have hall : ∀ c ∈ CrwError.codes,
      (if (trim c).isEmpty then ("unspecified" : Str) else c) ≠ "HITL_REQUIRED" := by
    decide
  exact decide_eq_false (hall code h)

/-- Answering leaves the shared state alone. -/
private theorem shared_respond (H : Host ω) (cdpEnabled : Bool)
    (fetched : Except Failure LadderResult × RotationState ω) (req : ScrapeRequest) :
    (respond H cdpEnabled req fetched).2.toShared = fetched.2.toShared := by
  unfold respond
  split <;> rfl

/-- Only a block answers that a human is required. -/
private theorem antiBot_of_answersHitl {req : ScrapeRequest}
    {fetched : Except Failure LadderResult × RotationState ω}
    (h : answersHitl (respond H cdpEnabled req fetched).1 = true) :
    ∃ r, fetched.1 = .ok r ∧ r.situation.isAntiBot = true := by
  obtain ⟨out, st⟩ := fetched
  rcases out with (e | p) | r
  · exact absurd h (by simp only [respond, not_answersHitl_new e.code_mem]; simp)
  · exact absurd h (by simp [respond, answersHitl])
  · refine ⟨r, rfl, ?_⟩
    by_contra hclean
    have hreq : hitlRequest req.url r.situation = none := by
      rw [← Option.not_isSome_iff_eq_none, isSome_hitlRequest]
      exact hclean
    simp only [respond, answerResult, hreq, answerPage] at h
    split at h
    · exact absurd h (by rw [challengeDetected, not_answersHitl_new (by decide)]; simp)
    · exact absurd h (by simp [answersHitl])

/-- A call has the effect of the decision it takes, and asks for a human only for a block. -/
private theorem effect_of_scrapes {st st' : RotationState ω}
    {call : ScrapeRequest × Except Panic (Except ErrorResponse ScrapeResponse)}
    (h : Scrapes H U cdpEnabled ladder st call st') :
    (∃ d, FetchLadder.Effect H.toMachine (counterHost U call.1.url) st.toShared st'.toShared d) ∧
    (answersHitl call.2 = true →
      (∃ r, (ladder.fetchWithRotation H.toMachine U call.1 (waited H st)).1 = .ok r ∧
        r.situation.isAntiBot = true) ∧
      FetchLadder.Effect H.toMachine (counterHost U call.1.url) st.toShared st'.toShared
        (ladder.decisionFor H.toMachine U call.1 (waited H st))) := by
  obtain ⟨req, answer⟩ := call
  unfold Scrapes handleScrape at h
  split at h
  · obtain ⟨rfl, rfl⟩ := Prod.mk.inj h
    refine ⟨⟨none, .undecided rfl rfl rfl⟩, fun hans ↦ ?_⟩
    exact absurd hans (by rw [not_answersHitl_new (by decide)]; simp)
  · have he := ladder.effect_fetchWithRotation H.toMachine U req (waited H st)
    rw [← shared_respond H cdpEnabled _ req, h] at he
    refine ⟨⟨_, he⟩, fun hans ↦ ⟨?_, he⟩⟩
    have hanswer : answersHitl (respond H cdpEnabled req
        (ladder.fetchWithRotation H.toMachine U req (waited H st))).1 = true := by
      rw [h]
      exact hans
    exact antiBot_of_answersHitl hanswer

/-- A signal is never accepted. -/
private theorem decideSignal_ne_accept {signal : BlockSignal} {c : HostBlockCounter} {i n : Nat} :
    decideSignal (some signal) c i n ≠ .accept := by
  unfold decideSignal
  dsimp only
  split
  · simp
  · split <;> simp

/-- What is not accepted has a signal. -/
private theorem block_of_decideSignal {signal : Option BlockSignal} {c : HostBlockCounter}
    {i n : Nat} {d : RotationDecision} (hd : decideSignal signal c i n = d) (hne : d ≠ .accept) :
    ∃ s, signal = some s := by
  cases signal with
  | none => exact absurd hd.symm hne
  | some s => exact ⟨s, rfl⟩

/-- A host with rotations has been cleared first. -/
private theorem Accounted.clearedFirst {st : Shared} (h : Accounted st) {host : Str}
    (hn : 0 < (counterFor host st.counters).rotations) : ClearedFirst host st.log := by
  cases hone : (counterFor host st.counters).l1Attempted with
  | true => exact h.after host hone
  | false =>
    have hzero := h.before host hone
    rw [h.counted host] at hn
    omega

/-- A call that the site answers so and that asks for a human has the ladder behind it. -/
private theorem exhausted_of_answersHitl {st st' : RotationState ω}
    {call : ScrapeRequest × Except Panic (Except ErrorResponse ScrapeResponse)}
    (hacc : Accounted st.toShared) (hatt : Attached st.proxy)
    (hready : ∀ w, (H.startChild w).1 = .ready)
    (hstep : LiftedScrapes H U cdpEnabled ladder st call st')
    (hans : answersHitl call.2 = true) :
    LadderExhausted (counterHost U call.1.url) st'.log st'.proxy := by
  obtain ⟨⟨r, hr, hblock⟩, he⟩ := (effect_of_scrapes hstep.2).2 hans
  have hacc' := hacc.effect he
  obtain ⟨page, env, signal, hfetch, hdetect, hdecision, hpage⟩ := page_of_decision hr
  obtain ⟨hseen, hafterL1, hafterL2⟩ := hstep.1
  obtain ⟨p, hproxy, hport⟩ := hatt
  rw [hdecision] at he
  have hdetected : ∀ s, signal = some s → Detected page.fetch.html "" :=
    fun s hs ↦ ⟨s, hs ▸ hdetect⟩
  generalize hd : decideSignal signal (counterFor (counterHost U call.1.url) (waited H st).counters)
    0 totalProfiles = d at he hpage
  cases he with
  | accepted hc hp hl =>
    -- the first page is returned although it is diagnosed as a block
    obtain rfl := hpage
    have hmissed : ¬ Detected r.fetch.html "" := by
      rintro ⟨s, hs⟩
      obtain rfl := Except.ok.inj (hdetect.symm.trans hs)
      exact decideSignal_ne_accept hd
    obtain ⟨hone, hmax⟩ := (hseen r env hfetch hblock).resolve_left hmissed
    rw [hl, hp]
    exact (hacc.after _ hone).exhausted (hmax.imp_left fun h ↦ hacc.counted _ ▸ h)
  | spent hn hc hp hl =>
    rw [← hc] at hn
    have hpos := Nat.lt_of_lt_of_le (by decide : 0 < maxRotationsPerHost) hn
    exact (hacc'.clearedFirst hpos).exhausted (.inl (hacc'.counted _ ▸ hn))
  | cleared hn hfirst hc hp hl =>
    rw [hl, hp]
    obtain ⟨s, hs⟩ := block_of_decideSignal hd (by simp)
    have hexhausted := hafterL1 page env r hfetch (hdetected s hs) hfirst hpage hblock
    exact ⟨st.log, _, [], rfl, hacc.before _ hfirst, .inr hexhausted⟩
  | noProxy hagain hnone hc hp hl => exact absurd (hproxy.symm.trans hnone) (by simp)
  | exhausted hagain hsome hnext hc hp hl =>
    rw [← hc] at hagain
    refine (hacc'.after _ hagain).exhausted (.inr fun q hq ↦ ?_)
    obtain rfl := Option.some.inj (hp.symm.trans hq)
    exact hnext
  | @rotateFailed _ _ q e w hagain hsome hfail hc hp hl =>
    -- a child that comes up on a valid port is no failure
    obtain rfl := Option.some.inj (hsome.symm.trans hproxy)
    rw [hready] at hfail
    cases hnext : q.nextProfile with
    | none => simp [TlsProxy.rotate, hnext] at hfail
    | some next => simp [TlsProxy.rotate_ready hport hnext] at hfail
  | @rotated _ _ q next ms hn hagain hsome hnext hc hp hl =>
    obtain rfl := Option.some.inj (hsome.symm.trans hproxy)
    have hone : ClearedFirst (counterHost U call.1.url) st'.log := by
      rw [hl]
      exact (hacc.after _ hagain).append _
    obtain ⟨s, hs⟩ := block_of_decideSignal hd (by simp)
    have hlast := hafterL2 page env q next r hfetch (hdetected s hs) hagain hsome hnext
      (page_of_rotation hsome hport hnext hready hpage) hblock
    refine hone.exhausted (hlast.imp (fun hmax ↦ ?_) fun hlast p' hp' ↦ ?_)
    · rw [hacc.counted] at hmax
      rw [hl, rotationsOf_append]
      simpa [rotationsOf, isRotationOf] using hmax
    · obtain rfl := Option.some.inj (hp.symm.trans hp')
      exact hlast

/-- In every run of calls from fresh counters, with a proxy attached whose rotations succeed and a
site that meets the condition, a call asks for a human only once L1 and then the rotations allowed,
or as many as there are profiles, have been performed for its host. -/
theorem hitl_after_ladder {st₀ st st' : RotationState ω}
    {calls : List (ScrapeRequest × Except Panic (Except ErrorResponse ScrapeResponse))}
    {call : ScrapeRequest × Except Panic (Except ErrorResponse ScrapeResponse)}
    (hcounters : st₀.counters = ∅) (hlog : st₀.log = []) (hproxy : Attached st₀.proxy)
    (hready : ∀ w, (H.startChild w).1 = .ready)
    (hrun : Run (LiftedScrapes H U cdpEnabled ladder) st₀ calls st)
    (hstep : LiftedScrapes H U cdpEnabled ladder st call st')
    (hans : answersHitl call.2 = true) :
    LadderExhausted (counterHost U call.1.url) st'.log st'.proxy := by
  have hinv : Accounted st.toShared ∧ Attached st.proxy := by
    refine hrun.invariant (I := fun st ↦ Accounted st.toShared ∧ Attached st.proxy) ?_
      ⟨accounted_fresh hcounters hlog, hproxy⟩
    rintro s call t ⟨hacc, hatt⟩ hst
    obtain ⟨d, he⟩ := (effect_of_scrapes hst.2).1
    exact ⟨hacc.effect he, hatt.effect he⟩
  exact exhausted_of_answersHitl hinv.1 hinv.2 hready hstep hans

end Runs

/-- A page that both detectors take for a block. -/
def datadomePage : FetchResult where
  url := "https://example.com/"
  finalUrl := "https://example.com/"
  statusCode := 403
  html := "datadome"
  headers := [("x-datadome", "protected")]

/-- A server without a browser whose site always serves the block page. -/
def blockedHost : Host Unit := fixedHost (.ok datadomePage) (.ok solvedPage) (.ok ())

/-- A process that has just started its proxy on `chrome_120`, with further profiles to try. -/
def freshState (rest : List Str) : RotationState Unit where
  counters := ∅
  proxy := some
    { config :=
        { binary := "/usr/local/bin/tls-impersonate-proxy"
          listen := "127.0.0.1:7890"
          profile := "chrome_120"
          profiles := "chrome_120" :: rest
          rotationDelay := 15
          caDir := "/var/lib/crw-shield/tls-ca"
          bypass := "localhost,127.0.0.1,::1"
          timeout := 60 }
      child := some "chrome_120"
      currentProfile := "chrome_120" }
  log := []
  env := ⟨fun _ ↦ .new, ()⟩

/-- A ladder without a browser. -/
def httpLadder : FetchLadder := .new ⟨0, true⟩ none none

/-- The first call of such a process. -/
def firstCall (rest : List Str) :
    Except Panic (Except ErrorResponse ScrapeResponse) × RotationState Unit :=
  handleScrape blockedHost .plain false httpLadder (.defaultForUrl "https://example.com/")
    (freshState rest)

private theorem scrapes_handleScrape {ω : Type u} (H : Host ω) (U : UrlCrate) (cdpEnabled : Bool)
    (ladder : FetchLadder) (request : ScrapeRequest) (st : RotationState ω) :
    Scrapes H U cdpEnabled ladder st
      (request, (handleScrape H U cdpEnabled ladder request st).1)
      (handleScrape H U cdpEnabled ladder request st).2 :=
  rfl

private theorem scrapes_firstCall (rest : List Str) :
    Scrapes blockedHost .plain false httpLadder (freshState rest)
      (.defaultForUrl "https://example.com/", (firstCall rest).1) (firstCall rest).2 := by
  exact scrapes_handleScrape blockedHost .plain false httpLadder _ _

/-- With a single profile, the first call clears the cookies, finds no profile left after its retry
and asks for a human. -/
theorem hitl_after_ladder_singleProfile :
    LadderExhausted (counterHost .plain "https://example.com/") (firstCall []).2.log
      (firstCall []).2.proxy := by
  have hexhausted : ProfilesExhausted (freshState []).proxy := by
    rintro p hp
    obtain rfl := Option.some.inj hp
    decide
  have hcall : answersHitl (firstCall []).1 = true := by decide
  have hlift : BlocksLift blockedHost .plain httpLadder (freshState [])
      (.defaultForUrl "https://example.com/") := by
    refine ⟨fun page env hfetch _ ↦ .inl ?_, fun _ _ _ _ _ _ _ _ ↦ hexhausted,
      fun _ _ _ _ _ _ _ hagain ↦ absurd hagain (by decide)⟩
    have hhtml : (httpLadder.fetch blockedHost.toBackends .plain
        (.defaultForUrl "https://example.com/") (waited blockedHost (freshState [])).env).1.map
          (·.fetch.html) = .ok datadomePage.html := by
      decide
    rw [hfetch] at hhtml
    have hpage : page.fetch.html = datadomePage.html := Except.ok.inj hhtml
    rw [hpage]
    exact ⟨⟨.datadome, 70, "body contains \"datadome\""⟩, by decide⟩
  exact @hitl_after_ladder Unit blockedHost .plain false httpLadder (freshState []) (freshState [])
    (firstCall []).2 [] (.defaultForUrl "https://example.com/", (firstCall []).1) rfl rfl
    ⟨_, rfl, by decide⟩ (fun _ ↦ rfl) .nil ⟨hlift, scrapes_firstCall []⟩ hcall

/-- With a second profile, the first call asks for a human before any rotation. -/
theorem not_hitl_after_ladder_firstCall :
    ¬ ∀ (H : Host Unit) (U : UrlCrate) (cdpEnabled : Bool) (ladder : FetchLadder)
      (st₀ st st' : RotationState Unit)
      (calls : List (ScrapeRequest × Except Panic (Except ErrorResponse ScrapeResponse)))
      (call : ScrapeRequest × Except Panic (Except ErrorResponse ScrapeResponse)),
      st₀.counters = ∅ → st₀.log = [] → Attached st₀.proxy →
      (∀ w, (H.startChild w).1 = .ready) → Run (Scrapes H U cdpEnabled ladder) st₀ calls st →
      Scrapes H U cdpEnabled ladder st call st' → answersHitl call.2 = true →
      LadderExhausted (counterHost U call.1.url) st'.log st'.proxy := by
  intro hall
  have hcall : answersHitl (firstCall ["chrome_117"]).1 = true ∧
      rotationsOf (counterHost .plain "https://example.com/")
        (firstCall ["chrome_117"]).2.log = 0 ∧
      ((firstCall ["chrome_117"]).2.proxy.any fun p ↦ p.nextProfile.isSome) = true := by
    decide
  have hexhausted := hall blockedHost .plain false httpLadder
    (freshState ["chrome_117"]) (freshState ["chrome_117"]) (firstCall ["chrome_117"]).2 []
    (.defaultForUrl "https://example.com/", (firstCall ["chrome_117"]).1) rfl rfl
    ⟨_, rfl, by decide⟩ (fun _ ↦ rfl) .nil (scrapes_firstCall _) hcall.1
  rcases hexhausted.spent with hmax | hnext
  · exact absurd hmax (hcall.2.1 ▸ by decide)
  · obtain ⟨p, hp, hsome⟩ := (Option.any_eq_true _ _).mp hcall.2.2
    rw [hnext p hp] at hsome
    exact absurd hsome (by simp)

end CrwShield.Server
