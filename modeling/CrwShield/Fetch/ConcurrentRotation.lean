import CrwShield.Base.Processes
import CrwShield.Fetch.TlsProxy
import Mathlib.Data.List.Nodup

/-!
# Concurrent rotations of the TLS proxy

Crate `fetch`, `src/crates/fetch/src/tls_proxy.rs:322–458`: any number of calls of `rotate` on one
proxy, taken apart at their lock acquisitions and awaits. The children are processes that want the
listen port; a dropped child is killed.
-/

open CrwShield.Base CrwShield.Base.Str CrwShield.Core

namespace CrwShield.Fetch

/-- Where a call of `rotate` is; `tls_proxy.rs:381–458`. -/
inductive RotateCall where
  | idle
  /-- The next profile is known. -/
  | chosen (next : Str)
  /-- The old child is taken, and its end awaited under the lock. -/
  | reaping (old : ℕ) (next : Str)
  | cleared (next : Str)
  /-- The new child is started; the top of the readiness loop. -/
  | polling (pid : ℕ) (next : Str)
  /-- The connection failed. -/
  | unreached (pid : ℕ) (next : Str)
  /-- The connection succeeded. -/
  | ready (pid : ℕ) (next : Str)
  /-- The new child is in the slot. -/
  | stored (next : Str)
  | returned (answer : Except CrwError (Option Str))

/-- The profile a call under way is rotating to. -/
def RotateCall.heading : RotateCall → Option Str
  | .chosen next | .reaping _ next | .cleared next | .polling _ next | .unreached _ next
  | .ready _ next | .stored next => some next
  | .idle | .returned _ => none

/-- The profile of the child that a call under way has started. -/
def RotateCall.started : RotateCall → Option Str
  | .polling _ next | .unreached _ next | .ready _ next | .stored next => some next
  | _ => none

/-- A proxy with its children and its calls. -/
structure SharedProxy where
  procs : Processes Str
  /-- The child slot. -/
  child : Option ℕ
  /-- The call that holds the lock of the slot across an await. -/
  childLock : Option ℕ
  currentProfile : Str
  calls : ℕ → RotateCall
  /-- The children started by the calls, oldest first. -/
  starts : List (ℕ × Str)

/-- A call takes its next step, or a child does. -/
inductive RotateEvent where
  | readProfile (call : ℕ)
  | takeChild (call : ℕ)
  | reap (call : ℕ)
  | spawn (call : ℕ)
  | spawnFails (call : ℕ) (error : Str)
  | connect (call : ℕ)
  | tryWait (call : ℕ) (status : Str)
  | timeout (call : ℕ)
  | storeChild (call : ℕ)
  | updateProfile (call : ℕ)
  /-- A child asks for the port. -/
  | bindPort (pid : ℕ)
  /-- A child that does not have the port exits. -/
  | exit (pid : ℕ)

/-- The call that takes the step. -/
def RotateEvent.call : RotateEvent → Option ℕ
  | .readProfile n | .takeChild n | .reap n | .spawn n | .spawnFails n _ | .connect n
  | .tryWait n _ | .timeout n | .storeChild n | .updateProfile n => some n
  | .bindPort _ | .exit _ => none

/-- The answer of a call whose child comes to this. -/
def rotateAnswer (config : TlsProxyConfig) (next : Str) (outcome : ChildOutcome) :
    Except CrwError (Option Str) :=
  (TlsProxy.startChild config (" (profile=" ++ next ++ ")") outcome).map fun _ ↦ some next

/-- A call is somewhere else. -/
def SharedProxy.moves (s : SharedProxy) (n : ℕ) (call : RotateCall) : SharedProxy :=
  { s with calls := Function.update s.calls n call }

/-- Storing a child drops the one in the slot. -/
def SharedProxy.dropChild (s : SharedProxy) : Processes Str :=
  match s.child with
  | some old => s.procs.kill old
  | none => s.procs

/-- One step of a call or of a child; `tls_proxy.rs:355–365`, `381–458`. -/
def rotateStep (config : TlsProxyConfig) (s : SharedProxy) : RotateEvent → Option SharedProxy
  | .readProfile n =>
    match s.calls n with
    | .idle =>
      match successor config.profiles s.currentProfile with
      | none => some (s.moves n (.returned (.ok none)))
      | some next => some (s.moves n (.chosen next))
    | _ => none
  | .takeChild n =>
    match s.calls n, s.childLock with
    | .chosen next, none =>
      match s.child with
      | some old =>
        some ({ s with child := none, childLock := some n }.moves n (.reaping old next))
      | none => some (s.moves n (.cleared next))
    | _, _ => none
  | .reap n =>
    match s.calls n with
    | .reaping old next =>
      some ({ s with procs := s.procs.kill old, childLock := none }.moves n (.cleared next))
    | _ => none
  | .spawn n =>
    match s.calls n with
    | .cleared next =>
      match rotateAnswer config next .ready with
      | .error e => some (s.moves n (.returned (.error e)))
      | .ok _ =>
        some ({ s with
          procs := (s.procs.start next).2
          starts := s.starts ++ [(n, next)] }.moves n (.polling (s.procs.start next).1 next))
    | _ => none
  | .spawnFails n error =>
    match s.calls n with
    | .cleared next => some (s.moves n (.returned (rotateAnswer config next (.spawnFailed error))))
    | _ => none
  | .connect n =>
    match s.calls n with
    | .polling pid next =>
      if s.procs.owner.isSome then some (s.moves n (.ready pid next))
      else some (s.moves n (.unreached pid next))
    | _ => none
  | .tryWait n status =>
    match s.calls n with
    | .unreached pid next =>
      match s.procs.live pid with
      | some _ => some (s.moves n (.polling pid next))
      | none => some (s.moves n (.returned (rotateAnswer config next (.exited status))))
    | _ => none
  | .timeout n =>
    match s.calls n with
    | .polling pid next =>
      some ({ s with procs := s.procs.kill pid }.moves n
        (.returned (rotateAnswer config next .notReady)))
    | _ => none
  | .storeChild n =>
    match s.calls n, s.childLock with
    | .ready pid next, none =>
      some ({ s with procs := s.dropChild, child := some pid }.moves n (.stored next))
    | _, _ => none
  | .updateProfile n =>
    match s.calls n with
    | .stored next =>
      some ({ s with currentProfile := next }.moves n (.returned (.ok (some next))))
    | _ => none
  | .bindPort pid =>
    if (s.procs.live pid).isSome then some { s with procs := s.procs.bind pid } else none
  | .exit pid =>
    if (s.procs.live pid).isSome ∧ s.procs.owner ≠ some pid then
      some { s with procs := s.procs.kill pid }
    else none

/-- A proxy whose child serves the current profile, without calls. -/
structure ProxyStart (s : SharedProxy) : Prop where
  sound : s.procs.Sound
  slot : ∃ pid, s.child = some pid ∧ s.procs.Serves pid s.currentProfile ∧
    s.procs.Alone pid s.currentProfile
  unlocked : s.childLock = none
  idle : ∀ n, s.calls n = .idle
  none_started : s.starts = []

/-- Every call made has returned `Ok`. -/
def AllOk (s : SharedProxy) : Prop :=
  ∀ n, s.calls n = .idle ∨ ∃ answer, s.calls n = .returned (.ok answer)

/-- The slot holds a live child that serves the current profile, and the calls have taken the steps
along the ladder: in order, none twice, none skipped, each by exactly one of them. -/
structure LadderShared (config : TlsProxyConfig) (initial : Str) (s : SharedProxy) : Prop where
  serves : ∃ pid, s.child = some pid ∧ s.procs.Serves pid s.currentProfile
  inOrder : (initial :: s.starts.map Prod.snd) <+: config.profiles
  once : (initial :: s.starts.map Prod.snd).Nodup
  taken : ∀ p ∈ s.starts.map Prod.snd, ∃! n, s.calls n = .returned (.ok (some p))
  answered : ∀ n p, s.calls n = .returned (.ok (some p)) → p ∈ s.starts.map Prod.snd

/-- A call reads the current profile while no other is under way. -/
def InTurn (s : SharedProxy) : RotateEvent → Prop
  | .readProfile _ => ∀ m, (s.calls m).heading = none
  | _ => True

/-- A call that was made is under way, and then returns. -/
inductive CallStep : RotateCall → RotateCall → Prop
  | exhausted : CallStep .idle (.returned (.ok none))
  | chooses (next : Str) : CallStep .idle (.chosen next)
  | heads {call call' : RotateCall} {next : Str} (h : call.heading = some next)
      (h' : call'.heading = some next) : CallStep call call'
  | answers {call : RotateCall} {next : Str} (h : call.heading = some next) :
      CallStep call (.returned (.ok (some next)))
  | fails {call : RotateCall} {next : Str} (e : CrwError) (h : call.heading = some next) :
      CallStep call (.returned (.error e))

/-- What a step can do: the state it finds the call in, and the one it leaves. -/
inductive RotateMove (config : TlsProxyConfig) (s : SharedProxy) :
    RotateEvent → SharedProxy → Prop
  | exhausted {n : ℕ} (hn : s.calls n = .idle)
      (hnext : successor config.profiles s.currentProfile = none) :
      RotateMove config s (.readProfile n) (s.moves n (.returned (.ok none)))
  | chooses {n : ℕ} {next : Str} (hn : s.calls n = .idle)
      (hnext : successor config.profiles s.currentProfile = some next) :
      RotateMove config s (.readProfile n) (s.moves n (.chosen next))
  | takes {n old : ℕ} {next : Str} (hn : s.calls n = .chosen next) (hchild : s.child = some old) :
      RotateMove config s (.takeChild n)
        ({ s with child := none, childLock := some n }.moves n (.reaping old next))
  | findsNone {n : ℕ} {next : Str} (hn : s.calls n = .chosen next) (hchild : s.child = none) :
      RotateMove config s (.takeChild n) (s.moves n (.cleared next))
  | reaps {n old : ℕ} {next : Str} (hn : s.calls n = .reaping old next) :
      RotateMove config s (.reap n)
        ({ s with procs := s.procs.kill old, childLock := none }.moves n (.cleared next))
  | malformed {n : ℕ} {next : Str} (e : CrwError) (hn : s.calls n = .cleared next) :
      RotateMove config s (.spawn n) (s.moves n (.returned (.error e)))
  | starts {n : ℕ} {next : Str} (hn : s.calls n = .cleared next) :
      RotateMove config s (.spawn n)
        ({ s with
          procs := (s.procs.start next).2
          starts := s.starts ++ [(n, next)] }.moves n (.polling (s.procs.start next).1 next))
  | spawnFails {n : ℕ} {next : Str} (error : Str) (hn : s.calls n = .cleared next) :
      RotateMove config s (.spawnFails n error)
        (s.moves n (.returned (rotateAnswer config next (.spawnFailed error))))
  | reaches {n pid : ℕ} {next : Str} (hn : s.calls n = .polling pid next)
      (howner : s.procs.owner.isSome) :
      RotateMove config s (.connect n) (s.moves n (.ready pid next))
  | misses {n pid : ℕ} {next : Str} (hn : s.calls n = .polling pid next) :
      RotateMove config s (.connect n) (s.moves n (.unreached pid next))
  | waits {n pid : ℕ} {next : Str} (status : Str) (hn : s.calls n = .unreached pid next) :
      RotateMove config s (.tryWait n status) (s.moves n (.polling pid next))
  | exited {n pid : ℕ} {next : Str} (status : Str) (hn : s.calls n = .unreached pid next) :
      RotateMove config s (.tryWait n status)
        (s.moves n (.returned (rotateAnswer config next (.exited status))))
  | timesOut {n pid : ℕ} {next : Str} (hn : s.calls n = .polling pid next) :
      RotateMove config s (.timeout n)
        ({ s with procs := s.procs.kill pid }.moves n
          (.returned (rotateAnswer config next .notReady)))
  | stores {n pid : ℕ} {next : Str} (hn : s.calls n = .ready pid next) :
      RotateMove config s (.storeChild n)
        ({ s with procs := s.dropChild, child := some pid }.moves n (.stored next))
  | updates {n : ℕ} {next : Str} (hn : s.calls n = .stored next) :
      RotateMove config s (.updateProfile n)
        ({ s with currentProfile := next }.moves n (.returned (.ok (some next))))
  | binds {pid : ℕ} (hlive : (s.procs.live pid).isSome) :
      RotateMove config s (.bindPort pid) { s with procs := s.procs.bind pid }
  | exits {pid : ℕ} (hlive : (s.procs.live pid).isSome) (howner : s.procs.owner ≠ some pid) :
      RotateMove config s (.exit pid) { s with procs := s.procs.kill pid }

/-- A child that does not come up is an error. -/
theorem rotateAnswer_error (config : TlsProxyConfig) (next : Str) {outcome : ChildOutcome}
    (h : outcome ≠ .ready) : ∃ e, rotateAnswer config next outcome = .error e := by
  unfold rotateAnswer TlsProxy.startChild
  cases outcome with
  | ready => exact absurd rfl h
  | spawnFailed error => exact ⟨_, rfl⟩
  | notReady => cases config.port <;> exact ⟨_, rfl⟩
  | exited status => cases config.port <;> exact ⟨_, rfl⟩

section Calls

variable {config : TlsProxyConfig} {initial : Str} {s t : SharedProxy}

@[simp] theorem moves_self (s : SharedProxy) (n : ℕ) (call : RotateCall) :
    (s.moves n call).calls n = call := Function.update_self _ _ _

theorem moves_of_ne (s : SharedProxy) {n m : ℕ} (call : RotateCall) (h : m ≠ n) :
    (s.moves n call).calls m = s.calls m := Function.update_of_ne h _ _

/-- A moved call takes the step, and the others none. -/
theorem callStep_moves {n : ℕ} {call : RotateCall} (h : CallStep (s.calls n) call)
    (hcalls : t.calls = (s.moves n call).calls) (m : ℕ) :
    t.calls m = s.calls m ∨ some n = some m ∧ CallStep (s.calls m) (t.calls m) := by
  rw [hcalls]
  by_cases hm : m = n
  · subst hm
    rw [moves_self]
    exact .inr ⟨rfl, h⟩
  · rw [moves_of_ne s call hm]
    exact .inl rfl

/-- Every step is one of these moves. -/
theorem rotateMove_of_step {e : RotateEvent} (h : rotateStep config s e = some t) :
    RotateMove config s e t := by
  cases e with
  | readProfile n =>
    simp only [rotateStep] at h
    split at h
    · next hn =>
      split at h
      · next hnext =>
        obtain rfl := Option.some.inj h
        exact .exhausted hn hnext
      · next next hnext =>
        obtain rfl := Option.some.inj h
        exact .chooses hn hnext
    · exact absurd h (by simp)
  | takeChild n =>
    simp only [rotateStep] at h
    split at h
    · next hn _ =>
      split at h
      · next old hchild =>
        obtain rfl := Option.some.inj h
        exact .takes hn hchild
      · next hchild =>
        obtain rfl := Option.some.inj h
        exact .findsNone hn hchild
    · exact absurd h (by simp)
  | reap n =>
    simp only [rotateStep] at h
    split at h
    · next hn =>
      obtain rfl := Option.some.inj h
      exact .reaps hn
    · exact absurd h (by simp)
  | spawn n =>
    simp only [rotateStep] at h
    split at h
    · next hn =>
      split at h
      · next e _ =>
        obtain rfl := Option.some.inj h
        exact .malformed e hn
      · obtain rfl := Option.some.inj h
        exact .starts hn
    · exact absurd h (by simp)
  | spawnFails n error =>
    simp only [rotateStep] at h
    split at h
    · next hn =>
      obtain rfl := Option.some.inj h
      exact .spawnFails error hn
    · exact absurd h (by simp)
  | connect n =>
    simp only [rotateStep] at h
    split at h
    · next hn =>
      split at h
      · next howner =>
        obtain rfl := Option.some.inj h
        exact .reaches hn howner
      · obtain rfl := Option.some.inj h
        exact .misses hn
    · exact absurd h (by simp)
  | tryWait n status =>
    simp only [rotateStep] at h
    split at h
    · next hn =>
      split at h
      · obtain rfl := Option.some.inj h
        exact .waits status hn
      · obtain rfl := Option.some.inj h
        exact .exited status hn
    · exact absurd h (by simp)
  | timeout n =>
    simp only [rotateStep] at h
    split at h
    · next hn =>
      obtain rfl := Option.some.inj h
      exact .timesOut hn
    · exact absurd h (by simp)
  | storeChild n =>
    simp only [rotateStep] at h
    split at h
    · next hn _ =>
      obtain rfl := Option.some.inj h
      exact .stores hn
    · exact absurd h (by simp)
  | updateProfile n =>
    simp only [rotateStep] at h
    split at h
    · next hn =>
      obtain rfl := Option.some.inj h
      exact .updates hn
    · exact absurd h (by simp)
  | bindPort pid =>
    simp only [rotateStep] at h
    split at h
    · next hlive =>
      obtain rfl := Option.some.inj h
      exact .binds hlive
    · exact absurd h (by simp)
  | exit pid =>
    simp only [rotateStep] at h
    split at h
    · next hexit =>
      obtain rfl := Option.some.inj h
      exact .exits hexit.1 hexit.2
    · exact absurd h (by simp)

/-- A child that does not come up makes its call fail. -/
theorem callStep_fails {call : RotateCall} {next : Str} {outcome : ChildOutcome}
    (hcall : call.heading = some next) (hne : outcome ≠ .ready) :
    CallStep call (.returned (rotateAnswer config next outcome)) := by
  obtain ⟨e, he⟩ := rotateAnswer_error config next hne
  rw [he]
  exact .fails e hcall

/-- What a step does to a call. -/
theorem rotateStep_callStep {e : RotateEvent} (h : rotateStep config s e = some t) (m : ℕ) :
    t.calls m = s.calls m ∨ e.call = some m ∧ CallStep (s.calls m) (t.calls m) := by
  cases rotateMove_of_step h with
  | exhausted hn _ => exact callStep_moves (hn ▸ .exhausted) rfl m
  | @chooses n next hn _ => exact callStep_moves (hn ▸ .chooses next) rfl m
  | takes hn _ => exact callStep_moves (hn ▸ .heads rfl rfl) rfl m
  | findsNone hn _ => exact callStep_moves (hn ▸ .heads rfl rfl) rfl m
  | reaps hn => exact callStep_moves (hn ▸ .heads rfl rfl) rfl m
  | malformed e hn => exact callStep_moves (hn ▸ .fails e rfl) rfl m
  | starts hn => exact callStep_moves (hn ▸ .heads rfl rfl) rfl m
  | spawnFails error hn => exact callStep_moves (hn ▸ callStep_fails rfl (by simp)) rfl m
  | reaches hn _ => exact callStep_moves (hn ▸ .heads rfl rfl) rfl m
  | misses hn => exact callStep_moves (hn ▸ .heads rfl rfl) rfl m
  | waits status hn => exact callStep_moves (hn ▸ .heads rfl rfl) rfl m
  | exited status hn => exact callStep_moves (hn ▸ callStep_fails rfl (by simp)) rfl m
  | timesOut hn => exact callStep_moves (hn ▸ callStep_fails rfl (by simp)) rfl m
  | stores hn => exact callStep_moves (hn ▸ .heads rfl rfl) rfl m
  | updates hn => exact callStep_moves (hn ▸ .answers rfl) rfl m
  | binds _ => exact .inl rfl
  | exits _ _ => exact .inl rfl

/-- A step leaves the other calls where they are. -/
theorem rotateStep_calls {e : RotateEvent} {n : ℕ} (hn : e.call ≠ some n)
    (h : rotateStep config s e = some t) : t.calls n = s.calls n := by
  rcases rotateStep_callStep h n with heq | ⟨hcall, -⟩
  · exact heq
  · exact absurd hcall hn

/-- A call that has returned takes no step. -/
theorem not_callStep_returned {answer : Except CrwError (Option Str)} {call : RotateCall} :
    ¬ CallStep (.returned answer) call := by
  intro h
  cases h with
  | heads hnext _ => exact absurd hnext (by simp [RotateCall.heading])
  | answers hnext => exact absurd hnext (by simp [RotateCall.heading])
  | fails _ hnext => exact absurd hnext (by simp [RotateCall.heading])

/-- A call that is rotating to a profile, has rotated to it, or has failed. -/
def Bound (call : RotateCall) (p : Str) : Prop :=
  call.heading = some p ∨ call = .returned (.ok (some p)) ∨ ∃ e, call = .returned (.error e)

theorem Bound.callStep {call call' : RotateCall} {p : Str} (h : Bound call p)
    (hstep : CallStep call call') : Bound call' p := by
  cases hstep with
  | exhausted => exact absurd h (by simp [Bound, RotateCall.heading])
  | chooses next => exact absurd h (by simp [Bound, RotateCall.heading])
  | heads hnext hnext' =>
    rcases h with h | rfl | ⟨e, rfl⟩
    · exact .inl (hnext'.trans (hnext.symm.trans h))
    · exact absurd hnext (by simp [RotateCall.heading])
    · exact absurd hnext (by simp [RotateCall.heading])
  | answers hnext =>
    rcases h with h | rfl | ⟨e, rfl⟩
    · obtain rfl := Option.some.inj (hnext.symm.trans h)
      exact .inr (.inl rfl)
    · exact absurd hnext (by simp [RotateCall.heading])
    · exact absurd hnext (by simp [RotateCall.heading])
  | fails e hnext => exact .inr (.inr ⟨e, rfl⟩)

/-- Some call has failed. -/
def Failed (s : SharedProxy) : Prop := ∃ n e, s.calls n = .returned (.error e)

/-- Two calls rotate to one profile. -/
def Doubled (s : SharedProxy) : Prop :=
  ∃ n m p, n ≠ m ∧ Bound (s.calls n) p ∧ Bound (s.calls m) p

theorem Failed.step (h : Failed s) {e : RotateEvent} (hstep : rotateStep config s e = some t) :
    Failed t := by
  obtain ⟨n, error, hn⟩ := h
  refine ⟨n, error, ?_⟩
  rcases rotateStep_callStep hstep n with heq | ⟨-, hcall⟩
  · exact heq.trans hn
  · rw [hn] at hcall
    exact absurd hcall not_callStep_returned

theorem Doubled.step (h : Doubled s) {e : RotateEvent} (hstep : rotateStep config s e = some t) :
    Doubled t := by
  obtain ⟨n, m, p, hne, hn, hm⟩ := h
  have hkeep : ∀ k, Bound (s.calls k) p → Bound (t.calls k) p := by
    intro k hk
    rcases rotateStep_callStep hstep k with heq | ⟨-, hcall⟩
    · rwa [heq]
    · exact hk.callStep hcall
  exact ⟨n, m, p, hne, hkeep n hn, hkeep m hm⟩

/-- The slot's child is the only one and serves the profile. -/
def SlotServes (s : SharedProxy) (p : Str) : Prop :=
  ∃ pid, s.child = some pid ∧ s.procs.Serves pid p ∧ s.procs.Alone pid p

/-- What the slot and the children are, by how far the only call under way has come. -/
def PhaseOk (s : SharedProxy) : RotateCall → Prop
  | .idle | .chosen _ | .returned _ => s.childLock = none ∧ SlotServes s s.currentProfile
  | .reaping old _ => s.child = none ∧ s.procs.Alone old s.currentProfile
  | .cleared _ => s.childLock = none ∧ s.child = none ∧ ∀ q, s.procs.live q = none
  | .polling pid next | .unreached pid next =>
    s.childLock = none ∧ s.child = none ∧ s.procs.Alone pid next
  | .ready pid next =>
    s.childLock = none ∧ s.child = none ∧ s.procs.Serves pid next ∧ s.procs.Alone pid next
  | .stored next => s.childLock = none ∧ SlotServes s next

/-- A call that is not under way has started no child. -/
theorem RotateCall.started_eq_none {call : RotateCall} (h : call.heading = none) :
    call.started = none := by
  cases call with
  | idle | returned _ => rfl
  | _ => exact absurd h (by simp [RotateCall.heading])

theorem PhaseOk.rest {call : RotateCall} (h : PhaseOk s call) (hcall : call.heading = none) :
    PhaseOk s .idle := by
  cases call with
  | idle | returned _ => exact h
  | _ => exact absurd hcall (by simp [RotateCall.heading])

theorem SlotServes.bind {p : Str} (h : SlotServes s p) (q : ℕ) :
    SlotServes { s with procs := s.procs.bind q } p := by
  obtain ⟨pid, hchild, hserves, halone⟩ := h
  exact ⟨pid, hchild, hserves.bind q, halone.bind q⟩

theorem SlotServes.kill {p : Str} (h : SlotServes s p) {q : ℕ} (hq : s.procs.owner ≠ some q) :
    SlotServes { s with procs := s.procs.kill q } p := by
  obtain ⟨pid, hchild, hserves, halone⟩ := h
  have hne : q ≠ pid := fun heq ↦ hq (heq ▸ hserves.1)
  exact ⟨pid, hchild, hserves.kill hne, halone.kill q⟩

/-- A child that asks for the port changes nothing that the calls rely on. -/
theorem PhaseOk.bind {call : RotateCall} (h : PhaseOk s call) {q : ℕ}
    (hlive : (s.procs.live q).isSome) : PhaseOk { s with procs := s.procs.bind q } call := by
  cases call with
  | idle | chosen _ | returned _ | stored _ => exact ⟨h.1, h.2.bind q⟩
  | reaping old next => exact ⟨h.1, h.2.bind q⟩
  | cleared next =>
    rw [h.2.2 q] at hlive
    exact absurd hlive (by simp)
  | polling pid next | unreached pid next => exact ⟨h.1, h.2.1, h.2.2.bind q⟩
  | ready pid next => exact ⟨h.1, h.2.1, h.2.2.1.bind q, h.2.2.2.bind q⟩

/-- A child without the port that exits changes nothing that the calls rely on. -/
theorem PhaseOk.kill {call : RotateCall} (h : PhaseOk s call) {q : ℕ}
    (hlive : (s.procs.live q).isSome) (howner : s.procs.owner ≠ some q) :
    PhaseOk { s with procs := s.procs.kill q } call := by
  cases call with
  | idle | chosen _ | returned _ | stored _ => exact ⟨h.1, h.2.kill howner⟩
  | reaping old next => exact ⟨h.1, h.2.kill q⟩
  | cleared next =>
    rw [h.2.2 q] at hlive
    exact absurd hlive (by simp)
  | polling pid next | unreached pid next => exact ⟨h.1, h.2.1, h.2.2.kill q⟩
  | ready pid next =>
    obtain ⟨hlock, hchild, hserves, halone⟩ := h
    have hne : q ≠ pid := fun heq ↦ howner (heq ▸ hserves.1)
    exact ⟨hlock, hchild, hserves.kill hne, halone.kill q⟩

/-- The invariant of calls in turn: `n` is the only call that can be under way, `done` are the
rotations completed, and the child that the call has started is the next after them. -/
structure Orderly (config : TlsProxyConfig) (initial : Str) (s : SharedProxy) (n : ℕ)
    (done : List (ℕ × Str)) : Prop where
  sound : s.procs.Sound
  others : ∀ m, m ≠ n → (s.calls m).heading = none
  phase : PhaseOk s (s.calls n)
  next : ∀ p, (s.calls n).heading = some p → successor config.profiles s.currentProfile = some p
  walk : Run (Walks config.profiles) initial (done.map Prod.snd) s.currentProfile
  answered : ∀ m p, s.calls m = .returned (.ok (some p)) ↔ (m, p) ∈ done
  starts : s.starts = done ++ ((s.calls n).started.map (n, ·)).toList

variable {n : ℕ} {done : List (ℕ × Str)}

/-- A call under way is the one whose turn it is, and the invariant says how far it has come. -/
theorem Orderly.turn (h : Orderly config initial s n done) {m : ℕ} {call : RotateCall} {p : Str}
    (hm : s.calls m = call) (hcall : call.heading = some p) :
    m = n ∧ PhaseOk s call ∧ s.starts = done ++ (call.started.map (n, ·)).toList := by
  have hn : m = n := by
    by_contra hne
    have hnone := h.others m hne
    rw [hm, hcall] at hnone
    exact absurd hnone (by simp)
  subst hn
  rw [← hm]
  exact ⟨rfl, h.phase, h.starts⟩

/-- The call under way takes a step on the way to its profile. -/
theorem Orderly.heads (h : Orderly config initial s n done) {p : Str} {call : RotateCall}
    (hn : (s.calls n).heading = some p) (hcall : call.heading = some p)
    (hprofile : t.currentProfile = s.currentProfile)
    (hcalls : t.calls = (s.moves n call).calls) (hsound : t.procs.Sound)
    (hphase : PhaseOk t call)
    (hstarts : t.starts = done ++ (call.started.map (n, ·)).toList) :
    Orderly config initial t n done := by
  have hself : t.calls n = call := by rw [hcalls, moves_self]
  have hother : ∀ m, m ≠ n → t.calls m = s.calls m := by
    intro m hm
    rw [hcalls, moves_of_ne s call hm]
  refine ⟨hsound, ?_, ?_, ?_, ?_, ?_, ?_⟩
  · intro m hm
    rw [hother m hm]
    exact h.others m hm
  · rwa [hself]
  · intro q hq
    rw [hself, hcall] at hq
    rw [hprofile, ← hq]
    exact h.next p hn
  · rw [hprofile]
    exact h.walk
  · intro m q
    by_cases hm : m = n
    · subst hm
      rw [hself, ← h.answered m q]
      constructor
      · rintro rfl
        exact absurd hcall (by simp [RotateCall.heading])
      · intro hret
        rw [hret] at hn
        exact absurd hn (by simp [RotateCall.heading])
    · rw [hother m hm]
      exact h.answered m q
  · rw [hself]
    exact hstarts

/-- The call under way completes its rotation. -/
theorem Orderly.answers (h : Orderly config initial s n done) {p : Str}
    (hn : s.calls n = .stored p) :
    Orderly config initial ({ s with currentProfile := p }.moves n (.returned (.ok (some p)))) n
      (done ++ [(n, p)]) := by
  have hphase := h.phase
  have hstarts := h.starts
  rw [hn] at hphase hstarts
  refine ⟨h.sound, ?_, ?_, ?_, ?_, ?_, ?_⟩
  · intro m hm
    rw [moves_of_ne _ _ hm]
    exact h.others m hm
  · rw [moves_self]
    exact hphase
  · intro q hq
    rw [moves_self] at hq
    exact absurd hq (by simp [RotateCall.heading])
  · rw [List.map_append]
    have hnext := h.next p (by rw [hn]; rfl)
    exact h.walk.snoc ⟨hnext, rfl⟩
  · intro m q
    by_cases hm : m = n
    · subst hm
      have hnot : (m, q) ∉ done := by
        rw [← h.answered m q, hn]
        simp
      rw [moves_self]
      simp [hnot, eq_comm]
    · rw [moves_of_ne _ _ hm]
      have hq : ({ s with currentProfile := p } : SharedProxy).calls m =
          .returned (.ok (some q)) ↔ (m, q) ∈ done := h.answered m q
      rw [hq]
      simp [hm]
  · rw [moves_self]
    show s.starts = _
    rw [hstarts]
    simp [RotateCall.started]

/-- A call is made while no other is under way. -/
theorem Orderly.begins (h : Orderly config initial s n done) {m : ℕ} {call : RotateCall}
    (hm : s.calls m = .idle) (hquiet : ∀ k, (s.calls k).heading = none)
    (hphase : PhaseOk s .idle → PhaseOk s call) (hstarted : call.started = none)
    (hanswer : ∀ q, call ≠ .returned (.ok (some q)))
    (hnext : ∀ p, call.heading = some p → successor config.profiles s.currentProfile = some p) :
    Orderly config initial (s.moves m call) m done := by
  refine ⟨h.sound, ?_, ?_, ?_, h.walk, ?_, ?_⟩
  · intro k hk
    rw [moves_of_ne s call hk]
    exact hquiet k
  · rw [moves_self]
    exact hphase (h.phase.rest (hquiet n))
  · intro p hp
    rw [moves_self] at hp
    exact hnext p hp
  · intro k q
    by_cases hk : k = m
    · subst hk
      have hnot : (k, q) ∉ done := by
        rw [← h.answered k q, hm]
        simp
      rw [moves_self]
      exact ⟨fun hcall ↦ absurd hcall (hanswer q), fun hdone ↦ absurd hdone hnot⟩
    · rw [moves_of_ne s call hk]
      exact h.answered k q
  · rw [moves_self, hstarted]
    show s.starts = _
    rw [h.starts, RotateCall.started_eq_none (hquiet n)]
    rfl

/-- A call whose child does not come up has failed. -/
theorem failed_of_returned {m : ℕ} {next : Str} {outcome : ChildOutcome} (hne : outcome ≠ .ready)
    (hm : s.calls m = .returned (rotateAnswer config next outcome)) : Failed s := by
  obtain ⟨error, herror⟩ := rotateAnswer_error config next hne
  exact ⟨m, error, by rw [hm, herror]⟩

/-- A step of the calls in turn keeps the invariant, unless a call fails. -/
theorem Orderly.step (h : Orderly config initial s n done) {e : RotateEvent}
    (hcond : InTurn s e) (hstep : rotateStep config s e = some t) :
    Failed t ∨ ∃ n' done', Orderly config initial t n' done' := by
  cases rotateMove_of_step hstep with
  | @exhausted m hm _ =>
    exact .inr ⟨m, done, h.begins hm hcond id rfl (by simp) (by simp [RotateCall.heading])⟩
  | @chooses m p hm hnext =>
    refine .inr ⟨m, done, h.begins hm hcond id rfl (by simp) fun q hq ↦ ?_⟩
    obtain rfl := Option.some.inj hq
    exact hnext
  | @takes m old p hm hold =>
    obtain ⟨rfl, ⟨-, pid, hchild, -, halone⟩, hstarts⟩ := h.turn hm rfl
    obtain rfl := Option.some.inj (hold.symm.trans hchild)
    exact .inr ⟨m, done, h.heads (hm ▸ rfl) rfl rfl rfl h.sound ⟨rfl, halone⟩ hstarts⟩
  | findsNone hm hnone =>
    obtain ⟨rfl, ⟨-, pid, hchild, -, -⟩, -⟩ := h.turn hm rfl
    exact absurd (hnone.symm.trans hchild) (by simp)
  | @reaps m old p hm =>
    obtain ⟨rfl, hphase, hstarts⟩ := h.turn hm rfl
    exact .inr ⟨m, done, h.heads (hm ▸ rfl) rfl rfl rfl (h.sound.kill old)
      ⟨rfl, hphase.1, hphase.2.kill_self⟩ hstarts⟩
  | @malformed m p error hm => exact .inl ⟨m, error, moves_self _ _ _⟩
  | @starts m p hm =>
    obtain ⟨rfl, ⟨hlock, hchild, hdead⟩, hstarts⟩ := h.turn hm rfl
    refine .inr ⟨m, done, h.heads (hm ▸ rfl) rfl rfl rfl (h.sound.start p)
      ⟨hlock, hchild, Processes.alone_start hdead p⟩ ?_⟩
    show s.starts ++ [(m, p)] = _
    rw [hstarts]
    simp [RotateCall.started]
  | spawnFails error hm => exact .inl (failed_of_returned (by simp) (moves_self _ _ _))
  | @reaches m pid p hm howner =>
    obtain ⟨rfl, ⟨hlock, hchild, halone⟩, hstarts⟩ := h.turn hm rfl
    exact .inr ⟨m, done, h.heads (hm ▸ rfl) rfl rfl rfl h.sound
      ⟨hlock, hchild, halone.serves h.sound howner, halone⟩ hstarts⟩
  | @misses m pid p hm =>
    obtain ⟨rfl, hphase, hstarts⟩ := h.turn hm rfl
    exact .inr ⟨m, done, h.heads (hm ▸ rfl) rfl rfl rfl h.sound hphase hstarts⟩
  | @waits m pid p status hm =>
    obtain ⟨rfl, hphase, hstarts⟩ := h.turn hm rfl
    exact .inr ⟨m, done, h.heads (hm ▸ rfl) rfl rfl rfl h.sound hphase hstarts⟩
  | exited status hm => exact .inl (failed_of_returned (by simp) (moves_self _ _ _))
  | timesOut hm => exact .inl (failed_of_returned (by simp) (moves_self _ _ _))
  | @stores m pid p hm =>
    obtain ⟨rfl, ⟨hlock, hchild, hserves, halone⟩, hstarts⟩ := h.turn hm rfl
    have hdrop : s.dropChild = s.procs := by rw [SharedProxy.dropChild, hchild]
    refine .inr ⟨m, done, h.heads (hm ▸ rfl) rfl rfl rfl ?_ ⟨hlock, pid, rfl, ?_, ?_⟩ hstarts⟩
    · show s.dropChild.Sound
      rw [hdrop]
      exact h.sound
    · show s.dropChild.Serves pid p
      rw [hdrop]
      exact hserves
    · show s.dropChild.Alone pid p
      rw [hdrop]
      exact halone
  | @updates m p hm =>
    obtain ⟨rfl, -, -⟩ := h.turn hm rfl
    exact .inr ⟨m, _, h.answers hm⟩
  | @binds pid hlive =>
    exact .inr ⟨n, done, h.sound.bind hlive, h.others, h.phase.bind hlive, h.next, h.walk,
      h.answered, h.starts⟩
  | @exits pid hlive howner =>
    exact .inr ⟨n, done, h.sound.kill pid, h.others, h.phase.kill hlive howner, h.next, h.walk,
      h.answered, h.starts⟩

/-- A proxy without calls is in order. -/
theorem ProxyStart.orderly (h : ProxyStart s) : Orderly config s.currentProfile s 0 [] where
  sound := h.sound
  others m _ := by rw [h.idle m]; rfl
  phase := by
    rw [h.idle 0]
    exact ⟨h.unlocked, h.slot⟩
  next p hp := by
    rw [h.idle 0] at hp
    exact absurd hp (by simp [RotateCall.heading])
  walk := .nil
  answered m p := by simp [h.idle m]
  starts := by
    rw [h.none_started, h.idle 0]
    rfl

/-- What calls in turn have rotated to is what calls one after the other rotate to. -/
theorem Orderly.rotated (h : Orderly config initial s n done) (hport : config.port.isSome) :
    ∃ calls q, Run TlsProxy.Rotated ⟨config, some initial, initial⟩ calls q ∧
      TlsProxy.visited calls = done.map Prod.snd ∧ q.currentProfile = s.currentProfile := by
  have hwalk : Run (Walks (⟨config, some initial, initial⟩ : TlsProxy).config.profiles) initial
    (done.map Prod.snd) s.currentProfile := h.walk
  obtain ⟨calls, q, hrun, hvisited, -, hprofile⟩ := TlsProxy.run_of_walk hport hwalk
  exact ⟨calls, q, hrun, hvisited, hprofile⟩

/-- Calls in turn that have all returned `Ok` have walked the ladder. -/
theorem Orderly.ladderShared (h : Orderly config initial s n done) {tail : List Str}
    (hladder : config.profiles = initial :: tail) (hnodup : config.profiles.Nodup)
    (hok : AllOk s) : LadderShared config initial s := by
  have hquiet : (s.calls n).heading = none := by
    rcases hok n with hn | ⟨answer, hn⟩
    · rw [hn]
      rfl
    · rw [hn]
      rfl
  have hstarts : s.starts = done := by
    rw [h.starts, RotateCall.started_eq_none hquiet]
    exact List.append_nil done
  have hwalk := h.walk
  rw [hladder] at hwalk hnodup
  obtain ⟨hpre, -⟩ := prefix_of_run hnodup hwalk
  have honce : (initial :: done.map Prod.snd).Nodup := hpre.sublist.nodup hnodup
  refine ⟨?_, ?_, ?_, ?_, ?_⟩
  · obtain ⟨-, pid, hchild, hserves, -⟩ := h.phase.rest hquiet
    exact ⟨pid, hchild, hserves⟩
  · rw [hstarts, hladder]
    exact hpre
  · rw [hstarts]
    exact honce
  · intro p hp
    rw [hstarts] at hp
    obtain ⟨⟨m, q⟩, hm, rfl⟩ := List.mem_map.mp hp
    refine ⟨m, (h.answered m q).mpr hm, ?_⟩
    intro k hk
    have hk' := (h.answered k q).mp hk
    have hsame := List.inj_on_of_nodup_map (List.nodup_cons.mp honce).2 hk' hm rfl
    exact congrArg Prod.fst hsame
  · intro m p hm
    rw [hstarts]
    exact List.mem_map_of_mem ((h.answered m p).mp hm)

/-- A call out of turn rotates to the profile of the call under way. -/
theorem Orderly.doubled (h : Orderly config initial s n done) {m : ℕ}
    (hcond : ¬ ∀ k, (s.calls k).heading = none)
    (hstep : rotateStep config s (.readProfile m) = some t) : Doubled t := by
  obtain ⟨k, hk⟩ := not_forall.mp hcond
  obtain ⟨p, hp⟩ := Option.ne_none_iff_exists'.mp hk
  obtain ⟨rfl, -, -⟩ := h.turn rfl hp
  have hnext := h.next p hp
  have hne : s.calls m = .idle → k ≠ m := by
    rintro hm rfl
    rw [hm] at hp
    exact absurd hp (by simp [RotateCall.heading])
  cases rotateMove_of_step hstep with
  | exhausted hm hnone => exact absurd (hnone.symm.trans hnext) (by simp)
  | @chooses _ next hm hsome =>
    obtain rfl := Option.some.inj (hsome.symm.trans hnext)
    refine ⟨k, m, next, hne hm, .inl ?_, .inl ?_⟩
    · rw [moves_of_ne s _ (hne hm)]
      exact hp
    · rw [moves_self]
      rfl

/-- Every run is one of calls in turn, or has two calls on one profile, or a call that failed. -/
theorem inTurn_or {s₀ : SharedProxy} (hstart : ProxyStart s₀) {events : List RotateEvent}
    (hrun : Run (PartialSteps (rotateStep config)) s₀ events s) :
    Failed s ∨ Doubled s ∨ (Run (Guarded InTurn (PartialSteps (rotateStep config))) s₀ events s ∧
      ∃ n done, Orderly config s₀.currentProfile s n done) := by
  induction hrun with
  | nil => exact .inr (.inr ⟨.nil, 0, [], hstart.orderly⟩)
  | @snoc events u e t _ hlast ih =>
    rcases ih with hfailed | hdoubled | ⟨hguarded, n, done, h⟩
    · exact .inl (hfailed.step hlast)
    · exact .inr (.inl (hdoubled.step hlast))
    · by_cases hcond : InTurn u e
      · rcases h.step hcond hlast with hfailed | horderly
        · exact .inl hfailed
        · exact .inr (.inr ⟨hguarded.snoc ⟨hcond, hlast⟩, horderly⟩)
      · cases e with
        | readProfile m => exact .inr (.inl (h.doubled hcond hlast))
        | _ => exact absurd trivial hcond

/-- Where every call has returned `Ok`, one that rotated to a profile has returned it. -/
theorem AllOk.returned (hok : AllOk s) {k : ℕ} {p : Str} (hk : Bound (s.calls k) p) :
    s.calls k = .returned (.ok (some p)) := by
  rcases hok k with hidle | ⟨answer, hret⟩
  · rw [hidle] at hk
    exact absurd hk (by simp [Bound, RotateCall.heading])
  · rw [hret] at hk ⊢
    simpa [Bound, RotateCall.heading] using hk

/-- Where every call has returned `Ok`, two calls did not rotate to one profile. -/
theorem LadderShared.not_doubled (h : LadderShared config initial s) (hok : AllOk s) :
    ¬ Doubled s := by
  rintro ⟨n, m, p, hne, hn, hm⟩
  obtain ⟨k, -, honly⟩ := h.taken p (h.answered n p (hok.returned hn))
  exact hne ((honly n (hok.returned hn)).trans (honly m (hok.returned hm)).symm)

theorem AllOk.not_failed (hok : AllOk s) : ¬ Failed s := by
  rintro ⟨n, e, hn⟩
  rcases hok n with hidle | ⟨answer, hret⟩
  · exact absurd (hidle.symm.trans hn) (by simp)
  · exact absurd (hret.symm.trans hn) (by simp)

/-- On a ladder without repetitions, calls that have all returned `Ok` have shared the ladder
exactly when each of them read the current profile while no other was under way. -/
theorem ladderShared_iff {s₀ : SharedProxy} {tail : List Str} (hstart : ProxyStart s₀)
    (hladder : config.profiles = s₀.currentProfile :: tail) (hnodup : config.profiles.Nodup)
    {events : List RotateEvent}
    (hrun : Run (PartialSteps (rotateStep config)) s₀ events s) (hok : AllOk s) :
    LadderShared config s₀.currentProfile s ↔
      Run (Guarded InTurn (PartialSteps (rotateStep config))) s₀ events s := by
  constructor
  · intro hshared
    rcases inTurn_or hstart hrun with hfailed | hdoubled | ⟨hguarded, -⟩
    · exact absurd hfailed hok.not_failed
    · exact absurd hdoubled (hshared.not_doubled hok)
    · exact hguarded
  · intro hguarded
    have hinv : Failed s ∨ ∃ n done, Orderly config s₀.currentProfile s n done := by
      refine hguarded.invariant (I := fun s ↦ Failed s ∨
        ∃ n done, Orderly config s₀.currentProfile s n done) ?_ (.inr ⟨0, [], hstart.orderly⟩)
      rintro u e t (hfailed | ⟨n, done, h⟩) ⟨hcond, hstep⟩
      · exact .inl (hfailed.step hstep)
      · exact h.step hcond hstep
    rcases hinv with hfailed | ⟨n, done, h⟩
    · exact absurd hfailed hok.not_failed
    · exact h.ladderShared hladder hnodup hok

end Calls

/-- A proxy as it is spawned. -/
def spawnedProxy : SharedProxy where
  procs := (Processes.empty.start ("chrome_120" : Str)).2.bind 0
  child := some 0
  childLock := none
  currentProfile := "chrome_120"
  calls _ := .idle
  starts := []

theorem proxyStart_spawned : ProxyStart spawnedProxy where
  sound := (Processes.sound_empty.start _).bind rfl
  slot := by
    have halone : (Processes.empty.start ("chrome_120" : Str)).2.Alone 0 "chrome_120" :=
      Processes.alone_start (fun _ ↦ rfl) _
    exact ⟨0, rfl, ⟨rfl, rfl⟩, halone.bind 0⟩
  unlocked := rfl
  idle _ := rfl
  none_started := rfl

/-- The answer of a call that has returned `Ok`. -/
def RotateCall.answer : RotateCall → Option (Option Str)
  | .returned (.ok answer) => some answer
  | _ => none

theorem RotateCall.answer_eq_some {call : RotateCall} {answer : Option Str}
    (h : call.answer = some answer) : call = .returned (.ok answer) := by
  unfold RotateCall.answer at h
  split at h
  · rw [Option.some.inj h]
  · exact absurd h (by simp)

/-- In a run of the first two calls no other call is made. -/
private theorem calls_of_two {events : List RotateEvent} {s : SharedProxy}
    (hrun : Run (PartialSteps (rotateStep defaultConfig)) spawnedProxy events s)
    (hevents : ∀ e ∈ events, ∀ n ∈ e.call, n < 2) (n : ℕ) :
    n = 0 ∨ n = 1 ∨ s.calls n = .idle := by
  by_cases hn : n < 2
  · omega
  · have hsame : s.calls n = spawnedProxy.calls n := by
      refine hrun.unchanged (fun _ _ _ hn hstep ↦ rotateStep_calls hn hstep) ?_
      intro e he hcall
      exact hn (hevents e he n hcall)
    exact .inr (.inr hsame)

/-- Two calls have returned `Ok`, and no other was made. -/
private theorem allOk_of_two {s : SharedProxy} {a b : Option Str}
    (htwo : ∀ n, n = 0 ∨ n = 1 ∨ s.calls n = .idle) (h₀ : (s.calls 0).answer = some a)
    (h₁ : (s.calls 1).answer = some b) : AllOk s := by
  intro n
  rcases htwo n with rfl | rfl | hidle
  · exact .inr ⟨a, RotateCall.answer_eq_some h₀⟩
  · exact .inr ⟨b, RotateCall.answer_eq_some h₁⟩
  · exact .inl hidle

/-- Two calls that returned different profiles did not rotate to one. -/
private theorem not_doubled_of_two {s : SharedProxy} {p q : Str}
    (htwo : ∀ n, n = 0 ∨ n = 1 ∨ s.calls n = .idle) (h₀ : (s.calls 0).answer = some (some p))
    (h₁ : (s.calls 1).answer = some (some q)) (hne : p ≠ q) : ¬ Doubled s := by
  have hok := allOk_of_two htwo h₀ h₁
  rintro ⟨n, m, r, hnm, hn, hm⟩
  have hn' := hok.returned hn
  have hm' := hok.returned hm
  rcases htwo n with rfl | rfl | hidle
  · rcases htwo m with rfl | rfl | hidle
    · exact hnm rfl
    · simp only [hn', hm', RotateCall.answer, Option.some.injEq] at h₀ h₁
      exact hne (h₀.symm.trans h₁)
    · exact absurd (hidle.symm.trans hm') (by simp)
  · rcases htwo m with rfl | rfl | hidle
    · simp only [hn', hm', RotateCall.answer, Option.some.injEq] at h₀ h₁
      exact hne (h₀.symm.trans h₁)
    · exact hnm rfl
    · exact absurd (hidle.symm.trans hm') (by simp)
  · exact absurd (hidle.symm.trans hn') (by simp)

/-- A call that meets no other, with the number of its child. -/
def soloRotation (n pid : ℕ) : List RotateEvent :=
  [.readProfile n, .takeChild n, .reap n, .spawn n, .bindPort pid, .connect n, .storeChild n,
   .updateProfile n]

theorem ladderShared_solo :
    ∃ events s, AllOk s ∧ s.currentProfile = "chrome_107" ∧
      LadderShared defaultConfig "chrome_120" s ∧
      Run (PartialSteps (rotateStep defaultConfig)) spawnedProxy events s := by
  have hfold : ((soloRotation 0 1 ++ soloRotation 1 2).foldlM (rotateStep defaultConfig)
      spawnedProxy).map (fun s : SharedProxy ↦
        (s.currentProfile, (s.calls 0).answer, (s.calls 1).answer)) =
      some (("chrome_107" : Str), some (some ("chrome_117" : Str)),
        some (some ("chrome_107" : Str))) := by decide
  obtain ⟨s, hs, heq⟩ := Option.map_eq_some_iff.mp hfold
  simp only [Prod.mk.injEq] at heq
  obtain ⟨hprofile, h₀, h₁⟩ := heq
  have hrun := Run.of_foldlM hs
  have htwo := calls_of_two hrun (by decide)
  have hok : AllOk s := allOk_of_two htwo h₀ h₁
  refine ⟨_, s, hok, hprofile, (ladderShared_iff proxyStart_spawned rfl (by decide) hrun
    hok).mpr ?_, hrun⟩
  rcases inTurn_or proxyStart_spawned hrun with hfailed | hdoubled | ⟨hguarded, -⟩
  · exact absurd hfailed hok.not_failed
  · exact absurd hdoubled (not_doubled_of_two htwo h₀ h₁ (by decide))
  · exact hguarded

/-- Two calls read the profile, the second's child finds the port taken, the first's child answers
its probe, and storing the second's child drops the first's. -/
theorem not_ladderShared_overlap :
    ¬ ∀ (config : TlsProxyConfig) (s₀ s : SharedProxy) (tail : List Str)
        (events : List RotateEvent), ProxyStart s₀ → config.profiles = s₀.currentProfile :: tail →
      Run (PartialSteps (rotateStep config)) s₀ events s → AllOk s →
      LadderShared config s₀.currentProfile s := by
  intro hall
  have hfold : ([.readProfile 0, .readProfile 1, .takeChild 0, .reap 0, .takeChild 1, .spawn 0,
      .spawn 1, .bindPort 1, .bindPort 2, .connect 1, .connect 0, .storeChild 0, .updateProfile 0,
      .storeChild 1, .updateProfile 1].foldlM (rotateStep defaultConfig) spawnedProxy).map
        (fun s : SharedProxy ↦
          (s.procs.owner, (s.calls 0).answer, (s.calls 1).answer)) =
      some (none, some (some ("chrome_117" : Str)), some (some ("chrome_117" : Str))) := by
    decide
  obtain ⟨s, hs, heq⟩ := Option.map_eq_some_iff.mp hfold
  simp only [Prod.mk.injEq] at heq
  obtain ⟨howner, h₀, h₁⟩ := heq
  have hrun := Run.of_foldlM hs
  have hok : AllOk s := allOk_of_two (calls_of_two hrun (by decide)) h₀ h₁
  have hshared := hall defaultConfig spawnedProxy s _ _ proxyStart_spawned rfl hrun hok
  obtain ⟨pid, -, hserves⟩ := hshared.serves
  exact absurd (howner.symm.trans hserves.1) (by simp)

end CrwShield.Fetch
