import CrwShield.Fetch.ConcurrentRotation

/-!
# What a failed rotation leaves

Crate `fetch`, `src/crates/fetch/src/tls_proxy.rs:381–458`: the child slot after a call of `rotate`
that meets no other. The old child is gone before the new one is known to start, and no error exit
puts a child back.
-/

open CrwShield.Base CrwShield.Base.Str CrwShield.Core

namespace CrwShield.Fetch

/-- The events are those of one call and of the children. -/
def SoloEvents (n : ℕ) (es : List RotateEvent) : Prop :=
  ∀ e ∈ es, e.call = none ∨ e.call = some n

/-- A probe of the call finds the port served. -/
def Answered (config : TlsProxyConfig) (s : SharedProxy) (n : ℕ) (es : List RotateEvent) : Prop :=
  ∃ before after u, es = before ++ .connect n :: after ∧
    before.foldlM (rotateStep config) s = some u ∧ u.procs.owner.isSome

/-- How far a call that meets no other has come: before a probe is answered it holds no child in
the slot from the time the old one is taken, and an error leaves the slot so. -/
def SoloPhase (config : TlsProxyConfig) (s : SharedProxy) (n : ℕ) (es : List RotateEvent)
    (u : SharedProxy) : RotateCall → Prop
  | .idle => ¬ Answered config s n es ∧ u.currentProfile = s.currentProfile
  | .chosen _ =>
    ¬ Answered config s n es ∧ (successor config.profiles s.currentProfile).isSome
  | .reaping _ _ | .cleared _ | .polling _ _ | .unreached _ _ | .returned (.error _) =>
    ¬ Answered config s n es ∧ (successor config.profiles s.currentProfile).isSome ∧
      u.child = none
  | .ready _ _ | .stored _ | .returned (.ok (some _)) => Answered config s n es
  | .returned (.ok none) => successor config.profiles s.currentProfile = none

section Solo

variable {config : TlsProxyConfig} {s u t : SharedProxy} {n : ℕ} {es : List RotateEvent}

/-- The last event of a run answers a probe if it is one and the port is served. -/
theorem answered_snoc (hrun : Run (PartialSteps (rotateStep config)) s es u) (e : RotateEvent) :
    Answered config s n (es ++ [e]) ↔
      Answered config s n es ∨ (e = .connect n ∧ u.procs.owner.isSome) := by
  constructor
  · rintro ⟨before, after, v, hes, hfold, howner⟩
    rcases List.eq_nil_or_concat after with rfl | ⟨after, last, rfl⟩
    · obtain ⟨rfl, he⟩ := List.append_inj' hes rfl
      obtain rfl := Option.some.inj (hrun.foldlM_eq.symm.trans hfold)
      exact .inr ⟨by simpa using he, howner⟩
    · have hsplit : es ++ [e] = (before ++ .connect n :: after) ++ [last] := by simp [hes]
      obtain ⟨rfl, -⟩ := List.append_inj' hsplit rfl
      exact .inl ⟨before, after, v, rfl, hfold, howner⟩
  · rintro (⟨before, after, v, rfl, hfold, howner⟩ | ⟨rfl, howner⟩)
    · exact ⟨before, after ++ [e], v, by simp, hfold, howner⟩
    · exact ⟨es, [], u, rfl, hrun.foldlM_eq, howner⟩

/-- A probe that is not answered finds the port free. -/
theorem owner_of_misses {pid : ℕ} {next : Str} (hn : u.calls n = .polling pid next)
    (h : rotateStep config u (.connect n) = some (u.moves n (.unreached pid next))) :
    u.procs.owner.isSome = false := by
  by_contra howner
  rw [Bool.not_eq_false] at howner
  simp only [rotateStep, hn, howner, if_true, Option.some.injEq] at h
  have hcalls := congrArg (fun s : SharedProxy ↦ s.calls n) h
  simp only [moves_self] at hcalls
  exact absurd hcalls (by simp)

/-- An event that is no answered probe leaves a call where it is if slot and profile stay. -/
theorem SoloPhase.stays {call : RotateCall} {e : RotateEvent} (h : SoloPhase config s n es u call)
    (hans : Answered config s n (es ++ [e]) ↔ Answered config s n es)
    (hchild : t.child = u.child) (hprofile : t.currentProfile = u.currentProfile) :
    SoloPhase config s n (es ++ [e]) t call := by
  rw [SoloPhase.eq_def] at h ⊢
  rw [hans, hchild, hprofile]
  exact h

/-- A step of the call, or of a child, moves the call on. -/
theorem SoloPhase.step (h : SoloPhase config s n es u (u.calls n))
    (hrun : Run (PartialSteps (rotateStep config)) s es u) {e : RotateEvent}
    (hsolo : e.call = none ∨ e.call = some n) (hstep : rotateStep config u e = some t) :
    SoloPhase config s n (es ++ [e]) t (t.calls n) := by
  have hself : ∀ {m : ℕ}, e.call = some m → m = n := by
    intro m hm
    rcases hsolo with hnone | hn
    · exact absurd (hm.symm.trans hnone) (by simp)
    · exact Option.some.inj (hm.symm.trans hn)
  have hother : e ≠ .connect n → (Answered config s n (es ++ [e]) ↔ Answered config s n es) :=
    fun hne ↦ (answered_snoc hrun e).trans (or_iff_left fun hc ↦ hne hc.1)
  -- what holds of a call from the time its old child is taken to the first answered probe
  have hwaits : e ≠ .connect n →
      (¬ Answered config s n es ∧ (successor config.profiles s.currentProfile).isSome ∧
        u.child = none) →
      ¬ Answered config s n (es ++ [e]) ∧ (successor config.profiles s.currentProfile).isSome ∧
        u.child = none :=
    fun hne hc ↦ ⟨fun ha ↦ hc.1 ((hother hne).mp ha), hc.2⟩
  cases rotateMove_of_step hstep with
  | exhausted hn hnext =>
    obtain rfl := hself rfl
    rw [hn] at h
    rw [moves_self]
    show successor config.profiles s.currentProfile = none
    rw [← h.2]
    exact hnext
  | chooses hn hnext =>
    obtain rfl := hself rfl
    rw [hn] at h
    rw [moves_self]
    refine ⟨fun ha ↦ h.1 ((hother (by simp)).mp ha), ?_⟩
    rw [← h.2, hnext]
    rfl
  | takes hn hchild =>
    obtain rfl := hself rfl
    rw [hn] at h
    rw [moves_self]
    exact ⟨fun ha ↦ h.1 ((hother (by simp)).mp ha), h.2, rfl⟩
  | findsNone hn hchild =>
    obtain rfl := hself rfl
    rw [hn] at h
    rw [moves_self]
    exact ⟨fun ha ↦ h.1 ((hother (by simp)).mp ha), h.2, hchild⟩
  | reaps hn | malformed _ hn | starts hn | waits _ hn =>
    obtain rfl := hself rfl
    rw [hn] at h
    rw [moves_self]
    exact hwaits (by simp) h
  | spawnFails error hn =>
    obtain rfl := hself rfl
    rw [hn] at h
    obtain ⟨failure, hfailure⟩ := rotateAnswer_error config _
      (show ChildOutcome.spawnFailed error ≠ .ready by simp)
    rw [moves_self, hfailure]
    exact hwaits (by simp) h
  | exited status hn =>
    obtain rfl := hself rfl
    rw [hn] at h
    obtain ⟨failure, hfailure⟩ := rotateAnswer_error config _
      (show ChildOutcome.exited status ≠ .ready by simp)
    rw [moves_self, hfailure]
    exact hwaits (by simp) h
  | timesOut hn =>
    obtain rfl := hself rfl
    rw [hn] at h
    obtain ⟨failure, hfailure⟩ := rotateAnswer_error config _
      (show ChildOutcome.notReady ≠ .ready by simp)
    rw [moves_self, hfailure]
    exact hwaits (by simp) h
  | reaches hn howner =>
    obtain rfl := hself rfl
    rw [moves_self]
    exact (answered_snoc hrun _).mpr (.inr ⟨rfl, howner⟩)
  | misses hn =>
    obtain rfl := hself rfl
    rw [hn] at h
    rw [moves_self]
    have howner := owner_of_misses hn hstep
    refine ⟨?_, h.2⟩
    rw [answered_snoc hrun, howner]
    exact fun hans ↦ hans.elim h.1 fun hc ↦ absurd hc.2 (by simp)
  | stores hn | updates hn =>
    obtain rfl := hself rfl
    rw [hn] at h
    rw [moves_self]
    exact (hother (by simp)).mpr h
  | binds hlive | exits hlive howner => exact h.stays (hother (by simp)) rfl rfl

/-- A call that meets no other has come as far as its events say. -/
theorem soloPhase_of_run (hidle : s.calls n = .idle) (hsolo : SoloEvents n es)
    (hrun : Run (PartialSteps (rotateStep config)) s es t) :
    SoloPhase config s n es t (t.calls n) := by
  have hstart : SoloPhase config s n [] s (s.calls n) := by
    rw [hidle]
    refine ⟨?_, rfl⟩
    rintro ⟨before, after, v, hes, -⟩
    exact absurd hes (by simp)
  induction hrun with
  | nil => exact hstart
  | snoc hrun hlast ih =>
    have hbefore := ih fun e he ↦ hsolo e (List.mem_append_left _ he)
    exact hbefore.step hrun (hsolo _ (by simp)) hlast

/-- A call that fails leaves no child in the slot, whatever was there before. -/
theorem child_of_failed (hidle : s.calls n = .idle) (hsolo : SoloEvents n es)
    (hrun : Run (PartialSteps (rotateStep config)) s es t) {e : CrwError}
    (hfailed : t.calls n = .returned (.error e)) : t.child = none := by
  have h := soloPhase_of_run hidle hsolo hrun
  rw [hfailed] at h
  exact h.2.2

end Solo

/-- From every state, a call that returns `Err` keeps a live child that serves the current profile
in the slot exactly where it does not return `Err`: where the ladder is exhausted, or a probe of the
new child is answered. -/
theorem failed_rotation_serves_iff {config : TlsProxyConfig} {s t : SharedProxy}
    {es : List RotateEvent} {n : ℕ} {answer : Except CrwError (Option Str)}
    (hidle : s.calls n = .idle) (hsolo : SoloEvents n es)
    (hrun : Run (PartialSteps (rotateStep config)) s es t)
    (hreturned : t.calls n = .returned answer) :
    ((∃ e, t.calls n = .returned (.error e)) →
        ∃ pid, t.child = some pid ∧ t.procs.Serves pid t.currentProfile) ↔
      successor config.profiles s.currentProfile = none ∨ Answered config s n es := by
  have h := soloPhase_of_run hidle hsolo hrun
  rw [hreturned] at h
  cases answer with
  | error e =>
    obtain ⟨hunanswered, hnext, hchild⟩ := h
    constructor
    · intro hserves
      obtain ⟨pid, hpid, -⟩ := hserves ⟨e, hreturned⟩
      exact absurd (hpid.symm.trans hchild) (by simp)
    · rintro (hnone | hans)
      · exact absurd hnext (by simp [hnone])
      · exact absurd hans hunanswered
  | ok answer =>
    have hnoerror : ¬ ∃ e, t.calls n = .returned (.error e) := by
      rintro ⟨e, he⟩
      exact absurd (hreturned.symm.trans he) (by simp)
    refine ⟨fun _ ↦ ?_, fun _ he ↦ absurd he hnoerror⟩
    cases answer with
    | none => exact .inl h
    | some next => exact .inr h

theorem failed_rotation_serves_solo :
    ∃ t, Run (PartialSteps (rotateStep defaultConfig)) spawnedProxy (soloRotation 0 1) t ∧
      t.calls 0 = .returned (.ok (some "chrome_117")) ∧
      Answered defaultConfig spawnedProxy 0 (soloRotation 0 1) := by
  have hfold : ((soloRotation 0 1).foldlM (rotateStep defaultConfig) spawnedProxy).map
      (fun s : SharedProxy ↦ (s.calls 0).answer) = some (some (some ("chrome_117" : Str))) := by
    decide
  obtain ⟨t, ht, hanswer⟩ := Option.map_eq_some_iff.mp hfold
  have hrun := Run.of_foldlM ht
  have hreturned := RotateCall.answer_eq_some hanswer
  have hiff := failed_rotation_serves_iff rfl (by unfold SoloEvents; decide) hrun hreturned
  have hserves := hiff.mp fun ⟨e, he⟩ ↦ absurd (hreturned.symm.trans he) (by simp)
  exact ⟨t, hrun, hreturned, hserves.resolve_left (by decide)⟩

/-- The call has returned an error. -/
def RotateCall.failed : RotateCall → Bool
  | .returned (.error _) => true
  | _ => false

/-- The binary of the first rotation cannot be started, and the slot stays empty. -/
theorem not_serves_spawnFails :
    ¬ ∀ (config : TlsProxyConfig) (s₀ s t : SharedProxy) (before es : List RotateEvent) (n : ℕ),
      ProxyStart s₀ → Run (PartialSteps (rotateStep config)) s₀ before s → AllOk s →
      s.calls n = .idle → SoloEvents n es → Run (PartialSteps (rotateStep config)) s es t →
      (∃ e, t.calls n = .returned (.error e)) →
      ∃ pid, t.child = some pid ∧ t.procs.Serves pid t.currentProfile := by
  intro hall
  have hfold : ([.readProfile 0, .takeChild 0, .reap 0, .spawnFails 0 "No such file"].foldlM
      (rotateStep defaultConfig) spawnedProxy).map (fun s : SharedProxy ↦ (s.calls 0).failed) =
      some true := by
    decide
  obtain ⟨t, ht, hfailed⟩ := Option.map_eq_some_iff.mp hfold
  have hrun := Run.of_foldlM ht
  have hsolo : SoloEvents 0
      [.readProfile 0, .takeChild 0, .reap 0, .spawnFails 0 "No such file"] := by
    unfold SoloEvents
    decide
  cases hcall : t.calls 0 with
  | returned answer =>
    cases answer with
    | error e =>
      obtain ⟨pid, hpid, -⟩ := hall defaultConfig spawnedProxy spawnedProxy t [] _ 0
        proxyStart_spawned .nil (fun _ ↦ .inl rfl) rfl hsolo hrun ⟨e, hcall⟩
      exact absurd (hpid.symm.trans (child_of_failed rfl hsolo hrun hcall)) (by simp)
    | ok answer => exact absurd hfailed (by simp [hcall, RotateCall.failed])
  | _ => exact absurd hfailed (by simp [hcall, RotateCall.failed])

end CrwShield.Fetch
