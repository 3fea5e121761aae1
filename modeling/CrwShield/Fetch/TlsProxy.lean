import CrwShield.Base.Successor
import CrwShield.Core.Types

/-!
# The TLS proxy sidecar

Crate `fetch`, `src/crates/fetch/src/tls_proxy.rs`: the configuration read from the environment
and the rotation of the running child through the profile ladder. The outcome of starting a child
comes from outside. The last section settles when the ladder is walked once.
-/

open CrwShield.Base CrwShield.Base.Str CrwShield.Core

namespace CrwShield.Fetch

/-- Rotation ladder used when the operator gives none; `tls_proxy.rs:88–94`. -/
def defaultProfiles : List Str :=
  ["chrome_120", "chrome_117", "chrome_107", "firefox_117", "safari_16_0"]

/-- Configuration of the sidecar; `tls_proxy.rs:98–120`. Durations are in seconds. -/
structure TlsProxyConfig where
  binary : Str
  listen : Str
  profile : Str
  profiles : List Str
  rotationDelay : Nat
  caDir : Str
  bypass : Str
  timeout : Nat

/-- Initial profile named by the environment; `tls_proxy.rs:154–156`. -/
def startProfile (var : Str → Option Str) : Str := (var "TLS_PROXY_PROFILE").getD "chrome_120"

/-- Ladder named by the environment, the default one when it names none;
`tls_proxy.rs:162–172`. -/
def ladderNames (var : Str → Option Str) : List Str :=
  let named := (var "TLS_PROXY_PROFILES").map fun raw ↦
    ((split ',' raw).map trim).filter fun s ↦ !s.isEmpty
  (named.filter fun v ↦ !v.isEmpty).getD defaultProfiles

/-- Read the configuration from the environment; `tls_proxy.rs:137–217`. -/
def TlsProxyConfig.fromEnv (var : Str → Option Str) : Option TlsProxyConfig :=
  let enabled := (var "TLS_PROXY_ENABLED").any fun v ↦
    toAsciiLowercase v ∈ (["true", "1", "yes"] : List Str)
  if !enabled then none
  else
    let profile := startProfile var
    let names := ladderNames var
    some
      { binary := (var "TLS_PROXY_BINARY").getD "/usr/local/bin/tls-impersonate-proxy"
        listen := (var "TLS_PROXY_LISTEN").getD "127.0.0.1:7890"
        profile := profile
        profiles := if names.head? ≠ some profile then profile :: names else names
        rotationDelay := ((var "TLS_PROXY_ROTATION_DELAY_SECS").bind parseU64).getD 15
        caDir := (var "TLS_PROXY_CA_DIR").getD "/var/lib/crw-shield/tls-ca"
        bypass := (var "TLS_PROXY_BYPASS").getD "localhost,127.0.0.1,::1"
        timeout := ((var "TLS_PROXY_TIMEOUT_SECS").bind parseU64).getD 60 }

/-- The settings of an environment that only enables the proxy. -/
def defaultConfig : TlsProxyConfig where
  binary := "/usr/local/bin/tls-impersonate-proxy"
  listen := "127.0.0.1:7890"
  profile := "chrome_120"
  profiles := defaultProfiles
  rotationDelay := 15
  caDir := "/var/lib/crw-shield/tls-ca"
  bypass := "localhost,127.0.0.1,::1"
  timeout := 60

/-- Port of the listen address; `tls_proxy.rs:228–230`. -/
def TlsProxyConfig.port (config : TlsProxyConfig) : Option Nat :=
  ((split ':' config.listen).getLast?.bind parseU64).filter (· < 2 ^ 16)

/-- What becomes of a child that is started. -/
inductive ChildOutcome where
  | spawnFailed (error : Str)
  | notReady
  | exited (status : Str)
  | ready

/-- A running proxy: the profile of its child, if one is alive, and the profile it believes to be
current; `tls_proxy.rs:238–244`. -/
structure TlsProxy where
  config : TlsProxyConfig
  child : Option Str
  currentProfile : Str

namespace TlsProxy

/-- The error of a listen address without a port; `tls_proxy.rs:258–263`. -/
def invalidListen (config : TlsProxyConfig) : CrwError :=
  .fetch ("invalid tls-proxy listen address: " ++ config.listen)

/-- Start a child and wait for its port, as `spawn` and `rotate` do; `tag` names the profile in
the texts of `rotate`; `tls_proxy.rs:280–306,327–345,415–441`. -/
def startChild (config : TlsProxyConfig) (tag : Str) (outcome : ChildOutcome) :
    Except CrwError Unit :=
  match outcome, config.port with
  | .spawnFailed error, _ =>
    .error (.fetch ("failed to spawn tls-impersonate-proxy at " ++ config.binary ++ ": " ++ error))
  | _, none => .error (invalidListen config)
  | .notReady, some _ =>
    .error (.fetch ("tls-impersonate-proxy" ++ tag ++ " did not open " ++ config.listen ++
      " within 10s"))
  | .exited status, some _ =>
    .error (.fetch ("tls-impersonate-proxy" ++ tag ++ " exited prematurely: " ++ status))
  | .ready, some _ => .ok ()

/-- Start the proxy on the first profile of the ladder; `tls_proxy.rs:250–318`. -/
def spawn (config : TlsProxyConfig) (outcome : ChildOutcome) : Except CrwError TlsProxy :=
  match config.port with
  | none => .error (invalidListen config)
  | some _ =>
    let initial := config.profiles.head?.getD config.profile
    (startChild config "" outcome).map fun _ ↦ ⟨config, some initial, initial⟩

/-- The profile after the current one in the ladder; `tls_proxy.rs:355–365`. -/
def nextProfile (proxy : TlsProxy) : Option Str :=
  successor proxy.config.profiles proxy.currentProfile

/-- Replace the child by one on the next profile; the old child is gone even when the new one
fails; `tls_proxy.rs:381–458`. -/
def rotate (proxy : TlsProxy) (outcome : ChildOutcome) :
    Except CrwError (Option Str) × TlsProxy :=
  match proxy.nextProfile with
  | none => (.ok none, proxy)
  | some next =>
    match startChild proxy.config (" (profile=" ++ next ++ ")") outcome with
    | .error e => (.error e, { proxy with child := none })
    | .ok () => (.ok (some next), { proxy with child := some next, currentProfile := next })

/-- What one call of `rotate` can do: nothing when the ladder is exhausted, lose the child, or move
to the next profile. -/
theorem rotate_cases {p q : TlsProxy} {o : ChildOutcome} {r : Except CrwError (Option Str)}
    (h : p.rotate o = (r, q)) :
    (p.nextProfile = none ∧ r = .ok none ∧ q = p) ∨
    (∃ e, r = .error e ∧ q = { p with child := none }) ∨
    (∃ next, p.nextProfile = some next ∧ r = .ok (some next) ∧
      q = { p with child := some next, currentProfile := next }) := by
  unfold rotate at h
  split at h
  · next hn =>
    obtain ⟨rfl, rfl⟩ := Prod.mk.inj h
    exact .inl ⟨hn, rfl, rfl⟩
  · next next hn =>
    split at h
    · next e _ =>
      obtain ⟨rfl, rfl⟩ := Prod.mk.inj h
      exact .inr (.inl ⟨e, rfl, rfl⟩)
    · obtain ⟨rfl, rfl⟩ := Prod.mk.inj h
      exact .inr (.inr ⟨next, hn, rfl, rfl⟩)

/-- A child that comes up on a valid listen address is running. -/
theorem rotate_ready {p : TlsProxy} {next : Str} (hport : p.config.port.isSome)
    (hn : p.nextProfile = some next) :
    p.rotate .ready =
      (.ok (some next), { p with child := some next, currentProfile := next }) := by
  obtain ⟨port, hport⟩ := Option.isSome_iff_exists.mp hport
  simp only [rotate, hn, startChild, hport]

/-- A spawned proxy runs its ladder's first profile and has a port. -/
theorem spawn_ok {config : TlsProxyConfig} {o : ChildOutcome} {p : TlsProxy}
    (h : spawn config o = .ok p) :
    p.config = config ∧ p.currentProfile = config.profiles.head?.getD config.profile ∧
      config.port.isSome := by
  unfold spawn at h
  split at h
  · exact absurd h (by simp)
  · next hport =>
    dsimp only at h
    cases hc : startChild config "" o with
    | error e =>
      rw [hc] at h
      exact absurd h (by simp [Except.map])
    | ok u =>
      rw [hc] at h
      obtain rfl := Except.ok.inj h
      exact ⟨rfl, rfl, by simp [hport]⟩

/-- With a port, a child that comes up is a running proxy. -/
theorem spawn_ready {config : TlsProxyConfig} (hport : config.port.isSome) :
    spawn config .ready = .ok
      ⟨config, some (config.profiles.head?.getD config.profile),
        config.profiles.head?.getD config.profile⟩ := by
  obtain ⟨port, hport⟩ := Option.isSome_iff_exists.mp hport
  simp only [spawn, hport, startChild, Except.map]

/-- One call of `rotate`; the label is the outcome of the child and the answer. -/
def Rotated (p : TlsProxy) (call : ChildOutcome × Except CrwError (Option Str))
    (q : TlsProxy) : Prop :=
  p.rotate call.1 = (call.2, q)

/-- Profiles reached by the successful calls. -/
def visited (calls : List (ChildOutcome × Except CrwError (Option Str))) : List Str :=
  calls.filterMap fun call ↦ call.2.toOption.join

/-- From this proxy the ladder is walked once: the profiles visited are distinct, differ from the
initial one and follow the ladder, and once the ladder's length less one have been visited every
call answers `Ok(None)` and changes nothing. -/
structure WalksLadderOnce (p : TlsProxy) : Prop where
  distinct : ∀ calls q, Run Rotated p calls q → (p.currentProfile :: visited calls).Nodup
  inOrder : ∀ calls q, Run Rotated p calls q →
    (p.currentProfile :: visited calls).Sublist p.config.profiles
  ends : ∀ calls q, Run Rotated p calls q →
    p.config.profiles.length - 1 ≤ (visited calls).length → ∀ o, q.rotate o = (.ok none, q)

private theorem visited_snoc (calls : List (ChildOutcome × Except CrwError (Option Str)))
    (call : ChildOutcome × Except CrwError (Option Str)) :
    visited (calls ++ [call]) = visited calls ++ call.2.toOption.join.toList := by
  cases hc : call.2.toOption.join <;> simp [visited, hc]

/-- The calls of `rotate` walk the ladder as the list successor does. -/
private theorem walk_of_run {p q : TlsProxy}
    {calls : List (ChildOutcome × Except CrwError (Option Str))} (h : Run Rotated p calls q) :
    q.config = p.config ∧
      Run (Walks p.config.profiles) p.currentProfile (visited calls) q.currentProfile := by
  induction h with
  | nil => exact ⟨rfl, .nil⟩
  | @snoc calls p' call q _ hlast ih =>
    obtain ⟨hconfig, hrun⟩ := ih
    rw [visited_snoc]
    rcases rotate_cases hlast with ⟨-, hr, rfl⟩ | ⟨e, hr, rfl⟩ | ⟨next, hn, hr, rfl⟩
    · exact ⟨hconfig, by simpa [hr, Except.toOption] using hrun⟩
    · exact ⟨hconfig, by simpa [hr, Except.toOption] using hrun⟩
    · refine ⟨hconfig, ?_⟩
      rw [hr]
      exact hrun.snoc ⟨by rw [← hconfig]; exact hn, rfl⟩

/-- Every walk of the list successor is made by calls whose children come up. -/
theorem run_of_walk {p : TlsProxy} (hport : p.config.port.isSome) {vs : List Str}
    {cur : Str} (h : Run (Walks p.config.profiles) p.currentProfile vs cur) :
    ∃ calls q, Run Rotated p calls q ∧ visited calls = vs ∧ q.config = p.config ∧
      q.currentProfile = cur := by
  induction h with
  | nil => exact ⟨[], p, .nil, rfl, rfl, rfl⟩
  | snoc _ hlast ih =>
    obtain ⟨calls, q, hrun, rfl, hconfig, rfl⟩ := ih
    obtain ⟨hsucc, rfl⟩ := hlast
    have hr : Rotated q (.ready, .ok (some _)) _ := rotate_ready (hconfig ▸ hport)
      (by rw [nextProfile, hconfig]; exact hsucc)
    exact ⟨_, _, hrun.snoc hr, by simp [visited_snoc, Except.toOption], hconfig, rfl⟩

/-- A proxy on the first profile of its ladder walks it once exactly when no profile is listed
twice. -/
theorem walksLadderOnce_iff_nodup {p : TlsProxy} {tail : List Str}
    (hport : p.config.port.isSome) (hladder : p.config.profiles = p.currentProfile :: tail) :
    p.WalksLadderOnce ↔ p.config.profiles.Nodup := by
  constructor
  · intro hw
    by_contra hdup
    rw [hladder] at hdup
    obtain ⟨vs, cur, hrun, hvs⟩ := exists_run_of_duplicate hdup
    rw [← hladder] at hrun
    obtain ⟨calls, q, hcalls, rfl, -, -⟩ := run_of_walk hport hrun
    exact hvs (hw.distinct calls q hcalls)
  · intro hnd
    rw [hladder] at hnd
    have hinit : ∀ {calls q}, Run Rotated p calls q →
        (p.currentProfile :: visited calls) <+: p.config.profiles ∧
        q.currentProfile = (p.currentProfile :: visited calls).getLast (List.cons_ne_nil _ _) := by
      intro calls q h
      have hrun := (walk_of_run h).2
      rw [hladder] at hrun ⊢
      exact prefix_of_run hnd hrun
    refine ⟨fun calls q h ↦ ?_, fun calls q h ↦ (hinit h).1.sublist, fun calls q h hlen o ↦ ?_⟩
    · rw [← hladder] at hnd
      exact hnd.sublist (hinit h).1.sublist
    · obtain ⟨⟨rest, hrest⟩, hcur⟩ := hinit h
      have hrest_nil : rest = [] := by
        have hl := congrArg List.length hrest
        simp only [List.length_append, List.length_cons] at hl
        exact List.length_eq_zero_iff.mp (by omega)
      have hvs : (p.currentProfile :: visited calls).Nodup := by
        rw [← hladder] at hnd
        exact (List.prefix_append _ rest).sublist.nodup (hrest ▸ hnd)
      have hnext : q.nextProfile = none := by
        rw [nextProfile, (walk_of_run h).1, ← hrest, hcur, successor_getLast hvs, hrest_nil]
        rfl
      simp only [rotate, hnext]

/-- A spawned proxy walks its ladder once exactly when no profile is listed twice. -/
theorem walksLadderOnce_of_spawn {config : TlsProxyConfig} {o : ChildOutcome} {p : TlsProxy}
    (hspawn : spawn config o = .ok p) (hne : config.profiles ≠ []) :
    p.WalksLadderOnce ↔ config.profiles.Nodup := by
  obtain ⟨rfl, hcur, hport⟩ := spawn_ok hspawn
  obtain ⟨first, tail, hladder⟩ := List.exists_cons_of_ne_nil hne
  refine walksLadderOnce_iff_nodup hport (?_ : _ = _ :: tail)
  rw [hcur, hladder]
  rfl

end TlsProxy

/-- The ladder built from the environment starts with the start profile. -/
theorem profiles_fromEnv {var : Str → Option Str} {config : TlsProxyConfig}
    (h : TlsProxyConfig.fromEnv var = some config) :
    config.profiles =
      if (ladderNames var).head? ≠ some (startProfile var) then startProfile var :: ladderNames var
      else ladderNames var := by
  unfold TlsProxyConfig.fromEnv at h
  dsimp only at h
  split at h
  · exact absurd h (by simp)
  · rw [← Option.some.inj h]

private theorem profiles_fromEnv_ne_nil {var : Str → Option Str} {config : TlsProxyConfig}
    (h : TlsProxyConfig.fromEnv var = some config) : config.profiles ≠ [] := by
  rw [profiles_fromEnv h]
  split
  · exact List.cons_ne_nil _ _
  · next hfirst =>
    intro hnil
    exact hfirst (by simp [hnil])

/-- No name of the environment's ladder occurs twice, and the start profile is the first of them or
not among them. -/
def LadderNamesDistinct (var : Str → Option Str) : Prop :=
  (ladderNames var).Nodup ∧
    ((ladderNames var).head? = some (startProfile var) ∨ startProfile var ∉ ladderNames var)

instance (var : Str → Option Str) : Decidable (LadderNamesDistinct var) :=
  inferInstanceAs (Decidable (_ ∧ _))

/-- The proxy spawned from an environment walks the ladder once exactly when the environment's
ladder names are distinct and the start profile does not reappear among them. -/
theorem walksLadderOnce_iff {var : Str → Option Str} {config : TlsProxyConfig} {o : ChildOutcome}
    {p : TlsProxy} (henv : TlsProxyConfig.fromEnv var = some config)
    (hspawn : TlsProxy.spawn config o = .ok p) :
    p.WalksLadderOnce ↔ LadderNamesDistinct var := by
  rw [TlsProxy.walksLadderOnce_of_spawn hspawn (profiles_fromEnv_ne_nil henv),
    profiles_fromEnv henv, LadderNamesDistinct]
  by_cases hfirst : (ladderNames var).head? = some (startProfile var)
  · simp [hfirst]
  · rw [if_pos hfirst, List.nodup_cons]
    simp only [hfirst, false_or]
    exact and_comm

/-- An environment that enables the proxy and names a start profile. -/
def envWithProfile (profile : Option Str) (key : Str) : Option Str :=
  if key = "TLS_PROXY_ENABLED" then some "true"
  else if key = "TLS_PROXY_PROFILE" then profile
  else none

private theorem exists_spawned {var : Str → Option Str}
    (h : (TlsProxyConfig.fromEnv var).any fun config ↦ config.port.isSome) :
    ∃ config p, TlsProxyConfig.fromEnv var = some config ∧
      TlsProxy.spawn config .ready = .ok p := by
  cases henv : TlsProxyConfig.fromEnv var with
  | none => simp [henv] at h
  | some config =>
    exact ⟨config, _, rfl, TlsProxy.spawn_ready (by simpa [henv] using h)⟩

/-- With the default settings the default ladder is walked once. -/
theorem walksLadderOnce_default :
    ∃ config p, TlsProxyConfig.fromEnv (envWithProfile none) = some config ∧
      TlsProxy.spawn config .ready = .ok p ∧ p.WalksLadderOnce := by
  obtain ⟨config, p, henv, hspawn⟩ :=
    @exists_spawned (envWithProfile none) (by decide)
  exact ⟨config, p, henv, hspawn, (walksLadderOnce_iff henv hspawn).mpr (by decide)⟩

/-- Starting on the second profile of the default ladder prepends it, and the walk goes back and
forth between the first two entries. -/
theorem not_walksLadderOnce_chrome117 :
    ¬ ∀ (var : Str → Option Str) (config : TlsProxyConfig) (o : ChildOutcome) (p : TlsProxy),
      TlsProxyConfig.fromEnv var = some config → TlsProxy.spawn config o = .ok p →
      p.WalksLadderOnce := by
  intro hall
  obtain ⟨config, p, henv, hspawn⟩ :=
    @exists_spawned (envWithProfile (some "chrome_117")) (by decide)
  have hnd := (TlsProxy.walksLadderOnce_of_spawn hspawn (profiles_fromEnv_ne_nil henv)).mp
    (hall _ config .ready p henv hspawn)
  rw [profiles_fromEnv henv] at hnd
  revert hnd
  decide

end CrwShield.Fetch
