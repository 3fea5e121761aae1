import CrwShield.Antibot.BlockDetection

/-!
# Rotation decisions

Crate `antibot`, `src/crates/antibot/src/rotation.rs`: accept a page (L0), clear cookies and retry
(L1), rotate the profile (L2) or give up on the host (L3).
-/

open CrwShield.Base

namespace CrwShield.Antibot

/-- Rotations allowed on one host; `rotation.rs:31`. -/
def maxRotationsPerHost : Nat := 3

/-- Seconds between a decision to rotate and the rotation; `rotation.rs:34`. -/
def l2CooldownSecs : Nat := 15

/-- What to do with a response; `rotation.rs:38–56`. -/
inductive RotationDecision where
  | accept
  | clearAndRetry (signal : BlockSignal)
  | rotate (signal : BlockSignal) (nextProfileIdx : Nat)
  | fail (signal : BlockSignal) (rotationsUsed : Nat)
  deriving DecidableEq

/-- Index proposed for the next profile; `rotation.rs:110–116`. The pool is not empty. -/
def nextProfileIdx (rotationsUsed profileIdx totalProfiles : Nat) : Nat :=
  if rotationsUsed = 0 ∧ 6 ≤ totalProfiles then 5 else (profileIdx + 1) % totalProfiles

/-- Decide from a detection result and the host's counter; `rotation.rs:77–121`. -/
def decideSignal (signal : Option BlockSignal) (counter : HostBlockCounter)
    (profileIdx totalProfiles : Nat) : RotationDecision :=
  match signal with
  | none => .accept
  | some s =>
    if maxRotationsPerHost ≤ counter.rotations then .fail s counter.rotations
    else if !counter.l1Attempted then .clearAndRetry s
    else .rotate s (nextProfileIdx counter.rotations profileIdx totalProfiles)

/-- Decide what to do with a page, marking L1 as tried when it is chosen; `rotation.rs:69–121`. -/
def decide (html title host : Str) (profileIdx : Nat) (counters : HostCounters)
    (totalProfiles : Nat) : Except Panic (RotationDecision × HostCounters) :=
  match detect html title with
  | .error e => .error e
  | .ok signal =>
    let decision := decideSignal signal (counterFor host counters) profileIdx totalProfiles
    match decision with
    | .clearAndRetry _ => .ok (decision, updateCounter host .markL1Attempted counters)
    | _ => .ok (decision, counters)

end CrwShield.Antibot
