import Mathlib.Data.List.Induction

/-!
# Journals

What a table holds, told from the events that made it: an event may write a value under a key, or
remove values, which may depend on the events before it. A table that is updated event by event
holds exactly what has been written and has survived since.
-/

namespace CrwShield.Base

universe u v w

/-- What the events do to a table. -/
structure Journal (ε : Type u) (κ : Type v) (ν : Type w) where
  /-- What an event writes. -/
  writes : ε → Option (κ × ν)
  /-- Whether an event removes a value, given the events before it. -/
  removes : List ε → ε → κ → ν → Bool

namespace Journal

variable {ε : Type u} {κ : Type v} {ν : Type w} (J : Journal ε κ ν)

/-- A value is left alone under a key: nothing is written there, and it is not removed. -/
def Spares (before : List ε) (e : ε) (k : κ) (v : ν) : Prop :=
  (∀ v', J.writes e ≠ some (k, v')) ∧ J.removes before e k v = false

/-- A value has been written under a key, and every event since has spared it. -/
def Survives (events : List ε) (k : κ) (v : ν) : Prop :=
  ∃ before e after, events = before ++ e :: after ∧ J.writes e = some (k, v) ∧
    ∀ mid e' rest, after = mid ++ e' :: rest → J.Spares (before ++ e :: mid) e' k v

variable {J} {events : List ε} {e : ε} {k : κ} {v : ν}

theorem not_survives_nil : ¬ J.Survives [] k v := by
  rintro ⟨before, e, after, hsplit, -⟩
  exact absurd hsplit (by simp)

/-- One more event writes the value, or spares it. -/
theorem survives_concat :
    J.Survives (events ++ [e]) k v ↔
      J.writes e = some (k, v) ∨ J.Survives events k v ∧ J.Spares events e k v := by
  constructor
  · rintro ⟨before, e', after, hsplit, hwrite, hspared⟩
    rcases List.eq_nil_or_concat after with rfl | ⟨after, last, rfl⟩
    · obtain ⟨-, hlast⟩ := List.append_inj' hsplit rfl
      obtain rfl := List.singleton_inj.mp hlast
      exact .inl hwrite
    · right
      rw [List.concat_eq_append, ← List.cons_append, ← List.append_assoc] at hsplit
      obtain ⟨rfl, hlast⟩ := List.append_inj' hsplit rfl
      obtain rfl := List.singleton_inj.mp hlast
      refine ⟨⟨before, e', after, rfl, hwrite, fun mid e'' rest hafter ↦ ?_⟩, ?_⟩
      · apply hspared mid e'' (rest ++ [e])
        rw [List.concat_eq_append, hafter, List.append_assoc, List.cons_append]
      · exact hspared after e [] (List.concat_eq_append)
  · rintro (hwrite | ⟨⟨before, e', after, rfl, hwrite, hspared⟩, hlast⟩)
    · refine ⟨events, e, [], rfl, hwrite, fun mid e' rest hnil ↦ ?_⟩
      exact absurd hnil.symm (by simp)
    · refine ⟨before, e', after ++ [e], by simp, hwrite, fun mid e'' rest hafter ↦ ?_⟩
      rcases List.eq_nil_or_concat rest with rfl | ⟨rest, last, rfl⟩
      · obtain ⟨rfl, hsame⟩ := List.append_inj' hafter rfl
        obtain rfl := List.singleton_inj.mp hsame
        exact hlast
      · rw [List.concat_eq_append, ← List.cons_append, ← List.append_assoc] at hafter
        obtain ⟨rfl, -⟩ := List.append_inj' hafter rfl
        exact hspared mid e'' rest rfl

variable (J) in
/-- A table after an event, given the events before it: what the event writes, and what it spares of
the table. -/
def Follows (before : List ε) (e : ε) (table table' : κ → Option ν) : Prop :=
  ∀ k v, table' k = some v ↔
    J.writes e = some (k, v) ∨ table k = some v ∧ J.Spares before e k v

/-- A table that follows the events holds what survives. -/
theorem holds_iff_survives {σ : Type*} {table : σ → κ → Option ν} {step : σ → ε → σ} {start : σ}
    (hstart : ∀ k, table start k = none)
    (hstep : ∀ before e, J.Follows before e (table (before.foldl step start))
      (table (step (before.foldl step start) e)))
    (events : List ε) (k : κ) (v : ν) :
    table (events.foldl step start) k = some v ↔ J.Survives events k v := by
  induction events using List.reverseRecOn with
  | nil =>
    rw [List.foldl_nil, hstart]
    exact iff_of_false (by simp) not_survives_nil
  | append_singleton before e ih =>
    rw [List.foldl_append, List.foldl_cons, List.foldl_nil, hstep before e k v, ih,
      survives_concat]

end Journal
end CrwShield.Base
