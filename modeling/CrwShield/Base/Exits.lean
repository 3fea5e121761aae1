import Mathlib.Data.List.Basic

/-!
# Programs that leave early

A program of a state returns a value or leaves early, with the state it has then. What holds on
either way out follows from the parts of the program.
-/

namespace CrwShield.Base

universe u
variable {ε σ α β : Type u}

/-- From a state with `P`, the program returns with `Q` or leaves with `E`. -/
def Exits (P : σ → Prop) (m : EStateM ε σ α) (Q : α → σ → Prop) (E : ε → σ → Prop) : Prop :=
  ∀ s, P s → match m s with
    | .ok a t => Q a t
    | .error e t => E e t

/-- The state in which a program ends. -/
def endState : EStateM.Result ε σ α → σ
  | .ok _ t => t
  | .error _ t => t

namespace Exits

variable {P P' : σ → Prop} {m : EStateM ε σ α} {f : α → EStateM ε σ β} {Q Q' : α → σ → Prop}
  {R : β → σ → Prop} {E : ε → σ → Prop}

theorem pure {a : α} (h : ∀ s, P s → Q a s) : Exits P (Pure.pure a) Q E := h

theorem throw {e : ε} (h : ∀ s, P s → E e s) : Exits P (MonadExcept.throw e) Q E := h

theorem bind (hm : Exits P m Q E) (hf : ∀ a, Exits (Q a) (f a) R E) : Exits P (m >>= f) R E := by
  intro s hs
  have hrun : (m >>= f) s = match m s with
      | .ok a t => f a t
      | .error e t => .error e t := rfl
  have hfirst := hm s hs
  rw [hrun]
  cases h : m s with
  | ok a t => exact hf a t (by simpa only [h] using hfirst)
  | error e t => simpa only [h] using hfirst

/-- The program may be entered with more and left with less. -/
theorem imp (hm : Exits P m Q E) (hP : ∀ s, P' s → P s) (hQ : ∀ a s, Q a s → Q' a s) :
    Exits P' m Q' E := by
  intro s hs
  have hexits := hm s (hP s hs)
  cases h : m s with
  | ok a t => exact hQ a t (by simpa only [h] using hexits)
  | error e t => simpa only [h] using hexits

theorem leave {E' : ε → σ → Prop} (hm : Exits P m Q E) (hE : ∀ e s, E e s → E' e s) :
    Exits P m Q E' := by
  intro s hs
  have hexits := hm s hs
  cases h : m s with
  | ok a t => simpa only [h] using hexits
  | error e t => exact hE e t (by simpa only [h] using hexits)

/-- A fact that has nothing to do with the state may be assumed. -/
theorem lift {φ : Prop} (h : φ → Exits P m Q E) : Exits (fun s ↦ φ ∧ P s) m Q E :=
  fun s hs ↦ h hs.1 s hs.2

theorem or (hm : Exits P m Q E) (hm' : Exits P' m Q E) : Exits (fun s ↦ P s ∨ P' s) m Q E :=
  fun s hs ↦ hs.elim (hm s) (hm' s)

/-- What holds after a return and after leaving holds in the end. -/
theorem endState {s : σ} {S : σ → Prop} (hm : Exits P m (fun _ ↦ S) E) (hE : ∀ e t, E e t → S t)
    (hs : P s) : S (endState (m s)) := by
  have hexits := hm s hs
  cases h : m s with
  | ok a t => exact (by simpa only [h] using hexits : S t)
  | error e t => exact hE e t (by simpa only [h] using hexits)

theorem of_error {s t : σ} {e : ε} (hm : Exits P m Q E) (hs : P s) (h : m s = .error e t) :
    E e t := by
  simpa only [h] using hm s hs

/-- A branch is entered with its condition. -/
theorem ite {c : Prop} [Decidable c] {m' : EStateM ε σ α} (hm : c → Exits P m Q E)
    (hm' : ¬ c → Exits P m' Q E) : Exits P (if c then m else m') Q E := by
  split
  next hc => exact hm hc
  next hc => exact hm' hc

end Exits

section Loops

variable {P : σ → Prop} {E : ε → σ → Prop} {γ : Type u}

/-- What every round keeps, the loop keeps. -/
theorem Exits.loop {f : γ → EStateM ε σ PUnit} (l : List γ)
    (h : ∀ x, Exits P (f x) (fun _ ↦ P) E) : Exits P (forM l f) (fun _ ↦ P) E := by
  induction l with
  | nil => exact Exits.pure fun _ hs ↦ hs
  | cons x l ih =>
    rw [List.forM_cons]
    exact (h x).bind fun _ ↦ ih

/-- What the first round brings about and every round keeps holds after the loop. -/
theorem Exits.loop_cons {P' : σ → Prop} {f : γ → EStateM ε σ PUnit} {x : γ} (l : List γ)
    (hfirst : Exits P' (f x) (fun _ ↦ P) E) (h : ∀ y, Exits P (f y) (fun _ ↦ P) E) :
    Exits P' (forM (x :: l) f) (fun _ ↦ P) E := by
  rw [List.forM_cons]
  exact hfirst.bind fun _ ↦ Exits.loop l h

end Loops

end CrwShield.Base
