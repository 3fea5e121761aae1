import CrwShield.Base.Digits

/-!
# String literals of JavaScript

Reading a literal in single quotes, one character after the other, into the code units that it
stands for. Line ends in a literal are errors, and a backslash begins an escape: a code point in
hexadecimal digits, an octal number, a control character, a line that goes on, or the character
itself. A text whose quotes are escaped reads back as itself exactly when it has neither
backslashes nor line ends.
-/

namespace CrwShield.Base.JsString

/-- Code units of a code point in UTF-16. -/
def unitsOf (n : Nat) : List Nat :=
  if n < 0x10000 then [n] else [0xD800 + (n - 0x10000) / 0x400, 0xDC00 + (n - 0x10000) % 0x400]

/-- Code units of a text. -/
def utf16 (s : Str) : List Nat := s.flatMap fun c ↦ unitsOf c.toNat

theorem utf16_cons (c : Char) (s : Str) : utf16 (c :: s) = unitsOf c.toNat ++ utf16 s := rfl

theorem length_unitsOf_pos (n : Nat) : 0 < (unitsOf n).length := by
  unfold unitsOf
  split <;> simp

/-- Where the reader is in a literal. -/
inductive State where
  | plain
  | escape
  | hex (left value : Nat)
  | unicode
  | codePoint (value : Option Nat)
  | octal (left value : Nat)
  | carriageReturn
  deriving DecidableEq

/-- What a character does: it adds code units, and ends the literal or leads to the next state. -/
structure Effect where
  units : List Nat
  next : Option State
  deriving DecidableEq

/-- A character outside escapes; none at a line end. -/
def plainStep (c : Char) : Option Effect :=
  if c = '\'' then some ⟨[], none⟩
  else if c = '\\' then some ⟨[], some .escape⟩
  else if c = '\n' ∨ c = '\r' then none
  else some ⟨unitsOf c.toNat, some .plain⟩

/-- The control character that a letter stands for behind a backslash. -/
def controlOf (c : Char) : Option Nat :=
  if c = 'b' then some 8
  else if c = 't' then some 9
  else if c = 'n' then some 10
  else if c = 'v' then some 11
  else if c = 'f' then some 12
  else if c = 'r' then some 13
  else none

/-- The character after a backslash. -/
def escapeStep (c : Char) : Effect :=
  if c = 'x' then ⟨[], some (.hex 1 0)⟩
  else if c = 'u' then ⟨[], some .unicode⟩
  else if c = '\r' then ⟨[], some .carriageReturn⟩
  else if c = '\n' ∨ c.toNat = 0x2028 ∨ c.toNat = 0x2029 then ⟨[], some .plain⟩
  else match controlOf c with
    | some n => ⟨[n], some .plain⟩
    | none =>
      match octalDigit c with
      | some d => ⟨[], some (.octal (if d < 4 then 2 else 1) d)⟩
      | none => ⟨unitsOf c.toNat, some .plain⟩

/-- A digit of a number with a fixed number of hexadecimal digits. -/
def hexStep (left value : Nat) (c : Char) : Option Effect :=
  (hexDigit c).map fun d ↦
    if left = 0 then ⟨[16 * value + d], some .plain⟩
    else ⟨[], some (.hex (left - 1) (16 * value + d))⟩

/-- The character after `\u`. -/
def unicodeStep (c : Char) : Option Effect :=
  if c = '\x7b' then some ⟨[], some (.codePoint none)⟩
  else (hexDigit c).map fun d ↦ ⟨[], some (.hex 2 d)⟩

/-- A character of a code point in braces. -/
def codePointStep (value : Option Nat) (c : Char) : Option Effect :=
  if c = '\x7d' then (value.filter (· ≤ 0x10FFFF)).map fun n ↦ ⟨unitsOf n, some .plain⟩
  else (hexDigit c).map fun d ↦ ⟨[], some (.codePoint (some (16 * value.getD 0 + d)))⟩

/-- A character behind the first digit of an octal number, which ends with its last digit or before
a character that is none. -/
def octalStep (left value : Nat) (c : Char) : Option Effect :=
  match left, octalDigit c with
  | left + 1, some d => some ⟨[], some (.octal left (8 * value + d))⟩
  | _, _ => (plainStep c).map fun e ↦ ⟨value :: e.units, e.next⟩

/-- One character. -/
def step : State → Char → Option Effect
  | .plain => plainStep
  | .escape => fun c ↦ some (escapeStep c)
  | .hex left value => hexStep left value
  | .unicode => unicodeStep
  | .codePoint value => codePointStep value
  | .octal left value => octalStep left value
  | .carriageReturn => fun c ↦ if c = '\n' then some ⟨[], some .plain⟩ else plainStep c

/-- Read the rest of a literal: its code units, and what follows the closing quote. -/
def readFrom : State → Str → Option (List Nat × Str)
  | _, [] => none
  | σ, c :: s => (step σ c).bind fun e ↦
    match e.next with
    | none => some (e.units, s)
    | some τ => (readFrom τ s).map fun r ↦ (e.units ++ r.1, r.2)

/-- Put a backslash before every quote. -/
def escapeQuotes (s : Str) : Str := s.flatMap fun c ↦ if c = '\'' then ['\\', '\''] else [c]

theorem escapeQuotes_quote (s : Str) : escapeQuotes ('\'' :: s) = '\\' :: '\'' :: escapeQuotes s :=
  rfl

theorem escapeQuotes_cons {c : Char} (h : c ≠ '\'') (s : Str) :
    escapeQuotes (c :: s) = c :: escapeQuotes s := by
  simp [escapeQuotes, h]

section Reading

variable {σ τ : State} {c : Char} {s rest after : Str} {units value : List Nat} {e : Effect}
  {next : Option State}

theorem readFrom_cons (σ : State) (c : Char) (s : Str) :
    readFrom σ (c :: s) = (step σ c).bind fun e ↦
      match e.next with
      | none => some (e.units, s)
      | some τ => (readFrom τ s).map fun r ↦ (e.units ++ r.1, r.2) := rfl

theorem readFrom_next (h : step σ c = some ⟨units, some τ⟩) (s : Str) :
    readFrom σ (c :: s) = (readFrom τ s).map fun r ↦ (units ++ r.1, r.2) := by
  rw [readFrom_cons, h]
  rfl

theorem readFrom_close (h : step σ c = some ⟨units, none⟩) (s : Str) :
    readFrom σ (c :: s) = some (units, s) := by
  rw [readFrom_cons, h]
  rfl

/-- What follows a literal is shorter than what was read. -/
theorem length_lt_of_readFrom (h : readFrom σ s = some (value, rest)) :
    rest.length < s.length := by
  induction s generalizing σ value with
  | nil => exact absurd h (by simp [readFrom])
  | cons c s ih =>
    rw [readFrom_cons] at h
    obtain ⟨⟨units, next⟩, -, h⟩ := Option.bind_eq_some_iff.mp h
    cases next with
    | none =>
      obtain ⟨-, rfl⟩ := Prod.mk.inj (Option.some.inj h)
      exact Nat.lt_succ_self _
    | some τ =>
      obtain ⟨r, hr, heq⟩ := Option.map_eq_some_iff.mp h
      obtain ⟨-, rfl⟩ := Prod.mk.inj heq
      exact Nat.lt_succ_of_lt (ih hr)

/-- Code units that an escape may add beside those of the characters still to come. -/
def credit : Option State → Nat
  | none | some .plain | some .escape | some .carriageReturn => 0
  | some (.hex ..) | some .unicode | some (.octal ..) => 1
  | some (.codePoint _) => 2

theorem plainStep_le (h : plainStep c = some e) :
    e.units.length + credit e.next ≤ (unitsOf c.toNat).length := by
  unfold plainStep at h
  split_ifs at h <;> (obtain rfl := Option.some.inj h; simp [credit])

theorem length_unitsOf_le (n : Nat) : (unitsOf n).length ≤ 2 := by
  unfold unitsOf
  split <;> simp

theorem escapeStep_le (c : Char) :
    (escapeStep c).units.length + credit (escapeStep c).next ≤ (unitsOf c.toNat).length := by
  have hpos := length_unitsOf_pos c.toNat
  unfold escapeStep
  repeat' split
  all_goals simp only [credit, List.length_nil, List.length_singleton]
  all_goals omega

/-- A character adds no more than its own code units and those that are due. -/
theorem step_le (h : step σ c = some e) :
    e.units.length + credit e.next ≤ (unitsOf c.toNat).length + credit (some σ) := by
  have hpos := length_unitsOf_pos c.toNat
  cases σ with
  | plain => exact plainStep_le h
  | escape =>
    obtain rfl := Option.some.inj h
    exact escapeStep_le c
  | hex left value =>
    obtain ⟨d, -, rfl⟩ := Option.map_eq_some_iff.mp h
    split <;> simp only [credit, List.length_nil, List.length_singleton] <;> omega
  | unicode =>
    change unicodeStep c = some e at h
    unfold unicodeStep at h
    split at h
    · obtain rfl := Option.some.inj h
      simp only [credit, List.length_nil]
      omega
    · obtain ⟨d, -, rfl⟩ := Option.map_eq_some_iff.mp h
      simp only [credit, List.length_nil]
      omega
  | codePoint value =>
    change codePointStep value c = some e at h
    unfold codePointStep at h
    split at h
    · obtain ⟨n, -, rfl⟩ := Option.map_eq_some_iff.mp h
      have hle := length_unitsOf_le n
      simp only [credit]
      omega
    · obtain ⟨d, -, rfl⟩ := Option.map_eq_some_iff.mp h
      simp only [credit, List.length_nil]
      omega
  | octal left value =>
    change octalStep left value c = some e at h
    unfold octalStep at h
    split at h
    · obtain rfl := Option.some.inj h
      simp only [credit, List.length_nil]
      omega
    · obtain ⟨e, he, rfl⟩ := Option.map_eq_some_iff.mp h
      have hle := plainStep_le he
      simp only [List.length_cons, credit] at hle ⊢
      omega
  | carriageReturn =>
    change (if c = '\n' then _ else plainStep c) = some e at h
    split at h
    · obtain rfl := Option.some.inj h
      simp [credit]
    · exact plainStep_le h

/-- What a backslash does: it ends an octal number and begins an escape, or it is one. -/
theorem step_backslash (h : step σ '\\' = some ⟨units, next⟩) :
    units.length ≤ credit (some σ) ∧ next = some .escape ∨ σ = .escape ∧ next = some .plain := by
  cases σ with
  | plain | carriageReturn =>
    obtain ⟨rfl, rfl⟩ := Effect.mk.inj (Option.some.inj h)
    exact .inl ⟨Nat.le_refl 0, rfl⟩
  | escape =>
    obtain ⟨-, rfl⟩ := Effect.mk.inj (Option.some.inj h)
    exact .inr ⟨rfl, rfl⟩
  | hex left value | unicode | codePoint value => exact absurd h (by simp [step, hexStep,
      unicodeStep, codePointStep, hexDigit])
  | octal left value =>
    obtain ⟨rfl, rfl⟩ : units = [value] ∧ next = some .escape := by
      cases left <;> exact (Effect.mk.inj (Option.some.inj h)).imp Eq.symm Eq.symm
    exact .inl ⟨Nat.le_refl 1, rfl⟩

/-- A quote that ends a literal adds no more than what is due. -/
theorem step_quote (h : step σ '\'' = some ⟨units, none⟩) : units.length ≤ credit (some σ) := by
  cases σ with
  | plain | carriageReturn =>
    obtain ⟨rfl, -⟩ := Effect.mk.inj (Option.some.inj h)
    exact Nat.le_refl 0
  | escape => exact absurd (Effect.mk.inj (Option.some.inj h)).2 (by simp)
  | hex left value | unicode | codePoint value => exact absurd h (by simp [step, hexStep,
      unicodeStep, codePointStep, hexDigit])
  | octal left value =>
    obtain rfl : units = [value] := by
      cases left <;> exact (Effect.mk.inj (Option.some.inj h)).1.symm
    exact Nat.le_refl 1

/-- Reading up to the quote that was put behind a text with its quotes escaped gives no more code
units than the text has, and those that are due. -/
theorem length_le_of_readFrom (h : readFrom σ (escapeQuotes s ++ '\'' :: after) =
    some (value, after)) : value.length ≤ (utf16 s).length + credit (some σ) := by
  induction s generalizing σ value with
  | nil =>
    rw [escapeQuotes, List.flatMap_nil, List.nil_append, readFrom_cons] at h
    obtain ⟨⟨units, next⟩, hstep, h⟩ := Option.bind_eq_some_iff.mp h
    cases next with
    | none =>
      obtain ⟨rfl, -⟩ := Prod.mk.inj (Option.some.inj h)
      have hle := step_quote hstep
      rw [utf16, List.flatMap_nil, List.length_nil, Nat.zero_add]
      exact hle
    | some τ =>
      -- the closing quote was escaped, so the literal goes on and ends later if at all
      obtain ⟨r, hr, heq⟩ := Option.map_eq_some_iff.mp h
      have hlt := length_lt_of_readFrom hr
      rw [(Prod.mk.inj heq).2] at hlt
      exact absurd hlt (Nat.lt_irrefl _)
  | cons c s ih =>
    by_cases hc : c = '\''
    · subst hc
      rw [escapeQuotes_quote, List.cons_append, readFrom_cons] at h
      obtain ⟨⟨units, next⟩, hstep, h⟩ := Option.bind_eq_some_iff.mp h
      rcases step_backslash hstep with ⟨hle, rfl⟩ | ⟨-, rfl⟩
      · have hquote : step .escape '\'' = some ⟨[39], some .plain⟩ := by decide
        dsimp only at h
        rw [List.cons_append, readFrom_next hquote, Option.map_map] at h
        obtain ⟨r, hr, heq⟩ := Option.map_eq_some_iff.mp h
        obtain ⟨rfl, hafter⟩ := Prod.mk.inj heq
        have hrest : r.1.length ≤ (utf16 s).length :=
          ih (hr.trans (congrArg some (Prod.ext rfl hafter)))
        have hunits : (unitsOf '\''.toNat).length = 1 := by decide
        have hvalue : (units ++ 39 :: r.1).length = units.length + (r.1.length + 1) :=
          List.length_append
        have hlength : (unitsOf '\''.toNat ++ utf16 s).length = 1 + (utf16 s).length := by
          rw [List.length_append, hunits]
        rw [utf16_cons, hlength]
        exact hvalue.trans_le (by omega)
      · -- the backslash was escaped, so the quote behind it ends the literal early
        have hclose : step .plain '\'' = some ⟨[], none⟩ := by decide
        dsimp only at h
        rw [List.cons_append, readFrom_close hclose] at h
        have hlength := congrArg List.length (Prod.mk.inj (Option.some.inj h)).2
        rw [List.length_append, List.length_cons] at hlength
        omega
    · rw [escapeQuotes_cons hc, List.cons_append, readFrom_cons] at h
      obtain ⟨⟨units, next⟩, hstep, h⟩ := Option.bind_eq_some_iff.mp h
      have hle := step_le hstep
      rw [utf16_cons, List.length_append]
      cases next with
      | none =>
        obtain ⟨rfl, -⟩ := Prod.mk.inj (Option.some.inj h)
        simp only [credit] at hle ⊢
        omega
      | some τ =>
        obtain ⟨r, hr, heq⟩ := Option.map_eq_some_iff.mp h
        obtain ⟨rfl, hafter⟩ := Prod.mk.inj heq
        have hrest : r.1.length ≤ (utf16 s).length + credit (some τ) :=
          ih (hr.trans (congrArg some (Prod.ext rfl hafter)))
        have hvalue : (units ++ r.1).length = units.length + r.1.length := List.length_append
        dsimp only at hle
        exact hvalue.trans_le (by omega)

/-- A character that stands for itself in a literal in single quotes. -/
def Plain (c : Char) : Prop := c ≠ '\\' ∧ c ≠ '\n' ∧ c ≠ '\r'

instance (c : Char) : Decidable (Plain c) := inferInstanceAs (Decidable (_ ∧ _))

theorem readFrom_plain_cons (hc : Plain c) (s : Str) :
    readFrom .plain (escapeQuotes (c :: s) ++ rest) =
      (readFrom .plain (escapeQuotes s ++ rest)).map fun r ↦ (unitsOf c.toNat ++ r.1, r.2) := by
  by_cases hquote : c = '\''
  · subst hquote
    have hslash : step .plain '\\' = some ⟨[], some .escape⟩ := by decide
    have hescaped : step .escape '\'' = some ⟨unitsOf '\''.toNat, some .plain⟩ := by decide
    rw [escapeQuotes_quote, List.cons_append, List.cons_append, readFrom_next hslash,
      readFrom_next hescaped, Option.map_map]
    rfl
  · have hstep : step .plain c = some ⟨unitsOf c.toNat, some .plain⟩ := by
      have hline : ¬ (c = '\n' ∨ c = '\r') := not_or.mpr hc.2
      simp [step, plainStep, hquote, hc.1, hline]
    rw [escapeQuotes_cons hquote, List.cons_append, readFrom_next hstep]

/-- A text with its quotes escaped reads back as itself exactly when it is plain. -/
theorem readFrom_escapeQuotes_iff (s after : Str) :
    readFrom .plain (escapeQuotes s ++ '\'' :: after) = some (utf16 s, after) ↔
      ∀ c ∈ s, Plain c := by
  induction s with
  | nil => exact iff_of_true rfl (by simp)
  | cons c s ih =>
    rw [List.forall_mem_cons]
    by_cases hc : Plain c
    · have hcancel : (readFrom .plain (escapeQuotes s ++ '\'' :: after)).map
          (fun r ↦ (unitsOf c.toNat ++ r.1, r.2)) = some (utf16 (c :: s), after) ↔
            readFrom .plain (escapeQuotes s ++ '\'' :: after) = some (utf16 s, after) := by
        rw [Option.map_eq_some_iff, utf16_cons]
        constructor
        · rintro ⟨r, hr, heq⟩
          obtain ⟨hunits, hafter⟩ := Prod.mk.inj heq
          exact hr.trans (congrArg some (Prod.ext (List.append_cancel_left hunits) hafter))
        · exact fun h ↦ ⟨_, h, rfl⟩
      rw [readFrom_plain_cons hc, hcancel, ih]
      exact ⟨fun h ↦ ⟨hc, h⟩, fun h ↦ h.2⟩
    · refine iff_of_false (fun h ↦ ?_) fun h ↦ hc h.1
      have hquote : c ≠ '\'' := by
        rintro rfl
        exact hc (by decide)
      rw [escapeQuotes_cons hquote, List.cons_append] at h
      by_cases hslash : c = '\\'
      · -- an escape that the text itself begins is short of the code unit of its backslash
        subst hslash
        have hstep : step .plain '\\' = some ⟨[], some .escape⟩ := by decide
        rw [readFrom_next hstep] at h
        obtain ⟨r, hr, heq⟩ := Option.map_eq_some_iff.mp h
        obtain ⟨hunits, hafter⟩ := Prod.mk.inj heq
        have hle : r.1.length ≤ (utf16 s).length :=
          length_le_of_readFrom (hr.trans (congrArg some (Prod.ext rfl hafter)))
        have hlength := congrArg List.length hunits
        rw [List.nil_append, utf16_cons, List.length_append] at hlength
        have hpos := length_unitsOf_pos '\\'.toNat
        omega
      · have hline : c = '\n' ∨ c = '\r' := by
          by_contra hnot
          exact hc ⟨hslash, not_or.mp hnot⟩
        have hstep : step .plain c = none := by
          rcases hline with rfl | rfl <;> decide
        rw [readFrom_cons, hstep] at h
        exact absurd h (by simp)

end Reading
end CrwShield.Base.JsString
