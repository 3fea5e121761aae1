import Mathlib.Algebra.Order.Ring.Nat
import Mathlib.Data.List.Basic
import Mathlib.Data.List.DropRight
import Mathlib.Tactic.SplitIfs

/-!
# Bytes

Strings of a language whose strings are bytes, and what is written to and read from a connection:
ASCII literals, letter case, and decimal numbers.
-/

namespace CrwShield.Base

/-- Sequences of bytes. -/
abbrev Bytes := List UInt8

/-- A string literal of ASCII characters denotes its bytes. -/
def ascii (s : String) : Bytes := s.toList.map fun c ↦ UInt8.ofNat c.toNat

instance : Coe String Bytes := ⟨ascii⟩

namespace Bytes

/-- Carriage return and line feed. -/
def crlf : Bytes := [13, 10]

/-- An ASCII capital in lower case. -/
def lower (b : UInt8) : UInt8 := if 65 ≤ b ∧ b ≤ 90 then b + 32 else b

/-- An ASCII letter in upper case. -/
def upper (b : UInt8) : UInt8 := if 97 ≤ b ∧ b ≤ 122 then b - 32 else b

/-- `strings.ToLower` of an ASCII text. -/
def toLower (s : Bytes) : Bytes := s.map lower

/-- `strings.EqualFold` of ASCII texts. -/
def equalFold (s t : Bytes) : Bool := toLower s == toLower t

/-- White space of `strings.TrimSpace` among the ASCII characters. -/
def isSpace (b : UInt8) : Bool := b == 32 || (9 ≤ b && b ≤ 13)

/-- `strings.TrimSpace` of an ASCII text. -/
def trimSpace (s : Bytes) : Bytes := (s.dropWhile isSpace).rdropWhile isSpace

/-- `strings.TrimRight` of the bytes of a line end. -/
def trimLineEnd (s : Bytes) : Bytes := s.rdropWhile fun b ↦ b == 13 || b == 10

/-- What is dropped at the end of a text goes exactly as far as it reaches. -/
theorem rdropWhile_append {p : UInt8 → Bool} {s t : Bytes} (hs : ∀ b ∈ s.getLast?, p b = false)
    (ht : ∀ b ∈ t, p b = true) : (s ++ t).rdropWhile p = s := by
  have hdrop : (s ++ t).rdropWhile p = s.rdropWhile p := by
    rw [List.rdropWhile, List.reverse_append,
      List.dropWhile_append_of_pos fun b hb ↦ ht b (List.mem_reverse.mp hb), List.rdropWhile]
  rw [hdrop, List.rdropWhile_eq_self_iff]
  intro hne
  simp [hs _ (List.getLast?_eq_some_getLast hne)]

/-- Nothing is dropped of a text that ends and starts with other bytes. -/
theorem trim_eq_self {p : UInt8 → Bool} {s : Bytes} (hs : ∀ b ∈ s, p b = false) :
    (s.dropWhile p).rdropWhile p = s := by
  have hdrop : s.dropWhile p = s := by
    cases s with
    | nil => rfl
    | cons b s => exact List.dropWhile_cons_of_neg (by simp [hs b List.mem_cons_self])
  have hrest := @rdropWhile_append p s [] (fun b hb ↦ hs b (List.mem_of_getLast? hb)) (by simp)
  rw [hdrop]
  rwa [List.append_nil] at hrest

/-- `strings.Cut`: the text before a byte and after it. -/
def cut (sep : UInt8) : Bytes → Option (Bytes × Bytes)
  | [] => none
  | b :: bs => if b = sep then some ([], bs) else (cut sep bs).map fun p ↦ (b :: p.1, p.2)

theorem cut_append {sep : UInt8} {s : Bytes} (hs : sep ∉ s) (t : Bytes) :
    cut sep (s ++ sep :: t) = some (s, t) := by
  induction s with
  | nil => simp [cut]
  | cons b s ih =>
    obtain ⟨hb, hs⟩ := not_or.mp (mt List.mem_cons.mpr hs)
    simp [cut, Ne.symm hb, ih hs]

theorem cut_eq_none {sep : UInt8} {s : Bytes} (hs : sep ∉ s) : cut sep s = none := by
  induction s with
  | nil => rfl
  | cons b s ih =>
    obtain ⟨hb, hs⟩ := not_or.mp (mt List.mem_cons.mpr hs)
    simp [cut, Ne.symm hb, ih hs]

/-- Decimal digits of a number. -/
def ofNat (n : Nat) : Bytes := (Nat.toDigits 10 n).map fun c ↦ UInt8.ofNat c.toNat

/-- Value of a decimal digit. -/
def digit (b : UInt8) : Option Nat := if 48 ≤ b ∧ b ≤ 57 then some (b.toNat - 48) else none

/-- Value of a nonempty run of digits of a base, read from the left. -/
def parseDigits (base : Nat) (value : UInt8 → Option Nat) (s : Bytes) : Option Nat :=
  if s.isEmpty then none
  else s.foldlM (fun acc b ↦ (value b).map fun d ↦ acc * base + d) 0

/-- Value of a decimal number. -/
def parseDecimal (s : Bytes) : Option Nat := parseDigits 10 digit s

theorem digit_ofNat {c : Char} (h : c.isDigit = true) :
    digit (UInt8.ofNat c.toNat) = some (c.toNat - 48) := by
  have hc : 48 ≤ c.toNat ∧ c.toNat ≤ 57 := by
    simpa [Char.isDigit, UInt32.le_iff_toNat_le] using h
  have hn : (UInt8.ofNat c.toNat).toNat = c.toNat := by
    rw [UInt8.toNat_ofNat']
    omega
  unfold digit
  rw [if_pos (by simp only [UInt8.le_iff_toNat_le, hn]; simpa using hc), hn]

theorem mem_ofNat {b : UInt8} {n : Nat} (h : b ∈ ofNat n) : 48 ≤ b ∧ b ≤ 57 := by
  obtain ⟨c, hc, rfl⟩ := List.mem_map.mp h
  have hdigit : c.isDigit = true := Nat.isDigit_of_mem_toDigits (by decide) (by decide) hc
  have hvalue := digit_ofNat hdigit
  unfold digit at hvalue
  split at hvalue
  next hrange => exact hrange
  next => exact absurd hvalue (by simp)

/-- The digits of a number read back to it. -/
theorem parseDecimal_ofNat (n : Nat) : parseDecimal (ofNat n) = some n := by
  have hfold : ∀ (digits : List Char) (acc : Nat), (∀ c ∈ digits, c.isDigit = true) →
      (digits.map fun c ↦ UInt8.ofNat c.toNat).foldlM
        (fun acc b ↦ (digit b).map fun d ↦ acc * 10 + d) acc =
      some (Nat.ofDigitChars 10 digits acc) := by
    intro digits
    induction digits with
    | nil => exact fun acc _ ↦ rfl
    | cons c digits ih =>
      intro acc h
      have hc := digit_ofNat (h c List.mem_cons_self)
      rw [List.map_cons, List.foldlM_cons, hc]
      have hrest := ih (acc * 10 + (c.toNat - 48)) fun d hd ↦ h d (List.mem_cons_of_mem c hd)
      rw [Nat.ofDigitChars_cons, Nat.mul_comm 10]
      exact hrest
  have hdigits : ∀ c ∈ Nat.toDigits 10 n, c.isDigit = true := fun c hc ↦
    Nat.isDigit_of_mem_toDigits (by decide) (by decide) hc
  have hne : (ofNat n).isEmpty = false := by simp [ofNat, Nat.toDigits_ne_nil]
  unfold parseDecimal parseDigits
  rw [hne]
  exact (hfold _ 0 hdigits).trans (congrArg some Nat.ofDigitChars_ten_toDigits)

end Bytes
end CrwShield.Base
