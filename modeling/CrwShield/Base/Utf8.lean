import CrwShield.Base.Str

/-!
# UTF-8

Text as bytes. A text can be cut exactly in front of the bytes that start a character, and its
pieces are then the bytes of its pieces.
-/

namespace CrwShield.Base.Str

/-- The UTF-8 bytes of a text. -/
def utf8 (s : Str) : List UInt8 := s.flatMap String.utf8EncodeChar

@[simp] theorem utf8_nil : utf8 [] = [] := rfl

@[simp] theorem utf8_cons (c : Char) (s : Str) :
    utf8 (c :: s) = String.utf8EncodeChar c ++ utf8 s := rfl

@[simp] theorem utf8_append (s t : Str) : utf8 (s ++ t) = utf8 s ++ utf8 t :=
  List.flatMap_append

/-- The bytes of a character are followed by those of no other. -/
theorem utf8EncodeChar_append_inj {c d : Char} {x y : List UInt8}
    (h : String.utf8EncodeChar c ++ x = String.utf8EncodeChar d ++ y) : c = d ∧ x = y := by
  have hdecode : ∀ (c : Char) (x : List UInt8),
      (String.utf8EncodeChar c ++ x).toByteArray.utf8DecodeChar? 0 = some c := by
    intro c x
    rw [List.toByteArray_append]
    exact ByteArray.utf8DecodeChar?_utf8EncodeChar_append
  have hc : c = d := by
    have hcd := hdecode c x
    rw [h, hdecode d y] at hcd
    exact (Option.some.inj hcd).symm
  subst hc
  exact ⟨rfl, List.append_cancel_left h⟩

/-- A character has at least one byte. -/
theorem utf8EncodeChar_ne_nil (c : Char) : String.utf8EncodeChar c ≠ [] := by
  intro h
  have hlen := String.length_utf8EncodeChar c
  rw [h] at hlen
  exact absurd c.utf8Size_pos (by simpa using hlen.symm)

/-- Where the bytes of one text begin those of another, so do the characters. -/
theorem prefix_of_utf8_prefix {s t : Str} (h : utf8 s <+: utf8 t) : s <+: t := by
  obtain ⟨x, h⟩ := h
  induction s generalizing t with
  | nil => exact List.nil_prefix
  | cons c s ih =>
    rw [utf8_cons, List.append_assoc] at h
    cases t with
    | nil => exact absurd (List.append_eq_nil_iff.mp h).1 (utf8EncodeChar_ne_nil c)
    | cons d t =>
      obtain ⟨rfl, hrest⟩ := utf8EncodeChar_append_inj h
      exact List.cons_prefix_cons.mpr ⟨rfl, ih hrest⟩

theorem utf8_injective {s t : Str} (h : utf8 s = utf8 t) : s = t := by
  have hst : s <+: t := prefix_of_utf8_prefix ⟨[], by rw [h, List.append_nil]⟩
  have hts : t <+: s := prefix_of_utf8_prefix ⟨[], by rw [h, List.append_nil]⟩
  exact hst.eq_of_length (Nat.le_antisymm hst.length_le hts.length_le)

/-- Bytes that are empty or start a character. -/
def StartsChar (bytes : List UInt8) : Prop := ∀ b ∈ bytes.head?, b.IsUTF8FirstByte

/-- Where bytes that start a character follow, the text splits. -/
theorem split_of_startsChar {s : Str} {x y : List UInt8} (h : utf8 s = x ++ y)
    (hy : StartsChar y) : ∃ a b, s = a ++ b ∧ utf8 a = x ∧ utf8 b = y := by
  induction s generalizing x with
  | nil =>
    obtain ⟨rfl, rfl⟩ := List.append_eq_nil_iff.mp h.symm
    exact ⟨[], [], rfl, rfl, rfl⟩
  | cons c s ih =>
    rw [utf8_cons] at h
    rcases List.append_eq_append_iff.mp h with ⟨x', rfl, hrest⟩ | ⟨z, hc, rfl⟩
    · obtain ⟨a, b, rfl, rfl, rfl⟩ := ih hrest
      exact ⟨c :: a, b, rfl, rfl, rfl⟩
    · cases x with
      | nil => exact ⟨[], c :: s, rfl, rfl, by rw [utf8_cons, hc]; rfl⟩
      | cons first x =>
        cases z with
        | nil => exact ⟨[c], s, rfl, by simpa using hc, rfl⟩
        | cons b z =>
          -- a byte inside a character starts none
          have hlt : x.length + 1 < (String.utf8EncodeChar c).length := by
            rw [hc]
            simp
          have hb : (String.utf8EncodeChar c)[x.length + 1] = b := by
            simp [hc]
          have hfirst : b.IsUTF8FirstByte := hy b rfl
          rw [← hb] at hfirst
          exact absurd (UInt8.isUTF8FirstByte_getElem_utf8EncodeChar.mp hfirst) (by simp)

end CrwShield.Base.Str
