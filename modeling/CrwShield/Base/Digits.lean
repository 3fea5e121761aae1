import CrwShield.Base.Str

/-!
# Digits

Values of hexadecimal and octal digits and of the numbers that they write.
-/

namespace CrwShield.Base

/-- The value of a hexadecimal digit. -/
def hexDigit (c : Char) : Option Nat :=
  if c.isDigit then some (c.toNat - '0'.toNat)
  else if 'a' ≤ c ∧ c ≤ 'f' then some (c.toNat - 'a'.toNat + 10)
  else if 'A' ≤ c ∧ c ≤ 'F' then some (c.toNat - 'A'.toNat + 10)
  else none

/-- The value of an octal digit. -/
def octalDigit (c : Char) : Option Nat :=
  if '0' ≤ c ∧ c ≤ '7' then some (c.toNat - '0'.toNat) else none

/-- The number that hexadecimal digits write. -/
def parseHex (s : Str) : Option Nat :=
  if s.isEmpty then none
  else s.foldl (fun n c ↦ n.bind fun n ↦ (hexDigit c).map (16 * n + ·)) (some 0)

end CrwShield.Base
