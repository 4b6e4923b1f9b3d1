namespace LineShell

/-- A code point: a Unicode scalar value, or one of the 2048 surrogates. No text that is read holds
a surrogate, but a range of letters on either side of them runs through them all. -/
inductive CodePoint
  | char (value : Char)
  | surrogate (offset : Fin 2048)
  deriving DecidableEq, Repr

namespace CodePoint

instance : Coe Char CodePoint := ⟨char⟩

def toNat : CodePoint → Nat
  | char value => value.toNat
  | surrogate offset => 0xD800 + offset

def ofNat (n : Nat) : CodePoint :=
  if inside : 0xD800 ≤ n ∧ n < 0xE000 then surrogate ⟨n - 0xD800, by omega⟩
  else char (Char.ofNat n)

/-- Holds of the ASCII digits. -/
def isDigit (c : CodePoint) : Bool :=
  48 ≤ c.toNat && c.toNat ≤ 57

/-- The scalar value, with the replacement character in place of a surrogate. -/
def replaced : CodePoint → Char
  | char value => value
  | surrogate _ => '\ufffd'

/-- The bytes of a code point in the name of an environment variable: those of UTF-8, and for a
surrogate that stands for a byte outside ASCII this byte. The other surrogates have none. -/
def bytes? : CodePoint → Option (List UInt8)
  | char value => some (String.utf8EncodeChar value)
  | surrogate offset =>
      if 0x480 ≤ offset.val ∧ offset.val < 0x500 then some [UInt8.ofNat (offset - 0x400)] else none

theorem toNat_char (value : Char) :
    (char value).toNat < 0xD800 ∨ 0xDFFF < (char value).toNat ∧ (char value).toNat < 0x110000 := by
  have valid := value.valid
  rwa [UInt32.isValidChar, Nat.isValidChar, Char.toNat_val] at valid

theorem toNat_lt (c : CodePoint) : c.toNat < 0x110000 := by
  cases c with
  | char value =>
      have outside := toNat_char value
      omega
  | surrogate offset =>
      have bound := offset.isLt
      change 0xD800 + offset.val < _
      omega

theorem ofNat_toNat (c : CodePoint) : ofNat c.toNat = c := by
  cases c with
  | char value =>
      have outside := toNat_char value
      rw [ofNat, dif_neg (by omega), toNat, Char.ofNat_toNat]
  | surrogate offset =>
      have bound := offset.isLt
      rw [toNat, ofNat, dif_pos (by omega)]
      simp

theorem toNat_ofNat {n : Nat} (small : n < 0x110000) : (ofNat n).toNat = n := by
  rw [ofNat]
  split
  · next inside =>
      rw [toNat]
      simp only
      omega
  · next outside =>
      have valid : n.isValidChar := by
        unfold Nat.isValidChar
        omega
      rw [toNat, Char.ofNat, dif_pos valid]
      rfl

theorem toNat_inj {c d : CodePoint} : c.toNat = d.toNat ↔ c = d := by
  constructor
  · intro same
    rw [← ofNat_toNat c, same, ofNat_toNat]
  · rintro rfl
    rfl

theorem isDigit_char (value : Char) : (char value).isDigit = value.isDigit := by
  rw [Bool.eq_iff_iff, isDigit, toNat, Bool.and_eq_true, decide_eq_true_eq, decide_eq_true_eq,
    Char.isDigit_iff_toNat]
  rfl

@[simp] theorem char_inj {c d : Char} : char c = char d ↔ c = d := by
  rw [char.injEq]

end CodePoint

end LineShell
