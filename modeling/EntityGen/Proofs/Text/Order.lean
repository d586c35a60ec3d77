import Mathlib.Algebra.Group.Nat.Defs
import Mathlib.Data.List.Basic
import Mathlib.Tactic.SplitIfs

/-!
# The order of texts

Texts are ordered character by character. In UTF-8 this is the order of their bytes: the first byte
of a character grows with its code, and the bytes behind it are the last digits of the code.
-/
namespace EntityGen.Text

/-- The bytes of a text in UTF-8. -/
def bytes (text : String) : List UInt8 := text.toUTF8.data.toList

theorem bytes_eq_flatMap (text : String) :
    bytes text = text.toList.flatMap String.utf8EncodeChar := by
  have hencoded := String.toByteArray_ofList (l := text.toList)
  rw [String.ofList_toList] at hencoded
  rw [bytes, String.toUTF8_eq_toByteArray, hencoded, List.utf8Encode, List.toList_data_toByteArray]

/-- The number of bytes behind the first byte of a code. -/
def followers (code : Nat) : Nat :=
  if code ≤ 127 then 0 else if code ≤ 2047 then 1 else if code ≤ 65535 then 2 else 3

/-- The first byte of a code. -/
def firstByte (code : Nat) : Nat :=
  if code ≤ 127 then code
  else if code ≤ 2047 then code / 64 % 32 + 192
  else if code ≤ 65535 then code / 4096 % 16 + 224
  else code / 262144 % 8 + 240

/-- The last digits of a code as bytes, six bits each. -/
def digitBytes : (count : Nat) → (code : Nat) → List UInt8
  | 0, _ => []
  | count + 1, code => UInt8.ofNat (code / 64 ^ count % 64 + 128) :: digitBytes count code

theorem utf8EncodeChar_eq (c : Char) :
    String.utf8EncodeChar c =
      UInt8.ofNat (firstByte c.toNat) :: digitBytes (followers c.toNat) c.toNat := by
  have hcode : c.val.toNat = c.toNat := rfl
  unfold String.utf8EncodeChar firstByte followers
  simp only [hcode]
  split_ifs <;> simp [digitBytes]

/-- A smaller byte decides whatever follows, and an equal one leaves the decision to the rest. -/
theorem ofNat_cons_lt {a b : Nat} {r s : List UInt8} (hb : b < 256)
    (h : a < b ∨ a = b ∧ r < s) : UInt8.ofNat a :: r < UInt8.ofNat b :: s := by
  rw [List.cons_lt_cons_iff]
  rcases h with hlt | ⟨rfl, hrest⟩
  · refine .inl ?_
    rw [UInt8.lt_iff_toNat_lt, UInt8.toNat_ofNat', UInt8.toNat_ofNat', Nat.mod_eq_of_lt hb,
      Nat.mod_eq_of_lt (Nat.lt_trans hlt hb)]
    exact hlt
  · exact .inr ⟨rfl, hrest⟩

/-- Codes that agree in front of their last digits are ordered by these digits. -/
theorem digitBytes_append_lt {count a b : Nat} (h : a < b)
    (hfront : a / 64 ^ count = b / 64 ^ count) (r s : List UInt8) :
    digitBytes count a ++ r < digitBytes count b ++ s := by
  induction count with
  | zero =>
    rw [Nat.pow_zero, Nat.div_one, Nat.div_one] at hfront
    exact absurd hfront (Nat.ne_of_lt h)
  | succ count ih =>
    rw [Nat.pow_succ, ← Nat.div_div_eq_div_mul, ← Nat.div_div_eq_div_mul] at hfront
    have hle : a / 64 ^ count ≤ b / 64 ^ count := Nat.div_le_div_right (Nat.le_of_lt h)
    rw [digitBytes, digitBytes, List.cons_append, List.cons_append]
    refine ofNat_cons_lt (by omega) ?_
    by_cases he : a / 64 ^ count = b / 64 ^ count
    · exact .inr ⟨by rw [he], ih he⟩
    · exact .inl (by omega)

theorem firstByte_lt {code : Nat} (h : code < 0x110000) : firstByte code < 256 := by
  unfold firstByte
  split_ifs <;> omega

/-- The first byte grows with the code, and where it does not the codes have equally many digits
behind it and agree in front of them. -/
theorem firstByte_cases {a b : Nat} (h : a < b) (hb : b < 0x110000) :
    firstByte a < firstByte b ∨ firstByte a = firstByte b ∧ followers a = followers b ∧
      a / 64 ^ followers a = b / 64 ^ followers b := by
  unfold firstByte followers
  split_ifs <;> omega

/-- Characters stand in the order of their bytes, whatever follows: the bytes of one are no front of
the bytes of the other. -/
theorem utf8EncodeChar_append_lt {c d : Char} (h : c < d) (r s : List UInt8) :
    String.utf8EncodeChar c ++ r < String.utf8EncodeChar d ++ s := by
  have hlt : c.toNat < d.toNat := h
  have hd : d.toNat < 0x110000 := by
    rcases d.valid with hv | ⟨-, hv⟩
    · exact Nat.lt_trans hv (by decide)
    · exact hv
  rw [utf8EncodeChar_eq, utf8EncodeChar_eq, List.cons_append, List.cons_append]
  refine ofNat_cons_lt (firstByte_lt hd) ?_
  rcases firstByte_cases hlt hd with hfirst | ⟨hfirst, hcount, hfront⟩
  · exact .inl hfirst
  · rw [hcount] at hfront ⊢
    exact .inr ⟨hfirst, digitBytes_append_lt hlt hfront r s⟩

theorem flatMap_utf8EncodeChar_lt {a b : List Char} (h : a < b) :
    a.flatMap String.utf8EncodeChar < b.flatMap String.utf8EncodeChar := by
  induction h with
  | nil =>
    rw [List.flatMap_cons, utf8EncodeChar_eq]
    exact List.nil_lt_cons _ _
  | rel hlt =>
    rw [List.flatMap_cons, List.flatMap_cons]
    exact utf8EncodeChar_append_lt hlt _ _
  | cons _ ih =>
    rw [List.flatMap_cons, List.flatMap_cons]
    exact List.append_left_lt ih

/-- Texts are ordered as their bytes are. -/
theorem bytes_lt_iff (a b : String) : bytes a < bytes b ↔ a < b := by
  have hof : ∀ {s t : String}, s < t → bytes s < bytes t := by
    intro s t h
    rw [bytes_eq_flatMap, bytes_eq_flatMap]
    exact flatMap_utf8EncodeChar_lt (String.lt_iff.mp h)
  refine ⟨?_, hof⟩
  intro h
  by_contra hab
  by_cases hba : b < a
  · exact List.lt_asymm h (hof hba)
  · rw [String.le_antisymm hba hab] at h
    exact List.lt_irrefl _ h

theorem bytes_le_iff (a b : String) : bytes a ≤ bytes b ↔ a ≤ b := by
  rw [← List.not_lt, ← String.not_lt, bytes_lt_iff]

end EntityGen.Text
