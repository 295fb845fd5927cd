import Mathlib.Data.String.Basic

/-!
# Texts by their bytes

Keys are ordered as texts, character by character. UTF-8 keeps that order: a greater character has
the greater bytes, at the first byte in which the two differ, so texts compare as their bytes do
(`bytes_le_iff`).
-/

namespace SocketDocs.Text

def bytes (text : String) : List UInt8 :=
  text.toUTF8.data.toList

theorem bytes_eq (text : String) : bytes text = text.toList.flatMap String.utf8EncodeChar := by
  have hencode : text.toUTF8 = text.toList.utf8Encode := by simp
  rw [bytes, hencode]
  simp [List.utf8Encode]

theorem ofNat_cons_lt_iff {m n : Nat} (hm : m < 256) (hn : n < 256) {front back : List UInt8} :
    UInt8.ofNat m :: front < UInt8.ofNat n :: back ↔ m < n ∨ m = n ∧ front < back := by
  rw [List.cons_lt_cons_iff, UInt8.lt_iff_toNat_lt, ← UInt8.toNat_inj, UInt8.toNat_ofNat',
    UInt8.toNat_ofNat', Nat.mod_eq_of_lt hm, Nat.mod_eq_of_lt hn]

/-- The bytes of two characters differ in the order of the characters, whatever follows them. -/
theorem encode_lt {c d : Char} (h : c < d) (front back : List UInt8) :
    String.utf8EncodeChar c ++ front < String.utf8EncodeChar d ++ back := by
  have hlt : c.val.toNat < d.val.toNat := UInt32.lt_iff_toNat_lt.mp h
  have hd : d.val.toNat < 0x110000 := by
    rcases d.valid with hd | ⟨-, hd⟩ <;> omega
  -- the bytes after the first are digits to the base 64
  have htwo : ∀ n, n / 4096 = n / 64 / 64 := fun n => (Nat.div_div_eq_div_mul n 64 64).symm
  have hthree : ∀ n, n / 262144 = n / 64 / 64 / 64 := fun n => by
    rw [Nat.div_div_eq_div_mul, Nat.div_div_eq_div_mul]
  unfold String.utf8EncodeChar
  generalize c.val.toNat = m at *
  generalize d.val.toNat = n at *
  dsimp only
  -- one case for each pair of lengths
  split_ifs <;>
    simp (disch := omega) only [List.cons_append, List.nil_append, ofNat_cons_lt_iff, htwo,
      hthree] <;>
    omega

theorem flatMap_encode_lt {cs ds : List Char} (h : cs < ds) :
    cs.flatMap String.utf8EncodeChar < ds.flatMap String.utf8EncodeChar := by
  replace h := (List.lt_iff_lex_lt cs ds).mp h
  induction h with
  | @nil d ds =>
    obtain ⟨b, bs, hb⟩ := List.exists_cons_of_ne_nil (String.utf8EncodeChar_ne_nil (c := d))
    rw [List.flatMap_cons, hb]
    exact List.nil_lt_cons _ _
  | rel hlt => exact encode_lt hlt _ _
  | cons _ ih => exact List.append_left_lt ih

theorem bytes_lt_of_lt {s t : String} (h : s < t) : bytes s < bytes t := by
  rw [bytes_eq, bytes_eq]
  exact flatMap_encode_lt (String.lt_iff_toList_lt.mp h)

theorem bytes_le_iff {s t : String} : bytes s ≤ bytes t ↔ s ≤ t := by
  constructor
  · intro h
    by_contra hlt
    exact List.not_lt.mpr h (bytes_lt_of_lt (not_le.mp hlt))
  · intro h
    rcases lt_or_eq_of_le h with hlt | rfl
    · exact List.le_of_lt (bytes_lt_of_lt hlt)
    · exact List.le_refl _

end SocketDocs.Text
