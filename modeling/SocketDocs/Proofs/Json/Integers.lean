import SocketDocs.Proofs.Decimal.Text

/-!
# Integers of JSON

A JSON number in digits alone is an integer of 64 bits, signed or not, and minus zero is a double.
Read as a signed integer such a text gives the same number (`int64?_eq_some_iff_of_readNumber`), and
minus zero is the one double that is read so (`eq_minusZero_of_int64?`).
-/

namespace SocketDocs.Json

open SocketDocs.Decimal

-- ---------------------------------------------------------------------------
-- Digits
-- ---------------------------------------------------------------------------

section Digits

variable {m k : Nat} {digits : List Char}

theorem le_natOfDigits (m : Nat) (digits : List Char) :
    m ≤ digits.foldl (fun n c => n * 10 + digitValue c) m := by
  induction digits generalizing m with
  | nil => exact Nat.le_refl m
  | cons c digits ih =>
    have hnext := ih (m * 10 + digitValue c)
    rw [List.foldl_cons]
    omega

theorem takeDigits_of_fits
    (h : fitsUnsigned (digits.foldl (fun n c => n * 10 + digitValue c) m) = true) :
    takeDigits m digits = (digits.foldl (fun n c => n * 10 + digitValue c) m, []) := by
  induction digits generalizing m with
  | nil => rfl
  | cons c digits ih =>
    have hfits : fitsUnsigned (m * 10 + digitValue c) = true := by
      have hle := le_natOfDigits (m * 10 + digitValue c) digits
      rw [fitsUnsigned, decide_eq_true_eq] at h ⊢
      rw [List.foldl_cons] at h
      omega
    simp only [takeDigits, hfits, if_true]
    exact ih h

theorem eq_of_takeDigits (h : takeDigits m digits = (k, [])) :
    k = digits.foldl (fun n c => n * 10 + digitValue c) m := by
  induction digits generalizing m with
  | nil =>
    cases h
    rfl
  | cons c digits ih =>
    simp only [takeDigits] at h
    split at h
    · exact ih h
    · cases h

theorem natOfDigits_eq_zero {c : Char} (hc : isDigit c = true)
    (h : natOfDigits (c :: digits) = 0) : c = '0' := by
  have hle := le_natOfDigits (0 * 10 + digitValue c) digits
  have hzero : digitValue c = 0 := by
    rw [natOfDigits, List.foldl_cons] at h
    omega
  have hrange : 48 ≤ c.toNat := by
    have hlow : '0' ≤ c ∧ c ≤ '9' := by simpa [isDigit] using hc
    simpa [Char.le_def, UInt32.le_iff_toNat_le] using hlow.1
  have hcode : c.toNat = '0'.toNat := by
    rw [digitValue] at hzero
    have hbase : '0'.toNat = 48 := rfl
    omega
  exact Char.toNat_inj.mp hcode

end Digits

-- ---------------------------------------------------------------------------
-- JSON numbers in digits alone
-- ---------------------------------------------------------------------------

section Unsigned

variable {negative : Bool} {cs rest : List Char} {n : Int}

theorem readExponent_ne_int {significand : Nat} {exponent : Int} :
    readExponent negative significand exponent cs ≠ some (.int n, rest) := by
  have hscaled : ∀ {x : Option Double} {tail : List Char},
      (x.map fun x => (Number.double x, tail)) ≠ some (.int n, rest) := by
    intro x tail h
    obtain ⟨y, -, h⟩ := Option.map_eq_some_iff.mp h
    cases h
  unfold readExponent
  split
  · dsimp only
    split
    · split
      · nofun
      · split
        · split <;> nofun
        · exact hscaled
    · exact hscaled
  · exact hscaled

theorem opens_of_readUnsigned {number : Number}
    (h : readUnsigned negative cs = some (number, rest)) :
    ∃ c later, cs = c :: later ∧ isDigit c = true := by
  cases cs with
  | nil => simp [readUnsigned] at h
  | cons c later =>
    refine ⟨c, later, rfl, ?_⟩
    by_contra hc
    simp [readUnsigned, hc] at h

theorem digits_of_readUnsigned (h : readUnsigned negative cs = some (.int n, rest)) :
    ∃ digits, digits ≠ [] ∧ (∀ c ∈ digits, isDigit c = true) ∧ cs = digits ++ rest ∧
      integer negative (natOfDigits digits) = .int n := by
  unfold readUnsigned at h
  simp only at h
  split at h
  · cases h
  rename_i hdigits
  have hne : cs.takeWhile isDigit ≠ [] := by
    intro hnil
    simp [hnil] at hdigits
  split at h
  · split at h
    · cases h
    · exact absurd h readExponent_ne_int
  · split at h
    · rename_i hplain
      simp only [Bool.and_eq_true, List.isEmpty_iff] at hplain
      rw [Option.some.injEq, Prod.mk.injEq] at h
      obtain ⟨hn, rfl⟩ := h
      have htaken : (takeDigits 0 (cs.takeWhile isDigit)).1 = natOfDigits (cs.takeWhile isDigit) :=
        eq_of_takeDigits (Prod.ext rfl hplain.1)
      refine ⟨_, hne, List.all_eq_true.mp List.all_takeWhile,
        List.takeWhile_append_dropWhile.symm, ?_⟩
      rw [← htaken]
      exact hn
    · exact absurd h readExponent_ne_int

/-- Digits that fit are read as the integer that they spell, without a zero before others. -/
theorem readUnsigned_digits {digits : List Char} {number : Number}
    (hdigits : ∀ c ∈ digits, isDigit c = true) (hfits : fitsUnsigned (natOfDigits digits) = true)
    (h : readUnsigned negative digits = some (number, rest)) :
    number = integer negative (natOfDigits digits) ∧
      (digits.head? = some '0' → digits.length = 1) := by
  obtain ⟨htake, hdrop⟩ := takeWhile_digits hdigits (show ∀ c ∈ [].head?, isDigit c = false by simp)
  rw [List.append_nil] at htake hdrop
  have htaken : takeDigits 0 digits = (natOfDigits digits, []) := takeDigits_of_fits hfits
  simp only [readUnsigned, htake, hdrop, htaken] at h
  split at h
  · cases h
  · rename_i hzero
    simp only [List.isEmpty_nil, isExponentMark, Bool.not_false, Bool.and_self, if_true,
      Option.some.injEq, Prod.mk.injEq] at h
    refine ⟨h.1.symm, fun hhead => ?_⟩
    have hlength : ¬ digits = [] ∧ digits.length = 1 := by simpa [hhead] using hzero
    exact hlength.2

end Unsigned

-- ---------------------------------------------------------------------------
-- Signs
-- ---------------------------------------------------------------------------

section Signed

variable {cs : List Char} {n : Int}

theorem unsigned_of_readNumber {number : Number} {rest : List Char}
    (h : readNumber cs = some (number, rest)) :
    ∃ negative us, cs = (if negative then ['-'] else []) ++ us ∧
      readUnsigned negative us = some (number, rest) := by
  unfold readNumber at h
  split at h
  · exact ⟨true, _, rfl, h⟩
  · exact ⟨false, _, rfl, h⟩

theorem int64?_sign_eq_some_iff {negative : Bool} {c : Char} {later : List Char}
    (hc : isDigit c = true) :
    int64? ((if negative then ['-'] else []) ++ c :: later) = some n ↔
      (∀ d ∈ c :: later, isDigit d = true) ∧
        (if negative then -(natOfDigits (c :: later) : Int) else natOfDigits (c :: later)) = n ∧
          int64Min ≤ n ∧ n ≤ int64Max := by
  simp only [int64?, splitSign_sign negative later hc]
  by_cases hdigits : ∀ d ∈ c :: later, isDigit d = true
  · simp only [nat?_of_digits (List.cons_ne_nil c later) hdigits]
    generalize (if negative then -(natOfDigits (c :: later) : Int) else natOfDigits (c :: later)) =
      value
    simp only [Option.ite_none_right_eq_some, Bool.and_eq_true, decide_eq_true_eq,
      Option.some.injEq]
    constructor
    · rintro ⟨hrange, rfl⟩
      exact ⟨hdigits, rfl, hrange⟩
    · rintro ⟨-, rfl, hrange⟩
      exact ⟨hrange, rfl⟩
  · have hnone : nat? (c :: later) = none := by
      rw [nat?, if_neg]
      simpa using hdigits
    rw [hnone]
    constructor
    · intro h
      cases h
    · rintro ⟨h, -⟩
      exact absurd h hdigits

/-- A JSON integer is the signed integer of its text, if that has 64 bits. -/
theorem int64?_eq_some_iff_of_readNumber (h : readNumber cs = some (.int n, [])) :
    int64? cs = some n ↔ n ≤ int64Max := by
  obtain ⟨negative, us, rfl, hread⟩ := unsigned_of_readNumber h
  obtain ⟨digits, hne, hdigits, hus, hinteger⟩ := digits_of_readUnsigned hread
  obtain ⟨c, later, rfl⟩ := List.exists_cons_of_ne_nil hne
  rw [List.append_nil] at hus
  rw [hus, int64?_sign_eq_some_iff (hdigits c (List.mem_cons_self ..))]
  suffices hvalue :
      (if negative then -(natOfDigits (c :: later) : Int) else natOfDigits (c :: later)) = n ∧
        int64Min ≤ n from
    ⟨fun hspelled => hspelled.2.2.2, fun hmax => ⟨hdigits, hvalue.1, hvalue.2, hmax⟩⟩
  unfold integer at hinteger
  cases negative with
  | false =>
    cases hinteger
    refine ⟨rfl, ?_⟩
    rw [int64Min]
    omega
  | true =>
    simp only [if_true] at hinteger ⊢
    split at hinteger
    · cases hinteger
    · rename_i hrange
      cases hinteger
      simp only [Bool.or_eq_true, decide_eq_true_eq, not_or, not_lt] at hrange
      exact ⟨rfl, hrange.2⟩

theorem eq_minusZero_of_int64? {x : Double} (h : readNumber cs = some (.double x, []))
    (hn : int64? cs = some n) : cs = ['-', '0'] := by
  obtain ⟨negative, us, rfl, hread⟩ := unsigned_of_readNumber h
  obtain ⟨c, later, rfl, hc⟩ := opens_of_readUnsigned hread
  obtain ⟨hdigits, hvalue, hlow, hhigh⟩ := (int64?_sign_eq_some_iff hc).mp hn
  rw [int64Min] at hlow
  rw [int64Max] at hhigh
  have hfits : fitsUnsigned (natOfDigits (c :: later)) = true := by
    rw [fitsUnsigned, decide_eq_true_eq, uint64Max]
    split at hvalue <;> omega
  obtain ⟨hinteger, hsingle⟩ := readUnsigned_digits hdigits hfits hread
  cases negative with
  | false => cases hinteger
  | true =>
    rw [if_pos rfl] at hvalue
    have hzero : natOfDigits (c :: later) = 0 := by
      by_contra hne
      have hrange : ¬ -(natOfDigits (c :: later) : Int) < int64Min := by
        rw [int64Min]
        omega
      simp [integer, hne, hrange] at hinteger
    obtain rfl := natOfDigits_eq_zero hc hzero
    obtain rfl : later = [] := by simpa using hsingle rfl
    rfl

end Signed

end SocketDocs.Json
