import SocketDocs.Decimal.Reader
import SocketDocs.Json.Writer
import SocketDocs.Proofs.Decimal.Shortest
import SocketDocs.Proofs.Json.Grammar
import SocketDocs.Yaml.Scalar

/-!
# Numbers read back from their text

The digits of a natural number spell that number, the text of an integer is read as the integer,
and the text of a double as the double, in every format. As plain scalars both keep their kind.
-/

namespace SocketDocs

-- ---------------------------------------------------------------------------
-- Digits
-- ---------------------------------------------------------------------------

namespace Decimal

theorem isDigit_eq (c : Char) : isDigit c = c.isDigit := by
  simp only [isDigit, Char.isDigit, Char.le_def, ge_iff_le]

theorem isDigit_of_mem_toDigits {n : Nat} {c : Char} (h : c ∈ Nat.toDigits 10 n) :
    isDigit c = true := by
  rw [isDigit_eq]
  exact Nat.isDigit_of_mem_toDigits (by decide) (by decide) h

theorem natOfDigits_append (cs ds : List Char) :
    natOfDigits (cs ++ ds) = natOfDigits cs * 10 ^ ds.length + natOfDigits ds := by
  induction ds using List.reverseRecOn with
  | nil => simp [natOfDigits]
  | append_singleton ds d ih =>
    have hlast : ∀ es : List Char, natOfDigits (es ++ [d]) = natOfDigits es * 10 + digitValue d := by
      intro es
      simp [natOfDigits]
    rw [← List.append_assoc, hlast, hlast, ih, List.length_append, List.length_singleton, pow_succ]
    ring

theorem natOfDigits_toDigits (n : Nat) : natOfDigits (Nat.toDigits 10 n) = n := by
  have heq : natOfDigits (Nat.toDigits 10 n) = Nat.ofDigitChars 10 (Nat.toDigits 10 n) 0 := by
    simp only [natOfDigits, Nat.ofDigitChars, Nat.mul_comm, digitValue]
  rw [heq, Nat.ofDigitChars_ten_toDigits]

theorem natOfDigits_zeros (k : Nat) : natOfDigits (List.replicate k '0') = 0 := by
  induction k with
  | zero => rfl
  | succ k ih =>
    rw [List.replicate_succ', natOfDigits_append, ih]
    rfl

theorem nat?_of_digits {cs : List Char} (hne : cs ≠ []) (h : ∀ c ∈ cs, isDigit c = true) :
    nat? cs = some (natOfDigits cs) := by
  rw [nat?, if_pos]
  simpa [hne] using h

theorem nat?_toDigits (n : Nat) : nat? (Nat.toDigits 10 n) = some n := by
  rw [nat?_of_digits Nat.toDigits_ne_nil fun c => isDigit_of_mem_toDigits, natOfDigits_toDigits]

theorem takeWhile_digits {ds rest : List Char} (h : ∀ c ∈ ds, isDigit c = true)
    (hrest : ∀ c ∈ rest.head?, isDigit c = false) :
    (ds ++ rest).takeWhile isDigit = ds ∧ (ds ++ rest).dropWhile isDigit = rest := by
  have htake : rest.takeWhile isDigit = [] ∧ rest.dropWhile isDigit = rest := by
    cases rest with
    | nil => simp
    | cons c cs => simp [hrest c rfl]
  rw [List.takeWhile_append_of_pos h, List.dropWhile_append_of_pos h, htake.1, htake.2]
  simp

theorem splitSign_sign (negative : Bool) {c : Char} (cs : List Char) (hc : isDigit c = true) :
    splitSign ((if negative then ['-'] else []) ++ c :: cs) = (negative, c :: cs) := by
  have hminus : c ≠ '-' := by rintro rfl; simp [isDigit] at hc
  have hplus : c ≠ '+' := by rintro rfl; simp [isDigit] at hc
  cases negative <;> simp [splitSign, hminus, hplus]

-- ---------------------------------------------------------------------------
-- Texts of doubles
-- ---------------------------------------------------------------------------

theorem double?_point (negative : Bool) {whole fraction rest : List Char} {e : Int}
    (hne : whole ≠ []) (hwhole : ∀ c ∈ whole, isDigit c = true)
    (hfraction : ∀ c ∈ fraction, isDigit c = true) (hrest : ∀ c ∈ rest.head?, isDigit c = false)
    (he : exponent? rest = some e) :
    double? ((if negative then ['-'] else []) ++ (whole ++ '.' :: fraction ++ rest)) =
      Double.ofDecimal negative (natOfDigits (whole ++ fraction)) (e - fraction.length) := by
  obtain ⟨c, cs, rfl⟩ := List.exists_cons_of_ne_nil hne
  have hsign := splitSign_sign negative (cs ++ '.' :: fraction ++ rest)
    (hwhole c (List.mem_cons_self ..))
  have hpoint := takeWhile_digits hwhole
    (show ∀ c ∈ ('.' :: fraction ++ rest).head?, isDigit c = false by simp [isDigit])
  have htail := takeWhile_digits hfraction hrest
  simp only [List.cons_append, List.append_assoc] at hsign hpoint ⊢
  simp only [double?, hsign, hpoint.1, hpoint.2, htail.1, htail.2, he]
  simp

theorem double?_plain (negative : Bool) {whole rest : List Char} {e : Int}
    (hne : whole ≠ []) (hwhole : ∀ c ∈ whole, isDigit c = true)
    (hrest : ∀ c ∈ rest.head?, isDigit c = false ∧ c ≠ '.') (he : exponent? rest = some e) :
    double? ((if negative then ['-'] else []) ++ (whole ++ rest)) =
      Double.ofDecimal negative (natOfDigits whole) e := by
  obtain ⟨c, cs, rfl⟩ := List.exists_cons_of_ne_nil hne
  have hsign := splitSign_sign negative (cs ++ rest) (hwhole c (List.mem_cons_self ..))
  have hdigits := takeWhile_digits hwhole fun c hc => (hrest c hc).1
  simp only [List.cons_append] at hsign hdigits ⊢
  have hnone : ∀ tail, rest ≠ '.' :: tail := by
    rintro tail rfl
    exact (hrest '.' rfl).2 rfl
  simp only [double?, hsign, hdigits.1, hdigits.2]
  simp [he]

end Decimal

namespace Double

open SocketDocs.Decimal

def exponentSign (format : TextFormat) (power : Int) : List Char :=
  if power < 0 then ['-'] else if format.plusSign then ['+'] else []

theorem exponent?_text (format : TextFormat) (power : Int) :
    exponent? ('e' :: (exponentSign format power ++ Nat.toDigits 10 power.natAbs)) = some power := by
  obtain ⟨c, cs, hcs⟩ := List.exists_cons_of_ne_nil (Nat.toDigits_ne_nil (n := power.natAbs) (b := 10))
  have hc : isDigit c = true := isDigit_of_mem_toDigits (hcs ▸ List.mem_cons_self ..)
  have hnat : nat? (c :: cs) = some power.natAbs := hcs ▸ nat?_toDigits _
  have hplain : splitSign (c :: cs) = (false, c :: cs) := splitSign_sign false cs hc
  rw [hcs]
  unfold exponentSign
  split_ifs with hneg hplus
  · simp [exponent?, splitSign, hnat, abs_of_neg hneg]
  · simp [exponent?, splitSign, hnat, abs_of_nonneg (not_lt.mp hneg)]
  · simp [exponent?, hplain, hnat, abs_of_nonneg (not_lt.mp hneg)]

theorem Decimal.toList_text (format : TextFormat) (d : Decimal) :
    (∃ k : Nat, d.exponent = k ∧
      (d.text format).toList = Nat.toDigits 10 d.digits ++ List.replicate k '0' ++ ['.', '0']) ∨
    (∃ whole fraction : List Char, whole ≠ [] ∧ whole ++ fraction = Nat.toDigits 10 d.digits ∧
      (fraction.length : Int) = -d.exponent ∧
      (d.text format).toList = whole ++ '.' :: fraction) ∨
    (∃ k : Nat, (k : Int) + (Nat.toDigits 10 d.digits).length = -d.exponent ∧
      (d.text format).toList = '0' :: '.' :: (List.replicate k '0' ++ Nat.toDigits 10 d.digits)) ∨
    (∃ first rest power, Nat.toDigits 10 d.digits = first :: rest ∧
      d.exponent = power - rest.length ∧
      (d.text format).toList = first :: ((if rest = [] then [] else '.' :: rest) ++
        'e' :: (exponentSign format power ++ Nat.toDigits 10 power.natAbs))) := by
  obtain ⟨first, rest, hdigits⟩ :=
    List.exists_cons_of_ne_nil (Nat.toDigits_ne_nil (n := d.digits) (b := 10))
  have hlength : (Nat.toDigits 10 d.digits).length = rest.length + 1 := by rw [hdigits]; rfl
  unfold text
  simp only [Bool.and_eq_true, decide_eq_true_eq]
  by_cases hwhole : 0 ≤ d.exponent ∧ ((Nat.toDigits 10 d.digits).length : Int) + d.exponent ≤ 16
  · rw [if_pos hwhole]
    exact .inl ⟨d.exponent.toNat, by omega, by simp⟩
  rw [if_neg hwhole]
  by_cases hpoint : 0 < ((Nat.toDigits 10 d.digits).length : Int) + d.exponent ∧
      ((Nat.toDigits 10 d.digits).length : Int) + d.exponent ≤ 16
  · rw [if_pos hpoint]
    refine .inr (.inl ⟨_, _, ?_, List.take_append_drop
      (((Nat.toDigits 10 d.digits).length : Int) + d.exponent).toNat _, ?_, by simp⟩)
    · simp only [ne_eq, List.take_eq_nil_iff, not_or]
      exact ⟨by omega, Nat.toDigits_ne_nil⟩
    · rw [List.length_drop]
      omega
  rw [if_neg hpoint]
  by_cases hsmall : -5 < ((Nat.toDigits 10 d.digits).length : Int) + d.exponent ∧
      ((Nat.toDigits 10 d.digits).length : Int) + d.exponent ≤ 0
  · rw [if_pos hsmall]
    exact .inr (.inr (.inl
      ⟨(-(((Nat.toDigits 10 d.digits).length : Int) + d.exponent)).toNat, by omega, by simp⟩))
  rw [if_neg hsmall]
  refine .inr (.inr (.inr ⟨first, rest, (Nat.toDigits 10 d.digits).length + d.exponent - 1,
    hdigits, by omega, ?_⟩))
  generalize ((Nat.toDigits 10 d.digits).length : Int) + d.exponent - 1 = power
  simp only [hdigits, exponentSign]
  cases rest <;> split_ifs <;> simp_all [Nat.toString_eq_repr]

/-- Every text of a decimal is read as digits and an exponent of the same value. -/
theorem double?_text (format : TextFormat) (negative : Bool) (d : Decimal) :
    ∃ digits exponent, double? ((if negative then ['-'] else []) ++ (d.text format).toList) =
      ofDecimal negative digits exponent ∧ (digits : ℚ) * 10 ^ exponent = d.value := by
  have hdigits : ∀ c ∈ Nat.toDigits 10 d.digits, isDigit c = true := fun c => isDigit_of_mem_toDigits
  have hzeros : ∀ k, ∀ c ∈ List.replicate k '0', isDigit c = true := by
    intro k c hc
    rw [List.eq_of_mem_replicate hc]
    rfl
  have hvalue := natOfDigits_toDigits d.digits
  have hend : exponent? [] = some 0 := rfl
  rcases d.toList_text format with ⟨k, hk, htext⟩ | ⟨whole, fraction, hne, happend, hlength, htext⟩ |
    ⟨k, hk, htext⟩ | ⟨first, rest, power, hcons, hpower, htext⟩
  · have hread := double?_point negative (by simp [Nat.toDigits_ne_nil])
      (List.forall_mem_append.mpr ⟨hdigits, hzeros k⟩)
      (show ∀ c ∈ ['0'], isDigit c = true by simp [isDigit]) (by simp) hend
    refine ⟨_, _, by rw [htext]; simpa using hread, ?_⟩
    rw [natOfDigits_append, natOfDigits_append, hvalue, natOfDigits_zeros, Decimal.value, hk]
    simp [natOfDigits, digitValue]
    ring
  · rw [← happend] at hdigits hvalue
    obtain ⟨hwhole, hfraction⟩ := List.forall_mem_append.mp hdigits
    have hread := double?_point negative hne hwhole hfraction (by simp) hend
    refine ⟨_, _, by rw [htext]; simpa using hread, ?_⟩
    rw [hvalue, Decimal.value, hlength]
    simp
  · have hread := double?_point negative (by simp)
      (show ∀ c ∈ ['0'], isDigit c = true by simp [isDigit])
      (List.forall_mem_append.mpr ⟨hzeros k, hdigits⟩) (by simp) hend
    have hlength : (0 : Int) - (List.replicate k '0' ++ Nat.toDigits 10 d.digits).length =
        d.exponent := by
      rw [List.length_append, List.length_replicate]
      omega
    have hall : natOfDigits (['0'] ++ (List.replicate k '0' ++ Nat.toDigits 10 d.digits)) =
        d.digits := by
      rw [natOfDigits_append, natOfDigits_append, hvalue, natOfDigits_zeros]
      simp [natOfDigits, digitValue]
    rw [hlength, hall] at hread
    exact ⟨_, _, by rw [htext]; simpa using hread, rfl⟩
  · rw [hcons] at hdigits hvalue
    obtain ⟨hfirst, hrest⟩ := List.forall_mem_cons.mp hdigits
    have hexponent := exponent?_text format power
    by_cases hempty : rest = []
    · subst hempty
      have hread := double?_plain negative (by simp)
        (show ∀ c ∈ [first], isDigit c = true by simpa using hfirst) (by simp [isDigit]) hexponent
      refine ⟨_, _, by rw [htext]; simpa using hread, ?_⟩
      rw [hvalue, Decimal.value, hpower]
      simp
    · have hread := double?_point negative (by simp)
        (show ∀ c ∈ [first], isDigit c = true by simpa using hfirst) hrest (by simp [isDigit])
        hexponent
      refine ⟨_, _, by rw [htext, if_neg hempty]; simpa using hread, ?_⟩
      rw [hvalue, Decimal.value, hpower]

/-- The text of a number reads back as the number. -/
theorem double?_toList_text (format : TextFormat) {x : Double} (hx : x.InFormat) :
    double? (x.text format).toList = some x := by
  by_cases hm : x.mantissa = 0
  · obtain ⟨negative, mantissa, exponent⟩ := x
    have hexponent : exponent = leastExponent := by
      by_contra hne
      have hfull := hx.full (lt_of_le_of_ne hx.least_le (Ne.symm hne))
      simp only [leastFullMantissa] at hfull hm
      omega
    cases hm
    cases hexponent
    cases negative
    · exact (by decide : double? ("" ++ "0.0").toList = some ⟨false, 0, leastExponent⟩)
    · exact (by decide : double? ("-" ++ "0.0").toList = some ⟨true, 0, leastExponent⟩)
  · have hsign : (x.text format).toList =
        (if x.negative then ['-'] else []) ++ (x.shortest.text format).toList := by
      have hzero : x.isZero = false := by simpa [isZero] using hm
      simp only [text, hzero, Bool.false_eq_true, if_false]
      split <;> simp
    obtain ⟨digits, exponent, hread, hvalue⟩ := double?_text format x.negative x.shortest
    rw [hsign, hread]
    refine ofDecimal_of_roundsTo hx hm ?_
    rw [hvalue]
    exact roundsTo_shortest hx hm

end Double

end SocketDocs
