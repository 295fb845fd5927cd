import SocketDocs.Proofs.Decimal.Rounding
import SocketDocs.Proofs.Json.Ordered
import SocketDocs.Proofs.Json.Parts

/-!
# The range of numbers

Integers that are read have 64 bits and doubles are of the format, whatever the text: what a literal
spells beyond that range is rounded or refused.
-/

namespace SocketDocs

-- ---------------------------------------------------------------------------
-- Doubles
-- ---------------------------------------------------------------------------

namespace Double

variable {x y z : Double}

theorem InFormat.withSign (h : x.InFormat) (negative : Bool) :
    ({ x with negative } : Double).InFormat :=
  ⟨h.mantissa_lt, h.least_le, h.le_greatest, h.full⟩

theorem inFormat_of_mul (h : x.mul y = some z) : z.InFormat :=
  inFormat_of_round (Nat.mul_pos (twoPow_snd_pos _) (twoPow_snd_pos _)) h

theorem inFormat_of_div (hy : y.mantissa ≠ 0) (h : x.div y = some z) : z.InFormat := by
  refine inFormat_of_round (Nat.mul_pos (twoPow_snd_pos _) (Nat.mul_pos ?_ (twoPow_fst_pos _))) h
  exact Nat.pos_of_ne_zero hy

theorem inFormat_of_ofDecimal {negative : Bool} {digits : Nat} {exponent : Int}
    (h : ofDecimal negative digits exponent = some x) : x.InFormat := by
  unfold ofDecimal at h
  split at h
  · cases h
    exact inFormat_zero negative
  simp only at h
  split at h
  · cases h
  split at h
  · cases h
    exact inFormat_zero negative
  · exact inFormat_of_round (tenPow_snd_pos exponent) h

end Double

theorem Decimal.inFormat_of_double? {cs : List Char} {x : Double} (h : double? cs = some x) :
    x.InFormat := by
  unfold double? at h
  simp only at h
  split at h
  all_goals
    split at h
    · cases h
    split at h
    · exact Double.inFormat_of_ofDecimal h
    · cases h

namespace Json

open Decimal (isDigit int64Min uint64Max splitSign)

/-- A number that a text can keep: an integer of 64 bits or a double of the format. -/
def Number.InRange : Number → Prop
  | .int n => int64Min ≤ n ∧ n ≤ uint64Max
  | .double x => x.InFormat

def Value.InRange (v : Value) : Prop :=
  ∀ n ∈ v.numbers, n.InRange

theorem inRange_of_int64? {cs : List Char} {n : Int} (h : Decimal.int64? cs = some n) :
    (Number.int n).InRange := by
  unfold Decimal.int64? at h
  simp only at h
  split at h
  · obtain ⟨hbounds, heq⟩ := Option.ite_none_right_eq_some.mp h
    rw [Option.some.inj heq, Bool.and_eq_true, decide_eq_true_eq, decide_eq_true_eq] at hbounds
    exact ⟨hbounds.1, le_trans hbounds.2 (by decide)⟩
  · cases h

-- ---------------------------------------------------------------------------
-- Reading numbers
-- ---------------------------------------------------------------------------

theorem mantissa_ne_zero_of_powerOfTen {n : Nat} {x : Double} (h : powerOfTen n = some x) :
    x.mantissa ≠ 0 := by
  unfold powerOfTen Double.ofDecimal at h
  rw [if_neg (by decide)] at h
  simp only at h
  split at h
  · cases h
  rw [if_neg (by simp [Double.decimalLength]; omega)] at h
  refine Double.mantissa_ne_zero_of_round (Double.tenPow_snd_pos n) ?_ h
  have hone : (Double.tenPow n).2 = 1 := by simp [Double.tenPow]
  rw [hone, Nat.one_mul]
  exact Double.tenPow_fst_pos n

theorem inFormat_of_scaleDown {rounds : Nat} {x y : Double} {power : Nat} (hx : x.InFormat)
    (h : scaleDown rounds x power = some y) : y.InFormat := by
  induction rounds generalizing x power with
  | zero =>
    cases h
    exact hx
  | succ rounds ih =>
    unfold scaleDown at h
    split at h
    · cases h
      exact hx
    split at h
    · obtain ⟨ten, hten, h⟩ := Option.bind_eq_some_iff.mp h
      exact Double.inFormat_of_div (mantissa_ne_zero_of_powerOfTen hten) h
    · obtain ⟨smaller, hsmaller, h⟩ := Option.bind_eq_some_iff.mp h
      obtain ⟨ten, hten, hsmaller⟩ := Option.bind_eq_some_iff.mp hsmaller
      exact ih (Double.inFormat_of_div (mantissa_ne_zero_of_powerOfTen hten) hsmaller) h

theorem inFormat_of_scaled {negative : Bool} {significand : Nat} {exponent : Int} {x : Double}
    (h : scaled negative significand exponent = some x) : x.InFormat := by
  obtain ⟨whole, hwhole, h⟩ := Option.bind_eq_some_iff.mp h
  have hformat := Double.inFormat_of_round Nat.zero_lt_one hwhole
  dsimp only at h
  split at h
  · cases h
    exact hformat.withSign negative
  split at h
  · cases h
  split at h
  · obtain ⟨magnitude, hmagnitude, h⟩ := Option.bind_eq_some_iff.mp h
    obtain ⟨ten, -, hmul⟩ := Option.bind_eq_some_iff.mp hmagnitude
    cases h
    exact (Double.inFormat_of_mul hmul).withSign negative
  · obtain ⟨magnitude, hmagnitude, h⟩ := Option.bind_eq_some_iff.mp h
    cases h
    exact (inFormat_of_scaleDown hformat hmagnitude).withSign negative

variable {negative : Bool} {cs rest : List Char} {n : Number}

theorem inRange_of_readExponent {significand : Nat} {exponent : Int}
    (h : readExponent negative significand exponent cs = some (n, rest)) : n.InRange := by
  have hscaled {exponent : Int} {tail : List Char}
      (h : (scaled negative significand exponent).map (fun x => (Number.double x, tail)) =
        some (n, rest)) : n.InRange := by
    obtain ⟨x, hx, heq⟩ := Option.map_eq_some_iff.mp h
    cases heq
    exact inFormat_of_scaled hx
  unfold readExponent at h
  split at h
  · split at h
    · simp only at h
      split at h
      · cases h
      split at h
      · split at h
        · cases h
        · cases h
          exact Double.inFormat_zero negative
      · exact hscaled h
    · exact hscaled h
  · exact hscaled h

theorem fitsUnsigned_takeDigits {m : Nat} (h : fitsUnsigned m = true) (digits : List Char) :
    fitsUnsigned (takeDigits m digits).1 = true := by
  induction digits generalizing m with
  | nil => exact h
  | cons c digits ih =>
    simp only [takeDigits]
    split
    · exact ih ‹_›
    · exact h

theorem inRange_integer {m : Nat} (h : fitsUnsigned m = true) : (integer negative m).InRange := by
  simp only [fitsUnsigned, decide_eq_true_eq] at h
  unfold integer
  split
  · simp only
    split
    · cases hround : Double.round true m 1 with
      | none => exact Double.inFormat_zero true
      | some x => exact Double.inFormat_of_round Nat.zero_lt_one hround
    · rename_i hlow
      simp only [Bool.or_eq_true, decide_eq_true_eq, not_or, not_lt] at hlow
      refine ⟨hlow.2, ?_⟩
      simp only [uint64Max]
      omega
  · refine ⟨?_, h⟩
    simp only [int64Min]
    omega

theorem inRange_of_readUnsigned (h : readUnsigned negative cs = some (n, rest)) : n.InRange := by
  unfold readUnsigned at h
  simp only at h
  split at h
  · cases h
  split at h
  · split at h
    · cases h
    · exact inRange_of_readExponent h
  · split at h
    · cases h
      exact inRange_integer (fitsUnsigned_takeDigits rfl _)
    · exact inRange_of_readExponent h

theorem inRange_of_readNumber (h : readNumber cs = some (n, rest)) : n.InRange := by
  unfold readNumber at h
  split at h <;> exact inRange_of_readUnsigned h

-- ---------------------------------------------------------------------------
-- Reading values
-- ---------------------------------------------------------------------------

theorem Value.inRange_array {items : List Value} :
    (Value.array items).InRange ↔ ∀ v ∈ items, v.InRange := by
  rw [InRange, numbers_array, List.forall_mem_flatMap]
  rfl

theorem Value.inRange_ofList {members : List (String × Value)} (h : ∀ m ∈ members, m.2.InRange) :
    (Value.object (Keyed.ofList members)).InRange := by
  rw [InRange, numbers_object, List.forall_mem_flatMap]
  exact fun m hm => h m (Keyed.mem_of_mem_ofList hm)

def Part.InRange : Part → Prop
  | .value v => v.InRange
  | .items vs => ∀ v ∈ vs, v.InRange
  | .members ms => ∀ m ∈ ms, m.2.InRange

theorem Reads.inRange {d : Nat} {p : Part} (h : Reads d cs p rest) : p.InRange := by
  induction h with
  | word hw _ =>
    simp only [wordValues, List.mem_cons, Prod.mk.injEq, List.not_mem_nil, or_false] at hw
    obtain ⟨-, rfl⟩ | ⟨-, rfl⟩ | ⟨-, rfl⟩ := hw <;> simp [Part.InRange, Value.InRange]
  | string _ _ => simp [Part.InRange, Value.InRange]
  | number hn => simpa [Part.InRange, Value.InRange] using inRange_of_readNumber hn
  | emptyArray _ _ => simp [Part.InRange, Value.InRange]
  | array _ _ ih => exact Value.inRange_array.mpr ih
  | emptyObject _ _ => simp [Part.InRange, Value.InRange]
  | object _ _ ih => exact Value.inRange_ofList ih
  | lastItem _ _ ih => simpa [Part.InRange] using ih
  | item _ _ _ ih ih' => exact List.forall_mem_cons.mpr ⟨ih, ih'⟩
  | lastMember _ _ _ _ _ ih => simpa [Part.InRange] using ih
  | member _ _ _ _ _ _ ih ih' => exact List.forall_mem_cons.mpr ⟨ih, ih'⟩

theorem inRange_of_parseChars? {v : Value} (h : parseChars? cs = some v) : v.InRange := by
  obtain ⟨rest, hread, -⟩ := parseChars?_eq_some_iff.mp h
  exact hread.inRange

end Json

end SocketDocs
