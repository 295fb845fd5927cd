import Mathlib.Tactic.IntervalCases
import SocketDocs.Document.OfYaml
import SocketDocs.Proofs.Decimal.Text
import SocketDocs.Proofs.Json.Range

/-!
# Numbers as plain scalars

The text of a number is a plain scalar that means this number: it spells none of the words with a
meaning of their own, integers stay integers, and doubles are no integers because of their point or
exponent.
-/

namespace SocketDocs

open Decimal (isDigit splitSign)
open Json (Number Value isNumberChar)

def IsNumberText (negative : Bool) (digit : Char) (rest cs : List Char) : Prop :=
  cs = (if negative then ['-'] else []) ++ digit :: rest ∧ isDigit digit = true ∧
    ∀ c ∈ rest, isNumberChar c = true

theorem isNumberChar_of_isDigit {c : Char} (h : isDigit c = true) : isNumberChar c = true := by
  simp [isNumberChar, h]

-- ---------------------------------------------------------------------------
-- The characters of numbers
-- ---------------------------------------------------------------------------

theorem isNumberText_int (n : Int) :
    ∃ digit rest, Nat.toDigits 10 n.natAbs = digit :: rest ∧
      IsNumberText (decide (n < 0)) digit rest (toString n).toList := by
  obtain ⟨digit, rest, hdigits⟩ :=
    List.exists_cons_of_ne_nil (Nat.toDigits_ne_nil (n := n.natAbs) (b := 10))
  have hall : ∀ c ∈ digit :: rest, isDigit c = true :=
    hdigits ▸ fun c => Decimal.isDigit_of_mem_toDigits
  obtain ⟨hdigit, hrest⟩ := List.forall_mem_cons.mp hall
  refine ⟨digit, rest, hdigits, ?_, hdigit, fun c hc => isNumberChar_of_isDigit (hrest c hc)⟩
  rw [← hdigits]
  cases n with
  | ofNat n => simp [toString, Int.repr, Nat.toList_repr]
  | negSucc n => simp [toString, Int.repr, Nat.toList_repr, Int.negSucc_lt_zero]

theorem isNumberChar_exponent (format : Double.TextFormat) (power : Int) :
    ∀ c ∈ 'e' :: (Double.exponentSign format power ++ Nat.toDigits 10 power.natAbs),
      isNumberChar c = true := by
  have hsign : ∀ c ∈ Double.exponentSign format power, isNumberChar c = true := by
    unfold Double.exponentSign
    split_ifs <;> simp [isNumberChar]
  have hdigits : ∀ c ∈ Nat.toDigits 10 power.natAbs, isNumberChar c = true :=
    fun c hc => isNumberChar_of_isDigit (Decimal.isDigit_of_mem_toDigits hc)
  exact List.forall_mem_cons.mpr ⟨by decide, List.forall_mem_append.mpr ⟨hsign, hdigits⟩⟩

theorem isNumberText_decimal (format : Double.TextFormat) (d : Double.Decimal) :
    ∃ digit rest, (d.text format).toList = digit :: rest ∧ isDigit digit = true ∧
      (∀ c ∈ rest, isNumberChar c = true) ∧ ∃ c ∈ rest, isDigit c = false := by
  have hdigits : ∀ c ∈ Nat.toDigits 10 d.digits, isDigit c = true :=
    fun c => Decimal.isDigit_of_mem_toDigits
  have hchars : ∀ {cs : List Char}, (∀ c ∈ cs, isDigit c = true) → ∀ c ∈ cs, isNumberChar c = true :=
    fun h c hc => isNumberChar_of_isDigit (h c hc)
  have hpoint : isNumberChar '.' = true := by decide
  have hzero : isDigit '0' = true := by decide
  rcases d.toList_text format with ⟨k, -, htext⟩ | ⟨whole, fraction, hne, happend, -, htext⟩ |
    ⟨k, -, htext⟩ | ⟨first, rest, power, hcons, -, htext⟩
  · obtain ⟨digit, rest, hcons⟩ :=
      List.exists_cons_of_ne_nil (Nat.toDigits_ne_nil (n := d.digits) (b := 10))
    rw [hcons] at hdigits htext
    obtain ⟨hdigit, hrest⟩ := List.forall_mem_cons.mp hdigits
    refine ⟨digit, rest ++ (List.replicate k '0' ++ ['.', '0']), by simpa using htext, hdigit, ?_,
      '.', by simp, rfl⟩
    intro c hc
    simp only [List.mem_append, List.mem_replicate, List.mem_cons, List.not_mem_nil,
      or_false] at hc
    rcases hc with hc | ⟨-, rfl⟩ | rfl | rfl
    · exact hchars hrest c hc
    · exact isNumberChar_of_isDigit hzero
    · exact hpoint
    · exact isNumberChar_of_isDigit hzero
  · obtain ⟨digit, more, rfl⟩ := List.exists_cons_of_ne_nil hne
    rw [← happend] at hdigits
    obtain ⟨hwhole, hfraction⟩ := List.forall_mem_append.mp hdigits
    obtain ⟨hdigit, hmore⟩ := List.forall_mem_cons.mp hwhole
    refine ⟨digit, _, htext, hdigit, ?_, '.', by simp, rfl⟩
    simpa [or_imp, forall_and, hpoint] using ⟨hchars hmore, hchars hfraction⟩
  · refine ⟨'0', _, htext, hzero, ?_, '.', by simp, rfl⟩
    intro c hc
    simp only [List.mem_append, List.mem_replicate, List.mem_cons] at hc
    rcases hc with rfl | ⟨-, rfl⟩ | hc
    · exact hpoint
    · exact isNumberChar_of_isDigit hzero
    · exact hchars hdigits c hc
  · rw [hcons] at hdigits
    obtain ⟨hfirst, hrest⟩ := List.forall_mem_cons.mp hdigits
    refine ⟨first, _, htext, hfirst, ?_, 'e', by simp, rfl⟩
    refine List.forall_mem_append.mpr ⟨?_, isNumberChar_exponent format power⟩
    split_ifs
    · simp
    · simpa [hpoint] using hchars hrest

theorem isNumberText_double (format : Double.TextFormat) (x : Double) :
    ∃ digit rest, IsNumberText x.negative digit rest (x.text format).toList ∧
      ∃ c ∈ rest, isDigit c = false := by
  unfold Double.text
  simp only []
  split
  · refine ⟨'0', ['.', '0'], ⟨?_, by decide, List.all_eq_true.mp (by decide)⟩, '.', by simp, rfl⟩
    split <;> simp
  · obtain ⟨digit, rest, htext, hdigit, hrest, hpoint⟩ := isNumberText_decimal format x.shortest
    refine ⟨digit, rest, ⟨?_, hdigit, hrest⟩, hpoint⟩
    rw [← htext]
    split <;> simp

theorem exists_isNumberText (n : Number) :
    ∃ negative digit rest, IsNumberText negative digit rest n.text.toList := by
  cases n with
  | int n =>
    obtain ⟨digit, rest, -, h⟩ := isNumberText_int n
    exact ⟨_, digit, rest, h⟩
  | double x =>
    obtain ⟨digit, rest, h, -⟩ := isNumberText_double Json.doubleFormat x
    exact ⟨_, digit, rest, h⟩

theorem isNumberChar_of_mem {negative : Bool} {digit : Char} {rest cs : List Char}
    (h : IsNumberText negative digit rest cs) {c : Char} (hc : c ∈ cs) : isNumberChar c = true := by
  obtain ⟨rfl, hdigit, hrest⟩ := h
  rw [List.mem_append, List.mem_cons] at hc
  rcases hc with hc | rfl | hc
  · cases negative with
    | true =>
      rw [List.mem_singleton.mp hc]
      decide
    | false => cases hc
  · exact isNumberChar_of_isDigit hdigit
  · exact hrest c hc

-- ---------------------------------------------------------------------------
-- Meanings
-- ---------------------------------------------------------------------------

namespace Yaml.Meaning

variable {negative : Bool} {digit : Char} {rest : List Char} {text : String}

def opensNumber : List Char → Bool
  | '-' :: c :: _ => isDigit c
  | c :: _ => isDigit c
  | [] => false

theorem opensNumber_of_isNumberText {cs : List Char} (h : IsNumberText negative digit rest cs) :
    opensNumber cs = true := by
  obtain ⟨rfl, hdigit, -⟩ := h
  have hminus : digit ≠ '-' := by
    rintro rfl
    simp [isDigit] at hdigit
  cases negative <;> simp [opensNumber, hdigit, hminus]

/-- No word with a meaning of its own opens as a number does. -/
theorem words_of_opensNumber (h : opensNumber text.toList = true) :
    (text.isEmpty || isNull text) = false ∧ bool? text = none ∧ spellsNonFinite text = false := by
  have hne : ∀ word ∈ ["", "null", "Null", "NULL", "~", "true", "True", "TRUE", "false", "False",
      "FALSE", ".inf", ".Inf", ".INF", "+.inf", "+.Inf", "+.INF", "-.inf", "-.Inf", "-.INF", ".nan",
      ".NaN", ".NAN"], text ≠ word := by
    have hwords : ∀ word ∈ ["", "null", "Null", "NULL", "~", "true", "True", "TRUE", "false",
        "False", "FALSE", ".inf", ".Inf", ".INF", "+.inf", "+.Inf", "+.INF", "-.inf", "-.Inf",
        "-.INF", ".nan", ".NaN", ".NAN"], opensNumber word.toList = false := by decide
    rintro word hword rfl
    rw [hwords text hword] at h
    cases h
  simp only [List.mem_cons, List.not_mem_nil, or_false, forall_eq_or_imp, forall_eq] at hne
  refine ⟨?_, ?_, ?_⟩
  · simp [isNull, hne]
  · unfold bool?
    split <;> simp_all
  · simp [spellsNonFinite, hne]

theorem ofText_of_opensNumber (h : opensNumber text.toList = true) :
    ofText text =
      match int? text.toList with
      | some n => .int n
      | none =>
        if isPadded text.toList then .text
        else ((Decimal.double? text.toList).map .double).getD .text := by
  obtain ⟨hnull, hbool, hfinite⟩ := words_of_opensNumber h
  simp only [ofText, hnull, hbool, float?, hfinite, Bool.false_eq_true, if_false]
  cases int? text.toList <;> rfl

theorem marked?_of_isNumberChar (h : ∀ c ∈ rest, isNumberChar c = true) :
    marked? (digit :: rest) = none := by
  have hmark : ∀ {mark : Char} {digits : List Char}, isNumberChar mark = false →
      rest ≠ mark :: digits := by
    rintro mark digits hmark rfl
    rw [h mark (List.mem_cons_self ..)] at hmark
    cases hmark
  unfold marked?
  split
  · rename_i heq
    cases heq
    exact absurd rfl (hmark (by decide))
  · rename_i heq
    cases heq
    exact absurd rfl (hmark (by decide))
  · rename_i heq
    cases heq
    exact absurd rfl (hmark (by decide))
  · rfl

theorem toDigits_zero_cons {n : Nat} {rest : List Char} (h : Nat.toDigits 10 n = '0' :: rest) :
    rest = [] := by
  have hzero : n = 0 := by
    induction n using Nat.strong_induction_on generalizing rest with
    | _ n ih =>
      rw [Nat.toDigits_eq_if (by decide)] at h
      split at h
      · rename_i hlt
        obtain ⟨hdigit, -⟩ := List.cons.inj h
        interval_cases n <;> first | rfl | (revert hdigit; decide)
      · obtain ⟨digit, more, hmore⟩ :=
          List.exists_cons_of_ne_nil (Nat.toDigits_ne_nil (n := n / 10) (b := 10))
        rw [hmore, List.cons_append] at h
        obtain ⟨rfl, -⟩ := List.cons.inj h
        have := ih (n / 10) (by omega) hmore
        omega
  subst hzero
  simpa using h.symm

theorem splitSign_of_isNumberText {cs : List Char} (h : IsNumberText negative digit rest cs) :
    splitSign cs = (negative, digit :: rest) := by
  obtain ⟨rfl, hdigit, -⟩ := h
  exact Decimal.splitSign_sign negative rest hdigit

theorem int?_of_digits {n : Int} {digit : Char} {rest cs : List Char}
    (h : IsNumberText (decide (n < 0)) digit rest cs)
    (hdigits : Nat.toDigits 10 n.natAbs = digit :: rest) (hfits : fits n = true) :
    int? cs = some n := by
  have hsign := splitSign_of_isNumberText h
  have hpadded : isPadded cs = false := by
    unfold isPadded
    rw [hsign]
    split
    · rename_i heq
      obtain ⟨rfl, rfl⟩ := List.cons.inj heq
      cases toDigits_zero_cons hdigits
    · rfl
  have hnat : Decimal.nat? (digit :: rest) = some n.natAbs := hdigits ▸ Decimal.nat?_toDigits _
  have hvalue : (if decide (n < 0) = true then -(n.natAbs : Int) else n.natAbs) = n := by
    split_ifs with hneg
    · simp only [decide_eq_true_eq] at hneg
      omega
    · simp only [decide_eq_true_eq] at hneg
      omega
  have hany : anyInt? cs = some n := by
    simp only [anyInt?, hpadded, hsign, marked?_of_isNumberChar h.2.2, hnat, Bool.false_eq_true,
      if_false]
    simpa using hvalue
  simp [int?, hany, hfits]

theorem int?_of_point {cs : List Char} (h : IsNumberText negative digit rest cs)
    (hpoint : ∃ c ∈ rest, isDigit c = false) : int? cs = none ∧ isPadded cs = false := by
  have hsign := splitSign_of_isNumberText h
  obtain ⟨c, hc, hmark⟩ := hpoint
  have hpadded : isPadded cs = false := by
    unfold isPadded
    rw [hsign]
    split
    · rename_i heq
      obtain ⟨-, rfl⟩ := List.cons.inj heq
      rw [List.all_eq_false]
      exact ⟨c, hc, by simp [hmark]⟩
    · rfl
  have hnat : Decimal.nat? (digit :: rest) = none := by
    rw [Decimal.nat?, if_neg]
    simp only [Bool.and_eq_true, List.all_eq_true, not_and, not_forall]
    exact fun _ => ⟨c, List.mem_cons_of_mem _ hc, by simp [hmark]⟩
  refine ⟨?_, hpadded⟩
  simp [int?, anyInt?, hpadded, hsign, marked?_of_isNumberChar h.2.2, hnat]

theorem ofText_int {n : Int} (h : fits n = true) : ofText (toString n) = .int n := by
  obtain ⟨digit, rest, hdigits, htext⟩ := isNumberText_int n
  rw [ofText_of_opensNumber (opensNumber_of_isNumberText htext), int?_of_digits htext hdigits h]

theorem ofText_double (format : Double.TextFormat) {x : Double} (hx : x.InFormat) :
    ofText (x.text format) = .double x := by
  obtain ⟨digit, rest, htext, hpoint⟩ := isNumberText_double format x
  obtain ⟨hint, hpadded⟩ := int?_of_point htext hpoint
  rw [ofText_of_opensNumber (opensNumber_of_isNumberText htext), hint, hpadded,
    Double.double?_toList_text format hx]
  rfl

end Yaml.Meaning

-- ---------------------------------------------------------------------------
-- Values
-- ---------------------------------------------------------------------------

theorem Yaml.Spot.ofMeaning?_number {n : Number} (h : n.InRange) :
    ofMeaning? n.text (.ofText n.text) = some (.number n) := by
  cases n with
  | int n =>
    obtain ⟨hlow, hhigh⟩ := h
    have hfits : Meaning.fits n = true := by
      simp only [Meaning.fits, Decimal.int64Min, Decimal.uint64Max, Bool.and_eq_true,
        decide_eq_true_eq] at hlow hhigh ⊢
      constructor <;> norm_num <;> omega
    rw [Number.text, Meaning.ofText_int hfits]
    simp [ofMeaning?, integer?, hlow, hhigh, Value.ofInt]
  | double x =>
    rw [Number.text, Meaning.ofText_double _ h]
    rfl

end SocketDocs
