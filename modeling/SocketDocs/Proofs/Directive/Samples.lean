import SocketDocs.Proofs.Directive.Literals
import SocketDocs.Proofs.Json.Integers

/-!
# Samples and the JSON that they spell

The text after `@Example` is read as a literal, which is not quite JSON: an integer is tried first,
then a decimal number, and of JSON only what stands in brackets. Arrays and objects are kept. The
words `null`, `true` and `false` stay texts, quotes are taken off without a look at escapes, and
what was quoted may turn out a number (`ofLine_sample_eq_iff`).
-/

namespace SocketDocs.Directive

open Decimal (int64? double?)
open DocBlock (isCollection)
open Json (Value ReadsString parseChars? readNumber)
open Literal (isBracketed unquoted value valueOfChars)

/-- A JSON text is the same as a sample. -/
def Kept (text : String) : Value → Prop
  | .array _ => True
  | .object _ => True
  | .number (.int n) => n ≤ Decimal.int64Max
  | .number (.double x) => text ≠ "-0" ∧ double? text.toList = some x
  | .string s => '\\' ∉ text.toList ∧ int64? s.toList = none ∧ double? s.toList = none ∧
      (isBracketed s.toList = true → Json.parse? s = none)
  | .null => False
  | .bool _ => False

/-- A JSON text stays the text that it is. -/
def LeftAsText (text : String) : Value → Prop
  | .null => True
  | .bool _ => True
  | .number _ => int64? text.toList = none ∧ double? text.toList = none
  | _ => False

-- ---------------------------------------------------------------------------
-- Literals
-- ---------------------------------------------------------------------------

section Literals

variable {cs : List Char}

theorem isCollection_of_isBracketed {v : Value} (hb : isBracketed cs = true)
    (h : parseChars? cs = some v) : isCollection v = true := by
  obtain ⟨c, later, rfl, hc⟩ := Literal.exists_cons_of_isBracketed hb
  rcases Json.collection_of_parseChars? hc h with ⟨items, rfl⟩ | ⟨members, rfl⟩ <;> rfl

theorem valueOfChars_of_none (hi : int64? cs = none) (hd : double? cs = none) :
    (isCollection (valueOfChars cs) = true ∧ isBracketed cs = true ∧ parseChars? cs ≠ none) ∨
      valueOfChars cs = .string (String.ofList cs) ∧
        (isBracketed cs = true → parseChars? cs = none) := by
  simp only [valueOfChars, hi, hd]
  split
  · rename_i hb
    cases hparse : parseChars? cs with
    | none => exact .inr ⟨rfl, fun _ => rfl⟩
    | some v => exact .inl ⟨isCollection_of_isBracketed hb hparse, hb, by simp⟩
  · rename_i hb
    exact .inr ⟨rfl, fun h => absurd h hb⟩

theorem valueOfChars_eq_int_iff {n : Int} :
    valueOfChars cs = .number (.int n) ↔ int64? cs = some n := by
  cases hi : int64? cs with
  | some m => simp [valueOfChars, hi]
  | none =>
    cases hd : double? cs with
    | some x => simp [valueOfChars, hi, hd]
    | none =>
      constructor
      · intro h
        rcases valueOfChars_of_none hi hd with ⟨hv, -⟩ | ⟨hv, -⟩ <;> rw [h] at hv <;> cases hv
      · simp

theorem valueOfChars_eq_double_iff {x : Double} :
    valueOfChars cs = .number (.double x) ↔ int64? cs = none ∧ double? cs = some x := by
  cases hi : int64? cs with
  | some m => simp [valueOfChars, hi]
  | none =>
    cases hd : double? cs with
    | some y => simp [valueOfChars, hi, hd]
    | none =>
      constructor
      · intro h
        rcases valueOfChars_of_none hi hd with ⟨hv, -⟩ | ⟨hv, -⟩ <;> rw [h] at hv <;> cases hv
      · simp

theorem valueOfChars_eq_string_iff {s : String} :
    valueOfChars cs = .string s ↔ s.toList = cs ∧ int64? cs = none ∧ double? cs = none ∧
      (isBracketed cs = true → parseChars? cs = none) := by
  cases hi : int64? cs with
  | some m => simp [valueOfChars, hi]
  | none =>
    cases hd : double? cs with
    | some x => simp [valueOfChars, hi, hd]
    | none =>
      rcases valueOfChars_of_none hi hd with ⟨hv, hb, hparse⟩ | ⟨hv, hparse⟩
      · refine ⟨fun h => ?_, fun h => absurd (h.2.2.2 hb) hparse⟩
        rw [h] at hv
        cases hv
      · rw [hv, Value.string.injEq, @eq_comm _ _ s, ← String.toList_inj, String.toList_ofList]
        exact ⟨fun h => ⟨h, rfl, rfl, hparse⟩, And.left⟩

end Literals

-- ---------------------------------------------------------------------------
-- JSON texts
-- ---------------------------------------------------------------------------

section Texts

variable {text : String}

/-- The characters between the quotes are those of the text unless some are escaped: then there are
more of them. -/
theorem exists_quoted {s cs rest : List Char} (h : ReadsString s cs rest) :
    ∃ quoted, s = quoted ++ '"' :: rest ∧ (quoted = cs ↔ '\\' ∉ quoted) := by
  suffices hlength : ∃ quoted, s = quoted ++ '"' :: rest ∧ cs.length ≤ quoted.length ∧
      ('\\' ∈ quoted → cs.length < quoted.length) ∧ ('\\' ∉ quoted → quoted = cs) by
    obtain ⟨quoted, hs, -, hescaped, hplain⟩ := hlength
    refine ⟨quoted, hs, ?_, hplain⟩
    rintro rfl hmem
    exact absurd (hescaped hmem) (Nat.lt_irrefl _)
  induction h with
  | close => exact ⟨[], rfl, Nat.le_refl _, nofun, fun _ => rfl⟩
  | @plain c _ _ _ _ hc _ _ ih =>
    obtain ⟨quoted, rfl, hle, hescaped, hplain⟩ := ih
    refine ⟨c :: quoted, rfl, ?_, ?_, ?_⟩
    · simpa using hle
    · simpa [Ne.symm hc] using hescaped
    · simpa [Ne.symm hc] using hplain
  | @escape c _ _ _ _ _ _ ih =>
    obtain ⟨quoted, rfl, hle, -⟩ := ih
    exact ⟨'\\' :: c :: quoted, rfl, by simp; omega, fun _ => by simp; omega, by simp⟩
  | @unit a b c d _ _ _ _ _ _ _ _ ih =>
    obtain ⟨quoted, rfl, hle, -⟩ := ih
    exact ⟨'\\' :: 'u' :: a :: b :: c :: d :: quoted, rfl, by simp; omega,
      fun _ => by simp; omega, by simp⟩
  | @pair a b c d _ e f g h _ _ _ _ _ _ _ _ _ ih =>
    obtain ⟨quoted, rfl, hle, -⟩ := ih
    exact ⟨'\\' :: 'u' :: a :: b :: c :: d :: '\\' :: 'u' :: e :: f :: g :: h :: quoted, rfl,
      by simp; omega, fun _ => by simp; omega, by simp⟩

theorem value_of_quoted {quoted : List Char} (h : text.toList = '"' :: quoted ++ ['"']) :
    value text = valueOfChars quoted := by
  rw [value, h, List.cons_append]
  simp [unquoted]

theorem value_string_iff {s : List Char} {cs : List Char} (htext : text.toList = '"' :: s)
    (h : ReadsString s cs []) :
    (value text = .string (String.ofList cs) ↔ Kept text (.string (String.ofList cs))) ∧
      value text ≠ .string text := by
  obtain ⟨quoted, rfl, hescaped⟩ := exists_quoted h
  rw [value_of_quoted htext, valueOfChars_eq_string_iff, Ne, valueOfChars_eq_string_iff]
  refine ⟨?_, ?_⟩
  · have hmem : '\\' ∉ text.toList ↔ '\\' ∉ quoted := by simp [htext]
    rw [Kept, hmem, Json.parse?, String.toList_ofList, @eq_comm _ cs, hescaped]
    refine and_congr_right fun hplain => ?_
    rw [hescaped.mpr hplain]
  · rintro ⟨hquoted, -⟩
    have hlength := congrArg List.length (htext.symm.trans hquoted)
    simp at hlength
    omega

theorem value_of_readNumber {n : Json.Number} {rest : List Char}
    (h : readNumber text.toList = some (n, rest)) :
    value text = valueOfChars text.toList ∧ isBracketed text.toList = false := by
  obtain ⟨c, s, hcs, hc⟩ := Json.opens_of_readNumber h
  have hquote : c ≠ '"' := by
    rintro rfl
    simp [Decimal.isDigit] at hc
  have hbracket : c ≠ '\x7b' ∧ c ≠ '[' := by
    constructor <;> rintro rfl <;> simp [Decimal.isDigit] at hc
  rw [value, hcs]
  simp [unquoted, isBracketed, hquote, hbracket]

theorem value_number_iff {n : Json.Number} (h : readNumber text.toList = some (n, [])) :
    (value text = .number n ↔ Kept text (.number n)) ∧
      (value text = .string text ↔ LeftAsText text (.number n)) := by
  obtain ⟨hvalue, hb⟩ := value_of_readNumber h
  rw [hvalue]
  refine ⟨?_, ?_⟩
  · cases n with
    | int n => rw [valueOfChars_eq_int_iff, Json.int64?_eq_some_iff_of_readNumber h, Kept]
    | double x =>
      rw [valueOfChars_eq_double_iff, Kept]
      refine and_congr_left fun _ => ?_
      constructor
      · rintro hi rfl
        exact absurd hi (by decide)
      · intro hne
        cases hi : int64? text.toList with
        | none => rfl
        | some n =>
          have hzero := Json.eq_minusZero_of_int64? h hi
          exact absurd (String.toList_inj.mp hzero) hne
  · rw [valueOfChars_eq_string_iff, LeftAsText]
    simp [hb]

theorem value_word_iff {v : Value} (h : (text.toList, v) ∈ Json.wordValues) :
    (value text = v ↔ Kept text v) ∧ (value text = .string text ↔ LeftAsText text v) := by
  simp only [Json.wordValues, List.mem_cons, Prod.mk.injEq, List.not_mem_nil, or_false] at h
  suffices htext : value text = .string text by
    rw [htext]
    obtain ⟨-, rfl⟩ | ⟨-, rfl⟩ | ⟨-, rfl⟩ := h <;> simp [Kept, LeftAsText]
  obtain ⟨h, -⟩ | ⟨h, -⟩ | ⟨h, -⟩ := h <;>
    simp [value, h, unquoted, valueOfChars_eq_string_iff, isBracketed] <;> decide

theorem value_collection {v : Value} (hparse : Json.parse? text = some v)
    (hb : isBracketed text.toList = true) :
    (value text = v ↔ Kept text v) ∧ (value text = .string text ↔ LeftAsText text v) := by
  have hv := isCollection_of_isBracketed hb hparse
  rw [value_of_isBracketed hb hparse]
  cases v with
  | array items => simp [Kept, LeftAsText]
  | object members => simp [Kept, LeftAsText]
  | null | bool | number | string => cases hv

theorem value_iff {v : Value} (htrim : Text.trim text = text) (hparse : Json.parse? text = some v) :
    (value text = v ↔ Kept text v) ∧ (value text = .string text ↔ LeftAsText text v) := by
  have hchars : Text.trimChars text.toList = text.toList := by
    have hlist := congrArg String.toList htrim
    rwa [Text.trim, String.toList_ofList] at hlist
  obtain ⟨hread, hskip⟩ := DocBlock.reads_of_trimmed hparse hchars
  by_cases hv : isCollection v = true
  · exact value_collection hparse (DocBlock.brackets_of_reads hread hv hskip).2.2
  cases hread with
  | word hw h =>
    rw [hskip, List.append_nil] at h
    exact value_word_iff (h ▸ hw)
  | string h hs =>
    rw [hskip] at h
    obtain ⟨hkept, hne⟩ := value_string_iff h hs
    exact ⟨hkept, fun heq => absurd heq hne, False.elim⟩
  | number h =>
    rw [hskip] at h
    exact value_number_iff h
  | emptyArray | array | emptyObject | object => exact absurd rfl hv

end Texts

-- ---------------------------------------------------------------------------
-- Lines
-- ---------------------------------------------------------------------------

theorem ofLine_sample {text : String} (htrim : Text.trim text = text) (hne : text ≠ "") :
    ofLine ("@Example " ++ text) [] = .directive (.sample (value text)) := by
  have hvisible : ∀ c ∈ "@Example".toList, Text.isBlank c = false := by
    have hall : "@Example".toList.all (!Text.isBlank ·) = true := by decide
    simpa using hall
  have hblank : ∀ c ∈ " ".toList, Text.isBlank c = true := List.all_eq_true.mp (by decide)
  obtain ⟨hopen, ⟨arguments, hwords⟩, hdrop⟩ :=
    @cut_after_name "@Example" " " text rfl hvisible (by decide) hblank
  have hrest : String.ofList (Text.trimChars (" ".toList ++ text.toList)) = text := htrim
  have hline : "@Example " ++ text = "@Example" ++ " " ++ text := by
    rw [show "@Example" ++ " " = "@Example " by decide]
  rw [hline, ofLine_of_opens hopen hwords, hdrop, hrest]
  have hempty : text.isEmpty = false := by simpa using hne
  simp [ofParts, literalText, readSample, hempty, Except.map, readingOf]

/-- A JSON text after `@Example` gives a sample. It is the value that the text spells if that is
kept, and the text itself where that is left. -/
theorem ofLine_sample_eq_iff {text : String} {v : Value} (htrim : Text.trim text = text)
    (hparse : Json.parse? text = some v) :
    ∃ found, ofLine ("@Example " ++ text) [] = .directive (.sample found) ∧
      (found = v ↔ Kept text v) ∧ (found = .string text ↔ LeftAsText text v) := by
  have hne : text ≠ "" := by
    rintro rfl
    cases hparse
  exact ⟨value text, ofLine_sample htrim hne, value_iff htrim hparse⟩

/-- A number in quotes is JSON for a text, and as a sample a number. -/
theorem ofLine_sample_eq_iff_quoted :
    Text.trim "\"7\"" = "\"7\"" ∧ Json.parse? "\"7\"" = some (.string "7") ∧
      ∃ found, ofLine ("@Example " ++ "\"7\"") [] = .directive (.sample found) ∧
        found ≠ .string "7" := by
  have htrim : Text.trim "\"7\"" = "\"7\"" := by decide
  have hparse : Json.parse? "\"7\"" = some (.string "7") := by decide +kernel
  obtain ⟨found, hline, hkept, -⟩ := ofLine_sample_eq_iff htrim hparse
  refine ⟨htrim, hparse, found, hline, fun h => ?_⟩
  exact absurd (hkept.mp h).2.1 (by decide)

/-- The sample `true` is a text. -/
theorem ofLine_sample_ne :
    ¬ ∀ text v, '\n' ∉ text.toList → Text.trim text = text → Json.parse? text = some v →
      ofLine ("@Example " ++ text) [] = .directive (.sample v) := by
  intro h
  have htrim : Text.trim "true" = "true" := by decide
  have hparse : Json.parse? "true" = some (.bool true) := by decide +kernel
  have hline := h "true" (.bool true) (by decide) htrim hparse
  rw [ofLine_sample htrim (by decide)] at hline
  have hvalue : value "true" = .bool true := by simpa using hline
  exact (value_iff htrim hparse).1.mp hvalue

end SocketDocs.Directive
