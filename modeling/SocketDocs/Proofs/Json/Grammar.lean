import Mathlib.Data.List.DropRight
import SocketDocs.Json.Reader
import SocketDocs.Text.Blank

/-!
# What the JSON reader accepts

`Reads depth text part rest` says that `text` opens with a spelling of `part` and goes on with
`rest`. It has none of the fuel that bounds the reader, and its rules are those of JSON.
`parseChars?_eq_some_iff` shows that the relation is exactly what the reader does: the fuel that it
starts from is never short.

Numbers are left to the reader itself; of them only the characters are told here.
-/

namespace SocketDocs.Json

open SocketDocs.Decimal (isDigit splitSign)

-- ---------------------------------------------------------------------------
-- Strings
-- ---------------------------------------------------------------------------

/-- `ReadsString text cs rest`: after an opening quote, `text` spells the characters `cs` up to the
closing quote, and goes on with `rest`. -/
inductive ReadsString : List Char → List Char → List Char → Prop
  | close {rest} : ReadsString ('"' :: rest) [] rest
  | plain {c s cs rest} : c ≠ '"' → c ≠ '\\' → 0x20 ≤ c.toNat → ReadsString s cs rest →
      ReadsString (c :: s) (c :: cs) rest
  | escape {c p s cs rest} : escaped? c = some p → ReadsString s cs rest →
      ReadsString ('\\' :: c :: s) (p :: cs) rest
  | unit {a b c d u s cs rest} : hexUnit? a b c d = some u → isLowUnit u = false →
      isHighUnit u = false → ReadsString s cs rest →
      ReadsString ('\\' :: 'u' :: a :: b :: c :: d :: s) (Char.ofNat u :: cs) rest
  | pair {a b c d u e f g h l s cs rest} : hexUnit? a b c d = some u → isHighUnit u = true →
      hexUnit? e f g h = some l → isLowUnit l = true → ReadsString s cs rest →
      ReadsString ('\\' :: 'u' :: a :: b :: c :: d :: '\\' :: 'u' :: e :: f :: g :: h :: s)
        (joinUnits u l :: cs) rest

theorem readString_unit {done s : List Char} {a b c d : Char} {u : Nat}
    (h : hexUnit? a b c d = some u) (hl : isLowUnit u = false) (hh : isHighUnit u = false) :
    readString done ('\\' :: 'u' :: a :: b :: c :: d :: s) = readString (Char.ofNat u :: done) s := by
  rw [readString.eq_def]
  split <;> grind

theorem readString_escape {done s : List Char} {c p : Char} (h : escaped? c = some p) :
    readString done ('\\' :: c :: s) = readString (p :: done) s := by
  have hu : c ≠ 'u' := by rintro rfl; simp [escaped?] at h
  rw [readString.eq_def]
  split <;> grind

theorem readString_plain {done s : List Char} {c : Char} (hq : c ≠ '"') (hb : c ≠ '\\')
    (hc : 0x20 ≤ c.toNat) : readString done (c :: s) = readString (c :: done) s := by
  rw [readString.eq_def]
  split <;> grind

theorem readsString_of_readString {done s : List Char} {text : String} {rest : List Char}
    (h : readString done s = some (text, rest)) :
    ∃ cs, ReadsString s cs rest ∧ text = String.ofList (done.reverse ++ cs) := by
  fun_induction readString done s generalizing text rest with
  | case1 => cases h
  | case2 done s =>
    cases h
    exact ⟨[], .close, by simp⟩
  | case3 => cases h
  | case4 => cases h
  | case5 done a b c d e f g h s u hu _ hh l hl hl' ih =>
    obtain ⟨cs, hcs, rfl⟩ := ih ‹_›
    exact ⟨_, .pair hu hh hl hl' hcs, by simp⟩
  | case6 => cases h
  | case7 => cases h
  | case8 done a b c d e f g h s u hu hl hh ih =>
    obtain ⟨cs, hcs, rfl⟩ := ih ‹_›
    exact ⟨_, .unit hu (by simpa using hl) (by simpa using hh) hcs, by simp⟩
  | case9 => cases h
  | case10 => cases h
  | case11 done a b c d s _ u hu hn ih =>
    obtain ⟨cs, hcs, rfl⟩ := ih h
    simp only [Bool.or_eq_true, not_or, Bool.not_eq_true] at hn
    exact ⟨_, .unit hu hn.1 hn.2 hcs, by simp⟩
  | case12 done c s _ _ p hp ih =>
    obtain ⟨cs, hcs, rfl⟩ := ih h
    exact ⟨_, .escape hp hcs, by simp⟩
  | case13 => cases h
  | case14 => cases h
  | case15 done c s hq _ _ _ hn ih =>
    obtain ⟨cs, hcs, rfl⟩ := ih h
    simp only [Bool.or_eq_true, decide_eq_true_eq, beq_iff_eq, not_or] at hn
    exact ⟨_, .plain (by simpa using hq) hn.2 (by omega) hcs, by simp⟩

theorem not_isLowUnit_of_isHighUnit {u : Nat} (h : isHighUnit u = true) : isLowUnit u = false := by
  simp only [isHighUnit, Bool.and_eq_true, decide_eq_true_eq] at h
  simp only [isLowUnit, Bool.and_eq_false_iff, decide_eq_false_iff_not]
  omega

theorem ReadsString.read {s cs rest : List Char} (h : ReadsString s cs rest) (done : List Char) :
    readString done s = some (String.ofList (done.reverse ++ cs), rest) := by
  induction h generalizing done with
  | close => simp [readString]
  | plain hq hb hc _ ih => simp [readString_plain hq hb hc, ih]
  | escape hp _ ih => simp [readString_escape hp, ih]
  | unit hu hl hh _ ih => simp [readString_unit hu hl hh, ih]
  | pair hu hh hl hl' _ ih =>
    simp [readString, hu, not_isLowUnit_of_isHighUnit hh, hh, hl, hl', ih]
-- ---------------------------------------------------------------------------
-- Numbers
-- ---------------------------------------------------------------------------

def isNumberChar (c : Char) : Bool :=
  isDigit c || ['.', '-', '+', 'e', 'E'].contains c

theorem isNumberChar_of_mem_takeWhile {c : Char} {cs : List Char} (h : c ∈ cs.takeWhile isDigit) :
    isNumberChar c = true := by
  have hc : isDigit c = true := List.all_eq_true.mp List.all_takeWhile c h
  simp [isNumberChar, hc]

theorem splitSign_append (cs : List Char) :
    ∃ u, cs = u ++ (splitSign cs).2 ∧ ∀ c ∈ u, isNumberChar c = true := by
  unfold splitSign
  split
  · exact ⟨['-'], rfl, by simp [isNumberChar]⟩
  · exact ⟨['+'], rfl, by simp [isNumberChar]⟩
  · exact ⟨[], rfl, by simp⟩

theorem readExponent_append {negative : Bool} {m : Nat} {e : Int} {cs : List Char} {n : Number}
    {rest : List Char} (h : readExponent negative m e cs = some (n, rest)) :
    ∃ u, cs = u ++ rest ∧ ∀ c ∈ u, isNumberChar c = true := by
  have hnone : ∀ {x : Option Double} {cs}, (x.map fun x => (Number.double x, cs)) = some (n, rest) →
      ∃ u, cs = u ++ rest ∧ ∀ c ∈ u, isNumberChar c = true := by
    intro x cs h
    obtain ⟨y, -, h⟩ := Option.map_eq_some_iff.mp h
    cases h
    exact ⟨[], rfl, by simp⟩
  unfold readExponent at h
  split at h
  · rename_i mark tail
    split at h
    · rename_i hmark
      obtain ⟨sign, hsign, hu⟩ := splitSign_append tail
      have hrest : rest = (splitSign tail).2.dropWhile isDigit := by
        simp only at h
        split at h
        · cases h
        · split at h
          · split at h
            · cases h
            · cases h; rfl
          · obtain ⟨y, -, h⟩ := Option.map_eq_some_iff.mp h
            cases h; rfl
      refine ⟨mark :: sign ++ (splitSign tail).2.takeWhile isDigit, ?_, ?_⟩
      · rw [hrest, List.append_assoc, List.takeWhile_append_dropWhile, List.cons_append, ← hsign]
      · intro c hc
        simp only [List.cons_append, List.mem_cons, List.mem_append] at hc
        rcases hc with rfl | hc | hc
        · simp only [Bool.or_eq_true, beq_iff_eq] at hmark
          rcases hmark with rfl | rfl <;> decide
        · exact hu c hc
        · exact isNumberChar_of_mem_takeWhile hc
    · exact hnone h
  · exact hnone h

theorem readUnsigned_append {negative : Bool} {cs : List Char} {n : Number} {rest : List Char}
    (h : readUnsigned negative cs = some (n, rest)) :
    ∃ u, u ≠ [] ∧ cs = u ++ rest ∧ ∀ c ∈ u, isNumberChar c = true := by
  have hcs : cs = cs.takeWhile isDigit ++ cs.dropWhile isDigit :=
    (List.takeWhile_append_dropWhile).symm
  have htake : ∀ c ∈ cs.takeWhile isDigit, isNumberChar c = true :=
    fun c hc => isNumberChar_of_mem_takeWhile hc
  simp only [readUnsigned] at h
  split at h
  · cases h
  · rename_i hdigits
    have hne : cs.takeWhile isDigit ≠ [] := by
      intro hnil
      simp [hnil] at hdigits
    split at h
    · rename_i tail hdrop
      split at h
      · cases h
      · obtain ⟨u, hu, hc⟩ := readExponent_append h
        refine ⟨cs.takeWhile isDigit ++ '.' :: tail.takeWhile isDigit ++ u, by simp [hne], ?_, ?_⟩
        · rw [List.append_assoc, List.append_assoc, List.cons_append, ← hu,
            List.takeWhile_append_dropWhile, ← hdrop]
          exact hcs
        · intro c hmem
          simp only [List.mem_append, List.mem_cons] at hmem
          rcases hmem with (hmem | rfl | hmem) | hmem
          · exact htake c hmem
          · decide
          · exact isNumberChar_of_mem_takeWhile hmem
          · exact hc c hmem
    · split at h
      · cases h
        exact ⟨_, hne, hcs, htake⟩
      · obtain ⟨u, hu, hc⟩ := readExponent_append h
        refine ⟨cs.takeWhile isDigit ++ u, by simp [hne], ?_, ?_⟩
        · rw [List.append_assoc, ← hu]
          exact hcs
        · intro c hmem
          rcases List.mem_append.mp hmem with hmem | hmem
          · exact htake c hmem
          · exact hc c hmem

theorem readNumber_append {cs : List Char} {n : Number} {rest : List Char}
    (h : readNumber cs = some (n, rest)) :
    ∃ u, u ≠ [] ∧ cs = u ++ rest ∧ ∀ c ∈ u, isNumberChar c = true := by
  unfold readNumber at h
  split at h
  · obtain ⟨u, -, rfl, hc⟩ := readUnsigned_append h
    refine ⟨'-' :: u, by simp, rfl, ?_⟩
    intro c hmem
    rcases List.mem_cons.mp hmem with rfl | hmem
    · decide
    · exact hc c hmem
  · exact readUnsigned_append h
-- ---------------------------------------------------------------------------
-- Values
-- ---------------------------------------------------------------------------

/-- What is read: a value, or the items or members of a collection up to its closing bracket. -/
inductive Part where
  | value (value : Value)
  | items (items : List Value)
  | members (members : List (String × Value))

def wordValues : List (List Char × Value) :=
  [(['n', 'u', 'l', 'l'], .null), (['t', 'r', 'u', 'e'], .bool true),
   (['f', 'a', 'l', 's', 'e'], .bool false)]

inductive Reads : Nat → List Char → Part → List Char → Prop
  | word {d cs spelling v rest} : (spelling, v) ∈ wordValues → skipSpace cs = spelling ++ rest →
      Reads d cs (.value v) rest
  | string {d cs s text rest} : skipSpace cs = '"' :: s → ReadsString s text rest →
      Reads d cs (.value (.string (String.ofList text))) rest
  | number {d cs n rest} : readNumber (skipSpace cs) = some (n, rest) →
      Reads d cs (.value (.number n)) rest
  | emptyArray {d cs s rest} : skipSpace cs = '[' :: s → skipSpace s = ']' :: rest →
      Reads (d + 1) cs (.value (.array [])) rest
  | array {d cs s items rest} : skipSpace cs = '[' :: s → Reads d s (.items items) rest →
      Reads (d + 1) cs (.value (.array items)) rest
  | emptyObject {d cs s rest} : skipSpace cs = '\x7b' :: s → skipSpace s = '\x7d' :: rest →
      Reads (d + 1) cs (.value (.object [])) rest
  | object {d cs s members rest} : skipSpace cs = '\x7b' :: s → Reads d s (.members members) rest →
      Reads (d + 1) cs (.value (.object (Keyed.ofList members))) rest
  | lastItem {d cs item s rest} : Reads d cs (.value item) s → skipSpace s = ']' :: rest →
      Reads d cs (.items [item]) rest
  | item {d cs item s t items rest} : Reads d cs (.value item) s → skipSpace s = ',' :: t →
      Reads d t (.items items) rest → Reads d cs (.items (item :: items)) rest
  | lastMember {d cs s key t u value w rest} : skipSpace cs = '"' :: s →
      ReadsString s key t → skipSpace t = ':' :: u → Reads d u (.value value) w →
      skipSpace w = '\x7d' :: rest → Reads d cs (.members [(String.ofList key, value)]) rest
  | member {d cs s key t u value w x members rest} : skipSpace cs = '"' :: s →
      ReadsString s key t → skipSpace t = ':' :: u → Reads d u (.value value) w →
      skipSpace w = ',' :: x → Reads d x (.members members) rest →
      Reads d cs (.members ((String.ofList key, value) :: members)) rest

-- ---------------------------------------------------------------------------
-- Blanks
-- ---------------------------------------------------------------------------

@[simp] theorem skipSpace_skipSpace (cs : List Char) : skipSpace (skipSpace cs) = skipSpace cs :=
  List.dropWhile_idempotent isSpace cs

theorem length_skipSpace_le (cs : List Char) : (skipSpace cs).length ≤ cs.length :=
  (List.dropWhile_sublist _).length_le

theorem length_lt_of_skipSpace {cs : List Char} {c : Char} {s : List Char}
    (h : skipSpace cs = c :: s) : s.length < cs.length := by
  have hle := length_skipSpace_le cs
  rw [h, List.length_cons] at hle
  omega

theorem readValue_skipSpace (fuel d : Nat) (cs : List Char) :
    readValue fuel d (skipSpace cs) = readValue fuel d cs := by
  cases fuel with
  | zero => rfl
  | succ fuel => simp only [readValue, skipSpace_skipSpace]

theorem readItems_skipSpace (fuel d : Nat) (cs : List Char) :
    readItems fuel d (skipSpace cs) = readItems fuel d cs := by
  cases fuel with
  | zero => rfl
  | succ fuel => simp only [readItems, readValue_skipSpace]

theorem readMembers_skipSpace (fuel d : Nat) (cs : List Char) :
    readMembers fuel d (skipSpace cs) = readMembers fuel d cs := by
  cases fuel with
  | zero => rfl
  | succ fuel => simp only [readMembers, skipSpace_skipSpace]

-- ---------------------------------------------------------------------------
-- The reader gives only what the relation allows
-- ---------------------------------------------------------------------------

/-- The three readers call one another with less fuel, so one induction carries all three. -/
theorem reads_of_read (fuel : Nat) :
    (∀ {d cs v rest}, readValue fuel d cs = some (v, rest) → Reads d cs (.value v) rest) ∧
    (∀ {d cs items rest}, readItems fuel d cs = some (items, rest) →
      Reads d cs (.items items) rest) ∧
    (∀ {d cs members rest}, readMembers fuel d cs = some (members, rest) →
      Reads d cs (.members members) rest) := by
  induction fuel with
  | zero => refine ⟨?_, ?_, ?_⟩ <;> intro _ _ _ _ h <;> simp [readValue, readItems, readMembers] at h
  | succ fuel ih =>
    obtain ⟨ihv, ihi, ihm⟩ := ih
    refine ⟨?_, ?_, ?_⟩
    · intro d cs v rest h
      rw [readValue] at h
      split at h
      · cases h
        exact .word (show (['n', 'u', 'l', 'l'], Value.null) ∈ wordValues by simp [wordValues]) ‹_›
      · cases h
        exact .word (show (['t', 'r', 'u', 'e'], Value.bool true) ∈ wordValues by simp [wordValues])
          ‹_›
      · cases h
        exact .word (show (['f', 'a', 'l', 's', 'e'], Value.bool false) ∈ wordValues by
          simp [wordValues]) ‹_›
      · obtain ⟨⟨text, s⟩, hs, h⟩ := Option.map_eq_some_iff.mp h
        obtain ⟨cs, hcs, rfl⟩ := readsString_of_readString hs
        cases h; exact .string ‹_› hcs
      · split at h
        · cases h
        · rename_i hd
          obtain ⟨d, rfl⟩ := Nat.exists_eq_succ_of_ne_zero (by simpa using hd)
          split at h
          · cases h; exact .emptyArray ‹_› ‹_›
          · obtain ⟨⟨items, s⟩, hi, h⟩ := Option.map_eq_some_iff.mp h
            cases h
            exact .array ‹_› (ihi (by rwa [readItems_skipSpace] at hi))
      · split at h
        · cases h
        · rename_i hd
          obtain ⟨d, rfl⟩ := Nat.exists_eq_succ_of_ne_zero (by simpa using hd)
          split at h
          · cases h; exact .emptyObject ‹_› ‹_›
          · obtain ⟨⟨members, s⟩, hm, h⟩ := Option.map_eq_some_iff.mp h
            cases h
            exact .object ‹_› (ihm (by rwa [readMembers_skipSpace] at hm))
      · obtain ⟨⟨n, s⟩, hn, h⟩ := Option.map_eq_some_iff.mp h
        cases h; exact .number hn
    · intro d cs items rest h
      rw [readItems] at h
      split at h
      · cases h
      · rename_i item s hv
        split at h
        · obtain ⟨⟨later, t⟩, hi, h⟩ := Option.map_eq_some_iff.mp h
          cases h; exact .item (ihv hv) ‹_› (ihi hi)
        · cases h; exact .lastItem (ihv hv) ‹_›
        · cases h
    · intro d cs members rest h
      rw [readMembers] at h
      split at h
      · split at h
        · cases h
        · rename_i key t hk
          obtain ⟨cs, hcs, rfl⟩ := readsString_of_readString hk
          split at h
          · split at h
            · cases h
            · rename_i value w hv
              split at h
              · obtain ⟨⟨later, x⟩, hm, h⟩ := Option.map_eq_some_iff.mp h
                cases h; exact .member ‹_› hcs ‹_› (ihv hv) ‹_› (ihm hm)
              · cases h; exact .lastMember ‹_› hcs ‹_› (ihv hv) ‹_›
              · cases h
          · cases h
      · cases h

-- ---------------------------------------------------------------------------
-- The reader gives all that the relation allows
-- ---------------------------------------------------------------------------

theorem isBlank_of_isDigit {c : Char} (h : isDigit c) : Text.isBlank c = false := by
  have hc : 48 ≤ c.toNat ∧ c.toNat ≤ 57 := by
    simpa [isDigit, Char.le_def, UInt32.le_iff_toNat_le] using h
  simp [Text.isBlank, Text.inRanges, Text.blankRanges, Text.CodeRange.contains]
  omega

theorem opens_of_readNumber {cs : List Char} {n : Number} {rest : List Char}
    (h : readNumber cs = some (n, rest)) : ∃ c s, cs = c :: s ∧ (c = '-' ∨ isDigit c) := by
  cases cs with
  | nil => simp [readNumber, readUnsigned] at h
  | cons c s =>
    refine ⟨c, s, rfl, ?_⟩
    unfold readNumber at h
    split at h
    · rename_i heq
      cases heq
      exact .inl rfl
    · by_cases hc : isDigit c
      · exact .inr hc
      · simp [readUnsigned, hc] at h

theorem Reads.opens {d : Nat} {cs : List Char} {p : Part} {rest : List Char}
    (h : Reads d cs p rest) :
    ∃ c s, skipSpace cs = c :: s ∧ Text.isBlank c = false ∧ c ≠ ']' ∧ c ≠ '\x7d' := by
  induction h with
  | word hw h =>
    simp only [wordValues, List.mem_cons, Prod.mk.injEq, List.not_mem_nil, or_false] at hw
    obtain ⟨rfl, -⟩ | ⟨rfl, -⟩ | ⟨rfl, -⟩ := hw <;> exact ⟨_, _, h, by decide⟩
  | number h =>
    obtain ⟨c, s, hcs, rfl | hc⟩ := opens_of_readNumber h
    · exact ⟨_, _, hcs, by decide⟩
    · refine ⟨c, s, hcs, isBlank_of_isDigit hc, ?_, ?_⟩ <;> rintro rfl <;> simp [isDigit] at hc
  | string h _ => exact ⟨_, _, h, by decide⟩
  | emptyArray h _ => exact ⟨_, _, h, by decide⟩
  | array h _ _ => exact ⟨_, _, h, by decide⟩
  | emptyObject h _ => exact ⟨_, _, h, by decide⟩
  | object h _ _ => exact ⟨_, _, h, by decide⟩
  | lastItem _ _ ih => exact ih
  | item _ _ _ ih _ => exact ih
  | lastMember h _ _ _ _ _ => exact ⟨_, _, h, by decide⟩
  | member h _ _ _ _ _ _ _ => exact ⟨_, _, h, by decide⟩

theorem ReadsString.length_lt {s cs rest : List Char} (h : ReadsString s cs rest) :
    rest.length < s.length := by
  induction h <;> simp only [List.length_cons] at * <;> omega

theorem length_lt_of_readNumber {cs : List Char} {n : Number} {rest : List Char}
    (h : readNumber cs = some (n, rest)) : rest.length < cs.length := by
  obtain ⟨u, hne, rfl, -⟩ := readNumber_append h
  have hpos := List.length_pos_iff.mpr hne
  rw [List.length_append]
  omega

theorem Reads.length_lt {d : Nat} {cs : List Char} {p : Part} {rest : List Char}
    (h : Reads d cs p rest) : rest.length < cs.length := by
  induction h with
  | @word d cs spelling v rest hw h =>
    have hle := length_skipSpace_le cs
    simp only [wordValues, List.mem_cons, Prod.mk.injEq, List.not_mem_nil, or_false] at hw
    obtain ⟨rfl, -⟩ | ⟨rfl, -⟩ | ⟨rfl, -⟩ := hw <;> rw [h] at hle <;> simp at hle <;> omega
  | @number d cs n rest h =>
    have hle := length_skipSpace_le cs
    have hlt := length_lt_of_readNumber h
    omega
  | string h hs =>
    have := length_lt_of_skipSpace h
    have := hs.length_lt
    omega
  | emptyArray h hs =>
    have := length_lt_of_skipSpace h
    have := length_lt_of_skipSpace hs
    omega
  | array h _ ih =>
    have := length_lt_of_skipSpace h
    omega
  | emptyObject h hs =>
    have := length_lt_of_skipSpace h
    have := length_lt_of_skipSpace hs
    omega
  | object h _ ih =>
    have := length_lt_of_skipSpace h
    omega
  | lastItem _ h ih =>
    have := length_lt_of_skipSpace h
    omega
  | item _ h _ ih ih' =>
    have := length_lt_of_skipSpace h
    omega
  | lastMember h hk hc _ hw ih =>
    have := length_lt_of_skipSpace h
    have := hk.length_lt
    have := length_lt_of_skipSpace hc
    have := length_lt_of_skipSpace hw
    omega
  | member h hk hc _ hw _ ih ih' =>
    have := length_lt_of_skipSpace h
    have := hk.length_lt
    have := length_lt_of_skipSpace hc
    have := length_lt_of_skipSpace hw
    omega

def Part.closer : Part → List Char
  | .value _ => []
  | .items _ => [']']
  | .members _ => ['\x7d']

theorem ReadsString.suffix {s cs rest : List Char} (h : ReadsString s cs rest) : rest <:+ s := by
  induction h with
  | close => exact List.suffix_cons _ _
  | plain _ _ _ _ ih => exact ih.trans (List.suffix_cons _ _)
  | escape _ _ ih => exact ih.trans (List.suffix_append [_, _] _)
  | unit _ _ _ _ ih => exact ih.trans (List.suffix_append [_, _, _, _, _, _] _)
  | pair _ _ _ _ _ ih =>
    exact ih.trans (List.suffix_append [_, _, _, _, _, _, _, _, _, _, _, _] _)

theorem suffix_of_skipSpace {cs s : List Char} {c : Char} (h : skipSpace cs = c :: s) :
    c :: s <:+ cs := by
  rw [← h]
  exact List.dropWhile_suffix _

theorem suffix_of_skipSpace_cons {cs s : List Char} {c : Char} (h : skipSpace cs = c :: s) :
    s <:+ cs :=
  (List.suffix_cons c s).trans (suffix_of_skipSpace h)

theorem Reads.suffix {d : Nat} {cs : List Char} {p : Part} {rest : List Char}
    (h : Reads d cs p rest) : p.closer ++ rest <:+ cs := by
  induction h with
  | @word d cs spelling v rest _ h =>
    have hskip : skipSpace cs <:+ cs := List.dropWhile_suffix _
    rw [h] at hskip
    exact (List.suffix_append _ _).trans hskip
  | @number d cs n rest h =>
    obtain ⟨u, -, hu, -⟩ := readNumber_append h
    have hskip : skipSpace cs <:+ cs := List.dropWhile_suffix _
    rw [hu] at hskip
    exact (List.suffix_append _ _).trans hskip
  | string h hs => exact hs.suffix.trans (suffix_of_skipSpace_cons h)
  | emptyArray h hs => exact (suffix_of_skipSpace_cons hs).trans (suffix_of_skipSpace_cons h)
  | array h _ ih =>
    exact ((List.suffix_append _ _).trans ih).trans (suffix_of_skipSpace_cons h)
  | emptyObject h hs => exact (suffix_of_skipSpace_cons hs).trans (suffix_of_skipSpace_cons h)
  | object h _ ih =>
    exact ((List.suffix_append _ _).trans ih).trans (suffix_of_skipSpace_cons h)
  | lastItem _ h ih => exact (suffix_of_skipSpace h).trans ih
  | item _ h _ ih ih' => exact (ih'.trans (suffix_of_skipSpace_cons h)).trans ih
  | lastMember h hk hc _ hw ih =>
    exact (suffix_of_skipSpace hw).trans <| ih.trans <| (suffix_of_skipSpace_cons hc).trans <|
      hk.suffix.trans (suffix_of_skipSpace_cons h)
  | member h hk hc _ hw _ ih ih' =>
    exact ih'.trans <| (suffix_of_skipSpace_cons hw).trans <| ih.trans <|
      (suffix_of_skipSpace_cons hc).trans <| hk.suffix.trans (suffix_of_skipSpace_cons h)

def Part.ReadBy (fuel d : Nat) (cs : List Char) (rest : List Char) : Part → Prop
  | .value v => readValue fuel d cs = some (v, rest)
  | .items vs => readItems fuel d cs = some (vs, rest)
  | .members ms => readMembers fuel d cs = some (ms, rest)

theorem readValue_number {fuel d : Nat} {cs : List Char} {n : Number} {rest : List Char}
    (h : readNumber (skipSpace cs) = some (n, rest)) :
    readValue (fuel + 1) d cs = some (.number n, rest) := by
  obtain ⟨c, s, hcs, hc⟩ := opens_of_readNumber h
  rw [hcs] at h
  rw [readValue, hcs]
  split
  case h_7 => simp [h]
  all_goals
    rename_i heq
    cases heq
    simp [isDigit] at hc

/-- Two calls for each character taken are enough. -/
theorem Reads.readBy {d : Nat} {cs : List Char} {p : Part} {rest : List Char}
    (h : Reads d cs p rest) (fuel : Nat) (hf : 2 * cs.length ≤ fuel + 2 * rest.length) :
    p.ReadBy fuel d cs rest := by
  have hlt := h.length_lt
  induction fuel generalizing d cs p rest with
  | zero => omega
  | succ fuel ih =>
    cases h with
    | word hw h =>
      simp only [wordValues, List.mem_cons, Prod.mk.injEq, List.not_mem_nil, or_false] at hw
      obtain ⟨rfl, rfl⟩ | ⟨rfl, rfl⟩ | ⟨rfl, rfl⟩ := hw <;> simp [Part.ReadBy, readValue, h]
    | string h hs => simp [Part.ReadBy, readValue, h, hs.read]
    | number h => exact readValue_number h
    | emptyArray h hs => simp [Part.ReadBy, readValue, h, hs]
    | array h hi =>
      have hs := length_lt_of_skipSpace h
      have hread := ih hi (by omega) hi.length_lt
      obtain ⟨c, t, hc, -, hne, -⟩ := hi.opens
      rw [Part.ReadBy, ← readItems_skipSpace, hc] at hread
      simp [Part.ReadBy, readValue, h, hc, hne, hread]
    | emptyObject h hs => simp [Part.ReadBy, readValue, h, hs]
    | object h hm =>
      have hs := length_lt_of_skipSpace h
      have hread := ih hm (by omega) hm.length_lt
      obtain ⟨c, t, hc, -, -, hne⟩ := hm.opens
      rw [Part.ReadBy, ← readMembers_skipSpace, hc] at hread
      simp [Part.ReadBy, readValue, h, hc, hne, hread]
    | lastItem hv h =>
      have hs := length_lt_of_skipSpace h
      have hread := ih hv (by omega) hv.length_lt
      rw [Part.ReadBy] at hread
      simp [Part.ReadBy, readItems, hread, h]
    | item hv h hi =>
      have hs := length_lt_of_skipSpace h
      have hvlt := hv.length_lt
      have hilt := hi.length_lt
      have hread := ih hv (by omega) hvlt
      have hlater := ih hi (by omega) hilt
      simp only [Part.ReadBy] at hread hlater
      simp [Part.ReadBy, readItems, hread, h, hlater]
    | lastMember h hk hc hv hw =>
      have := length_lt_of_skipSpace h
      have := hk.length_lt
      have := length_lt_of_skipSpace hc
      have := length_lt_of_skipSpace hw
      have hread := ih hv (by omega) hv.length_lt
      rw [Part.ReadBy] at hread
      simp [Part.ReadBy, readMembers, h, hk.read, hc, hread, hw]
    | member h hk hc hv hw hm =>
      have := length_lt_of_skipSpace h
      have := hk.length_lt
      have := length_lt_of_skipSpace hc
      have := length_lt_of_skipSpace hw
      have hvlt := hv.length_lt
      have hmlt := hm.length_lt
      have hread := ih hv (by omega) hvlt
      have hlater := ih hm (by omega) hmlt
      simp only [Part.ReadBy] at hread hlater
      simp [Part.ReadBy, readMembers, h, hk.read, hc, hread, hw, hlater]

theorem parseChars?_eq_some_iff {cs : List Char} {v : Value} :
    parseChars? cs = some v ↔ ∃ rest, Reads depthLimit cs (.value v) rest ∧ skipSpace rest = [] := by
  constructor
  · intro h
    unfold parseChars? at h
    split at h
    · rename_i value rest hread
      split at h
      · rename_i hrest
        cases h
        exact ⟨rest, (reads_of_read _).1 hread, by simpa using hrest⟩
      · cases h
    · cases h
  · rintro ⟨rest, hv, hrest⟩
    have hread := hv.readBy (2 * cs.length + 2) (by omega)
    rw [Part.ReadBy] at hread
    simp [parseChars?, hread, hrest]

theorem collection_of_parseChars? {c : Char} {cs : List Char} {v : Value}
    (hc : c = '\x7b' ∨ c = '[') (h : parseChars? (c :: cs) = some v) :
    (∃ items, v = .array items) ∨ ∃ members, v = .object members := by
  have hskip : skipSpace (c :: cs) = c :: cs := by
    rcases hc with rfl | rfl <;> rfl
  obtain ⟨rest, hread, -⟩ := parseChars?_eq_some_iff.mp h
  cases hread with
  | word hword hspelled =>
    rw [hskip] at hspelled
    simp only [wordValues, List.mem_cons, Prod.mk.injEq, List.not_mem_nil, or_false] at hword
    rcases hword with ⟨rfl, -⟩ | ⟨rfl, -⟩ | ⟨rfl, -⟩ <;> rcases hc with rfl | rfl <;> cases hspelled
  | string hquote =>
    rw [hskip] at hquote
    rcases hc with rfl | rfl <;> cases hquote
  | number hnumber =>
    obtain ⟨first, later, hcons, hfirst⟩ := opens_of_readNumber hnumber
    rw [hskip] at hcons
    cases hcons
    rcases hc with rfl | rfl <;> simp [isDigit] at hfirst
  | emptyArray => exact .inl ⟨_, rfl⟩
  | array => exact .inl ⟨_, rfl⟩
  | emptyObject => exact .inr ⟨_, rfl⟩
  | object => exact .inr ⟨_, rfl⟩

end SocketDocs.Json
