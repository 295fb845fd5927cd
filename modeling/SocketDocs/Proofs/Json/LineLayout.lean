import SocketDocs.Proofs.Json.Grammar

/-!
# JSON over several lines

The blanks at the ends of the lines of a text mean nothing: a JSON text without them spells the
same value (`parseChars?_trimLines`). Strings hold no line breaks, so blanks inside them are safe.
The blanks are those of all Unicode, although JSON takes only four characters for blanks: in a JSON
text no others stand outside strings.
-/

namespace SocketDocs.Json

open SocketDocs.Decimal (isDigit splitSign radixDigit?)

def blankToLineEnd (cs : List Char) : Bool :=
  (cs.takeWhile (· != '\n')).all Text.isBlank

/-- The text without the blanks at the ends of its lines. `fresh` tells whether only blanks stand
before it on its first line. -/
def trimLinesFrom (fresh : Bool) : List Char → List Char
  | [] => []
  | c :: rest =>
    if c == '\n' then '\n' :: trimLinesFrom true rest
    else if Text.isBlank c && (fresh || blankToLineEnd rest) then trimLinesFrom fresh rest
    else c :: trimLinesFrom false rest

def trimLines (cs : List Char) : List Char :=
  trimLinesFrom true cs

theorem isBlank_of_isSpace {c : Char} (h : isSpace c = true) : Text.isBlank c = true := by
  simp only [isSpace, Bool.or_eq_true, beq_iff_eq] at h
  rcases h with ((rfl | rfl) | rfl) | rfl <;> decide

theorem ne_newline_of_not_blank {c : Char} (h : Text.isBlank c = false) : c ≠ '\n' := by
  rintro rfl
  exact absurd h (by decide)

theorem trimLinesFrom_cons {c : Char} (h : Text.isBlank c = false) (fresh : Bool) (cs : List Char) :
    trimLinesFrom fresh (c :: cs) = c :: trimLinesFrom false cs := by
  simp [trimLinesFrom, h, ne_newline_of_not_blank h]

theorem trimLinesFrom_cons_of_visible {c : Char} {cs : List Char} (hc : c ≠ '\n')
    (h : blankToLineEnd cs = false) : trimLinesFrom false (c :: cs) = c :: trimLinesFrom false cs := by
  simp [trimLinesFrom, hc, h]

theorem blankToLineEnd_cons {c : Char} (hc : c ≠ '\n') (cs : List Char) :
    blankToLineEnd (c :: cs) = (Text.isBlank c && blankToLineEnd cs) := by
  simp [blankToLineEnd, hc]

-- ---------------------------------------------------------------------------
-- Blanks between the parts of a text
-- ---------------------------------------------------------------------------

theorem skipSpace_trimLinesFrom {cs s : List Char} {c : Char} (h : skipSpace cs = c :: s)
    (hc : Text.isBlank c = false) (fresh : Bool) :
    skipSpace (trimLinesFrom fresh cs) = c :: trimLinesFrom false s := by
  induction cs generalizing fresh with
  | nil => cases h
  | cons a rest ih =>
    by_cases ha : isSpace a
    · have hrest : skipSpace rest = c :: s := by simpa [skipSpace, ha] using h
      by_cases hn : a = '\n'
      · subst hn
        simpa [trimLinesFrom, skipSpace, isSpace] using ih hrest true
      · by_cases hd : fresh || blankToLineEnd rest
        · simpa [trimLinesFrom, hn, isBlank_of_isSpace ha, hd] using ih hrest fresh
        · simpa [trimLinesFrom, hn, hd, skipSpace, ha] using ih hrest false
    · have heq : a :: rest = c :: s := by simpa [skipSpace, ha] using h
      cases heq
      rw [trimLinesFrom_cons hc]
      simp [skipSpace, ha]

theorem skipSpace_trimLinesFrom_nil {cs : List Char} (h : skipSpace cs = []) (fresh : Bool) :
    skipSpace (trimLinesFrom fresh cs) = [] := by
  induction cs generalizing fresh with
  | nil => rfl
  | cons a rest ih =>
    by_cases ha : isSpace a
    · have hrest : skipSpace rest = [] := by simpa [skipSpace, ha] using h
      by_cases hn : a = '\n'
      · subst hn
        simpa [trimLinesFrom, skipSpace, isSpace] using ih hrest true
      · by_cases hd : fresh || blankToLineEnd rest
        · simpa [trimLinesFrom, hn, isBlank_of_isSpace ha, hd] using ih hrest fresh
        · simpa [trimLinesFrom, hn, hd, skipSpace, ha] using ih hrest false
    · simp [skipSpace, ha] at h

-- ---------------------------------------------------------------------------
-- Strings
-- ---------------------------------------------------------------------------

theorem toNat_of_radixDigit? {c : Char} {n : Nat} (h : radixDigit? 16 c = some n) :
    (48 ≤ c.toNat ∧ c.toNat ≤ 57) ∨ (97 ≤ c.toNat ∧ c.toNat ≤ 102) ∨
      (65 ≤ c.toNat ∧ c.toNat ≤ 70) := by
  simp only [radixDigit?, isDigit, Char.le_def, UInt32.le_iff_toNat_le, Bool.and_eq_true,
    decide_eq_true_eq, Option.filter_eq_some_iff] at h
  obtain ⟨h, -⟩ := h
  change (if 48 ≤ c.toNat ∧ c.toNat ≤ 57 then _ else if 97 ≤ c.toNat ∧ c.toNat ≤ 102 then _
    else if 65 ≤ c.toNat ∧ c.toNat ≤ 70 then _ else _) = _ at h
  split at h
  · exact .inl ‹_›
  · split at h
    · exact .inr (.inl ‹_›)
    · split at h
      · exact .inr (.inr ‹_›)
      · cases h

theorem isHex_of_radixDigit? {c : Char} {n : Nat} (h : radixDigit? 16 c = some n) :
    Text.isBlank c = false ∧ c ≠ '"' ∧ c ≠ '\\' := by
  have hc := toNat_of_radixDigit? h
  refine ⟨?_, ?_, ?_⟩
  · simp [Text.isBlank, Text.inRanges, Text.blankRanges, Text.CodeRange.contains]
    omega
  · rintro rfl
    revert hc
    decide
  · rintro rfl
    revert hc
    decide

theorem isHex_of_hexUnit? {a b c d : Char} {u : Nat} (h : hexUnit? a b c d = some u) :
    ∀ x ∈ [a, b, c, d], Text.isBlank x = false ∧ x ≠ '"' ∧ x ≠ '\\' := by
  have hsome : ∀ x ∈ [a, b, c, d], ∃ n, radixDigit? 16 x = some n := by
    simp only [hexUnit?, Decimal.natOfRadix?, Decimal.natOfRadixFrom?, List.isEmpty_cons,
      Bool.false_eq_true, if_false] at h
    grind
  intro x hx
  obtain ⟨n, hn⟩ := hsome x hx
  exact isHex_of_radixDigit? hn

theorem isBlank_of_escaped? {c p : Char} (h : escaped? c = some p) : Text.isBlank c = false := by
  unfold escaped? at h
  split at h <;> first | decide | cases h

theorem ReadsString.trimLines {s cs rest : List Char} (h : ReadsString s cs rest) :
    blankToLineEnd s = false ∧
      ReadsString (trimLinesFrom false s) cs (trimLinesFrom false rest) := by
  induction h with
  | @close rest =>
    refine ⟨by rw [blankToLineEnd_cons (by decide)]; rfl, ?_⟩
    rw [trimLinesFrom_cons (by decide)]
    exact .close
  | @plain c s cs rest hq hb hc _ ih =>
    have hn : c ≠ '\n' := by rintro rfl; exact absurd hc (by decide)
    refine ⟨by rw [blankToLineEnd_cons hn, ih.1, Bool.and_false], ?_⟩
    rw [trimLinesFrom_cons_of_visible hn ih.1]
    exact .plain hq hb hc ih.2
  | @escape c p s cs rest hp _ ih =>
    refine ⟨by rw [blankToLineEnd_cons (by decide)]; rfl, ?_⟩
    rw [trimLinesFrom_cons (by decide), trimLinesFrom_cons (isBlank_of_escaped? hp)]
    exact .escape hp ih.2
  | @unit a b c d u s cs rest hu hl hh _ ih =>
    refine ⟨by rw [blankToLineEnd_cons (by decide)]; rfl, ?_⟩
    have hx := isHex_of_hexUnit? hu
    simp only [List.mem_cons, List.not_mem_nil, or_false, forall_eq_or_imp, forall_eq] at hx
    rw [trimLinesFrom_cons (by decide), trimLinesFrom_cons (by decide), trimLinesFrom_cons hx.1.1,
      trimLinesFrom_cons hx.2.1.1, trimLinesFrom_cons hx.2.2.1.1, trimLinesFrom_cons hx.2.2.2.1]
    exact .unit hu hl hh ih.2
  | @pair a b c d u e f g h l s cs rest hu hh hl hl' _ ih =>
    refine ⟨by rw [blankToLineEnd_cons (by decide)]; rfl, ?_⟩
    have hx := isHex_of_hexUnit? hu
    have hy := isHex_of_hexUnit? hl
    simp only [List.mem_cons, List.not_mem_nil, or_false, forall_eq_or_imp, forall_eq] at hx hy
    rw [trimLinesFrom_cons (by decide), trimLinesFrom_cons (by decide), trimLinesFrom_cons hx.1.1,
      trimLinesFrom_cons hx.2.1.1, trimLinesFrom_cons hx.2.2.1.1, trimLinesFrom_cons hx.2.2.2.1,
      trimLinesFrom_cons (by decide), trimLinesFrom_cons (by decide), trimLinesFrom_cons hy.1.1,
      trimLinesFrom_cons hy.2.1.1, trimLinesFrom_cons hy.2.2.1.1, trimLinesFrom_cons hy.2.2.2.1]
    exact .pair hu hh hl hl' ih.2

-- ---------------------------------------------------------------------------
-- Numbers
-- ---------------------------------------------------------------------------

theorem trimLinesFrom_of_blankToLineEnd {cs : List Char} (h : blankToLineEnd cs = true) :
    trimLinesFrom false cs = [] ∨ ∃ t, trimLinesFrom false cs = '\n' :: t := by
  induction cs with
  | nil => exact .inl rfl
  | cons c rest ih =>
    by_cases hc : c = '\n'
    · subst hc
      exact .inr ⟨_, rfl⟩
    · rw [blankToLineEnd_cons hc, Bool.and_eq_true] at h
      simpa [trimLinesFrom, hc, h.1, h.2] using ih h.2

theorem eq_cons_of_trimLinesFrom {cs t : List Char} {c : Char} (hc : Text.isBlank c = false)
    (h : trimLinesFrom false cs = c :: t) : ∃ s, cs = c :: s ∧ t = trimLinesFrom false s := by
  cases cs with
  | nil => cases h
  | cons a rest =>
    by_cases ha : Text.isBlank a = false
    · rw [trimLinesFrom_cons ha] at h
      cases h
      exact ⟨rest, rfl, rfl⟩
    · exfalso
      have hn := ne_newline_of_not_blank hc
      simp only [Bool.not_eq_false] at ha
      by_cases han : a = '\n'
      · subst han
        rw [trimLinesFrom] at h
        cases h
        exact hn rfl
      · by_cases hb : blankToLineEnd rest
        · have htrim : trimLinesFrom false rest = c :: t := by
            simpa [trimLinesFrom, han, ha, hb] using h
          rcases trimLinesFrom_of_blankToLineEnd hb with h' | ⟨s, h'⟩
          · rw [h'] at htrim
            cases htrim
          · rw [h'] at htrim
            cases htrim
            exact hn rfl
        · have heq : a = c := by simpa [trimLinesFrom, han, hb] using congrArg List.head? h
          rw [heq, hc] at ha
          cases ha

theorem takeWhile_trimLinesFrom (cs : List Char) :
    (trimLinesFrom false cs).takeWhile isDigit = cs.takeWhile isDigit := by
  induction cs with
  | nil => rfl
  | cons c rest ih =>
    by_cases hc : isDigit c
    · simp [trimLinesFrom_cons (isBlank_of_isDigit hc), hc, ih]
    · cases h : trimLinesFrom false (c :: rest) with
      | nil => simp [hc]
      | cons x t =>
        by_cases hx : isDigit x
        · obtain ⟨s, hs, -⟩ := eq_cons_of_trimLinesFrom (isBlank_of_isDigit hx) h
          cases hs
          exact absurd hx hc
        · simp [hc, hx]

theorem dropWhile_trimLinesFrom (cs : List Char) :
    (trimLinesFrom false cs).dropWhile isDigit = trimLinesFrom false (cs.dropWhile isDigit) := by
  induction cs with
  | nil => rfl
  | cons c rest ih =>
    by_cases hc : isDigit c
    · simp [trimLinesFrom_cons (isBlank_of_isDigit hc), hc, ih]
    · rw [List.dropWhile_cons_of_neg hc]
      cases h : trimLinesFrom false (c :: rest) with
      | nil => rfl
      | cons x t =>
        refine List.dropWhile_cons_of_neg ?_
        intro hx
        obtain ⟨s, hs, -⟩ := eq_cons_of_trimLinesFrom (isBlank_of_isDigit hx) h
        cases hs
        exact hc hx

theorem splitSign_trimLinesFrom (cs : List Char) :
    splitSign (trimLinesFrom false cs) =
      ((splitSign cs).1, trimLinesFrom false (splitSign cs).2) := by
  unfold splitSign
  split
  · rename_i t h
    obtain ⟨s, rfl, rfl⟩ := eq_cons_of_trimLinesFrom (by decide) h
    rfl
  · rename_i t h
    obtain ⟨s, rfl, rfl⟩ := eq_cons_of_trimLinesFrom (by decide) h
    rfl
  · rename_i hminus hplus
    split
    · exact absurd (trimLinesFrom_cons (by decide) _ _) (hminus _)
    · exact absurd (trimLinesFrom_cons (by decide) _ _) (hplus _)
    · rfl

theorem readExponent_of_no_mark {negative : Bool} {m : Nat} {e : Int} {cs : List Char}
    (h : isExponentMark cs = false) :
    readExponent negative m e cs = (scaled negative m e).map fun x => (.double x, cs) := by
  cases cs with
  | nil => rfl
  | cons c rest =>
    simp only [isExponentMark] at h
    simp [readExponent, h]

theorem isExponentMark_trimLinesFrom (cs : List Char) :
    isExponentMark (trimLinesFrom false cs) = isExponentMark cs := by
  have hmark : ∀ {c : Char} {s : List Char}, isExponentMark (c :: s) = true →
      Text.isBlank c = false := by
    intro c s h
    simp only [isExponentMark, Bool.or_eq_true, beq_iff_eq] at h
    rcases h with rfl | rfl <;> decide
  cases h : isExponentMark cs with
  | true =>
    cases cs with
    | nil => cases h
    | cons c rest => rw [trimLinesFrom_cons (hmark h)]; exact h
  | false =>
    cases ht : trimLinesFrom false cs with
    | nil => rfl
    | cons c t =>
      rw [Bool.eq_false_iff]
      intro hc
      obtain ⟨s, rfl, -⟩ := eq_cons_of_trimLinesFrom (hmark hc) ht
      exact absurd hc (by simpa [isExponentMark] using h)

theorem readExponent_trimLinesFrom {negative : Bool} {m : Nat} {e : Int} {cs : List Char}
    {n : Number} {rest : List Char} (h : readExponent negative m e cs = some (n, rest)) :
    readExponent negative m e (trimLinesFrom false cs) = some (n, trimLinesFrom false rest) := by
  cases hm : isExponentMark cs with
  | false =>
    rw [readExponent_of_no_mark hm] at h
    rw [readExponent_of_no_mark (by rw [isExponentMark_trimLinesFrom, hm])]
    obtain ⟨x, hx, heq⟩ := Option.map_eq_some_iff.mp h
    cases heq
    simp [hx]
  | true =>
    cases cs with
    | nil => cases hm
    | cons c tail =>
      have hc : Text.isBlank c = false := by
        simp only [isExponentMark, Bool.or_eq_true, beq_iff_eq] at hm
        rcases hm with rfl | rfl <;> decide
      simp only [isExponentMark] at hm
      rw [trimLinesFrom_cons hc]
      simp only [readExponent, hm, if_true, splitSign_trimLinesFrom, takeWhile_trimLinesFrom,
        dropWhile_trimLinesFrom] at h ⊢
      split at h
      · cases h
      · rename_i hd
        rw [if_neg hd]
        split at h
        · rename_i hp
          rw [if_pos hp]
          split at h
          · cases h
          · rename_i hz
            rw [if_neg hz]
            cases h
            rfl
        · rename_i hp
          rw [if_neg hp]
          obtain ⟨x, hx, heq⟩ := Option.map_eq_some_iff.mp h
          cases heq
          simp [hx]

theorem readUnsigned_trimLinesFrom {negative : Bool} {cs : List Char} {n : Number}
    {rest : List Char} (h : readUnsigned negative cs = some (n, rest)) :
    readUnsigned negative (trimLinesFrom false cs) = some (n, trimLinesFrom false rest) := by
  simp only [readUnsigned, takeWhile_trimLinesFrom, dropWhile_trimLinesFrom,
    isExponentMark_trimLinesFrom] at h ⊢
  split at h
  · cases h
  · rename_i hd
    rw [if_neg hd]
    split at h
    · rename_i tail htail
      rw [htail, trimLinesFrom_cons (by decide)]
      simp only [takeWhile_trimLinesFrom, dropWhile_trimLinesFrom]
      split at h
      · cases h
      · rename_i hp
        rw [if_neg hp]
        exact readExponent_trimLinesFrom h
    · rename_i hdot
      split
      · rename_i t ht
        obtain ⟨s, hs, -⟩ := eq_cons_of_trimLinesFrom (by decide) ht
        exact absurd hs (hdot s)
      · split at h
        · cases h
          rename_i hint
          rw [if_pos hint]
        · rename_i hint
          rw [if_neg hint]
          exact readExponent_trimLinesFrom h

theorem readNumber_trimLinesFrom {cs : List Char} {n : Number} {rest : List Char}
    (h : readNumber cs = some (n, rest)) :
    readNumber (trimLinesFrom false cs) = some (n, trimLinesFrom false rest) := by
  unfold readNumber at h
  split at h
  · rw [trimLinesFrom_cons (by decide)]
    exact readUnsigned_trimLinesFrom h
  · rename_i hminus
    have hread := readUnsigned_trimLinesFrom h
    unfold readNumber
    split
    · rename_i t ht
      obtain ⟨s, hs, -⟩ := eq_cons_of_trimLinesFrom (by decide) ht
      exact absurd hs (hminus s)
    · exact hread

-- ---------------------------------------------------------------------------
-- Values
-- ---------------------------------------------------------------------------

theorem Reads.trimLinesFrom {d : Nat} {cs : List Char} {p : Part} {rest : List Char}
    (h : Reads d cs p rest) (fresh : Bool) :
    Reads d (trimLinesFrom fresh cs) p (Json.trimLinesFrom false rest) := by
  induction h generalizing fresh with
  | word hw h =>
    refine .word hw ?_
    simp only [wordValues, List.mem_cons, Prod.mk.injEq, List.not_mem_nil, or_false] at hw
    obtain ⟨rfl, -⟩ | ⟨rfl, -⟩ | ⟨rfl, -⟩ := hw
    all_goals
      rw [skipSpace_trimLinesFrom h (by decide) fresh]
      rfl
  | string h hs => exact .string (skipSpace_trimLinesFrom h (by decide) fresh) hs.trimLines.2
  | number h =>
    obtain ⟨c, s, hcs, hc⟩ := opens_of_readNumber h
    have hblank : Text.isBlank c = false := by
      rcases hc with rfl | hc
      · decide
      · exact isBlank_of_isDigit hc
    refine .number ?_
    rw [hcs] at h
    rw [skipSpace_trimLinesFrom hcs hblank fresh, ← trimLinesFrom_cons hblank false]
    exact readNumber_trimLinesFrom h
  | emptyArray h hs =>
    exact .emptyArray (skipSpace_trimLinesFrom h (by decide) fresh)
      (skipSpace_trimLinesFrom hs (by decide) false)
  | array h _ ih => exact .array (skipSpace_trimLinesFrom h (by decide) fresh) (ih false)
  | emptyObject h hs =>
    exact .emptyObject (skipSpace_trimLinesFrom h (by decide) fresh)
      (skipSpace_trimLinesFrom hs (by decide) false)
  | object h _ ih => exact .object (skipSpace_trimLinesFrom h (by decide) fresh) (ih false)
  | lastItem _ h ih => exact .lastItem (ih fresh) (skipSpace_trimLinesFrom h (by decide) false)
  | item _ h _ ih ih' =>
    exact .item (ih fresh) (skipSpace_trimLinesFrom h (by decide) false) (ih' false)
  | lastMember h hk hc _ hw ih =>
    exact .lastMember (skipSpace_trimLinesFrom h (by decide) fresh) hk.trimLines.2
      (skipSpace_trimLinesFrom hc (by decide) false) (ih false)
      (skipSpace_trimLinesFrom hw (by decide) false)
  | member h hk hc _ hw _ ih ih' =>
    exact .member (skipSpace_trimLinesFrom h (by decide) fresh) hk.trimLines.2
      (skipSpace_trimLinesFrom hc (by decide) false) (ih false)
      (skipSpace_trimLinesFrom hw (by decide) false) (ih' false)

/-- The blanks at the ends of the lines of a JSON text mean nothing. -/
theorem parseChars?_trimLines {cs : List Char} {v : Value} (h : parseChars? cs = some v) :
    parseChars? (trimLines cs) = some v := by
  obtain ⟨rest, hread, hrest⟩ := parseChars?_eq_some_iff.mp h
  exact parseChars?_eq_some_iff.mpr
    ⟨_, hread.trimLinesFrom true, skipSpace_trimLinesFrom_nil hrest false⟩

end SocketDocs.Json
