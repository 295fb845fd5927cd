import Mathlib.Tactic.Tauto
import SocketDocs.Json.Writer
import SocketDocs.Proofs.Decimal.Text
import SocketDocs.Proofs.Yaml.Folding

/-!
# Quoted texts

A JSON writer escapes control characters, quotes and backslashes and leaves the rest as it is. Read
as a YAML scalar, a text so written comes out folded (`quoted?_quote`).
-/

namespace SocketDocs.Yaml

open Json (escapeChar)

-- ---------------------------------------------------------------------------
-- Places
-- ---------------------------------------------------------------------------

/-- The second place stands after `text`, seen from the first. -/
structure Cursor.Past (text : List Char) (start after : Cursor) : Prop where
  rest : start.rest = text ++ after.rest
  bound : after.bound = start.bound
  index : after.index = start.index + text.length
  line : after.line = start.line + text.countP isBreak

namespace Cursor

theorem past_nil (cursor : Cursor) : Past [] cursor cursor :=
  ⟨rfl, rfl, rfl, rfl⟩

theorem Past.trans {a b : List Char} {first second third : Cursor} (h : Past a first second)
    (h' : Past b second third) : Past (a ++ b) first third where
  rest := by rw [h.rest, h'.rest, List.append_assoc]
  bound := h'.bound.trans h.bound
  index := by rw [h'.index, h.index, List.length_append, Nat.add_assoc]
  line := by rw [h'.line, h.line, List.countP_append, Nat.add_assoc]

theorem past_next {cursor : Cursor} {c : Char} {rest : List Char} (h : cursor.rest = c :: rest)
    (hc : isBreak c = false) :
    Past [c] cursor cursor.next ∧ cursor.next.rest = rest ∧ cursor.next.column = cursor.column + 1 := by
  simp only [next, h, and_true]
  exact ⟨h, rfl, rfl, by simp [hc]⟩

theorem past_nextBy {cursor : Cursor} {text rest : List Char} (h : cursor.rest = text ++ rest)
    (htext : ∀ c ∈ text, isBreak c = false) :
    Past text cursor (cursor.nextBy text.length) ∧ (cursor.nextBy text.length).rest = rest := by
  have hbreaks : text.countP isBreak = 0 := by simpa [List.countP_eq_zero] using htext
  refine ⟨⟨?_, rfl, ?_, ?_⟩, ?_⟩ <;> simp [nextBy, h, hbreaks]

end Cursor

-- ---------------------------------------------------------------------------
-- Characters
-- ---------------------------------------------------------------------------

namespace Scan

theorem escapeChar_self {c : Char} (hquote : c ≠ '"') (hslash : c ≠ '\\') (hle : 0x20 ≤ c.toNat) :
    escapeChar c = [c] := by
  have hne : ∀ d : Char, d.toNat < 0x20 → c ≠ d := by
    rintro d hd rfl
    omega
  have hletters := And.intro (hne '\x08' (by decide)) (And.intro (hne '\x0c' (by decide))
    (And.intro (hne '\n' (by decide)) (And.intro (hne '\r' (by decide)) (hne '\t' (by decide)))))
  simp [escapeChar, hquote, hslash, hletters, Nat.not_lt.mpr hle]

theorem escapeChar_cases (c : Char) :
    (escapeChar c = [c] ∧ c ≠ '"' ∧ c ≠ '\\' ∧ 0x20 ≤ c.toNat) ∨
    (∃ letter, escapeChar c = ['\\', letter] ∧ codeLength? letter = none ∧
      escapedChar? letter = some c ∧ isBreak letter = false ∧ isGap c = false) ∨
    (∃ digits, escapeChar c = '\\' :: 'u' :: digits ∧ digits.length = 4 ∧
      Decimal.natOfRadix? 16 digits = some c.toNat ∧ (∀ d ∈ digits, isBreak d = false) ∧
      c.toNat < 0x20) := by
  by_cases hquote : c = '"'
  · subst hquote
    exact .inr (.inl ⟨'"', by decide⟩)
  by_cases hslash : c = '\\'
  · subst hslash
    exact .inr (.inl ⟨'\\', by decide⟩)
  by_cases hcontrol : 0x20 ≤ c.toNat
  · exact .inl ⟨escapeChar_self hquote hslash hcontrol, hquote, hslash, hcontrol⟩
  · -- the control characters, one by one
    have hall : ∀ n < 32,
        (escapeChar (Char.ofNat n) = ['\\', (escapeChar (Char.ofNat n)).getD 1 ' '] ∧
          codeLength? ((escapeChar (Char.ofNat n)).getD 1 ' ') = none ∧
          escapedChar? ((escapeChar (Char.ofNat n)).getD 1 ' ') = some (Char.ofNat n) ∧
          isBreak ((escapeChar (Char.ofNat n)).getD 1 ' ') = false ∧ isGap (Char.ofNat n) = false) ∨
        (escapeChar (Char.ofNat n) = '\\' :: 'u' :: (escapeChar (Char.ofNat n)).drop 2 ∧
          ((escapeChar (Char.ofNat n)).drop 2).length = 4 ∧
          Decimal.natOfRadix? 16 ((escapeChar (Char.ofNat n)).drop 2) =
            some (Char.ofNat n).toNat ∧
          ((escapeChar (Char.ofNat n)).drop 2).all (!isBreak ·) = true ∧
          (Char.ofNat n).toNat < 0x20) := by
      decide +kernel
    have hc := hall c.toNat (by omega)
    rw [Char.ofNat_toNat] at hc
    rcases hc with hletter | ⟨heq, hlength, hcode, hbreak, hlt⟩
    · exact .inr (.inl ⟨_, hletter⟩)
    · exact .inr (.inr ⟨_, heq, hlength, hcode, by simpa using hbreak, hlt⟩)

theorem isBreak_of_le {c : Char} (h : 0x20 ≤ c.toNat) : (isBlank c || isBreak c) = isGap c := by
  have hne : ∀ d : Char, d.toNat < 0x20 → (c == d) = false := by
    intro d hd
    rw [beq_eq_false_iff_ne]
    rintro rfl
    omega
  simp [isBlank, isBreak, isGap, hne '\t' (by decide), hne '\r' (by decide), hne '\n' (by decide),
    Bool.or_assoc]

theorem escapeChar_of_isGap {c : Char} (h : isGap c = true) :
    escapeChar c = [c] ∧ (isBlank c || isBreak c) = true := by
  rcases escapeChar_cases c with ⟨heq, -, -, hle⟩ | ⟨_, _, _, _, _, hc⟩ | ⟨_, _, _, _, _, hlt⟩
  · exact ⟨heq, (isBreak_of_le hle).trans h⟩
  · rw [h] at hc
    cases hc
  · simp only [isGap, Bool.or_eq_true, beq_iff_eq] at h
    rcases h with ((rfl | h) | h) | h
    · exact absurd hlt (by decide)
    all_goals omega

theorem escapeChar_head {c : Char} (h : isGap c = false) :
    ∃ d more, escapeChar c = d :: more ∧ (isBlank d || isBreak d) = false ∧ d ≠ '"' ∧
      (d = c ∧ more = [] ∨ d = '\\') ∧ ∀ e ∈ escapeChar c, isBreak e = false := by
  rcases escapeChar_cases c with ⟨heq, hquote, -, hle⟩ | ⟨letter, heq, -, -, hbreak, -⟩ |
    ⟨digits, heq, -, -, hbreak, -⟩
  · have hplain := (isBreak_of_le hle).trans h
    refine ⟨c, [], heq, hplain, hquote, .inl ⟨rfl, rfl⟩, ?_⟩
    rw [Bool.or_eq_false_iff] at hplain
    simpa [heq] using hplain.2
  · refine ⟨'\\', [letter], heq, by decide, by decide, .inr rfl, ?_⟩
    rw [heq]
    simpa using ⟨by decide, hbreak⟩
  · refine ⟨'\\', 'u' :: digits, heq, by decide, by decide, .inr rfl, ?_⟩
    rw [heq]
    simpa [isBreak] using hbreak

-- ---------------------------------------------------------------------------
-- Words
-- ---------------------------------------------------------------------------

theorem escape?_code {digits tail : List Char} {c : Char} (hlength : digits.length = 4)
    (hcode : Decimal.natOfRadix? 16 digits = some c.toNat) (hc : c.toNat < 0x20) :
    escape? ('u' :: (digits ++ tail)) = some (c, 5) := by
  have htake : (digits ++ tail).take 4 = digits := by rw [← hlength, List.take_left]
  have hsurrogate : (decide (0xD800 ≤ c.toNat) && decide (c.toNat ≤ 0xDFFF) ||
      decide (0x10FFFF < c.toNat)) = false := by
    simp only [Bool.or_eq_false_iff, Bool.and_eq_false_iff, decide_eq_false_iff_not]
    omega
  simp [escape?, codeLength?, htake, hlength, hcode, hsurrogate, Char.ofNat_toNat]

theorem quotedRun_char {c : Char} (hgap : isGap c = false) (fuel : Nat) (done : List Char)
    {cursor : Cursor} {tail : List Char} (h : cursor.rest = escapeChar c ++ tail) :
    ∃ after, quotedRun false (fuel + 1) done cursor = quotedRun false fuel (c :: done) after ∧
      Cursor.Past (escapeChar c) cursor after ∧ after.rest = tail := by
  obtain ⟨-, -, -, -, -, -, hbreaks⟩ := escapeChar_head hgap
  obtain ⟨hpast, hrest⟩ := Cursor.past_nextBy h hbreaks
  rcases escapeChar_cases c with ⟨heq, hquote, hslash, hle⟩ | ⟨letter, heq, hcode, hletter, hbreak, -⟩ |
    ⟨digits, heq, hlength, hcode, -, hlt⟩
  · rw [heq] at h hbreaks ⊢
    have hplain := (isBreak_of_le hle).trans hgap
    obtain ⟨hpast, hrest, -⟩ := Cursor.past_next h (hbreaks c (List.mem_singleton_self c))
    refine ⟨cursor.next, ?_, hpast, hrest⟩
    simp [quotedRun, h, hplain, hquote, hslash]
  · refine ⟨_, ?_, hpast, hrest⟩
    rw [heq] at h ⊢
    have hescape : escape? (letter :: tail) = some (c, 1) := by simp [escape?, hcode, hletter]
    have hblank : (isBlank '\\' || isBreak '\\') = false := by decide
    simp [quotedRun, h, hbreak, hescape, hblank]
  · refine ⟨_, ?_, hpast, hrest⟩
    rw [heq] at h ⊢
    have hblank : (isBlank '\\' || isBreak '\\') = false := by decide
    have hbreak : isBreak 'u' = false := by decide
    simp only [List.cons_append] at h
    simp [quotedRun, h, hbreak, hblank, escape?_code hlength hcode hlt, hlength]

theorem quotedRun_word {word : List Char} (hword : ∀ c ∈ word, isGap c = false) (fuel : Nat)
    (done : List Char) {cursor : Cursor} {tail : List Char}
    (h : cursor.rest = word.flatMap escapeChar ++ tail) :
    ∃ after, quotedRun false (word.length + fuel) done cursor =
        quotedRun false fuel (word.reverse ++ done) after ∧
      Cursor.Past (word.flatMap escapeChar) cursor after ∧ after.rest = tail := by
  induction word generalizing done cursor with
  | nil =>
    refine ⟨cursor, ?_, Cursor.past_nil cursor, by simpa using h⟩
    simp
  | cons c word ih =>
    obtain ⟨hc, hword⟩ := List.forall_mem_cons.mp hword
    rw [List.flatMap_cons, List.append_assoc] at h
    obtain ⟨mid, hstep, hpast, hmid⟩ := quotedRun_char hc (word.length + fuel) done h
    obtain ⟨after, hrun, hpast', hafter⟩ := ih hword (c :: done) hmid
    refine ⟨after, ?_, ?_, hafter⟩
    · rw [List.length_cons, Nat.add_right_comm, hstep, hrun, List.reverse_cons, List.append_assoc]
      rfl
    · rw [List.flatMap_cons]
      exact hpast.trans hpast'

theorem quotedRun_stop {fuel : Nat} {done : List Char} {cursor : Cursor} {c : Char}
    {tail : List Char} (h : cursor.rest = c :: tail)
    (hc : (isBlank c || isBreak c) = true ∨ c = '"') :
    quotedRun false fuel done cursor = some ⟨done.reverse, false, cursor⟩ := by
  cases fuel with
  | zero => rfl
  | succ fuel =>
    rcases hc with hc | rfl
    · simp only [quotedRun, h, hc, if_true]
    · have hblank : (isBlank '"' || isBreak '"') = false := by decide
      simp [quotedRun, h, hblank]

-- ---------------------------------------------------------------------------
-- Gaps
-- ---------------------------------------------------------------------------

theorem takeGap_stop {fuel : Nat} {gap : Gap} {cursor : Cursor} {c : Char} {tail : List Char}
    (h : cursor.rest = c :: tail) (hc : (isBlank c || isBreak c) = false) :
    takeGap 0 fuel gap cursor = some (gap, cursor) := by
  rw [Bool.or_eq_false_iff] at hc
  cases fuel <;> simp [takeGap, Cursor.char?, h, hc.1, hc.2]

theorem lineBreak_of_ne {cursor : Cursor} {c : Char} {tail : List Char}
    (h : cursor.rest = c :: tail) (hbreak : isBreak c = true) (hc : c ≠ '\r') :
    cursor.lineBreak = ([if c.toNat == 0x2028 || c.toNat == 0x2029 then c else '\n'],
      { cursor with rest := tail, index := cursor.index + 1, line := cursor.line + 1, column := 0 }) := by
  unfold Cursor.lineBreak
  rw [h]
  split
  · rename_i heq
    cases heq
    exact absurd rfl hc
  · rename_i heq
    cases heq
    rw [if_pos hbreak]
  · rename_i heq
    cases heq

theorem takeGap_char {c : Char} (hgap : isGap c = true) (fuel : Nat) (gap : Gap)
    {cursor : Cursor} {tail : List Char} (h : cursor.rest = c :: tail) :
    ∃ after, takeGap 0 (fuel + 1) gap cursor = takeGap 0 fuel (gap.step c) after ∧
      Cursor.Past [c] cursor after ∧ after.rest = tail ∧ (after.column == 0) = isBreak c := by
  by_cases hspace : c = ' '
  · subst hspace
    obtain ⟨hpast, hrest, hcolumn⟩ := Cursor.past_next h (by decide)
    refine ⟨cursor.next, ?_, hpast, hrest, ?_⟩
    · cases hbroken : gap.broken <;>
        simp [takeGap, Cursor.char?, h, isBlank, Gap.step, hbroken]
    · rw [hcolumn]
      rfl
  · have hcode : c.toNat = 0x85 ∨ c.toNat = 0x2028 ∨ c.toNat = 0x2029 := by
      simpa [isGap, hspace, or_assoc] using hgap
    have hne : ∀ d : Char, d.toNat < 0x80 → c ≠ d := by
      rintro d hd rfl
      omega
    have hbreak : isBreak c = true := by
      simp only [isBreak, Bool.or_eq_true, beq_iff_eq]
      tauto
    have hblank : isBlank c = false := by simp [isBlank, hspace, hne '\t' (by decide)]
    have hline := lineBreak_of_ne h hbreak (hne '\r' (by decide))
    refine ⟨cursor.lineBreak.2, ?_, ?_, ?_, ?_⟩
    · cases hbroken : gap.broken <;>
        simp [takeGap, Cursor.char?, h, hblank, hbreak, hline, Gap.step, hspace, hbroken]
    · rw [hline]
      exact ⟨h, rfl, rfl, by simp [hbreak]⟩
    · rw [hline]
    · rw [hline, hbreak]
      rfl

theorem takeGap_gap {chars : List Char} (hchars : ∀ c ∈ chars, isGap c = true) (fuel : Nat)
    (gap : Gap) {cursor : Cursor} {tail : List Char} (h : cursor.rest = chars ++ tail) :
    ∃ after, takeGap 0 (chars.length + fuel) gap cursor =
        takeGap 0 fuel (chars.foldl Gap.step gap) after ∧
      Cursor.Past chars cursor after ∧ after.rest = tail ∧ (chars = [] → after = cursor) ∧
      (chars ≠ [] → (after.column == 0) = chars.getLast?.any isBreak) := by
  induction chars generalizing gap cursor with
  | nil => exact ⟨cursor, by simp, Cursor.past_nil cursor, h, fun _ => rfl, fun hne => absurd rfl hne⟩
  | cons c chars ih =>
    obtain ⟨hc, hchars⟩ := List.forall_mem_cons.mp hchars
    obtain ⟨mid, hstep, hpast, hmid, hcolumn⟩ := takeGap_char hc (chars.length + fuel) gap h
    obtain ⟨after, hrun, hpast', hafter, hnil, hlast⟩ := ih hchars (gap.step c) hmid
    refine ⟨after, ?_, hpast.trans hpast', hafter, by simp, ?_⟩
    · rw [List.length_cons, Nat.add_right_comm, hstep, hrun, List.foldl_cons]
    · intro _
      cases chars with
      | nil => simpa [hnil rfl] using hcolumn
      | cons d more => rw [hlast (by simp), List.getLast?_cons_cons]

-- ---------------------------------------------------------------------------
-- Marks
-- ---------------------------------------------------------------------------

theorem isPrefixOf_quoted {x : Char} (hx : escapeChar x = [x]) (hslash : x ≠ '\\')
    (pattern : List Char) (c : Char) (more tail : List Char) :
    (x :: pattern).isPrefixOf ((c :: more).flatMap escapeChar ++ '"' :: tail) =
      (c == x && pattern.isPrefixOf (more.flatMap escapeChar ++ '"' :: tail)) := by
  by_cases hc : c = x
  · subst hc
    simp [hx]
  · have hne : (c == x) = false := by simpa using hc
    -- what is written for another character opens with it or with a backslash
    obtain ⟨d, rest, heq, hd⟩ : ∃ d rest, escapeChar c = d :: rest ∧ x ≠ d := by
      cases hgap : isGap c with
      | true => exact ⟨c, [], (escapeChar_of_isGap hgap).1, Ne.symm hc⟩
      | false =>
        obtain ⟨d, rest, heq, -, -, hd, -⟩ := escapeChar_head hgap
        refine ⟨d, rest, heq, ?_⟩
        rcases hd with ⟨rfl, -⟩ | rfl
        · exact Ne.symm hc
        · exact hslash
    simp [heq, List.isPrefixOf, hd, hne]

theorem head?_quoted (cs tail : List Char) :
    ((cs.flatMap escapeChar ++ '"' :: tail).head?.all fun c => isBlank c || isBreak c) =
      cs.head?.any isGap := by
  cases cs with
  | nil => rfl
  | cons c more =>
    cases hgap : isGap c with
    | true =>
      obtain ⟨heq, hblank⟩ := escapeChar_of_isGap hgap
      simp [heq, hgap] at hblank ⊢
      exact hblank
    | false =>
      obtain ⟨d, rest, heq, hblank, -⟩ := escapeChar_head hgap
      simp [heq, hgap] at hblank ⊢
      exact hblank

theorem atDocumentMark_quoted {cursor : Cursor} {cs tail : List Char}
    (h : cursor.rest = cs.flatMap escapeChar ++ '"' :: tail) :
    cursor.atDocumentMark = (cursor.column == 0 && opensMark cs) := by
  have hdash := isPrefixOf_quoted (x := '-') (by decide) (by decide)
  have hpoint := isPrefixOf_quoted (x := '.') (by decide) (by decide)
  have hnil : ∀ (x : Char) (pattern : List Char), x ≠ '"' →
      (x :: pattern).isPrefixOf ([].flatMap escapeChar ++ '"' :: tail) = false := by
    intro x pattern hx
    simp [List.isPrefixOf, hx]
  have hdashNil := fun pattern => hnil '-' pattern (by decide)
  have hpointNil := fun pattern => hnil '.' pattern (by decide)
  unfold Cursor.atDocumentMark
  rw [Bool.and_assoc]
  congr 1
  rw [h]
  rcases cs with _ | ⟨a, _ | ⟨b, _ | ⟨c, more⟩⟩⟩
  · simp only [hdashNil, hpointNil, opensMark, Bool.or_self, Bool.and_false]
  · simp only [hdash, hpoint, hdashNil, hpointNil, opensMark, Bool.or_self, Bool.and_false]
  · simp only [hdash, hpoint, hdashNil, hpointNil, opensMark, Bool.or_self, Bool.and_false]
  · simp only [hdash, hpoint]
    -- after three plain characters the fourth decides
    have hfourth : escapeChar a = [a] → escapeChar b = [b] → escapeChar c = [c] →
        cursor.endsWord 3 = more.head?.any isGap := by
      intro ha hb hc
      rw [← head?_quoted more tail, Cursor.endsWord, Cursor.ahead?, h]
      simp [ha, hb, hc, List.head?_eq_getElem?]
    have hmark : opensMark (a :: b :: c :: more) =
        (((a == '-' && b == '-' && c == '-') || (a == '.' && b == '.' && c == '.')) &&
          more.head?.any isGap) := by
      cases more <;> simp [opensMark]
    rw [hmark]
    by_cases hd : a = '-' ∧ b = '-' ∧ c = '-'
    · obtain ⟨rfl, rfl, rfl⟩ := hd
      rw [hfourth (by decide) (by decide) (by decide)]
      simp
    by_cases hp : a = '.' ∧ b = '.' ∧ c = '.'
    · obtain ⟨rfl, rfl, rfl⟩ := hp
      rw [hfourth (by decide) (by decide) (by decide)]
      simp
    have hd' : (a == '-' && b == '-' && c == '-') = false := by simpa using hd
    have hp' : (a == '.' && b == '.' && c == '.') = false := by simpa using hp
    simp only [List.isPrefixOf, Bool.and_true, ← Bool.and_assoc, hd', hp', Bool.or_self,
      Bool.and_false, Bool.false_and]

-- ---------------------------------------------------------------------------
-- Whole texts
-- ---------------------------------------------------------------------------

theorem length_le_quoted (cs : List Char) : cs.length ≤ (cs.flatMap escapeChar).length := by
  induction cs with
  | nil => exact Nat.le_refl 0
  | cons c cs ih =>
    have hpos : 0 < (escapeChar c).length := by
      rcases escapeChar_cases c with ⟨heq, -⟩ | ⟨_, heq, -⟩ | ⟨_, heq, -⟩ <;> simp [heq]
    simp only [List.flatMap_cons, List.length_append, List.length_cons]
    omega

theorem flatMap_escapeChar_gap {gap : List Char} (h : ∀ c ∈ gap, isGap c = true) :
    gap.flatMap escapeChar = gap := by
  induction gap with
  | nil => rfl
  | cons c gap ih =>
    obtain ⟨hc, hgap⟩ := List.forall_mem_cons.mp h
    simp [(escapeChar_of_isGap hc).1, ih hgap]

theorem exists_head_quoted {cs : List Char} (h : ∀ c ∈ cs.head?, isGap c = false)
    (tail : List Char) : ∃ d more, cs.flatMap escapeChar ++ '"' :: tail = d :: more ∧
      (isBlank d || isBreak d) = false := by
  cases cs with
  | nil => exact ⟨'"', tail, rfl, by decide⟩
  | cons c cs =>
    obtain ⟨d, more, heq, hblank, -⟩ := escapeChar_head (h c rfl)
    exact ⟨d, more ++ (cs.flatMap escapeChar ++ '"' :: tail), by simp [heq], hblank⟩

theorem length_le_bound {cs tail : List Char} {cursor : Cursor}
    (h : cursor.rest = cs.flatMap escapeChar ++ tail)
    (hbound : cursor.rest.length ≤ cursor.bound) : cs.length ≤ cursor.bound := by
  have := length_le_quoted cs
  rw [h, List.length_append] at hbound
  omega

theorem quotedFrom_close {word : List Char} (hword : ∀ c ∈ word, isGap c = false) (fuel : Nat)
    (done : List Char) {cursor : Cursor} {tail : List Char}
    (h : cursor.rest = word.flatMap escapeChar ++ '"' :: tail)
    (hbound : cursor.rest.length ≤ cursor.bound)
    (hstart : (cursor.atDocumentMark || cursor.atEnd) = false) :
    ∃ after, quotedFrom false (fuel + 1) done cursor = some (done ++ word, after) ∧
      Cursor.Past (word.flatMap escapeChar ++ ['"']) cursor after ∧ after.rest = tail := by
  obtain ⟨extra, hextra⟩ := Nat.exists_eq_add_of_le (length_le_bound h hbound)
  obtain ⟨after, hrun, hpast, hrest⟩ := quotedRun_word hword extra [] h
  rw [← hextra, quotedRun_stop hrest (.inr rfl)] at hrun
  obtain ⟨hquote, htail, -⟩ := Cursor.past_next hrest (by decide)
  refine ⟨after.next, ?_, hpast.trans hquote, htail⟩
  have hsees : after.sees '"' = true := by simp [Cursor.sees, Cursor.char?, hrest]
  rw [quotedFrom, hstart]
  simp [hrun, hsees]

/-- A word and the gap after it are read in one round. -/
theorem quotedFrom_round {word gap next : List Char} (hword : ∀ c ∈ word, isGap c = false)
    (hne : gap ≠ []) (hgap : ∀ c ∈ gap, isGap c = true) (hnext : ∀ c ∈ next.head?, isGap c = false)
    (fuel : Nat) (done : List Char) {cursor : Cursor} {tail : List Char}
    (h : cursor.rest = (word ++ (gap ++ next)).flatMap escapeChar ++ '"' :: tail)
    (hbound : cursor.rest.length ≤ cursor.bound)
    (hstart : (cursor.atDocumentMark || cursor.atEnd) = false) :
    ∃ after, quotedFrom false (fuel + 1) done cursor =
        quotedFrom false fuel (done ++ word ++ foldGap gap) after ∧
      Cursor.Past (word.flatMap escapeChar ++ gap) cursor after ∧
      after.rest = next.flatMap escapeChar ++ '"' :: tail ∧
      (after.column == 0) = gap.getLast?.any isBreak := by
  have hlength := length_le_bound h hbound
  simp only [List.length_append] at hlength
  rw [List.flatMap_append, List.flatMap_append, List.append_assoc, List.append_assoc,
    flatMap_escapeChar_gap hgap] at h
  obtain ⟨c, more, rfl⟩ := List.exists_cons_of_ne_nil hne
  have hc : isGap c = true := hgap c (List.mem_cons_self ..)
  -- the word
  obtain ⟨extra, hextra⟩ := Nat.exists_eq_add_of_le (by omega : word.length ≤ cursor.bound)
  obtain ⟨mid, hrun, hpast, hmid⟩ := quotedRun_word hword extra [] h
  rw [← hextra, quotedRun_stop hmid (.inl (escapeChar_of_isGap hc).2)] at hrun
  have hsees : mid.sees '"' = false := by
    have hquote : c ≠ '"' := by rintro rfl; exact absurd hc (by decide)
    simp [Cursor.sees, Cursor.char?, hmid, hquote]
  -- the gap
  obtain ⟨room, hroom⟩ := Nat.exists_eq_add_of_le
    (by rw [hpast.bound]; omega : (c :: more).length ≤ mid.bound + 1)
  obtain ⟨after, htake, hpast', hafter, -, hlast⟩ := takeGap_gap hgap room {} hmid
  obtain ⟨d, ds, hhead, hblank⟩ := exists_head_quoted hnext tail
  rw [← hroom, takeGap_stop (hafter.trans hhead) hblank] at htake
  refine ⟨after, ?_, hpast.trans hpast', hafter, hlast hne⟩
  rw [quotedFrom, hstart]
  simp [hrun, hsees, htake, foldGap]

/-- Reading a quoted text folds it. -/
theorem quotedFrom_eq (lineStart : Bool) (cs : List Char) {fuel : Nat} (done : List Char)
    {cursor : Cursor} {tail : List Char} (h : cursor.rest = cs.flatMap escapeChar ++ '"' :: tail)
    (hbound : cursor.rest.length ≤ cursor.bound) (hcolumn : (cursor.column == 0) = lineStart)
    (hfuel : cs.length < fuel) :
    match folded lineStart cs with
    | some text => ∃ after, quotedFrom false fuel done cursor = some (done ++ text, after) ∧
        Cursor.Past (cs.flatMap escapeChar ++ ['"']) cursor after ∧ after.rest = tail
    | none => quotedFrom false fuel done cursor = none := by
  induction hn : cs.length using Nat.strong_induction_on
    generalizing lineStart cs fuel done cursor with
  | _ n ih =>
    obtain ⟨fuel, rfl⟩ := Nat.exists_eq_succ_of_ne_zero (Nat.ne_of_gt (Nat.zero_lt_of_lt hfuel))
    have hstart : (cursor.atDocumentMark || cursor.atEnd) = (lineStart && opensMark cs) := by
      rw [atDocumentMark_quoted h, hcolumn]
      simp [Cursor.atEnd, h]
    cases hmark : lineStart && opensMark cs with
    | true =>
      rw [folded_mark hmark, quotedFrom, hstart, hmark]
      rfl
    | false =>
      rw [hmark] at hstart
      rcases exists_words cs with hword | ⟨word, gap, next, rfl, hword, hne, hgap, hnext⟩
      · rw [folded_word hmark hword]
        exact quotedFrom_close hword fuel done h hbound hstart
      · obtain ⟨after, hround, hpast, hafter, hlast⟩ :=
          quotedFrom_round hword hne hgap hnext fuel done h hbound hstart
        have hpos := List.length_pos_iff.mpr hne
        simp only [List.length_append] at hfuel hn
        have hafterBound : after.rest.length ≤ after.bound := by
          have := congrArg List.length hpast.rest
          rw [hpast.bound]
          simp only [List.length_append] at this
          omega
        have hrec := ih next.length (by omega) _ next (done ++ word ++ foldGap gap) hafter hafterBound
          hlast (show next.length < fuel by omega) rfl
        rw [Nat.succ_eq_add_one, hround, folded_gap hmark hword hne hgap hnext]
        cases hfolded : folded (gap.getLast?.any isBreak) next with
        | none =>
          rw [hfolded] at hrec
          exact hrec
        | some text =>
          rw [hfolded] at hrec
          obtain ⟨last, hread, hpast', htail⟩ := hrec
          refine ⟨last, by simpa using hread, ?_, htail⟩
          rw [List.flatMap_append, List.flatMap_append, flatMap_escapeChar_gap hgap]
          simpa using hpast.trans hpast'

theorem quoted?_quote {text : List Char} {cursor : Cursor} {tail : List Char}
    (h : cursor.rest = '"' :: (text.flatMap escapeChar ++ '"' :: tail))
    (hbound : cursor.rest.length ≤ cursor.bound) :
    match folded false text with
    | some read => ∃ after, quoted? false cursor = some (read, after) ∧
        Cursor.Past ('"' :: (text.flatMap escapeChar ++ ['"'])) cursor after ∧ after.rest = tail
    | none => quoted? false cursor = none := by
  obtain ⟨hpast, hrest, hcolumn⟩ := Cursor.past_next h (by decide)
  have hlength := congrArg List.length h
  have hle := length_le_quoted text
  simp only [List.length_cons, List.length_append] at hlength
  have hread := quotedFrom_eq false text [] hrest
    (by rw [hrest, hpast.bound]; simp only [List.length_append, List.length_cons]; omega)
    (by rw [hcolumn]; rfl) (show text.length < cursor.bound + 1 by omega)
  rw [quoted?]
  cases hfolded : folded false text with
  | none =>
    rw [hfolded] at hread
    exact hread
  | some read =>
    rw [hfolded] at hread
    obtain ⟨after, hread, hpast', htail⟩ := hread
    exact ⟨after, by simpa using hread, hpast.trans hpast', htail⟩

end Scan

end SocketDocs.Yaml
