import Mathlib.Data.List.Basic
import SocketDocs.Proofs.Text.Parts
import SocketDocs.Text.NameStyle

/-!
# Names on the wire

The attribute `serde` has rules of its own for renaming the fields of a struct: they go through the
name character by character and know no words. `wireRule?` states them. On plain field names, a
renaming rule gives what `wireRule?` gives for the name without its needless underscores, those that
lead, trail or stand doubled. So the rules that join words by underscores or dashes lose such
underscores, and the other four are exact (`renamed_eq_wire_iff`).
-/

namespace SocketDocs.Text

-- ---------------------------------------------------------------------------
-- The rules of the wire
-- ---------------------------------------------------------------------------

/-- Takes out the underscores and capitalises the character after each; `capital` tells whether the
first character is capitalised too. -/
def pascalFrom (capital : Bool) : List Char → List Char
  | [] => []
  | c :: rest =>
    if c = '_' then pascalFrom true rest
    else (if capital then c.toUpper else c) :: pascalFrom false rest

def uncapitalized : List Char → List Char
  | [] => []
  | c :: rest => c.toLower :: rest

def dashed (c : Char) : Char :=
  if c = '_' then '-' else c

/-- What a rule makes of the name of a field on the wire. -/
def wireRule? : String → Option (List Char → List Char)
  | "lowercase" => some id
  | "UPPERCASE" => some (·.map Char.toUpper)
  | "PascalCase" => some (pascalFrom true)
  | "camelCase" => some fun name => uncapitalized (pascalFrom true name)
  | "snake_case" => some id
  | "SCREAMING_SNAKE_CASE" => some (·.map Char.toUpper)
  | "kebab-case" => some (·.map dashed)
  | "SCREAMING-KEBAB-CASE" => some fun name => (name.map Char.toUpper).map dashed
  | _ => none

def separatingRules : List String :=
  ["snake_case", "SCREAMING_SNAKE_CASE", "kebab-case", "SCREAMING-KEBAB-CASE"]

-- ---------------------------------------------------------------------------
-- Words between underscores
-- ---------------------------------------------------------------------------

def wireWords (name : List Char) : List (List Char) :=
  (name.splitOn '_').filter (!·.isEmpty)

def squeezed (name : List Char) : List Char :=
  ['_'].intercalate (wireWords name)

/-- A name in which each underscore stands alone between two other characters. -/
structure IsSqueezed (name : List Char) : Prop where
  leading : name.head? ≠ some '_'
  trailing : name.getLast? ≠ some '_'
  doubled : ¬ ['_', '_'] <:+: name

theorem isSqueezed_iff {name : List Char} (hne : name ≠ []) :
    IsSqueezed name ↔ [] ∉ name.splitOn '_' := by
  obtain ⟨first, others, hsplit⟩ := exists_splitOn_eq_cons '_' name
  have hhead := @head?_splitOn '_' name
  have htail := @nil_mem_tail_splitOn '_' name
  simp only [hsplit, List.head?_cons, Option.some.injEq, hne, false_or, List.tail_cons] at hhead htail
  rw [hsplit, List.mem_cons, eq_comm, hhead, htail]
  constructor
  · rintro ⟨hleading, htrailing, hdoubled⟩ (h | h | h)
    · exact hleading h
    · exact htrailing h
    · exact hdoubled h
  · intro h
    exact ⟨fun hl => h (.inl hl), fun ht => h (.inr (.inl ht)), fun hd => h (.inr (.inr hd))⟩

theorem mem_wireWords {name word : List Char} (h : word ∈ wireWords name) :
    word ≠ [] ∧ '_' ∉ word := by
  obtain ⟨hpart, hne⟩ := List.mem_filter.mp h
  exact ⟨by simpa using hne, fun hmem => (of_mem_splitOn hpart '_' hmem).2 rfl⟩

theorem squeezed_sublist (name : List Char) : (squeezed name).Sublist name := by
  have h := intercalate_sublist (List.filter_sublist (p := (!·.isEmpty)) (l := name.splitOn '_')) ['_']
  rwa [List.intercalate_splitOn] at h

theorem splitOn_squeezed {name : List Char} (h : wireWords name ≠ []) :
    (squeezed name).splitOn '_' = wireWords name :=
  List.splitOn_intercalate '_' (fun _ hword => (mem_wireWords hword).2) h

theorem squeezed_eq_self_iff {name : List Char} (hwords : wireWords name ≠ []) :
    squeezed name = name ↔ IsSqueezed name := by
  have hne : name ≠ [] := by
    rintro rfl
    exact hwords rfl
  rw [isSqueezed_iff hne]
  constructor
  · intro h hnil
    have hagain := splitOn_squeezed hwords
    rw [h] at hagain
    exact (mem_wireWords (hagain ▸ hnil)).1 rfl
  · intro h
    have hall : wireWords name = name.splitOn '_' := by
      rw [wireWords, List.filter_eq_self]
      intro part hpart
      simpa using ne_of_mem_of_not_mem hpart h
    rw [squeezed, hall, List.intercalate_splitOn]

-- ---------------------------------------------------------------------------
-- Plain field names
-- ---------------------------------------------------------------------------

def isFieldChar (c : Char) : Bool :=
  c.isLower || c.isDigit || c == '_'

def IsFieldName (name : List Char) : Prop :=
  (∀ c ∈ name, isFieldChar c = true) ∧ ∃ c ∈ name, c ≠ '_'

instance (name : List Char) : Decidable (IsFieldName name) :=
  decidable_of_iff (name.all isFieldChar = true ∧ name.any (· ≠ '_') = true) (by simp [IsFieldName])

theorem lt_of_isFieldChar {c : Char} (h : isFieldChar c = true) : c.toNat < 0x80 := by
  have hkinds : (c.isLower = true ∨ c.isDigit = true) ∨ c = '_' := by
    simpa [isFieldChar] using h
  have halnum : c.isAlphanum = (c.isUpper || c.isLower || c.isDigit) := rfl
  rcases hkinds with (h | h) | rfl
  · exact toNat_lt_of_isAlphanum (by simp [halnum, h])
  · exact toNat_lt_of_isAlphanum (by simp [halnum, h])
  · decide

/-- What the case rules ask of a character; the codes are gone through one by one. -/
theorem ascii_of_isFieldChar {c : Char} (h : isFieldChar c = true) :
    c.isUpper = false ∧ (c.isAlphanum = true ↔ c ≠ '_') ∧ c.toLower = c ∧ c.toUpper.toLower = c := by
  have hall : ∀ n < 128, isFieldChar (Char.ofNat n) = true →
      (Char.ofNat n).isUpper = false ∧ ((Char.ofNat n).isAlphanum = true ↔ Char.ofNat n ≠ '_') ∧
      (Char.ofNat n).toLower = Char.ofNat n ∧ (Char.ofNat n).toUpper.toLower = Char.ofNat n := by
    decide +kernel
  simpa [h] using hall c.toNat (lt_of_isFieldChar h)

theorem isUppercase_of_isFieldChar {c : Char} (h : isFieldChar c = true) :
    isUppercase c = false := by
  rw [isUppercase, if_pos (lt_of_isFieldChar h), (ascii_of_isFieldChar h).1]

theorem isAlphanumeric_of_isFieldChar {c : Char} (h : isFieldChar c = true) :
    isAlphanumeric c = true ↔ c ≠ '_' := by
  rw [isAlphanumeric, if_pos (lt_of_isFieldChar h), (ascii_of_isFieldChar h).2.1]

theorem upperChar_of_isFieldChar {c : Char} (h : isFieldChar c = true) :
    upperChar c = [c.toUpper] := by
  rw [upperChar, if_pos (lt_of_isFieldChar h)]

theorem lowerCase_of_isFieldChar {c : Char} (h : isFieldChar c = true) :
    c.toLower = c ∧ c.toUpper.toLower = c :=
  (ascii_of_isFieldChar h).2.2

theorem lowerChar_of_isFieldChar {c : Char} (h : isFieldChar c = true) : lowerChar c = [c] := by
  rw [lowerChar, if_pos (lt_of_isFieldChar h), (lowerCase_of_isFieldChar h).1]

theorem ne_capitalSigma_of_isFieldChar {c : Char} (h : isFieldChar c = true) :
    c ≠ capitalSigma := by
  rintro rfl
  exact absurd (lt_of_isFieldChar h) (by decide)

theorem lowerCharsAfter_eq {cs : List Char} (h : ∀ c ∈ cs, isFieldChar c = true)
    (before : List Char) : lowerCharsAfter before cs = cs := by
  induction cs generalizing before with
  | nil => rfl
  | cons c rest ih =>
    obtain ⟨hc, hrest⟩ := List.forall_mem_cons.mp h
    simp [lowerCharsAfter, ne_capitalSigma_of_isFieldChar hc, lowerChar_of_isFieldChar hc, ih hrest]

theorem upperChars_eq {cs : List Char} (h : ∀ c ∈ cs, isFieldChar c = true) :
    upperChars cs = cs.map Char.toUpper := by
  rw [upperChars, List.flatMap_congr fun c hc => upperChar_of_isFieldChar (h c hc)]
  exact List.map_eq_flatMap.symm

theorem lowerWord_eq {cs : List Char} (h : ∀ c ∈ cs, isFieldChar c = true) : lowerWord cs = cs := by
  induction cs with
  | nil => rfl
  | cons c rest ih =>
    obtain ⟨hc, hrest⟩ := List.forall_mem_cons.mp h
    cases rest with
    | nil =>
      rw [lowerWord, if_neg (ne_capitalSigma_of_isFieldChar hc), lowerChar_of_isFieldChar hc]
    | cons next rest =>
      rw [lowerWord, lowerChar_of_isFieldChar hc, ih hrest]
      rfl

theorem capitalWord_cons {c : Char} {rest : List Char}
    (h : ∀ d ∈ c :: rest, isFieldChar d = true) : capitalWord (c :: rest) = c.toUpper :: rest := by
  obtain ⟨hc, hrest⟩ := List.forall_mem_cons.mp h
  rw [capitalWord, upperChar_of_isFieldChar hc, lowerWord_eq hrest]
  rfl

-- ---------------------------------------------------------------------------
-- Words of plain field names
-- ---------------------------------------------------------------------------

theorem alphanumericRuns_eq {name : List Char} (h : ∀ c ∈ name, isFieldChar c = true)
    (run : List Char) :
    alphanumericRuns run name = (name.splitOn '_').modifyHead (run.reverse ++ ·) := by
  induction name generalizing run with
  | nil => simp [alphanumericRuns]
  | cons c rest ih =>
    obtain ⟨hc, hrest⟩ := List.forall_mem_cons.mp h
    obtain ⟨first, others, hsplit⟩ := exists_splitOn_eq_cons '_' rest
    by_cases hne : c = '_'
    · have halpha : isAlphanumeric '_' = false := by decide
      simp [alphanumericRuns, halpha, ih hrest, splitOn_cons, hne, hsplit]
    · have halpha := (isAlphanumeric_of_isFieldChar hc).mpr hne
      simp [alphanumericRuns, halpha, ih hrest, splitOn_cons, hne, hsplit]

theorem cutWords_eq {cs : List Char} (h : ∀ c ∈ cs, isFieldChar c = true) (hne : cs ≠ [])
    (mode : WordMode) (word : List Char) : cutWords mode word cs = [word.reverse ++ cs] := by
  induction cs generalizing mode word with
  | nil => exact absurd rfl hne
  | cons c rest ih =>
    obtain ⟨hc, hrest⟩ := List.forall_mem_cons.mp h
    cases rest with
    | nil => simp [cutWords]
    | cons next rest =>
      have hnext := isUppercase_of_isFieldChar (hrest next (List.mem_cons_self ..))
      simp [cutWords, hnext, isUppercase_of_isFieldChar hc, ih hrest]

theorem nameWords_eq {name : List Char} (h : ∀ c ∈ name, isFieldChar c = true) :
    nameWords name = wireWords name := by
  have hruns : alphanumericRuns [] name = name.splitOn '_' := by
    rw [alphanumericRuns_eq h]
    exact congrFun List.modifyHead_id _
  have hparts : ∀ part ∈ name.splitOn '_', ∀ c ∈ part, isFieldChar c = true :=
    fun part hpart c hc => h c (of_mem_splitOn hpart c hc).1
  rw [nameWords, hruns, wireWords]
  generalize name.splitOn '_' = parts at hparts
  induction parts with
  | nil => rfl
  | cons part parts ih =>
    obtain ⟨hpart, hparts⟩ := List.forall_mem_cons.mp hparts
    rw [List.flatMap_cons, ih hparts]
    by_cases hne : part = []
    · simp [hne, cutWords]
    · simp [hne, cutWords_eq hpart hne]

-- ---------------------------------------------------------------------------
-- Capitalised words
-- ---------------------------------------------------------------------------

def capitalized : List Char → List Char
  | [] => []
  | c :: rest => c.toUpper :: rest

theorem pascalFrom_eq {name first : List Char} {others : List (List Char)}
    (h : name.splitOn '_' = first :: others) (capital : Bool) :
    pascalFrom capital name =
      (if capital then capitalized first else first) ++ others.flatMap capitalized := by
  induction name generalizing first others capital with
  | nil =>
    cases h
    cases capital <;> rfl
  | cons c rest ih =>
    obtain ⟨next, later, hrest⟩ := exists_splitOn_eq_cons '_' rest
    rw [splitOn_cons, hrest] at h
    by_cases hc : c = '_'
    · rw [if_pos hc] at h
      cases h
      rw [pascalFrom, if_pos hc, ih hrest]
      cases capital <;> rfl
    · rw [if_neg hc] at h
      cases h
      rw [pascalFrom, if_neg hc, ih hrest]
      cases capital <;> rfl

theorem pascalFrom_true (name : List Char) :
    pascalFrom true name = (wireWords name).flatMap capitalized := by
  obtain ⟨first, others, hsplit⟩ := exists_splitOn_eq_cons '_' name
  have hskip : ∀ parts : List (List Char),
      (parts.filter (!·.isEmpty)).flatMap capitalized = parts.flatMap capitalized := by
    intro parts
    induction parts with
    | nil => rfl
    | cons part parts ih => cases part <;> simp [capitalized, ih]
  rw [pascalFrom_eq hsplit, wireWords, hskip, hsplit]
  rfl

theorem map_squeezed_eq_iff {name : List Char} (hwords : wireWords name ≠ []) (f : Char → Char) :
    (squeezed name).map f = name.map f ↔ IsSqueezed name := by
  rw [← squeezed_eq_self_iff hwords]
  constructor
  · intro h
    have hlength := congrArg List.length h
    rw [List.length_map, List.length_map] at hlength
    exact (squeezed_sublist name).eq_of_length hlength
  · intro h
    rw [h]

-- ---------------------------------------------------------------------------
-- The styles of plain field names
-- ---------------------------------------------------------------------------

theorem wireWords_ne_nil {name : List Char} (h : IsFieldName name) : wireWords name ≠ [] := by
  intro hempty
  obtain ⟨c, hc, hne⟩ := h.2
  obtain ⟨part, hpart, hmem⟩ := exists_mem_splitOn hc hne
  have hnil : part = [] := by
    simpa using List.filter_eq_nil_iff.mp hempty part hpart
  rw [hnil] at hmem
  cases hmem

theorem toUpper_ne_underscore {c : Char} (h : isFieldChar c = true) (hne : c ≠ '_') :
    c.toUpper ≠ '_' := by
  intro hupper
  have hlower := (lowerCase_of_isFieldChar h).2
  rw [hupper] at hlower
  exact hne hlower.symm

section

variable {name : List Char} (h : IsFieldName name)
include h

theorem of_mem_wireWords {word : List Char} (hword : word ∈ wireWords name) :
    ∀ c ∈ word, isFieldChar c = true ∧ c ≠ '_' := by
  intro c hc
  obtain ⟨hmem, hne⟩ := of_mem_splitOn (List.mem_filter.mp hword).1 c hc
  exact ⟨h.1 c hmem, hne⟩

theorem joined_nameWords {spell : List Char → List Char} {f : Char → Char}
    (hspell : ∀ word ∈ wireWords name, spell word = word.map f) :
    NameStyle.joined [f '_'] ((nameWords name).map spell) = (squeezed name).map f := by
  rw [nameWords_eq h.1, NameStyle.joined, squeezed, map_intercalate]
  exact congrArg _ (List.map_congr_left hspell)

theorem lowerWord_of_mem {word : List Char} (hword : word ∈ wireWords name) :
    lowerWord word = word :=
  lowerWord_eq fun c hc => (of_mem_wireWords h hword c hc).1

theorem upperWord_of_mem {word : List Char} (hword : word ∈ wireWords name) :
    upperWord word = word.map Char.toUpper :=
  upperChars_eq fun c hc => (of_mem_wireWords h hword c hc).1

theorem capitalWord_of_mem {word : List Char} (hword : word ∈ wireWords name) :
    capitalWord word = capitalized word := by
  cases word with
  | nil => rfl
  | cons c rest => exact capitalWord_cons fun d hd => (of_mem_wireWords h hword d hd).1

theorem applyChars_snake : NameStyle.snake.applyChars name = squeezed name := by
  have hspell : ∀ word ∈ wireWords name, lowerWord word = word.map id := by
    intro word hword
    rw [lowerWord_of_mem h hword, List.map_id]
  exact (joined_nameWords h hspell).trans (List.map_id _)

theorem applyChars_screamingSnake :
    NameStyle.screamingSnake.applyChars name = (squeezed name).map Char.toUpper :=
  joined_nameWords (f := Char.toUpper) h fun _ hword => upperWord_of_mem h hword

theorem applyChars_kebab : NameStyle.kebab.applyChars name = (squeezed name).map dashed := by
  refine joined_nameWords (f := dashed) h fun word hword => ?_
  rw [lowerWord_of_mem h hword]
  refine (List.map_id word).symm.trans (List.map_congr_left fun c hc => ?_)
  exact (if_neg (of_mem_wireWords h hword c hc).2).symm

theorem applyChars_screamingKebab :
    NameStyle.screamingKebab.applyChars name = ((squeezed name).map Char.toUpper).map dashed := by
  rw [List.map_map]
  refine joined_nameWords (f := dashed ∘ Char.toUpper) h fun word hword => ?_
  rw [upperWord_of_mem h hword]
  refine List.map_congr_left fun c hc => ?_
  obtain ⟨hchar, hne⟩ := of_mem_wireWords h hword c hc
  exact (if_neg (toUpper_ne_underscore hchar hne)).symm

theorem applyChars_pascal : NameStyle.pascal.applyChars name = pascalFrom true name := by
  rw [pascalFrom_true, NameStyle.applyChars, nameWords_eq h.1]
  exact List.flatMap_congr fun word hword => capitalWord_of_mem h hword

theorem applyChars_camel :
    NameStyle.camel.applyChars name = uncapitalized (pascalFrom true name) := by
  rw [pascalFrom_true, NameStyle.applyChars, nameWords_eq h.1]
  obtain ⟨first, others, hsplit⟩ := List.exists_cons_of_ne_nil (wireWords_ne_nil h)
  have hmem : ∀ {word}, word ∈ first :: others → word ∈ wireWords name := fun hword => hsplit ▸ hword
  have hfirst := hmem (List.mem_cons_self ..)
  have hothers : others.flatMap capitalWord = others.flatMap capitalized :=
    List.flatMap_congr fun word hword => capitalWord_of_mem h (hmem (List.mem_cons_of_mem _ hword))
  rw [hsplit, NameStyle.camelWords, hothers, lowerWord_of_mem h hfirst, List.flatMap_cons]
  -- The first word is capitalised and then its first letter made small again.
  obtain ⟨c, rest, rfl⟩ := List.exists_cons_of_ne_nil (mem_wireWords hfirst).1
  have hchar := (of_mem_wireWords h hfirst c (List.mem_cons_self ..)).1
  have hsmall := (lowerCase_of_isFieldChar hchar).2
  simp only [capitalized, List.cons_append, uncapitalized, hsmall]

end

-- ---------------------------------------------------------------------------
-- The rules
-- ---------------------------------------------------------------------------

theorem toList_renamed {rule : String} {style : NameStyle} (h : NameStyle.ofRule? rule = some style)
    (name : String) : (renamed rule name).toList = style.applyChars name.toList := by
  rw [renamed, h]
  exact String.toList_ofList

theorem toList_renamed_eq_wire {rule name : String} {convert : List Char → List Char}
    (hrule : wireRule? rule = some convert) (hname : IsFieldName name.toList) :
    (renamed rule name).toList =
      convert (if rule ∈ separatingRules then squeezed name.toList else name.toList) := by
  unfold wireRule? at hrule
  split at hrule <;> cases hrule
  · rw [toList_renamed rfl, if_neg (by decide)]
    exact lowerCharsAfter_eq hname.1 []
  · rw [toList_renamed rfl, if_neg (by decide)]
    exact upperChars_eq hname.1
  · rw [toList_renamed rfl, if_neg (by decide), applyChars_pascal hname]
  · rw [toList_renamed rfl, if_neg (by decide), applyChars_camel hname]
  · rw [toList_renamed rfl, if_pos (by decide), applyChars_snake hname]
    rfl
  · rw [toList_renamed rfl, if_pos (by decide), applyChars_screamingSnake hname]
  · rw [toList_renamed rfl, if_pos (by decide), applyChars_kebab hname]
  · rw [toList_renamed rfl, if_pos (by decide), applyChars_screamingKebab hname]

theorem exists_map_of_separating {rule : String} {convert : List Char → List Char}
    (hrule : wireRule? rule = some convert) (h : rule ∈ separatingRules) :
    ∃ f : Char → Char, ∀ cs, convert cs = cs.map f := by
  simp only [separatingRules, List.mem_cons, List.not_mem_nil, or_false] at h
  rcases h with rfl | rfl | rfl | rfl <;> cases hrule
  · exact ⟨id, fun cs => (List.map_id cs).symm⟩
  · exact ⟨Char.toUpper, fun _ => rfl⟩
  · exact ⟨dashed, fun _ => rfl⟩
  · exact ⟨dashed ∘ Char.toUpper, fun _ => List.map_map⟩

/-- On a plain field name, a rule that joins the words gives the wire name of the squeezed name, and
any other rule gives the wire name. So the result is the wire name unless the rule joins the words
and the name has needless underscores. -/
theorem renamed_eq_wire_iff {rule name : String} {convert : List Char → List Char}
    (hrule : wireRule? rule = some convert) (hname : IsFieldName name.toList) :
    (renamed rule name).toList =
        convert (if rule ∈ separatingRules then squeezed name.toList else name.toList) ∧
      ((renamed rule name).toList = convert name.toList ↔
        (rule ∈ separatingRules → IsSqueezed name.toList)) := by
  have hlist := toList_renamed_eq_wire hrule hname
  refine ⟨hlist, ?_⟩
  by_cases hmem : rule ∈ separatingRules
  · obtain ⟨f, hf⟩ := exists_map_of_separating hrule hmem
    rw [hlist, if_pos hmem, hf, hf, map_squeezed_eq_iff (wireWords_ne_nil hname)]
    simp [hmem]
  · rw [hlist, if_neg hmem]
    simp [hmem]

/-- A name with a doubled underscore and a digit: one rule is exact for it, another is not. -/
theorem renamed_eq_wire_iff_doubled :
    (renamed "camelCase" "_user__2nd_name").toList = "user2ndName".toList ∧
      (renamed "kebab-case" "_user__2nd_name").toList = "user-2nd-name".toList ∧
      (renamed "kebab-case" "_user__2nd_name").toList ≠ "-user--2nd-name".toList := by
  have hname : IsFieldName "_user__2nd_name".toList := by decide
  have hcamel : wireRule? "camelCase" = some fun name => uncapitalized (pascalFrom true name) := rfl
  have hkebab : wireRule? "kebab-case" = some (·.map dashed) := rfl
  refine ⟨?_, ?_, ?_⟩
  · exact (renamed_eq_wire_iff hcamel hname).1
  · exact (renamed_eq_wire_iff hkebab hname).1
  · intro h
    have hsqueezed := (renamed_eq_wire_iff hkebab hname).2.mp h (by decide)
    exact hsqueezed.leading rfl

/-- A rule that leaves every plain name as it is on the wire drops a leading underscore. -/
theorem renamed_ne_wire :
    ¬ ∀ rule convert, wireRule? rule = some convert → ∀ name : String, IsFieldName name.toList →
      (renamed rule name).toList = convert name.toList := by
  intro h
  have hid := h "snake_case" id rfl "_id" (by decide)
  revert hid
  decide +kernel

end SocketDocs.Text
