import SocketDocs.Proofs.DocBlock.Literals

/-!
# Directives over several lines

A JSON array or object that stands in a comment under its directive, or opens on the directive's
own line, is read back as the value that it spells. The lines of the comment are trimmed and those
below the literal are prose; neither makes a difference (`ofBlock_literal`).
-/

namespace SocketDocs.Directive

open Json (Value)
open DocBlock (linesOf isCollection opensLiteral isLiteralEdge kept keptFrom LiteralLines)

-- ---------------------------------------------------------------------------
-- Lines and blocks
-- ---------------------------------------------------------------------------

def readingOf : Except Cause (Option Directive) → Reading
  | .ok (some directive) => .directive directive
  | .ok none => .foreign
  | .error cause => .malformed cause

theorem ofLine_of_opens {line name : String} {arguments : List String}
    (hopen : opensDirective line = true) (hwords : Text.words line = name :: arguments)
    (body : List String) :
    ofLine line body = readingOf (ofParts name arguments
      (String.ofList (Text.trimChars (line.toList.dropWhile (!Text.isBlank ·)))) body) := by
  have hhead : line.toList.head? = some '@' := by simpa [opensDirective] using hopen
  have hsplit := Text.words_cons hhead (by decide)
  rw [hwords, List.cons.injEq] at hsplit
  have hdrop : Text.dropBytes? (Text.byteLength name.toList) line.toList =
      some (line.toList.dropWhile (!Text.isBlank ·)) := by
    rw [hsplit.1, String.toList_ofList]
    exact Text.dropBytes?_takeWhile ..
  simp only [ofLine, hwords, hdrop]
  rfl

theorem cut_after_name {name gap text : String} (hname : name.toList.head? = some '@')
    (hvisible : ∀ c ∈ name.toList, Text.isBlank c = false) (hgap : gap ≠ "")
    (hblank : ∀ c ∈ gap.toList, Text.isBlank c = true) :
    opensDirective (name ++ gap ++ text) = true ∧
      (∃ arguments, Text.words (name ++ gap ++ text) = name :: arguments) ∧
      (name ++ gap ++ text).toList.dropWhile (!Text.isBlank ·) = gap.toList ++ text.toList := by
  have hlist : (name ++ gap ++ text).toList = name.toList ++ (gap.toList ++ text.toList) := by simp
  have hhead : (name ++ gap ++ text).toList.head? = some '@' := by
    rw [hlist, List.head?_append, hname]
    rfl
  have hgaphead : ∀ c ∈ (gap.toList ++ text.toList).head?, Text.isBlank c = true := by
    obtain ⟨c, cs, hcs⟩ := List.exists_cons_of_ne_nil (mt String.toList_eq_nil_iff.mp hgap)
    simp [hcs, hblank c]
  obtain ⟨htake, hdrop⟩ := Text.cut_after_word hvisible hgaphead
  rw [← hlist] at htake hdrop
  have hwords := Text.words_cons hhead (by decide)
  rw [htake, String.ofList_toList] at hwords
  exact ⟨by simp only [opensDirective, hhead, beq_self_eq_true], ⟨_, hwords⟩, hdrop⟩

theorem segments_eq_nil {lines : List String} (h : ∀ line ∈ lines, opensDirective line = false) :
    segments lines = [] := by
  induction lines with
  | nil => rfl
  | cons line lines ih =>
    obtain ⟨hline, hlines⟩ := List.forall_mem_cons.mp h
    simp [segments, hline, ih hlines]

theorem ofBlock_cons {line : String} {body : List String} {found : Directive}
    (hopen : opensDirective line = true) (hbody : ∀ l ∈ body, opensDirective l = false)
    (h : ofLine line body = .directive found) : ofBlock (line :: body) = ([found], []) := by
  have htake : body.takeWhile (!opensDirective ·) = body := by
    rw [List.takeWhile_eq_self_iff]
    simpa using hbody
  simp [ofBlock, segments, hopen, htake, segments_eq_nil hbody, h, collect]

-- ---------------------------------------------------------------------------
-- Literals
-- ---------------------------------------------------------------------------

/-- A bracketed text is no number and has no quotes around it: as a sample it is the JSON value. -/
theorem value_of_isBracketed {text : String} {v : Value}
    (hb : Literal.isBracketed text.toList = true) (h : Json.parse? text = some v) :
    Literal.value text = v := by
  obtain ⟨c, s, hs, hc⟩ := Literal.exists_cons_of_isBracketed hb
  unfold Json.parse? at h
  rw [hs] at hb h
  rcases hc with rfl | rfl <;>
    simp [Literal.value, Literal.valueOfChars, Literal.unquoted, hs, Decimal.int64?,
      Decimal.splitSign, Decimal.nat?, Decimal.double?, Decimal.isDigit, hb, h]

theorem not_isEmpty_of_opensLiteral {text : String} (h : opensLiteral text.toList = true) :
    text.isEmpty = false := by
  cases he : text.isEmpty with
  | false => rfl
  | true =>
    rw [String.isEmpty_iff] at he
    subst he
    cases h

theorem exists_cons_of_opensLiteral {cs : List Char} (h : opensLiteral cs = true) :
    ∃ c rest, cs = c :: rest ∧ (c = '\x7b' ∨ c = '[') := by
  simp only [opensLiteral, Bool.or_eq_true, beq_iff_eq] at h
  rcases h with hhead | hhead <;> obtain ⟨rest, rfl⟩ := List.head?_eq_some_iff.mp hhead
  · exact ⟨_, rest, rfl, .inl rfl⟩
  · exact ⟨_, rest, rfl, .inr rfl⟩

theorem trimLeft_of_opensLiteral {cs : List Char} (h : opensLiteral cs = true) :
    Text.trimLeft cs = cs := by
  obtain ⟨c, rest, rfl, rfl | rfl⟩ := exists_cons_of_opensLiteral h <;>
    exact Text.trimLeft_cons_of_not_blank (by decide)

theorem opensLiteral_eq_front {text : String} (h : text.isEmpty = false) :
    opensLiteral text.toList = (text.front == '\x7b' || text.front == '[') := by
  have hchars : text.toList ≠ [] := mt String.toList_eq_nil_iff.mp (by simpa using h)
  obtain ⟨c, cs, hcs⟩ := List.exists_cons_of_ne_nil hchars
  simp [opensLiteral, String.front_eq, String.front?_eq, hcs]

theorem readPayload_eq_inline_iff {text : String} {v : Value} :
    readPayload text = .ok (.inline v) ↔
      opensLiteral text.toList = true ∧ (Json.parse? text).getD (.string text) = v := by
  cases hempty : text.isEmpty with
  | true =>
    rw [String.isEmpty_iff] at hempty
    subst hempty
    simp [readPayload, opensLiteral]
  | false =>
    rw [opensLiteral_eq_front hempty, readPayload, hempty, if_neg Bool.false_ne_true]
    cases text.front == '\x7b' || text.front == '[' with
    | true => simp
    | false => cases Text.words text <;> simp

theorem readPayload_of_opensLiteral {text : String} {v : Value}
    (hopen : opensLiteral text.toList = true) (h : Json.parse? text = some v) :
    readPayload text = .ok (.inline v) := by
  rw [readPayload_eq_inline_iff, h]
  exact ⟨hopen, rfl⟩

theorem readSample_of_isBracketed {text : String} {v : Value}
    (hopen : opensLiteral text.toList = true) (hb : Literal.isBracketed text.toList = true)
    (h : Json.parse? text = some v) : readSample text = .ok v := by
  simp [readSample, not_isEmpty_of_opensLiteral hopen, value_of_isBracketed hb h]

-- ---------------------------------------------------------------------------
-- Blocks that carry a literal
-- ---------------------------------------------------------------------------

inductive Announces : String → (Value → Directive) → Prop
  | payload : Announces "@Payload" fun v => .payload (.inline v)
  | sample : Announces "@Example" .sample

/-- `Carries lines block directive`: in `block` the lines of a literal stand under or beside the
name of a directive, which the literal's value completes. -/
inductive Carries (lines : List String) : List String → (Value → Directive) → Prop
  | below {name make} : Announces name make → Carries lines (name :: lines) make
  | beside {name make gap first later} : Announces name make → gap ≠ "" →
      (∀ c ∈ gap.toList, Text.isBlank c = true) → lines = first :: later →
      Carries lines ((name ++ gap ++ first) :: later) make
  | error {line code about} : opensDirective line = true →
      Text.words line = "@Error" :: code :: about → opensLiteral code.toList = false →
      Carries lines (line :: lines) fun v => .error ⟨code, " ".intercalate about, some v⟩

/-- A line under a literal that is neither a directive nor a part of another literal. -/
def isProse (line : String) : Bool :=
  line.toList.head?.all fun c => !(['@', '\x7b', '\x7d', '[', ']'].contains c)

theorem not_opens_of_isProse {line : String} (h : isProse line = true) :
    opensDirective line = false ∧ isLiteralEdge line.toList = false := by
  unfold isProse at h
  cases hhead : line.toList.head? with
  | none => simp [opensDirective, isLiteralEdge, opensLiteral, hhead]
  | some c => simp_all [opensDirective, isLiteralEdge, opensLiteral]

theorem toList_intercalate_lines (lines : List (List Char)) :
    ("\n".intercalate (lines.map String.ofList)).toList = ['\n'].intercalate lines := by
  have hmap : (lines.map String.ofList).map String.toList = lines := by simp
  rw [String.toList_intercalate, hmap]
  rfl

theorem ofParts_announced {name : String} {make : Value → Directive} (ha : Announces name make)
    {lines : List (List Char)} {v : Value} (h : LiteralLines lines v) {rest : String}
    {body : List String}
    (htext : literalText rest body = "\n".intercalate (lines.map String.ofList))
    (arguments : List String) : ofParts name arguments rest body = .ok (some (make v)) := by
  have hlist : (literalText rest body).toList = ['\n'].intercalate lines := by
    rw [htext, toList_intercalate_lines]
  have hopens : opensLiteral (literalText rest body).toList = true := by
    rw [hlist]
    exact h.opens
  have hparse : Json.parse? (literalText rest body) = some v := by
    rw [Json.parse?, hlist]
    exact h.spelled
  cases ha with
  | payload => simp [ofParts, readPayload_of_opensLiteral hopens hparse, Except.map]
  | sample =>
    have hb : Literal.isBracketed (literalText rest body).toList = true := by
      rw [hlist]
      exact h.bracketed
    simp [ofParts, readSample_of_isBracketed hopens hb hparse, Except.map]

/-- A block of one directive line over a body, as a comment group and as directives. -/
theorem kept_and_ofBlock {line : String} {body prose : List String} {found : Directive}
    (hopen : opensDirective line = true)
    (hkept : keptFrom true (DocBlock.openedBy line.toList) (body ++ prose) = body)
    (hbody : ∀ l ∈ body, opensDirective l = false) (h : ofLine line body = .directive found) :
    kept (line :: body ++ prose) = line :: body ∧ ofBlock (line :: body) = ([found], []) := by
  refine ⟨?_, ofBlock_cons hopen hbody h⟩
  rw [kept, List.cons_append, keptFrom, if_pos hopen, hkept]

theorem carries_below {name : String} {make : Value → Directive} (ha : Announces name make)
    {lines : List (List Char)} {v : Value} (h : LiteralLines lines v) {prose : List String}
    (hprose : ∀ line ∈ prose, isProse line = true) :
    kept (name :: lines.map String.ofList ++ prose) = name :: lines.map String.ofList ∧
      ofBlock (name :: lines.map String.ofList) = ([make v], []) := by
  obtain ⟨hopen, hwords, hopened, hrest⟩ : opensDirective name = true ∧ Text.words name = [name] ∧
      DocBlock.openedBy name.toList = 0 ∧
      Text.trimChars (name.toList.dropWhile (!Text.isBlank ·)) = [] := by
    cases ha <;> decide
  have hbody := DocBlock.not_opensDirective_of_encloses h.single h.enclosed
  refine kept_and_ofBlock hopen ?_ hbody ?_
  · rw [hopened]
    exact h.keptFrom_below fun line hline => not_opens_of_isProse (hprose line hline)
  · have htext : literalText "" (lines.map String.ofList) =
        "\n".intercalate (lines.map String.ofList) := by
      obtain ⟨first, later, rfl, -⟩ := h.exists_cons
      simp [literalText]
    rw [ofLine_of_opens hopen hwords, hrest, ofParts_announced ha h htext]
    rfl

theorem carries_beside {name : String} {make : Value → Directive} (ha : Announces name make)
    {first : List Char} {later : List (List Char)} {v : Value}
    (h : LiteralLines (first :: later) v) {gap : String} (hgap : gap ≠ "")
    (hblank : ∀ c ∈ gap.toList, Text.isBlank c = true) {prose : List String}
    (hprose : ∀ line ∈ prose, isProse line = true) :
    kept ((name ++ gap ++ String.ofList first) :: later.map String.ofList ++ prose) =
        (name ++ gap ++ String.ofList first) :: later.map String.ofList ∧
      ofBlock ((name ++ gap ++ String.ofList first) :: later.map String.ofList) =
        ([make v], []) := by
  have hname : name.toList.head? = some '@' := by cases ha <;> rfl
  have hvisible : ∀ c ∈ name.toList, Text.isBlank c = false := by
    have hall : name.toList.all (!Text.isBlank ·) = true := by cases ha <;> decide
    simpa using hall
  obtain ⟨hopen, ⟨arguments, hwords⟩, hdrop⟩ :=
    @cut_after_name name gap (String.ofList first) hname hvisible hgap hblank
  rw [String.toList_ofList] at hdrop
  -- Trimming takes off the gap alone.
  obtain ⟨_, _, hcons, hfirst⟩ := h.exists_cons
  obtain ⟨rfl, rfl⟩ := List.cons.inj hcons
  have hleft : Text.trimLeft (gap.toList ++ first) = first := by
    rw [Text.trimLeft_append_of_blank (List.all_eq_true.mpr hblank)]
    exact trimLeft_of_opensLiteral hfirst
  have hopened : DocBlock.openedBy (name ++ gap ++ String.ofList first).toList =
      (DocBlock.bracketBalance first).toNat := by
    rw [DocBlock.openedBy, DocBlock.argumentText, hdrop, hleft, if_pos hfirst]
  have hbody := DocBlock.not_opensDirective_of_encloses h.single h.enclosed
  refine kept_and_ofBlock hopen ?_ (List.forall_mem_cons.mp hbody).2 ?_
  · rw [hopened]
    exact h.keptFrom_beside fun line hline => not_opens_of_isProse (hprose line hline)
  · have htext : literalText (String.ofList first) (later.map String.ofList) =
        "\n".intercalate ((first :: later).map String.ofList) := by
      have hne := not_isEmpty_of_opensLiteral
        (show opensLiteral (String.ofList first).toList = true by simpa using hfirst)
      cases later <;> simp [literalText, hne]
    rw [ofLine_of_opens hopen hwords, hdrop, Text.trimChars, hleft,
      h.trimmed first (List.mem_cons_self ..), ofParts_announced ha h htext]
    rfl

theorem carries_error {line code : String} {about : List String}
    (hopen : opensDirective line = true) (hwords : Text.words line = "@Error" :: code :: about)
    (hcode : opensLiteral code.toList = false) {lines : List (List Char)} {v : Value}
    (h : LiteralLines lines v) {prose : List String}
    (hprose : ∀ line ∈ prose, isProse line = true) :
    kept (line :: lines.map String.ofList ++ prose) = line :: lines.map String.ofList ∧
      ofBlock (line :: lines.map String.ofList) =
        ([.error ⟨code, " ".intercalate about, some v⟩], []) := by
  have hopened : DocBlock.openedBy line.toList = 0 := by
    have hhead : line.toList.head? = some '@' := by simpa [opensDirective] using hopen
    have hsplit := Text.words_cons hhead (by decide)
    rw [hwords, List.cons.injEq, Text.words, String.toList_ofList] at hsplit
    obtain ⟨word, words, hrest, rfl, -⟩ := List.map_eq_cons_iff.mp hsplit.2.symm
    have hargument : opensLiteral (DocBlock.argumentText line.toList) = false := by
      rw [String.toList_ofList] at hcode
      rw [opensLiteral, DocBlock.argumentText, Text.head?_trimLeft_of_words hrest]
      exact hcode
    simp [DocBlock.openedBy, hargument]
  have hbody := DocBlock.not_opensDirective_of_encloses h.single h.enclosed
  refine kept_and_ofBlock hopen ?_ hbody ?_
  · rw [hopened]
    exact h.keptFrom_below fun line hline => not_opens_of_isProse (hprose line hline)
  · have hvalue : Literal.value ("\n".intercalate (lines.map String.ofList)) = v := by
      refine value_of_isBracketed ?_ ?_
      · rw [toList_intercalate_lines]
        exact h.bracketed
      · rw [Json.parse?, toList_intercalate_lines]
        exact h.spelled
    have hne : (lines.map String.ofList).isEmpty = false := by
      obtain ⟨first, later, rfl, -⟩ := h.exists_cons
      rfl
    rw [ofLine_of_opens hopen hwords]
    simp [ofParts, readError, firstArgument, hne, hvalue, readingOf, Except.map]

/-- A collection in a comment is read as the value that it spells: the block keeps all its lines and
none of the prose below, and gives one directive, which carries the value. -/
theorem ofBlock_literal {text : String} {v : Value} (hparse : Json.parse? text = some v)
    (hv : isCollection v = true) (htrim : Text.trim text = text) {block : List String}
    {make : Value → Directive}
    (hblock : Carries ((linesOf text.toList).map String.ofList) block make) {prose : List String}
    (hprose : ∀ line ∈ prose, isProse line = true) :
    kept (block ++ prose) = block ∧ ofBlock (kept (block ++ prose)) = ([make v], []) := by
  have hchars : Text.trimChars text.toList = text.toList := by
    have hlist := congrArg String.toList htrim
    rwa [Text.trim, String.toList_ofList] at hlist
  have hlines := DocBlock.literalLines_of_parse hparse hv hchars
  have hcarried : kept (block ++ prose) = block ∧ ofBlock block = ([make v], []) := by
    cases hblock with
    | below ha => exact carries_below ha hlines hprose
    | beside ha hgap hblank hfirst =>
      obtain ⟨first, later, hcons, -⟩ := hlines.exists_cons
      rw [hcons] at hlines hfirst
      simp only [List.map_cons, List.cons.injEq] at hfirst
      obtain ⟨rfl, rfl⟩ := hfirst
      exact carries_beside ha hlines hgap hblank hprose
    | error hopen hwords hcode => exact carries_error hopen hwords hcode hlines hprose
  refine ⟨hcarried.1, ?_⟩
  rw [hcarried.1]
  exact hcarried.2

/-- Brackets and a quote inside a string, an empty line, and prose with brackets below. -/
theorem ofBlock_literal_brackets_in_string :
    Json.parse? "\x7b\"]\\\"\": [\n\n  1\t]\r\n\x7d" =
        some (.object [("]\"", .array [.ofInt 1])]) ∧
      ofBlock (kept (["@Payload \x7b\"]\\\"\": [", "", "1\t]", "\x7d"] ++ ["", "Sent [once]."])) =
        ([.payload (.inline (.object [("]\"", .array [.ofInt 1])]))], []) := by
  have hparse : Json.parse? "\x7b\"]\\\"\": [\n\n  1\t]\r\n\x7d" =
      some (.object [("]\"", .array [.ofInt 1])]) := by
    decide +kernel
  have hlines : (linesOf "\x7b\"]\\\"\": [\n\n  1\t]\r\n\x7d".toList).map String.ofList =
      ["\x7b\"]\\\"\": [", "", "1\t]", "\x7d"] := by
    decide
  have hcarries : Carries ["\x7b\"]\\\"\": [", "", "1\t]", "\x7d"]
      ["@Payload \x7b\"]\\\"\": [", "", "1\t]", "\x7d"] (fun v => .payload (.inline v)) :=
    .beside .payload (show " " ≠ "" by decide) (List.all_eq_true.mp (by decide)) rfl
  rw [← hlines] at hcarries
  exact ⟨hparse, (ofBlock_literal hparse rfl (by decide) hcarries (by decide)).2⟩

end SocketDocs.Directive
