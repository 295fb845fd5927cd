import SocketDocs.DocBlock.Lines
import SocketDocs.Proofs.Json.LineLayout
import SocketDocs.Proofs.Text.Words
import SocketDocs.SourceFile

/-!
# Literals in annotation blocks

A block keeps all lines of a JSON array or object, wherever its line breaks stand, and nothing
after its last line (`keptFrom_literal`). The brackets are counted line by line and from scratch on
each line, which is sound because a line of JSON never ends inside a string.
-/

namespace SocketDocs.DocBlock

open Json (Reads ReadsString Part Value skipSpace trimLines trimLinesFrom blankToLineEnd)

-- ---------------------------------------------------------------------------
-- The lines of a text
-- ---------------------------------------------------------------------------

def linesOf (cs : List Char) : List (List Char) :=
  (SourceFile.linesFrom [] cs).map Text.trimChars

theorem linesFrom_ne_nil (line cs : List Char) : SourceFile.linesFrom line cs ≠ [] := by
  fun_induction SourceFile.linesFrom line cs <;> simp_all

theorem newline_not_mem_linesFrom {line cs l : List Char} (h : l ∈ SourceFile.linesFrom line cs)
    (hline : '\n' ∉ line) : '\n' ∉ l := by
  fun_induction SourceFile.linesFrom line cs with
  | case1 => simp_all
  | case2 line c rest hc ih =>
    rcases List.mem_cons.mp h with rfl | h
    · simpa using hline
    · exact ih h (by simp)
  | case3 line c rest hc ih =>
    refine ih h ?_
    rw [List.mem_cons, not_or]
    exact ⟨fun heq => hc (by simp [← heq]), hline⟩

theorem newline_not_mem_linesOf {cs l : List Char} (h : l ∈ linesOf cs) : '\n' ∉ l := by
  obtain ⟨line, hline, rfl⟩ := List.mem_map.mp h
  intro hn
  exact newline_not_mem_linesFrom hline (by simp) ((Text.trimChars_sublist line).subset hn)

/-- What trimming leaves of the part of a line before `cs`. -/
def settled (before cs : List Char) : List Char :=
  if blankToLineEnd cs then Text.trimChars before else Text.trimLeft before

@[simp] theorem settled_nil (cs : List Char) : settled [] cs = [] := by
  simp [settled]

theorem settled_concat {c : Char} (hc : c ≠ '\n') (before rest : List Char) :
    settled (before ++ [c]) rest ++ trimLinesFrom ((before ++ [c]).all Text.isBlank) rest =
      settled before (c :: rest) ++ trimLinesFrom (before.all Text.isBlank) (c :: rest) := by
  cases hb : Text.isBlank c with
  | false =>
    have hleft : Text.trimLeft (before ++ [c]) = Text.trimLeft before ++ [c] := by
      cases hall : before.all Text.isBlank with
      | true =>
        rw [Text.trimLeft_append_of_blank hall, Text.trimLeft_eq_nil hall,
          Text.trimLeft_cons_of_not_blank hb]
        rfl
      | false => exact Text.trimLeft_append hall [c]
    have hright : settled (before ++ [c]) rest = Text.trimLeft before ++ [c] := by
      unfold settled Text.trimChars
      rw [hleft, Text.trimRight_concat_of_visible hb, ite_self]
    rw [hright, Json.trimLinesFrom_cons hb]
    simp [settled, Json.blankToLineEnd_cons hc, hb]
  | true =>
    cases hall : before.all Text.isBlank with
    | true =>
      have hnil : Text.trimLeft (before ++ [c]) = [] := by
        rw [Text.trimLeft_append_of_blank hall, Text.trimLeft_eq_nil (by simp [hb])]
      simp [settled, Text.trimChars, hnil, Text.trimLeft_eq_nil hall, trimLinesFrom, hc, hb, hall,
        Text.trimRight]
    | false =>
      have hleft := Text.trimLeft_append hall [c]
      cases hend : blankToLineEnd rest with
      | true =>
        simp [settled, Json.blankToLineEnd_cons hc, hb, hend, trimLinesFrom, hc, hall,
          Text.trimChars, hleft, Text.trimRight_concat_of_blank hb]
      | false =>
        simp [settled, Json.blankToLineEnd_cons hc, hb, hend, trimLinesFrom, hc, hall, hleft]

theorem intercalate_linesFrom (line cs : List Char) :
    ['\n'].intercalate ((SourceFile.linesFrom line cs).map Text.trimChars) =
      settled line.reverse cs ++ trimLinesFrom (line.reverse.all Text.isBlank) cs := by
  fun_induction SourceFile.linesFrom line cs with
  | case1 line => simp [settled, blankToLineEnd, trimLinesFrom]
  | case2 line c rest hc ih =>
    rw [beq_iff_eq] at hc
    subst hc
    obtain ⟨first, later, hlines⟩ := List.exists_cons_of_ne_nil (linesFrom_ne_nil [] rest)
    rw [hlines] at ih ⊢
    simp only [List.map_cons, List.intercalate_cons_cons] at ih ⊢
    simp only [ih, List.reverse_nil, settled_nil, List.nil_append, List.all_nil]
    simp [settled, blankToLineEnd, trimLinesFrom]
  | case3 line c rest hc ih =>
    rw [ih, List.reverse_cons, settled_concat (by simpa using hc)]

theorem intercalate_linesOf (cs : List Char) : ['\n'].intercalate (linesOf cs) = trimLines cs := by
  rw [linesOf, intercalate_linesFrom]
  simp [trimLines]

-- ---------------------------------------------------------------------------
-- Brackets
-- ---------------------------------------------------------------------------

/-- The brackets of a text close `depth` brackets and those that it opens, the last one at its end.
Line breaks stand between brackets and outside strings, and no `@` stands outside strings. -/
def encloses (state : StringState) (depth : Nat) : List Char → Bool
  | [] => state == .outside && depth == 0
  | c :: rest =>
    match state with
    | .escaped => c != '\n' && encloses .inside depth rest
    | .inside =>
      let state :=
        if c == '\\' then .escaped else if c == '"' then .outside else StringState.inside
      c != '\n' && encloses state depth rest
    | .outside =>
      if c == '"' then encloses .inside depth rest
      else if c == '\x7b' || c == '[' then encloses .outside (depth + 1) rest
      else if c == '\x7d' || c == ']' then 0 < depth && encloses .outside (depth - 1) rest
      else if c == '\n' then 0 < depth && encloses .outside depth rest
      else c != '@' && encloses .outside depth rest

section

variable (depth : Nat) (c : Char) (rest : List Char)

theorem encloses_nil (state : StringState) (depth : Nat) :
    encloses state depth [] = (state == .outside && depth == 0) := rfl

theorem encloses_escaped :
    encloses .escaped depth (c :: rest) = (c != '\n' && encloses .inside depth rest) := rfl

theorem encloses_inside :
    encloses .inside depth (c :: rest) =
      (c != '\n' && encloses
        (if c == '\\' then .escaped else if c == '"' then .outside else .inside) depth rest) := rfl

theorem encloses_outside :
    encloses .outside depth (c :: rest) =
      if c == '"' then encloses .inside depth rest
      else if c == '\x7b' || c == '[' then encloses .outside (depth + 1) rest
      else if c == '\x7d' || c == ']' then 0 < depth && encloses .outside (depth - 1) rest
      else if c == '\n' then 0 < depth && encloses .outside depth rest
      else c != '@' && encloses .outside depth rest := rfl

end

def isNeutral (c : Char) : Bool :=
  !(['"', '\x7b', '[', '\x7d', ']', '\n', '@'].contains c)

theorem encloses_neutral {c : Char} (h : isNeutral c = true) (depth : Nat) (rest : List Char) :
    encloses .outside depth (c :: rest) = encloses .outside depth rest := by
  simp [isNeutral] at h
  simp [encloses_outside, h]

theorem encloses_append_neutral {u : List Char} (h : ∀ c ∈ u, isNeutral c = true) (depth : Nat)
    (rest : List Char) :
    encloses .outside depth (u ++ rest) = encloses .outside depth rest := by
  induction u with
  | nil => rfl
  | cons c u ih =>
    simp only [List.mem_cons, forall_eq_or_imp] at h
    rw [List.cons_append, encloses_neutral h.1, ih h.2]

theorem encloses_quote (depth : Nat) (rest : List Char) :
    encloses .outside depth ('"' :: rest) = encloses .inside depth rest := by
  simp [encloses_outside]

theorem encloses_open {c : Char} (h : c = '\x7b' ∨ c = '[') (depth : Nat) (rest : List Char) :
    encloses .outside depth (c :: rest) = encloses .outside (depth + 1) rest := by
  rcases h with rfl | rfl <;> simp [encloses_outside]

theorem encloses_close {c : Char} (h : c = '\x7d' ∨ c = ']') (depth : Nat) (rest : List Char) :
    encloses .outside (depth + 1) (c :: rest) = encloses .outside depth rest := by
  rcases h with rfl | rfl <;> simp [encloses_outside]

theorem encloses_skipSpace {depth : Nat} {cs : List Char}
    (h : encloses .outside (depth + 1) (skipSpace cs) = true) :
    encloses .outside (depth + 1) cs = true := by
  induction cs with
  | nil => exact h
  | cons c rest ih =>
    by_cases hc : Json.isSpace c
    · have hrest := ih (by simpa [skipSpace, hc] using h)
      simp only [Json.isSpace, Bool.or_eq_true, beq_iff_eq] at hc
      rcases hc with ((rfl | rfl) | rfl) | rfl <;> simpa [encloses_outside] using hrest
    · simpa [skipSpace, hc] using h

theorem encloses_inside_of_isHex {a : Char} (h : Text.isBlank a = false ∧ a ≠ '"' ∧ a ≠ '\\')
    (depth : Nat) (rest : List Char) :
    encloses .inside depth (a :: rest) = encloses .inside depth rest := by
  obtain ⟨hb, hq, hs⟩ := h
  simp [encloses_inside, hq, hs, Json.ne_newline_of_not_blank hb]

theorem encloses_hexUnit {a b c d : Char} {u : Nat} (h : Json.hexUnit? a b c d = some u)
    (depth : Nat) (rest : List Char) :
    encloses .inside depth ('\\' :: 'u' :: a :: b :: c :: d :: rest) =
      encloses .inside depth rest := by
  have hx := Json.isHex_of_hexUnit? h
  simp only [List.mem_cons, List.not_mem_nil, or_false, forall_eq_or_imp, forall_eq] at hx
  obtain ⟨ha, hb, hc, hd⟩ := hx
  have hmark : encloses .inside depth ('\\' :: 'u' :: a :: b :: c :: d :: rest) =
      encloses .inside depth (a :: b :: c :: d :: rest) := by
    simp [encloses_inside, encloses_escaped]
  rw [hmark, encloses_inside_of_isHex ha, encloses_inside_of_isHex hb,
    encloses_inside_of_isHex hc, encloses_inside_of_isHex hd]

theorem encloses_string {s cs rest : List Char} (h : ReadsString s cs rest) (depth : Nat) :
    encloses .inside depth s = encloses .outside depth rest := by
  induction h with
  | close => simp [encloses_inside]
  | @plain c s cs rest hq hb hc _ ih =>
    have hn : c ≠ '\n' := by rintro rfl; exact absurd hc (by decide)
    simp [encloses_inside, hq, hb, hn, ih]
  | @escape c p s cs rest hp _ ih =>
    have hn := Json.ne_newline_of_not_blank (Json.isBlank_of_escaped? hp)
    simp [encloses_inside, encloses_escaped, hn, ih]
  | unit hu _ _ _ ih => rw [encloses_hexUnit hu, ih]
  | pair hu _ hl _ _ ih => rw [encloses_hexUnit hu, encloses_hexUnit hl, ih]

theorem isNeutral_of_isNumberChar {c : Char} (h : Json.isNumberChar c = true) :
    isNeutral c = true := by
  have hnone : ['"', '\x7b', '[', '\x7d', ']', '\n', '@'].all (!Json.isNumberChar ·) = true := by
    decide
  cases hn : isNeutral c with
  | true => rfl
  | false =>
    rw [isNeutral, Bool.not_eq_false', List.contains_iff_mem] at hn
    have hother := List.all_eq_true.mp hnone c hn
    rw [h] at hother
    cases hother

/-- What is read inside brackets can be counted line by line. -/
theorem encloses_of_reads {d : Nat} {cs : List Char} {p : Part} {rest : List Char}
    (h : Reads d cs p rest) (depth : Nat)
    (hrest : encloses .outside (depth + 1 - p.closer.length) rest = true) :
    encloses .outside (depth + 1) cs = true := by
  induction h generalizing depth with
  | word hw h =>
    have hneutral : ∀ entry ∈ Json.wordValues, ∀ c ∈ entry.1, isNeutral c = true := by
      simp [Json.wordValues, isNeutral]
    refine encloses_skipSpace ?_
    rw [h, encloses_append_neutral (hneutral _ hw)]
    exact hrest
  | string h hs =>
    refine encloses_skipSpace ?_
    rw [h, encloses_quote, encloses_string hs]
    exact hrest
  | number h =>
    obtain ⟨u, -, hu, hchars⟩ := Json.readNumber_append h
    refine encloses_skipSpace ?_
    rw [hu, encloses_append_neutral fun c hc => isNeutral_of_isNumberChar (hchars c hc)]
    exact hrest
  | emptyArray h hs =>
    refine encloses_skipSpace ?_
    rw [h, encloses_open (.inr rfl)]
    refine encloses_skipSpace ?_
    rw [hs, encloses_close (.inr rfl)]
    exact hrest
  | array h _ ih =>
    refine encloses_skipSpace ?_
    rw [h, encloses_open (.inr rfl)]
    exact ih (depth + 1) hrest
  | emptyObject h hs =>
    refine encloses_skipSpace ?_
    rw [h, encloses_open (.inl rfl)]
    refine encloses_skipSpace ?_
    rw [hs, encloses_close (.inl rfl)]
    exact hrest
  | object h _ ih =>
    refine encloses_skipSpace ?_
    rw [h, encloses_open (.inl rfl)]
    exact ih (depth + 1) hrest
  | lastItem _ h ih =>
    refine ih depth (encloses_skipSpace ?_)
    rw [h, encloses_close (.inr rfl)]
    exact hrest
  | item _ h _ ih ih' =>
    refine ih depth (encloses_skipSpace ?_)
    rw [h, encloses_neutral (by decide)]
    exact ih' depth hrest
  | lastMember h hk hc _ hw ih =>
    refine encloses_skipSpace ?_
    rw [h, encloses_quote, encloses_string hk]
    refine encloses_skipSpace ?_
    rw [hc, encloses_neutral (by decide)]
    refine ih depth (encloses_skipSpace ?_)
    rw [hw, encloses_close (.inl rfl)]
    exact hrest
  | member h hk hc _ hw _ ih ih' =>
    refine encloses_skipSpace ?_
    rw [h, encloses_quote, encloses_string hk]
    refine encloses_skipSpace ?_
    rw [hc, encloses_neutral (by decide)]
    refine ih depth (encloses_skipSpace ?_)
    rw [hw, encloses_neutral (by decide)]
    exact ih' depth hrest

-- ---------------------------------------------------------------------------
-- Line by line
-- ---------------------------------------------------------------------------

theorem bracketBalanceFrom_add (state : StringState) (balance depth : Int) (cs : List Char) :
    bracketBalanceFrom state (depth + balance) cs = depth + bracketBalanceFrom state balance cs := by
  fun_induction bracketBalanceFrom state balance cs generalizing depth with
  | case1 => rfl
  | case2 balance c rest ih => rw [bracketBalanceFrom, ih]
  | case3 balance c rest state ih => rw [bracketBalanceFrom, ih]
  | case4 balance c rest hq ih => simp [bracketBalanceFrom, hq, ih]
  | case5 balance c rest hq ho ih => simp [bracketBalanceFrom, hq, ho, ← ih, Int.add_assoc]
  | case6 balance c rest hq ho hc ih =>
    simp [bracketBalanceFrom, hq, ho, hc, ← ih, Int.add_sub_assoc]
  | case7 balance c rest hq ho hc ih => simp [bracketBalanceFrom, hq, ho, hc, ih]

theorem encloses_line {state : StringState} {depth : Nat} {line rest : List Char}
    (hline : '\n' ∉ line) (hrest : ∀ c ∈ rest.head?, c = '\n')
    (h : encloses state depth (line ++ rest) = true) :
    ∃ after : Nat, bracketBalanceFrom state depth line = after ∧
      encloses .outside after rest = true := by
  induction line generalizing state depth with
  | nil =>
    refine ⟨depth, rfl, ?_⟩
    cases rest with
    | nil =>
      simp only [List.append_nil, encloses_nil, Bool.and_eq_true, beq_iff_eq] at h
      obtain ⟨rfl, rfl⟩ := h
      rfl
    | cons c rest =>
      obtain rfl := hrest c rfl
      cases state <;> simp_all [encloses_escaped, encloses_inside]
  | cons c line ih =>
    obtain ⟨hc, hline⟩ := not_or.mp (List.mem_cons.not.mp hline)
    cases state with
    | escaped =>
      simp only [List.cons_append, encloses_escaped, Bool.and_eq_true] at h
      exact ih hline h.2
    | inside =>
      simp only [List.cons_append, encloses_inside, Bool.and_eq_true] at h
      exact ih hline h.2
    | outside =>
      simp only [List.cons_append, encloses_outside] at h
      simp only [bracketBalanceFrom]
      split at h
      · rw [if_pos ‹_›]
        exact ih hline h
      · rw [if_neg ‹_›]
        split at h
        · rw [if_pos ‹_›]
          exact ih hline h
        · rw [if_neg ‹_›]
          split at h
          · rw [if_pos ‹_›]
            obtain ⟨hpos, h⟩ := Bool.and_eq_true_iff.mp h
            have hcast : ((depth - 1 : Nat) : Int) = (depth : Int) - 1 := by
              have := of_decide_eq_true hpos
              omega
            rw [← hcast]
            exact ih hline h
          · rw [if_neg ‹_›]
            rw [if_neg (by simpa using Ne.symm hc)] at h
            exact ih hline (Bool.and_eq_true_iff.mp h).2

/-- What one line of a literal leaves for the lines after it. -/
theorem encloses_step {depth : Nat} {line : List Char} {later : List (List Char)}
    (hline : '\n' ∉ line) (h : encloses .outside depth (['\n'].intercalate (line :: later)) = true) :
    line.head? ≠ some '@' ∧
      encloses .outside (depth + bracketBalance line).toNat (['\n'].intercalate later) = true ∧
      (later ≠ [] → 0 < (depth + bracketBalance line).toNat) := by
  have hhead : line.head? ≠ some '@' := by
    intro hat
    obtain ⟨tail, rfl⟩ := List.head?_eq_some_iff.mp hat
    cases later <;> simp [encloses_outside, List.intercalate_cons_cons] at h
  refine ⟨hhead, ?_⟩
  have hbalance : ((depth : Int) + bracketBalance line) = bracketBalanceFrom .outside depth line := by
    rw [bracketBalance, ← bracketBalanceFrom_add, Int.add_zero]
  rw [hbalance]
  cases later with
  | nil =>
    rw [List.intercalate_singleton, ← List.append_nil line] at h
    obtain ⟨after, hafter, henc⟩ := encloses_line hline (by simp) h
    rw [hafter]
    exact ⟨henc, fun hne => absurd rfl hne⟩
  | cons next later =>
    rw [List.intercalate_cons_cons, List.append_assoc] at h
    obtain ⟨after, hafter, henc⟩ := encloses_line hline (by simp) h
    simp only [List.singleton_append, encloses_outside] at henc
    obtain ⟨hpos, henc⟩ := Bool.and_eq_true_iff.mp henc
    rw [hafter]
    exact ⟨henc, fun _ => of_decide_eq_true hpos⟩

theorem opensDirective_ofList (line : List Char) :
    Directive.opensDirective (String.ofList line) = (line.head? == some '@') := by
  simp [Directive.opensDirective]

theorem keptFrom_prose {prose : List String}
    (h : ∀ line ∈ prose, Directive.opensDirective line = false ∧ isLiteralEdge line.toList = false) :
    keptFrom true 0 prose = [] := by
  induction prose with
  | nil => rfl
  | cons line prose ih =>
    obtain ⟨⟨hd, he⟩, hrest⟩ := List.forall_mem_cons.mp h
    simpa [keptFrom, hd, he] using ih hrest

/-- A literal is kept whole, and nothing after it is. -/
theorem keptFrom_literal {depth : Nat} {lines : List (List Char)} {prose : List String}
    (hlines : ∀ line ∈ lines, '\n' ∉ line)
    (h : encloses .outside depth (['\n'].intercalate lines) = true)
    (hfirst : depth = 0 → ∀ line ∈ lines.head?, isLiteralEdge line = true)
    (hprose : ∀ line ∈ prose,
      Directive.opensDirective line = false ∧ isLiteralEdge line.toList = false) :
    keptFrom true depth (lines.map String.ofList ++ prose) = lines.map String.ofList := by
  induction lines generalizing depth with
  | nil =>
    have hdepth : depth = 0 := by simpa [encloses_nil] using h
    subst hdepth
    exact keptFrom_prose hprose
  | cons line lines ih =>
    obtain ⟨hline, hlines⟩ := List.forall_mem_cons.mp hlines
    obtain ⟨hat, henc, hpos⟩ := encloses_step hline h
    have hopens : Directive.opensDirective (String.ofList line) = false := by
      rw [opensDirective_ofList]
      simpa using hat
    have hkeep : 0 < depth ∨ isLiteralEdge line = true := by
      rcases Nat.eq_zero_or_pos depth with hzero | hdepth
      · exact .inr (hfirst hzero line rfl)
      · exact .inl hdepth
    have hrest := ih hlines henc (by
      intro hzero next hnext
      have hne : lines ≠ [] := by rintro rfl; cases hnext
      have := hpos hne
      omega)
    simp [keptFrom, hopens, hkeep, hrest]

theorem not_opensDirective_of_encloses {depth : Nat} {lines : List (List Char)}
    (hlines : ∀ line ∈ lines, '\n' ∉ line)
    (h : encloses .outside depth (['\n'].intercalate lines) = true) :
    ∀ line ∈ lines.map String.ofList, Directive.opensDirective line = false := by
  induction lines generalizing depth with
  | nil => simp
  | cons line lines ih =>
    obtain ⟨hline, hlines⟩ := List.forall_mem_cons.mp hlines
    obtain ⟨hat, henc, -⟩ := encloses_step hline h
    refine List.forall_mem_cons.mpr ⟨?_, ih hlines henc⟩
    rw [opensDirective_ofList]
    simpa using hat

-- ---------------------------------------------------------------------------
-- Arrays and objects
-- ---------------------------------------------------------------------------

def isCollection : Value → Bool
  | .array _ => true
  | .object _ => true
  | _ => false

theorem reads_of_trimmed {cs : List Char} {v : Value} (h : Json.parseChars? cs = some v)
    (htrim : Text.trimChars cs = cs) :
    Reads Json.depthLimit cs (.value v) [] ∧ skipSpace cs = cs := by
  obtain ⟨rest, hread, hrest⟩ := Json.parseChars?_eq_some_iff.mp h
  have hnil : rest = [] := by
    -- Otherwise the last character of the text is a blank.
    cases hlast : rest.getLast? with
    | none => exact List.getLast?_eq_none_iff.mp hlast
    | some c =>
      obtain ⟨front, hfront⟩ := hread.suffix
      have hc : cs.getLast? = some c := by
        rw [← hfront]
        simp [Part.closer, hlast]
      have hspace : Json.isSpace c = true :=
        List.dropWhile_eq_nil_iff.mp hrest c (List.mem_of_getLast? hlast)
      have hvisible := Text.getLast?_visible htrim hc
      rw [Json.isBlank_of_isSpace hspace] at hvisible
      cases hvisible
  subst hnil
  refine ⟨hread, ?_⟩
  cases cs with
  | nil => rfl
  | cons b tail =>
    have hb := Text.head?_visible htrim rfl
    have hspace : Json.isSpace b = false := by
      cases hs : Json.isSpace b with
      | false => rfl
      | true => rw [Json.isBlank_of_isSpace hs] at hb; cases hb
    simp [skipSpace, hspace]

theorem reads_trimLines {cs : List Char} {v : Value} (h : Json.parseChars? cs = some v)
    (htrim : Text.trimChars cs = cs) :
    Reads Json.depthLimit (trimLines cs) (.value v) [] ∧
      skipSpace (trimLines cs) = trimLines cs := by
  obtain ⟨hread, hskip⟩ := reads_of_trimmed h htrim
  obtain ⟨c, s, hcs, hc, -⟩ := hread.opens
  have hopen : cs = c :: s := hskip.symm.trans hcs
  refine ⟨hread.trimLinesFrom true, ?_⟩
  rw [trimLines, Json.skipSpace_trimLinesFrom hcs hc, hopen, Json.trimLinesFrom_cons hc]

theorem brackets_of_cons {o c : Char} {s : List Char}
    (hpair : o = '[' ∧ c = ']' ∨ o = '\x7b' ∧ c = '\x7d') (hlast : [c] <:+ s)
    (h : encloses .outside 1 s = true) :
    encloses .outside 0 (o :: s) = true ∧ opensLiteral (o :: s) = true ∧
      Literal.isBracketed (o :: s) = true := by
  obtain ⟨mid, rfl⟩ := hlast
  rcases hpair with ⟨rfl, rfl⟩ | ⟨rfl, rfl⟩
  · refine ⟨by rw [encloses_open (.inr rfl)]; exact h, rfl, ?_⟩
    simp [Literal.isBracketed, List.getLast?_cons]
  · refine ⟨by rw [encloses_open (.inl rfl)]; exact h, rfl, ?_⟩
    simp [Literal.isBracketed, List.getLast?_cons]

theorem brackets_of_reads {d : Nat} {cs : List Char} {v : Value}
    (h : Reads d cs (.value v) []) (hv : isCollection v = true) (hcs : skipSpace cs = cs) :
    encloses .outside 0 cs = true ∧ opensLiteral cs = true ∧ Literal.isBracketed cs = true := by
  have hend : encloses .outside 0 [] = true := rfl
  cases h with
  | word hw _ =>
    simp only [Json.wordValues, List.mem_cons, Prod.mk.injEq, List.not_mem_nil, or_false] at hw
    obtain ⟨-, rfl⟩ | ⟨-, rfl⟩ | ⟨-, rfl⟩ := hw <;> cases hv
  | string _ _ => cases hv
  | number _ => cases hv
  | emptyArray h hs =>
    rw [← hcs, h]
    refine brackets_of_cons (.inl ⟨rfl, rfl⟩) (Json.suffix_of_skipSpace hs) (encloses_skipSpace ?_)
    rw [hs, encloses_close (.inr rfl)]
    exact hend
  | array h hi =>
    rw [← hcs, h]
    exact brackets_of_cons (.inl ⟨rfl, rfl⟩) hi.suffix (encloses_of_reads hi 0 hend)
  | emptyObject h hs =>
    rw [← hcs, h]
    refine brackets_of_cons (.inr ⟨rfl, rfl⟩) (Json.suffix_of_skipSpace hs) (encloses_skipSpace ?_)
    rw [hs, encloses_close (.inl rfl)]
    exact hend
  | object h hm =>
    rw [← hcs, h]
    exact brackets_of_cons (.inr ⟨rfl, rfl⟩) hm.suffix (encloses_of_reads hm 0 hend)

/-- Trimmed lines that together spell a collection. -/
structure LiteralLines (lines : List (List Char)) (v : Value) : Prop where
  single : ∀ line ∈ lines, '\n' ∉ line
  trimmed : ∀ line ∈ lines, Text.trimRight line = line
  enclosed : encloses .outside 0 (['\n'].intercalate lines) = true
  opens : opensLiteral (['\n'].intercalate lines) = true
  bracketed : Literal.isBracketed (['\n'].intercalate lines) = true
  spelled : Json.parseChars? (['\n'].intercalate lines) = some v

theorem literalLines_of_parse {cs : List Char} {v : Value} (h : Json.parseChars? cs = some v)
    (hv : isCollection v = true) (htrim : Text.trimChars cs = cs) :
    LiteralLines (linesOf cs) v := by
  obtain ⟨hread, hskip⟩ := reads_trimLines h htrim
  obtain ⟨henc, hopens, hbracketed⟩ := brackets_of_reads hread hv hskip
  rw [← intercalate_linesOf] at henc hopens hbracketed
  refine ⟨fun _ => newline_not_mem_linesOf, ?_, henc, hopens, hbracketed, ?_⟩
  · intro line hline
    obtain ⟨l, -, rfl⟩ := List.mem_map.mp hline
    exact Text.trimRight_trimChars l
  · rw [intercalate_linesOf]
    exact Json.parseChars?_trimLines h

namespace LiteralLines

theorem exists_cons {lines : List (List Char)} {v : Value} (h : LiteralLines lines v) :
    ∃ first later, lines = first :: later ∧ opensLiteral first = true := by
  have hopens := h.opens
  rcases lines with _ | ⟨first, _ | ⟨next, later⟩⟩
  · cases hopens
  · exact ⟨first, [], rfl, by simpa using hopens⟩
  · refine ⟨first, next :: later, rfl, ?_⟩
    rw [List.intercalate_cons_cons] at hopens
    cases first with
    | nil => cases hopens
    | cons c rest => exact hopens

theorem keptFrom_below {lines : List (List Char)} {v : Value} {prose : List String}
    (h : LiteralLines lines v)
    (hprose : ∀ line ∈ prose,
      Directive.opensDirective line = false ∧ isLiteralEdge line.toList = false) :
    keptFrom true 0 (lines.map String.ofList ++ prose) = lines.map String.ofList := by
  refine keptFrom_literal h.single h.enclosed ?_ hprose
  intro _ line hline
  obtain ⟨first, later, rfl, hfirst⟩ := h.exists_cons
  obtain rfl : first = line := by simpa using hline
  simp [isLiteralEdge, hfirst]

theorem keptFrom_beside {first : List Char} {later : List (List Char)} {v : Value}
    {prose : List String} (h : LiteralLines (first :: later) v)
    (hprose : ∀ line ∈ prose,
      Directive.opensDirective line = false ∧ isLiteralEdge line.toList = false) :
    keptFrom true (bracketBalance first).toNat (later.map String.ofList ++ prose) =
      later.map String.ofList := by
  obtain ⟨hfirst, hlater⟩ := List.forall_mem_cons.mp h.single
  obtain ⟨-, henc, hpos⟩ := encloses_step hfirst h.enclosed
  simp only [Int.natCast_zero, Int.zero_add] at henc hpos
  refine keptFrom_literal hlater henc ?_ hprose
  intro hzero line hline
  have hne : later ≠ [] := by rintro rfl; cases hline
  have := hpos hne
  omega

end LiteralLines

end SocketDocs.DocBlock
