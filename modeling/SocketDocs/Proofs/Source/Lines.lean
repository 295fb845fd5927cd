import SocketDocs.Proofs.Comment.Order
import SocketDocs.Proofs.Source.Running

/-!
# Lines of tokens

The tokens of a source stand in order: each begins no earlier than the one before it ends, and what
is in a group stands between its delimiters (`Token.inOrder_of_nest?`). A parser only takes tokens
from the head of a stream, so what it takes later stands lower (`Stream.Leads.inOrder`).
-/

namespace SocketDocs.Source

-- ---------------------------------------------------------------------------
-- Lexemes
-- ---------------------------------------------------------------------------

/-- From the line `first` on, each lexeme begins no earlier than the one before it ends. -/
def Placed.InOrder (first : Nat) : List Placed → Prop
  | [] => True
  | placed :: later =>
    first ≤ placed.line ∧ placed.line ≤ placed.lastLine ∧ InOrder placed.lastLine later

theorem Placed.InOrder.of_le {first first' : Nat} (hle : first' ≤ first) {lexemes : List Placed}
    (h : InOrder first lexemes) : InOrder first' lexemes := by
  cases lexemes with
  | nil => trivial
  | cons placed later => exact ⟨Nat.le_trans hle h.1, h.2⟩

theorem inOrder_lexFrom (fuel : Nat) (position : Position) (cs : List Char) :
    Placed.InOrder position.line (lexFrom fuel position cs) := by
  induction fuel generalizing position cs with
  | zero => trivial
  | succ fuel ih =>
    cases cs with
    | nil => trivial
    | cons c rest =>
      have hafter := position.line_le_after ((c :: rest).take (max (nextLexeme c (c :: rest)).2 1))
      simp only [lexFrom]
      split
      · exact ⟨Nat.le_refl _, hafter, ih _ _⟩
      · exact (ih _ _).of_le hafter

theorem inOrder_lexemes (source : List Char) : Placed.InOrder 1 (lexemes source) := by
  unfold lexemes
  dsimp only
  split
  · exact (inOrder_lexFrom _ _ _).of_le (Position.line_le_after ⟨1, _⟩ _)
  · exact inOrder_lexFrom _ ⟨1, _⟩ _

-- ---------------------------------------------------------------------------
-- Tokens
-- ---------------------------------------------------------------------------

namespace Token

mutual
def WellPlaced : Token → Prop
  | .identifier _ _ => True
  | .lifetime _ _ => True
  | .punct _ _ _ => True
  | .literal _ line lastLine => line ≤ lastLine
  | .group _ content openLine closeLine => InOrder openLine content closeLine

def InOrder (first : Nat) : List Token → Nat → Prop
  | [], last => first ≤ last
  | token :: later, last =>
    first ≤ token.line ∧ WellPlaced token ∧ InOrder token.lastLine later last
end

mutual
theorem WellPlaced.line_le : ∀ {token : Token}, token.WellPlaced → token.line ≤ token.lastLine
  | .identifier _ _, _ => Nat.le_refl _
  | .lifetime _ _, _ => Nat.le_refl _
  | .punct _ _ _, _ => Nat.le_refl _
  | .literal _ _ _, h => by rwa [WellPlaced] at h
  | .group _ _ _ _, h => by
    rw [WellPlaced] at h
    exact InOrder.first_le h

theorem InOrder.first_le : ∀ {first : Nat} {tokens : List Token} {last : Nat},
    InOrder first tokens last → first ≤ last
  | _, [], _, h => by simpa [InOrder] using h
  | _, token :: later, _, h => by
    rw [InOrder] at h
    exact Nat.le_trans h.1 (Nat.le_trans h.2.1.line_le h.2.2.first_le)
end

theorem InOrder.of_le {first first' : Nat} (hle : first' ≤ first) {tokens : List Token} {last : Nat}
    (h : InOrder first tokens last) : InOrder first' tokens last := by
  cases tokens with
  | nil =>
    rw [InOrder] at h ⊢
    exact Nat.le_trans hle h
  | cons token later =>
    rw [InOrder] at h ⊢
    exact ⟨Nat.le_trans hle h.1, h.2⟩

theorem InOrder.append {first middle last : Nat} {tokens later : List Token}
    (h : InOrder first tokens middle) (h' : InOrder middle later last) :
    InOrder first (tokens ++ later) last := by
  induction tokens generalizing first with
  | nil =>
    rw [InOrder] at h
    exact h'.of_le h
  | cons token tokens ih =>
    rw [InOrder] at h
    rw [List.cons_append, InOrder]
    exact ⟨h.1, h.2.1, ih h.2.2⟩

theorem InOrder.le_last {first middle last : Nat} {tokens : List Token}
    (h : InOrder first tokens middle) (hle : middle ≤ last) : InOrder first tokens last := by
  have hend : InOrder middle [] last := by rwa [InOrder]
  simpa using h.append hend

theorem InOrder.concat {first last : Nat} {tokens : List Token} {token : Token}
    (h : InOrder first tokens last) (hline : last ≤ token.line) (htoken : token.WellPlaced) :
    InOrder first (tokens ++ [token]) token.lastLine :=
  h.append (by simpa [InOrder] using ⟨hline, htoken⟩)

/-- What is still open stands in order: what came before a delimiter begins after the one outside
of it, and `start` is the line of the innermost. -/
def OpenInOrder (first : Nat) : List OpenGroup → Nat → Prop
  | [], start => start = first
  | frame :: outer, start =>
    start = frame.line ∧
      ∃ outerStart, OpenInOrder first outer outerStart ∧
        InOrder outerStart frame.before.reverse frame.line

theorem inOrder_docAttribute (inner : Bool) {line lastLine : Nat} (h : line ≤ lastLine) :
    InOrder line (docAttribute inner line lastLine).reverse lastLine := by
  cases inner <;> simp [docAttribute, InOrder, WellPlaced, Token.line, Token.lastLine, h]

theorem inOrder_of_nestFrom {first : Nat} {stack : List OpenGroup} {done : List Token}
    {lexemes : List Placed} {start line : Nat} {tokens : List Token}
    (hstack : OpenInOrder first stack start) (hdone : InOrder start done.reverse line)
    (hlexemes : Placed.InOrder line lexemes) (h : nestFrom stack done lexemes = some tokens) :
    ∃ last, InOrder first tokens last := by
  induction lexemes generalizing stack done start line with
  | nil =>
    rw [nestFrom] at h
    split at h
    · rename_i hempty
      cases h
      rw [List.isEmpty_iff.mp hempty, OpenInOrder] at hstack
      exact ⟨line, hstack ▸ hdone⟩
    · cases h
  | cons placed rest ih =>
    obtain ⟨hline, hplaced, hrest⟩ := hlexemes
    have hskip : Placed.InOrder line rest := hrest.of_le (Nat.le_trans hline hplaced)
    -- a token that stands where the lexeme stands goes on top of what is done
    have hpush : ∀ token : Token, token.line = placed.line → token.lastLine ≤ placed.lastLine →
        token.WellPlaced → nestFrom stack (token :: done) rest = some tokens →
        ∃ last, InOrder first tokens last := by
      intro token htoken hlast hwell h
      have hdone' : InOrder start (token :: done).reverse token.lastLine := by
        rw [List.reverse_cons]
        exact hdone.concat (htoken ▸ hline) hwell
      exact ih hstack hdone' (hrest.of_le hlast) h
    have hdoc : ∀ inner, nestFrom stack (docAttribute inner placed.line placed.lastLine ++ done)
        rest = some tokens → ∃ last, InOrder first tokens last := by
      intro inner h
      have hdone' : InOrder start (docAttribute inner placed.line placed.lastLine ++ done).reverse
          placed.lastLine := by
        rw [List.reverse_append]
        exact hdone.append ((inOrder_docAttribute inner hplaced).of_le hline)
      exact ih hstack hdone' hrest h
    rw [nestFrom] at h
    split at h
    · exact ih hstack hdone hskip h
    · exact ih hstack hdone hskip h
    · exact hdoc _ h
    · exact hdoc _ h
    · cases h
    · cases h
    · -- what is done waits for the delimiter to close
      have hopen : ∀ delimiter, OpenInOrder first (⟨delimiter, placed.line, done⟩ :: stack)
          placed.line := fun _ => ⟨rfl, start, hstack, hdone.le_last hline⟩
      have hdone' : InOrder placed.line [].reverse placed.line := by simp [InOrder]
      exact ih (hopen _) hdone' (hrest.of_le hplaced) h
    · split at h
      · cases h
      · rename_i frame outer
        obtain ⟨rfl, outerStart, houter, hbefore⟩ := hstack
        split at h
        · have hgroup : WellPlaced (.group frame.delimiter done.reverse frame.line placed.line) :=
            hdone.le_last hline
          refine ih houter ?_ (hrest.of_le hplaced) h
          rw [List.reverse_cons]
          exact hbefore.concat (Nat.le_refl _) hgroup
        · cases h
    · exact hpush (.identifier ..) rfl hplaced trivial h
    · exact hpush (.lifetime ..) rfl hplaced trivial h
    · exact hpush (.literal ..) rfl (Nat.le_refl _) hplaced h
    · exact hpush (.punct ..) rfl hplaced trivial h
    · cases h

theorem inOrder_of_nest? {lexemes : List Placed} {first : Nat} {tokens : List Token}
    (hlexemes : Placed.InOrder first lexemes) (h : nest? lexemes = some tokens) :
    ∃ last, InOrder first tokens last := by
  have hdone : InOrder first [].reverse first := by simp [InOrder]
  have hstack : OpenInOrder first [] first := rfl
  exact inOrder_of_nestFrom hstack hdone hlexemes h

end Token

-- ---------------------------------------------------------------------------
-- Streams
-- ---------------------------------------------------------------------------

namespace Stream

def InOrder (stream : Stream) : Prop :=
  ∃ last, Token.InOrder stream.lastLine stream.tokens last

theorem Leads.inOrder {stream later : Stream} (h : stream.Leads later) (horder : stream.InOrder) :
    later.InOrder ∧ stream.lastLine ≤ later.lastLine := by
  induction h with
  | refl => exact ⟨horder, Nat.le_refl _⟩
  | take _ ih =>
    obtain ⟨last, htokens⟩ := horder
    rw [Token.InOrder] at htokens
    obtain ⟨hfirst, htoken, hrest⟩ := htokens
    obtain ⟨hlater, hle⟩ := ih ⟨last, hrest⟩
    exact ⟨hlater, Nat.le_trans (Nat.le_trans hfirst htoken.line_le) hle⟩

theorem leads_next {stream : Stream} {token : Token} {rest : List Token}
    (h : stream.tokens = token :: rest) : stream.Leads (.next token rest) := by
  obtain ⟨_, _, _⟩ := stream
  cases h
  exact .take (.refl _)

theorem InOrder.line_of_head {stream : Stream} (horder : stream.InOrder) {token : Token}
    {rest : List Token} (h : stream.tokens = token :: rest) :
    stream.lastLine ≤ token.line ∧ token.WellPlaced := by
  obtain ⟨last, htokens⟩ := horder
  rw [h, Token.InOrder] at htokens
  exact ⟨htokens.1, htokens.2.1⟩

end Stream

-- ---------------------------------------------------------------------------
-- Parsers
-- ---------------------------------------------------------------------------

namespace Parser

variable {α β : Type}

/-- What the parser gives is good wherever the tokens stand in order from the line `first` on. -/
def Yields (first : Nat) (parser : Parser α) (good : α → Prop) : Prop :=
  ∀ (stream later : Stream) (a : α), stream.InOrder → first ≤ stream.lastLine →
    parser.run stream = some (a, later) → good a

namespace Yields

variable {first : Nat} {good : β → Prop}

theorem pure {b : β} (h : good b) : Yields first (Pure.pure b) good := by
  intro stream later b horder hfirst hrun
  obtain ⟨rfl, rfl⟩ := run_pure.mp hrun
  exact h

theorem fail : Yields first Parser.fail good := nofun

theorem ite {condition : Prop} [Decidable condition] {parser other : Parser β}
    (h : Yields first parser good) (h' : Yields first other good) :
    Yields first (if condition then parser else other) good := by
  split
  · exact h
  · exact h'

theorem bind {parser : Parser α} {next : α → Parser β} {known : Stream → α → Prop}
    (h : ∀ stream middle a, stream.InOrder → first ≤ stream.lastLine →
      parser.run stream = some (a, middle) → known middle a)
    (hnext : ∀ (middle : Stream) a, first ≤ middle.lastLine → known middle a →
      Yields middle.lastLine (next a) good) :
    Yields first (parser >>= next) good := by
  intro stream later b horder hfirst hrun
  obtain ⟨a, middle, hparser, hrun⟩ := run_bind.mp hrun
  obtain ⟨hmiddle, hle⟩ := (parser.leads hparser).inOrder horder
  exact hnext middle a (Nat.le_trans hfirst hle) (h stream middle a horder hfirst hparser) middle
    later b hmiddle (Nat.le_refl _) hrun

theorem next {parser : Parser α} {next : α → Parser β} (h : ∀ a, Yields first (next a) good) :
    Yields first (parser >>= next) good := by
  intro stream later b horder hfirst hrun
  obtain ⟨a, middle, hparser, hrun⟩ := run_bind.mp hrun
  obtain ⟨hmiddle, hle⟩ := (parser.leads hparser).inOrder horder
  exact h a middle later b hmiddle (Nat.le_trans hfirst hle) hrun

theorem word {parser : Parser (String × Nat)} {next : String × Nat → Parser β}
    (hparser : ∀ {stream later found}, parser.run stream = some (found, later) →
      ∃ rest : List Token, stream.tokens = .identifier found.1 found.2 :: rest ∧
        later = .next (.identifier found.1 found.2) rest)
    (h : ∀ found : String × Nat, first ≤ found.2 → Yields found.2 (next found) good) :
    Yields first (parser >>= next) good := by
  intro stream later b horder hfirst hrun
  obtain ⟨found, middle, hfound, hrun⟩ := run_bind.mp hrun
  obtain ⟨hmiddle, -⟩ := (parser.leads hfound).inOrder horder
  obtain ⟨rest, htokens, rfl⟩ := hparser hfound
  have hline : first ≤ found.2 := Nat.le_trans hfirst (horder.line_of_head htokens).1
  exact h found hline _ later b hmiddle (Nat.le_refl _) hrun

theorem lastLine {next : Nat → Parser β} (h : ∀ line, first ≤ line → Yields first (next line) good) :
    Yields first (Parser.lastLine >>= next) good := by
  intro stream later b horder hfirst hrun
  obtain ⟨_, _, hseen, hrun⟩ := run_bind.mp hrun
  obtain ⟨rfl, rfl⟩ := run_seen.mp hseen
  exact h stream.lastLine hfirst stream later b horder hfirst hrun

theorem inGroup {delimiter : Delimiter} {inner : Parser β}
    (h : ∀ line, first ≤ line → Yields line inner good) :
    Yields first (inGroup delimiter inner) good := by
  intro stream later b horder hfirst hrun
  obtain ⟨content, openLine, closeLine, rest, after, htokens, hinner, -⟩ := run_inGroup hrun
  obtain ⟨hline, hwell⟩ := horder.line_of_head htokens
  rw [Token.WellPlaced] at hwell
  exact h openLine (Nat.le_trans hfirst hline) _ after b ⟨closeLine, hwell⟩ (Nat.le_refl _) hinner

theorem of_readsAll {parser : Parser β} (h : Yields first parser good)
    {stream later : Stream} (horder : stream.InOrder) (hfirst : first ≤ stream.lastLine)
    {found : List β} (hreads : parser.ReadsAll stream found later) : ∀ b ∈ found, good b := by
  intro b hb
  obtain ⟨before, after, hleads, hrun, -⟩ := hreads.2 b hb
  obtain ⟨hbefore, hle⟩ := hleads.inOrder horder
  exact h before after b hbefore (Nat.le_trans hfirst hle) hrun

theorem manyWhile {ahead : Ahead} {parser : Parser β} (h : Yields first parser good) :
    Yields first (Parser.manyWhile ahead parser) (∀ b ∈ ·, good b) :=
  fun _ _ _ horder hfirst hrun => h.of_readsAll horder hfirst (readsAll_manyWhile hrun)

theorem separatedUntil {stop : Ahead} {separator : String} {parser : Parser β}
    (h : Yields first parser good) :
    Yields first (Parser.separatedUntil stop separator parser) (∀ b ∈ ·, good b) :=
  fun _ _ _ horder hfirst hrun => h.of_readsAll horder hfirst (readsAll_separatedUntil hrun)

end Yields

end Parser

end SocketDocs.Source

namespace SocketDocs

-- ---------------------------------------------------------------------------
-- Whole files
-- ---------------------------------------------------------------------------

theorem SourceFile.exists_run_of_parse? {path text : String} {file : SourceFile}
    (h : SourceFile.parse? path text = some file) :
    ∃ fuel tokens last later, Source.Token.InOrder 1 tokens last ∧
      (Source.Grammar.bounded fuel).file.run ⟨tokens, 1, false⟩ = some (file.items, later) := by
  obtain ⟨items, hitems, rfl⟩ := Option.map_eq_some_iff.mp h
  unfold Source.itemsOf? at hitems
  split at hitems
  · rename_i tokens htokens
    obtain ⟨last, horder⟩ :=
      Source.Token.inOrder_of_nest? (Source.inOrder_lexemes text.toList) htokens
    unfold Source.parseAll? at hitems
    split at hitems
    · rename_i found after hrun
      split at hitems
      · cases hitems
        exact ⟨_, tokens, last, after, horder, hrun⟩
      · cases hitems
    · cases hitems
  · cases hitems

end SocketDocs
