import SocketDocs.Proofs.Source.Items
import SocketDocs.Proofs.Source.Lines

/-!
# Parsers that collect items

What a parser gives may hold items. The parser collects them if they stand between a first line and
the last token it takes, provided that the ones it starts from do so as well (`Parser.Collects`). An
item that ends with the last token taken may then hold everything at hand
(`Parser.Collects.enclose`).
-/

namespace SocketDocs.Source

-- ---------------------------------------------------------------------------
-- Streams
-- ---------------------------------------------------------------------------

namespace Stream

/-- The items stand between the line `first` and the last token taken, and the tokens to come stand
in order from both on. -/
structure Holds (first : Nat) (items : List Item) (stream : Stream) : Prop where
  inOrder : stream.InOrder
  ahead : ∃ last, Token.InOrder first stream.tokens last
  nested : ∀ item ∈ items, item.Nested ⟨first, stream.lastLine⟩

variable {first : Nat} {items items' : List Item} {stream later : Stream}

theorem Holds.mono (h : stream.Holds first items) (hsubset : items' ⊆ items) :
    stream.Holds first items' :=
  { h with nested := fun item hitem => h.nested item (hsubset hitem) }

theorem Holds.append (h : stream.Holds first items) (h' : stream.Holds first items') :
    stream.Holds first (items ++ items') :=
  { h with nested := List.forall_mem_append.mpr ⟨h.nested, h'.nested⟩ }

theorem Holds.next {token : Token} {rest : List Token} (h : stream.Holds first items)
    (htokens : stream.tokens = token :: rest) : (Stream.next token rest).Holds first items := by
  obtain ⟨hafter, hle⟩ := (leads_next htokens).inOrder h.inOrder
  obtain ⟨last, hahead⟩ := h.ahead
  rw [htokens, Token.InOrder] at hahead
  obtain ⟨hfirst, htoken, hrest⟩ := hahead
  refine ⟨hafter, ⟨last, hrest.of_le (Nat.le_trans hfirst htoken.line_le)⟩, fun item hitem => ?_⟩
  exact (h.nested item hitem).mono ⟨Nat.le_refl _, hle⟩

theorem Holds.leads (h : stream.Holds first items) (hleads : stream.Leads later) :
    later.Holds first items := by
  induction hleads with
  | refl => exact h
  | take _ ih => exact ih (h.next rfl)

theorem Leads.lastLine_le {last : Nat} (h : stream.Leads later)
    (htokens : Token.InOrder stream.lastLine stream.tokens last) : later.lastLine ≤ last := by
  induction h with
  | refl => exact htokens.first_le
  | take _ ih =>
    rw [Token.InOrder] at htokens
    exact ih htokens.2.2

end Stream

-- ---------------------------------------------------------------------------
-- Items in what a parser gives
-- ---------------------------------------------------------------------------

class HasItems (α : Type) where
  items : α → List Item

namespace HasItems

instance : HasItems Item := ⟨fun item => [item]⟩
instance : HasItems TypeInfo := ⟨TypeInfo.items⟩
instance : HasItems PathInfo := ⟨PathInfo.items⟩
instance : HasItems ExprInfo := ⟨ExprInfo.items⟩
instance : HasItems PatternInfo := ⟨PatternInfo.items⟩
instance : HasItems BoundInfo := ⟨BoundInfo.items⟩
instance : HasItems Grammar.TypeName := ⟨Grammar.TypeName.items⟩
instance : HasItems Grammar.Signature := ⟨Grammar.Signature.items⟩
instance : HasItems Bool := ⟨fun _ => []⟩
instance : HasItems Attribute := ⟨fun _ => []⟩
instance : HasItems (Option Ty) := ⟨fun _ => []⟩
instance : HasItems Segment := ⟨fun _ => []⟩
instance : HasItems Field := ⟨fun _ => []⟩
instance : HasItems FieldList := ⟨fun _ => []⟩

instance : HasItems Grammar.ParenContent where
  items
    | .tuple items => items
    | .relaxed items => items
    | .single info => info.items

variable {α β : Type} [HasItems α] [HasItems β]

instance : HasItems (List α) := ⟨fun found => found.flatMap fun a => items a⟩
instance : HasItems (Option α) := ⟨fun a? => (a?.map items).getD []⟩
instance : HasItems (α × β) := ⟨fun pair => items pair.1 ++ items pair.2⟩
instance : HasItems (Parser.Step α) := ⟨fun step => items step.state⟩

attribute [simp] items Parser.Step.state

@[simp high] theorem items_items (found : List Item) : items found = found := by
  simp [items]

@[simp] theorem items_plainType (found : List Item) : (Grammar.plainType found).items = found := rfl

@[simp] theorem items_plainPattern (found : List Item) :
    (Grammar.plainPattern found).items = found := rfl

@[simp] theorem items_plainExpr (found : List Item) : (ExprInfo.plain found).items = found := rfl

end HasItems

-- ---------------------------------------------------------------------------
-- Parsers
-- ---------------------------------------------------------------------------

open HasItems (items)

namespace Parser

variable {α β σ : Type} [HasItems α] [HasItems β] [HasItems σ]

/-- Where the items at hand stand between the line `first` and the last token taken, so do those
that the parser gives. -/
def Collects (first : Nat) (held : List Item) (parser : Parser α) : Prop :=
  ∀ (stream later : Stream) (a : α), stream.Holds first held →
    parser.run stream = some (a, later) → later.Holds first (items a)

namespace Collects

variable {first : Nat} {held held' : List Item}

theorem mono {parser : Parser α} (h : Collects first held parser) (hsubset : held ⊆ held') :
    Collects first held' parser :=
  fun stream later a hholds hrun => h stream later a (hholds.mono hsubset) hrun

theorem fail : Collects first held (Parser.fail : Parser α) := nofun

theorem pure_of {a : α}
    (h : ∀ item ∈ items a, item ∈ held ∨ item.lines? = none ∧ item.members ⊆ held) :
    Collects first held (Pure.pure a) := by
  intro stream later a hholds hrun
  obtain ⟨rfl, rfl⟩ := run_pure.mp hrun
  refine { hholds with nested := fun item hitem => ?_ }
  rcases h item hitem with hheld | ⟨hlines, hmembers⟩
  · exact hholds.nested item hheld
  · refine .intro (by simp [hlines]) fun m hm => ?_
    rw [hlines]
    exact hholds.nested m (hmembers hm)

theorem pure {a : α} (h : items a ⊆ held) : Collects first held (Pure.pure a) :=
  pure_of fun _ hitem => .inl (h hitem)

theorem other {nested : List Item} (h : nested ⊆ held) :
    Collects first held (Pure.pure (Item.other nested)) :=
  pure_of (List.forall_mem_singleton.mpr (.inr ⟨rfl, h⟩))

theorem struct {declaration : Struct} {nested : List Item} (h : nested ⊆ held) :
    Collects first held (Pure.pure (Item.struct declaration nested)) :=
  pure_of (List.forall_mem_singleton.mpr (.inr ⟨rfl, h⟩))

theorem bind {parser : Parser α} {next : α → Parser β} (h : Collects first held parser)
    (hnext : ∀ a, Collects first (held ++ items a) (next a)) :
    Collects first held (parser >>= next) := by
  intro stream later b hholds hrun
  obtain ⟨a, middle, hparser, hrun⟩ := run_bind.mp hrun
  have hmiddle : middle.Holds first (held ++ items a) :=
    (hholds.leads (parser.leads hparser)).append (h stream middle a hholds hparser)
  exact hnext a middle later b hmiddle hrun

theorem pass {γ : Type} {c : γ} {next : γ → Parser β} (h : Collects first held (next c)) :
    Collects first held (Pure.pure c >>= next) := h

theorem next {γ : Type} {parser : Parser γ} {next : γ → Parser β}
    (h : ∀ c, Collects first held (next c)) : Collects first held (parser >>= next) := by
  intro stream later b hholds hrun
  obtain ⟨c, middle, hparser, hrun⟩ := run_bind.mp hrun
  exact h c middle later b (hholds.leads (parser.leads hparser)) hrun

theorem ite {condition : Prop} [Decidable condition] {parser other : Parser α}
    (h : Collects first held parser) (h' : Collects first held other) :
    Collects first held (if condition then parser else other) := by
  split
  · exact h
  · exact h'

theorem currentLine {next : Nat → Parser α}
    (h : ∀ line, Collects line [] (next line)) :
    Collects first held (Parser.currentLine >>= next) := by
  intro stream later a hholds hrun
  obtain ⟨line, middle, hline, hnext⟩ := run_bind.mp hrun
  obtain ⟨token, rest, htokens, rfl, rfl⟩ := run_currentLine hline
  obtain ⟨last, hahead⟩ := hholds.ahead
  rw [htokens, Token.InOrder] at hahead
  have hstart : middle.Holds token.line [] := by
    refine ⟨hholds.inOrder, ⟨last, ?_⟩, by simp⟩
    rw [htokens, Token.InOrder]
    exact ⟨Nat.le_refl _, hahead.2⟩
  have hlater := h token.line middle later a hstart hnext
  refine { hholds.leads ((next token.line).leads hnext) with nested := fun item hitem => ?_ }
  exact (hlater.nested item hitem).mono ⟨hahead.1, Nat.le_refl _⟩

theorem enclose {make : Nat → Item} (hlines : ∀ last, (make last).lines? = some ⟨first, last⟩)
    (hmembers : ∀ last, (make last).members ⊆ held) :
    Collects first held (Parser.lastLine >>= fun last => Pure.pure (make last)) := by
  intro stream later item hholds hrun
  obtain ⟨last, _, hlast, hrun⟩ := run_bind.mp hrun
  obtain ⟨rfl, rfl⟩ := run_seen.mp hlast
  obtain ⟨rfl, rfl⟩ := run_pure.mp hrun
  refine { hholds with nested := List.forall_mem_singleton.mpr (.intro ?_ fun m hm => ?_) }
  · rw [hlines]
    rintro _ ⟨⟩
    exact .refl _
  · rw [hlines]
    exact hholds.nested m (hmembers _ hm)

theorem enclose_bind {make : Nat → Item} {next : Item → Parser α}
    (hlines : ∀ last, (make last).lines? = some ⟨first, last⟩)
    (hmembers : ∀ last, (make last).members ⊆ held)
    (hnext : ∀ item, Collects first (held ++ items item) (next item)) :
    Collects first held (Parser.lastLine >>= fun last => Pure.pure (make last) >>= next) := by
  have hmake : Collects first held (Parser.lastLine >>= fun last => Pure.pure (make last)) :=
    enclose hlines hmembers
  exact hmake.bind hnext

theorem inGroup {delimiter : Delimiter} {inner : Parser α} (h : Collects first held inner) :
    Collects first held (inGroup delimiter inner) := by
  intro stream later a hholds hrun
  obtain ⟨content, openLine, closeLine, rest, after, htokens, hinner, rfl⟩ := run_inGroup hrun
  obtain ⟨hline, hwell⟩ := hholds.inOrder.line_of_head htokens
  rw [Token.WellPlaced] at hwell
  obtain ⟨last, hahead⟩ := hholds.ahead
  rw [htokens, Token.InOrder] at hahead
  have hstart : Stream.Holds first held ⟨content, openLine, false⟩ := by
    refine ⟨⟨closeLine, hwell⟩, ⟨closeLine, hwell.of_le hahead.1⟩, fun item hitem => ?_⟩
    exact (hholds.nested item hitem).mono ⟨Nat.le_refl _, hline⟩
  have hafter : after.Holds first (items a) := h _ after a hstart hinner
  have hend : after.lastLine ≤ closeLine := (inner.leads hinner).lastLine_le hwell
  refine { hholds.next htokens with nested := fun item hitem => ?_ }
  exact (hafter.nested item hitem).mono ⟨Nat.le_refl _, hend⟩

theorem attempt {parser : Parser α} (h : Collects first held parser) :
    Collects first held (Parser.attempt parser) := by
  intro stream later found hholds hrun
  unfold Parser.attempt at hrun
  dsimp only at hrun
  split at hrun
  · rename_i a after hparser
    cases hrun
    exact h stream later a hholds hparser
  · cases hrun
    exact hholds.mono (List.nil_subset _)

theorem orElse {preferred : Parser (Option α)} {other : Parser α}
    (h : Collects first held preferred) (h' : Collects first held other) :
    Collects first held (Parser.orElse preferred other) := by
  intro stream later a hholds hrun
  unfold Parser.orElse at hrun
  dsimp only at hrun
  split at hrun
  · rename_i found after hpreferred
    cases hrun
    exact h stream later (some a) hholds hpreferred
  · exact h' stream later a hholds hrun
  · cases hrun

-- ---------------------------------------------------------------------------
-- Repetition
-- ---------------------------------------------------------------------------

theorem iterate {step : σ → Parser (Step σ)}
    (h : ∀ state, Collects first (items state) (step state)) {state : σ}
    (hstate : items state ⊆ held) : Collects first held (Parser.iterate step state) := by
  intro stream later last hholds hrun
  refine run_iterate (fun state stream => Stream.Holds first (items state) stream) ?_
    (hholds.mono hstate) hrun
  exact fun hstate hstep => h _ _ _ _ hstate hstep

theorem manyWhile {ahead : Ahead} {parser : Parser α} (h : Collects first [] parser) :
    Collects first held (Parser.manyWhile ahead parser) := by
  refine .bind (.iterate (fun found => ?_) (List.nil_subset _)) fun _ => .pure ?_
  · refine .next fun _ => .ite ?_ (.pure (List.Subset.refl _))
    exact .bind (h.mono (List.nil_subset _)) fun _ => .pure (by simp)
  · exact fun _ _ => by simp_all

theorem separatedUntil {stop : Ahead} {separator : String} {parser : Parser α}
    (h : Collects first [] parser) :
    Collects first held (Parser.separatedUntil stop separator parser) := by
  refine .bind (.iterate (fun found => ?_) (List.nil_subset _)) fun _ => .pure ?_
  · refine .next fun _ => .ite (.pure (List.Subset.refl _)) ?_
    refine .bind (h.mono (List.nil_subset _)) fun _ => .next fun _ => .ite (.pure (by simp)) ?_
    exact .next fun _ => .pure (by simp)
  · exact fun _ _ => by simp_all

theorem chainUntil {stop : Ahead} {separator : String} {parser : Parser α}
    (h : Collects first [] parser) :
    Collects first held (Parser.chainUntil stop separator parser) := by
  refine .bind (.iterate (fun found => ?_) (List.nil_subset _)) fun _ => .pure ?_
  · refine .next fun _ => .ite (.pure (List.Subset.refl _)) ?_
    refine .bind (h.mono (List.nil_subset _)) fun _ => .next fun _ => .ite ?_ ?_
    · exact .pure (by simp)
    · exact .pure (by simp)
  · exact fun _ _ => by simp_all

end Collects

end Parser

end SocketDocs.Source
