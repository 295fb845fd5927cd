import SocketDocs.Proofs.Catalog.Contents
import SocketDocs.Proofs.Source.Lines

/-!
# Lines of fields

In a source that can be read, a struct's fields stand below its opening brace or on its line, and a
field's attributes, name and type follow one another (`PlacedStruct.inOrder_of_mem_ofFile`).
-/

namespace SocketDocs

namespace Source

/-- After an opening brace stand the attributes of a field, its name and its type, in this order. -/
structure Field.InOrder (openLine : Nat) (field : Field) : Prop where
  between : ∀ mark ∈ field.attributes, openLine ≤ mark.line ∧ mark.line ≤ field.nameLine
  open_le_name : openLine ≤ field.nameLine
  name_le_type : field.nameLine ≤ field.typeLine

def FieldList.InOrder (body : FieldList) : Prop :=
  ∀ field ∈ body.fields, field.InOrder body.openLine

def Item.InOrder (item : Item) : Prop :=
  ∀ file outer, ∀ placed ∈ PlacedStruct.ofItem file outer item, ∀ body,
    placed.declaration.body = some body → body.InOrder

open SocketDocs.Source.Parser

namespace Grammar

variable {g : Grammar} {stream later : Stream}

-- ---------------------------------------------------------------------------
-- Fields
-- ---------------------------------------------------------------------------

theorem yields_attributeBody (first line : Nat) :
    Yields first (g.attributeBody line) (·.1.line = line) := by
  unfold attributeBody
  refine Yields.next fun _ => ?_
  extract_lets rest
  have hrest : ∀ found, Yields first (rest found) (·.1.line = line) := by
    rintro ⟨leading, names⟩
    refine Yields.next fun _ => ?_
    split
    · exact Yields.next fun _ => Yields.pure rfl
    · exact Yields.next fun _ =>
        Yields.ite (Yields.next fun _ => Yields.pure rfl) (Yields.pure rfl)
  exact Yields.ite (Yields.next hrest) (Yields.next hrest)

theorem line_of_run_outerAttribute {mark : Attribute × List Item} (horder : stream.InOrder)
    (h : g.outerAttribute.run stream = some (mark, later)) :
    stream.lastLine ≤ mark.1.line ∧ mark.1.line ≤ later.lastLine := by
  obtain ⟨line, _, hline, hrun⟩ := run_bind.mp h
  obtain ⟨token, rest, htokens, rfl, rfl⟩ := run_currentLine hline
  obtain ⟨_, ahead, hmark, hbody⟩ := run_bind.mp hrun
  obtain ⟨_, _, hrequire, hskip⟩ := run_bind.mp hmark
  obtain ⟨-, rfl⟩ := run_require.mp hrequire
  obtain ⟨first, middle, htoken, hskip⟩ := run_bind.mp hskip
  obtain ⟨rest', htokens', rfl⟩ := run_token.mp htoken
  obtain ⟨rfl, rfl⟩ := List.cons.inj (htokens.symm.trans htokens')
  obtain ⟨-, rfl⟩ := run_pure.mp hskip
  obtain ⟨hhead, hwell⟩ := horder.line_of_head htokens
  obtain ⟨hahead, -⟩ := (Stream.leads_next htokens).inOrder horder
  obtain ⟨-, hlater⟩ := ((inBrackets (g.attributeBody token.line)).leads hbody).inOrder hahead
  have hgroup : Yields 0 (inBrackets (g.attributeBody token.line)) (·.1.line = token.line) :=
    Yields.inGroup fun line _ => yields_attributeBody line token.line
  have hmark : mark.1.line = token.line := hgroup _ _ _ hahead (Nat.zero_le _) hbody
  rw [hmark]
  exact ⟨hhead, Nat.le_trans hwell.line_le hlater⟩

theorem lines_of_run_outerAttributes {first : Nat} {found : List Attribute × List Item}
    (horder : stream.InOrder) (hfirst : first ≤ stream.lastLine)
    (h : g.outerAttributes.run stream = some (found, later)) :
    ∀ mark ∈ found.1, first ≤ mark.line ∧ mark.line ≤ later.lastLine := by
  obtain ⟨marks, _, hmarks, h⟩ := run_bind.mp h
  obtain ⟨rfl, rfl⟩ := run_pure.mp h
  intro _ hmem
  obtain ⟨mark, hmark, rfl⟩ := List.mem_map.mp hmem
  obtain ⟨before, after, hleads, hrun, hleads'⟩ := (readsAll_manyWhile hmarks).2 mark hmark
  obtain ⟨hbefore, hstart⟩ := hleads.inOrder horder
  obtain ⟨hline, hline'⟩ := line_of_run_outerAttribute hbefore hrun
  obtain ⟨hafter, -⟩ := (g.outerAttribute.leads hrun).inOrder hbefore
  exact ⟨Nat.le_trans hfirst (Nat.le_trans hstart hline),
    Nat.le_trans hline' (hleads'.inOrder hafter).2⟩

theorem yields_namedField (openLine : Nat) :
    Yields openLine g.namedField (·.1.InOrder openLine) := by
  have hattributes : ∀ stream later found, Stream.InOrder stream → openLine ≤ stream.lastLine →
      g.outerAttributes.run stream = some (found, later) →
        ∀ mark ∈ found.1, openLine ≤ mark.line ∧ mark.line ≤ later.lastLine :=
    fun _ _ _ => lines_of_run_outerAttributes
  unfold namedField
  refine Yields.bind hattributes fun middle found hmiddle hmarks => ?_
  obtain ⟨attributes, before⟩ := found
  refine Yields.next fun _ => Yields.next fun _ => ?_
  extract_lets nestedAhead rest
  have hrest : ∀ found : String × Nat, middle.lastLine ≤ found.2 →
      Yields found.2 (rest found) (·.1.InOrder openLine) := by
    rintro ⟨name, line⟩ hline
    have hfield : ∀ type typeLine, line ≤ typeLine →
        Field.InOrder openLine ⟨name, line, attributes, type, typeLine⟩ := by
      intro type typeLine htype
      refine ⟨fun mark hmark => ?_, Nat.le_trans hmiddle hline, htype⟩
      exact ⟨(hmarks mark hmark).1, Nat.le_trans (hmarks mark hmark).2 hline⟩
    refine Yields.next fun _ => ?_
    extract_lets
    refine Yields.next fun _ => Yields.ite ?_ ?_
    · refine Yields.next fun _ => Yields.next fun _ => Yields.next fun _ => ?_
      exact Yields.lastLine fun _ htype => Yields.pure (hfield _ _ htype)
    · refine Yields.next fun _ => ?_
      exact Yields.lastLine fun _ htype => Yields.pure (hfield _ _ htype)
  exact Yields.ite (Yields.word run_anyIdentifier hrest) (Yields.word run_identifier hrest)

theorem yields_namedFields (first : Nat) : Yields first g.namedFields (·.1.InOrder) := by
  intro stream later body horder _ h
  obtain ⟨_, _, hline, hrun⟩ := run_bind.mp h
  obtain ⟨token, rest, htokens, rfl, rfl⟩ := run_currentLine hline
  obtain ⟨found, _, hfound, hrun⟩ := run_bind.mp hrun
  obtain ⟨rfl, rfl⟩ := run_pure.mp hrun
  obtain ⟨content, openLine, closeLine, rest', after, htokens', hfields, -⟩ := run_inGroup hfound
  obtain ⟨rfl, rfl⟩ := List.cons.inj (htokens.symm.trans htokens')
  obtain ⟨-, hwell⟩ := horder.line_of_head htokens
  rw [Token.WellPlaced] at hwell
  intro field hmem
  obtain ⟨found, hfound, rfl⟩ := List.mem_map.mp hmem
  exact Yields.separatedUntil (yields_namedField openLine) _ _ _ ⟨closeLine, hwell⟩ (Nat.le_refl _)
    hfields found hfound

-- ---------------------------------------------------------------------------
-- Items
-- ---------------------------------------------------------------------------

variable (first line : Nat) (attributes : List Attribute) (visible : Bool) (outside : List Item)

/-- The rules for items that are no struct and no module: what they read declares no struct. -/
theorem yields_other : ∀ rule ∈ [g.functionItem line attributes, g.useItem, g.staticItem outside,
      g.constantRest outside true, g.typeNameItem outside, g.enumItem outside, g.unionItem outside,
      g.externItem visible outside, g.foreignBlock outside, g.traitItem line attributes outside,
      g.implItem line attributes visible outside, macroDeclaration, macroItem true],
    Yields first rule Item.InOrder := by
  have hpure : ∀ item : Item, (∀ file outer, PlacedStruct.ofItem file outer item = []) →
      ∀ first, Yields first (pure item) Item.InOrder := by
    intro item hnone first
    refine Yields.pure fun file outer placed hmem => ?_
    rw [hnone] at hmem
    cases hmem
  simp only [List.forall_mem_cons]
  -- each rule ends in such an item, or fails, after parts that do not matter
  refine ⟨?_, ?_, ?_, ?_, ?_, ?_, ?_, ?_, ?_, ?_, ?_, ?_, ?_, by simp⟩
  all_goals
    dsimp only [functionItem, useItem, staticItem, constantRest, typeNameItem, enumItem, unionItem,
      externItem, externCrate, foreignBlock, traitItem, traitRest, implItem, macroDeclaration,
      macroItem]
    repeat' first
      | refine Yields.next fun _ => ?_
      | refine Yields.ite ?_ ?_
      | exact Yields.fail
      | exact hpure _ (fun _ _ => rfl) _

theorem yields_structItem : Yields first (g.structItem attributes outside) Item.InOrder := by
  have hstruct : ∀ name body?, (∀ body, body? = some body → FieldList.InOrder body) →
      ∀ first nested, Yields first (pure (.struct ⟨name, attributes, body?⟩ nested))
        Item.InOrder := by
    intro name body? hbody first nested
    refine Yields.pure fun file outer placed hmem => ?_
    rw [List.mem_singleton.mp hmem]
    exact hbody
  unfold structItem
  refine Yields.next fun _ => Yields.next fun _ => Yields.next fun _ => Yields.next fun _ => ?_
  refine Yields.next fun _ => Yields.ite ?_ ?_
  · refine Yields.next fun _ => Yields.next fun _ => Yields.next fun _ => ?_
    exact hstruct _ none nofun _ _
  refine Yields.next fun _ => Yields.ite ?_ ?_
  · refine Yields.bind (yields_namedFields first) fun _ found _ hfound => ?_
    refine hstruct _ (some found.1) (fun body hbody => ?_) _ _
    cases hbody
    exact hfound
  · exact Yields.next fun _ => hstruct _ none nofun _ _

theorem yields_moduleItem (hitem : ∀ first, Yields first g.item Item.InOrder) :
    Yields first (g.moduleItem line attributes outside) Item.InOrder := by
  have hmodule : ∀ attributes name last outside, ∀ inside : List Item,
      (∀ item ∈ inside, item.InOrder) →
      ∀ first, Yields first (pure (.module attributes name line last outside inside))
        Item.InOrder := by
    intro attributes name last outside inside hinside first
    refine Yields.pure fun file outer placed hmem => ?_
    rw [PlacedStruct.ofItem, PlacedStruct.ofItems_eq] at hmem
    obtain ⟨item, hitem, hmem⟩ := List.mem_flatMap.mp hmem
    exact hinside item hitem file _ placed hmem
  have hinside : ∀ line, Yields line
      (do
        let found ← g.innerAttributes
        let items ← untilEmpty g.item
        return (found, items))
      (∀ item ∈ ·.2, Item.InOrder item) := by
    intro line
    refine Yields.next fun _ => Yields.bind (Yields.manyWhile (hitem line)) ?_
    exact fun _ _ _ hitems => Yields.pure hitems
  unfold moduleItem
  refine Yields.next fun _ => Yields.next fun _ => Yields.next fun _ => ?_
  extract_lets rest
  have hrest : ∀ found, Yields first (rest found) Item.InOrder := by
    intro found
    refine Yields.next fun _ => Yields.ite ?_ ?_
    · exact Yields.next fun _ => hmodule _ _ _ _ [] (List.forall_mem_nil _) _
    · refine Yields.bind (Yields.inGroup fun line _ => hinside line) fun _ found _ hfound => ?_
      exact Yields.next fun _ => hmodule _ _ _ _ found.2 hfound _
  exact Yields.ite (Yields.next hrest) (Yields.next hrest)

theorem yields_unsafeItem (hitem : ∀ first, Yields first g.item Item.InOrder) :
    Yields first (g.unsafeItem line visible attributes outside) Item.InOrder := by
  have hother : ∀ rule ∈ _, Yields first rule Item.InOrder :=
    yields_other (g := g) first line attributes visible outside
  unfold unsafeItem
  extract_lets next autoTrait
  refine Yields.next fun _ => Yields.ite (hother _ (by simp)) ?_
  refine Yields.next fun _ => Yields.ite (hother _ (by simp)) ?_
  refine Yields.next fun _ => Yields.ite ?_ ?_
  · have hforeign : Yields first (g.foreignBlock outside) Item.InOrder := hother _ (by simp)
    exact Yields.ite (Yields.next fun _ => hforeign) hforeign
  · exact Yields.next fun _ => yields_moduleItem _ _ _ _ hitem

theorem yields_itemRule (hitem : ∀ first, Yields first g.item Item.InOrder) :
    Yields first g.itemRule Item.InOrder := by
  unfold itemRule
  refine Yields.next fun line => Yields.next fun found => ?_
  obtain ⟨attributes, outside⟩ := found
  refine Yields.next fun visible => ?_
  have hother : ∀ rule ∈ _, Yields first rule Item.InOrder :=
    yields_other (g := g) first line attributes visible outside
  extract_lets key
  refine Yields.next fun _ => Yields.ite (hother _ (by simp)) ?_
  refine Yields.next fun _ => Yields.ite (hother _ (by simp)) ?_
  refine Yields.next fun _ => Yields.ite (hother _ (by simp)) ?_
  refine Yields.next fun _ => Yields.ite (hother _ (by simp)) ?_
  refine Yields.next fun _ => Yields.ite (hother _ (by simp)) ?_
  refine Yields.next fun _ => Yields.ite (yields_unsafeItem _ _ _ _ _ hitem) ?_
  refine Yields.next fun _ => Yields.ite (yields_moduleItem _ _ _ _ hitem) ?_
  refine Yields.next fun _ => Yields.ite (hother _ (by simp)) ?_
  refine Yields.next fun _ => Yields.ite (yields_structItem _ _ _) ?_
  refine Yields.next fun _ => Yields.ite (hother _ (by simp)) ?_
  refine Yields.next fun _ => Yields.ite (hother _ (by simp)) ?_
  refine Yields.next fun _ => Yields.ite (hother _ (by simp)) ?_
  refine Yields.next fun _ => Yields.ite (hother _ (by simp)) ?_
  refine Yields.next fun _ => Yields.ite (hother _ (by simp)) ?_
  refine Yields.next fun _ => Yields.ite (hother _ (by simp)) ?_
  exact Yields.next fun _ => Yields.ite (hother _ (by simp)) Yields.fail

theorem yields_bounded (fuel first : Nat) : Yields first (bounded fuel).item Item.InOrder := by
  induction fuel generalizing first with
  | zero => exact Yields.fail
  | succ fuel ih => exact yields_itemRule first ih

theorem yields_file (fuel first : Nat) :
    Yields first (bounded fuel).file (∀ item ∈ ·, Item.InOrder item) := by
  unfold file
  refine Yields.next fun _ => Yields.bind (Yields.manyWhile (yields_bounded fuel first)) ?_
  intro _ items _ hitems
  refine Yields.pure (List.forall_mem_cons.mpr ⟨?_, hitems⟩)
  exact fun _ _ _ hmem => nomatch hmem

end Grammar

end Source

theorem PlacedStruct.inOrder_of_mem_ofFile {path text : String} {file : SourceFile}
    (h : SourceFile.parse? path text = some file) {placed : PlacedStruct}
    (hmem : placed ∈ ofFile file) {body : Source.FieldList}
    (hbody : placed.declaration.body = some body) : body.InOrder := by
  obtain ⟨fuel, tokens, last, later, horder, hrun⟩ := SourceFile.exists_run_of_parse? h
  rw [ofFile, ofItems_eq] at hmem
  obtain ⟨item, hitem, hmem⟩ := List.mem_flatMap.mp hmem
  exact Source.Grammar.yields_file fuel 1 _ _ _ ⟨last, horder⟩ (Nat.le_refl _) hrun item hitem _ _
    placed hmem body hbody

end SocketDocs
