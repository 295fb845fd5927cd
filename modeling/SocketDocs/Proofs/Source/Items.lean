import SocketDocs.Declaration

/-!
# Items inside items

Every item of a file stands in a chain of items, the innermost first. An item is nested in a range
of lines if its own lines, where they are kept, lie inside the range and what is inside the item is
nested in its own lines (`Item.Nested`). Then the lines of all items that stand in it lie inside the
range as well (`Item.Nested.inside_of_mem`).
-/

namespace SocketDocs

-- ---------------------------------------------------------------------------
-- Items and the items inside them
-- ---------------------------------------------------------------------------

namespace Source.Item

def attributes : Item → List Attribute
  | .function attributes _ _ _ _ => attributes
  | .method attributes _ _ _ _ => attributes
  | .module attributes _ _ _ _ _ => attributes
  | .implementation attributes _ _ _ _ => attributes
  | .trait attributes _ _ _ _ => attributes
  | .struct declaration _ => declaration.attributes
  | .other _ => []

def isTestOnly (item : Item) : Bool :=
  Source.isTestOnly item.attributes

def isModule : Item → Bool
  | .module _ _ _ _ _ _ => true
  | _ => false

def isFreeFunction : Item → Bool
  | .function _ _ _ _ _ => true
  | _ => false

def lines? : Item → Option LineRange
  | .function _ _ _ first last => some ⟨first, last⟩
  | .method _ _ _ first last => some ⟨first, last⟩
  | .module _ _ first last _ _ => some ⟨first, last⟩
  | .implementation _ _ first last _ => some ⟨first, last⟩
  | .trait _ _ first last _ => some ⟨first, last⟩
  | .struct _ _ => none
  | .other _ => none

def Covers (item : Item) (group : CommentGroup) : Prop :=
  ∃ range ∈ item.lines?, range.first ≤ group.first ∧ group.last ≤ range.last

def members : Item → List Item
  | .function _ _ _ _ _ => []
  | .method _ _ _ _ _ => []
  | .module _ _ _ _ outside inside => outside ++ inside
  | .implementation _ _ _ _ members => members
  | .trait _ _ _ _ members => members
  | .struct _ nested => nested
  | .other nested => nested

mutual
theorem inductionOn {P : Item → Prop} (h : ∀ item, (∀ m ∈ item.members, P m) → P item) :
    ∀ item, P item
  | .function _ _ _ _ _ => h _ (by simp [members])
  | .method _ _ _ _ _ => h _ (by simp [members])
  | .module _ _ _ _ outside inside => h _ fun m hm =>
    (List.mem_append.mp hm).elim (inductionIn h outside m) (inductionIn h inside m)
  | .implementation _ _ _ _ members => h _ (inductionIn h members)
  | .trait _ _ _ _ members => h _ (inductionIn h members)
  | .struct _ nested => h _ (inductionIn h nested)
  | .other nested => h _ (inductionIn h nested)

theorem inductionIn {P : Item → Prop} (h : ∀ item, (∀ m ∈ item.members, P m) → P item) :
    ∀ items : List Item, ∀ m ∈ items, P m
  | [], _, hm => by cases hm
  | item :: rest, m, hm => by
    rcases List.mem_cons.mp hm with heq | hm
    · exact heq ▸ inductionOn h item
    · exact inductionIn h rest m hm
end

-- ---------------------------------------------------------------------------
-- Chains
-- ---------------------------------------------------------------------------

mutual
/-- The chains of an item and of all items inside it, given the items around it. -/
def chainsOf (outer : List Item) : Item → List (List Item)
  | .function attributes name line first last =>
    [.function attributes name line first last :: outer]
  | .method attributes name line first last => [.method attributes name line first last :: outer]
  | .module attributes name first last outside inside =>
    let chain := .module attributes name first last outside inside :: outer
    chain :: (chainsIn chain outside ++ chainsIn chain inside)
  | .implementation attributes owner first last members =>
    let chain := .implementation attributes owner first last members :: outer
    chain :: chainsIn chain members
  | .trait attributes name first last members =>
    let chain := .trait attributes name first last members :: outer
    chain :: chainsIn chain members
  | .struct declaration nested =>
    let chain := .struct declaration nested :: outer
    chain :: chainsIn chain nested
  | .other nested =>
    let chain := .other nested :: outer
    chain :: chainsIn chain nested

def chainsIn (outer : List Item) : List Item → List (List Item)
  | [] => []
  | item :: rest => chainsOf outer item ++ chainsIn outer rest
end

theorem chainsIn_eq (outer items : List Item) :
    chainsIn outer items = items.flatMap (chainsOf outer) := by
  induction items with
  | nil => rfl
  | cons item rest ih => rw [chainsIn, ih, List.flatMap_cons]

theorem chainsOf_eq (outer : List Item) (item : Item) :
    chainsOf outer item = (item :: outer) :: item.members.flatMap (chainsOf (item :: outer)) := by
  cases item <;> simp [chainsOf, chainsIn_eq, members]

def inTestModule (chain : List Item) : Bool :=
  chain.any fun item => item.isModule && item.isTestOnly

theorem suffix_of_mem_chainsOf {outer chain : List Item} {item : Item}
    (h : chain ∈ chainsOf outer item) : item :: outer <:+ chain := by
  induction item using inductionOn generalizing outer with
  | _ item ih =>
    rw [chainsOf_eq] at h
    rcases List.mem_cons.mp h with rfl | h
    · exact List.suffix_refl _
    · obtain ⟨m, hm, h⟩ := List.mem_flatMap.mp h
      exact (List.suffix_cons _ _).trans (ih m hm h)

theorem isFreeFunction_of_mem_tail {outer chain : List Item} {item : Item}
    (hmem : chain ∈ chainsOf outer item) (houter : ∀ i ∈ outer, i.isFreeFunction = false) :
    ∀ i ∈ chain.tail, i.isFreeFunction = false := by
  induction item using inductionOn generalizing outer with
  | _ item ih =>
    rw [chainsOf_eq] at hmem
    rcases List.mem_cons.mp hmem with rfl | hmem
    · exact houter
    · obtain ⟨m, hm, hmem⟩ := List.mem_flatMap.mp hmem
      refine ih m hm hmem (List.forall_mem_cons.mpr ⟨?_, houter⟩)
      cases item <;> first | rfl | simp [members] at hm

end Source.Item

-- ---------------------------------------------------------------------------
-- Lines inside lines
-- ---------------------------------------------------------------------------

def LineRange.Inside (inner outer : LineRange) : Prop :=
  outer.first ≤ inner.first ∧ inner.last ≤ outer.last

theorem LineRange.Inside.refl (range : LineRange) : range.Inside range :=
  ⟨Nat.le_refl _, Nat.le_refl _⟩

theorem LineRange.Inside.trans {a b c : LineRange} (h : a.Inside b) (h' : b.Inside c) :
    a.Inside c :=
  ⟨Nat.le_trans h'.1 h.1, Nat.le_trans h.2 h'.2⟩

namespace Source.Item

/-- An item stands inside a range of lines, and what is inside the item stands inside its lines. -/
inductive Nested : LineRange → Item → Prop where
  | intro {range : LineRange} {item : Item} (own : ∀ lines ∈ item.lines?, lines.Inside range)
      (members : ∀ m ∈ item.members, Nested (item.lines?.getD range) m) : Nested range item

namespace Nested

variable {range range' : LineRange} {item : Item}

theorem own (h : item.Nested range) : ∀ lines ∈ item.lines?, lines.Inside range := by
  obtain ⟨hown, -⟩ := h
  exact hown

theorem mono (h : item.Nested range) (hinside : range.Inside range') : item.Nested range' := by
  induction h generalizing range' with
  | @intro range item own _ ih =>
    refine .intro (fun lines hlines => (own lines hlines).trans hinside) fun m hm => ?_
    cases hlines : item.lines? with
    | none => exact ih m hm (by simpa [hlines] using hinside)
    | some lines => exact ih m hm (by simpa [hlines] using .refl lines)

theorem members (h : item.Nested range) : ∀ m ∈ item.members, m.Nested range := by
  obtain ⟨hown, hmembers⟩ := h
  intro m hm
  cases hlines : item.lines? with
  | none => simpa [hlines] using hmembers m hm
  | some lines =>
    have hm : m.Nested lines := by simpa [hlines] using hmembers m hm
    exact hm.mono (hown lines hlines)

theorem self (h : item.Nested range) {lines : LineRange} (hlines : item.lines? = some lines) :
    item.Nested lines := by
  obtain ⟨-, hmembers⟩ := h
  refine .intro (fun own hown => ?_) fun m hm => ?_
  · obtain rfl := Option.some.inj (hlines.symm.trans hown)
    exact .refl _
  · simpa [hlines] using hmembers m hm

theorem inside_of_mem (h : item.Nested range) {outer chain : List Item}
    (hchain : chain ∈ chainsOf outer item) :
    ∀ i ∈ chain, i ∈ outer ∨ ∀ lines ∈ i.lines?, lines.Inside range := by
  induction item using inductionOn generalizing outer with
  | _ item ih =>
    rw [chainsOf_eq] at hchain
    rcases List.mem_cons.mp hchain with rfl | hchain
    · intro i hi
      rcases List.mem_cons.mp hi with rfl | hi
      · exact .inr h.own
      · exact .inl hi
    · obtain ⟨m, hm, hchain⟩ := List.mem_flatMap.mp hchain
      intro i hi
      rcases ih m hm (h.members m hm) hchain i hi with hi | hi
      · rcases List.mem_cons.mp hi with rfl | hi
        · exact .inr h.own
        · exact .inl hi
      · exact .inr hi

end Nested

end Source.Item

end SocketDocs
