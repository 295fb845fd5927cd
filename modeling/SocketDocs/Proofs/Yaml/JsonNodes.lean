import SocketDocs.Proofs.Yaml.FlowNodes
import SocketDocs.Proofs.Yaml.JsonTokens

/-!
# The nodes of JSON text

What the reader of nodes makes of the tokens of a value: a tree of the same shape, without tags and
anchors (`node?`), unless a text cannot be read or a key is not announced.
-/

namespace SocketDocs.Yaml

open Json (Value)

-- ---------------------------------------------------------------------------
-- Values
-- ---------------------------------------------------------------------------

def keyNode? (key : String) : Option Node :=
  if Scanner.isSimple key.toList then
    (folded false key.toList).map fun read => .scalar none .doubleQuoted (String.ofList read)
  else none

mutual
/-- The node of a value, if its texts can be read and its keys are announced. -/
def node? : Value → Option Node
  | .null => some (.scalar none .plain "null")
  | .bool b => some (.scalar none .plain (if b then "true" else "false"))
  | .number n => some (.scalar none .plain n.text)
  | .string s =>
    (folded false s.toList).map fun read => .scalar none .doubleQuoted (String.ofList read)
  | .array items => (itemNodes? items).map (.sequence none)
  | .object members => (memberNodes? members).map (.mapping none)

def itemNodes? : List Value → Option (List Node)
  | [] => some []
  | item :: rest => do return (← node? item) :: (← itemNodes? rest)

def memberNodes? : List (String × Value) → Option (List (Node × Node))
  | [] => some []
  | (key, value) :: rest => do
    let key ← keyNode? key
    let value ← node? value
    return (key, value) :: (← memberNodes? rest)
end

def memberNode? (m : String × Value) : Option (Node × Node) :=
  do return (← keyNode? m.1, ← node? m.2)

theorem memberNode?_eq_some_iff {m : String × Value} {entry : Node × Node} :
    memberNode? m = some entry ↔ keyNode? m.1 = some entry.1 ∧ node? m.2 = some entry.2 := by
  obtain ⟨key, value⟩ := entry
  cases hkey : keyNode? m.1 <;> cases hvalue : node? m.2 <;> simp [memberNode?, hkey, hvalue]

theorem keyNode?_eq_some_iff {key : String} {node : Node} :
    keyNode? key = some node ↔ Scanner.isSimple key.toList = true ∧
      ∃ read, folded false key.toList = some read ∧
        .scalar none .doubleQuoted (String.ofList read) = node := by
  unfold keyNode?
  split <;> simp [*]

theorem itemNodes?_eq (items : List Value) : itemNodes? items = items.mapM node? := by
  induction items with
  | nil => rfl
  | cons item rest ih => rw [itemNodes?, ih, List.mapM_cons]

theorem memberNodes?_eq (members : List (String × Value)) :
    memberNodes? members = members.mapM memberNode? := by
  induction members with
  | nil => rfl
  | cons m rest ih =>
    rw [memberNodes?, ih, List.mapM_cons, memberNode?]
    cases keyNode? m.1 <;> cases node? m.2 <;> rfl

theorem eq_separated {ι : Type} (read : ι → Option (List Token))
    (all : List ι → Option (List Token)) (hnil : all [] = some [])
    (hone : ∀ item, all [item] = read item)
    (hmore : ∀ item next rest, all (item :: next :: rest) =
      joined? (read item) ((all (next :: rest)).map (.flowEntry :: ·)))
    (items : List ι) : all items = (items.mapM read).map Reader.separated := by
  induction items with
  | nil => exact hnil
  | cons item rest ih =>
    cases hitem : read item with
    | none =>
      rw [Reader.mapM_cons_none hitem]
      cases rest with
      | nil => rw [hone, hitem]; rfl
      | cons next rest => rw [hmore, hitem]; rfl
    | some tokens =>
      rw [Reader.mapM_cons_some hitem]
      cases rest with
      | nil => simp [hone, hitem, Reader.separated]
      | cons next rest =>
        rw [hmore, ih, hitem]
        cases hnext : read next with
        | none =>
          rw [Reader.mapM_cons_none hnext]
          rfl
        | some nextTokens =>
          rw [Reader.mapM_cons_some hnext]
          cases rest.mapM read <;> simp [joined?, Reader.separated]

theorem itemTokens?_eq (items : List Value) :
    itemTokens? items = (items.mapM valueTokens?).map Reader.separated :=
  eq_separated valueTokens? itemTokens? rfl (fun _ => rfl)
    (fun _ _ _ => itemTokens?.eq_3 _ _ (by simp)) items

def memberPiece? (m : String × Value) : Option (List Token) :=
  joined? (keyTokens? m.1) (valueTokens? m.2)

theorem memberTokens?_eq (members : List (String × Value)) :
    memberTokens? members = (members.mapM memberPiece?).map Reader.separated :=
  eq_separated memberPiece? memberTokens? rfl (fun _ => rfl)
    (fun _ _ _ => memberTokens?.eq_3 _ _ _ (by simp)) members

theorem mapM_eq_some_iff {α β : Type} {read : α → Option β} {as : List α} {bs : List β} :
    as.mapM read = some bs ↔ List.Forall₂ (fun a b => read a = some b) as bs := by
  induction as generalizing bs with
  | nil =>
    rw [List.mapM_nil, List.forall₂_nil_left_iff]
    exact ⟨fun h => (Option.some.inj h).symm, fun h => h ▸ rfl⟩
  | cons a as ih =>
    rw [List.forall₂_cons_left_iff]
    cases ha : read a with
    | none => simp [Reader.mapM_cons_none ha]
    | some b =>
      rw [Reader.mapM_cons_some ha]
      simp [ih, eq_comm]

theorem forall₂_imp_of_mem {α β : Type} {r r' : α → β → Prop} {as : List α} {bs : List β}
    (h : List.Forall₂ r as bs) (himp : ∀ a ∈ as, ∀ b ∈ bs, r a b → r' a b) :
    List.Forall₂ r' as bs := by
  rw [List.forall₂_iff_zip] at h ⊢
  refine ⟨h.1, fun hab => ?_⟩
  obtain ⟨ha, hb⟩ := List.of_mem_zip hab
  exact himp _ ha _ hb (h.2 hab)

theorem length_le_separated {pieces : List (List Token)} {piece : List Token} (h : piece ∈ pieces) :
    piece.length ≤ (Reader.separated pieces).length := by
  cases pieces with
  | nil => cases h
  | cons first rest =>
    rw [Reader.separated, List.length_append]
    rcases List.mem_cons.mp h with rfl | h
    · exact Nat.le_add_right ..
    · have hsub : (.flowEntry :: piece).Sublist (rest.flatMap (.flowEntry :: ·)) :=
        List.sublist_flatten_of_mem (List.mem_map_of_mem h)
      exact Nat.le_add_left_of_le (Nat.le_of_succ_le hsub.length_le)

theorem exists_opensValue {v : Value} {tokens : List Token} (h : valueTokens? v = some tokens) :
    ∃ token more, tokens = token :: more ∧ Reader.opensValue token = true := by
  cases v with
  | null | bool b | number n =>
    cases h
    exact ⟨_, _, rfl, rfl⟩
  | string s | array items | object members =>
    rw [valueTokens?] at h
    obtain ⟨inside, -, rfl⟩ := Option.map_eq_some_iff.mp h
    exact ⟨_, _, rfl, rfl⟩

/-- The reader makes its node of the tokens of a value. -/
theorem parses_value (v : Value) {tokens : List Token} (htokens : valueTokens? v = some tokens)
    {fuel : Nat} (hfuel : tokens.length ≤ fuel) (context : Reader.Context) (rest : List Token) :
    Reader.Parses (Reader.node fuel context) tokens rest (node? v) := by
  induction v using Value.inductionOn generalizing tokens fuel context rest with
  | _ v ih =>
    obtain ⟨fuel, rfl⟩ : ∃ n, fuel = n + 1 := by
      obtain ⟨first, more, rfl, -⟩ := exists_opensValue htokens
      rw [List.length_cons] at hfuel
      exact ⟨fuel - 1, by omega⟩
    cases v with
    | null =>
      cases htokens
      exact Reader.parses_scalar fuel context _ _ rest
    | bool b =>
      cases htokens
      exact Reader.parses_scalar fuel context _ _ rest
    | number n =>
      cases htokens
      exact Reader.parses_scalar fuel context _ _ rest
    | string s =>
      rw [valueTokens?] at htokens
      obtain ⟨read, hread, rfl⟩ := Option.map_eq_some_iff.mp htokens
      rw [node?, hread]
      exact Reader.parses_scalar fuel context _ _ rest
    | array items =>
      rw [valueTokens?] at htokens
      obtain ⟨inside, hinside, rfl⟩ := Option.map_eq_some_iff.mp htokens
      rw [itemTokens?_eq] at hinside
      obtain ⟨pieces, hpieces, rfl⟩ := Option.map_eq_some_iff.mp hinside
      simp only [List.length_cons, List.length_append] at hfuel
      rw [node?, itemNodes?_eq]
      refine Reader.parses_sequence fuel context
        (Reader.parses_flowItems (Reader.stops_flowSequence _) ?_ rest)
      refine forall₂_imp_of_mem (mapM_eq_some_iff.mp hpieces) ?_
      intro item hitem piece hpiece htokens
      have hlength := length_le_separated hpiece
      obtain ⟨token, more, rfl, hopens⟩ := exists_opensValue htokens
      exact Reader.takes_flowSequence hopens fun rest => ih item hitem htokens (by omega) .flow rest
    | object members =>
      rw [valueTokens?] at htokens
      obtain ⟨inside, hinside, rfl⟩ := Option.map_eq_some_iff.mp htokens
      rw [memberTokens?_eq] at hinside
      obtain ⟨pieces, hpieces, rfl⟩ := Option.map_eq_some_iff.mp hinside
      simp only [List.length_cons, List.length_append] at hfuel
      rw [node?, memberNodes?_eq]
      refine Reader.parses_mapping fuel context
        (Reader.parses_flowItems (Reader.stops_flowMapping _) ?_ rest)
      refine forall₂_imp_of_mem (mapM_eq_some_iff.mp hpieces) ?_
      rintro ⟨key, value⟩ hm piece hpiece hmember
      have hlength := length_le_separated hpiece
      rw [memberPiece?, joined?, Option.bind_eq_some_iff] at hmember
      obtain ⟨first, hfirst, hmember⟩ := hmember
      obtain ⟨tokens, htokens, rfl⟩ := Option.map_eq_some_iff.mp hmember
      rw [keyTokens?] at hfirst
      obtain ⟨read, hread, rfl⟩ := Option.map_eq_some_iff.mp hfirst
      obtain ⟨token, more, rfl, hopens⟩ := exists_opensValue htokens
      obtain ⟨fuel, rfl⟩ : ∃ n, fuel = n + 1 := ⟨fuel - 1, by omega⟩
      have hkey := Reader.parses_scalar fuel .flow (String.ofList read) .doubleQuoted
      rw [memberNode?, keyNode?, hread]
      cases hsimple : Scanner.isSimple key.toList with
      | false =>
        simp only [Scanner.keyTokens, hsimple]
        exact Reader.takes_flowMapping_none hkey (token :: more)
      | true =>
        simp only [Scanner.keyTokens, hsimple] at hlength ⊢
        have hvalue := Reader.takes_flowMapping hkey hopens fun rest =>
          ih value (List.mem_map_of_mem hm) htokens (by
            simp only [List.length_append] at hlength
            omega) .flow rest
        cases hnode : node? value with
        | none =>
          rw [hnode] at hvalue
          exact hvalue
        | some node =>
          rw [hnode] at hvalue
          exact hvalue

theorem exists_mapM {α β γ : Type} {read : α → Option β} {read' : α → Option γ} {as : List α}
    {bs : List β} (h : as.mapM read = some bs)
    (himp : ∀ a ∈ as, ∀ b, read a = some b → ∃ c, read' a = some c) : ∃ cs, as.mapM read' = some cs := by
  have hall := mapM_eq_some_iff.mp h
  clear h
  induction hall with
  | nil => exact ⟨[], rfl⟩
  | @cons a b as bs hab _ ih =>
    obtain ⟨c, hc⟩ := himp a (List.mem_cons_self ..) b hab
    obtain ⟨cs, hcs⟩ := ih fun a ha => himp a (List.mem_cons_of_mem _ ha)
    exact ⟨c :: cs, by rw [Reader.mapM_cons_some hc, hcs]; rfl⟩

/-- What has a node has tokens. -/
theorem exists_valueTokens (v : Value) {node : Node} (h : node? v = some node) :
    ∃ tokens, valueTokens? v = some tokens := by
  induction v using Value.inductionOn generalizing node with
  | _ v ih =>
    cases v with
    | null | bool b | number n => exact ⟨_, rfl⟩
    | string s =>
      rw [node?] at h
      obtain ⟨read, hread, -⟩ := Option.map_eq_some_iff.mp h
      exact ⟨_, by rw [valueTokens?, hread]; rfl⟩
    | array items =>
      rw [node?, itemNodes?_eq] at h
      obtain ⟨nodes, hnodes, -⟩ := Option.map_eq_some_iff.mp h
      obtain ⟨pieces, hpieces⟩ := exists_mapM hnodes fun item hitem node => ih item hitem
      exact ⟨_, by rw [valueTokens?, itemTokens?_eq, hpieces]; rfl⟩
    | object members =>
      rw [node?, memberNodes?_eq] at h
      obtain ⟨nodes, hnodes, -⟩ := Option.map_eq_some_iff.mp h
      have hmember : ∀ m ∈ members, ∀ node, memberNode? m = some node →
          ∃ piece, memberPiece? m = some piece := by
        rintro ⟨key, value⟩ hm node hnode
        obtain ⟨hkey, hvalue⟩ := memberNode?_eq_some_iff.mp hnode
        obtain ⟨-, read, hread, -⟩ := keyNode?_eq_some_iff.mp hkey
        obtain ⟨tokens, htokens⟩ := ih value (List.mem_map_of_mem hm) hvalue
        exact ⟨_, by rw [memberPiece?, keyTokens?, hread, htokens]; rfl⟩
      obtain ⟨pieces, hpieces⟩ := exists_mapM hnodes hmember
      exact ⟨_, by rw [valueTokens?, memberTokens?_eq, hpieces]; rfl⟩

theorem ofText?_pretty (members : List (String × Value)) :
    (Tree.ofText? (Value.object members).pretty).map (·.root) =
      if (Value.object members).pretty.toList.all isAllowed then
        (node? (.object members)).map some
      else none := by
  rw [Tree.root_ofText?, tokens?_pretty]
  split
  · cases htokens : valueTokens? (.object members) with
    | none =>
      have hnode : node? (.object members) = none := by
        by_contra hne
        obtain ⟨node, hnode⟩ := Option.ne_none_iff_exists'.mp hne
        obtain ⟨tokens, hsome⟩ := exists_valueTokens _ hnode
        rw [htokens] at hsome
        cases hsome
      rw [hnode]
      rfl
    | some tokens =>
      obtain ⟨token, more, rfl, hopens⟩ := exists_opensValue htokens
      have hstart : (Reading.start (token :: more ++ [.streamEnd])).tokens =
        token :: more ++ [.streamEnd] := rfl
      have hends := Reader.ends_stream hstart hopens (Nat.le_refl _) fun rest =>
        parses_value (.object members) htokens (by simp [Reading.start]) .block rest
      rw [Option.map_some, Option.bind_some]
      cases hnode : node? (.object members) with
      | none =>
        rw [hnode, Option.map_none, Reader.Ends] at hends
        rw [hends]
        rfl
      | some root =>
        rw [hnode] at hends
        obtain ⟨events, hends⟩ := hends
        rw [hends]
        rfl
  · rfl

end SocketDocs.Yaml
