import SocketDocs.Proofs.Yaml.JsonNodes
import SocketDocs.Proofs.Yaml.Spelling

/-!
# JSON text as YAML

When the text of a JSON object spells the object in YAML (`ofText?_pretty_spells_iff`). JSON escapes
fewer characters than YAML forbids between quotes, and YAML folds the line breaks that JSON leaves
alone, takes a key only on one line and up to a length, and nests less deep.
-/

namespace SocketDocs.Yaml

open Json (Value escapeChar quote newline prettyItems prettyMembers)
open Scanner (isSimple quotedChars)

def isWritable (c : Char) : Bool :=
  decide (c.toNat < 0x20) || isAllowed c

/-- What JSON text has to be in order to keep its meaning in YAML. -/
@[mk_iff legible_iff_and]
structure Legible (depth : Nat) (v : Value) : Prop where
  texts : ∀ s ∈ v.texts, s.toList.all isWritable = true ∧ Kept s.toList
  /-- A key stands on one line and has at most 1024 characters, escapes and quotes included. -/
  keys : ∀ key ∈ v.keys, key.toList.all isWritable = true ∧ isSimple key.toList = true
  depth : v.depth ≤ depth

theorem legible_plain {depth : Nat} {v : Value} (htexts : v.texts = []) (hkeys : v.keys = [])
    (hdepth : v.depth = 0) : Legible depth v := by
  simp [legible_iff_and, htexts, hkeys, hdepth]

theorem legible_string {depth : Nat} {s : String} :
    Legible depth (.string s) ↔ s.toList.all isWritable = true ∧ Kept s.toList := by
  simp [legible_iff_and, Value.keys, Value.collect, Value.depth]

theorem legible_array {depth : Nat} {items : List Value} :
    Legible depth (.array items) ↔ 0 < depth ∧ ∀ v ∈ items, Legible (depth - 1) v := by
  simp only [legible_iff_and, Value.texts_array, Value.keys_array, Value.depth_array_le,
    List.forall_mem_flatMap, forall_and]
  tauto

theorem legible_object {depth : Nat} {members : List (String × Value)} :
    Legible depth (.object members) ↔ 0 < depth ∧ ∀ m ∈ members,
      (m.1.toList.all isWritable = true ∧ isSimple m.1.toList = true) ∧ Legible (depth - 1) m.2 := by
  simp only [legible_iff_and, Value.texts_object, Value.keys_object, Value.depth_object_le,
    List.forall_mem_append, List.forall_mem_map, List.forall_mem_flatMap, forall_and]
  tauto

theorem legible_of_spaces {depth : Nat} {v : Value}
    (htexts : v.texts.all fun s => s.toList.all fun c => isWritable c && (!isGap c || c == ' '))
    (hkeys : v.keys.all fun key => key.toList.all isWritable && isSimple key.toList)
    (hdepth : v.depth ≤ depth) : Legible depth v := by
  simp only [List.all_eq_true, Bool.and_eq_true, Bool.or_eq_true, Bool.not_eq_true',
    beq_iff_eq] at htexts hkeys
  refine ⟨fun s hs => ⟨List.all_eq_true.mpr fun c hc => (htexts s hs c hc).1, ?_⟩, ?_, hdepth⟩
  · refine kept_of_spaces ?_
    intro c hc hgap
    simpa [hgap] using (htexts s hs c hc).2
  · intro key hkey
    exact ⟨List.all_eq_true.mpr (hkeys key hkey).1, (hkeys key hkey).2⟩

-- ---------------------------------------------------------------------------
-- Characters
-- ---------------------------------------------------------------------------

theorem isAllowed_of_isNumberChar {c : Char} (h : Json.isNumberChar c = true) :
    isAllowed c = true := by
  simp only [Json.isNumberChar, Bool.or_eq_true, List.contains_iff_mem] at h
  rcases h with h | h
  · simp only [Decimal.isDigit, Bool.and_eq_true, decide_eq_true_eq, Char.le_def,
      UInt32.le_iff_toNat_le] at h
    have hbounds : 0x30 ≤ c.toNat ∧ c.toNat ≤ 0x39 := h
    simp only [isAllowed, Bool.or_eq_true, Bool.and_eq_true, beq_iff_eq, decide_eq_true_eq]
    omega
  · have hmarks : ['.', '-', '+', 'e', 'E'].all isAllowed = true := by decide
    exact List.all_eq_true.mp hmarks c h

theorem all_escapeChar (c : Char) : (escapeChar c).all isAllowed = isWritable c := by
  by_cases hcontrol : c.toNat < 0x20
  · have hall : ∀ n < 32, (escapeChar (Char.ofNat n)).all isAllowed = true := by decide +kernel
    have hc := hall c.toNat hcontrol
    rw [Char.ofNat_toNat] at hc
    simp [hc, isWritable, hcontrol]
  by_cases hquote : c = '"'
  · subst hquote
    decide
  by_cases hslash : c = '\\'
  · subst hslash
    decide
  simp [Scan.escapeChar_self hquote hslash (Nat.not_lt.mp hcontrol), isWritable, hcontrol]

@[simp] theorem all_quote (text : String) :
    (quote text).toList.all isAllowed = text.toList.all isWritable := by
  have hquote : isAllowed '"' = true := by decide
  simp [quote, hquote, List.all_flatMap, all_escapeChar]

@[simp] theorem all_newline (level : Nat) : (newline level).toList.all isAllowed = true := by
  have hspace : isAllowed ' ' = true := by decide
  have hbreak : isAllowed '\n' = true := by decide
  simp [newline, hspace, hbreak]

@[simp] theorem all_number (n : Json.Number) : n.text.toList.all isAllowed = true := by
  obtain ⟨negative, digit, rest, h⟩ := exists_isNumberText n
  rw [List.all_eq_true]
  intro c hc
  exact isAllowed_of_isNumberChar (isNumberChar_of_mem h hc)

theorem all_prettyItems (level : Nat) (items : List Value) :
    (prettyItems level items).toList.all isAllowed =
      items.all fun v => (v.prettyAt level).toList.all isAllowed := by
  have hcomma : isAllowed ',' = true := by decide
  induction items with
  | nil => rfl
  | cons item rest ih =>
    cases rest with
    | nil => simp [prettyItems, -List.all_eq_true]
    | cons next rest =>
      rw [prettyItems, List.all_cons, ← ih]
      · simp [hcomma]
      · simp

theorem all_prettyMembers (level : Nat) (members : List (String × Value)) :
    (prettyMembers level members).toList.all isAllowed =
      members.all fun m => m.1.toList.all isWritable && (m.2.prettyAt level).toList.all isAllowed := by
  have hcomma : isAllowed ',' = true := by decide
  have hcolon : isAllowed ':' = true := by decide
  have hspace : isAllowed ' ' = true := by decide
  induction members with
  | nil => rfl
  | cons m rest ih =>
    obtain ⟨key, value⟩ := m
    cases rest with
    | nil => simp [prettyMembers, hcolon, hspace]
    | cons next rest =>
      rw [prettyMembers, List.all_cons, ← ih]
      · simp [hcomma, hcolon, hspace, Bool.and_assoc]
      · simp

theorem all_prettyAt_array (level : Nat) (items : List Value) :
    ((Value.array items).prettyAt level).toList.all isAllowed =
      items.all fun v => (v.prettyAt (level + 1)).toList.all isAllowed := by
  have hmarks : isAllowed '[' = true ∧ isAllowed ']' = true := by decide
  cases items with
  | nil => simp [Value.prettyAt, hmarks]
  | cons item items =>
    rw [← all_prettyItems, Value.prettyAt]
    simp [hmarks]

theorem all_prettyAt_object (level : Nat) (members : List (String × Value)) :
    ((Value.object members).prettyAt level).toList.all isAllowed =
      members.all fun m =>
        m.1.toList.all isWritable && (m.2.prettyAt (level + 1)).toList.all isAllowed := by
  have hmarks : isAllowed '\x7b' = true ∧ isAllowed '\x7d' = true := by decide
  cases members with
  | nil => simp [Value.prettyAt, hmarks]
  | cons first members =>
    rw [← all_prettyMembers, Value.prettyAt]
    simp [hmarks]

-- ---------------------------------------------------------------------------
-- Values
-- ---------------------------------------------------------------------------

theorem isBreak_of_isGap {c : Char} (h : isGap c = true) (hspace : c ≠ ' ') : isBreak c = true := by
  simp only [isGap, Bool.or_eq_true, beq_iff_eq] at h
  simp only [isBreak, Bool.or_eq_true, beq_iff_eq]
  tauto

theorem folded_of_isSimple {key : List Char} (h : isSimple key = true) :
    folded false key = some key := by
  rw [folded_eq_self_iff rfl]
  refine kept_of_spaces ?_
  intro c hc hgap
  by_contra hspace
  rw [isSimple, Bool.and_eq_true, beq_iff_eq, List.countP_eq_zero] at h
  refine h.1 c ?_ (isBreak_of_isGap hgap hspace)
  simp only [quotedChars, List.mem_cons, List.mem_append, List.mem_flatMap]
  exact .inr (.inl ⟨c, hc, by simp [(Scan.escapeChar_of_isGap hgap).1]⟩)

theorem keyNode?_eq_some {key : String} {node : Node} :
    keyNode? key = some node ↔
      isSimple key.toList = true ∧ node = .scalar none .doubleQuoted key := by
  rw [keyNode?_eq_some_iff]
  refine and_congr_right fun h => ?_
  simp [folded_of_isSimple h, eq_comm]

theorem exists_forall₂_iff {α β : Type} {read : α → Option β} {rel : β → α → Prop} {as : List α} :
    (∃ bs, as.mapM read = some bs ∧ List.Forall₂ rel bs as) ↔
      ∀ a ∈ as, ∃ b, read a = some b ∧ rel b a := by
  induction as with
  | nil => simp
  | cons a as ih =>
    rw [List.forall_mem_cons, ← ih]
    cases ha : read a with
    | none => simp [Reader.mapM_cons_none ha]
    | some b =>
      rw [Reader.mapM_cons_some ha]
      simp only [Option.map_eq_some_iff, Option.some.injEq, List.forall₂_cons_right_iff]
      grind

theorem scalarSpells_bool (b : Bool) :
    ScalarSpells .plain (if b then "true" else "false") (.bool b) := by
  cases b <;> exact ⟨rfl, by rfl⟩

/-- The text of a value has the characters and the node that spell the value. -/
def TextSpells (level depth : Nat) (v : Value) : Prop :=
  (v.prettyAt level).toList.all isAllowed = true ∧ ∃ node, node? v = some node ∧ Spells depth node v

theorem textSpells_plain {level depth : Nat} {v : Value} {word : String}
    (hpretty : v.prettyAt level = word) (hword : word.toList.all isAllowed = true)
    (hnode : node? v = some (.scalar none .plain word)) (hspells : ScalarSpells .plain word v) :
    TextSpells level depth v := by
  refine ⟨hpretty ▸ hword, _, hnode, ?_⟩
  rwa [Spells]

theorem textSpells_array {level depth : Nat} {items : List Value} :
    TextSpells level depth (.array items) ↔
      0 < depth ∧ ∀ v ∈ items, TextSpells (level + 1) (depth - 1) v := by
  rw [TextSpells, all_prettyAt_array, List.all_eq_true]
  simp only [TextSpells, forall_and, ← exists_forall₂_iff, node?, itemNodes?_eq,
    Option.map_eq_some_iff]
  cases depth with
  | zero => simp [Spells]
  | succ depth => simp [Spells]

theorem textSpells_object {level depth : Nat} {members : List (String × Value)} :
    TextSpells level depth (.object members) ↔ 0 < depth ∧ ∀ m ∈ members,
      (m.1.toList.all isWritable = true ∧ isSimple m.1.toList = true) ∧
        TextSpells (level + 1) (depth - 1) m.2 := by
  have hmember (m : String × Value) : (∃ entry, memberNode? m = some entry ∧
      Spot.scalarText? entry.1 = some m.1 ∧ Spells (depth - 1) entry.2 m.2) ↔
      isSimple m.1.toList = true ∧ ∃ node, node? m.2 = some node ∧ Spells (depth - 1) node m.2 := by
    obtain ⟨key, value⟩ := m
    simp only [memberNode?_eq_some_iff, keyNode?_eq_some]
    constructor
    · rintro ⟨⟨_, node⟩, ⟨⟨hsimple, -⟩, hnode⟩, -, hspells⟩
      exact ⟨hsimple, node, hnode, hspells⟩
    · rintro ⟨hsimple, node, hnode, hspells⟩
      exact ⟨(.scalar none .doubleQuoted key, node), ⟨⟨hsimple, rfl⟩, hnode⟩, rfl, hspells⟩
  rw [TextSpells, all_prettyAt_object, List.all_eq_true]
  simp only [TextSpells, node?, memberNodes?_eq, Option.map_eq_some_iff, Bool.and_eq_true]
  cases depth with
  | zero => simp [Spells]
  | succ depth =>
    simp only [Nat.add_sub_cancel] at hmember ⊢
    simp only [exists_exists_and_eq_and, Spells, exists_forall₂_iff, hmember, forall_and]
    simp only [Nat.zero_lt_succ, true_and]
    tauto

/-- The text of a value spells the value in YAML exactly if the value is legible. -/
theorem textSpells_iff (level : Nat) {depth : Nat} {v : Value}
    (hrange : ∀ n ∈ v.numbers, n.InRange) :
    TextSpells level depth v ↔ Legible depth v := by
  induction v using Value.inductionOn generalizing level depth with
  | _ v ih =>
    cases v with
    | null =>
      refine iff_of_true (textSpells_plain ?_ ?_ rfl ⟨rfl, by decide⟩) (legible_plain rfl rfl rfl)
      · rw [Value.prettyAt]
      · decide
    | bool b =>
      refine iff_of_true (textSpells_plain ?_ ?_ rfl (scalarSpells_bool b)) (legible_plain rfl rfl rfl)
      · rw [Value.prettyAt]
      · cases b <;> decide
    | number n =>
      refine iff_of_true (textSpells_plain ?_ (all_number n) rfl ⟨rfl, ?_⟩)
        (legible_plain rfl rfl rfl)
      · rw [Value.prettyAt]
      · exact Spot.ofMeaning?_number (hrange n (by simp))
    | string s =>
      have hkept : folded false s.toList = some s.toList ↔ Kept s.toList := folded_eq_self_iff rfl
      rw [legible_string, TextSpells, Value.prettyAt, all_quote, ← hkept]
      refine and_congr_right fun _ => ?_
      simp only [node?, Option.map_eq_some_iff, exists_exists_and_eq_and, Spells, ScalarSpells]
      constructor
      · rintro ⟨read, hread, hs, -⟩
        rw [hread, ← hs, String.toList_ofList]
      · intro hread
        exact ⟨_, hread, String.ofList_toList, by simp⟩
    | array items =>
      rw [Value.numbers_array, List.forall_mem_flatMap] at hrange
      rw [textSpells_array, legible_array]
      exact and_congr_right fun _ => forall₂_congr fun v hv => ih v hv (level + 1) (hrange v hv)
    | object members =>
      rw [Value.numbers_object, List.forall_mem_flatMap] at hrange
      rw [textSpells_object, legible_object]
      exact and_congr_right fun _ => forall₂_congr fun m hm =>
        and_congr_right fun _ => ih m.2 (List.mem_map_of_mem hm) (level + 1) (hrange m hm)

theorem root_ofText?_pretty_iff {members : List (String × Value)} {root? : Option Node} :
    (∃ tree, Tree.ofText? (Value.object members).pretty = some tree ∧ tree.root = root?) ↔
      (Value.object members).pretty.toList.all isAllowed = true ∧
        ∃ root, node? (.object members) = some root ∧ some root = root? := by
  rw [← Option.map_eq_some_iff, ofText?_pretty, ← Option.map_eq_some_iff]
  split <;> simp [*]

theorem ofText?_pretty_spells_iff {members : List (String × Value)} {depth : Nat}
    (hrange : ∀ n ∈ (Value.object members).numbers, n.InRange) :
    (∃ tree root, Tree.ofText? (Value.object members).pretty = some tree ∧ tree.root = some root ∧
      Spells depth root (.object members)) ↔ Legible depth (.object members) := by
  rw [← textSpells_iff 0 hrange, TextSpells, ← Value.pretty]
  constructor
  · rintro ⟨tree, root, htree, hroot, hspells⟩
    obtain ⟨hall, _, hnode, ⟨⟩⟩ := root_ofText?_pretty_iff.mp ⟨tree, htree, hroot⟩
    exact ⟨hall, root, hnode, hspells⟩
  · rintro ⟨hall, root, hnode, hspells⟩
    obtain ⟨tree, htree, hroot⟩ := root_ofText?_pretty_iff.mpr ⟨hall, root, hnode, rfl⟩
    exact ⟨tree, root, htree, hroot, hspells⟩

end SocketDocs.Yaml
