import SocketDocs.Document.OfYaml
import SocketDocs.Proofs.Document.Lawful
import SocketDocs.Proofs.Yaml.Scalars

/-!
# Trees that spell data

`Spells depth node value`: the node stands for the value in a tree without tags and aliases, as the
writers give it; `spells` decides that. Documents are read back from such trees: their medium is
lawful, and it keeps all ordered payloads.
-/

namespace SocketDocs.Yaml

open Json (Value)

-- ---------------------------------------------------------------------------
-- Nodes
-- ---------------------------------------------------------------------------

def ScalarSpells (style : ScalarStyle) (text : String) : Value → Prop
  | .null => style = .plain ∧ Meaning.ofText text = .null
  | .string s => text = s ∧ (style = .plain → Meaning.ofText text = .text)
  | v => style = .plain ∧ Spot.ofMeaning? text (.ofText text) = some v

/-- A node that stands for a value, with at most `depth` levels of collections. -/
def Spells : Nat → Node → Value → Prop
  | _, .scalar none style text, v => ScalarSpells style text v
  | depth + 1, .sequence none items, .array vs => List.Forall₂ (Spells depth) items vs
  | depth + 1, .mapping none entries, .object ms =>
    List.Forall₂ (fun entry m => Spot.scalarText? entry.1 = some m.1 ∧ Spells depth entry.2 m.2)
      entries ms
  | _, _, _ => False

theorem spells_cases {depth : Nat} {node : Node} {v : Value} (h : Spells depth node v) :
    (∃ style text, node = .scalar none style text ∧ ScalarSpells style text v) ∨
    (∃ d items vs, depth = d + 1 ∧ node = .sequence none items ∧ v = .array vs ∧
      List.Forall₂ (Spells d) items vs) ∨
    (∃ d entries ms, depth = d + 1 ∧ node = .mapping none entries ∧ v = .object ms ∧
      List.Forall₂ (fun entry m => Spot.scalarText? entry.1 = some m.1 ∧ Spells d entry.2 m.2)
        entries ms) := by
  unfold Spells at h
  split at h
  · exact .inl ⟨_, _, rfl, h⟩
  · exact .inr (.inl ⟨_, _, _, rfl, rfl, rfl, h⟩)
  · exact .inr (.inr ⟨_, _, _, rfl, rfl, rfl, h⟩)
  · cases h

instance (style : ScalarStyle) (text : String) : ∀ v, Decidable (ScalarSpells style text v)
  | .null => inferInstanceAs (Decidable (_ ∧ _))
  | .string _ => inferInstanceAs (Decidable (_ ∧ (_ → _)))
  | .bool _ | .number _ | .array _ | .object _ => inferInstanceAs (Decidable (_ ∧ _))

def spells : Nat → Node → Value → Bool
  | _, .scalar none style text, v => decide (ScalarSpells style text v)
  | depth + 1, .sequence none items, .array vs =>
    decide (List.Forall₂ (fun item v => spells depth item v = true) items vs)
  | depth + 1, .mapping none entries, .object ms =>
    decide (List.Forall₂ (fun entry m =>
      Spot.scalarText? entry.1 = some m.1 ∧ spells depth entry.2 m.2 = true) entries ms)
  | _, _, _ => false

theorem spells_iff {depth : Nat} {node : Node} {v : Value} :
    spells depth node v = true ↔ Spells depth node v := by
  fun_induction spells depth node v with
  | case1 depth style text v => simp [Spells]
  | case2 depth items vs ih => simp [Spells, ih]
  | case3 depth entries ms ih => simp [Spells, ih]
  | case4 depth node v hscalar hsequence hmapping =>
    unfold Spells
    simp

namespace Spot

theorem scalarValue?_of_spells {style : ScalarStyle} {text : String} {v : Value}
    (h : ScalarSpells style text v) : scalarValue? none style text = some v := by
  cases v with
  | null =>
    obtain ⟨rfl, hm⟩ := h
    simp [scalarValue?, hm, ofMeaning?]
  | string s =>
    obtain ⟨rfl, hm⟩ := h
    by_cases hs : style = .plain
    · simp [scalarValue?, hs, hm hs, ofMeaning?]
    · simp [scalarValue?, hs]
  | _ =>
    obtain ⟨rfl, hm⟩ := h
    simp [scalarValue?, hm]

theorem contentValue_scalar (tree : Tree) (inside : Option (Node → Decoder Value))
    (style : ScalarStyle) (text : String) :
    contentValue tree inside (.scalar none style text) =
      Decoder.ofOption (scalarValue? none style text) := by
  cases inside <;> rfl

theorem contentValue_sequence (tree : Tree) (inside : Node → Decoder Value) (items : List Node) :
    contentValue tree (some inside) (.sequence none items) = (do
      return .array (← items.mapM inside)) := rfl

theorem contentValue_mapping (tree : Tree) (inside : Node → Decoder Value)
    (entries : List (Node × Node)) :
    contentValue tree (some inside) (.mapping none entries) = (do
      let members ← entries.mapM fun (key, value) => do
        return (← keyText tree key, ← inside value)
      return .object (Keyed.ofList members)) := rfl

theorem follow_scalar (tree : Tree) (tag : Option String) (style : ScalarStyle) (text : String) :
    follow tree (.scalar tag style text) = pure (.scalar tag style text) := rfl

theorem follow_sequence (tree : Tree) (tag : Option String) (items : List Node) :
    follow tree (.sequence tag items) = pure (.sequence tag items) := rfl

theorem follow_mapping (tree : Tree) (tag : Option String) (entries : List (Node × Node)) :
    follow tree (.mapping tag entries) = pure (.mapping tag entries) := rfl

theorem keyText_of_scalarText? (tree : Tree) {node : Node} {text : String}
    (h : scalarText? node = some text) : keyText tree node = pure text := by
  cases node <;> cases h
  rfl

/-- An ordered payload is read back from what spells it. -/
theorem valueAt_of_spells (tree : Tree) {depth : Nat} {node : Node} {v : Value}
    (h : Spells depth node v) (hordered : v.Ordered) : valueAt tree depth node = pure v := by
  induction depth using Nat.strong_induction_on generalizing node v with
  | _ depth ih =>
    rcases spells_cases h with ⟨style, text, rfl, hs⟩ | ⟨d, items, vs, rfl, rfl, rfl, hs⟩ |
      ⟨d, entries, ms, rfl, rfl, rfl, hs⟩
    · cases depth <;>
        simp [valueAt, follow_scalar, contentValue_scalar, scalarValue?_of_spells hs,
          Decoder.ofOption]
    · rw [Value.ordered_array] at hordered
      have hitems := Decoder.mapM_eq (f := id) hs fun node v hv hnode =>
        ih d (Nat.lt_succ_self d) hnode (hordered v hv)
      rw [valueAt, follow_sequence, pure_bind, contentValue_sequence, hitems]
      simp
    · rw [Value.ordered_object] at hordered
      obtain ⟨hsorted, hvalues⟩ := hordered
      have hmembers : (entries.mapM fun (key, value) => do
          return (← keyText tree key, ← valueAt tree d value)) = (pure (ms.map id) : Decoder _) := by
        refine Decoder.mapM_eq (f := id) hs ?_
        rintro ⟨key, value⟩ ⟨k, v⟩ hm ⟨hkey, hvalue⟩
        simp [keyText_of_scalarText? tree hkey, ih d (Nat.lt_succ_self d) hvalue (hvalues _ hm)]
      rw [valueAt, follow_mapping, pure_bind, contentValue_mapping, hmembers]
      simp [Keyed.ofList_of_sorted hsorted]

-- ---------------------------------------------------------------------------
-- Fields
-- ---------------------------------------------------------------------------

theorem knownFields_of_spells (tree : Tree) (names : List String) {depth : Nat}
    {entries : List (Node × Node)} {ms : List (String × Value)}
    (h : List.Forall₂ (fun entry m => scalarText? entry.1 = some m.1 ∧ Spells depth entry.2 m.2)
      entries ms)
    (hnodup : (ms.map (·.1)).Nodup) (found : List (String × Spot))
    (hfound : ∀ m ∈ ms, found.lookup m.1 = none) :
    ∃ fields, knownFields tree names depth found entries = pure fields ∧
      ∀ name ∈ names,
        (∀ spot, found.lookup name = some spot → fields.lookup name = some spot) ∧
        (found.lookup name = none →
          Option.Rel (fun spot v => Spells spot.depth spot.node v) (fields.lookup name)
            (ms.lookup name)) := by
  induction h generalizing found with
  | nil =>
    refine ⟨found, rfl, ?_⟩
    intro name _
    refine ⟨fun _ h => h, ?_⟩
    intro hnone
    rw [hnone]
    exact .none
  | @cons entry m entries ms hentry _ ih =>
    obtain ⟨key, value⟩ := entry
    obtain ⟨k, v⟩ := m
    obtain ⟨hkey, hvalue⟩ := hentry
    obtain ⟨hnew, hnodup⟩ := List.nodup_cons.mp hnodup
    obtain ⟨hfree, hfound⟩ := List.forall_mem_cons.mp hfound
    by_cases hk : names.contains k = true
    · -- The field joins those found, and no later one has its name.
      have hlater : ∀ m ∈ ms, ((k, Spot.mk value depth) :: found).lookup m.1 = none := by
        intro m hm
        have hne : (m.1 == k) = false := by
          rw [beq_eq_false_iff_ne]
          intro heq
          exact hnew (List.mem_map.mpr ⟨m, hm, heq⟩)
        rw [List.lookup_cons, hne]
        exact hfound m hm
      obtain ⟨fields, hfields, hrel⟩ := ih hnodup _ hlater
      refine ⟨fields, ?_, ?_⟩
      · simp only [knownFields, keyText_of_scalarText? tree hkey, pure_bind]
        rw [if_neg (by simpa using hk), if_neg (by simp [hfree])]
        exact hfields
      · intro name hname
        obtain ⟨hkept, hrest⟩ := hrel name hname
        by_cases hnk : name = k
        · subst hnk
          have hhere := hkept ⟨value, depth⟩ (by simp)
          refine ⟨?_, ?_⟩
          · intro spot hspot
            rw [hfree] at hspot
            cases hspot
          · intro _
            rw [hhere, List.lookup_cons_self]
            exact .some hvalue
        · have hne : (name == k) = false := by simpa using hnk
          rw [List.lookup_cons, hne] at hkept hrest
          rw [List.lookup_cons, hne]
          exact ⟨hkept, hrest⟩
    · obtain ⟨fields, hfields, hrel⟩ := ih hnodup found hfound
      refine ⟨fields, ?_, ?_⟩
      · simp only [knownFields, keyText_of_scalarText? tree hkey, pure_bind]
        rw [if_pos (by simpa using hk)]
        exact hfields
      · intro name hname
        have hne : (name == k) = false := by
          rw [beq_eq_false_iff_ne]
          rintro rfl
          exact hk (by simpa using hname)
        rw [List.lookup_cons, hne]
        exact hrel name hname

-- ---------------------------------------------------------------------------
-- Parts
-- ---------------------------------------------------------------------------

theorem spells_string {depth : Nat} {node : Node} {s : String} (h : Spells depth node (.string s)) :
    ∃ style, node = .scalar none style s ∧ (style = .plain → Meaning.ofText s = .text) := by
  rcases spells_cases h with ⟨style, text, rfl, rfl, hplain⟩ | ⟨_, _, _, _, _, hv, _⟩ |
    ⟨_, _, _, _, _, hv, _⟩
  · exact ⟨style, rfl, hplain⟩
  · cases hv
  · cases hv

theorem spells_bool {depth : Nat} {node : Node} {b : Bool} (h : Spells depth node (.bool b)) :
    ∃ text, node = .scalar none .plain text ∧ Meaning.bool? text = some b := by
  rcases spells_cases h with ⟨style, text, rfl, rfl, hm⟩ | ⟨_, _, _, _, _, hv, _⟩ |
    ⟨_, _, _, _, _, hv, _⟩
  · refine ⟨text, rfl, ?_⟩
    cases ht : Meaning.ofText text <;> simp [ht, ofMeaning?, integer?, Value.ofInt] at hm
    subst hm
    exact Meaning.bool?_of_ofText ht
  · cases hv
  · cases hv

theorem spells_array {depth : Nat} {node : Node} {vs : List Value}
    (h : Spells depth node (.array vs)) :
    ∃ d items, depth = d + 1 ∧ node = .sequence none items ∧
      List.Forall₂ (Spells d) items vs := by
  rcases spells_cases h with ⟨style, text, rfl, rfl, hm⟩ | ⟨d, items, _, hd, hn, hv, hs⟩ |
    ⟨_, _, _, _, _, hv, _⟩
  · cases ht : Meaning.ofText text <;> simp [ht, ofMeaning?, integer?, Value.ofInt] at hm
  · cases hv
    exact ⟨d, items, hd, hn, hs⟩
  · cases hv

theorem spells_object {depth : Nat} {node : Node} {ms : List (String × Value)}
    (h : Spells depth node (.object ms)) :
    ∃ d entries, depth = d + 1 ∧ node = .mapping none entries ∧
      List.Forall₂ (fun entry m => scalarText? entry.1 = some m.1 ∧ Spells d entry.2 m.2)
        entries ms := by
  rcases spells_cases h with ⟨style, text, rfl, rfl, hm⟩ | ⟨_, _, _, _, _, hv, _⟩ |
    ⟨d, entries, _, hd, hn, hv, hs⟩
  · cases ht : Meaning.ofText text <;> simp [ht, ofMeaning?, integer?, Value.ofInt] at hm
  · cases hv
  · cases hv
    exact ⟨d, entries, hd, hn, hs⟩

theorem isSet?_of_spells {depth : Nat} {node : Node} {v : Value} (h : Spells depth node v)
    (hv : v ≠ .null) : isSet? node = some true ∧ ∀ target, node ≠ .alias target := by
  rcases spells_cases h with ⟨style, text, rfl, hs⟩ | ⟨_, _, _, _, rfl, _, _⟩ |
    ⟨_, _, _, _, rfl, _, _⟩
  · refine ⟨?_, by simp⟩
    have hmeaning : style = .plain → Meaning.ofText text ≠ .null := by
      rintro rfl hnull
      have hvalue := scalarValue?_of_spells hs
      simp only [scalarValue?, hnull, ofMeaning?, if_true, Option.some.injEq] at hvalue
      exact hv hvalue.symm
    cases style with
    | plain =>
      have hset := hmeaning rfl
      rw [Ne, Meaning.ofText_eq_null_iff, Bool.not_eq_true] at hset
      simp [isSet?, hset]
    | _ => rfl
  · exact ⟨rfl, by simp⟩
  · exact ⟨rfl, by simp⟩

theorem follow_of_not_alias (tree : Tree) {node : Node} (h : ∀ target, node ≠ .alias target) :
    follow tree node = pure node := by
  cases node <;> first | rfl | exact absurd rfl (h _)

end Spot

theorem medium_lawful (tree : Tree) :
    (medium tree).Lawful (fun spot v => Spells spot.depth spot.node v) Value.Ordered where
  text := by
    rintro ⟨node, depth⟩ s h
    obtain ⟨style, rfl, -⟩ := Spot.spells_string h
    rfl
  flag := by
    rintro ⟨node, depth⟩ b h
    obtain ⟨text, rfl, hb⟩ := Spot.spells_bool h
    simp [medium, Spot.follow_scalar, Spot.flag?, hb, Decoder.ofOption]
  choice := by
    rintro ⟨node, depth⟩ s h
    obtain ⟨style, rfl, -⟩ := Spot.spells_string h
    rfl
  items := by
    rintro ⟨node, depth⟩ vs h
    obtain ⟨d, items, rfl, rfl, hs⟩ := Spot.spells_array h
    refine ⟨items.map (⟨·, d⟩), rfl, ?_⟩
    rwa [List.forall₂_map_left_iff]
  fields := by
    rintro ⟨node, depth⟩ ms names h hnodup
    obtain ⟨d, entries, rfl, rfl, hs⟩ := Spot.spells_object h
    obtain ⟨fields, hfields, hrel⟩ :=
      Spot.knownFields_of_spells tree names hs hnodup [] (fun _ _ => rfl)
    exact ⟨fields, hfields, fun name hname => (hrel name hname).2 rfl⟩
  unset := by
    rintro ⟨node, depth⟩ h
    rcases spells_cases h with ⟨style, text, rfl, rfl, hm⟩ | ⟨_, _, _, _, _, hv, _⟩ |
      ⟨_, _, _, _, _, hv, _⟩
    · have hset : Spot.isSet? (.scalar none .plain text) = some false := by
        rw [Spot.isSet?, Meaning.ofText_eq_null_iff.mp hm, Bool.not_true]
      simp [medium, Spot.present, Spot.follow_scalar, hset, Decoder.ofOption]
    · cases hv
    · cases hv
  present := by
    rintro ⟨node, depth⟩ v h hv
    obtain ⟨hset, hplain⟩ := Spot.isSet?_of_spells h hv
    refine ⟨⟨node, depth⟩, ?_, h⟩
    simp [medium, Spot.present, Spot.follow_of_not_alias tree hplain, hset, Decoder.ofOption]
  value := by
    rintro ⟨node, depth⟩ v h hordered
    exact Spot.valueAt_of_spells tree h hordered

end SocketDocs.Yaml
