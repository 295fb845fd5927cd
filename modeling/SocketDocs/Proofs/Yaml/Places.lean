import SocketDocs.Document.OfYaml
import SocketDocs.Proofs.Document.Places
import SocketDocs.Proofs.Yaml.Scalars

/-!
# Null values in YAML

A part is unset if its node is an empty plain scalar or says null, which is told from the node
alone. The value of a set part may still be null: a number that is not finite has no other value,
and so has a null in quotes under the tag for null. A document read from a tree holds a null exactly
if such a scalar stands at one of its places (`Document.of_ofTree?`).
-/

namespace SocketDocs.Yaml

open Json (Value)

open Decoder (Gives gives_pure gives_ofOption not_gives_fail)

-- ---------------------------------------------------------------------------
-- The parts of a tree
-- ---------------------------------------------------------------------------

namespace Tree

variable (tree : Tree)

def resolve? : Node → Option Node
  | .alias target => tree.anchored.lookup target
  | node => some node

def keyText? (node : Node) : Option String :=
  (tree.resolve? node).bind Spot.scalarText?

def elements (node : Node) : List Node :=
  match tree.resolve? node with
  | some (.sequence _ items) => items
  | _ => []

def entries (node : Node) : List (Node × Node) :=
  match tree.resolve? node with
  | some (.mapping _ entries) => entries
  | _ => []

def entry? (name : String) (entries : List (Node × Node)) : Option Node :=
  (entries.find? fun entry => tree.keyText? entry.1 == some name).map (·.2)

def NullAt (node : Node) : Prop :=
  ∃ tag style text, tree.resolve? node = some (.scalar tag style text) ∧
    Spot.isNullScalar tag style text = true

end Tree

def view (tree : Tree) : View Spot where
  field? _ name spot := (tree.entry? name (tree.entries spot.node)).map (⟨·, spot.depth - 1⟩)
  items spot := (tree.elements spot.node).map (⟨·, spot.depth - 1⟩)
  set? spot := do
    let node ← tree.resolve? spot.node
    if Spot.isSet? node = some true then some { spot with node } else none

namespace Spot

variable {tree : Tree}

theorem resolve?_of_gives_follow {node found : Node} (h : Gives (follow tree node) found) :
    tree.resolve? node = some found := by
  unfold follow at h
  split at h
  · obtain ⟨_, -, h⟩ := h.bind
    exact gives_ofOption.mp h
  · rename_i hplain
    rw [gives_pure.mp h]
    cases node <;> first | rfl | exact absurd rfl (hplain _)

theorem keyText?_of_gives_keyText {node : Node} {text : String}
    (h : Gives (keyText tree node) text) : tree.keyText? node = some text := by
  obtain ⟨found, hfound, h⟩ := h.bind
  rw [Tree.keyText?, resolve?_of_gives_follow hfound]
  exact gives_ofOption.mp h

theorem eq_scalar_of_isEmptyPlain {node : Node} (h : isEmptyPlain node = true) :
    ∃ tag text, node = .scalar tag .plain text := by
  unfold isEmptyPlain at h
  split at h
  · exact ⟨_, _, rfl⟩
  · cases h

theorem eq_of_gives_items {spot : Spot} {spots : List Spot} (h : Gives (items tree spot) spots) :
    spots = (view tree).items spot := by
  obtain ⟨found, hfound, h⟩ := h.bind
  simp only [view, Tree.elements, resolve?_of_gives_follow hfound]
  split at h
  · rename_i hdepth
    rw [gives_pure.mp h, hdepth]
    rfl
  · split at h
    · rename_i hempty
      obtain ⟨tag, text, rfl⟩ := eq_scalar_of_isEmptyPlain hempty
      rw [gives_pure.mp h]
      rfl
    · exact absurd h not_gives_fail

theorem lookup_of_gives_knownFields {names : List String} {depth : Nat}
    {found fields : List (String × Spot)} {entries : List (Node × Node)}
    (h : Gives (knownFields tree names depth found entries) fields) {name : String}
    (hname : name ∈ names) :
    fields.lookup name =
      (found.lookup name).or ((tree.entry? name entries).map (⟨·, depth⟩)) := by
  induction entries generalizing found with
  | nil =>
    rw [gives_pure.mp h]
    simp [Tree.entry?]
  | cons entry rest ih =>
    obtain ⟨key, value⟩ := entry
    obtain ⟨text, htext, h⟩ := h.bind
    replace htext := keyText?_of_gives_keyText htext
    split at h
    · rename_i hunknown
      have hne : text ≠ name := by
        rintro rfl
        simp [hname] at hunknown
      rw [ih h]
      simp [Tree.entry?, htext, hne]
    · split at h
      · exact absurd h not_gives_fail
      · rename_i hfree
        rw [ih h]
        by_cases hne : name = text
        · subst hne
          have hnone : found.lookup name = none := Option.not_isSome_iff_eq_none.mp hfree
          simp [Tree.entry?, htext, hnone]
        · have hbeq : (name == text) = false := by simpa using hne
          simp [Tree.entry?, htext, List.lookup_cons, hbeq, Ne.symm hne]

theorem lookup_of_gives_fields {names : List String} {spot : Spot} {fields : List (String × Spot)}
    (h : Gives (Spot.fields tree names spot) fields) {name : String} (hname : name ∈ names) :
    fields.lookup name = (view tree).field? names name spot := by
  obtain ⟨found, hfound, h⟩ := h.bind
  simp only [view, Tree.entries, resolve?_of_gives_follow hfound]
  split at h
  · rename_i hdepth
    rw [lookup_of_gives_knownFields h hname, hdepth]
    rfl
  · split at h
    · rename_i hempty
      obtain ⟨tag, text, rfl⟩ := eq_scalar_of_isEmptyPlain hempty
      rw [gives_pure.mp h]
      rfl
    · exact absurd h not_gives_fail

theorem eq_of_gives_present {spot : Spot} {inside : Option Spot}
    (h : Gives (present tree spot) inside) : inside = (view tree).set? spot := by
  obtain ⟨found, hfound, h⟩ := h.bind
  obtain ⟨set, hset, h⟩ := h.bind
  rw [gives_ofOption] at hset
  rw [gives_pure.mp h]
  cases set <;> simp [view, resolve?_of_gives_follow hfound, hset]

end Spot

theorem medium_shows (tree : Tree) : (medium tree).Shows (view tree) where
  fields h _ hname := Spot.lookup_of_gives_fields h hname
  items := Spot.eq_of_gives_items
  present := Spot.eq_of_gives_present

-- ---------------------------------------------------------------------------
-- Values
-- ---------------------------------------------------------------------------

namespace Spot

variable {tree : Tree}

theorem ordered_of_integer? {n : Int} {v : Value} (h : integer? n = some v) : v.Ordered := by
  unfold integer? at h
  split at h
  · cases h
    trivial
  · cases h

theorem ordered_of_ofMeaning? {text : String} {m : Meaning} {v : Value}
    (h : ofMeaning? text m = some v) : v.Ordered := by
  cases m with
  | int n => exact ordered_of_integer? h
  | _ =>
    cases h
    trivial

theorem ordered_of_scalarValue? {tag : Option String} {style : ScalarStyle} {text : String}
    {v : Value} (h : scalarValue? tag style text = some v) : v.Ordered := by
  unfold scalarValue? at h
  split at h
  · split at h
    · exact ordered_of_ofMeaning? h
    · cases h
      trivial
  · -- The tags for flags, integers, doubles and null, and any other.
    split at h
    · obtain ⟨b, -, rfl⟩ := Option.map_eq_some_iff.mp h
      trivial
    split at h
    · obtain ⟨n, -, hn⟩ := Option.bind_eq_some_iff.mp h
      exact ordered_of_integer? hn
    split at h
    · obtain ⟨m, -, hm⟩ := Option.bind_eq_some_iff.mp h
      exact ordered_of_ofMeaning? hm
    split at h
    · split at h
      · cases h
        trivial
      · cases h
    · cases h
      trivial

/-- The value of a node: its objects are in order, and it is null only if the node is such a
scalar. -/
theorem gives_contentValue {inside : Option (Node → Decoder Value)} {node : Node} {v : Value}
    (hinside : ∀ read ∈ inside, ∀ node v, Gives (read node) v → v.Ordered)
    (h : Gives (contentValue tree inside node) v) :
    v.Ordered ∧ (v = .null ↔ ∃ tag style text, node = .scalar tag style text ∧
      isNullScalar tag style text = true) := by
  unfold contentValue at h
  split at h
  · exact absurd h not_gives_fail
  split at h
  · rw [gives_ofOption] at h
    refine ⟨ordered_of_scalarValue? h, ?_⟩
    constructor
    · rintro rfl
      exact ⟨_, _, _, rfl, scalarValue?_eq_null_iff.mp h⟩
    · rintro ⟨_, _, _, heq, hnull⟩
      cases heq
      rw [← scalarValue?_eq_null_iff, h] at hnull
      exact Option.some.inj hnull
  · obtain ⟨vs, hvs, h⟩ := h.bind
    rw [gives_pure.mp h]
    refine ⟨?_, by simp⟩
    rw [Value.ordered_array]
    exact forall_mem_of_forall₂ hvs.mapM fun node _ v hv => hinside _ rfl node v hv
  · obtain ⟨members, hmembers, h⟩ := h.bind
    rw [gives_pure.mp h]
    refine ⟨Value.ordered_ofList ?_, by simp⟩
    refine forall_mem_of_forall₂ hmembers.mapM ?_
    rintro ⟨key, value⟩ - ⟨name, v⟩ hm
    obtain ⟨_, -, hm⟩ := hm.bind
    obtain ⟨_, hv, hm⟩ := hm.bind
    cases gives_pure.mp hm
    exact hinside _ rfl value _ hv
  · exact absurd h not_gives_fail

theorem gives_valueAt {depth : Nat} {node : Node} {v : Value}
    (h : Gives (valueAt tree depth node) v) : v.Ordered ∧ (v = .null ↔ tree.NullAt node) := by
  induction depth generalizing node v with
  | zero =>
    obtain ⟨found, hfound, h⟩ := h.bind
    simp only [Tree.NullAt, resolve?_of_gives_follow hfound, Option.some.injEq]
    exact gives_contentValue (by simp) h
  | succ depth ih =>
    obtain ⟨found, hfound, h⟩ := h.bind
    simp only [Tree.NullAt, resolve?_of_gives_follow hfound, Option.some.injEq]
    refine gives_contentValue ?_ h
    rintro _ ⟨⟩ node v hv
    exact (ih hv).1

end Spot

end SocketDocs.Yaml

namespace SocketDocs

open Yaml (Tree Spot)

def Yaml.Tree.NullFree (tree : Tree) : Prop :=
  ∀ root ∈ tree.root, ∀ place ∈ (view tree).places ⟨root, Spot.deepest⟩, ¬tree.NullAt place.node

theorem Document.of_ofTree? {tree : Tree} {document : Document}
    (h : Document.ofTree? tree = some document) :
    document.Ordered ∧ (document.NullFree ↔ tree.NullFree) := by
  unfold Document.ofTree? at h
  split at h
  · rename_i hroot
    cases h
    simp [Ordered, NullFree, Tree.NullFree, values, hroot]
  · rename_i root hroot
    have hplaces := Document.forall₂_places (Yaml.medium_shows tree) (.of_run' h)
    simp only [Tree.NullFree, hroot, Option.mem_some_iff, forall_eq']
    refine ⟨?_, ?_⟩
    · exact forall_mem_of_forall₂ hplaces fun _ _ _ hv => (Spot.gives_valueAt hv).1
    · refine forall_mem_iff_of_forall₂ hplaces ?_
      intro place _ v hv
      exact not_congr (Spot.gives_valueAt hv).2

end SocketDocs
