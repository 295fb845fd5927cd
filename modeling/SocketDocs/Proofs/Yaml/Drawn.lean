import SocketDocs.Proofs.Document.Faithful
import SocketDocs.Proofs.Yaml.Legible
import SocketDocs.Proofs.Yaml.Places

/-!
# Reading the nodes of JSON text

The nodes of JSON text have no tags and are no aliases, and their keys are unharmed. So each of them
can be read as its value only if its texts are unharmed too: documents are read faithfully from such
nodes (`medium_faithful`).
-/

namespace SocketDocs.Yaml

open Json (Value)

open Decoder (Gives gives_pure gives_ofOption not_gives_fail)

def Drawn (spot : Spot) (v : Value) : Prop :=
  node? v = some spot.node

namespace Spot

variable {tree : Tree} {depth : Nat} {node : Node}

theorem drawn_string {s : String} (h : node? (.string s) = some node) :
    ∃ text, node = .scalar none .doubleQuoted text := by
  obtain ⟨read, -, rfl⟩ := Option.map_eq_some_iff.mp h
  exact ⟨_, rfl⟩

theorem drawn_array {vs : List Value} (h : node? (.array vs) = some node) :
    ∃ items, node = .sequence none items ∧
      List.Forall₂ (fun item v => node? v = some item) items vs := by
  rw [node?, itemNodes?_eq] at h
  obtain ⟨items, hitems, rfl⟩ := Option.map_eq_some_iff.mp h
  exact ⟨items, rfl, (mapM_eq_some_iff.mp hitems).flip⟩

theorem drawn_object {ms : List (String × Value)} (h : node? (.object ms) = some node) :
    ∃ entries, node = .mapping none entries ∧
      List.Forall₂ (fun entry m => scalarText? entry.1 = some m.1 ∧ node? m.2 = some entry.2)
        entries ms := by
  rw [node?, memberNodes?_eq] at h
  obtain ⟨entries, hentries, rfl⟩ := Option.map_eq_some_iff.mp h
  refine ⟨entries, rfl, (mapM_eq_some_iff.mp hentries).flip.imp ?_⟩
  rintro ⟨key, value⟩ m hm
  obtain ⟨hkey, hvalue⟩ := memberNode?_eq_some_iff.mp hm
  obtain ⟨-, rfl⟩ := keyNode?_eq_some.mp hkey
  exact ⟨rfl, hvalue⟩

theorem not_alias_of_drawn {v : Value} (h : node? v = some node) (target : Nat) :
    node ≠ .alias target := by
  cases v with
  | null | bool b | number n =>
    cases h
    simp
  | string s | array items | object members =>
    obtain ⟨read, -, rfl⟩ := Option.map_eq_some_iff.mp h
    simp

theorem spells_quoted (depth : Nat) (text : String) :
    Spells depth (.scalar none .doubleQuoted text) (.string text) := by
  simp [Spells, ScalarSpells]

theorem scalarValue?_of_gives_valueAt {style : ScalarStyle} {text : String} {v : Value}
    (h : Gives (valueAt tree depth (.scalar none style text)) v) :
    scalarValue? none style text = some v := by
  cases depth <;>
    simpa only [valueAt, follow_scalar, pure_bind, contentValue_scalar, gives_ofOption] using h

theorem keys_eq_of_gives {entries : List (Node × Node)} {members ms : List (String × Value)}
    (hentries : List.Forall₂ (fun entry m => scalarText? entry.1 = some m.1) entries members)
    (h : List.Forall₂ (fun entry m => Gives (keyText tree entry.1) m.1) entries ms) :
    ms.map (·.1) = members.map (·.1) := by
  induction hentries generalizing ms with
  | nil =>
    cases h
    rfl
  | cons hkey _ ih =>
    obtain ⟨m, rest, hm, hrest, rfl⟩ := List.forall₂_cons_left_iff.mp h
    rw [keyText_of_scalarText? tree hkey, gives_pure] at hm
    rw [List.map_cons, List.map_cons, hm, ih hrest]

theorem spells_of_gives_valueAt {v : Value} (hdrawn : node? v = some node)
    (h : Gives (valueAt tree depth node) v) (hordered : v.Ordered) : Spells depth node v := by
  induction v using Value.inductionOn generalizing depth node with
  | _ v ih =>
    cases v with
    | null =>
      cases hdrawn
      rw [Spells]
      exact ⟨rfl, by decide⟩
    | bool b =>
      cases hdrawn
      rw [Spells]
      exact scalarSpells_bool b
    | number n =>
      cases hdrawn
      rw [Spells]
      exact ⟨rfl, scalarValue?_of_gives_valueAt h⟩
    | string s =>
      obtain ⟨text, rfl⟩ := drawn_string hdrawn
      cases scalarValue?_of_gives_valueAt h
      exact spells_quoted depth _
    | array items =>
      obtain ⟨nodes, rfl, hnodes⟩ := drawn_array hdrawn
      rw [Value.ordered_array] at hordered
      cases depth with
      | zero => exact absurd h not_gives_fail
      | succ depth =>
        rw [valueAt, follow_sequence, pure_bind, contentValue_sequence] at h
        obtain ⟨vs, hvs, h⟩ := h.bind
        cases gives_pure.mp h
        have hgives := List.forall₂_iff_zip.mp hvs.mapM
        rw [List.forall₂_iff_zip] at hnodes
        rw [Spells, List.forall₂_iff_zip]
        refine ⟨hnodes.1, fun hv => ?_⟩
        have hmem := (List.of_mem_zip hv).2
        exact ih _ hmem (hnodes.2 hv) (hgives.2 hv) (hordered _ hmem)
    | object members =>
      obtain ⟨entries, rfl, hentries⟩ := drawn_object hdrawn
      rw [Value.ordered_object] at hordered
      cases depth with
      | zero => exact absurd h not_gives_fail
      | succ depth =>
        rw [valueAt, follow_mapping, pure_bind, contentValue_mapping] at h
        obtain ⟨ms, hms, h⟩ := h.bind
        have hmembers := Value.object.inj (gives_pure.mp h)
        have hread : List.Forall₂ (fun entry m => Gives (keyText tree entry.1) m.1 ∧
            Gives (valueAt tree depth entry.2) m.2) entries ms := by
          refine hms.mapM.imp ?_
          rintro ⟨key, value⟩ m hm
          obtain ⟨text, htext, hm⟩ := hm.bind
          obtain ⟨v, hv, hm⟩ := hm.bind
          cases gives_pure.mp hm
          exact ⟨htext, hv⟩
        -- The keys are in order, so no member was moved.
        have hkeys := keys_eq_of_gives (hentries.imp fun _ _ => And.left)
          (hread.imp fun _ _ => And.left)
        have hsorted : Keyed.Sorted ms := by
          have hsorted : (members.map (·.1)).Pairwise (· < ·) := List.pairwise_map.mpr hordered.1
          rw [← hkeys] at hsorted
          exact List.pairwise_map.mp hsorted
        rw [Keyed.ofList_of_sorted hsorted] at hmembers
        subst hmembers
        rw [List.forall₂_iff_zip] at hentries hread
        rw [Spells, List.forall₂_iff_zip]
        refine ⟨hentries.1, fun hm => ⟨(hentries.2 hm).1, ?_⟩⟩
        have hmem := (List.of_mem_zip hm).2
        exact ih _ (List.mem_map_of_mem hmem) (hentries.2 hm).2 (hread.2 hm).2 (hordered.2 _ hmem)

theorem spells_of_gives_knownFields {names : List String} {entries : List (Node × Node)}
    {ms : List (String × Value)}
    (hdrawn : List.Forall₂ (fun entry m => scalarText? entry.1 = some m.1 ∧
      node? m.2 = some entry.2) entries ms)
    {found fields : List (String × Spot)}
    (h : Gives (knownFields tree names depth found entries) fields)
    (hms : ∀ m ∈ ms, Spelled Drawn (fun spot v => Spells spot.depth spot.node v) names fields m) :
    List.Forall₂ (fun entry m => scalarText? entry.1 = some m.1 ∧ Spells depth entry.2 m.2)
      entries ms := by
  induction hdrawn generalizing found with
  | nil => exact .nil
  | @cons entry m entries ms hentry _ ih =>
    obtain ⟨key, value⟩ := entry
    obtain ⟨hkey, hvalue⟩ := hentry
    obtain ⟨⟨hname, hspelled⟩, hms⟩ := List.forall_mem_cons.mp hms
    simp only [knownFields, keyText_of_scalarText? tree hkey, pure_bind] at h
    rw [if_neg (by simpa using hname)] at h
    split at h
    · exact absurd h not_gives_fail
    · have hfound := lookup_of_gives_knownFields h hname
      rw [List.lookup_cons_self, Option.some_or] at hfound
      exact .cons ⟨hkey, hspelled _ hfound hvalue⟩ (ih h hms)

end Spot

theorem medium_faithful (tree : Tree) :
    (medium tree).Faithful Drawn (fun spot v => Spells spot.depth spot.node v) Value.Ordered where
  text := by
    rintro ⟨node, depth⟩ s hdrawn h
    obtain ⟨text, rfl⟩ := Spot.drawn_string hdrawn
    cases gives_pure.mp h
    exact Spot.spells_quoted depth s
  flag := by
    rintro ⟨node, depth⟩ b hdrawn -
    cases hdrawn
    rw [Spells]
    exact scalarSpells_bool b
  choice := by
    rintro ⟨node, depth⟩ s hdrawn h
    obtain ⟨text, rfl⟩ := Spot.drawn_string hdrawn
    cases gives_pure.mp h
    exact Spot.spells_quoted depth s
  items := by
    rintro ⟨node, depth⟩ vs spots hdrawn h
    obtain ⟨items, rfl, hitems⟩ := Spot.drawn_array hdrawn
    cases depth with
    | zero => exact absurd h not_gives_fail
    | succ depth =>
      cases gives_pure.mp h
      rw [List.forall₂_map_left_iff, List.forall₂_map_left_iff]
      exact ⟨hitems, id⟩
  fields := by
    rintro names ⟨node, depth⟩ ms fields hdrawn h hms
    obtain ⟨entries, rfl, hentries⟩ := Spot.drawn_object hdrawn
    cases depth with
    | zero => exact absurd h not_gives_fail
    | succ depth => exact Spot.spells_of_gives_knownFields hentries h hms
  present := by
    rintro ⟨node, depth⟩ inside v hdrawn h
    obtain ⟨found, hfound, h⟩ := h.bind
    rw [Spot.follow_of_not_alias tree (Spot.not_alias_of_drawn hdrawn), gives_pure] at hfound
    obtain ⟨set, -, h⟩ := h.bind
    cases set <;> cases gives_pure.mp h
    rw [hfound]
  value := Spot.spells_of_gives_valueAt

end SocketDocs.Yaml
