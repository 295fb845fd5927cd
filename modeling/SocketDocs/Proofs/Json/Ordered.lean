import Mathlib.Data.List.Induction
import Mathlib.Data.String.Basic
import SocketDocs.Directive.Literal
import SocketDocs.Proofs.Json.Grammar

/-!
# Ordered values

A JSON value is ordered if the keys of its objects ascend, all the way down. Reading gives ordered
values only, and an ordered object is the map of its own members, so that building it again changes
nothing.
-/

namespace SocketDocs

-- ---------------------------------------------------------------------------
-- Sorted bindings
-- ---------------------------------------------------------------------------

namespace Keyed

variable {α : Type}

def Sorted (entries : List (String × α)) : Prop :=
  entries.Pairwise fun a b => a.1 < b.1

theorem mem_insert {key : String} {value : α} {entries : List (String × α)} {entry : String × α}
    (h : entry ∈ insert key value entries) : entry = (key, value) ∨ entry ∈ entries := by
  induction entries with
  | nil => exact .inl (List.mem_singleton.mp h)
  | cons first rest ih =>
    obtain ⟨k, v⟩ := first
    rw [insert] at h
    split at h
    · exact List.mem_cons.mp h
    · split at h
      · rcases List.mem_cons.mp h with rfl | h
        · exact .inl rfl
        · exact .inr (List.mem_cons_of_mem _ h)
      · rcases List.mem_cons.mp h with rfl | h
        · exact .inr (List.mem_cons_self ..)
        · exact (ih h).imp_right (List.mem_cons_of_mem _)

theorem sorted_insert {entries : List (String × α)} (h : Sorted entries) (key : String)
    (value : α) : Sorted (insert key value entries) := by
  induction entries with
  | nil => exact List.pairwise_singleton _ _
  | cons first rest ih =>
    obtain ⟨k, v⟩ := first
    obtain ⟨hfirst, hrest⟩ := List.pairwise_cons.mp h
    rw [insert]
    split
    · rename_i hlt
      refine List.pairwise_cons.mpr ⟨?_, h⟩
      intro entry hentry
      rcases List.mem_cons.mp hentry with rfl | hentry
      · exact hlt
      · exact String.lt_trans hlt (hfirst entry hentry)
    · split
      · rename_i heq
        subst heq
        exact List.pairwise_cons.mpr ⟨hfirst, hrest⟩
      · rename_i hnlt hne
        refine List.pairwise_cons.mpr ⟨?_, ih hrest⟩
        intro entry hentry
        rcases mem_insert hentry with rfl | hentry
        · exact lt_of_le_of_ne (not_lt.mp hnlt) (Ne.symm hne)
        · exact hfirst entry hentry

theorem ofList_concat (bindings : List (String × α)) (binding : String × α) :
    ofList (bindings ++ [binding]) = insert binding.1 binding.2 (ofList bindings) := by
  simp [ofList]

theorem sorted_ofList (bindings : List (String × α)) : Sorted (ofList bindings) := by
  induction bindings using List.reverseRecOn with
  | nil => exact List.Pairwise.nil
  | append_singleton bindings binding ih =>
    rw [ofList_concat]
    exact sorted_insert ih binding.1 binding.2

theorem mem_of_mem_ofList {bindings : List (String × α)} {entry : String × α}
    (h : entry ∈ ofList bindings) : entry ∈ bindings := by
  induction bindings using List.reverseRecOn with
  | nil => exact h
  | append_singleton bindings binding ih =>
    rw [ofList_concat] at h
    rcases mem_insert h with rfl | h
    · simp
    · exact List.mem_append_left _ (ih h)

theorem insert_of_forall_lt {entries : List (String × α)} {key : String}
    (h : ∀ entry ∈ entries, entry.1 < key) (value : α) :
    insert key value entries = entries ++ [(key, value)] := by
  induction entries with
  | nil => rfl
  | cons first rest ih =>
    obtain ⟨hfirst, hrest⟩ := List.forall_mem_cons.mp h
    obtain ⟨k, v⟩ := first
    rw [insert, if_neg (String.lt_asymm hfirst), if_neg (ne_of_gt hfirst), ih hrest]
    rfl

theorem ofList_of_sorted {bindings : List (String × α)} (h : Sorted bindings) :
    ofList bindings = bindings := by
  induction bindings using List.reverseRecOn with
  | nil => rfl
  | append_singleton bindings binding ih =>
    obtain ⟨hfront, -, hlast⟩ := List.pairwise_append.mp h
    rw [ofList_concat, ih hfront]
    exact insert_of_forall_lt (fun entry hentry => hlast entry hentry binding (by simp)) binding.2

end Keyed

-- ---------------------------------------------------------------------------
-- Ordered values
-- ---------------------------------------------------------------------------

namespace Json

mutual
def Value.Ordered : Value → Prop
  | .array items => Value.OrderedItems items
  | .object members => Keyed.Sorted members ∧ Value.OrderedMembers members
  | _ => True

def Value.OrderedItems : List Value → Prop
  | [] => True
  | item :: rest => item.Ordered ∧ Value.OrderedItems rest

def Value.OrderedMembers : List (String × Value) → Prop
  | [] => True
  | (_, value) :: rest => value.Ordered ∧ Value.OrderedMembers rest
end

theorem Value.orderedItems_iff {items : List Value} :
    OrderedItems items ↔ ∀ item ∈ items, item.Ordered := by
  induction items with
  | nil => simp [OrderedItems]
  | cons item rest ih => simp [OrderedItems, ih]

theorem Value.orderedMembers_iff {members : List (String × Value)} :
    OrderedMembers members ↔ ∀ member ∈ members, member.2.Ordered := by
  induction members with
  | nil => simp [OrderedMembers]
  | cons member rest ih =>
    obtain ⟨key, value⟩ := member
    simp [OrderedMembers, ih]

@[simp] theorem Value.ordered_array {items : List Value} :
    (Value.array items).Ordered ↔ ∀ item ∈ items, item.Ordered := by
  rw [Ordered, orderedItems_iff]

@[simp] theorem Value.ordered_object {members : List (String × Value)} :
    (Value.object members).Ordered ↔
      Keyed.Sorted members ∧ ∀ member ∈ members, member.2.Ordered := by
  rw [Ordered, orderedMembers_iff]

theorem Value.ordered_ofList {members : List (String × Value)}
    (h : ∀ member ∈ members, member.2.Ordered) : (Value.object (Keyed.ofList members)).Ordered :=
  ordered_object.mpr
    ⟨Keyed.sorted_ofList members, fun member hmem => h member (Keyed.mem_of_mem_ofList hmem)⟩

def Part.Ordered : Part → Prop
  | .value v => v.Ordered
  | .items vs => ∀ v ∈ vs, v.Ordered
  | .members ms => ∀ m ∈ ms, m.2.Ordered

theorem Reads.ordered {d : Nat} {cs : List Char} {p : Part} {rest : List Char}
    (h : Reads d cs p rest) : p.Ordered := by
  induction h with
  | word hw _ =>
    simp only [wordValues, List.mem_cons, Prod.mk.injEq, List.not_mem_nil, or_false] at hw
    obtain ⟨-, rfl⟩ | ⟨-, rfl⟩ | ⟨-, rfl⟩ := hw <;> trivial
  | string _ _ => trivial
  | number _ => trivial
  | emptyArray _ _ => trivial
  | array _ _ ih => exact Value.ordered_array.mpr ih
  | emptyObject _ _ => exact Value.ordered_object.mpr ⟨List.Pairwise.nil, by simp⟩
  | object _ _ ih => exact Value.ordered_ofList ih
  | lastItem _ _ ih => simpa [Part.Ordered] using ih
  | item _ _ _ ih ih' => exact List.forall_mem_cons.mpr ⟨ih, ih'⟩
  | lastMember _ _ _ _ _ ih => simpa [Part.Ordered] using ih
  | member _ _ _ _ _ _ ih ih' => exact List.forall_mem_cons.mpr ⟨ih, ih'⟩

theorem ordered_of_parseChars? {cs : List Char} {v : Value} (h : parseChars? cs = some v) :
    v.Ordered := by
  obtain ⟨rest, hread, -⟩ := parseChars?_eq_some_iff.mp h
  exact hread.ordered

end Json

end SocketDocs
