import Mathlib.Data.List.Forall2
import SocketDocs.Catalog
import SocketDocs.Proofs.Catalog.Options

/-!
# Fields of records

A record lists the fields of its struct that have a sample, in the order of their declaration
(`record_of_fields`). A field has one from its comments, or from its type if that is a path, an array
or a slice once the references and parentheses around it are taken away. What stands in for a type
stands in for all wrappers of it as well.
-/

namespace SocketDocs

open Json (Value)
open Source (Field FieldList Ty)

-- ---------------------------------------------------------------------------
-- Types
-- ---------------------------------------------------------------------------

namespace Source.Ty

def stripped : Ty → Ty
  | .reference target => stripped target
  | .parenthesized inner => stripped inner
  | .path name argument => .path name argument
  | .sequence => .sequence
  | .other => .other

def IsShaped : Ty → Prop
  | .path _ _ => True
  | .sequence => True
  | _ => False

instance (type : Ty) : Decidable type.IsShaped := by
  cases type <;> unfold IsShaped <;> infer_instance

def names : Ty → List String
  | .path name none => [name]
  | .path name (some argument) => name :: names argument
  | .reference target => names target
  | .parenthesized inner => names inner
  | .sequence => []
  | .other => []

theorem name_mem_names (name : String) (argument : Option Ty) :
    name ∈ (Ty.path name argument).names := by
  cases argument with
  | none => exact List.mem_singleton_self _
  | some argument => exact List.mem_cons_self ..

def wrappers : List String := ["Option", "Box", "Rc", "Arc", "Cow"]

/-- A type in wrappers, references and parentheses, nested in any way. -/
inductive Wraps (type : Ty) : Ty → Prop where
  | refl : Wraps type type
  | wrapper {outer : Ty} {name : String} (h : Wraps type outer) (hname : name ∈ wrappers) :
      Wraps type (.path name (some outer))
  | reference {outer : Ty} (h : Wraps type outer) : Wraps type (.reference outer)
  | parenthesized {outer : Ty} (h : Wraps type outer) : Wraps type (.parenthesized outer)

end Source.Ty

namespace Sample

open Source.Ty

theorem isSome_ofType_path (name : String) (argument : Option Ty) :
    (ofType (.path name argument)).isSome = true := by
  cases argument <;> grind [ofType]

theorem ofType_eq_none_iff (type : Ty) : ofType type = none ↔ ¬type.stripped.IsShaped := by
  fun_induction stripped type with
  | case1 target ih => rw [ofType, ih]
  | case2 inner ih => rw [ofType, ih]
  | case3 name argument =>
    have := isSome_ofType_path name argument
    simp_all [IsShaped, Option.isSome_iff_ne_none]
  | case4 => simp [ofType, IsShaped]
  | case5 => simp [ofType, IsShaped]

/-- What stands in for types that have a form of their own on the wire. -/
def standIns : List Value := [.string "string", .ofInt 0, .bool false, .array [], .object []]

theorem mem_standIns_of_ofType {type : Ty} {v : Value} (h : ofType type = some v) :
    v ∈ standIns ∨ ∃ name ∈ type.names, v = .string name := by
  fun_induction ofType type with
  | case1 | case2 | case3 | case4 | case5 | case10 =>
    cases h
    exact .inl (by simp [standIns])
  | case6 name _ _ _ _ _ _ wrapped ih =>
    cases hwrapped : ofType wrapped with
    | none =>
      rw [hwrapped] at h
      cases h
      exact .inr ⟨name, name_mem_names _ _, rfl⟩
    | some w =>
      rw [hwrapped] at h ih
      rcases ih h with hmem | ⟨inner, hinner, rfl⟩
      · exact .inl hmem
      · exact .inr ⟨inner, List.mem_cons_of_mem _ hinner, rfl⟩
  | case7 name | case8 name =>
    cases h
    exact .inr ⟨name, name_mem_names _ _, rfl⟩
  | case9 target ih => exact ih h
  | case11 inner ih => exact ih h
  | case12 => cases h

theorem ofType_of_wraps {type outer : Ty} (h : type.Wraps outer) {v : Value}
    (hv : ofType type = some v) : ofType outer = some v := by
  induction h with
  | refl => exact hv
  | wrapper _ hname ih =>
    simp only [wrappers, List.mem_cons, List.not_mem_nil, or_false] at hname
    rcases hname with rfl | rfl | rfl | rfl | rfl <;> simp [ofType, ih]
  | reference _ ih => rwa [ofType]
  | parenthesized _ ih => rwa [ofType]

end Sample

-- ---------------------------------------------------------------------------
-- Fields
-- ---------------------------------------------------------------------------

namespace Record

def nameOnWire (rule : Option String) (field : Field) : String :=
  wireName rule (WireOptions.ofAttributes field.attributes) (Source.unraw field.name)

/-- A field is listed: no option hides it, it has a name, and it has a sample. -/
def Lists (comments : List Comment) (openLine : Nat) (rule : Option String) (field : Field) : Prop :=
  ¬WireOptions.Hides field.attributes ∧ nameOnWire rule field ≠ "" ∧
    ((Sample.explicit? comments openLine field).isSome = true ∨ field.type.stripped.IsShaped)

instance (comments : List Comment) (openLine : Nat) (rule : Option String) (field : Field) :
    Decidable (Lists comments openLine rule field) := by
  unfold Lists
  infer_instance

theorem isSome_ofField_iff {comments : List Comment} {openLine : Nat} {field : Field} :
    (Sample.ofField comments openLine field).isSome = true ↔
      (Sample.explicit? comments openLine field).isSome = true ∨ field.type.stripped.IsShaped := by
  unfold Sample.ofField
  cases Sample.explicit? comments openLine field with
  | some text => simp
  | none => simp [Option.isSome_iff_ne_none, Sample.ofType_eq_none_iff]

def Shows (comments : List Comment) (openLine : Nat) (rule : Option String) (field : Field)
    (entry : String × Value) : Prop :=
  entry.1 = nameOnWire rule field ∧ Sample.ofField comments openLine field = some entry.2

theorem ofField_of_lists {comments : List Comment} {openLine : Nat} {rule : Option String}
    {field : Field} (h : Lists comments openLine rule field) :
    ∃ entry, ofField comments openLine rule field = some entry ∧
      Shows comments openLine rule field entry := by
  obtain ⟨hhides, hname, hsample⟩ := h
  obtain ⟨sample, hsample⟩ := Option.isSome_iff_exists.mp (isSome_ofField_iff.mpr hsample)
  rw [← WireOptions.skip_ofAttributes, Bool.not_eq_true] at hhides
  refine ⟨(nameOnWire rule field, sample), ?_, rfl, hsample⟩
  rw [nameOnWire] at hname ⊢
  simp [ofField, hhides, hname, hsample]

theorem ofField_of_not_lists {comments : List Comment} {openLine : Nat} {rule : Option String}
    {field : Field} (h : ¬Lists comments openLine rule field) :
    ofField comments openLine rule field = none := by
  by_contra hsome
  refine h ?_
  unfold ofField at hsome
  dsimp only at hsome
  split at hsome
  · exact absurd rfl hsome
  · rename_i hlisted
    simp only [Bool.or_eq_true, not_or, Bool.not_eq_true, String.isEmpty_eq_false_iff] at hlisted
    refine ⟨?_, hlisted.2, isSome_ofField_iff.mp ?_⟩
    · rw [← WireOptions.skip_ofAttributes, hlisted.1]
      exact Bool.false_ne_true
    · rw [Option.isSome_iff_ne_none]
      intro hnone
      simp [hnone] at hsome

theorem forall₂_filterMap_ofField (comments : List Comment) (openLine : Nat)
    (rule : Option String) (fields : List Field) :
    List.Forall₂ (Shows comments openLine rule)
      (fields.filter fun field => Lists comments openLine rule field)
      (fields.filterMap (ofField comments openLine rule)) := by
  induction fields with
  | nil => exact .nil
  | cons field rest ih =>
    by_cases hlists : Lists comments openLine rule field
    · obtain ⟨entry, hentry, hshows⟩ := ofField_of_lists hlists
      rw [List.filter_cons_of_pos (by simpa using hlists), List.filterMap_cons, hentry]
      exact .cons hshows ih
    · rw [List.filter_cons_of_neg (by simpa using hlists), List.filterMap_cons,
        ofField_of_not_lists hlists]
      exact ih

/-- A record lists exactly the fields that have a sample, in order, and a type has a stand-in by its
form, which is that of every type that wraps it. -/
theorem record_of_fields :
    (∀ comments package name attributes body,
      List.Forall₂
        (Shows comments body.openLine (WireOptions.ofAttributes attributes).renameAll)
        (body.fields.filter fun field =>
          Lists comments body.openLine (WireOptions.ofAttributes attributes).renameAll field)
        (ofStruct comments package ⟨name, attributes, some body⟩).fields) ∧
    ∀ type : Ty, (Sample.ofType type = none ↔ ¬type.stripped.IsShaped) ∧
      (∀ v, Sample.ofType type = some v →
        v ∈ Sample.standIns ∨ ∃ name ∈ type.names, v = .string name) ∧
      ∀ outer, type.Wraps outer → ∀ v, Sample.ofType type = some v →
        Sample.ofType outer = some v :=
  ⟨fun _ _ _ _ _ => forall₂_filterMap_ofField _ _ _ _, fun type => ⟨Sample.ofType_eq_none_iff type,
    fun _ => Sample.mem_standIns_of_ofType, fun _ h _ => Sample.ofType_of_wraps h⟩⟩

/-- A field whose type has no form is left out; one in wrappers is listed with what stands in for the
type inside. -/
theorem record_of_fields_wrapped :
    ∃ wrapped, (Ty.path "u8" none).Wraps wrapped ∧
      Sample.ofType (.path "u8" none) = some (.ofInt 0) ∧
      (ofStruct [] "m" ⟨"A", [], some ⟨1, [⟨"a", 2, [], .other, 2⟩, ⟨"b", 3, [], wrapped, 3⟩]⟩⟩).fields =
        [("b", .ofInt 0)] := by
  have hwraps : (Ty.path "u8" none).Wraps (.path "Option" (some (.reference (.path "u8" none)))) :=
    .wrapper (.reference .refl) (by simp [Ty.wrappers])
  have hinner : Sample.ofType (.path "u8" none) = some (.ofInt 0) := by simp [Sample.ofType]
  refine ⟨_, hwraps, hinner, ?_⟩
  have houter := (record_of_fields.2 _).2.2 _ hwraps _ hinner
  have hfields := record_of_fields.1 [] "m" "A" [] ⟨1, [⟨"a", 2, [], .other, 2⟩,
    ⟨"b", 3, [], .path "Option" (some (.reference (.path "u8" none))), 3⟩]⟩
  rw [List.filter_cons_of_neg (by decide), List.filter_cons_of_pos (by decide), List.filter_nil,
    List.forall₂_cons_left_iff] at hfields
  obtain ⟨entry, rest, ⟨hname, hsample⟩, hrest, heq⟩ := hfields
  have hvalue : some (Value.ofInt 0) = some entry.2 := houter.symm.trans hsample
  rw [heq, List.forall₂_nil_left_iff.mp hrest]
  exact congrArg (fun entry => [entry]) (Prod.ext hname (Option.some.inj hvalue).symm)

end Record

end SocketDocs
