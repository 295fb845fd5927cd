import Mathlib.Data.List.Forall2
import SocketDocs.Catalog

/-!
# Catalogs by position

The records of a catalog can be kept in one list, with the position of its record under each key. An
access to a position past the end of the list would fail; after any insertions there is none, and
looking a reference up gives what the catalog gives (`Table.Represents.resolve?_eq`).
-/

namespace SocketDocs

-- ---------------------------------------------------------------------------
-- Maps with related values
-- ---------------------------------------------------------------------------

namespace Keyed

variable {α β : Type} {related : α → β → Prop} {xs : List (String × α)} {ys : List (String × β)}

def Related (related : α → β → Prop) (xs : List (String × α)) (ys : List (String × β)) : Prop :=
  List.Forall₂ (fun x y => x.1 = y.1 ∧ related x.2 y.2) xs ys

theorem Related.insert (h : Related related xs ys) {v : α} {w : β} (hvalue : related v w)
    (key : String) : Related related (Keyed.insert key v xs) (Keyed.insert key w ys) := by
  induction h with
  | nil => exact .cons ⟨rfl, hvalue⟩ .nil
  | @cons x y xs ys hxy h ih =>
    obtain ⟨k, a⟩ := x
    obtain ⟨_, b⟩ := y
    obtain ⟨rfl, hab⟩ := hxy
    rw [Keyed.insert, Keyed.insert]
    split
    · exact .cons ⟨rfl, hvalue⟩ (.cons ⟨rfl, hab⟩ h)
    · split
      · exact .cons ⟨rfl, hvalue⟩ h
      · exact .cons ⟨rfl, hab⟩ ih

theorem Related.firstWhere (h : Related related xs ys) (test : String → Bool) :
    Option.Rel related ((xs.find? fun x => test x.1).map (·.2))
      ((ys.find? fun y => test y.1).map (·.2)) := by
  induction h with
  | nil => exact .none
  | @cons x y xs ys hxy h ih =>
    rw [List.find?_cons, List.find?_cons, ← hxy.1]
    cases test x.1 with
    | true => exact .some hxy.2
    | false => exact ih

theorem find?_eq_firstWhere (key : String) (entries : List (String × α)) :
    find? key entries = (entries.find? fun entry => key == entry.1).map (·.2) := by
  induction entries with
  | nil => rfl
  | cons entry rest ih =>
    obtain ⟨k, v⟩ := entry
    rw [find?, List.lookup_cons, List.find?_cons]
    cases key == k with
    | true => rfl
    | false => exact ih

end Keyed

-- ---------------------------------------------------------------------------
-- Records by position
-- ---------------------------------------------------------------------------

namespace Catalog

/-- The records in order of insertion, and under each key the position of its record. -/
structure Table where
  records : List Record := []
  positions : List (String × Nat) := []

namespace Table

def insert (table : Table) (record : Record) : Table where
  records := table.records ++ [record]
  positions :=
    let position := table.records.length
    Keyed.insert record.qualifiedName position (Keyed.insert record.name position table.positions)

def ofRecords (records : List Record) : Table :=
  records.foldl insert {}

def access? (table : Table) : Option Nat → Option (Option Record)
  | none => some none
  | some position => table.records[position]?.map some

def get? (table : Table) (key : String) : Option (Option Record) :=
  table.access? (Keyed.find? key table.positions)

def resolve? (table : Table) (reference : String) : Option (Option Record) := do
  let name := dotted reference.toList
  match ← table.get? (String.ofList name) with
  | some record => some (some record)
  | none =>
    table.access?
      ((table.positions.find? fun entry => ('.' :: name).isSuffixOf entry.1.toList).map (·.2))

/-- The table has the records of the catalog, and its positions lead to those of the index. -/
structure Represents (table : Table) (catalog : Catalog) : Prop where
  records : table.records = catalog.records
  index : Keyed.Related (fun position record => table.records[position]? = some record)
    table.positions catalog.index

theorem Represents.insert {table : Table} {catalog : Catalog} (h : table.Represents catalog)
    (record : Record) : (table.insert record).Represents (catalog.insert record) where
  records := by
    simp [Table.insert, Catalog.insert, h.records]
  index := by
    have hnew : (table.records ++ [record])[table.records.length]? = some record := by simp
    have hold : Keyed.Related
        (fun position r => (table.records ++ [record])[position]? = some r)
        table.positions catalog.index := by
      refine h.index.imp ?_
      rintro entry binding ⟨hkey, hposition⟩
      obtain ⟨hlt, -⟩ := List.getElem?_eq_some_iff.mp hposition
      exact ⟨hkey, (List.getElem?_append_left hlt).trans hposition⟩
    exact (hold.insert hnew record.name).insert hnew record.qualifiedName

theorem represents_ofRecords (records : List Record) :
    (ofRecords records).Represents (Catalog.ofRecords records) := by
  have hrun : ∀ (table : Table) (catalog : Catalog), table.Represents catalog →
      (records.foldl insert table).Represents (records.foldl Catalog.insert catalog) := by
    induction records with
    | nil => exact fun table catalog h => h
    | cons record records ih =>
      exact fun table catalog h => ih _ _ (h.insert record)
  exact hrun {} Catalog.empty ⟨rfl, .nil⟩

section

variable {table : Table} {catalog : Catalog} (h : table.Represents catalog)
include h

theorem Represents.position_lt : ∀ entry ∈ table.positions, entry.2 < table.records.length := by
  have hbounded : List.Forall₂ (fun (entry : String × Nat) (binding : String × Record) =>
      entry.2 < table.records.length ∧ entry.1 = binding.1) table.positions catalog.index :=
    h.index.imp fun _ _ hentry => ⟨(List.getElem?_eq_some_iff.mp hentry.2).1, hentry.1⟩
  exact (List.forall₂_and_left _ _).mp hbounded |>.1

theorem Represents.resolve?_eq (reference : String) :
    table.resolve? reference = some (catalog.resolve? reference) := by
  have haccess : ∀ {position? : Option Nat} {record? : Option Record},
      Option.Rel (fun position record => table.records[position]? = some record) position?
        record? → table.access? position? = some record? := by
    rintro _ _ (hrecord | _)
    · rw [access?, hrecord]
      rfl
    · rfl
  have hget : ∀ key, table.get? key = some (catalog.get? key) := by
    intro key
    rw [get?, Catalog.get?, Keyed.find?_eq_firstWhere, Keyed.find?_eq_firstWhere]
    exact haccess (h.index.firstWhere _)
  unfold resolve? Catalog.resolve?
  dsimp only
  rw [hget]
  cases catalog.get? (String.ofList (dotted reference.toList)) with
  | some record => rfl
  | none => exact haccess (h.index.firstWhere fun key => ('.' :: _).isSuffixOf key.toList)

end

end Table

end Catalog

end SocketDocs
