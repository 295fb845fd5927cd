import Mathlib.Data.List.DropRight
import Mathlib.Data.List.Induction
import SocketDocs.Catalog
import SocketDocs.Proofs.Json.Ordered
import SocketDocs.Proofs.Text.ByteOrder

/-!
# Looking up records

Entering a record takes over its two keys and touches no other (`get?_insert`), so after any records
have been entered a key stands for the last of them that has it. A reference means the record under
its dotted name, and only if there is none the record under the least of the keys that end in that
name after a point (`lookups_ofRecords`).

The keys of a record whose name and package have no point in them hold at most one. Such a key ends
in no name but that of its record, under which the record is found anyway, so the search among
endings finds nothing (`resolve?_of_pointless`).
-/

namespace SocketDocs

-- ---------------------------------------------------------------------------
-- Maps
-- ---------------------------------------------------------------------------

namespace Keyed

variable {α : Type}

theorem find?_insert (key k : String) (value : α) (entries : List (String × α)) :
    find? k (insert key value entries) = if k = key then some value else find? k entries := by
  split
  · subst k
    exact find?_insert_self key value entries
  · rename_i hne
    have hbeq : (k == key) = false := by simpa using hne
    induction entries with
    | nil => simp [insert, find?, List.lookup_cons, hbeq]
    | cons entry rest ih =>
      obtain ⟨first, v⟩ := entry
      simp only [find?] at ih ⊢
      rw [insert]
      split
      · rw [List.lookup_cons, hbeq]
      · split
        · subst first
          simp only [List.lookup_cons, hbeq]
        · rw [List.lookup_cons, List.lookup_cons, ih]

variable {entries : List (String × α)} (h : Sorted entries)
include h

theorem find?_eq_some_iff {key : String} {value : α} :
    find? key entries = some value ↔ (key, value) ∈ entries := by
  constructor
  · intro hfind
    obtain ⟨before, after, rfl, -⟩ := List.lookup_eq_some_iff.mp hfind
    exact List.mem_append_right _ List.mem_cons_self
  · intro hmem
    obtain ⟨before, after, rfl⟩ := List.append_of_mem hmem
    refine List.lookup_eq_some_iff.mpr ⟨before, after, rfl, ?_⟩
    intro entry hentry
    have hlt := (List.pairwise_append.mp h).2.2 entry hentry (key, value) List.mem_cons_self
    simpa using ne_of_gt hlt

theorem firstWhere_eq_some_iff {test : String × α → Bool} {entry : String × α} :
    entries.find? test = some entry ↔
      entry ∈ entries ∧ test entry = true ∧
        ∀ other ∈ entries, test other = true → entry.1 ≤ other.1 := by
  rw [List.find?_eq_some_iff_append]
  constructor
  · rintro ⟨htest, before, after, rfl, hbefore⟩
    refine ⟨List.mem_append_right _ List.mem_cons_self, htest, ?_⟩
    intro other hother hpass
    rcases List.mem_append.mp hother with hother | hother
    · have hfails := hbefore other hother
      rw [hpass] at hfails
      cases hfails
    · rcases List.mem_cons.mp hother with rfl | hother
      · exact le_refl _
      · exact le_of_lt ((List.pairwise_cons.mp (List.pairwise_append.mp h).2.1).1 other hother)
  · rintro ⟨hmem, htest, hleast⟩
    obtain ⟨before, after, rfl⟩ := List.append_of_mem hmem
    refine ⟨htest, before, after, rfl, ?_⟩
    intro other hother
    have hlt := (List.pairwise_append.mp h).2.2 other hother entry List.mem_cons_self
    cases hpass : test other with
    | false => rfl
    | true => exact absurd hlt (not_lt.mpr (hleast other (List.mem_append_left _ hother) hpass))

end Keyed

-- ---------------------------------------------------------------------------
-- Records and their keys
-- ---------------------------------------------------------------------------

/-- The keys that a record is found under. -/
def Record.keys (record : Record) : List String :=
  [record.name, record.qualifiedName]

theorem Record.mem_keys {record : Record} {key : String} :
    key ∈ record.keys ↔ key = record.name ∨ key = record.qualifiedName := by
  simp [keys]

theorem Record.nodup_keys (record : Record) : record.keys.Nodup := by
  have hne : record.name ≠ record.qualifiedName := by
    intro heq
    have hlength := congrArg String.length heq
    simp only [qualifiedName, String.length_append] at hlength
    have hpoint : ".".length = 1 := rfl
    omega
  simpa [keys] using hne

namespace Catalog

def bindings (records : List Record) : List (String × Record) :=
  records.flatMap fun record => record.keys.map (·, record)

theorem index_foldl_insert (records : List Record) (catalog : Catalog) :
    (records.foldl insert catalog).index =
      (bindings records).foldl (fun entries b => Keyed.insert b.1 b.2 entries) catalog.index := by
  induction records generalizing catalog with
  | nil => rfl
  | cons record records ih =>
    have hcons : bindings (record :: records) =
        (record.name, record) :: (record.qualifiedName, record) :: bindings records := rfl
    rw [List.foldl_cons, ih, hcons, List.foldl_cons, List.foldl_cons]
    rfl

theorem index_ofRecords (records : List Record) :
    (ofRecords records).index = Keyed.ofList (bindings records) :=
  index_foldl_insert records empty

theorem sorted_index (records : List Record) : Keyed.Sorted (ofRecords records).index := by
  rw [index_ofRecords]
  exact Keyed.sorted_ofList (bindings records)

theorem ofRecords_concat (records : List Record) (record : Record) :
    ofRecords (records ++ [record]) = (ofRecords records).insert record := by
  rw [ofRecords, List.foldl_append]
  rfl

theorem get?_insert (catalog : Catalog) (record : Record) (key : String) :
    (catalog.insert record).get? key =
      if key ∈ record.keys then some record else catalog.get? key := by
  simp only [get?, insert, Keyed.find?_insert, Record.mem_keys]
  split_ifs <;> simp_all

theorem findRev?_concat (records : List Record) (record : Record) (key : String) :
    (records ++ [record]).findRev? (key ∈ ·.keys) =
      if key ∈ record.keys then some record else records.findRev? (key ∈ ·.keys) := by
  rw [List.findRev?_eq_find?_reverse, List.findRev?_eq_find?_reverse, List.reverse_append,
    List.reverse_singleton, List.singleton_append, List.find?_cons]
  split <;> simp_all

theorem get?_ofRecords (records : List Record) (key : String) :
    (ofRecords records).get? key = records.findRev? (key ∈ ·.keys) := by
  induction records using List.reverseRecOn with
  | nil => rfl
  | append_singleton records record ih =>
    rw [ofRecords_concat, get?_insert, findRev?_concat, ih]

theorem get?_ofRecords_eq_none_iff {records : List Record} {key : String} :
    (ofRecords records).get? key = none ↔ key ∉ records.flatMap Record.keys := by
  rw [get?_ofRecords, List.findRev?_eq_find?_reverse, List.find?_eq_none]
  simp

theorem mem_index_iff {records : List Record} {key : String} {record : Record} :
    (key, record) ∈ (ofRecords records).index ↔ (ofRecords records).get? key = some record :=
  (Keyed.find?_eq_some_iff (sorted_index records)).symm

theorem mem_keys_iff {records : List Record} {key : String} :
    key ∈ records.flatMap Record.keys ↔ ∃ record, (key, record) ∈ (ofRecords records).index := by
  simp only [mem_index_iff, ← Option.isSome_iff_exists, Option.isSome_iff_ne_none, ne_eq,
    get?_ofRecords_eq_none_iff, not_not]

theorem mem_keys_of_get? {records : List Record} {key : String} {record : Record}
    (h : (ofRecords records).get? key = some record) : record ∈ records ∧ key ∈ record.keys := by
  rw [get?_ofRecords, List.findRev?_eq_find?_reverse] at h
  exact ⟨List.mem_reverse.mp (List.mem_of_find?_eq_some h), by simpa using List.find?_some h⟩

/-- The keys of records, each with the place of the record that it stands for. -/
def places (records : List Record) : List (String × Nat) :=
  Keyed.ofList (records.zipIdx.flatMap fun entry => entry.1.keys.map (·, entry.2))

theorem places_concat (records : List Record) (record : Record) :
    places (records ++ [record]) =
      Keyed.insert record.qualifiedName records.length
        (Keyed.insert record.name records.length (places records)) := by
  simp [places, Keyed.ofList, List.zipIdx_append, Record.keys]

/-- An index of places would do as well: every place is one in the list of records. -/
theorem find?_places (records : List Record) (key : String) :
    (Keyed.find? key (places records)).map (records[·]?) =
      ((ofRecords records).get? key).map some := by
  induction records using List.reverseRecOn with
  | nil => rfl
  | append_singleton records record ih =>
    rw [places_concat, ofRecords_concat, get?_insert, Keyed.find?_insert, Keyed.find?_insert]
    by_cases hkey : key ∈ record.keys
    · rw [if_pos hkey]
      rw [Record.mem_keys] at hkey
      split_ifs <;> simp_all
    · rw [if_neg hkey, ← ih]
      rw [Record.mem_keys, not_or] at hkey
      rw [if_neg hkey.2, if_neg hkey.1]
      cases hplace : Keyed.find? key (places records) with
      | none => rfl
      | some i =>
        have hi : i < records.length := by
          rw [hplace] at ih
          cases hget : (ofRecords records).get? key <;> simp [hget] at ih
          exact (List.getElem?_eq_some_iff.mp ih).1
        simp [List.getElem?_append_left hi]

-- ---------------------------------------------------------------------------
-- References
-- ---------------------------------------------------------------------------

def Qualifies (key name : String) : Prop :=
  '.' :: name.toList <:+ key.toList

def soughtName (reference : String) : String :=
  String.ofList (dotted reference.toList)

theorem resolve?_of_get? {catalog : Catalog} {reference : String} {record : Record}
    (h : catalog.get? (soughtName reference) = some record) :
    catalog.resolve? reference = some record := by
  rw [soughtName] at h
  rw [resolve?, h]

theorem resolve?_of_miss {catalog : Catalog} {reference : String}
    (h : catalog.get? (soughtName reference) = none) :
    catalog.resolve? reference =
      (catalog.index.find? fun entry =>
        ('.' :: (soughtName reference).toList).isSuffixOf entry.1.toList).map (·.2) := by
  rw [soughtName] at h
  rw [resolve?, h, soughtName, String.toList_ofList]

variable {records : List Record} {reference : String}

/-- Without a record under the name itself, a reference means the one under the least key that ends
in it. -/
theorem resolve?_ofRecords_of_miss (h : (ofRecords records).get? (soughtName reference) = none)
    {record : Record} :
    (ofRecords records).resolve? reference = some record ↔
      ∃ key ∈ records.flatMap Record.keys, Qualifies key (soughtName reference) ∧
        (∀ other ∈ records.flatMap Record.keys, Qualifies other (soughtName reference) →
          key ≤ other) ∧
        (ofRecords records).get? key = some record := by
  rw [resolve?_of_miss h, Option.map_eq_some_iff]
  simp only [Keyed.firstWhere_eq_some_iff (sorted_index records), List.isSuffixOf_iff_suffix]
  constructor
  · rintro ⟨⟨key, found⟩, ⟨hmem, hends, hleast⟩, rfl⟩
    refine ⟨key, mem_keys_iff.mpr ⟨found, hmem⟩, hends, ?_, mem_index_iff.mp hmem⟩
    intro other hother hqualifies
    obtain ⟨record, hrecord⟩ := mem_keys_iff.mp hother
    exact hleast (other, record) hrecord hqualifies
  · rintro ⟨key, -, hends, hleast, hget⟩
    refine ⟨(key, record), ⟨mem_index_iff.mpr hget, hends, ?_⟩, rfl⟩
    intro other hother hqualifies
    exact hleast other.1 (mem_keys_iff.mpr ⟨other.2, hother⟩) hqualifies

theorem resolve?_ofRecords_eq_none_iff :
    (ofRecords records).resolve? reference = none ↔
      ∀ key ∈ records.flatMap Record.keys,
        key ≠ soughtName reference ∧ ¬ Qualifies key (soughtName reference) := by
  cases hget : (ofRecords records).get? (soughtName reference) with
  | some record =>
    have hmem : soughtName reference ∈ records.flatMap Record.keys := by
      by_contra hmiss
      rw [get?_ofRecords_eq_none_iff.mpr hmiss] at hget
      cases hget
    rw [resolve?_of_get? hget]
    simp only [reduceCtorEq, false_iff]
    intro hnone
    exact (hnone _ hmem).1 rfl
  | none =>
    have hmiss := get?_ofRecords_eq_none_iff.mp hget
    rw [resolve?_of_miss hget, Option.map_eq_none_iff, List.find?_eq_none]
    simp only [List.isSuffixOf_iff_suffix]
    constructor
    · intro hnone key hkey
      refine ⟨fun heq => hmiss (heq ▸ hkey), ?_⟩
      obtain ⟨record, hrecord⟩ := mem_keys_iff.mp hkey
      exact hnone (key, record) hrecord
    · rintro hnone ⟨key, record⟩ hmem
      exact (hnone key (mem_keys_iff.mpr ⟨record, hmem⟩)).2

/-- Whatever records have been entered, a key stands for the last of them that has it, and for none
if none has. A reference means the record under its dotted name; without one, the last record
entered under the least key, byte by byte, of those that end in that name after a point; and nothing
if no key is that name or ends in it. -/
theorem lookups_ofRecords (records : List Record) :
    let catalog := ofRecords records
    let keys := records.flatMap Record.keys
    (∀ key,
      catalog.get? key = records.findRev? (key ∈ ·.keys) ∧
      (catalog.get? key = none ↔ key ∉ keys) ∧
      (Keyed.find? key (places records)).map (records[·]?) = (catalog.get? key).map some) ∧
    ∀ reference,
      let name := String.ofList (dotted reference.toList)
      (∀ record, catalog.get? name = some record → catalog.resolve? reference = some record) ∧
      (catalog.get? name = none → ∀ record,
        catalog.resolve? reference = some record ↔
          ∃ key ∈ keys, Qualifies key name ∧
            (∀ other ∈ keys, Qualifies other name → Text.bytes key ≤ Text.bytes other) ∧
            records.findRev? (key ∈ ·.keys) = some record) ∧
      (catalog.resolve? reference = none ↔
        ∀ key ∈ keys, key ≠ name ∧ ¬ Qualifies key name) := by
  intro catalog keys
  refine ⟨?_, ?_⟩
  · intro key
    exact ⟨get?_ofRecords records key, get?_ofRecords_eq_none_iff, find?_places records key⟩
  · intro reference name
    refine ⟨fun record => resolve?_of_get?, ?_, resolve?_ofRecords_eq_none_iff⟩
    intro hmiss record
    simp only [Text.bytes_le_iff, ← get?_ofRecords]
    exact resolve?_ofRecords_of_miss hmiss

/-- A package with a point in its name is what makes a shorter path find something. -/
example :
    let notes : List Record := [⟨"Note", "v2.chat", []⟩, ⟨"Note", "v1.chat", []⟩]
    ((ofRecords notes).resolve? "chat::Note").map (·.package) = some "v1.chat" := by
  decide +kernel

end Catalog

-- ---------------------------------------------------------------------------
-- Names without points
-- ---------------------------------------------------------------------------

/-- Neither the name nor the package of a record has a point in it. -/
def Record.Pointless (record : Record) : Prop :=
  '.' ∉ record.name.toList ∧ '.' ∉ record.package.toList

theorem Record.toList_qualifiedName (record : Record) :
    record.qualifiedName.toList = record.package.toList ++ '.' :: record.name.toList := by
  simp [qualifiedName]

theorem Record.Pointless.count_le {record : Record} (h : record.Pointless) {key : String}
    (hkey : key ∈ record.keys) : key.toList.count '.' ≤ 1 := by
  have hname := List.count_eq_zero.mpr h.1
  have hpackage := List.count_eq_zero.mpr h.2
  rcases mem_keys.mp hkey with rfl | rfl
  · omega
  · rw [toList_qualifiedName, List.count_append, List.count_cons_self]
    omega

/-- The one point of such a key stands right before the name. -/
theorem Record.Pointless.eq_name {record : Record} (h : record.Pointless) {key name : String}
    (hkey : key ∈ record.keys) (hends : Catalog.Qualifies key name) : name = record.name := by
  obtain ⟨front, hfront⟩ := hends
  rcases mem_keys.mp hkey with rfl | rfl
  · have hpoint : '.' ∈ record.name.toList := by
      rw [← hfront]
      simp
    exact absurd hpoint h.1
  · rw [toList_qualifiedName] at hfront
    exact (String.toList_inj.mp
      ((List.append_cons_inj_of_notMem h.2 h.1).mp hfront.symm).2.2).symm

/-- The name of a record is what follows the last point of its keys. -/
theorem Record.Pointless.rtakeWhile_eq {record : Record} (h : record.Pointless) {key : String}
    (hkey : key ∈ record.keys) : key.toList.rtakeWhile (· != '.') = record.name.toList := by
  have hname : ∀ c ∈ record.name.toList, (c != '.') = true := by
    intro c hc
    simp only [bne_iff_ne]
    rintro rfl
    exact h.1 hc
  rcases mem_keys.mp hkey with rfl | rfl
  · exact List.rtakeWhile_eq_self_iff.mpr hname
  · rw [toList_qualifiedName, List.rtakeWhile, List.reverse_append, List.reverse_cons,
      List.append_assoc,
      List.takeWhile_append_of_pos (fun c hc => hname c (List.mem_reverse.mp hc))]
    simp

namespace Catalog

theorem count_dotted_cons (c : Char) (cs : List Char) :
    (dotted cs).count '.' ≤ (dotted (c :: cs)).count '.' ∧
      (dotted (c :: cs)).count '.' ≤ (dotted cs).count '.' + 1 := by
  induction cs generalizing c with
  | nil =>
    simp only [dotted, List.count_cons, List.count_nil]
    split <;> simp
  | cons d rest ih =>
    obtain ⟨hlow, hhigh⟩ := ih d
    by_cases hpair : c = ':' ∧ d = ':'
    · obtain ⟨rfl, rfl⟩ := hpair
      rw [show dotted (':' :: ':' :: rest) = '.' :: dotted rest from rfl, List.count_cons_self]
      omega
    · have hstep : dotted (c :: d :: rest) = c :: dotted (d :: rest) := by
        rw [dotted]
        rintro tail rfl htail
        exact hpair ⟨rfl, (List.cons.inj htail).1⟩
      rw [hstep, List.count_cons]
      split <;> omega

theorem count_dotted_append (front rest : List Char) :
    (dotted rest).count '.' + 1 ≤ (dotted (front ++ ':' :: ':' :: rest)).count '.' := by
  induction front with
  | nil => rw [List.nil_append, dotted, List.count_cons_self]
  | cons c front ih => exact ih.trans (count_dotted_cons c _).1

section

variable {records : List Record} {reference : String} (h : ∀ record ∈ records, record.Pointless)
include h

theorem resolve?_eq_get? (reference : String) :
    (ofRecords records).resolve? reference = (ofRecords records).get? (soughtName reference) := by
  cases hget : (ofRecords records).get? (soughtName reference) with
  | some record => exact resolve?_of_get? hget
  | none =>
    have hmiss := get?_ofRecords_eq_none_iff.mp hget
    refine resolve?_ofRecords_eq_none_iff.mpr fun key hkey => ⟨fun heq => hmiss (heq ▸ hkey), ?_⟩
    intro hends
    obtain ⟨record, hmem, hkey⟩ := List.mem_flatMap.mp hkey
    -- the name of the record is a key as well, and the one that was looked for
    refine hmiss (List.mem_flatMap.mpr ⟨record, hmem, ?_⟩)
    rw [(h record hmem).eq_name hkey hends]
    exact List.mem_cons_self

theorem mem_keys_of_resolve? {record : Record}
    (hfound : (ofRecords records).resolve? reference = some record) :
    record.Pointless ∧ soughtName reference ∈ record.keys := by
  rw [resolve?_eq_get? h] at hfound
  obtain ⟨hmem, hkey⟩ := mem_keys_of_get? hfound
  exact ⟨h record hmem, hkey⟩

end

/-- If no name and no package has a point in it, a reference means the record under its dotted name,
which is the last one entered, and nothing else. So a path of three or more parts means nothing, and
the record found bears the name at the end of the reference. -/
theorem resolve?_of_pointless {records : List Record} (h : ∀ record ∈ records, record.Pointless) :
    let catalog := ofRecords records
    (∀ reference,
      let name := String.ofList (dotted reference.toList)
      catalog.resolve? reference = catalog.get? name ∧
        catalog.get? name = records.findRev? (name ∈ ·.keys)) ∧
    (∀ a b c : String, catalog.resolve? (a ++ "::" ++ b ++ "::" ++ c) = none) ∧
    ∀ reference record, catalog.resolve? reference = some record →
      record.name.toList = (dotted reference.toList).rtakeWhile (· != '.') := by
  intro catalog
  refine ⟨fun reference => ⟨resolve?_eq_get? h reference, get?_ofRecords records _⟩, ?_, ?_⟩
  · intro a b c
    rw [Option.eq_none_iff_forall_ne_some]
    intro record hfound
    obtain ⟨hpointless, hkey⟩ := mem_keys_of_resolve? h hfound
    have hmost := hpointless.count_le hkey
    have hfirst := count_dotted_append a.toList (b.toList ++ ':' :: ':' :: c.toList)
    have hsecond := count_dotted_append b.toList c.toList
    simp only [soughtName, String.toList_ofList, String.toList_append, List.append_assoc] at hmost
    have hsep : "::".toList = [':', ':'] := rfl
    simp only [hsep, List.cons_append, List.nil_append] at hmost
    omega
  · intro reference record hfound
    obtain ⟨hpointless, hkey⟩ := mem_keys_of_resolve? h hfound
    have hname := hpointless.rtakeWhile_eq hkey
    rw [soughtName, String.toList_ofList] at hname
    exact hname.symm

/-- Two records of one name. -/
theorem resolve?_of_pointless_notes :
    let notes : List Record := [⟨"Note", "chat", []⟩, ⟨"Note", "mail", []⟩]
    (∀ record ∈ notes, record.Pointless) ∧
      ((ofRecords notes).resolve? "Note").map (·.package) = some "mail" ∧
      ((ofRecords notes).resolve? "chat::Note").map (·.package) = some "chat" ∧
      (ofRecords notes).resolve? ("app" ++ "::" ++ "chat" ++ "::" ++ "Note") = none := by
  intro notes
  have hpointless : ∀ record ∈ notes, record.Pointless := by
    simp [notes, Record.Pointless]
  obtain ⟨hexact, hpath, -⟩ := resolve?_of_pointless hpointless
  refine ⟨hpointless, ?_, ?_, hpath "app" "chat" "Note"⟩
  · rw [(hexact _).1]
    decide +kernel
  · rw [(hexact _).1]
    decide +kernel

end Catalog
end SocketDocs
