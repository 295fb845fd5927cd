import SocketDocs.Catalog
import SocketDocs.Proofs.Json.Range

/-!
# Samples are sound values

The values that comments state and those that stand in for types are never null, their objects are
in order and their numbers in range. The records of a catalog are structs of its files, so this holds
of all that their sample payloads are made of.
-/

namespace SocketDocs

open Json (Value)

/-- A value that a written document keeps: it is not null, and its objects are in order. -/
def Json.Value.Proper (v : Value) : Prop :=
  v ≠ .null ∧ v.Ordered

/-- A value as it is read from text, or made to stand in for a type. -/
structure Json.Value.Sound (v : Value) : Prop where
  ne_null : v ≠ .null
  ordered : v.Ordered
  inRange : v.InRange

theorem Json.Value.sound_string (s : String) : (Value.string s).Sound :=
  ⟨by simp, trivial, nofun⟩

theorem Json.Value.sound_number {n : Json.Number} (h : n.InRange) : (Value.number n).Sound :=
  ⟨by simp, trivial, by simpa [InRange] using h⟩

-- ---------------------------------------------------------------------------
-- Literals
-- ---------------------------------------------------------------------------

theorem Json.sound_of_parseChars? {c : Char} {cs : List Char} {v : Value}
    (hc : c = '\x7b' ∨ c = '[') (h : parseChars? (c :: cs) = some v) : v.Sound := by
  refine ⟨?_, ordered_of_parseChars? h, inRange_of_parseChars? h⟩
  rintro rfl
  rcases collection_of_parseChars? hc h with ⟨items, hv⟩ | ⟨members, hv⟩ <;> cases hv

theorem Literal.sound_value (text : String) : (Literal.value text).Sound := by
  unfold Literal.value
  generalize unquoted text.toList = cs
  unfold valueOfChars
  split
  · exact Value.sound_number (Json.inRange_of_int64? ‹_›)
  split
  · exact Value.sound_number (Decimal.inFormat_of_double? ‹_›)
  split
  · rename_i hbracket
    cases hparse : Json.parseChars? cs with
    | none => exact Value.sound_string _
    | some v =>
      obtain ⟨c, rest, rfl, hc⟩ := exists_cons_of_isBracketed hbracket
      exact Json.sound_of_parseChars? hc hparse
  · exact Value.sound_string _

-- ---------------------------------------------------------------------------
-- Fields
-- ---------------------------------------------------------------------------

namespace Sample

theorem sound_ofType {type : Source.Ty} {v : Value} (h : ofType type = some v) : v.Sound := by
  have harray : (Value.array []).Sound := ⟨by simp, trivial, nofun⟩
  fun_induction ofType type with
  | case1 | case7 | case8 =>
    cases h
    exact Value.sound_string _
  | case2 =>
    cases h
    exact Value.sound_number ⟨by decide, by decide⟩
  | case3 =>
    cases h
    exact ⟨by simp, trivial, nofun⟩
  | case4 | case10 =>
    cases h
    exact harray
  | case5 =>
    cases h
    exact ⟨by simp, Value.ordered_object.mpr ⟨.nil, nofun⟩, nofun⟩
  | case6 name _ _ _ _ _ _ wrapped ih =>
    cases hwrapped : ofType wrapped with
    | none =>
      rw [hwrapped] at h
      cases h
      exact Value.sound_string _
    | some w =>
      rw [hwrapped] at h ih
      exact ih h
  | case9 target ih => exact ih h
  | case11 inner ih => exact ih h
  | case12 => cases h

theorem sound_ofField {comments : List Comment} {openLine : Nat} {field : Source.Field} {v : Value}
    (h : ofField comments openLine field = some v) : v.Sound := by
  unfold ofField at h
  split at h
  · cases h
    exact Literal.sound_value _
  · exact sound_ofType h

end Sample

-- ---------------------------------------------------------------------------
-- Records
-- ---------------------------------------------------------------------------

namespace Record

def Sound (record : Record) : Prop :=
  ∀ field ∈ record.fields, field.2.Sound

theorem Sound.samplePayload {record : Record} (h : record.Sound) : record.samplePayload.Sound where
  ne_null := by simp [Record.samplePayload]
  ordered := Value.ordered_ofList fun field hfield => (h field hfield).ordered
  inRange := Value.inRange_ofList fun field hfield => (h field hfield).inRange

theorem sound_ofStruct (comments : List Comment) (package : String)
    (declaration : Source.Struct) : (ofStruct comments package declaration).Sound := by
  rintro ⟨name, v⟩ h
  unfold ofStruct at h
  split at h
  · obtain ⟨field, -, hfield⟩ := List.mem_filterMap.mp h
    unfold ofField at hfield
    dsimp only at hfield
    split at hfield
    · cases hfield
    · obtain ⟨sample, hsample, heq⟩ := Option.map_eq_some_iff.mp hfield
      cases heq
      exact Sample.sound_ofField hsample
  · cases h

mutual
theorem sound_of_mem_ofItem {comments : List Comment} {package : String} {record : Record} :
    ∀ {item : Source.Item}, record ∈ ofItem comments package item → record.Sound
  | .struct declaration _, h => by
    unfold ofItem at h
    split at h
    · cases h
    · rw [List.mem_singleton.mp h]
      exact sound_ofStruct _ _ _
  | .module attributes name _ _ _ inside, h => by
    unfold ofItem at h
    split at h
    · cases h
    · exact sound_of_mem_ofItems h
  | .function _ _ _ _ _, h => by simp [ofItem] at h
  | .method _ _ _ _ _, h => by simp [ofItem] at h
  | .implementation _ _ _ _ _, h => by simp [ofItem] at h
  | .trait _ _ _ _ _, h => by simp [ofItem] at h
  | .other _, h => by simp [ofItem] at h

theorem sound_of_mem_ofItems {comments : List Comment} {package : String} {record : Record} :
    ∀ {items : List Source.Item}, record ∈ ofItems comments package items → record.Sound
  | [], h => by simp [ofItems] at h
  | item :: rest, h => by
    rw [ofItems, List.mem_append] at h
    rcases h with h | h
    · exact sound_of_mem_ofItem h
    · exact sound_of_mem_ofItems h
end

end Record

-- ---------------------------------------------------------------------------
-- Catalogs
-- ---------------------------------------------------------------------------

namespace Catalog

def Sound (catalog : Catalog) : Prop :=
  ∀ entry ∈ catalog.index, entry.2.Sound

theorem Sound.insert {catalog : Catalog} (h : catalog.Sound) {record : Record}
    (hrecord : record.Sound) : (catalog.insert record).Sound := by
  intro entry hentry
  rcases Keyed.mem_insert hentry with rfl | hentry
  · exact hrecord
  rcases Keyed.mem_insert hentry with rfl | hentry
  · exact hrecord
  · exact h entry hentry

theorem sound_ofRecords {records : List Record} (h : ∀ record ∈ records, record.Sound) :
    (ofRecords records).Sound := by
  have hrun : ∀ catalog : Catalog, catalog.Sound → (records.foldl insert catalog).Sound := by
    induction records with
    | nil => exact fun _ hcatalog => hcatalog
    | cons record records ih =>
      obtain ⟨hrecord, hrest⟩ := List.forall_mem_cons.mp h
      exact fun catalog hcatalog => ih hrest _ (hcatalog.insert hrecord)
  refine hrun empty ?_
  intro entry hentry
  cases hentry

theorem sound_ofFiles (files : List SourceFile) : (ofFiles files).Sound := by
  refine sound_ofRecords ?_
  intro record hrecord
  obtain ⟨file, -, h⟩ := List.mem_flatMap.mp hrecord
  exact Record.sound_of_mem_ofItems h

theorem Sound.resolve? {catalog : Catalog} (h : catalog.Sound) {reference : String}
    {record : Record} (hresolve : catalog.resolve? reference = some record) : record.Sound := by
  unfold Catalog.resolve? at hresolve
  dsimp only at hresolve
  split at hresolve
  · rename_i hfound
    cases hresolve
    obtain ⟨before, after, hsplit, -⟩ := List.lookup_eq_some_iff.mp hfound
    exact h (_, record) (hsplit ▸ List.mem_append_right _ (List.mem_cons_self ..))
  · obtain ⟨entry, hentry, rfl⟩ := Option.map_eq_some_iff.mp hresolve
    exact h entry (List.mem_of_find?_eq_some hentry)

end Catalog

end SocketDocs
