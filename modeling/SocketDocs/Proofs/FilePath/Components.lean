import Mathlib.Data.List.Basic
import SocketDocs.FilePath
import SocketDocs.Proofs.Text.ByteOrder

/-!
# Paths by their components

Paths compare component by component. A path below another one has the components of that path and
then the names on the way (`components_below`), so paths below one root compare as those names do.
-/

namespace SocketDocs

theorem Text.endsWith_iff {text ending : String} :
    text.endsWith ending = true ↔ ending.toList <:+ text.toList := by
  rw [← String.endsWith_toSlice, String.Slice.endsWith_string_iff, String.copy_toSlice]

namespace FilePath

-- ---------------------------------------------------------------------------
-- Order
-- ---------------------------------------------------------------------------

/-- The root comes before a point, points before names, and names compare by their bytes. -/
def Component.Before : Component → Component → Prop
  | .root, other => other ≠ .root
  | .current, .parent => True
  | .current, .name _ => True
  | .parent, .name _ => True
  | .name text, .name other => Text.bytes text < Text.bytes other
  | _, _ => False

instance : LT Component := ⟨Component.Before⟩

theorem map_name_lt {names others : List String} (h : names < others) :
    names.map Component.name < others.map Component.name := by
  replace h := (List.lt_iff_lex_lt names others).mp h
  induction h with
  | nil => exact List.nil_lt_cons _ _
  | rel hlt => exact .rel (Text.bytes_lt_of_lt hlt)
  | cons _ ih => exact .cons ih

theorem append_name_lt (front : List Component) {names others : List String} (h : names < others) :
    front ++ names.map Component.name < front ++ others.map Component.name :=
  List.append_left_lt (map_name_lt h)

-- ---------------------------------------------------------------------------
-- Parts
-- ---------------------------------------------------------------------------

/-- A name that an entry of a directory can have. -/
structure IsName (text : String) : Prop where
  ne_empty : text ≠ ""
  ne_current : text ≠ "."
  ne_parent : text ≠ ".."
  no_slash : '/' ∉ text.toList

instance (text : String) : Decidable (IsName text) :=
  decidable_of_iff (text ≠ "" ∧ text ≠ "." ∧ text ≠ ".." ∧ '/' ∉ text.toList)
    ⟨fun ⟨h, h', h'', hslash⟩ => ⟨h, h', h'', hslash⟩, fun ⟨h, h', h'', hslash⟩ => ⟨h, h', h'', hslash⟩⟩

theorem component?_of_isName {text : String} (h : IsName text) :
    component? text.toList = some (.name text) := by
  unfold component?
  split
  · exact absurd (String.toList_inj.mp ‹text.toList = []›) h.ne_empty
  · exact absurd (String.toList_inj.mp ‹text.toList = ['.']›) h.ne_current
  · exact absurd (String.toList_inj.mp ‹text.toList = ['.', '.']›) h.ne_parent
  · rw [String.ofList_toList]

theorem splitSlashes_append (part front back : List Char) :
    splitSlashes part (front ++ '/' :: back) = splitSlashes part front ++ splitSlashes [] back := by
  induction front generalizing part with
  | nil => simp [splitSlashes]
  | cons c rest ih =>
    rw [List.cons_append, splitSlashes, splitSlashes]
    split
    · rw [ih, List.cons_append]
    · rw [ih]

theorem splitSlashes_of_not_mem {cs : List Char} (h : '/' ∉ cs) (part : List Char) :
    splitSlashes part cs = [part.reverse ++ cs] := by
  induction cs generalizing part with
  | nil => simp [splitSlashes]
  | cons c rest ih =>
    obtain ⟨hc, hrest⟩ := not_or.mp (mt List.mem_cons.mpr h)
    have hc : (c == '/') = false := by simpa using Ne.symm hc
    rw [splitSlashes, hc, if_neg (by simp), ih hrest]
    simp

theorem splitSlashes_ne_nil (part cs : List Char) : splitSlashes part cs ≠ [] := by
  induction cs generalizing part with
  | nil => simp [splitSlashes]
  | cons c rest ih =>
    rw [splitSlashes]
    split
    · simp
    · exact ih _

theorem splitSlashes_ne_empty {part : List Char} (h : part ≠ []) (cs : List Char) :
    splitSlashes part cs ≠ [[]] := by
  induction cs generalizing part with
  | nil => simpa [splitSlashes] using h
  | cons c rest ih =>
    rw [splitSlashes]
    split
    · simp [h]
    · exact ih (by simp)

theorem splitSlashes_joinNames {names : List String} (hne : names ≠ [])
    (h : ∀ name ∈ names, '/' ∉ name.toList) :
    splitSlashes [] (joinNames names).toList = names.map String.toList := by
  have hslash : "/".toList = ['/'] := rfl
  rw [joinNames, String.toList_intercalate, hslash]
  induction names with
  | nil => exact absurd rfl hne
  | cons name rest ih =>
    obtain ⟨hname, hrest⟩ := List.forall_mem_cons.mp h
    cases rest with
    | nil => simp [splitSlashes_of_not_mem hname]
    | cons next later =>
      rw [List.map_cons, List.map_cons, List.intercalate_cons_cons, List.append_assoc,
        List.singleton_append, splitSlashes_append, splitSlashes_of_not_mem hname]
      exact congrArg _ (ih (by simp) hrest)

def openingOf : List (List Char) → List Component
  | [] :: _ :: _ => [.root]
  | ['.'] :: _ => [.current]
  | _ => []

theorem components_eq (path : String) :
    components path = openingOf (splitSlashes [] path.toList) ++
      (splitSlashes [] path.toList).filterMap component? := rfl

theorem openingOf_append {front back back' : List (List Char)} (hfront : front ≠ [])
    (h : front = [[]] → back ≠ [] ∧ back' ≠ []) :
    openingOf (front ++ back) = openingOf (front ++ back') := by
  obtain ⟨first, rest, rfl⟩ := List.exists_cons_of_ne_nil hfront
  cases first with
  | nil =>
    cases rest with
    | nil =>
      obtain ⟨hback, hback'⟩ := h rfl
      obtain ⟨_, _, rfl⟩ := List.exists_cons_of_ne_nil hback
      obtain ⟨_, _, rfl⟩ := List.exists_cons_of_ne_nil hback'
      rfl
    | cons _ _ => rfl
  | cons c cs =>
    unfold openingOf
    simp only [List.cons_append]
    split <;> simp_all

theorem splitSlashes_below {path : String} {names : List String} (hpath : path ≠ "")
    (hne : names ≠ []) (h : ∀ name ∈ names, IsName name) :
    ∃ front back : List (List Char), splitSlashes [] path.toList = front ++ back ∧ front ≠ [] ∧
      (front = [[]] → back ≠ []) ∧ back.filterMap component? = [] ∧
      splitSlashes [] (below path names).toList = front ++ names.map String.toList := by
  have hjoined := splitSlashes_joinNames hne fun name hname => (h name hname).no_slash
  have hslash : "/".toList = ['/'] := rfl
  have hempty : names.isEmpty = false := by simpa using hne
  rw [below, hempty, if_neg (by simp)]
  by_cases hends : path.endsWith "/" = true
  · obtain ⟨front, hfront⟩ := Text.endsWith_iff.mp hends
    rw [hslash] at hfront
    refine ⟨splitSlashes [] front, [[]], ?_, splitSlashes_ne_nil _ _, by simp, rfl, ?_⟩
    · rw [← hfront, splitSlashes_append]
      rfl
    · rw [if_pos hends, String.toList_append, ← hfront, List.append_assoc, List.singleton_append,
        splitSlashes_append, hjoined]
  · refine ⟨splitSlashes [] path.toList, [], by simp, splitSlashes_ne_nil _ _, ?_, rfl, ?_⟩
    · intro hone
      cases hcs : path.toList with
      | nil => exact absurd (String.toList_inj.mp hcs) hpath
      | cons c rest =>
        rw [hcs, splitSlashes] at hone
        split at hone
        · exact absurd (List.cons.inj hone).2 (splitSlashes_ne_nil _ _)
        · exact absurd hone (splitSlashes_ne_empty (by simp) _)
    · rw [if_neg hends, String.toList_append, String.toList_append, hslash, List.append_assoc,
        List.singleton_append, splitSlashes_append, hjoined]

theorem components_below {path : String} {names : List String} (hpath : path ≠ "")
    (hne : names ≠ []) (h : ∀ name ∈ names, IsName name) :
    components (below path names) = components path ++ names.map Component.name := by
  obtain ⟨front, back, hparts, hfront, hone, hback, hbelow⟩ := splitSlashes_below hpath hne h
  have hnames : (names.map String.toList).filterMap component? = names.map Component.name := by
    rw [List.filterMap_map, ← List.filterMap_eq_map]
    exact List.filterMap_congr fun name hname => component?_of_isName (h name hname)
  have hopening : openingOf (front ++ names.map String.toList) = openingOf (front ++ back) :=
    openingOf_append hfront fun heq => ⟨by simpa using hne, hone heq⟩
  rw [components_eq, components_eq, hparts, hbelow, List.filterMap_append, List.filterMap_append,
    hback, hnames, hopening, List.append_nil, List.append_assoc]

-- ---------------------------------------------------------------------------
-- Extensions
-- ---------------------------------------------------------------------------

/-- The last point parts a name, unless nothing stands before it. -/
theorem splitName_eq_some_iff {name : String} {front back : List Char} :
    splitName name = (front, some back) ↔
      front ≠ [] ∧ '.' ∉ back ∧ name.toList = front ++ '.' :: back := by
  have hsplit := List.takeWhile_append_dropWhile (p := (· != '.')) (l := name.toList.reverse)
  have hdrop : name.toList.reverse.drop (name.toList.reverse.takeWhile (· != '.')).length =
      name.toList.reverse.dropWhile (· != '.') := by
    have hleft := congrArg (List.drop (name.toList.reverse.takeWhile (· != '.')).length) hsplit
    rwa [List.drop_left, eq_comm] at hleft
  unfold splitName
  dsimp only
  rw [hdrop]
  constructor
  · intro h
    split at h
    · cases h
    · cases h
    · rename_i c before hone hbefore
      obtain ⟨rfl, hback⟩ := Prod.mk.inj h
      have hc : c = '.' := by
        have := List.head?_dropWhile_not (· != '.') name.toList.reverse
        rw [hbefore] at this
        simpa using this
      subst hc
      cases hback
      refine ⟨?_, ?_, ?_⟩
      · intro hempty
        exact hone (List.reverse_eq_nil_iff.mp hempty)
      · intro hmem
        simpa using List.all_eq_true.mp List.all_takeWhile _ (List.mem_reverse.mp hmem)
      · have hreverse := congrArg List.reverse hsplit
        rw [List.reverse_reverse, hbefore, List.reverse_append, List.reverse_cons,
          List.append_assoc, List.singleton_append] at hreverse
        exact hreverse.symm
  · rintro ⟨hfront, hback, h⟩
    have hreverse : name.toList.reverse = back.reverse ++ '.' :: front.reverse := by simp [h]
    have hplain : ∀ c ∈ back.reverse, (c != '.') = true := by
      intro c hc
      have : c ≠ '.' := fun heq => hback (heq ▸ List.mem_reverse.mp hc)
      simpa using this
    have hafter : (name.toList.reverse.takeWhile (· != '.')) = back.reverse := by
      rw [hreverse, List.takeWhile_append_of_pos hplain]
      simp
    have hbefore : name.toList.reverse.dropWhile (· != '.') = '.' :: front.reverse := by
      rw [hreverse, List.dropWhile_append_of_pos hplain]
      simp
    obtain ⟨c, rest, hrest⟩ := List.exists_cons_of_ne_nil (mt List.reverse_eq_nil_iff.mp hfront)
    rw [hbefore, hafter, hrest]
    simp [← hrest]

theorem stem_and_extension?_iff {name text extension : String} :
    stem name = text ∧ extension? name = some extension ↔
      text ≠ "" ∧ '.' ∉ extension.toList ∧ name = text ++ "." ++ extension := by
  have hpoint : ".".toList = ['.'] := rfl
  have hname : name = text ++ "." ++ extension ↔
      name.toList = text.toList ++ '.' :: extension.toList := by
    rw [← String.toList_inj, String.toList_append, String.toList_append, hpoint, List.append_assoc,
      List.singleton_append]
  have hempty : text ≠ "" ↔ text.toList ≠ [] := by
    rw [Ne, ← String.toList_inj]
    rfl
  rw [hname, hempty, ← splitName_eq_some_iff, Prod.ext_iff, stem, extension?]
  refine and_congr ?_ ?_
  · rw [← String.toList_inj, String.toList_ofList]
  · rw [Option.map_eq_some_iff]
    constructor
    · rintro ⟨back, hback, rfl⟩
      rw [hback, String.toList_ofList]
    · exact fun hback => ⟨_, hback, String.ofList_toList⟩

end FilePath

end SocketDocs
