import SocketDocs.Proofs.Directive.Readings
import SocketDocs.Proofs.DocBlock.Trimmed
import SocketDocs.Proofs.Text.Parts

/-!
# What a directive line may say

The grammar of directives without its readers: the names that it knows and what a directive takes
over from its line. A line that begins with `@` is passed over if its name is another, refused if
something is wrong with it, and else gives the directive of its name (`ofLine_accepts_exactly`).
-/

namespace SocketDocs.Directive

-- ---------------------------------------------------------------------------
-- The grammar
-- ---------------------------------------------------------------------------

def keywords : List String :=
  ["@WebSocket", "@Group", "@URL", "@Description", "@Tags", "@ConnectionParam", "@Message", "@Send",
   "@Receive", "@Direction", "@Payload", "@Example", "@Error", "@Deprecated"]

def heading (name : String) (arguments : List String) : String :=
  if name = "@Direction" then
    if arguments.head? = some "send" then "@Send" else "@Receive"
  else name

/-- A tag can stand between two commas. -/
def IsTag (tag : String) : Prop :=
  tag ≠ "" ∧ Text.IsTrimmed tag ∧ ',' ∉ tag.toList

/-- What a directive takes over from the arguments of its line, or from the text after its name. -/
def TakenFrom (arguments : List String) (rest : String) : Directive → Prop
  | .webSocket name => Text.IsWord name ∧ arguments.head? = some name
  | .group text => text = " ".intercalate arguments
  | .url text => Text.IsWord text ∧ arguments.head? = some text
  | .description text => text = rest
  | .tags names => (∀ tag ∈ names, IsTag tag) ∧
      names = (((" ".intercalate arguments).toList.splitOn ',').map fun part =>
        String.ofList (Text.trimChars part)).filter (· ≠ "")
  | .parameter found => Text.IsWord found.name ∧ Text.IsWord found.typeName ∧
      ∃ required about,
        arguments = found.name :: found.location.name :: found.typeName :: required :: about ∧
          found.required = (required == "required") ∧ found.description = " ".intercalate about
  | .message messageType => Text.IsWord messageType ∧ arguments.head? = some messageType
  | .payload (.typeRef typeName) => Text.IsWord typeName
  | .error case => Text.IsWord case.code ∧ arguments.head? = some case.code ∧
      case.description = " ".intercalate (arguments.drop 1)
  | _ => True

-- ---------------------------------------------------------------------------
-- Tags
-- ---------------------------------------------------------------------------

theorem splitCommas_eq (part cs : List Char) :
    splitCommas part cs = (cs.splitOn ',').modifyHead (part.reverse ++ ·) := by
  induction cs generalizing part with
  | nil => simp [splitCommas]
  | cons c rest ih =>
    obtain ⟨first, others, hrest⟩ := Text.exists_splitOn_eq_cons ',' rest
    rw [Text.splitOn_cons, splitCommas, ih, ih, hrest]
    by_cases hc : c = ',' <;> simp [hc]

theorem tagNames_eq (text : String) :
    tagNames text = ((text.toList.splitOn ',').map fun part =>
      String.ofList (Text.trimChars part)).filter (· ≠ "") := by
  have hparts : splitCommas [] text.toList = text.toList.splitOn ',' := by
    rw [splitCommas_eq]
    exact congrFun List.modifyHead_id _
  have hempty : ∀ part ∈ (text.toList.splitOn ',').map Text.trimChars,
      (!part.isEmpty) = ((fun tag => decide (tag ≠ "")) ∘ String.ofList) part := by
    intro part _
    rw [Bool.eq_iff_iff]
    simp
  calc tagNames text
      = (((text.toList.splitOn ',').map Text.trimChars).filter (!·.isEmpty)).map String.ofList := by
        rw [tagNames, hparts]
    _ = (((text.toList.splitOn ',').map Text.trimChars).map String.ofList).filter (· ≠ "") := by
        rw [List.filter_congr hempty]
        exact List.filter_map.symm
    _ = _ := by
        rw [List.map_map]
        rfl

theorem isTag_of_mem_tagNames {text tag : String} (h : tag ∈ tagNames text) : IsTag tag := by
  rw [tagNames_eq] at h
  obtain ⟨hmem, hne⟩ := List.mem_filter.mp h
  obtain ⟨part, hpart, rfl⟩ := List.mem_map.mp hmem
  refine ⟨by simpa using hne, ?_, ?_⟩
  · rw [Text.IsTrimmed, String.toList_ofList, Text.trimChars_trimChars]
  · rw [String.toList_ofList]
    intro hcomma
    exact (Text.of_mem_splitOn hpart ',' ((Text.trimChars_sublist part).subset hcomma)).2 rfl

-- ---------------------------------------------------------------------------
-- Directives
-- ---------------------------------------------------------------------------

theorem map_ne_ok_none {α : Type} {result : Except Cause α} {make : α → Directive} :
    (make <$> result).map some ≠ .ok none := by
  cases result <;> nofun

theorem ofParts_eq_none_iff {name rest : String} {arguments body : List String} :
    ofParts name arguments rest body = .ok none ↔ name ∉ keywords := by
  unfold ofParts
  dsimp only
  split
  case h_15 => simp_all [keywords]
  all_goals simp [map_ne_ok_none, keywords]

theorem head?_of_readDirection {arguments : List String} {way : Direction}
    (h : readDirection arguments = .ok way) : arguments.head? = some way.name := by
  cases arguments with
  | nil => cases h
  | cons token later =>
    rw [readDirection_cons] at h
    cases hway : Direction.ofName? token with
    | none =>
      rw [hway] at h
      cases h
    | some other =>
      rw [hway] at h
      cases h
      exact congrArg some (Direction.eq_name_of_ofName? hway)

theorem keyword_of_ofParts {name rest : String} {arguments body : List String} {found : Directive}
    (h : ofParts name arguments rest body = .ok (some found)) :
    found.keyword = heading name arguments := by
  unfold ofParts at h
  dsimp only at h
  split at h
  case h_10 =>
    obtain ⟨way, hway, rfl⟩ := map_some_eq_ok h
    rw [heading, head?_of_readDirection hway]
    cases way <;> rfl
  case h_4 | h_8 | h_9 | h_14 =>
    cases h
    rfl
  case h_15 => cases h
  all_goals
    obtain ⟨a, -, rfl⟩ := map_some_eq_ok h
    rfl

theorem readParameter_eq_ok {arguments : List String} {found : Parameter}
    (h : readParameter arguments = .ok found) :
    ∃ required about,
      arguments = found.name :: found.location.name :: found.typeName :: required :: about ∧
        found.required = (required == "required") ∧ found.description = " ".intercalate about := by
  unfold readParameter at h
  split at h
  · rename_i owner token typeName required about
    split at h
    · rename_i place hplace
      cases h
      exact ⟨required, about, by rw [← Location.eq_name_of_ofName? hplace], rfl, rfl⟩
    · cases h
  · cases h

theorem readError_eq_ok {arguments body : List String} {case : ErrorCase}
    (h : readError arguments body = .ok case) :
    arguments.head? = some case.code ∧ case.description = " ".intercalate (arguments.drop 1) := by
  cases arguments with
  | nil => cases h
  | cons code about =>
    cases h
    exact ⟨rfl, rfl⟩

theorem isWord_of_readPayload {text typeName : String}
    (h : readPayload text = .ok (.typeRef typeName)) : Text.IsWord typeName := by
  unfold readPayload at h
  split at h
  · cases h
  · split at h
    · cases h
    · split at h
      · rename_i first later hwords
        cases h
        exact Text.isWord_of_mem_words (hwords ▸ List.mem_cons_self ..)
      · cases h

theorem takenFrom_of_stated {arguments body : List String} {rest : String} {found : Directive}
    (hwords : ∀ argument ∈ arguments, Text.IsWord argument)
    (h : Stated arguments rest body found) : TakenFrom arguments rest found := by
  cases found with
  | webSocket name => exact ⟨hwords name (List.mem_of_head? h), h⟩
  | group text => exact h.2
  | url text => exact ⟨hwords text (List.mem_of_head? h), h⟩
  | description text => exact h
  | tags names =>
    obtain ⟨-, rfl⟩ := h
    exact ⟨fun tag => isTag_of_mem_tagNames, tagNames_eq _⟩
  | parameter found =>
    obtain ⟨required, about, harguments, hrest⟩ := readParameter_eq_ok h
    refine ⟨hwords _ ?_, hwords _ ?_, required, about, harguments, hrest⟩
    · rw [harguments]
      exact List.mem_cons_self ..
    · rw [harguments]
      exact List.mem_cons_of_mem _ (List.mem_cons_of_mem _ (List.mem_cons_self ..))
  | message messageType => exact ⟨hwords messageType (List.mem_of_head? h), h⟩
  | direction way => trivial
  | payload source =>
    cases source with
    | inline value => trivial
    | typeRef typeName => exact isWord_of_readPayload h
  | sample value => trivial
  | error case =>
    obtain ⟨hcode, habout⟩ := readError_eq_ok h
    exact ⟨hwords _ (List.mem_of_head? hcode), hcode, habout⟩
  | deprecated => trivial

-- ---------------------------------------------------------------------------
-- Lines
-- ---------------------------------------------------------------------------

theorem readingOf_eq_foreign_iff {result : Except Cause (Option Directive)} :
    readingOf result = .foreign ↔ result = .ok none := by
  rcases result with cause | _ | found <;> simp [readingOf]

theorem readingOf_eq_malformed_iff {result : Except Cause (Option Directive)} {cause : Cause} :
    readingOf result = .malformed cause ↔ result = .error cause := by
  rcases result with other | _ | found <;> simp [readingOf]

/-- A line that begins with `@` is passed over if its name is none of the grammar's, refused for
what is wrong with it, and otherwise gives the directive of its name. -/
theorem ofLine_accepts_exactly {line : String} (hopen : opensDirective line = true)
    (body : List String) :
    ∃ name arguments tail, Text.words line = name :: arguments ∧ line = name ++ tail ∧
      (ofLine line body = .foreign ↔ name ∉ keywords) ∧
      (∀ cause, ofLine line body = .malformed cause ↔
        Faulty name arguments (Text.trim tail) body cause) ∧
      (name ∈ keywords → (∀ cause, ¬ Faulty name arguments (Text.trim tail) body cause) →
        ∃ found, ofLine line body = .directive found ∧ found.keyword = heading name arguments ∧
          TakenFrom arguments (Text.trim tail) found) := by
  have hhead : line.toList.head? = some '@' := by simpa [opensDirective] using hopen
  obtain ⟨name, arguments, hwords⟩ := words_of_opens hopen
  have hname := hwords
  rw [Text.words_cons hhead (by decide), List.cons.injEq] at hname
  have hargument : ∀ argument ∈ arguments, Text.IsWord argument := fun argument hmem =>
    Text.isWord_of_mem_words (hwords ▸ List.mem_cons_of_mem _ hmem)
  have hread := ofLine_of_opens hopen hwords body
  refine ⟨name, arguments, String.ofList (line.toList.dropWhile (!Text.isBlank ·)), hwords, ?_, ?_⟩
  · rw [← hname.1, ← String.ofList_append, List.takeWhile_append_dropWhile, String.ofList_toList]
  rw [hread, Text.trim, String.toList_ofList]
  generalize String.ofList (Text.trimChars (line.toList.dropWhile (!Text.isBlank ·))) = rest
  refine ⟨?_, fun cause => ?_, fun hknown hsound => ?_⟩
  · exact readingOf_eq_foreign_iff.trans ofParts_eq_none_iff
  · exact readingOf_eq_malformed_iff.trans ofParts_eq_error_iff
  · cases hparts : ofParts name arguments rest body with
    | error cause => exact absurd (ofParts_eq_error_iff.mp hparts) (hsound cause)
    | ok result =>
      cases result with
      | none => exact absurd hknown (ofParts_eq_none_iff.mp hparts)
      | some found =>
        exact ⟨found, rfl, keyword_of_ofParts hparts,
          takenFrom_of_stated hargument (stated_of_ofParts hparts)⟩

/-- A parameter in the path of the address, where none can stand. -/
theorem ofLine_accepts_exactly_location :
    opensDirective "@ConnectionParam id path int required" = true ∧
      ofLine "@ConnectionParam id path int required" [] =
        .malformed (.unknownLocation "id" "path") := by
  have hopen : opensDirective "@ConnectionParam id path int required" = true := by decide
  obtain ⟨name, arguments, tail, hwords, -, -, hmalformed, -⟩ := ofLine_accepts_exactly hopen []
  have hsplit : Text.words "@ConnectionParam id path int required" =
      ["@ConnectionParam", "id", "path", "int", "required"] := by
    decide
  rw [hsplit] at hwords
  obtain ⟨rfl, rfl⟩ := List.cons.inj hwords
  exact ⟨hopen, (hmalformed _).mpr ⟨rfl, by decide, rfl, rfl, by decide⟩⟩

end SocketDocs.Directive
