import SocketDocs.Proofs.Directive.Literals

/-!
# Blocks read by position

A reader that goes by positions fails where a line, a word or a byte that it asks for is not there,
or where a byte position falls inside a character. Here `none` stands for that. The readers by
position ask for nothing that is missing (`ofBlock?_eq`): a count or a look at the ends of the text
comes before each access, and the cut after the name of a directive relies on the line opening with
it, which the loop over the lines makes sure of.
-/

namespace SocketDocs

-- ---------------------------------------------------------------------------
-- Bytes
-- ---------------------------------------------------------------------------

namespace Text

/-- The characters that fill exactly the first `count` bytes; `none` if that would cut a character or
go past the end. -/
def takeBytes? (count : Nat) : List Char → Option (List Char)
  | [] => if count = 0 then some [] else none
  | c :: rest =>
    if count = 0 then some []
    else if c.utf8Size ≤ count then (takeBytes? (count - c.utf8Size) rest).map (c :: ·)
    else none

def sliceBytes? (first stop : Nat) (cs : List Char) : Option (List Char) :=
  if first ≤ stop then (takeBytes? stop cs).bind (dropBytes? first) else none

theorem byteLength_append (front back : List Char) :
    byteLength (front ++ back) = byteLength front + byteLength back := by
  induction front with
  | nil => simp [byteLength]
  | cons c front ih => rw [List.cons_append, byteLength, byteLength, ih, Nat.add_assoc]

theorem takeBytes?_append (front back : List Char) :
    takeBytes? (byteLength front) (front ++ back) = some front := by
  induction front with
  | nil => cases back <;> rfl
  | cons c front ih =>
    have hpos : 0 < c.utf8Size := Char.utf8Size_pos c
    rw [byteLength, List.cons_append, takeBytes?, if_neg (by omega), if_pos (by omega),
      Nat.add_sub_cancel_left, ih]
    rfl

theorem sliceBytes?_middle (front middle back : List Char) :
    sliceBytes? (byteLength front) (byteLength front + byteLength middle)
      (front ++ middle ++ back) = some middle := by
  rw [sliceBytes?, if_pos (Nat.le_add_right ..), ← byteLength_append, takeBytes?_append,
    Option.bind_some, dropBytes?_append]

end Text

-- ---------------------------------------------------------------------------
-- Quotes
-- ---------------------------------------------------------------------------

namespace Literal

def unquoted? (cs : List Char) : Option (List Char) :=
  if 1 < Text.byteLength cs && cs.head? == some '"' && cs.getLast? == some '"' then
    Text.sliceBytes? 1 (Text.byteLength cs - 1) cs
  else some cs

theorem isQuoted_iff {cs : List Char} :
    (1 < Text.byteLength cs && cs.head? == some '"' && cs.getLast? == some '"') = true ↔
      ∃ middle, cs = ['"'] ++ middle ++ ['"'] := by
  simp only [Bool.and_eq_true, decide_eq_true_eq, beq_iff_eq]
  constructor
  · rintro ⟨⟨hlength, hhead⟩, hlast⟩
    obtain ⟨rest, rfl⟩ := List.head?_eq_some_iff.mp hhead
    rcases List.eq_nil_or_concat rest with rfl | ⟨middle, last, rfl⟩
    · -- A quote alone takes one byte.
      exact absurd hlength (by decide)
    · rw [List.concat_eq_append, ← List.cons_append, List.getLast?_concat] at hlast
      cases hlast
      exact ⟨middle, by simp⟩
  · rintro ⟨middle, rfl⟩
    rw [Text.byteLength_append, Text.byteLength_append]
    have hquote : Text.byteLength ['"'] = 1 := by decide
    exact ⟨⟨by omega, rfl⟩, List.getLast?_concat⟩

theorem unquoted_of_not_quoted {cs : List Char} (h : ¬∃ middle, cs = ['"'] ++ middle ++ ['"']) :
    unquoted cs = cs := by
  unfold unquoted
  split
  · rename_i rest
    refine if_neg fun hlast => h ?_
    obtain ⟨middle, rfl⟩ := List.getLast?_eq_some_iff.mp (beq_iff_eq.mp hlast)
    exact ⟨middle, rfl⟩
  · rfl

theorem unquoted?_eq (cs : List Char) : unquoted? cs = some (unquoted cs) := by
  unfold unquoted?
  split
  · rename_i hquoted
    obtain ⟨middle, rfl⟩ := isQuoted_iff.mp hquoted
    have hquote : Text.byteLength ['"'] = 1 := by decide
    have hslice := Text.sliceBytes?_middle ['"'] middle ['"']
    have hunquoted : unquoted (['"'] ++ middle ++ ['"']) = middle := by simp [unquoted]
    rw [Text.byteLength_append, Text.byteLength_append, hquote, Nat.add_sub_cancel, hunquoted]
    rwa [hquote] at hslice
  · rename_i hquoted
    rw [unquoted_of_not_quoted (mt isQuoted_iff.mpr hquoted)]

def value? (text : String) : Option Json.Value :=
  (unquoted? text.toList).map valueOfChars

theorem value?_eq (text : String) : value? text = some (value text) := by
  rw [value?, unquoted?_eq]
  rfl

end Literal

namespace Directive

-- ---------------------------------------------------------------------------
-- Words
-- ---------------------------------------------------------------------------

def from? (arguments : List String) (start : Nat) : Option (List String) :=
  if start ≤ arguments.length then some (arguments.drop start) else none

def readParameter? (arguments : List String) : Option (Except Cause Parameter) :=
  if arguments.length < 4 then some (.error (.fewArguments arguments.length))
  else do
    let name ← arguments[0]?
    let location ← arguments[1]?
    match Location.ofName? location with
    | none => return .error (.unknownLocation name location)
    | some place =>
      let typeName ← arguments[2]?
      let required ← arguments[3]?
      let about ← from? arguments 4
      return .ok {
        name, location := place, typeName
        required := required == "required"
        description := " ".intercalate about }

def readSample? (literal : String) : Option (Except Cause Json.Value) :=
  if literal.isEmpty then some (.error .noSample) else (Literal.value? literal).map .ok

def readError? (arguments body : List String) : Option (Except Cause ErrorCase) :=
  match firstArgument "@Error" arguments with
  | .error cause => some (.error cause)
  | .ok code => do
    let sample ←
      if body.isEmpty then some none else (Literal.value? ("\n".intercalate body)).map some
    let about ← from? arguments 1
    return .ok { code, description := " ".intercalate about, sample }

theorem exists_four_of_le {arguments : List String} (h : 4 ≤ arguments.length) :
    ∃ name location typeName required about,
      arguments = name :: location :: typeName :: required :: about := by
  rcases arguments with _ | ⟨name, _ | ⟨location, _ | ⟨typeName, _ | ⟨required, about⟩⟩⟩⟩
  case cons.cons.cons.cons => exact ⟨name, location, typeName, required, about, rfl⟩
  all_goals simp at h

theorem readParameter?_eq (arguments : List String) :
    readParameter? arguments = some (readParameter arguments) := by
  unfold readParameter?
  split
  · rename_i hfew
    rw [readParameter]
    rintro name location typeName required about rfl
    simp only [List.length_cons] at hfew
    omega
  · rename_i hcount
    obtain ⟨name, location, typeName, required, about, rfl⟩ := exists_four_of_le (not_lt.mp hcount)
    cases hplace : Location.ofName? location <;> simp [readParameter, hplace, from?]

theorem readSample?_eq (literal : String) : readSample? literal = some (readSample literal) := by
  unfold readSample? readSample
  split
  · rfl
  · rw [Literal.value?_eq]
    rfl

theorem readError?_eq (arguments body : List String) :
    readError? arguments body = some (readError arguments body) := by
  unfold readError? readError
  cases arguments with
  | nil => rfl
  | cons code about =>
    cases hbody : body.isEmpty <;>
      simp [firstArgument, from?, Literal.value?_eq, bind, Except.bind, pure, Except.pure]

/-- The readers of the other names access nothing by position. -/
def ofParts? (name : String) (arguments : List String) (rest : String) (body : List String) :
    Option (Except Cause (Option Directive)) :=
  match name with
  | "@ConnectionParam" => (readParameter? arguments).map fun found => (.parameter <$> found).map some
  | "@Example" =>
    (readSample? (literalText rest body)).map fun found => (.sample <$> found).map some
  | "@Error" => (readError? arguments body).map fun found => (.error <$> found).map some
  | _ => some (ofParts name arguments rest body)

theorem ofParts?_eq (name : String) (arguments : List String) (rest : String)
    (body : List String) :
    ofParts? name arguments rest body = some (ofParts name arguments rest body) := by
  unfold ofParts?
  split
  · rw [readParameter?_eq]
    rfl
  · rw [readSample?_eq]
    rfl
  · rw [readError?_eq]
    rfl
  · rfl

def ofLine? (line : String) (body : List String) : Option Reading :=
  match Text.words line with
  | [] => some .foreign
  | name :: arguments => do
    let rest ← Text.dropBytes? (Text.byteLength name.toList) line.toList
    let found ← ofParts? name arguments (String.ofList (Text.trimChars rest)) body
    return readingOf found

theorem exists_cut_of_opens {line : String} (h : opensDirective line = true) :
    ∃ name arguments rest, Text.words line = name :: arguments ∧
      line.toList = name.toList ++ rest ∧
      Text.dropBytes? (Text.byteLength name.toList) line.toList = some rest := by
  have hhead : line.toList.head? = some '@' := by simpa [opensDirective] using h
  refine ⟨_, _, line.toList.dropWhile (!Text.isBlank ·), Text.words_cons hhead (by decide), ?_, ?_⟩
  · rw [String.toList_ofList, List.takeWhile_append_dropWhile]
  · rw [String.toList_ofList]
    exact Text.dropBytes?_takeWhile ..

theorem ofLine?_eq {line : String} (h : opensDirective line = true) (body : List String) :
    ofLine? line body = some (ofLine line body) := by
  obtain ⟨name, arguments, rest, hwords, -, hcut⟩ := exists_cut_of_opens h
  simp only [ofLine?, ofLine, hwords, hcut, ofParts?_eq, Option.bind_eq_bind, Option.bind_some]
  rfl

/-- Behind wide blanks the cut can fall inside a character. -/
example : ofLine? "\u2003\u2003@Tags a" [] = none := by
  decide +kernel

-- ---------------------------------------------------------------------------
-- Lines
-- ---------------------------------------------------------------------------

def bodyFrom? (lines : List String) (i : Nat) : Option (List String) :=
  if i < lines.length then do
    let line ← lines[i]?
    if opensDirective line then return []
    else return line :: (← bodyFrom? lines (i + 1))
  else some []
termination_by lines.length - i

def blockFrom? (lines : List String) (i : Nat) : Option (List Directive × List Cause) :=
  if i < lines.length then do
    let line ← lines[i]?
    if opensDirective line then
      let body ← bodyFrom? lines (i + 1)
      let reading ← ofLine? line body
      let later ← blockFrom? lines (i + 1 + body.length)
      return collect reading later
    else blockFrom? lines (i + 1)
  else some ([], [])
termination_by lines.length - i

def ofBlock? (lines : List String) : Option (List Directive × List Cause) :=
  blockFrom? lines 0

theorem bodyFrom?_eq (lines : List String) (i : Nat) :
    bodyFrom? lines i = some ((lines.drop i).takeWhile (!opensDirective ·)) := by
  fun_induction bodyFrom? lines i with
  | case1 i hlt ih =>
    rw [List.getElem?_eq_getElem hlt, List.drop_eq_getElem_cons hlt, ih]
    cases hopen : opensDirective lines[i] with
    | true => rw [List.takeWhile_cons_of_neg (by simp [hopen])]; simp [hopen]
    | false => rw [List.takeWhile_cons_of_pos (by simp [hopen])]; simp [hopen]
  | case2 i hend =>
    rw [List.drop_eq_nil_of_le (not_lt.mp hend), List.takeWhile_nil]

theorem ofBlock_cons_of_opens {line : String} (h : opensDirective line = true)
    (rest : List String) :
    ofBlock (line :: rest) =
      collect (ofLine line (rest.takeWhile (!opensDirective ·))) (ofBlock rest) := by
  simp [ofBlock, segments, h]

theorem ofBlock_cons_of_not_opens {line : String} (h : opensDirective line = false)
    (rest : List String) : ofBlock (line :: rest) = ofBlock rest := by
  simp [ofBlock, segments, h]

theorem ofBlock_drop_body (lines : List String) :
    ofBlock (lines.drop (lines.takeWhile (!opensDirective ·)).length) = ofBlock lines := by
  induction lines with
  | nil => rfl
  | cons line rest ih =>
    cases hopen : opensDirective line with
    | true => simp [hopen]
    | false => simpa [hopen, ofBlock_cons_of_not_opens hopen] using ih

theorem blockFrom?_eq (lines : List String) (i : Nat) :
    blockFrom? lines i = some (ofBlock (lines.drop i)) := by
  fun_induction blockFrom? lines i with
  | case1 i hlt ihbody ih =>
    rw [List.getElem?_eq_getElem hlt, List.drop_eq_getElem_cons hlt, ih]
    cases hopen : opensDirective lines[i] with
    | true =>
      -- The loop goes on behind the literal lines.
      have hbehind := ofBlock_drop_body (lines.drop (i + 1))
      rw [List.drop_drop] at hbehind
      have hlater := ihbody ((lines.drop (i + 1)).takeWhile (!opensDirective ·))
      rw [hbehind] at hlater
      rw [ofBlock_cons_of_opens hopen, Option.bind_eq_bind, Option.bind_some, if_pos hopen,
        bodyFrom?_eq, Option.bind_eq_bind, Option.bind_some, ofLine?_eq hopen,
        Option.bind_eq_bind, Option.bind_some, hlater]
      rfl
    | false =>
      rw [ofBlock_cons_of_not_opens hopen]
      simp [hopen]
  | case2 i hend =>
    rw [List.drop_eq_nil_of_le (not_lt.mp hend)]
    rfl

/-- Reading a block by position, nothing that is asked for is missing. -/
theorem ofBlock?_eq (lines : List String) : ofBlock? lines = some (ofBlock lines) :=
  blockFrom?_eq lines 0

end Directive

end SocketDocs
