import SocketDocs.Proofs.Directive.Literals
import SocketDocs.Proofs.Text.Parts

/-!
# What is wrong with a directive line

The causes for which a line of the grammar is refused, told without the readers: a name that lacks
its argument, a word that is none of the words known in its place, a literal that is missing. The
readers refuse for these causes and no others (`ofParts_eq_error_iff`).
-/

namespace SocketDocs.Directive

def argumentKeywords : List String :=
  ["@WebSocket", "@Group", "@URL", "@Tags", "@Message", "@Direction", "@Error"]

/-- What is wrong with a line of a known name. `rest` is the text after the name. -/
def Faulty (name : String) (arguments : List String) (rest : String) (body : List String) :
    Cause → Prop
  | .noArgument keyword => keyword = name ∧ name ∈ argumentKeywords ∧ arguments = []
  | .unknownDirection token =>
    name = "@Direction" ∧ arguments.head? = some token ∧ token ∉ ["send", "receive"]
  | .noSample => name = "@Example" ∧ rest = "" ∧ (body = [] ∨ body = [""])
  | .noPayload =>
    name = "@Payload" ∧ ∀ line ∈ rest :: body, ∀ c ∈ line.toList, Text.isBlank c = true
  | .fewArguments count => name = "@ConnectionParam" ∧ arguments.length = count ∧ count < 4
  | .unknownLocation owner token =>
    name = "@ConnectionParam" ∧ 4 ≤ arguments.length ∧ arguments[0]? = some owner ∧
      arguments[1]? = some token ∧ token ∉ ["query", "header"]
  | _ => False

-- ---------------------------------------------------------------------------
-- Literals
-- ---------------------------------------------------------------------------

theorem blank_literalText_iff {rest : String} {body : List String} :
    (∀ c ∈ (literalText rest body).toList, Text.isBlank c = true) ↔
      ∀ line ∈ rest :: body, ∀ c ∈ line.toList, Text.isBlank c = true := by
  have hbreak : ∀ c ∈ "\n".toList, Text.isBlank c = true := List.all_eq_true.mp (by decide)
  unfold literalText
  split
  · rename_i hbody
    simp [List.isEmpty_iff.mp hbody]
  · rw [String.toList_intercalate, Text.forall_mem_intercalate hbreak]
    split
    · rename_i hrest
      simp [String.isEmpty_iff.mp hrest]
    · simp

theorem literalText_eq_empty_iff {rest : String} {body : List String} :
    literalText rest body = "" ↔ rest = "" ∧ (body = [] ∨ body = [""]) := by
  unfold literalText
  split
  · rename_i hbody
    simp [List.isEmpty_iff.mp hbody]
  · rename_i hbody
    rw [← String.toList_eq_nil_iff, String.toList_intercalate,
      Text.intercalate_eq_nil_iff (by decide)]
    split
    · rename_i hrest
      simp [String.isEmpty_iff.mp hrest]
    · rename_i hrest
      have hne : rest ≠ "" := mt String.isEmpty_iff.mpr hrest
      simp [hne]

-- ---------------------------------------------------------------------------
-- Refusals
-- ---------------------------------------------------------------------------

theorem location_eq_none_iff {token : String} :
    Location.ofName? token = none ↔ token ∉ ["query", "header"] := by
  unfold Location.ofName?
  split <;> simp_all

theorem direction_eq_none_iff {token : String} :
    Direction.ofName? token = none ↔ token ∉ ["send", "receive"] := by
  unfold Direction.ofName?
  split <;> simp_all

theorem firstArgument_eq_error_iff {keyword : String} {arguments : List String} {cause : Cause} :
    firstArgument keyword arguments = .error cause ↔
      arguments = [] ∧ cause = .noArgument keyword := by
  cases arguments <;> simp [firstArgument, @eq_comm _ cause]

theorem joinedArguments_eq_error_iff {keyword : String} {arguments : List String}
    {cause : Cause} :
    joinedArguments keyword arguments = .error cause ↔
      arguments = [] ∧ cause = .noArgument keyword := by
  cases arguments <;> simp [joinedArguments, @eq_comm _ cause]

theorem readError_eq_error_iff {arguments body : List String} {cause : Cause} :
    readError arguments body = .error cause ↔ arguments = [] ∧ cause = .noArgument "@Error" := by
  cases arguments with
  | nil => simp [readError, firstArgument, bind, Except.bind, @eq_comm _ cause]
  | cons code about => simp [readError, firstArgument, bind, Except.bind, pure, Except.pure]

theorem readDirection_cons (token : String) (later : List String) :
    readDirection (token :: later) =
      (Direction.ofName? token).elim (.error (.unknownDirection token)) .ok := by
  simp only [readDirection, firstArgument, bind, Except.bind]
  cases Direction.ofName? token <;> rfl

theorem readDirection_eq_error_iff {arguments : List String} {cause : Cause} :
    readDirection arguments = .error cause ↔
      (arguments = [] ∧ cause = .noArgument "@Direction") ∨
        ∃ token, arguments.head? = some token ∧ token ∉ ["send", "receive"] ∧
          cause = .unknownDirection token := by
  cases arguments with
  | nil => simp [readDirection, firstArgument, bind, Except.bind, @eq_comm _ cause]
  | cons token later =>
    rw [readDirection_cons]
    cases hway : Direction.ofName? token with
    | some way =>
      have hknown : ¬ token ∉ ["send", "receive"] := by
        rw [← direction_eq_none_iff, hway]
        exact Option.some_ne_none way
      constructor
      · intro h
        cases h
      · rintro (⟨h, -⟩ | ⟨other, hother, hmem, -⟩)
        · cases h
        · cases hother
          exact absurd hmem hknown
    | none =>
      constructor
      · intro h
        cases h
        exact .inr ⟨token, rfl, direction_eq_none_iff.mp hway, rfl⟩
      · rintro (⟨h, -⟩ | ⟨other, hother, -, rfl⟩)
        · cases h
        · cases hother
          rfl

theorem readParameter_eq_error_iff {arguments : List String} {cause : Cause} :
    readParameter arguments = .error cause ↔
      (arguments.length < 4 ∧ cause = .fewArguments arguments.length) ∨
        ∃ owner token, 4 ≤ arguments.length ∧ arguments[0]? = some owner ∧
          arguments[1]? = some token ∧ token ∉ ["query", "header"] ∧
          cause = .unknownLocation owner token := by
  unfold readParameter
  split
  · rename_i owner token typeName required about
    have hlength : ¬ (owner :: token :: typeName :: required :: about).length < 4 := by
      simp
    split
    · rename_i place hplace
      refine ⟨nofun, ?_⟩
      rintro (⟨h, -⟩ | ⟨_, other, -, -, hother, hmem, -⟩)
      · exact absurd h hlength
      · cases hother
        rw [location_eq_none_iff.mpr hmem] at hplace
        cases hplace
    · rename_i hplace
      constructor
      · intro h
        cases h
        exact .inr ⟨owner, token, Nat.not_lt.mp hlength, rfl, rfl, location_eq_none_iff.mp hplace, rfl⟩
      · rintro (⟨h, -⟩ | ⟨_, _, -, hfirst, hsecond, -, rfl⟩)
        · exact absurd h hlength
        · cases hfirst
          cases hsecond
          rfl
  · rename_i hshape
    have hlength : arguments.length < 4 := by
      rcases arguments with _ | ⟨_, _ | ⟨_, _ | ⟨_, _ | ⟨_, _⟩⟩⟩⟩
      · simp
      · simp
      · simp
      · simp
      · exact absurd rfl (hshape _ _ _ _ _)
    constructor
    · intro h
      cases h
      exact .inl ⟨hlength, rfl⟩
    · rintro (⟨-, rfl⟩ | ⟨_, _, h, -⟩)
      · rfl
      · omega

theorem readSample_eq_error_iff {rest : String} {body : List String} {cause : Cause} :
    readSample (literalText rest body) = .error cause ↔
      (rest = "" ∧ (body = [] ∨ body = [""])) ∧ cause = .noSample := by
  rw [← literalText_eq_empty_iff, ← String.isEmpty_iff]
  cases h : (literalText rest body).isEmpty <;> simp [readSample, h, @eq_comm _ cause]

theorem readPayload_eq_error_iff_words {text : String} {cause : Cause} :
    readPayload text = .error cause ↔ Text.words text = [] ∧ cause = .noPayload := by
  cases hempty : text.isEmpty with
  | true =>
    rw [String.isEmpty_iff] at hempty
    subst hempty
    simp [readPayload, Text.words, Text.wordsFrom, @eq_comm _ cause]
  | false =>
    rw [readPayload, hempty, if_neg Bool.false_ne_true, ← opensLiteral_eq_front hempty]
    cases hopens : DocBlock.opensLiteral text.toList with
    | true =>
      obtain ⟨c, rest, hchars, hc⟩ := exists_cons_of_opensLiteral hopens
      have hvisible : ¬ ∀ c ∈ text.toList, Text.isBlank c = true := by
        intro h
        have hblank := h c (hchars ▸ List.mem_cons_self ..)
        rcases hc with rfl | rfl <;> exact absurd hblank (by decide)
      simp [Text.words_eq_nil_iff, hvisible]
    | false => cases Text.words text <;> simp [@eq_comm _ cause]

theorem readPayload_eq_error_iff {rest : String} {body : List String} {cause : Cause} :
    readPayload (literalText rest body) = .error cause ↔
      (∀ line ∈ rest :: body, ∀ c ∈ line.toList, Text.isBlank c = true) ∧ cause = .noPayload := by
  rw [← blank_literalText_iff, ← Text.words_eq_nil_iff, readPayload_eq_error_iff_words]

theorem map_eq_error_iff {α : Type} {result : Except Cause α} {make : α → Directive}
    {cause : Cause} : (make <$> result).map some = .error cause ↔ result = .error cause := by
  cases result <;> simp [Functor.map, Except.map]

theorem ofParts_eq_error_iff {name rest : String} {arguments body : List String} {cause : Cause} :
    ofParts name arguments rest body = .error cause ↔ Faulty name arguments rest body cause := by
  unfold ofParts
  dsimp only
  split
  case h_1 | h_3 | h_7 =>
    rw [map_eq_error_iff, firstArgument_eq_error_iff]
    cases cause <;> simp [Faulty, argumentKeywords, and_comm]
  case h_2 | h_5 =>
    rw [map_eq_error_iff, joinedArguments_eq_error_iff]
    cases cause <;> simp [Faulty, argumentKeywords, and_comm]
  case h_6 =>
    rw [map_eq_error_iff, readParameter_eq_error_iff]
    cases cause <;> simp [Faulty, argumentKeywords, and_comm]
    omega
  case h_10 =>
    rw [map_eq_error_iff, readDirection_eq_error_iff]
    cases cause <;> simp [Faulty, argumentKeywords, and_comm]
  case h_11 =>
    rw [map_eq_error_iff, readPayload_eq_error_iff]
    cases cause <;> simp [Faulty, argumentKeywords, and_comm]
  case h_12 =>
    rw [map_eq_error_iff, readSample_eq_error_iff]
    cases cause <;> simp [Faulty, argumentKeywords, and_comm]
  case h_13 =>
    rw [map_eq_error_iff, readError_eq_error_iff]
    cases cause <;> simp [Faulty, argumentKeywords, and_comm]
  -- The other names refuse nothing.
  case h_4 | h_8 | h_9 | h_14 => cases cause <;> simp [Faulty, argumentKeywords]
  case h_15 => cases cause <;> simp_all [Faulty, argumentKeywords]

end SocketDocs.Directive
