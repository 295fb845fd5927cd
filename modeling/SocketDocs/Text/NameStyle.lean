import SocketDocs.Text.Alphanumeric
import SocketDocs.Text.CaseMap

/-!
# Name styles

A renaming rule spells an identifier in a fixed style. Two styles change the case of the whole
name; the others cut it into words first, at every character that is no letter or digit, between a
small and a capital letter, and before the last of several capitals that a small letter follows
(`HTTPServer` is `HTTP`, `Server`).
-/

namespace SocketDocs.Text

inductive WordMode where
  | boundary
  | lower
  | upper
  deriving DecidableEq, Repr

def WordMode.after (mode : WordMode) (c : Char) : WordMode :=
  if isLowercase c then .lower else if isUppercase c then .upper else mode

/-- Cuts a run of letters and digits into words. `word` holds the current word in reverse. -/
def cutWords (mode : WordMode) (word : List Char) : List Char → List (List Char)
  | [] => []
  | [c] => [(c :: word).reverse]
  | c :: next :: rest =>
    if mode.after c = .lower && isUppercase next then
      (c :: word).reverse :: cutWords .boundary [] (next :: rest)
    else if mode = .upper && isUppercase c && isLowercase next then
      word.reverse :: cutWords .boundary [c] (next :: rest)
    else cutWords (mode.after c) (c :: word) (next :: rest)

def alphanumericRuns (run : List Char) : List Char → List (List Char)
  | [] => [run.reverse]
  | c :: rest =>
    if isAlphanumeric c then alphanumericRuns (c :: run) rest
    else run.reverse :: alphanumericRuns [] rest

def nameWords (name : List Char) : List (List Char) :=
  (alphanumericRuns [] name).flatMap (cutWords .boundary [])

/-- A word in small letters. Its last letter, if a capital sigma, becomes the final sigma. -/
def lowerWord : List Char → List Char
  | [] => []
  | [c] => if c = capitalSigma then [finalSigma] else lowerChar c
  | c :: next :: rest => lowerChar c ++ lowerWord (next :: rest)

def upperWord (word : List Char) : List Char :=
  upperChars word

def capitalWord : List Char → List Char
  | [] => []
  | c :: rest => upperChar c ++ lowerWord rest

inductive NameStyle where
  | lowercase
  | uppercase
  | pascal
  | camel
  | snake
  | screamingSnake
  | kebab
  | screamingKebab
  deriving DecidableEq, Repr

namespace NameStyle

/-- The style that a renaming rule names. Any other rule leaves names as they are. -/
def ofRule? : String → Option NameStyle
  | "lowercase" => some .lowercase
  | "UPPERCASE" => some .uppercase
  | "PascalCase" => some .pascal
  | "camelCase" => some .camel
  | "snake_case" => some .snake
  | "SCREAMING_SNAKE_CASE" => some .screamingSnake
  | "kebab-case" => some .kebab
  | "SCREAMING-KEBAB-CASE" => some .screamingKebab
  | _ => none

def joined (separator : List Char) (wordList : List (List Char)) : List Char :=
  separator.intercalate wordList

def camelWords : List (List Char) → List Char
  | [] => []
  | first :: others => lowerWord first ++ others.flatMap capitalWord

def applyChars (style : NameStyle) (name : List Char) : List Char :=
  match style with
  | .lowercase => lowerChars name
  | .uppercase => upperChars name
  | .pascal => (nameWords name).flatMap capitalWord
  | .camel => camelWords (nameWords name)
  | .snake => joined ['_'] ((nameWords name).map lowerWord)
  | .screamingSnake => joined ['_'] ((nameWords name).map upperWord)
  | .kebab => joined ['-'] ((nameWords name).map lowerWord)
  | .screamingKebab => joined ['-'] ((nameWords name).map upperWord)

def apply (style : NameStyle) (name : String) : String :=
  String.ofList (style.applyChars name.toList)

end NameStyle

def renamed (rule name : String) : String :=
  match NameStyle.ofRule? rule with
  | some style => style.apply name
  | none => name

end SocketDocs.Text
