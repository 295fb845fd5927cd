import SocketDocs.Text.CodeRange

/-!
# Blank characters

Blank means the Unicode property `White_Space`. Trimming and splitting into words use this class
everywhere, so a no-break space separates words just as a plain space does.
-/

namespace SocketDocs.Text

def blankRanges : List CodeRange :=
  [⟨0x09, 0x0D, 1⟩, ⟨0x20, 0x20, 1⟩, ⟨0x85, 0x85, 1⟩, ⟨0xA0, 0xA0, 1⟩, ⟨0x1680, 0x1680, 1⟩,
   ⟨0x2000, 0x200A, 1⟩, ⟨0x2028, 0x2029, 1⟩, ⟨0x202F, 0x202F, 1⟩, ⟨0x205F, 0x205F, 1⟩,
   ⟨0x3000, 0x3000, 1⟩]

def isBlank (c : Char) : Bool :=
  inRanges blankRanges c

def trimLeft (cs : List Char) : List Char :=
  cs.dropWhile isBlank

def trimRight (cs : List Char) : List Char :=
  (cs.reverse.dropWhile isBlank).reverse

def trimChars (cs : List Char) : List Char :=
  trimRight (trimLeft cs)

def trim (text : String) : String :=
  String.ofList (trimChars text.toList)

/-- Splits into maximal runs of characters that are not blank. `run` holds the current run in
reverse. -/
def wordsFrom (run : List Char) : List Char → List (List Char)
  | [] => if run.isEmpty then [] else [run.reverse]
  | c :: rest =>
    if isBlank c then
      if run.isEmpty then wordsFrom [] rest else run.reverse :: wordsFrom [] rest
    else wordsFrom (c :: run) rest

def words (text : String) : List String :=
  (wordsFrom [] text.toList).map String.ofList

theorem trimLeft_cons_of_not_blank {c : Char} {rest : List Char} (h : isBlank c = false) :
    trimLeft (c :: rest) = c :: rest := by
  simp [trimLeft, List.dropWhile, h]

end SocketDocs.Text
