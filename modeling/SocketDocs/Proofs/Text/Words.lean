import Mathlib.Data.List.DropRight
import SocketDocs.Text.Blank

/-!
# Trimmed texts and words

Laws of trimming at one end or both, and of the words of a text: a text that opens with a visible
character is its first word followed by what is left, and the other words are those of the rest.
-/

namespace SocketDocs.Text

def IsWord (text : String) : Prop :=
  text ≠ "" ∧ ∀ c ∈ text.toList, isBlank c = false

instance (text : String) : Decidable (IsWord text) :=
  inferInstanceAs (Decidable (_ ∧ _))

-- ---------------------------------------------------------------------------
-- Trimming
-- ---------------------------------------------------------------------------

@[simp] theorem trimLeft_nil : trimLeft [] = [] := rfl

@[simp] theorem trimChars_nil : trimChars [] = [] := rfl

theorem trimLeft_eq_nil {cs : List Char} (h : cs.all isBlank = true) : trimLeft cs = [] :=
  List.dropWhile_eq_nil_iff.mpr (List.all_eq_true.mp h)

theorem trimLeft_append {cs : List Char} (h : cs.all isBlank = false) (rest : List Char) :
    trimLeft (cs ++ rest) = trimLeft cs ++ rest := by
  have hne : cs.dropWhile isBlank ≠ [] := by
    simpa [List.dropWhile_eq_nil_iff] using h
  simp [trimLeft, List.dropWhile_append, hne]

theorem trimLeft_append_of_blank {cs : List Char} (h : cs.all isBlank = true) (rest : List Char) :
    trimLeft (cs ++ rest) = trimLeft rest := by
  have hnil : cs.dropWhile isBlank = [] := trimLeft_eq_nil h
  simp [trimLeft, List.dropWhile_append, hnil]

theorem trimRight_concat_of_visible {c : Char} (h : isBlank c = false) (cs : List Char) :
    trimRight (cs ++ [c]) = cs ++ [c] := by
  simp [trimRight, h]

theorem trimRight_concat_of_blank {c : Char} (h : isBlank c = true) (cs : List Char) :
    trimRight (cs ++ [c]) = trimRight cs := by
  simp [trimRight, h]

theorem trimChars_sublist (cs : List Char) : (trimChars cs).Sublist cs := by
  have hright : ∀ l : List Char, (trimRight l).Sublist l := by
    intro l
    have h := (List.dropWhile_sublist (l := l.reverse) isBlank).reverse
    rwa [List.reverse_reverse] at h
  exact (hright _).trans (List.dropWhile_sublist _)

theorem getLast?_visible {cs : List Char} {c : Char} (h : trimChars cs = cs)
    (hc : cs.getLast? = some c) : isBlank c = false := by
  obtain ⟨front, rfl⟩ := List.getLast?_eq_some_iff.mp hc
  cases hb : isBlank c with
  | false => rfl
  | true =>
    -- Both trims would shorten the text.
    have hlen := congrArg List.length h
    have hle : (trimChars (front ++ [c])).length ≤ front.length := by
      by_cases hall : front.all isBlank
      · rw [trimChars, trimLeft_append_of_blank hall, trimLeft_eq_nil (by simp [hb])]
        exact Nat.zero_le _
      · rw [Bool.not_eq_true] at hall
        rw [trimChars, trimLeft_append hall, trimRight_concat_of_blank hb]
        exact (trimChars_sublist front).length_le
    rw [List.length_append, List.length_singleton] at hlen
    omega

theorem trimRight_trimChars (cs : List Char) : trimRight (trimChars cs) = trimChars cs :=
  List.rdropWhile_idempotent isBlank (trimLeft cs)

theorem head?_visible {cs : List Char} {c : Char} (h : trimChars cs = cs)
    (hc : cs.head? = some c) : isBlank c = false := by
  obtain ⟨rest, rfl⟩ := List.head?_eq_some_iff.mp hc
  cases hb : isBlank c with
  | false => rfl
  | true =>
    have hleft : trimChars (c :: rest) = trimChars rest := by simp [trimChars, trimLeft, hb]
    have hlen := (trimChars_sublist rest).length_le
    rw [← hleft, h, List.length_cons] at hlen
    omega

-- ---------------------------------------------------------------------------
-- Words
-- ---------------------------------------------------------------------------

theorem wordsFrom_run {run : List Char} (h : run ≠ []) (cs : List Char) :
    wordsFrom run cs = (run.reverse ++ cs.takeWhile (!isBlank ·)) ::
      wordsFrom [] (cs.dropWhile (!isBlank ·)) := by
  induction cs generalizing run with
  | nil => simp [wordsFrom, h]
  | cons c rest ih =>
    cases hc : isBlank c with
    | true => simp [wordsFrom, h, hc]
    | false => simp [wordsFrom, hc, ih (List.cons_ne_nil c run)]

theorem wordsFrom_cons {c : Char} (h : isBlank c = false) (rest : List Char) :
    wordsFrom [] (c :: rest) = (c :: rest).takeWhile (!isBlank ·) ::
      wordsFrom [] ((c :: rest).dropWhile (!isBlank ·)) := by
  simp [wordsFrom, h, wordsFrom_run]

theorem wordsFrom_trimLeft (cs : List Char) : wordsFrom [] (trimLeft cs) = wordsFrom [] cs := by
  induction cs with
  | nil => rfl
  | cons c rest ih =>
    cases hc : isBlank c with
    | true => simpa [wordsFrom, trimLeft, hc] using ih
    | false => rw [trimLeft_cons_of_not_blank hc]

theorem words_eq_nil_iff {text : String} :
    words text = [] ↔ ∀ c ∈ text.toList, isBlank c = true := by
  rw [words, List.map_eq_nil_iff, ← wordsFrom_trimLeft, trimLeft, ← List.dropWhile_eq_nil_iff]
  cases hdrop : text.toList.dropWhile isBlank with
  | nil => simp [wordsFrom]
  | cons c rest =>
    have hc : isBlank c = false := by
      have hhead := List.head?_dropWhile_not isBlank text.toList
      rwa [hdrop] at hhead
    simp [wordsFrom_cons hc]

theorem words_cons {text : String} {c : Char} (h : text.toList.head? = some c)
    (hc : isBlank c = false) :
    words text = String.ofList (text.toList.takeWhile (!isBlank ·)) ::
      words (String.ofList (text.toList.dropWhile (!isBlank ·))) := by
  obtain ⟨rest, hrest⟩ := List.head?_eq_some_iff.mp h
  simp only [words, String.toList_ofList]
  rw [hrest, wordsFrom_cons hc, List.map_cons]

/-- Where a word ends before a blank, the text is cut between the two. -/
theorem cut_after_word {word rest : List Char} (hword : ∀ c ∈ word, isBlank c = false)
    (hrest : ∀ c ∈ rest.head?, isBlank c = true) :
    (word ++ rest).takeWhile (!isBlank ·) = word ∧
      (word ++ rest).dropWhile (!isBlank ·) = rest := by
  have hvisible : ∀ c ∈ word, (!isBlank c) = true := by simpa using hword
  rw [List.takeWhile_append_of_pos hvisible, List.dropWhile_append_of_pos hvisible]
  cases rest with
  | nil => simp
  | cons c rest => simp [hrest c rfl]

theorem head?_trimLeft_of_words {cs word : List Char} {later : List (List Char)}
    (h : wordsFrom [] cs = word :: later) : (trimLeft cs).head? = word.head? := by
  rw [← wordsFrom_trimLeft] at h
  cases ht : trimLeft cs with
  | nil => rw [ht] at h; cases h
  | cons c rest =>
    have hc : isBlank c = false := by
      have hhead := List.head?_dropWhile_not isBlank cs
      rwa [← trimLeft, ht] at hhead
    rw [ht, wordsFrom_cons hc] at h
    obtain ⟨rfl, -⟩ := List.cons.inj h
    simp [hc]

theorem visible_of_mem_wordsFrom {run cs word : List Char} (h : word ∈ wordsFrom run cs)
    (hrun : ∀ c ∈ run, isBlank c = false) :
    word ≠ [] ∧ ∀ c ∈ word, isBlank c = false := by
  induction cs generalizing run with
  | nil =>
    by_cases he : run = []
    · simp [wordsFrom, he] at h
    · have hword : word = run.reverse := by simpa [wordsFrom, he] using h
      subst hword
      exact ⟨by simpa using he, by simpa using hrun⟩
  | cons c rest ih =>
    cases hc : isBlank c with
    | false =>
      simp only [wordsFrom, hc, Bool.false_eq_true, if_false] at h
      exact ih h (by simpa [hc] using hrun)
    | true =>
      by_cases he : run = []
      · simp only [wordsFrom, hc, he, if_true, List.isEmpty_nil] at h
        exact ih h (by simp)
      · simp only [wordsFrom, hc, if_true, List.isEmpty_iff, he, if_false, List.mem_cons] at h
        rcases h with rfl | h
        · exact ⟨by simpa using he, by simpa using hrun⟩
        · exact ih h (by simp)

theorem isWord_of_mem_words {text word : String} (h : word ∈ words text) : IsWord word := by
  obtain ⟨cs, hcs, rfl⟩ := List.mem_map.mp h
  obtain ⟨hne, hvisible⟩ := visible_of_mem_wordsFrom hcs (by simp)
  refine ⟨?_, by simpa using hvisible⟩
  intro hempty
  exact hne (by simpa using congrArg String.toList hempty)

end SocketDocs.Text
