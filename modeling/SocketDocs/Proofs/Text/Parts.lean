
/-!
# Parts between separators

A text is split into the parts between its separators and joined again. The parts hold every other
character and no separator; a separator at an end, or two in a row, leave an empty part.
-/

namespace SocketDocs.Text

-- ---------------------------------------------------------------------------
-- Splitting
-- ---------------------------------------------------------------------------

section

variable {separator : Char}

theorem splitOn_cons (c : Char) (rest : List Char) :
    (c :: rest).splitOn separator =
      if c = separator then [] :: rest.splitOn separator
      else (rest.splitOn separator).modifyHead (c :: ·) := by
  rw [List.splitOn_cons_eq_if_modifyHead]
  simp only [beq_iff_eq]

theorem exists_splitOn_eq_cons (separator : Char) (cs : List Char) :
    ∃ first others, cs.splitOn separator = first :: others :=
  List.exists_cons_of_ne_nil (List.splitOn_ne_nil separator cs)

theorem of_mem_splitOn {cs part : List Char} (h : part ∈ cs.splitOn separator) :
    ∀ c ∈ part, c ∈ cs ∧ c ≠ separator := by
  induction cs generalizing part with
  | nil =>
    rw [List.splitOn_nil, List.mem_singleton] at h
    simp [h]
  | cons c rest ih =>
    have hlater : ∀ {other}, other ∈ rest.splitOn separator →
        ∀ d ∈ other, d ∈ c :: rest ∧ d ≠ separator :=
      fun hother d hd => ⟨List.mem_cons_of_mem _ (ih hother d hd).1, (ih hother d hd).2⟩
    obtain ⟨first, others, hrest⟩ := exists_splitOn_eq_cons separator rest
    rw [splitOn_cons] at h
    split at h
    · rcases List.mem_cons.mp h with rfl | h
      · simp
      · exact hlater h
    · rename_i hc
      rw [hrest, List.modifyHead_cons] at h
      rcases List.mem_cons.mp h with rfl | h
      · exact List.forall_mem_cons.mpr ⟨⟨List.mem_cons_self .., hc⟩,
          hlater (hrest ▸ List.mem_cons_self ..)⟩
      · exact hlater (hrest ▸ List.mem_cons_of_mem _ h)

theorem exists_mem_splitOn {cs : List Char} {c : Char} (h : c ∈ cs) (hne : c ≠ separator) :
    ∃ part ∈ cs.splitOn separator, c ∈ part := by
  induction cs with
  | nil => cases h
  | cons d rest ih =>
    obtain ⟨first, others, hrest⟩ := exists_splitOn_eq_cons separator rest
    rw [hrest] at ih
    rw [splitOn_cons, hrest]
    by_cases hd : d = separator
    · obtain ⟨part, hpart, hc⟩ := ih ((List.mem_cons.mp h).resolve_left (hd ▸ hne))
      exact ⟨part, by rw [if_pos hd]; exact List.mem_cons_of_mem _ hpart, hc⟩
    · rw [if_neg hd, List.modifyHead_cons]
      rcases List.mem_cons.mp h with rfl | h
      · exact ⟨_, List.mem_cons_self .., List.mem_cons_self ..⟩
      · obtain ⟨part, hpart, hc⟩ := ih h
        rcases List.mem_cons.mp hpart with rfl | hpart
        · exact ⟨_, List.mem_cons_self .., List.mem_cons_of_mem _ hc⟩
        · exact ⟨part, List.mem_cons_of_mem _ hpart, hc⟩

theorem head?_splitOn (cs : List Char) :
    (cs.splitOn separator).head? = some [] ↔ cs = [] ∨ cs.head? = some separator := by
  cases cs with
  | nil => simp
  | cons c rest =>
    obtain ⟨first, others, hrest⟩ := exists_splitOn_eq_cons separator rest
    by_cases hc : c = separator <;> simp [splitOn_cons, hc, hrest]

theorem nil_mem_tail_splitOn {cs : List Char} :
    [] ∈ (cs.splitOn separator).tail ↔
      cs.getLast? = some separator ∨ [separator, separator] <:+: cs := by
  induction cs with
  | nil => simp
  | cons c rest ih =>
    obtain ⟨first, others, hrest⟩ := exists_splitOn_eq_cons separator rest
    have hhead := @head?_splitOn separator rest
    have hlast : (c :: rest).getLast? = some separator ↔
        (rest = [] ∧ c = separator) ∨ rest.getLast? = some separator := by
      cases rest <;> simp
    have hpair : [separator, separator] <:+: c :: rest ↔
        (separator = c ∧ rest.head? = some separator) ∨ [separator, separator] <:+: rest := by
      rw [List.infix_cons_iff, List.cons_prefix_cons]
      cases rest with
      | nil => simp
      | cons d later => simp [@eq_comm _ d]
    rw [hrest] at ih hhead
    rw [hlast, hpair, splitOn_cons, hrest]
    by_cases hc : c = separator
    · simp only [hc, if_true, List.tail_cons, List.mem_cons, List.head?_cons, Option.some.injEq,
        and_true, true_and] at ih hhead ⊢
      grind
    · simp only [hc, Ne.symm hc, if_false, List.modifyHead_cons, List.tail_cons, and_false,
        false_and, false_or] at ih ⊢
      exact ih

end

-- ---------------------------------------------------------------------------
-- Joining
-- ---------------------------------------------------------------------------

theorem intercalate_sublist {few words : List (List Char)} (h : few.Sublist words)
    (separator : List Char) :
    (separator.intercalate few).Sublist (separator.intercalate words) := by
  induction h with
  | slnil => exact .refl _
  | @cons few words word h ih =>
    cases words with
    | nil => simp [List.sublist_nil.mp h]
    | cons next words =>
      rw [List.intercalate_cons_cons]
      exact ih.trans (List.sublist_append_right ..)
  | @cons_cons few words word h ih =>
    cases few with
    | nil =>
      cases words <;> simp
    | cons early few =>
      cases words with
      | nil => cases h
      | cons next words =>
        rw [List.intercalate_cons_cons, List.intercalate_cons_cons]
        exact (List.Sublist.refl _).append ih

theorem map_intercalate (f : Char → Char) (separator : List Char) (words : List (List Char)) :
    (separator.intercalate words).map f =
      (separator.map f).intercalate (words.map (·.map f)) := by
  induction words with
  | nil => rfl
  | cons word words ih =>
    cases words with
    | nil => simp
    | cons next words =>
      simp only [List.map_cons, List.intercalate_cons_cons, List.map_append] at ih ⊢
      rw [ih]

theorem forall_mem_intercalate {p : Char → Prop} {separator : List Char}
    (hseparator : ∀ c ∈ separator, p c) (parts : List (List Char)) :
    (∀ c ∈ separator.intercalate parts, p c) ↔ ∀ part ∈ parts, ∀ c ∈ part, p c := by
  induction parts with
  | nil => simp
  | cons part parts ih =>
    cases parts with
    | nil => simp
    | cons next parts =>
      rw [List.intercalate_cons_cons, List.forall_mem_append, List.forall_mem_append, ih,
        @List.forall_mem_cons _ _ part]
      exact ⟨fun h => ⟨h.1.1, h.2⟩, fun h => ⟨⟨h.1, hseparator⟩, h.2⟩⟩

theorem intercalate_eq_nil_iff {separator : List Char} (hseparator : separator ≠ [])
    {parts : List (List Char)} :
    separator.intercalate parts = [] ↔ parts = [] ∨ parts = [[]] := by
  cases parts with
  | nil => simp
  | cons part parts =>
    cases parts with
    | nil => simp
    | cons next parts => simp [List.intercalate_cons_cons, hseparator]

end SocketDocs.Text
