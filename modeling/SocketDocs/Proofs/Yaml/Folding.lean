import Mathlib.Data.List.TakeWhile
import Mathlib.Tactic.Conv
import Mathlib.Tactic.SplitIfs
import SocketDocs.Yaml.Scan.Scalar

/-!
# Folding

What becomes of a text between quotes when YAML reads it: line breaks and the spaces around them are
folded, and a line may not look like the mark of a document. `Kept` are the texts that come out as
they went in (`folded_eq_self_iff`).
-/

namespace SocketDocs.Yaml

-- ---------------------------------------------------------------------------
-- Folding
-- ---------------------------------------------------------------------------

def isGap (c : Char) : Bool :=
  c == ' ' || c.toNat == 0x85 || c.toNat == 0x2028 || c.toNat == 0x2029

def Scan.Gap.step (gap : Gap) (c : Char) : Gap :=
  if c == ' ' then
    if gap.broken then gap else { gap with spaces := gap.spaces ++ [c] }
  else
    let kept := if c.toNat == 0x2028 || c.toNat == 0x2029 then c else '\n'
    if gap.broken then { gap with more := gap.more ++ [kept] } else { first := [kept], broken := true }

def foldGap (gap : List Char) : List Char :=
  (gap.foldl Scan.Gap.step {}).joined

def opensMark : List Char → Bool
  | a :: b :: c :: d :: _ =>
    ((a == '-' && b == '-' && c == '-') || (a == '.' && b == '.' && c == '.')) && isGap d
  | _ => false

/-- A quoted text as it is read; `none` if a line in it is the mark of a document. -/
def folded (lineStart : Bool) (cs : List Char) : Option (List Char) :=
  if lineStart && opensMark cs then none
  else
    let word := cs.takeWhile (!isGap ·)
    match _h : cs.dropWhile (!isGap ·) with
    | [] => some word
    | c :: more =>
      let gap := c :: more.takeWhile isGap
      (folded (gap.getLast?.any isBreak) (more.dropWhile isGap)).map fun text =>
        word ++ foldGap gap ++ text
termination_by cs.length
decreasing_by
  have hlength := congrArg List.length _h
  have hdrop := List.length_dropWhile_le (!isGap ·) cs
  have hmore := List.length_dropWhile_le isGap more
  simp only [List.length_cons] at hlength
  omega

theorem exists_words (cs : List Char) :
    (∀ c ∈ cs, isGap c = false) ∨
      ∃ word gap next, cs = word ++ (gap ++ next) ∧ (∀ c ∈ word, isGap c = false) ∧ gap ≠ [] ∧
        (∀ c ∈ gap, isGap c = true) ∧ ∀ c ∈ next.head?, isGap c = false := by
  have hsplit := List.takeWhile_append_dropWhile (p := (!isGap ·)) (l := cs)
  have hword : ∀ c ∈ cs.takeWhile (!isGap ·), isGap c = false := by
    intro c hc
    simpa using List.all_eq_true.mp List.all_takeWhile c hc
  cases hrest : cs.dropWhile (!isGap ·) with
  | nil =>
    rw [hrest, List.append_nil] at hsplit
    exact .inl (hsplit ▸ hword)
  | cons c more =>
    refine .inr ⟨_, (c :: more).takeWhile isGap, (c :: more).dropWhile isGap, ?_, hword, ?_, ?_, ?_⟩
    · rw [List.takeWhile_append_dropWhile, ← hrest, hsplit]
    · have hc := List.head?_dropWhile_not (!isGap ·) cs
      rw [hrest] at hc
      simpa using hc
    · intro d hd
      exact List.all_eq_true.mp List.all_takeWhile d hd
    · intro d hd
      have hnext := List.head?_dropWhile_not isGap (c :: more)
      rw [Option.mem_def.mp hd] at hnext
      simpa using hnext

theorem folded_mark {lineStart : Bool} {cs : List Char} (h : (lineStart && opensMark cs) = true) :
    folded lineStart cs = none := by
  rw [folded, if_pos h]

theorem folded_word {lineStart : Bool} {word : List Char}
    (hmark : (lineStart && opensMark word) = false) (hword : ∀ c ∈ word, isGap c = false) :
    folded lineStart word = some word := by
  have hnot : ∀ c ∈ word, (!isGap c) = true := by simpa using hword
  rw [folded, if_neg (by simp [hmark])]
  split
  · rw [List.takeWhile_eq_self_iff.mpr hnot]
  · rename_i hrest
    rw [List.dropWhile_eq_nil_iff.mpr hnot] at hrest
    cases hrest

theorem folded_gap {lineStart : Bool} {word gap next : List Char}
    (hmark : (lineStart && opensMark (word ++ (gap ++ next))) = false)
    (hword : ∀ c ∈ word, isGap c = false) (hne : gap ≠ []) (hgap : ∀ c ∈ gap, isGap c = true)
    (hnext : ∀ c ∈ next.head?, isGap c = false) :
    folded lineStart (word ++ (gap ++ next)) =
      (folded (gap.getLast?.any isBreak) next).map fun text => word ++ foldGap gap ++ text := by
  have hnot : ∀ c ∈ word, (!isGap c) = true := by simpa using hword
  obtain ⟨c, more, rfl⟩ := List.exists_cons_of_ne_nil hne
  have hc : isGap c = true := hgap c (List.mem_cons_self ..)
  have hmore : ∀ c ∈ more, isGap c = true := fun d hd => hgap d (List.mem_cons_of_mem _ hd)
  have htake : next.takeWhile isGap = [] ∧ next.dropWhile isGap = next := by
    cases next with
    | nil => simp
    | cons d ds => simp [hnext d rfl]
  rw [folded, if_neg (Bool.eq_false_iff.mp hmark)]
  split
  · rename_i hrest
    rw [List.dropWhile_append_of_pos hnot] at hrest
    simp [hc] at hrest
  · rename_i d ds hrest
    rw [List.dropWhile_append_of_pos hnot] at hrest
    simp only [List.cons_append, List.dropWhile_cons, hc, Bool.not_true, Bool.false_eq_true,
      if_false, List.cons.injEq] at hrest
    obtain ⟨rfl, rfl⟩ := hrest
    simp only []
    rw [List.takeWhile_append_of_pos hnot, List.takeWhile_append_of_pos hmore,
      List.dropWhile_append_of_pos hmore, htake.1, htake.2]
    simp [hc]

-- ---------------------------------------------------------------------------
-- Texts that folding keeps
-- ---------------------------------------------------------------------------

def readBreak (c : Char) : Char :=
  if c.toNat == 0x2028 || c.toNat == 0x2029 then c else '\n'

def breaksIn (gap : List Char) : List Char :=
  (gap.filter (· != ' ')).map readBreak

theorem foldl_step_broken (gap : List Char) {start : Scan.Gap} (h : start.broken = true) :
    gap.foldl Scan.Gap.step start = { start with more := start.more ++ breaksIn gap } := by
  induction gap generalizing start with
  | nil => simp [breaksIn]
  | cons c gap ih =>
    by_cases hc : c = ' '
    · simp [Scan.Gap.step, h, hc, ih h, breaksIn]
    · rw [List.foldl_cons, Scan.Gap.step, if_neg (by simpa using hc), if_pos h]
      refine (@ih { start with more := start.more ++ [readBreak c] } h).trans ?_
      simp [breaksIn, hc]

theorem foldl_step (gap spaces : List Char) :
    gap.foldl Scan.Gap.step { spaces } =
      match breaksIn gap with
      | [] => { spaces := spaces ++ gap }
      | c :: more => { first := [c], more, broken := true } := by
  induction gap generalizing spaces with
  | nil => simp [breaksIn]
  | cons c gap ih =>
    by_cases hc : c = ' '
    · have hbreaks : breaksIn (c :: gap) = breaksIn gap := by simp [breaksIn, hc]
      rw [List.foldl_cons, Scan.Gap.step, if_pos (by simpa using hc)]
      simp only [Bool.false_eq_true, if_false, ih, hbreaks]
      cases breaksIn gap <;> simp
    · have hbreaks : breaksIn (c :: gap) = readBreak c :: breaksIn gap := by
        simp [breaksIn, hc]
      rw [List.foldl_cons, Scan.Gap.step, if_neg (by simpa using hc)]
      simp only [Bool.false_eq_true, if_false, hbreaks]
      rw [foldl_step_broken gap rfl]
      simp [readBreak]

theorem foldGap_eq (gap : List Char) :
    foldGap gap =
      match breaksIn gap with
      | [] => gap
      | c :: more => if c = '\n' then (if more = [] then [' '] else more) else c :: more := by
  rw [foldGap, foldl_step]
  cases breaksIn gap with
  | nil => rfl
  | cons c more =>
    simp only [Scan.Gap.joined, if_true, List.head?_cons]
    by_cases hc : c = '\n' <;> cases more <;> simp [hc]

theorem length_breaksIn_le (gap : List Char) : (breaksIn gap).length ≤ gap.length := by
  simpa [breaksIn] using List.length_filter_le (· != ' ') gap

theorem length_foldGap_le {gap : List Char} (hne : gap ≠ []) :
    (foldGap gap).length ≤ gap.length := by
  have hpos := List.length_pos_iff.mpr hne
  have hbreaks := length_breaksIn_le gap
  rw [foldGap_eq]
  cases hb : breaksIn gap with
  | nil => exact Nat.le_refl _
  | cons c more =>
    rw [hb, List.length_cons] at hbreaks
    simp only []
    split_ifs <;> simp <;> omega

def isSeparator (c : Char) : Bool :=
  c.toNat == 0x2028 || c.toNat == 0x2029

theorem breaksIn_eq_self_iff {gap : List Char} (hgap : ∀ c ∈ gap, isGap c = true) :
    breaksIn gap = gap ↔ ∀ c ∈ gap, isSeparator c = true := by
  have hread : ∀ c, readBreak c = c ↔ isSeparator c = true ∨ c = '\n' := by
    intro c
    have heq : readBreak c = if isSeparator c = true then c else '\n' := rfl
    rw [heq]
    cases isSeparator c with
    | true => simp
    | false => simp [eq_comm]
  refine ⟨?_, ?_⟩
  · intro h
    have hlength := congrArg List.length h
    rw [breaksIn, List.length_map, List.length_filter_eq_length_iff] at hlength
    rw [breaksIn, List.filter_eq_self.mpr hlength] at h
    intro c hc
    have hsame : readBreak c = c := by
      have hall := List.map_inj_left.mp (h.trans (List.map_id gap).symm)
      exact hall c hc
    rcases (hread c).mp hsame with hsep | rfl
    · exact hsep
    · exact absurd (hgap _ hc) (by decide)
  · intro h
    have hspace : gap.filter (· != ' ') = gap := by
      rw [List.filter_eq_self]
      intro c hc
      have hsep := h c hc
      rw [bne_iff_ne]
      rintro rfl
      cases hsep
    rw [breaksIn, hspace]
    conv_rhs => rw [← List.map_id gap]
    exact List.map_congr_left fun c hc => (hread c).mpr (.inl (h c hc))

theorem foldGap_eq_self_iff {gap : List Char} (hgap : ∀ c ∈ gap, isGap c = true) :
    foldGap gap = gap ↔ (∀ c ∈ gap, c = ' ') ∨ ∀ c ∈ gap, isSeparator c = true := by
  rw [foldGap_eq]
  refine ⟨?_, ?_⟩
  · intro h
    have hlength := length_breaksIn_le gap
    cases hb : breaksIn gap with
    | nil => exact .inl (by simpa [breaksIn] using hb)
    | cons c more =>
      rw [hb, List.length_cons] at hlength
      rw [hb] at h
      simp only [] at h
      split_ifs at h with hc hmore
      · rw [← h] at hb
        cases hb
      · rw [h] at hlength
        omega
      · exact .inr ((breaksIn_eq_self_iff hgap).mp (hb.trans h))
  · rintro (hspaces | hseparators)
    · have hb : breaksIn gap = [] := by simpa [breaksIn] using hspaces
      rw [hb]
    · rw [(breaksIn_eq_self_iff hgap).mpr hseparators]
      cases gap with
      | nil => rfl
      | cons c more =>
        have hc := hseparators c (List.mem_cons_self ..)
        have hne : c ≠ '\n' := by
          rintro rfl
          cases hc
        simp [hne]

theorem length_folded_le {lineStart : Bool} {cs text : List Char}
    (h : folded lineStart cs = some text) : text.length ≤ cs.length := by
  induction hn : cs.length using Nat.strong_induction_on generalizing lineStart cs text with
  | _ n ih =>
    cases hmark : lineStart && opensMark cs with
    | true =>
      rw [folded_mark hmark] at h
      cases h
    | false =>
      rcases exists_words cs with hword | ⟨word, gap, next, rfl, hword, hne, hgap, hnext⟩
      · rw [folded_word hmark hword] at h
        cases h
        omega
      · rw [folded_gap hmark hword hne hgap hnext] at h
        obtain ⟨rest, hrest, rfl⟩ := Option.map_eq_some_iff.mp h
        have hpos := List.length_pos_iff.mpr hne
        have hfold := length_foldGap_le hne
        simp only [List.length_append] at hn ⊢
        have := ih next.length (by omega) hrest rfl
        omega

/-- Line breaks that a text keeps: no `U+0085`, no space beside one, and no mark of a document
after one. -/
def Kept (cs : List Char) : Prop :=
  ∀ before c after, cs = before ++ c :: after → isGap c = true → c ≠ ' ' →
    isSeparator c = true ∧ before.getLast? ≠ some ' ' ∧ after.head? ≠ some ' ' ∧
      opensMark after = false

/-- Folding keeps a text, piece by piece. -/
theorem folded_gap_eq_self_iff {lineStart : Bool} {word gap next : List Char}
    (hmark : (lineStart && opensMark (word ++ (gap ++ next))) = false)
    (hword : ∀ c ∈ word, isGap c = false) (hne : gap ≠ []) (hgap : ∀ c ∈ gap, isGap c = true)
    (hnext : ∀ c ∈ next.head?, isGap c = false) :
    folded lineStart (word ++ (gap ++ next)) = some (word ++ (gap ++ next)) ↔
      foldGap gap = gap ∧ folded (gap.getLast?.any isBreak) next = some next := by
  rw [folded_gap hmark hword hne hgap hnext, Option.map_eq_some_iff]
  refine ⟨?_, ?_⟩
  · rintro ⟨text, htext, heq⟩
    rw [List.append_assoc, List.append_cancel_left_eq] at heq
    have hlength := congrArg List.length heq
    have hfold := length_foldGap_le hne
    have hle := length_folded_le htext
    simp only [List.length_append] at hlength
    obtain ⟨hgapEq, rfl⟩ := List.append_inj heq (by omega)
    exact ⟨hgapEq, htext⟩
  · rintro ⟨hgapEq, hnextEq⟩
    exact ⟨next, hnextEq, by rw [hgapEq, List.append_assoc]⟩

theorem kept_of_spaces {cs : List Char} (h : ∀ c ∈ cs, isGap c = true → c = ' ') : Kept cs := by
  rintro before c after rfl hc hspace
  exact absurd (h c (by simp) hc) hspace

theorem kept_word {word : List Char} (h : ∀ c ∈ word, isGap c = false) : Kept word := by
  refine kept_of_spaces ?_
  intro c hc hgap
  rw [h c hc] at hgap
  cases hgap

theorem opensMark_append {cs more : List Char} (h : opensMark cs = true) :
    opensMark (cs ++ more) = true := by
  rcases cs with _ | ⟨a, _ | ⟨b, _ | ⟨c, _ | ⟨d, rest⟩⟩⟩⟩
  all_goals first | cases h | exact h

theorem opensMark_separator {c : Char} {cs : List Char} (h : isSeparator c = true) :
    opensMark (c :: cs) = false := by
  have hdash : c ≠ '-' := by
    rintro rfl
    cases h
  have hpoint : c ≠ '.' := by
    rintro rfl
    cases h
  rcases cs with _ | ⟨b, _ | ⟨c, _ | ⟨d, rest⟩⟩⟩ <;> simp [opensMark, hdash, hpoint]

theorem Kept.part (before after : List Char) {cs : List Char} (h : Kept (before ++ (cs ++ after))) :
    Kept cs := by
  rintro left c right rfl hgap hc
  obtain ⟨hsep, hleft, hright, hmark⟩ :=
    h (before ++ left) c (right ++ after) (by simp) hgap hc
  refine ⟨hsep, ?_, ?_, ?_⟩
  · intro hlast
    exact hleft (by simp [hlast])
  · intro hhead
    exact hright (by simp [hhead])
  · by_contra hm
    rw [opensMark_append (by simpa using hm)] at hmark
    cases hmark

theorem Kept.uniform {gap : List Char} (h : Kept gap) (hgap : ∀ c ∈ gap, isGap c = true) :
    (∀ c ∈ gap, c = ' ') ∨ ∀ c ∈ gap, isSeparator c = true := by
  induction gap with
  | nil => simp
  | cons c gap ih =>
    have hrest : Kept gap := Kept.part [c] [] (by simpa using h)
    obtain ⟨hc, hgap⟩ := List.forall_mem_cons.mp hgap
    cases gap with
    | nil =>
      by_cases hspace : c = ' '
      · exact .inl (by simpa using hspace)
      · exact .inr (by simpa using (h [] c [] rfl hc hspace).1)
    | cons d gap =>
      rcases ih hrest hgap with hspaces | hseparators
      · by_cases hspace : c = ' '
        · exact .inl (List.forall_mem_cons.mpr ⟨hspace, hspaces⟩)
        · have hright := (h [] c (d :: gap) rfl hc hspace).2.2.1
          rw [hspaces d (List.mem_cons_self ..)] at hright
          exact absurd rfl hright
      · by_cases hspace : c = ' '
        · have hd := hseparators d (List.mem_cons_self ..)
          have hne : d ≠ ' ' := by
            rintro rfl
            cases hd
          have hleft := (h [c] d gap rfl (hgap d (List.mem_cons_self ..)) hne).2.1
          rw [hspace] at hleft
          exact absurd rfl hleft
        · exact .inr (List.forall_mem_cons.mpr ⟨(h [] c (d :: gap) rfl hc hspace).1, hseparators⟩)

theorem split_gap {word gap next before after : List Char} {c : Char}
    (hword : ∀ c ∈ word, isGap c = false) (h : word ++ (gap ++ next) = before ++ c :: after)
    (hc : isGap c = true) :
    (∃ left, before = word ++ (gap ++ left) ∧ next = left ++ c :: after) ∨
      ∃ left right, before = word ++ left ∧ gap = left ++ c :: right ∧ after = right ++ next := by
  have hbefore : ∃ left, before = word ++ left ∧ gap ++ next = left ++ c :: after := by
    rcases List.append_eq_append_iff.mp h with ⟨left, hleft, hrest⟩ | ⟨right, rfl, hrest⟩
    · exact ⟨left, hleft, hrest⟩
    · cases right with
      | nil => exact ⟨[], by simp, by simpa using hrest.symm⟩
      | cons d right =>
        obtain ⟨rfl, -⟩ := List.cons.inj hrest
        rw [hword c (by simp)] at hc
        cases hc
  obtain ⟨left, rfl, hrest⟩ := hbefore
  rcases List.append_eq_append_iff.mp hrest with ⟨more, rfl, hnext⟩ | ⟨right, rfl, hright⟩
  · exact .inl ⟨more, by simp, hnext⟩
  · cases right with
    | nil => exact .inl ⟨[], by simp, by simpa using hright.symm⟩
    | cons d right =>
      obtain ⟨rfl, rfl⟩ := List.cons.inj hright
      exact .inr ⟨left, right, rfl, rfl, rfl⟩

theorem kept_gap_iff {word gap next : List Char} (hword : ∀ c ∈ word, isGap c = false)
    (hne : gap ≠ []) (hgap : ∀ c ∈ gap, isGap c = true) (hnext : ∀ c ∈ next.head?, isGap c = false) :
    Kept (word ++ (gap ++ next)) ↔
      foldGap gap = gap ∧ (gap.getLast?.any isBreak && opensMark next) = false ∧ Kept next := by
  refine ⟨?_, ?_⟩
  · intro h
    have hnextKept : Kept next := Kept.part (word ++ gap) [] (by simpa using h)
    refine ⟨(foldGap_eq_self_iff hgap).mpr ((Kept.part word next h).uniform hgap), ?_, hnextKept⟩
    obtain ⟨init, c, rfl⟩ := List.eq_nil_or_concat gap |>.resolve_left hne
    simp only [List.concat_eq_append, List.getLast?_append, List.getLast?_singleton, Option.some_or,
      Option.any_some]
    cases hbreak : isBreak c with
    | false => rfl
    | true =>
      have hspace : c ≠ ' ' := by
        rintro rfl
        cases hbreak
      exact (h (word ++ init) c next (by simp) (hgap c (by simp)) hspace).2.2.2
  · rintro ⟨hfold, hmark, hkept⟩ before c after heq hc hspace
    have hcontra : ∀ {d : Char}, isGap d = false → d ≠ ' ' := by
      rintro d hd rfl
      cases hd
    rcases split_gap hword heq hc with ⟨left, rfl, rfl⟩ | ⟨left, right, rfl, rfl, rfl⟩
    · obtain ⟨hsep, hleft, hright⟩ := hkept left c after rfl hc hspace
      refine ⟨hsep, ?_, hright⟩
      cases left with
      | nil =>
        rw [hnext c rfl] at hc
        cases hc
      | cons d left => simpa [List.getLast?_append] using hleft
    · have hseparators : ∀ d ∈ left ++ c :: right, isSeparator d = true := by
        refine ((foldGap_eq_self_iff hgap).mp hfold).resolve_left ?_
        intro hspaces
        exact hspace (hspaces c (by simp))
      have hne : ∀ d ∈ left ++ c :: right, d ≠ ' ' := by
        rintro d hd rfl
        cases hseparators _ hd
      refine ⟨hseparators c (by simp), ?_, ?_, ?_⟩
      · intro hlast
        rcases List.mem_append.mp (List.mem_of_getLast? hlast) with hmem | hmem
        · exact hcontra (hword ' ' hmem) rfl
        · exact hne ' ' (by simp [hmem]) rfl
      · cases right with
        | nil =>
          intro hhead
          exact hcontra (hnext ' ' hhead) rfl
        | cons d right =>
          have hd := hne d (by simp)
          simpa using hd
      · cases right with
        | nil =>
          have hbreak : isBreak c = true := by
            have hsep := hseparators c (by simp)
            simp only [isSeparator, Bool.or_eq_true, beq_iff_eq] at hsep
            rcases hsep with hsep | hsep <;> simp [isBreak, hsep]
          simpa [List.getLast?_append, hbreak] using hmark
        | cons d right => exact opensMark_separator (hseparators d (by simp))

theorem folded_eq_self_iff {lineStart : Bool} {cs : List Char}
    (hmark : (lineStart && opensMark cs) = false) : folded lineStart cs = some cs ↔ Kept cs := by
  induction hn : cs.length using Nat.strong_induction_on generalizing lineStart cs with
  | _ n ih =>
    rcases exists_words cs with hword | ⟨word, gap, next, rfl, hword, hne, hgap, hnext⟩
    · rw [folded_word hmark hword]
      exact iff_of_true rfl (kept_word hword)
    · have hpos := List.length_pos_iff.mpr hne
      rw [folded_gap_eq_self_iff hmark hword hne hgap hnext, kept_gap_iff hword hne hgap hnext]
      refine and_congr_right fun _ => ?_
      cases hm : gap.getLast?.any isBreak && opensMark next with
      | true => simp [folded_mark hm]
      | false =>
        simp only [List.length_append] at hn
        simpa using ih next.length (by omega) hm rfl

end SocketDocs.Yaml
