import SocketDocs.DocBlock.Lines

/-!
# Blocks as filters

A line that is not kept leaves the scan as it was: neither the balance of brackets nor whether a
directive has been met depends on it. So a scan of the kept lines alone goes through the same states
and keeps all of them (`kept_filters`).
-/

namespace SocketDocs.DocBlock

open Directive (opensDirective)

-- ---------------------------------------------------------------------------
-- One line
-- ---------------------------------------------------------------------------

section

variable {started : Bool} {depth : Nat} {line : String} {rest : List String}

theorem keptFrom_directive (h : opensDirective line = true) :
    keptFrom started depth (line :: rest) = line :: keptFrom true (openedBy line.toList) rest := by
  rw [keptFrom, if_pos h]

theorem keptFrom_literalLine (h : opensDirective line = false)
    (hkeep : (started && (0 < depth || isLiteralEdge line.toList)) = true) :
    keptFrom started depth (line :: rest) =
      line :: keptFrom true (depth + bracketBalance line.toList).toNat rest := by
  rw [keptFrom, h, if_neg Bool.false_ne_true, if_pos hkeep]

theorem keptFrom_dropped (h : opensDirective line = false)
    (hdrop : (started && (0 < depth || isLiteralEdge line.toList)) = false) :
    keptFrom started depth (line :: rest) = keptFrom started depth rest := by
  rw [keptFrom, h, if_neg Bool.false_ne_true, hdrop, if_neg Bool.false_ne_true]

end

-- ---------------------------------------------------------------------------
-- Whole scans
-- ---------------------------------------------------------------------------

theorem keptFrom_keptFrom (started : Bool) (depth : Nat) (lines : List String) :
    keptFrom started depth (keptFrom started depth lines) = keptFrom started depth lines := by
  induction lines generalizing started depth with
  | nil => rfl
  | cons line rest ih =>
    cases hopen : opensDirective line with
    | true => rw [keptFrom_directive hopen, keptFrom_directive hopen, ih]
    | false =>
      cases hkeep : started && (0 < depth || isLiteralEdge line.toList) with
      | true => rw [keptFrom_literalLine hopen hkeep, keptFrom_literalLine hopen hkeep, ih]
      | false => rw [keptFrom_dropped hopen hkeep, ih]

/-- The lines that a scan keeps, with their positions: all directives are among them, and before the
first directive there is none. -/
structure Picks (started : Bool) (lines picked : List (String × Nat)) : Prop where
  sublist : picked.Sublist lines
  directives : ∀ line ∈ lines, opensDirective line.1 = true → line ∈ picked
  below : started = false → ∀ line ∈ picked,
    ∃ directive ∈ lines, directive.2 ≤ line.2 ∧ opensDirective directive.1 = true

namespace Picks

variable {started : Bool} {lines picked : List (String × Nat)} {line : String} {n : Nat}

theorem keep (h : Picks true lines picked) (hpositions : ∀ other ∈ lines, n ≤ other.2)
    (hstart : opensDirective line = true ∨ started = true) :
    Picks started ((line, n) :: lines) ((line, n) :: picked) where
  sublist := h.sublist.cons_cons _
  directives := by
    intro other hother hopen
    rcases List.mem_cons.mp hother with rfl | hother
    · exact List.mem_cons_self
    · exact List.mem_cons_of_mem _ (h.directives other hother hopen)
  below := by
    rintro hnew other hother
    have hopen : opensDirective line = true := hstart.resolve_right (by simp [hnew])
    refine ⟨(line, n), List.mem_cons_self, ?_, hopen⟩
    rcases List.mem_cons.mp hother with rfl | hother
    · exact Nat.le_refl _
    · exact hpositions other (h.sublist.subset hother)

theorem drop (h : Picks started lines picked) (hopen : opensDirective line = false) :
    Picks started ((line, n) :: lines) picked where
  sublist := h.sublist.cons _
  directives := by
    intro other hother hdirective
    rcases List.mem_cons.mp hother with rfl | hother
    · rw [hopen] at hdirective
      cases hdirective
    · exact h.directives other hother hdirective
  below := by
    intro hnew other hother
    obtain ⟨directive, hmem, hle, hdirective⟩ := h.below hnew other hother
    exact ⟨directive, List.mem_cons_of_mem _ hmem, hle, hdirective⟩

end Picks

theorem exists_picks (started : Bool) (depth n : Nat) (lines : List String) :
    ∃ picked, Picks started (lines.zipIdx n) picked ∧
      keptFrom started depth lines = picked.map (·.1) := by
  induction lines generalizing started depth n with
  | nil => exact ⟨[], ⟨.slnil, nofun, nofun⟩, rfl⟩
  | cons line rest ih =>
    have hpositions : ∀ other ∈ rest.zipIdx (n + 1), n ≤ other.2 := by
      intro other hother
      have := List.le_snd_of_mem_zipIdx hother
      omega
    rw [List.zipIdx_cons]
    cases hopen : opensDirective line with
    | true =>
      obtain ⟨picked, hpicks, hkept⟩ := ih true (openedBy line.toList) (n + 1)
      exact ⟨_, hpicks.keep hpositions (.inl hopen), by rw [keptFrom_directive hopen, hkept]; rfl⟩
    | false =>
      cases hkeep : started && (0 < depth || isLiteralEdge line.toList) with
      | true =>
        obtain ⟨picked, hpicks, hkept⟩ := ih true (depth + bracketBalance line.toList).toNat (n + 1)
        have hstarted : started = true := (Bool.and_eq_true_iff.mp hkeep).1
        exact ⟨_, hpicks.keep hpositions (.inr hstarted), by
          rw [keptFrom_literalLine hopen hkeep, hkept]; rfl⟩
      | false =>
        obtain ⟨picked, hpicks, hkept⟩ := ih started depth (n + 1)
        exact ⟨picked, hpicks.drop hopen, by rw [keptFrom_dropped hopen hkeep, hkept]⟩

/-- A block consists of lines of its group in their order. It has all directives and nothing above
the first of them, and the block of a block is that block. -/
theorem kept_filters (lines : List String) :
    (∃ picked : List (String × Nat), picked.Sublist lines.zipIdx ∧
      kept lines = picked.map (·.1) ∧
      (∀ line ∈ lines.zipIdx, opensDirective line.1 = true → line ∈ picked) ∧
      ∀ line ∈ picked, ∃ directive ∈ lines.zipIdx,
        directive.2 ≤ line.2 ∧ opensDirective directive.1 = true) ∧
    kept (kept lines) = kept lines := by
  obtain ⟨picked, hpicks, hkept⟩ := exists_picks false 0 0 lines
  exact ⟨⟨picked, hpicks.sublist, hkept, hpicks.directives, hpicks.below rfl⟩,
    keptFrom_keptFrom false 0 lines⟩

/-- Prose and stray brackets go, a literal under a directive stays. -/
example : kept ["Chat", "\x7d", "@Payload \x7b", "\"a\": 1", "\x7d", "and so on"] =
    ["@Payload \x7b", "\"a\": 1", "\x7d"] := by
  decide +kernel

end SocketDocs.DocBlock
