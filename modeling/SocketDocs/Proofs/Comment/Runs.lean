import Mathlib.Order.Bounds.Basic
import SocketDocs.Comment

/-!
# Runs of lines

A run holds the lines next to a given one, as far as all of them are of some kind. It is described by
where it begins or by how long it is, and it is the longest of its kind.
-/

namespace SocketDocs

-- ---------------------------------------------------------------------------
-- Runs above a line
-- ---------------------------------------------------------------------------

/-- The longest run of lines of a kind that ends just above the line `stop` begins at `first`. -/
def RunAbove (kind : Nat → Prop) (stop first : Nat) : Prop :=
  IsLeast {start | start ≤ stop ∧ ∀ line, start ≤ line → line < stop → kind line} first

namespace RunAbove

variable {kind : Nat → Prop} {stop first : Nat}

theorem le_stop (h : RunAbove kind stop first) : first ≤ stop := h.1.1

theorem of_mem (h : RunAbove kind stop first) {line : Nat} (hfirst : first ≤ line)
    (hstop : line < stop) : kind line := h.1.2 line hfirst hstop

theorem congr (h : RunAbove kind stop first) {kind' : Nat → Prop}
    (hkind : ∀ line < stop, kind line ↔ kind' line) : RunAbove kind' stop first := by
  refine ⟨⟨h.le_stop, fun line hfirst hline => (hkind line hline).mp (h.of_mem hfirst hline)⟩, ?_⟩
  rintro start ⟨hstart, hlines⟩
  exact h.2 ⟨hstart, fun line hfirst hline => (hkind line hline).mpr (hlines line hfirst hline)⟩

theorem zero : RunAbove kind 0 0 := ⟨⟨Nat.le_refl _, nofun⟩, fun _ _ => Nat.zero_le _⟩

theorem succ (h : RunAbove kind stop first) (hkind : kind stop) : RunAbove kind (stop + 1) first := by
  refine ⟨⟨Nat.le_succ_of_le h.le_stop, ?_⟩, ?_⟩
  · intro line hfirst hline
    rcases Nat.lt_succ_iff_lt_or_eq.mp hline with hline | rfl
    · exact h.of_mem hfirst hline
    · exact hkind
  · rintro start ⟨hstart, hlines⟩
    rcases Nat.le_succ_iff.mp hstart with hstart | rfl
    · exact h.2 ⟨hstart, fun line hfirst hline => hlines line hfirst (Nat.lt_succ_of_lt hline)⟩
    · exact Nat.le_succ_of_le h.le_stop

theorem empty (hkind : ¬kind stop) : RunAbove kind (stop + 1) (stop + 1) := by
  refine ⟨⟨Nat.le_refl _, fun line hfirst hline => by omega⟩, ?_⟩
  rintro start ⟨hstart, hlines⟩
  by_contra hlt
  exact hkind (hlines stop (by omega) (Nat.lt_succ_self _))

theorem unique (h : RunAbove kind stop first) {first' : Nat} (h' : RunAbove kind stop first') :
    first = first' := IsLeast.unique h h'

end RunAbove

theorem exists_runAbove (kind : Nat → Prop) (stop : Nat) : ∃ first, RunAbove kind stop first := by
  induction stop with
  | zero => exact ⟨0, .zero⟩
  | succ stop ih =>
    obtain ⟨first, h⟩ := ih
    by_cases hkind : kind stop
    · exact ⟨first, h.succ hkind⟩
    · exact ⟨stop + 1, .empty hkind⟩

def linesBetween (first stop : Nat) : List Nat :=
  List.range' first (stop - first)

theorem mem_linesBetween {first stop line : Nat} :
    line ∈ linesBetween first stop ↔ first ≤ line ∧ line < stop := by
  rw [linesBetween, List.mem_range'_1]
  omega

theorem linesBetween_self (stop : Nat) : linesBetween stop stop = [] := by
  simp [linesBetween]

theorem linesBetween_succ {first stop : Nat} (h : first ≤ stop) :
    linesBetween first (stop + 1) = linesBetween first stop ++ [stop] := by
  rw [linesBetween, linesBetween, Nat.succ_sub h, List.range'_1_concat, Nat.add_sub_cancel' h]

theorem linesBetween_of_lt {first stop : Nat} (h : first < stop) :
    linesBetween first stop = first :: linesBetween (first + 1) stop := by
  rw [linesBetween, linesBetween, ← List.range'_succ]
  congr 1
  omega

/-- The first hit on the way up is the nearest one. -/
theorem findSome?_linesBetween_reverse {α : Type} {f : Nat → Option α} {first stop : Nat}
    (h : first ≤ stop) {value : α} :
    (linesBetween first stop).reverse.findSome? f = some value ↔
      ∃ line, first ≤ line ∧ line < stop ∧ f line = some value ∧
        ∀ nearer, line < nearer → nearer < stop → f nearer = none := by
  induction stop, h using Nat.le_induction with
  | base =>
    rw [linesBetween_self]
    constructor
    · exact nofun
    · rintro ⟨line, hfirst, hstop, -⟩
      omega
  | succ stop hle ih =>
    rw [linesBetween_succ hle, List.reverse_append, List.reverse_singleton, List.singleton_append,
      List.findSome?_cons]
    cases hstop : f stop with
    | some found =>
      constructor
      · rintro heq
        cases heq
        exact ⟨stop, hle, Nat.lt_succ_self _, hstop, fun nearer h h' => by omega⟩
      · rintro ⟨line, -, hline, hvalue, hnearest⟩
        rcases Nat.lt_succ_iff_lt_or_eq.mp hline with hline | rfl
        · simp [hnearest stop hline (Nat.lt_succ_self _)] at hstop
        · exact hstop.symm.trans hvalue
    | none =>
      dsimp only
      rw [ih]
      constructor
      · rintro ⟨line, hfirst, hline, hvalue, hnearest⟩
        refine ⟨line, hfirst, Nat.lt_succ_of_lt hline, hvalue, fun nearer hlt hlt' => ?_⟩
        rcases Nat.lt_succ_iff_lt_or_eq.mp hlt' with hlt' | rfl
        · exact hnearest nearer hlt hlt'
        · exact hstop
      · rintro ⟨line, hfirst, hline, hvalue, hnearest⟩
        rcases Nat.lt_succ_iff_lt_or_eq.mp hline with hline | rfl
        · exact ⟨line, hfirst, hline, hvalue, fun nearer hlt hlt' =>
            hnearest nearer hlt (Nat.lt_succ_of_lt hlt')⟩
        · rw [hstop] at hvalue
          cases hvalue

-- ---------------------------------------------------------------------------
-- Runs from a line on
-- ---------------------------------------------------------------------------

/-- The longest run of lines of a kind from the line `first` on ends just above `stop`. -/
def RunFrom (kind : Nat → Prop) (first stop : Nat) : Prop :=
  IsGreatest {bound | first ≤ bound ∧ ∀ line, first ≤ line → line < bound → kind line} stop

theorem RunFrom.of_stop {kind : Nat → Prop} {first stop : Nat} (hle : first ≤ stop)
    (hlines : ∀ line, first ≤ line → line < stop → kind line) (hstop : ¬kind stop) :
    RunFrom kind first stop := by
  refine ⟨⟨hle, hlines⟩, ?_⟩
  rintro bound ⟨-, hbound⟩
  by_contra hlt
  exact hstop (hbound stop hle (not_le.mp hlt))

-- ---------------------------------------------------------------------------
-- Comments on lines
-- ---------------------------------------------------------------------------

namespace Comment

theorem exists_of_ownLine? {comments : List Comment} {line : Nat} {text : String}
    (h : ownLine? comments line = some text) :
    ∃ comment ∈ comments, comment.line = line ∧ comment.text = text ∧ comment.ownLine = true := by
  obtain ⟨comment, hfind, rfl⟩ := Option.map_eq_some_iff.mp h
  have hline := List.find?_some hfind
  simp only [Bool.and_eq_true, beq_iff_eq] at hline
  exact ⟨comment, List.mem_of_find?_eq_some hfind, hline.1, rfl, hline.2⟩

end Comment

end SocketDocs
