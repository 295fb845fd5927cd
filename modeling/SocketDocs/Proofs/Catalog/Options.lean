import SocketDocs.Catalog.WireOptions
import SocketDocs.Proofs.Source.Running

/-!
# Options that keep a field off the wire

The options of an attribute are read from left to right, as far as they are well formed. A field is
kept off the wire if one of those is `skip` or `skip_serializing` (`skip_ofAttributes`).
-/

namespace SocketDocs.WireOptions

open Source

variable {g : Grammar} {stream middle later : Stream}

def IsSkip (name : Option String) : Prop :=
  name = some "skip" ∨ name = some "skip_serializing"

def Continues (g : Grammar) (stream rest : Stream) : Prop :=
  ∃ options result later, (applyOption g options).run stream = some (result, later) ∧
    (Parser.mark ",").run later = some ((), rest)

/-- Among the options that are read from a list there is one that keeps the field off the wire. -/
inductive Skips (g : Grammar) : Stream → Prop where
  | here {stream later : Stream} {name : Option String}
      (read : optionName.run stream = some (name, later)) (skip : IsSkip name) : Skips g stream
  | later {stream rest : Stream} (continues : Continues g stream rest) (skips : Skips g rest) :
      Skips g stream

-- ---------------------------------------------------------------------------
-- One option
-- ---------------------------------------------------------------------------

theorem length_lt_of_run_optionName {name : Option String}
    (h : optionName.run stream = some (name, later)) :
    later.tokens.length < stream.tokens.length := by
  obtain ⟨leading, start, hleading, hrest⟩ := Parser.run_bind.mp h
  obtain ⟨first, middle, hfirst, hrest⟩ := Parser.run_bind.mp hrest
  have hbefore := ((Parser.mark? "::").leads hleading).length_le
  have hafter := (Parser.leads _ hrest).length_le
  obtain ⟨rest, htokens, rfl⟩ := Parser.run_anyIdentifier hfirst
  rw [htokens, List.length_cons] at hbefore
  exact Nat.lt_of_le_of_lt hafter (Nat.lt_of_succ_le hbefore)

theorem run_applyOption_of_isSkip {name : Option String}
    (h : optionName.run stream = some (name, later)) (hskip : IsSkip name) (options : WireOptions) :
    (applyOption g options).run stream = some ({ options with skip := true }, later) := by
  refine Parser.run_bind.mpr ⟨name, later, h, ?_⟩
  rcases hskip with rfl | rfl <;> exact Parser.run_pure.mpr ⟨rfl, rfl⟩

theorem run_applyOption {options result : WireOptions}
    (h : (applyOption g options).run stream = some (result, later)) :
    ∃ name middle, optionName.run stream = some (name, middle) ∧ middle.Leads later ∧
      (result.skip = true ↔ options.skip = true ∨ IsSkip name) ∧
      ∀ options', ∃ result', (applyOption g options').run stream = some (result', later) := by
  obtain ⟨name, middle, hname, hrest⟩ := Parser.run_bind.mp h
  refine ⟨name, middle, hname, Parser.leads _ hrest, ?_⟩
  split at hrest
  case h_1 | h_2 =>
    obtain ⟨value?, _, hvalue, hrest⟩ := Parser.run_bind.mp hrest
    have hresult : result.skip = options.skip ∧ ∀ options', ∃ result',
        (applyOption g options').run stream = some (result', later) := by
      cases value? <;> obtain ⟨rfl, rfl⟩ := Parser.run_pure.mp hrest
      · exact ⟨rfl, fun _ =>
          ⟨_, Parser.run_bind.mpr ⟨_, _, hname, Parser.run_bind.mpr ⟨_, _, hvalue, rfl⟩⟩⟩⟩
      · exact ⟨rfl, fun _ =>
          ⟨_, Parser.run_bind.mpr ⟨_, _, hname, Parser.run_bind.mpr ⟨_, _, hvalue, rfl⟩⟩⟩⟩
    exact ⟨by simp [hresult.1, IsSkip], hresult.2⟩
  case h_3 | h_4 =>
    obtain ⟨rfl, rfl⟩ := Parser.run_pure.mp hrest
    exact ⟨by simp [IsSkip], fun _ => ⟨_, run_applyOption_of_isSkip hname (by simp [IsSkip]) _⟩⟩
  case h_5 hrename hrenameAll hskip hskipSerializing =>
    obtain ⟨_, _, hvalue, hrest⟩ := Parser.run_bind.mp hrest
    obtain ⟨rfl, rfl⟩ := Parser.run_pure.mp hrest
    have hother : ¬IsSkip name := by
      rintro (rfl | rfl)
      · exact hskip rfl
      · exact hskipSerializing rfl
    refine ⟨by simp [hother], fun options' => ⟨options', Parser.run_bind.mpr ⟨_, _, hname, ?_⟩⟩⟩
    split
    · exact absurd rfl hrename
    · exact absurd rfl hrenameAll
    · exact absurd rfl hskip
    · exact absurd rfl hskipSerializing
    · exact Parser.run_bind.mpr ⟨_, _, hvalue, rfl⟩

-- ---------------------------------------------------------------------------
-- All options
-- ---------------------------------------------------------------------------

theorem Skips.length_pos (h : Skips g stream) : 0 < stream.tokens.length := by
  cases h with
  | here read => exact Nat.zero_lt_of_lt (length_lt_of_run_optionName read)
  | later continues =>
    obtain ⟨_, _, _, hrun, -⟩ := continues
    obtain ⟨_, _, read, -⟩ := run_applyOption hrun
    exact Nat.zero_lt_of_lt (length_lt_of_run_optionName read)

theorem not_skips_of_run_eq_none {options : WireOptions}
    (h : (applyOption g options).run stream = none) : ¬Skips g stream := by
  intro hskips
  cases hskips with
  | here read skip =>
    rw [run_applyOption_of_isSkip read skip] at h
    cases h
  | later continues =>
    obtain ⟨_, _, _, hrun, -⟩ := continues
    obtain ⟨_, _, -, -, -, hall⟩ := run_applyOption hrun
    obtain ⟨_, hrun'⟩ := hall options
    rw [hrun'] at h
    cases h

/-- After an option that is well formed the rest of the list counts, if a comma follows. -/
theorem skips_iff {options result : WireOptions} {name : Option String}
    (hname : optionName.run stream = some (name, middle))
    (h : (applyOption g options).run stream = some (result, later)) :
    Skips g stream ↔ IsSkip name ∨
      ∃ rest, (Parser.mark ",").run later = some ((), rest) ∧ Skips g rest := by
  constructor
  · intro hskips
    cases hskips with
    | here read skip =>
      rw [hname] at read
      cases read
      exact .inl skip
    | later continues skips =>
      obtain ⟨_, _, _, hrun, hmark⟩ := continues
      obtain ⟨_, _, -, -, -, hall⟩ := run_applyOption hrun
      obtain ⟨_, hrun'⟩ := hall options
      rw [h] at hrun'
      cases hrun'
      exact .inr ⟨_, hmark, skips⟩
  · rintro (hskip | ⟨rest, hmark, hskips⟩)
    · exact .here hname hskip
    · exact .later ⟨options, result, later, h, hmark⟩ hskips

theorem skip_applyAll {rounds : Nat} (hrounds : stream.tokens.length ≤ rounds)
    (options : WireOptions) :
    (applyAll g rounds options stream).skip = true ↔ options.skip = true ∨ Skips g stream := by
  induction rounds generalizing stream options with
  | zero =>
    have hnone : ¬Skips g stream := fun hskips => by
      have := hskips.length_pos
      omega
    simp [applyAll, hnone]
  | succ rounds ih =>
    rw [applyAll]
    split
    · rename_i hempty
      have hnone : ¬Skips g stream := fun hskips => by
        have := hskips.length_pos
        simp_all
      simp [hnone]
    split
    · rename_i hrun
      simp [not_skips_of_run_eq_none hrun]
    · rename_i result later hrun
      obtain ⟨name, middle, hname, hleads, hskip, -⟩ := run_applyOption hrun
      split
      · rename_i rest hmark
        have hlength : rest.tokens.length ≤ rounds := by
          have := length_lt_of_run_optionName hname
          have := hleads.length_le
          have := ((Parser.mark ",").leads hmark).length_le
          omega
        rw [ih hlength, hskip, skips_iff hname hrun, or_assoc]
        simp [hmark]
      · rename_i hmark
        rw [hskip, skips_iff hname hrun]
        simp [hmark]

theorem skip_applyAttribute (options : WireOptions) (mark : Attribute) :
    (applyAttribute options mark).skip = true ↔ options.skip = true ∨
      mark.name = some "serde" ∧ ∃ tokens, mark.arguments = some tokens ∧
        Skips (grammarFor tokens) ⟨tokens, mark.line, false⟩ := by
  unfold applyAttribute
  split
  · rename_i tokens hname harguments
    have hrounds : (⟨tokens, mark.line, false⟩ : Stream).tokens.length ≤ tokens.length :=
      Nat.le_refl _
    rw [skip_applyAll hrounds]
    simp [hname, harguments]
  · rename_i hother
    constructor
    · exact .inl
    · rintro (hskip | ⟨hname, tokens, harguments, -⟩)
      · exact hskip
      · exact absurd harguments (hother tokens hname)

def Hides (attributes : List Attribute) : Prop :=
  ∃ mark ∈ attributes, mark.name = some "serde" ∧ ∃ tokens, mark.arguments = some tokens ∧
    Skips (grammarFor tokens) ⟨tokens, mark.line, false⟩

theorem skip_ofAttributes (attributes : List Attribute) :
    (ofAttributes attributes).skip = true ↔ Hides attributes := by
  have hfold : ∀ options : WireOptions, (attributes.foldl applyAttribute options).skip = true ↔
      options.skip = true ∨ Hides attributes := by
    induction attributes with
    | nil => simp [Hides]
    | cons mark rest ih =>
      intro options
      rw [List.foldl_cons, ih, skip_applyAttribute, or_assoc]
      simp [Hides]
  rw [ofAttributes, hfold]
  simp

instance (attributes : List Attribute) : Decidable (Hides attributes) :=
  decidable_of_iff _ (skip_ofAttributes attributes)

end SocketDocs.WireOptions
