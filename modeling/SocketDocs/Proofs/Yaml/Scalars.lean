import SocketDocs.Document.OfYaml

/-!
# The values of scalars
-/

namespace SocketDocs.Yaml

open Json (Value)

-- ---------------------------------------------------------------------------
-- Plain scalars
-- ---------------------------------------------------------------------------

namespace Meaning

theorem float?_cases {text : String} {m : Meaning} (h : float? text = some m) :
    (m = .nonFinite ∧ spellsNonFinite text = true) ∨
      (∃ x, m = .double x) ∧ spellsNonFinite text = false := by
  unfold float? at h
  split at h
  · cases h
    exact .inl ⟨rfl, ‹_›⟩
  · obtain ⟨x, -, rfl⟩ := Option.map_eq_some_iff.mp h
    exact .inr ⟨⟨x, rfl⟩, Bool.eq_false_iff.mpr ‹_›⟩

theorem float?_ne_null {text : String} {m : Meaning} (h : float? text = some m) : m ≠ .null := by
  rcases float?_cases h with ⟨rfl, -⟩ | ⟨⟨x, rfl⟩, -⟩ <;> simp

theorem ofText_eq_null_iff {text : String} :
    ofText text = .null ↔ (text.isEmpty || isNull text) = true := by
  unfold ofText
  split
  · simp [*]
  · rename_i hnull
    simp only [hnull, iff_false, Bool.false_eq_true]
    split
    · simp
    · simp
    · split
      · simp
      · cases hf : float? text with
        | none => simp
        | some m => exact float?_ne_null hf

theorem bool?_of_ofText {text : String} {b : Bool} (h : ofText text = .bool b) :
    bool? text = some b := by
  unfold ofText at h
  split at h
  · cases h
  · split at h
    · cases h
      assumption
    · cases h
    · split at h
      · cases h
      · cases hf : float? text with
        | none => rw [hf] at h; cases h
        | some m =>
          rw [hf, Option.getD_some] at h
          subst h
          rcases float?_cases hf with ⟨hm, -⟩ | ⟨⟨x, hm⟩, -⟩ <;> cases hm

theorem ofText_of_spellsNonFinite {text : String} (h : spellsNonFinite text = true) :
    ofText text = .nonFinite := by
  simp only [spellsNonFinite, List.contains_iff_mem, List.mem_cons, List.not_mem_nil,
    or_false] at h
  obtain rfl | rfl | rfl | rfl | rfl | rfl | rfl | rfl | rfl | rfl | rfl | rfl := h <;> rfl

theorem float?_eq_nonFinite_iff {text : String} :
    float? text = some .nonFinite ↔ spellsNonFinite text = true := by
  unfold float?
  split
  · simp [*]
  · simp [*]

theorem ofText_eq_nonFinite_iff {text : String} :
    ofText text = .nonFinite ↔ spellsNonFinite text = true := by
  refine ⟨?_, ofText_of_spellsNonFinite⟩
  intro h
  unfold ofText at h
  split at h
  · cases h
  · split at h
    · cases h
    · cases h
    · split at h
      · cases h
      · cases hf : float? text with
        | none => rw [hf] at h; cases h
        | some m =>
          rw [hf, Option.getD_some] at h
          rw [← float?_eq_nonFinite_iff, hf, h]

end Meaning

-- ---------------------------------------------------------------------------
-- Scalars with or without a tag
-- ---------------------------------------------------------------------------

namespace Spot

def isNullScalar (tag : Option String) (style : ScalarStyle) (text : String) : Bool :=
  match tag with
  | none =>
    style == .plain && (text.isEmpty || Meaning.isNull text || Meaning.spellsNonFinite text)
  | some tag =>
    (tag == coreTag "float" && Meaning.spellsNonFinite text) ||
      (tag == coreTag "null" && Meaning.isNull text)

@[simp] theorem coreTag_inj {a b : String} : coreTag a = coreTag b ↔ a = b := by
  unfold coreTag
  exact String.append_right_inj _

theorem ofMeaning?_eq_null_iff {text : String} {m : Meaning} :
    ofMeaning? text m = some .null ↔ m = .null ∨ m = .nonFinite := by
  cases m <;> simp [ofMeaning?, integer?, Value.ofInt]

theorem scalarValue?_eq_null_iff {tag : Option String} {style : ScalarStyle} {text : String} :
    scalarValue? tag style text = some .null ↔ isNullScalar tag style text = true := by
  cases tag with
  | none =>
    by_cases hs : style = .plain
    · simp only [scalarValue?, isNullScalar, hs, if_true, beq_self_eq_true, Bool.true_and]
      rw [ofMeaning?_eq_null_iff, Meaning.ofText_eq_nonFinite_iff, Meaning.ofText_eq_null_iff,
        ← Bool.or_eq_true]
    · simp [scalarValue?, isNullScalar, hs]
  | some tag =>
    have hfloat : (Meaning.float? text).bind (ofMeaning? text) = some .null ↔
        Meaning.spellsNonFinite text = true := by
      rw [← Meaning.float?_eq_nonFinite_iff]
      cases hf : Meaning.float? text with
      | none => simp
      | some m =>
        have hm : m ≠ .null := Meaning.float?_ne_null hf
        simp [ofMeaning?_eq_null_iff, hm]
    -- One tag at a time: the words for the four tags differ.
    by_cases hbool : tag = coreTag "bool"
    · subst hbool
      simp [scalarValue?, isNullScalar]
    by_cases hint : tag = coreTag "int"
    · subst hint
      cases hi : Meaning.int? text.toList <;>
        simp [scalarValue?, isNullScalar, hi, integer?, Value.ofInt]
    by_cases htag : tag = coreTag "float"
    · subst htag
      simpa [scalarValue?, isNullScalar] using hfloat
    by_cases hnull : tag = coreTag "null"
    · subst hnull
      simp [scalarValue?, isNullScalar]
    · simp [scalarValue?, isNullScalar, hbool, hint, htag, hnull]

end Spot

end SocketDocs.Yaml
