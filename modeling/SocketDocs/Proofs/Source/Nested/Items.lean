import SocketDocs.Proofs.Source.Nested.Expressions

/-!
# Items in items

All rules of the grammar collect items, so in a file the lines of an item lie inside those of every
item that it stands in (`SourceFile.exists_nested_of_parse?`).
-/

namespace SocketDocs.Source

open SocketDocs.Source.Parser HasItems

theorem collects_ignored {first : Nat} {held : List Item} :
    Collects first held (pure Item.ignored) :=
  .other (List.nil_subset _)

theorem collects_macroItem (named : Bool) {first : Nat} {held : List Item} :
    Collects first held (macroItem named) := by
  unfold macroItem
  refine .next fun _ => .next fun _ => ?_
  extract_lets ended rest
  have hrest : ∀ u, Collects first held (rest u) := by
    refine fun _ => .next fun braces => ?_
    exact .ite (.next fun _ => collects_ignored) collects_ignored
  exact .ite (.next fun _ => .ite (.next hrest) (hrest ())) (hrest ())

namespace Grammar

variable {g : Grammar} (h : g.Collecting) {first : Nat} {held : List Item}
include h

-- ---------------------------------------------------------------------------
-- Functions
-- ---------------------------------------------------------------------------

theorem collects_receiver : Collects first held g.receiver := by
  unfold receiver
  refine .next fun reference => ?_
  extract_lets rest
  have hrest : Collects first held (rest ()) := by
    refine .next fun _ => .next fun _ => .next fun _ => .ite ?_ (.pure (by simp))
    exact collects_typeItems h true
  exact .ite (.next fun _ => hrest) hrest

theorem collects_typedArgument : Collects first held g.typedArgument := by
  refine .next fun _ => .ite ?_ (.bind h.pattern fun _ => .next fun _ => .next fun _ => ?_)
  · exact .bind (collects_typeItems h true) fun _ => .pure (by simp)
  · refine .ite (.pure (by simp)) ?_
    exact .bind (collects_typeItems h true) fun _ => .pure (by simp)

omit h in
theorem collects_closeVariadic (found : List Item) :
    Collects first found (closeVariadic found) := by
  unfold closeVariadic
  refine .next fun _ => ?_
  extract_lets rest
  have hrest : Collects first found (rest ()) := .pure (by simp)
  exact .ite (.next fun _ => hrest) hrest

theorem collects_argumentStep (state : Bool × List Item) :
    Collects first (items state) (g.argumentStep state) := by
  obtain ⟨isFirst, found⟩ := state
  refine .next fun _ => .ite (.pure (by simp)) ?_
  refine .bind (collects_outerAttributeItems h) fun before => .next fun _ => .ite ?_ ?_
  · exact (collects_closeVariadic _).mono (by simp)
  extract_lets rest
  have hrest : ∀ argument : List Item × Bool, Collects first
      (items (isFirst, found) ++ items before ++ items argument) (rest argument) := by
    rintro ⟨inside, isOpen⟩
    dsimp -zeta only [rest]
    extract_lets longer
    refine .ite ?_ (.next fun _ => .ite ?_ ?_)
    · exact (collects_closeVariadic _).mono (by simp [longer])
    · exact .pure (by simp [longer])
    · exact .next fun _ => .pure (by simp [longer])
  refine .bind (.attempt (collects_receiver h)) fun receiver? => ?_
  cases receiver? with
  | some receiver =>
    refine .ite (.pass ((hrest (receiver, false)).mono (by simp))) (.bind .fail fun found => ?_)
    exact (hrest found).mono (by simp +contextual [List.subset_def, or_imp])
  | none => exact .bind (collects_typedArgument h) fun found => (hrest found).mono (by simp)

theorem collects_signature (allowSafe : Bool) : Collects first held (g.signature allowSafe) := by
  refine .next fun _ => .next fun line => .next fun _ => .next fun _ => ?_
  refine .bind (collects_genericItems h) fun _ => ?_
  refine .bind (.inGroup (.iterate (collects_argumentStep h) (by simp))) fun _ => ?_
  refine .bind (collects_returnItems h true) fun _ => .bind (collects_whereItems h) fun _ => ?_
  exact .pure (by simp)

omit h in
theorem collects_functionItem (attributes : List Attribute) :
    Collects first held (g.functionItem first attributes) := by
  refine .next fun _ => .next fun _ => .ite collects_ignored (.next fun _ => ?_)
  exact .enclose (fun _ => rfl) fun _ => List.nil_subset _

-- ---------------------------------------------------------------------------
-- Imports, statics, constants, type names
-- ---------------------------------------------------------------------------

omit h in
theorem collects_useItem : Collects first held g.useItem :=
  .next fun _ => .next fun _ => .next fun _ => .next fun _ => collects_ignored

theorem collects_staticItem (outside : List Item) :
    Collects first outside (g.staticItem outside) := by
  refine .next fun _ => .next fun _ => .next fun _ => .next fun _ => .ite ?_ (.next fun _ => ?_)
  · exact .next fun _ => .next fun _ => collects_ignored
  refine .bind (collects_typeItems h true) fun _ => .next fun _ => .ite collects_ignored ?_
  exact .next fun _ => .bind (collects_exprItems h) fun _ => .next fun _ => .other (by simp)

theorem collects_constantRest (outside : List Item) (needsValue : Bool) :
    Collects first outside (g.constantRest outside needsValue) := by
  unfold constantRest
  refine .next fun _ => .next fun _ => .next fun _ => .next fun _ => ?_
  refine .bind (collects_typeItems h true) fun type => .next fun _ => ?_
  extract_lets rest
  have hrest : ∀ value : Option (List Item),
      Collects first (outside ++ items type ++ items value) (rest value) :=
    fun value => .next fun _ => .next fun _ => .ite collects_ignored (.other (by simp))
  refine .ite (.bind (collects_exprItems h) fun _ => ?_) (.bind (.pure (by simp)) hrest)
  exact .pass ((hrest _).mono (by simp))

theorem collects_typeNameRest (place : WherePlace) :
    Collects first held (g.typeNameRest place) := by
  unfold typeNameRest
  refine .next fun _ => .next fun _ => .bind (collects_genericItems h) fun parameters => ?_
  extract_lets boundsEnd
  refine .next fun bounded => ?_
  extract_lets afterBounds
  have hafterBounds : ∀ bounds : List BoundInfo,
      Collects first (held ++ items parameters ++ items bounds) (afterBounds bounds) := by
    intro bounds
    dsimp -zeta only [afterBounds]
    extract_lets afterBefore
    have hafterBefore : ∀ before : Option (List Item),
        Collects first (held ++ items parameters ++ items bounds ++ items before)
          (afterBefore before) := by
      refine fun before => .next fun valued => ?_
      extract_lets afterValue
      have hafterValue : ∀ value : Option (List Item),
          Collects first
            (held ++ items parameters ++ items bounds ++ items before ++ items value)
            (afterValue value) := by
        intro value
        dsimp -zeta only [afterValue]
        extract_lets rest
        have hrest : ∀ after : Option (List Item),
            Collects first
              (held ++ items parameters ++ items bounds ++ items before ++ items value ++
                items after) (rest after) :=
          fun after => .next fun _ => .pure (by simp)
        exact .ite (.bind (.pure (by simp)) hrest) (.bind (collects_whereClause? h) hrest)
      refine .ite (.bind (collects_typeItems h true) fun type => ?_) ?_
      · exact .pass ((hafterValue _).mono (by simp))
      · exact .bind (.pure (by simp)) hafterValue
    exact .ite (.bind (.pure (by simp)) hafterBefore) (.bind (collects_whereClause? h) hafterBefore)
  refine .ite (.bind (.separatedUntil (collects_bound h false true)) hafterBounds) ?_
  exact .bind (.pure (by simp)) hafterBounds

theorem collects_typeNameItem (outside : List Item) :
    Collects first outside (g.typeNameItem outside) :=
  .bind (collects_typeNameRest h _) fun _ => .ite (.other (by simp)) collects_ignored

-- ---------------------------------------------------------------------------
-- Structs, enums, unions
-- ---------------------------------------------------------------------------

theorem collects_namedField : Collects first held g.namedField := by
  unfold namedField
  refine .bind (collects_outerAttributes h) fun before => .next fun _ => .next fun _ => ?_
  extract_lets nestedAhead rest
  have hrest : ∀ found, Collects first (held ++ items before) (rest found) := by
    refine fun found => .next fun _ => .next fun _ => .ite ?_ (.bind (h.type true) fun _ => ?_)
    · exact .next fun _ => .next fun _ => .next fun _ => .next fun _ => .pure (by simp)
    · exact .next fun _ => .pure (by simp)
  exact .ite (.next hrest) (.next hrest)

theorem collects_namedFields : Collects first held g.namedFields := by
  refine .next fun openLine => ?_
  exact .bind (.inGroup (.separatedUntil (collects_namedField h))) fun _ => .pure (by simp)

theorem collects_tupleFields : Collects first held g.tupleFields := by
  refine .bind (.inGroup (.separatedUntil ?_)) fun _ => .pure (by simp)
  refine .bind (collects_outerAttributeItems h) fun _ => .next fun _ => ?_
  exact .bind (collects_typeItems h true) fun _ => .pure (by simp)

theorem collects_structItem (attributes : List Attribute) (outside : List Item) :
    Collects first outside (g.structItem attributes outside) := by
  unfold structItem
  refine .next fun _ => .next fun _ => .bind (collects_genericItems h) fun _ => ?_
  refine .bind (collects_whereClause? h) fun conditions => ?_
  extract_lets before
  refine .next fun _ => .ite ?_ (.next fun _ => .ite ?_ ?_)
  · refine .bind (collects_tupleFields h) fun _ => .bind (collects_whereItems h) fun _ => ?_
    exact .next fun _ => .struct (by simp [before])
  · exact .bind (collects_namedFields h) fun _ => .struct (by simp [before])
  · exact .next fun _ => .struct (by simp [before])

theorem collects_variant : Collects first held g.variant := by
  unfold variant
  refine .bind (collects_outerAttributeItems h) fun before => .next fun _ => .next fun _ => ?_
  extract_lets afterFields
  have hafterFields : ∀ fields : List Item,
      Collects first (held ++ items before ++ items fields) (afterFields fields) := by
    refine fun fields => .next fun _ => ?_
    extract_lets rest
    have hrest : ∀ value : List Item,
        Collects first (held ++ items before ++ items fields ++ items value) (rest value) :=
      fun value => .pure (by simp)
    exact .ite (.bind (collects_exprItems h) hrest) (.bind (.pure (by simp)) hrest)
  refine .next fun _ => .next fun _ => .ite ?_ (.ite ?_ ?_)
  · exact .bind (collects_namedFields h) fun _ => .pass ((hafterFields _).mono (by simp))
  · exact .bind (collects_tupleFields h) hafterFields
  · exact .bind (.pure (by simp)) hafterFields

theorem collects_enumItem (outside : List Item) :
    Collects first outside (g.enumItem outside) := by
  refine .next fun _ => .next fun _ => .bind (collects_genericItems h) fun _ => ?_
  refine .bind (collects_whereItems h) fun _ => ?_
  exact .bind (.inGroup (.separatedUntil (collects_variant h))) fun _ => .other (by simp)

theorem collects_unionItem (outside : List Item) :
    Collects first outside (g.unionItem outside) := by
  refine .next fun _ => .next fun _ => .bind (collects_genericItems h) fun _ => ?_
  refine .bind (collects_whereItems h) fun _ => ?_
  exact .bind (collects_namedFields h) fun _ => .other (by simp)

-- ---------------------------------------------------------------------------
-- Modules and foreign blocks
-- ---------------------------------------------------------------------------

theorem collects_moduleItem (attributes : List Attribute) (outside : List Item) :
    Collects first outside (g.moduleItem first attributes outside) := by
  unfold moduleItem
  refine .next fun _ => .next fun _ => .next fun _ => ?_
  extract_lets rest
  have hrest : ∀ found, Collects first outside (rest found) := by
    refine fun found => .next fun _ => .ite ?_ (.bind (.inGroup ?_) fun _ => ?_)
    · exact .enclose (fun _ => rfl) fun _ => by simp [Item.members]
    · refine .bind (collects_innerAttributes h) fun _ => .bind (.manyWhile h.item) fun _ => ?_
      exact .pure (by simp)
    · exact .enclose (fun _ => rfl) fun _ => by simp [Item.members]
  exact .ite (.next hrest) (.next hrest)

omit h in
theorem collects_externCrate : Collects first held externCrate := by
  unfold externCrate
  refine .next fun _ => .next fun _ => .next fun _ => ?_
  extract_lets ended renamed
  have hended : ∀ u, Collects first held (ended u) := fun _ => .next fun _ => collects_ignored
  have hrenamed : ∀ u, Collects first held (renamed u) :=
    fun _ => .next fun _ => .ite (.next fun _ => .next hended) (hended ())
  exact .ite (.next hrenamed) (.next fun _ => hrenamed ())

theorem collects_foreignStatic (before : List Item) :
    Collects first before (g.foreignStatic before) := by
  unfold foreignStatic
  refine .next fun _ => ?_
  extract_lets rest
  have hrest : ∀ isSafe, Collects first before (rest isSafe) := by
    refine fun isSafe => .next fun _ => .next fun _ => .next fun _ => .next fun _ => ?_
    refine .bind (collects_typeItems h true) fun type => .next fun valued => ?_
    extract_lets ended
    have hended : Collects first (before ++ items type) (ended ()) :=
      .next fun _ => .ite (.pure (by simp)) (.pure (by simp))
    exact .ite (.next fun _ => hended) hended
  exact .ite (.next hrest) (.next hrest)

theorem collects_foreignItem : Collects first held g.foreignItem := by
  unfold foreignItem
  refine .bind (collects_outerAttributeItems h) fun before => .next fun visible => ?_
  extract_lets staticAhead
  refine .next fun _ => .ite (.next fun _ => .bind (collects_signature h true) fun _ => ?_) ?_
  · refine .next fun _ => .ite (.next fun _ => .pure (by simp)) (.next fun _ => .ite ?_ ?_)
    · exact .pure (by simp)
    · exact .pure (by simp)
  refine .next fun _ => .ite ((collects_foreignStatic h before).mono (by simp)) (.next fun _ => ?_)
  refine .ite (.bind (collects_typeNameRest h _) fun _ => .ite ?_ ?_) (.next fun _ => .ite ?_ .fail)
  · exact .pure (by simp)
  · exact .pure (by simp)
  · exact .next fun _ => .pure (by simp)

theorem collects_foreignBlock (outside : List Item) :
    Collects first outside (g.foreignBlock outside) := by
  refine .next fun _ => .next fun _ => .next fun _ => .bind (.inGroup ?_) fun _ => ?_
  · refine .bind (collects_innerAttributes h) fun _ => ?_
    exact .bind (.manyWhile (collects_foreignItem h)) fun _ => .pure (by simp)
  · exact .other (by simp)

-- ---------------------------------------------------------------------------
-- Traits and implementations
-- ---------------------------------------------------------------------------

theorem collects_traitMember : Collects first held g.traitMember := by
  unfold traitMember
  refine .currentLine fun line => .bind (collects_outerAttributes h) fun before => ?_
  refine .next fun visible => .next fun standard => ?_
  extract_lets rest
  have hrest : ∀ held' found, Collects line (held' ++ items found) (rest found) :=
    fun _ found => .ite collects_ignored (.pure (by simp))
  refine .next fun _ => .next fun _ => .next fun _ => .next fun _ => .ite ?_ (.ite ?_ (.ite ?_ ?_))
  · refine .next fun signature => .next fun _ => ?_
    extract_lets ended
    have hended : ∀ inner, Collects line ([] ++ items before) (ended inner) :=
      fun inner => .enclose_bind (fun _ => rfl) (fun _ => List.nil_subset _) (hrest _)
    exact .ite (.next fun _ => .next hended) (.next fun _ => .next hended)
  · exact .bind ((collects_constantRest h before.2 false).mono (by simp)) (hrest _)
  · exact .bind (collects_typeNameRest h _) fun _ => .bind (.other (by simp)) (hrest _)
  · exact .ite (.next fun _ => .bind (.other (by simp)) (hrest _)) (.bind .fail (hrest _))

theorem collects_implMember : Collects first held g.implMember := by
  unfold implMember
  refine .currentLine fun line => .bind (collects_outerAttributes h) fun found => ?_
  obtain ⟨attributes, before⟩ := found
  refine .next fun visible => ?_
  extract_lets standardAhead
  refine .next fun standard => ?_
  extract_lets rest
  have hrest : ∀ u, Collects line ([] ++ items (attributes, before)) (rest u) := by
    refine fun _ => .next fun _ => .ite (.next fun _ => .next fun _ => ?_) (.next fun _ => ?_)
    · refine .ite collects_ignored (.next fun _ => ?_)
      exact .enclose (fun _ => rfl) fun _ => List.nil_subset _
    refine .ite ((collects_constantRest h before true).mono (by simp)) (.next fun _ => .ite ?_ ?_)
    · exact .bind (collects_typeNameRest h _) fun _ => .ite (.other (by simp)) collects_ignored
    · exact .next fun _ => .ite (.next fun _ => .other (by simp)) .fail
  exact .ite (.next hrest) (hrest ())

theorem collects_traitRest (attributes : List Attribute) (name : String) (before : List Item) :
    Collects first before (g.traitRest first attributes name before) := by
  unfold traitRest
  extract_lets stop rest
  have hrest : ∀ bounds : List BoundInfo,
      Collects first (before ++ items bounds) (rest bounds) := by
    refine fun bounds => .bind (collects_whereItems h) fun conditions => ?_
    refine .bind (.inGroup ?_) fun found => .enclose (fun _ => rfl) fun _ => ?_
    · refine .bind (collects_innerAttributes h) fun _ => ?_
      refine .bind (.manyWhile (collects_traitMember h)) fun _ => .pure ?_
      simp +contextual [List.subset_def]
    · simp +contextual [Item.members, List.subset_def]
  refine .next fun _ => .ite ?_ (.bind (.pure (by simp)) hrest)
  exact .bind (.separatedUntil (collects_bound h false true)) hrest

theorem collects_traitItem (attributes : List Attribute) (outside : List Item) :
    Collects first outside (g.traitItem first attributes outside) := by
  unfold traitItem
  refine .next fun plain => .next fun _ => .next fun _ => .next fun _ => .next fun _ => ?_
  refine .bind (collects_genericItems h) fun parameters => .next fun _ => .ite ?_ ?_
  · refine .bind (.separatedUntil (collects_bound h false true)) fun _ => ?_
    exact .bind (collects_whereItems h) fun _ => .next fun _ => .other (by simp)
  · exact (collects_traitRest h attributes _ _).mono (by simp)

theorem collects_implItem (attributes : List Attribute) (visible : Bool) (outside : List Item) :
    Collects first outside (g.implItem first attributes visible outside) := by
  unfold implItem
  refine .next fun _ => .next fun _ => .next fun _ => .next fun _ => ?_
  extract_lets constAhead negativeAhead afterParameters
  have hafterParameters : ∀ parameters : List Item,
      Collects first (outside ++ items parameters) (afterParameters parameters) := by
    refine fun parameters => .next fun isConst => ?_
    extract_lets afterConst
    have hafterConst : ∀ u, Collects first (outside ++ items parameters) (afterConst u) := by
      refine fun _ => .next fun negative => ?_
      extract_lets afterNegative
      have hafterNegative : ∀ u,
          Collects first (outside ++ items parameters) (afterNegative u) := by
        refine fun _ => .bind (h.type true) fun start => .next fun isFor => ?_
        extract_lets rest
        have hrest : ∀ self : TypeInfo, Collects first
            (outside ++ items parameters ++ items start ++ items self) (rest self) := by
          refine fun self => .bind (collects_whereItems h) fun conditions => ?_
          refine .bind (.inGroup ?_) fun found => .ite collects_ignored ?_
          · refine .bind (collects_innerAttributes h) fun _ => ?_
            refine .bind (.manyWhile (collects_implMember h)) fun _ => .pure ?_
            simp +contextual [List.subset_def]
          · refine .enclose (fun _ => rfl) fun _ => ?_
            cases isFor <;> simp +contextual [Item.members, List.subset_def, or_imp]
        exact .ite (.bind (h.type true) hrest) (.bind (.pure (by simp)) hrest)
      exact .ite (.next hafterNegative) (hafterNegative ())
    exact .ite (.next fun _ => .next hafterConst) (hafterConst ())
  refine .ite (.bind (collects_genericItems h) hafterParameters) ?_
  exact .bind (.pure (by simp)) hafterParameters

omit h in
theorem collects_macroDeclaration : Collects first held macroDeclaration := by
  unfold macroDeclaration
  refine .next fun _ => .next fun _ => .next fun _ => ?_
  extract_lets rest
  have hrest : ∀ u, Collects first held (rest u) :=
    fun _ => .next fun _ => .next fun _ => collects_ignored
  exact .ite (.next hrest) (hrest ())

theorem collects_externItem (visible : Bool) (outside : List Item) :
    Collects first outside (g.externItem visible outside) :=
  .next fun _ => .ite collects_externCrate (.ite .fail (collects_foreignBlock h outside))

theorem collects_unsafeItem (visible : Bool) (attributes : List Attribute)
    (outside : List Item) :
    Collects first outside (g.unsafeItem first visible attributes outside) := by
  unfold unsafeItem
  extract_lets next autoTrait
  refine .next fun _ => .ite (collects_traitItem h attributes outside) (.next fun _ => ?_)
  refine .ite (collects_implItem h attributes visible outside) (.next fun _ => .ite ?_ ?_)
  · have hforeign : Collects first outside (g.foreignBlock outside) :=
      collects_foreignBlock h outside
    exact .ite (.next fun _ => hforeign) hforeign
  · exact .next fun _ => collects_moduleItem h attributes outside

theorem collects_itemRule : Collects first held g.itemRule := by
  unfold itemRule
  refine .currentLine fun line => .bind (collects_outerAttributes h) fun found => ?_
  obtain ⟨attributes, outside⟩ := found
  have hheld : [] ++ items (attributes, outside) = outside := by simp
  rw [hheld]
  refine .next fun visible => ?_
  extract_lets key
  refine .next fun _ => .ite (collects_functionItem attributes) (.next fun _ => ?_)
  refine .ite (collects_externItem h visible outside) (.next fun _ => ?_)
  refine .ite collects_useItem (.next fun _ => ?_)
  refine .ite (collects_staticItem h outside) (.next fun _ => ?_)
  refine .ite (collects_constantRest h outside true) (.next fun _ => ?_)
  refine .ite (collects_unsafeItem h visible attributes outside) (.next fun _ => ?_)
  refine .ite (collects_moduleItem h attributes outside) (.next fun _ => ?_)
  refine .ite (collects_typeNameItem h outside) (.next fun _ => ?_)
  refine .ite (collects_structItem h attributes outside) (.next fun _ => ?_)
  refine .ite (collects_enumItem h outside) (.next fun _ => ?_)
  refine .ite (collects_unionItem h outside) (.next fun _ => ?_)
  refine .ite (collects_traitItem h attributes outside) (.next fun _ => ?_)
  refine .ite (collects_traitItem h attributes outside) (.next fun _ => ?_)
  refine .ite (collects_implItem h attributes visible outside) (.next fun _ => ?_)
  refine .ite collects_macroDeclaration (.next fun _ => ?_)
  exact .ite (collects_macroItem true) .fail

-- ---------------------------------------------------------------------------
-- Whole files
-- ---------------------------------------------------------------------------

theorem collects_file : Collects first held g.file := by
  refine .bind (collects_innerAttributes h) fun _ => .bind (.manyWhile h.item) fun _ => .pure_of ?_
  rw [HasItems.items_items]
  refine List.forall_mem_cons.mpr ⟨.inr ⟨rfl, ?_⟩, fun item hitem => .inl ?_⟩
  · simp +contextual [Item.members, List.subset_def]
  · simp [hitem]

omit h in
theorem collecting_bounded (fuel : Nat) : (bounded fuel).Collecting := by
  induction fuel with
  | zero => constructor <;> intros <;> exact .fail
  | succ fuel ih =>
    exact {
      type := collects_typeRule ih
      path := collects_pathRule ih
      genericParameter := collects_genericParameterRule ih
      unary := collects_unaryRule ih
      climb := collects_climbRule ih
      early := collects_earlyRule ih
      pattern := collects_patternRule ih
      statements := collects_statementsRule ih
      item := collects_itemRule ih }

end Grammar

end SocketDocs.Source

namespace SocketDocs

open Source

/-- In a file every item stands inside the lines of the items around it. -/
theorem SourceFile.exists_nested_of_parse? {path text : String} {file : SourceFile}
    (h : SourceFile.parse? path text = some file) :
    ∃ last, ∀ item ∈ file.items, item.Nested ⟨1, last⟩ := by
  obtain ⟨fuel, tokens, last, later, horder, hrun⟩ := exists_run_of_parse? h
  have hstart : Stream.Holds 1 [] ⟨tokens, 1, false⟩ := ⟨⟨last, horder⟩, ⟨last, horder⟩, by simp⟩
  have hend : later.Holds 1 (HasItems.items file.items) :=
    Grammar.collects_file (Grammar.collecting_bounded fuel) _ later _ hstart hrun
  rw [HasItems.items_items] at hend
  exact ⟨later.lastLine, hend.nested⟩

end SocketDocs
