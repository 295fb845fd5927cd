import SocketDocs.Proofs.Source.Nested.Parsers

/-!
# Items in types and patterns

If the rules that others call recursively collect items, then so do the rules for attributes, paths,
types and patterns. Where the branches of a rule meet again, `rest` is what they have in common.
-/

namespace SocketDocs.Source

open SocketDocs.Source.Parser HasItems

structure Grammar.Collecting (g : Grammar) : Prop where
  type {first held} (allowPlus : Bool) : Collects first held (g.type allowPlus)
  path {first held} (exprStyle : Bool) : Collects first held (g.path exprStyle)
  genericParameter {first held} : Collects first held g.genericParameter
  unary {first held} (allowStruct : Bool) : Collects first held (g.unary allowStruct)
  climb {first} (left : ExprInfo) (allowStruct : Bool) (base : Nat) :
    Collects first left.items (g.climb left allowStruct base)
  early {first held} : Collects first held g.early
  pattern {first held} : Collects first held g.pattern
  statements {first held} : Collects first held g.statements
  item {first held} : Collects first held g.item

namespace Grammar

variable {g : Grammar} (h : g.Collecting) {first : Nat} {held : List Item}
include h

theorem collects_typeItems (allowPlus : Bool) : Collects first held (g.typeItems allowPlus) :=
  .bind (h.type allowPlus) fun _ => .pure (by simp)

theorem collects_exprWith (allowStruct : Bool) : Collects first held (g.exprWith allowStruct) :=
  .bind (h.unary allowStruct) fun _ => (h.climb _ allowStruct 0).mono (by simp)

theorem collects_exprItems : Collects first held g.exprItems :=
  .bind (collects_exprWith h true) fun _ => .pure (by simp)

-- ---------------------------------------------------------------------------
-- Attributes
-- ---------------------------------------------------------------------------

theorem collects_attributeValue : Collects first held g.attributeValue := by
  unfold attributeValue
  refine .next fun _ => .next fun _ => .ite ?_ ?_
  · exact .next fun _ => collects_exprItems h
  · exact collects_exprItems h

theorem collects_attributeBody (line : Nat) : Collects first held (g.attributeBody line) := by
  unfold attributeBody
  refine .next fun _ => ?_
  extract_lets rest
  have hrest : ∀ found, Collects first held (rest found) := by
    rintro ⟨leading, names⟩
    refine .next fun _ => ?_
    split
    · exact .next fun _ => .pure (by simp)
    · refine .next fun _ => .ite ?_ (.pure (by simp))
      exact .bind (collects_attributeValue h) fun _ => .pure (by simp)
  exact .ite (.next hrest) (.next hrest)

theorem collects_outerAttribute : Collects first held g.outerAttribute :=
  .currentLine fun line => .next fun _ => .inGroup (collects_attributeBody h line)

theorem collects_innerAttribute : Collects first held g.innerAttribute :=
  .currentLine fun line => .next fun _ => .next fun _ => .inGroup (collects_attributeBody h line)

theorem collects_outerAttributes : Collects first held g.outerAttributes := by
  refine .bind (.manyWhile (collects_outerAttribute h)) fun _ => .pure fun _ _ => ?_
  simp_all [collectAttributes]

theorem collects_innerAttributes : Collects first held g.innerAttributes := by
  refine .bind (.manyWhile (collects_innerAttribute h)) fun _ => .pure fun _ _ => ?_
  simp_all [collectAttributes]

theorem collects_outerAttributeItems : Collects first held g.outerAttributeItems :=
  .bind (collects_outerAttributes h) fun _ => .pure (by simp)

theorem collects_blockWithAttributes : Collects first held g.blockWithAttributes := by
  refine .inGroup (.bind (collects_innerAttributes h) fun _ => .bind h.statements fun _ => ?_)
  exact .pure (by simp)

theorem collects_block : Collects first held g.block :=
  .bind (collects_blockWithAttributes h) fun _ => .pure (by simp)

-- ---------------------------------------------------------------------------
-- Paths and bounds
-- ---------------------------------------------------------------------------

theorem collects_constArgument : Collects first held g.constArgument := by
  unfold constArgument
  refine .next fun _ => .ite (.next fun _ => .pure (by simp)) (.next fun _ => .ite ?_ ?_)
  · exact .next fun _ => .pure (by simp)
  · exact collects_block h

theorem collects_boundLifetimes : Collects first held g.boundLifetimes := by
  refine .next fun _ => .next fun _ => ?_
  exact .bind (.separatedUntil h.genericParameter) fun _ => .next fun _ => .pure (by simp)

theorem collects_boundLifetimes? : Collects first held g.boundLifetimes? := by
  refine .next fun _ => .ite ?_ (.pure (by simp))
  exact .bind (collects_boundLifetimes h) fun _ => .pure (by simp)

theorem collects_returnType (allowPlus : Bool) : Collects first held (g.returnType allowPlus) := by
  refine .next fun _ => .ite ?_ (.pure (by simp))
  exact .bind (h.type allowPlus) fun _ => .pure (by simp)

theorem collects_returnItems (allowPlus : Bool) :
    Collects first held (g.returnItems allowPlus) := by
  refine .bind (collects_returnType h allowPlus) fun info? => ?_
  cases info? with
  | some info => exact .pure (by simp)
  | none => exact .pure (by simp)

theorem collects_parenthesizedArguments : Collects first held g.parenthesizedArguments := by
  refine .bind (.inGroup (.separatedUntil (collects_typeItems h true))) fun inputs => ?_
  refine .bind (collects_returnType h false) fun output => .pure ?_
  cases output with
  | some info => simp
  | none => simp

theorem collects_traitBound (allowConst : Bool) :
    Collects first held (g.traitBound allowConst) := by
  unfold traitBound
  refine .bind (collects_boundLifetimes? h) fun outer => .next fun _ => .next fun relaxed => ?_
  extract_lets rest
  have hrest : ∀ binder, Collects first (held ++ items outer ++ items binder) (rest binder) := by
    refine fun binder => .bind (h.path false) fun path => .next fun _ => ?_
    extract_lets last
    have hlast : ∀ called : List Item, Collects first
        (held ++ items outer ++ items binder ++ items path ++ items called) (last called) := by
      intro called
      have hall : Collects first
          (held ++ items outer ++ items binder ++ items path ++ items called)
          (pure (binder.getD [] ++ path.items ++ called)) :=
        .pure (by simp)
      exact .ite (.next fun _ => hall) hall
    refine .ite (.next fun _ => ?_) (.bind (.pure (by simp)) hlast)
    refine .bind (collects_parenthesizedArguments h) fun _ => .pass ((hlast _).mono ?_)
    simp +contextual [List.subset_def, or_imp]
  exact .ite (.bind (collects_boundLifetimes? h) hrest) (.bind (.pure (by simp)) hrest)

theorem collects_bound (capture allowConst : Bool) :
    Collects first held (g.bound capture allowConst) := by
  unfold bound
  refine .next fun _ => .ite (.next fun _ => .pure (by simp)) (.next fun _ => .ite ?_ ?_)
  · exact .next fun _ => .ite (.pure (by simp)) .fail
  refine .next fun _ => .ite ?_ ?_
  · exact .bind (.inGroup (collects_traitBound h allowConst)) fun _ => .pure (by simp)
  · exact .bind (collects_traitBound h allowConst) fun _ => .pure (by simp)

theorem collects_boundsUntil (stop : Ahead) : Collects first held (g.boundsUntil stop) :=
  .bind (.chainUntil (collects_bound h false true)) fun _ => .pure (by simp)

theorem collects_bounds (allowPlus capture allowConst : Bool) :
    Collects first held (g.bounds allowPlus capture allowConst) := by
  unfold bounds
  refine .bind (collects_bound h capture allowConst) fun only => ?_
  refine .bind (.iterate (fun found => ?_) (by simp)) fun _ => .pure ?_
  · refine .next fun _ => .ite (.next fun _ => .next fun _ => .ite ?_ ?_) ?_
    · exact .bind (collects_bound h capture allowConst) fun _ => .pure (by simp)
    · exact .pure (by simp)
    · exact .pure (by simp)
  · exact fun _ _ => by simp_all

theorem collects_objectBounds (allowPlus capture allowConst : Bool) :
    Collects first held (g.objectBounds allowPlus capture allowConst) := by
  unfold objectBounds
  refine .bind (collects_bounds h allowPlus capture allowConst) fun _ => ?_
  exact .ite (.pure (by simp)) .fail

theorem collects_afterArgument (info : TypeInfo) :
    Collects first info.items (g.afterArgument info) := by
  unfold afterArgument
  refine .ite (.next fun _ => .ite ?_ (.next fun _ => .ite ?_ ?_)) ?_
  · refine .next fun _ => .ite ?_ ?_
    · exact .bind (collects_constArgument h) fun _ => .pure (by simp)
    · exact .bind (collects_typeItems h true) fun _ => .pure (by simp)
  · exact .bind (collects_boundsUntil h _) fun _ => .pure (by simp)
  · exact .pure (by simp)
  · exact .pure (by simp)

theorem collects_genericArgument : Collects first held g.genericArgument := by
  unfold genericArgument
  extract_lets isLifetime
  refine .next fun _ => .ite (.next fun _ => .pure (by simp)) (.next fun _ => .ite ?_ ?_)
  · exact .bind (collects_constArgument h) fun _ => .pure (by simp)
  · exact .bind (h.type true) fun _ => (collects_afterArgument h _).mono (by simp)

theorem collects_genericArguments : Collects first held g.genericArguments := by
  refine .next fun _ => .next fun _ => .bind (.separatedUntil (collects_genericArgument h)) ?_
  exact fun _ => .next fun _ => .pure (by simp)

theorem collects_segment (exprStyle : Bool) : Collects first held (g.segment exprStyle) := by
  unfold segment
  refine .next fun _ => .ite (.next fun _ => .pure (by simp)) (.next fun _ => ?_)
  extract_lets hasArguments rest
  have hrest : ∀ found, Collects first held (rest found) := by
    rintro ⟨name, line⟩
    refine .next fun _ => .ite ?_ (.pure (by simp))
    exact .bind (collects_genericArguments h) fun _ => .pure (by simp)
  exact .ite (.next hrest) (.next hrest)

theorem collects_moreSegments (exprStyle : Bool) :
    Collects first held (g.moreSegments exprStyle) :=
  .manyWhile (.next fun _ => collects_segment h exprStyle)

theorem collects_pathRule (exprStyle : Bool) : Collects first held (g.pathRule exprStyle) := by
  refine .next fun _ => .bind (collects_segment h exprStyle) fun _ => ?_
  exact .bind (collects_moreSegments h exprStyle) fun _ => .pure (by simp)

theorem collects_anyPath (exprStyle : Bool) : Collects first held (g.anyPath exprStyle) := by
  unfold anyPath
  refine .next fun _ => .ite (.next fun _ => ?_) (h.path exprStyle)
  refine .bind (collects_typeItems h true) fun self => .next fun _ => ?_
  extract_lets rest
  have hrest : ∀ viaTrait : List Item,
      Collects first (held ++ items self ++ items viaTrait) (rest viaTrait) := by
    refine fun viaTrait => .next fun _ => .next fun _ => .bind (collects_segment h exprStyle) ?_
    refine fun _ => .bind (.manyWhile (.next fun _ => collects_segment h exprStyle)) fun _ => ?_
    exact .pure (by simp)
  refine .ite (.bind (h.path false) fun _ => ?_) (.bind (.pure (by simp)) hrest)
  exact .pass ((hrest _).mono (by simp))

-- ---------------------------------------------------------------------------
-- Generic declarations
-- ---------------------------------------------------------------------------

omit h in
theorem collects_lifetimeParameter : Collects first held lifetimeParameter := by
  refine .next fun _ => .next fun _ => .ite ?_ (.pure (by simp))
  exact .next fun _ => .pure (by simp)

theorem collects_typeParameter : Collects first held g.typeParameter := by
  unfold typeParameter
  refine .next fun _ => .next fun _ => ?_
  extract_lets afterBounds
  have hafter : ∀ bounds : List Item,
      Collects first (held ++ items bounds) (afterBounds bounds) := by
    refine fun bounds => .next fun _ => ?_
    extract_lets rest
    have hrest : ∀ standard : List Item,
        Collects first (held ++ items bounds ++ items standard) (rest standard) :=
      fun standard => .pure (by simp)
    exact .ite (.bind (collects_typeItems h true) hrest) (.bind (.pure (by simp)) hrest)
  exact .ite (.bind (collects_boundsUntil h _) hafter) (.bind (.pure (by simp)) hafter)

theorem collects_constParameter : Collects first held g.constParameter := by
  unfold constParameter
  refine .next fun _ => .next fun _ => .next fun _ => ?_
  refine .bind (collects_typeItems h true) fun type => .next fun _ => ?_
  extract_lets rest
  have hrest : ∀ standard : List Item,
      Collects first (held ++ items type ++ items standard) (rest standard) :=
    fun standard => .pure (by simp)
  exact .ite (.bind (collects_constArgument h) hrest) (.bind (.pure (by simp)) hrest)

theorem collects_genericParameterRule : Collects first held g.genericParameterRule := by
  unfold genericParameterRule
  refine .bind (collects_outerAttributeItems h) fun before => .next fun _ => ?_
  extract_lets rest
  have hrest : ∀ found : List Item,
      Collects first (held ++ items before ++ items found) (rest found) :=
    fun found => .pure (by simp)
  refine .next fun _ => .next fun _ => .ite (.bind collects_lifetimeParameter hrest) ?_
  refine .ite (.bind (collects_typeParameter h) hrest) ?_
  refine .ite (.bind (collects_constParameter h) hrest) ?_
  exact .next fun _ => .bind (.pure (by simp)) hrest

theorem collects_generics : Collects first held g.generics := by
  refine .next fun _ => .ite (.next fun _ => ?_) (.pure (by simp))
  exact .bind (.separatedUntil h.genericParameter) fun _ => .next fun _ => .pure (by simp)

theorem collects_genericItems : Collects first held g.genericItems :=
  .bind (collects_generics h) fun _ => .pure (by simp)

theorem collects_whereCondition : Collects first held g.whereCondition := by
  unfold whereCondition
  refine .next fun _ => .ite ?_ ?_
  · exact .next fun _ => .next fun _ => .next fun _ => .pure (by simp)
  refine .bind (collects_boundLifetimes? h) fun _ => .bind (collects_typeItems h true) fun _ => ?_
  refine .next fun _ => .bind (collects_boundsUntil h conditionEnd) fun _ => ?_
  exact .pure (by simp)

theorem collects_whereClause? : Collects first held g.whereClause? := by
  refine .next fun _ => .ite ?_ (.pure (by simp))
  exact .bind (.chainUntil (collects_whereCondition h)) fun _ => .pure (by simp)

theorem collects_whereItems : Collects first held g.whereItems :=
  .bind (collects_whereClause? h) fun _ => .pure (by simp)

-- ---------------------------------------------------------------------------
-- Types
-- ---------------------------------------------------------------------------

theorem collects_callStep (path : PathInfo) : Collects first path.items (g.callStep path) := by
  unfold callStep
  refine .next fun _ => .ite (.next fun _ => ?_) (.pure (by simp))
  refine .bind (collects_parenthesizedArguments h) fun found => ?_
  refine .ite ?_ (.pure (by simp [PathInfo.setLastKind]))
  refine .bind (collects_moreSegments h false) fun more => .pure ?_
  simp +contextual [PathInfo.append, PathInfo.setLastKind, List.subset_def, or_imp]

theorem collects_calledPath (path : PathInfo) : Collects first path.items (g.calledPath path) :=
  .iterate (collects_callStep h) (List.Subset.refl _)

omit h in
@[simp] theorem items_pathType (path : PathInfo) : (pathType path).items = path.items := by
  unfold pathType
  extract_lets
  split <;> rfl

theorem collects_plusBounds : Collects first held g.plusBounds :=
  .manyWhile (.next fun _ => collects_bound h false false)

theorem collects_pathLikeType (binder : Option (List Item)) (allowPlus : Bool) :
    Collects first (items binder) (g.pathLikeType binder allowPlus) := by
  unfold pathLikeType
  refine .bind (collects_anyPath h false) fun start => ?_
  refine .bind ((collects_calledPath h start).mono (by simp)) fun path => ?_
  extract_lets bang outer
  refine .ite (.pure (by simp)) (.next fun _ => .ite ?_ (.next fun _ => .ite ?_ ?_))
  · exact .next fun _ => .next fun _ => .pure (by simp)
  · refine .bind (.iterate (fun found => ?_) (by simp)) fun found => .pure ?_
    · refine .next fun _ => .ite (.next fun _ => .next fun _ => .ite ?_ ?_) (.pure (by simp))
      · exact .bind (collects_bound h false false) fun _ => .pure (by simp)
      · exact .pure (by simp)
    · simp +contextual [outer, List.subset_def, or_imp]
  · exact .pure (by simp)

theorem collects_parenContent : Collects first held g.parenContent := by
  unfold parenContent
  refine .next fun _ => .ite (.pure (by simp)) (.next fun _ => .ite ?_ (.next fun _ => .ite ?_ ?_))
  · exact .bind (collects_objectBounds h true false false) fun _ => .pure (by simp)
  · exact .bind (collects_traitBound h false) fun _ => .pure (by simp)
  refine .bind (h.type true) fun _ => .next fun _ => .ite ?_ (.pure (by simp))
  refine .bind (.separatedUntil (collects_typeItems h true)) fun _ => .pure ?_
  simp

theorem collects_parenthesizedType (allowPlus : Bool) :
    Collects first held (g.parenthesizedType allowPlus) := by
  unfold parenthesizedType
  refine .bind (.inGroup (collects_parenContent h)) fun content => ?_
  cases content with
  | tuple items => exact .pure (by simp)
  | relaxed items => exact .bind (collects_plusBounds h) fun _ => .pure (by simp)
  | single info =>
    refine .next fun _ => .ite ?_ (.pure (by simp))
    exact .bind (collects_plusBounds h) fun _ => .pure (by simp)

theorem collects_pointerArgument (allowSelf : Bool) :
    Collects first held (g.pointerArgument allowSelf) := by
  unfold pointerArgument
  refine .bind (collects_outerAttributeItems h) fun before => ?_
  extract_lets mutSelf named rest
  have hrest : ∀ type : List Item,
      Collects first (held ++ items before ++ items type) (rest type) :=
    fun type => .pure (by simp)
  refine .next fun hasMutSelf => ?_
  extract_lets afterMut
  have hafterMut : Collects first (held ++ items before) (afterMut ()) := by
    refine .next fun isNamed => ?_
    extract_lets afterName
    have hafterName : Collects first (held ++ items before) (afterName ()) := by
      refine .next fun _ => .ite (.next fun _ => .bind (.pure (by simp)) hrest) (.ite ?_ ?_)
      · exact .next fun _ => .bind (.pure (by simp)) hrest
      · exact .bind (collects_typeItems h true) hrest
    exact .ite (.next fun _ => .next fun _ => hafterName) hafterName
  exact .ite (.next fun _ => hafterMut) hafterMut

theorem collects_pointerArguments : Collects first held g.pointerArguments := by
  unfold pointerArguments
  extract_lets variadic
  refine .bind (.iterate (fun state => ?_) (by simp)) fun _ => .pure (by simp)
  obtain ⟨isFirst, found⟩ := state
  refine .next fun _ => .ite (.pure (by simp)) ?_
  refine .bind (collects_outerAttributeItems h) fun before => .next fun _ => .ite ?_ ?_
  · refine .next fun _ => ?_
    extract_lets rest
    have hrest : Collects first (items (isFirst, found) ++ items before) (rest ()) :=
      .next fun _ => .next fun _ => .pure (by simp)
    exact .ite (.next fun _ => hrest) hrest
  refine .bind (collects_pointerArgument h _) fun next => ?_
  extract_lets longer
  refine .next fun _ => .ite ?_ (.next fun _ => ?_)
  · exact .pure (by simp [longer])
  · exact .pure (by simp [longer])

theorem collects_functionPointer : Collects first held g.functionPointer := by
  unfold functionPointer
  refine .next fun _ => .next fun _ => .next fun _ => ?_
  refine .bind (.inGroup (collects_pointerArguments h)) fun _ => ?_
  exact .bind (collects_returnItems h false) fun _ => .pure (by simp)

theorem collects_bracketType : Collects first held g.bracketType := by
  refine .bind (.inGroup ?_) fun _ => .pure (by simp)
  refine .bind (collects_typeItems h true) fun _ => .next fun _ => .ite ?_ (.pure (by simp))
  exact .bind (collects_exprItems h) fun _ => .pure (by simp)

theorem collects_pointerType : Collects first held g.pointerType := by
  unfold pointerType
  refine .next fun _ => .next fun _ => .ite (.next fun _ => ?_) ?_
  · exact collects_typeItems h false
  · exact collects_typeItems h false

theorem collects_referenceType : Collects first held g.referenceType := by
  refine .next fun _ => .next fun _ => .next fun _ => ?_
  exact .bind (h.type false) fun _ => .pure (by simp)

theorem collects_typeRule (allowPlus : Bool) : Collects first held (g.typeRule allowPlus) := by
  unfold typeRule
  refine .bind (collects_boundLifetimes? h) fun binder => ?_
  extract_lets rest
  have hrest : Collects first (held ++ items binder) (rest ()) := by
    refine .next fun _ => .ite (collects_parenthesizedType h allowPlus) (.next fun _ => ?_)
    refine .ite ?_ (.next fun _ => ?_)
    · exact .bind (collects_functionPointer h) fun _ => .pure (by simp)
    refine .ite ((collects_pathLikeType h binder allowPlus).mono (by simp)) (.next fun _ => ?_)
    refine .ite (.next fun _ => ?_) (.next fun _ => ?_)
    · exact .bind (collects_objectBounds h _ _ _) fun _ => .pure (by simp)
    refine .ite (collects_bracketType h) (.next fun _ => .ite ?_ (.next fun _ => ?_))
    · exact .bind (collects_pointerType h) fun _ => .pure (by simp)
    refine .ite (collects_referenceType h) (.next fun _ => .ite ?_ (.next fun _ => .ite ?_ ?_))
    · exact .pure (by simp)
    · exact .bind (collects_objectBounds h _ _ _) fun _ => .pure (by simp)
    refine .next fun _ => .ite (.pure (by simp)) (.next fun _ => ?_)
    exact .bind (collects_objectBounds h _ _ _) fun _ => .pure (by simp)
  exact .ite (.next fun _ => hrest) hrest

-- ---------------------------------------------------------------------------
-- Patterns
-- ---------------------------------------------------------------------------

theorem collects_alternatives : Collects first held g.alternatives := by
  refine .next fun _ => .bind h.pattern fun _ => ?_
  refine .bind (.manyWhile (.next fun _ => h.pattern)) fun _ => .ite ?_ (.pure (by simp))
  exact .pure (by simp)

theorem collects_alternativeItems : Collects first held g.alternativeItems :=
  .bind (collects_alternatives h) fun _ => .pure (by simp)

theorem collects_rangeBound : Collects first held g.rangeBound := by
  unfold rangeBound
  extract_lets pathAhead
  refine .next fun _ => .ite (.pure (by simp)) (.next fun _ => .ite ?_ (.next fun _ => .ite ?_ ?_))
  · exact .next fun _ => .pure (by simp)
  · exact .bind (collects_anyPath h true) fun _ => .pure (by simp)
  · exact .next fun _ => .bind (collects_block h) fun _ => .pure (by simp)

theorem collects_rangeRest (start : List Item) : Collects first start (g.rangeRest start) := by
  refine .next fun closed => .bind (collects_rangeBound h) fun bound? => ?_
  cases bound? with
  | some items => exact .pure (by simp)
  | none => exact .ite .fail (.pure (by simp))

theorem collects_rangeFromStart : Collects first held g.rangeFromStart := by
  refine .next fun closed => .bind (collects_rangeBound h) fun bound? => ?_
  cases bound? with
  | some items => exact .pure (by simp)
  | none => exact .ite .fail (.pure (by simp))

theorem collects_fieldPattern : Collects first held g.fieldPattern := by
  unfold fieldPattern
  refine .next fun _ => .next fun _ => .next fun _ => ?_
  extract_lets bare rest
  have hrest : ∀ named, Collects first held (rest named) :=
    fun named => .next fun _ => .ite (.next fun _ => collects_alternativeItems h) (.pure (by simp))
  exact .ite (.next hrest) (.next fun _ => .next hrest)

theorem collects_fieldPatterns : Collects first held g.fieldPatterns := by
  refine .iterate (fun found => ?_) (by simp)
  refine .next fun _ => .ite (.pure (by simp)) (.bind (collects_outerAttributeItems h) fun _ => ?_)
  refine .next fun _ => .ite (.pure (by simp)) (.bind (collects_fieldPattern h) fun _ => ?_)
  extract_lets longer
  refine .next fun _ => .ite ?_ (.next fun _ => ?_)
  · exact .pure (by simp [longer])
  · exact .pure (by simp [longer])

theorem collects_pathPattern : Collects first held g.pathPattern := by
  unfold pathPattern
  refine .bind (collects_anyPath h true) fun path => .next fun _ => .ite ?_ (.next fun _ => ?_)
  · exact .next fun _ => .next fun _ => .pure (by simp)
  refine .ite ?_ (.next fun _ => .ite ?_ (.next fun _ => .ite ?_ ?_))
  · exact .bind (.inGroup (collects_fieldPatterns h)) fun _ => .pure (by simp)
  · refine .bind (.inGroup (.separatedUntil (collects_alternativeItems h))) fun _ => ?_
    exact .pure (by simp)
  · exact (collects_rangeRest h path.items).mono (by simp)
  · exact .pure (by simp)

theorem collects_literalPattern : Collects first held g.literalPattern := by
  refine .bind (collects_rangeBound h) fun start? => ?_
  cases start? with
  | none => exact .fail
  | some start =>
    refine .next fun _ => .ite ((collects_rangeRest h start).mono (by simp)) ?_
    exact .pure (by simp)

theorem collects_bindingPattern : Collects first held g.bindingPattern := by
  unfold bindingPattern
  refine .next fun _ => .next fun _ => .next fun _ => ?_
  extract_lets rest
  have hrest : Collects first held (rest ()) := by
    refine .next fun _ => .ite (.bind h.pattern fun _ => ?_) ?_
    · exact .pure (by simp)
    · exact .pure (by simp)
  exact .ite (.next fun _ => hrest) (.next fun _ => hrest)

theorem collects_slicePattern : Collects first held g.slicePattern := by
  refine .bind (.inGroup (.separatedUntil ?_)) fun _ => .pure (by simp)
  refine .bind (collects_alternatives h) fun element => ?_
  extract_lets rest
  have hrest : Collects first (items element) (rest ()) := .pure (by simp)
  exact .ite (.next fun _ => hrest) hrest

theorem collects_referencePattern : Collects first held g.referencePattern := by
  refine .next fun _ => .next fun _ => .bind h.pattern fun _ => ?_
  exact .pure (by simp)

theorem collects_patternRule : Collects first held g.patternRule := by
  unfold patternRule
  extract_lets literalAhead bindingAhead
  refine .next fun _ => .ite (collects_pathPattern h) (.next fun _ => .ite ?_ (.next fun _ => ?_))
  · exact .pure (by simp)
  refine .ite ?_ (.next fun _ => .ite (collects_literalPattern h) (.next fun _ => ?_))
  · exact .bind h.pattern fun _ => .pure (by simp)
  refine .ite (collects_bindingPattern h) (.next fun _ => .ite (collects_referencePattern h) ?_)
  refine .next fun _ => .ite ?_ (.next fun _ => .ite (collects_slicePattern h) ?_)
  · refine .bind (.inGroup (.separatedUntil (collects_alternativeItems h))) fun _ => ?_
    exact .pure (by simp)
  · exact .next fun _ => collects_rangeFromStart h

end Grammar

end SocketDocs.Source
