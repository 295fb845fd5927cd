import SocketDocs.Proofs.Source.Nested.Types

/-!
# Items in expressions and statements

A rule that goes on after an operand collects what it finds together with the items of the operand.
-/

namespace SocketDocs.Source

open SocketDocs.Source.Parser HasItems

namespace Grammar

variable {g : Grammar} (h : g.Collecting) {first : Nat} {held : List Item}
include h

-- ---------------------------------------------------------------------------
-- Operators
-- ---------------------------------------------------------------------------

theorem collects_rightOperand (allowStruct : Bool) (rank : Nat) :
    Collects first held (g.rightOperand allowStruct rank) := by
  refine .bind (h.unary allowStruct) fun _ => .iterate (fun operand => ?_) (by simp)
  refine .next fun before => ?_
  extract_lets next
  refine .ite ?_ (.pure (by simp))
  refine .bind ((h.climb _ allowStruct next).mono (by simp)) fun _ => .next fun _ => .ite ?_ ?_
  · exact .pure (by simp)
  · exact .pure (by simp)

theorem collects_rangeTail (allowStruct : Bool) :
    Collects first held (g.rangeTail allowStruct) := by
  refine .next fun closed => .next fun _ => .ite (.pure (by simp)) ?_
  exact .bind (collects_rightOperand h allowStruct Rank.range) fun _ => .pure (by simp)

theorem collects_climbStep (allowStruct : Bool) (base : Nat) (left : ExprInfo) :
    Collects first left.items (g.climbStep allowStruct base left) := by
  unfold climbStep
  refine .next fun tokens => .ite (.pure (by simp)) ?_
  cases operator? tokens with
  | some operator =>
    refine .ite (.pure (by simp)) (.ite .fail (.next fun _ => ?_))
    exact .bind (collects_rightOperand h allowStruct _) fun _ => .pure (by simp)
  | none =>
    refine .ite ?_ (.ite ?_ (.ite ?_ (.pure (by simp))))
    · refine .next fun _ => .bind (collects_rightOperand h allowStruct _) fun _ => ?_
      exact .pure (by simp)
    · exact .bind (collects_rangeTail h allowStruct) fun _ => .pure (by simp)
    · refine .next fun _ => .bind (collects_typeItems h false) fun type => .next fun _ => ?_
      extract_lets rest
      have hrest : Collects first (left.items ++ items type) (rest ()) := .pure (by simp)
      exact .ite (.next fun _ => hrest) hrest

theorem collects_climbRule (left : ExprInfo) (allowStruct : Bool) (base : Nat) :
    Collects first left.items (g.climbRule left allowStruct base) :=
  .iterate (collects_climbStep h allowStruct base) (List.Subset.refl _)

-- ---------------------------------------------------------------------------
-- Operands
-- ---------------------------------------------------------------------------

theorem collects_commaExprs : Collects first held g.commaExprs :=
  .bind (.separatedUntil (collects_exprItems h)) fun _ => .pure (by simp)

theorem collects_fieldValue : Collects first held g.fieldValue := by
  refine .bind (collects_outerAttributeItems h) fun _ => .next fun named => .next fun _ => ?_
  refine .ite (.next fun _ => ?_) (.pure (by simp))
  exact .bind (collects_exprItems h) fun _ => .pure (by simp)

theorem collects_fieldValues : Collects first held g.fieldValues := by
  refine .iterate (fun found => ?_) (by simp)
  refine .next fun _ => .ite (.pure (by simp)) (.next fun _ => .ite (.next fun _ => ?_) ?_)
  · exact .ite (.pure (by simp)) (.bind (collects_exprItems h) fun _ => .pure (by simp))
  · refine .bind (collects_fieldValue h) fun _ => ?_
    extract_lets longer
    refine .next fun _ => .ite ?_ (.next fun _ => ?_)
    · exact .pure (by simp [longer])
    · exact .pure (by simp [longer])

theorem collects_pathExpr (allowStruct : Bool) : Collects first held (g.pathExpr allowStruct) := by
  unfold pathExpr
  refine .bind (collects_anyPath h true) fun _ => .next fun _ => .ite ?_ (.next fun _ => ?_)
  · exact .next fun _ => .next fun _ => .pure (by simp)
  refine .ite ?_ (.pure (by simp))
  exact .bind (.inGroup (collects_fieldValues h)) fun _ => .pure (by simp)

theorem collects_bracketContent : Collects first held g.bracketContent := by
  refine .next fun _ => .ite (.pure (by simp)) (.bind (collects_exprItems h) fun _ => ?_)
  refine .next fun _ => .ite ?_ (.next fun _ => .ite (.pure (by simp)) (.next fun _ => ?_))
  · exact .bind (collects_exprItems h) fun _ => .pure (by simp)
  · exact .bind (collects_commaExprs h) fun _ => .pure (by simp)

theorem collects_closureArgument : Collects first held g.closureArgument := by
  unfold closureArgument
  refine .bind (collects_outerAttributeItems h) fun before => .bind h.pattern fun pattern => ?_
  refine .next fun _ => ?_
  extract_lets rest
  have hrest : ∀ type : List Item,
      Collects first (held ++ items before ++ items pattern ++ items type) (rest type) :=
    fun type => .pure (by simp)
  exact .ite (.bind (collects_typeItems h true) hrest) (.bind (.pure (by simp)) hrest)

theorem collects_closure (allowStruct : Bool) : Collects first held (g.closure allowStruct) := by
  unfold closure
  refine .bind (collects_boundLifetimes? h) fun binder => .next fun _ => .next fun _ => ?_
  refine .next fun _ => .next fun _ => .next fun _ => ?_
  refine .bind (.separatedUntil (collects_closureArgument h)) fun inputs => .next fun _ => ?_
  extract_lets before
  refine .next fun _ => .ite ?_ ?_
  · refine .bind (collects_typeItems h true) fun _ => .bind (collects_block h) fun _ => ?_
    exact .pure (by simp [before])
  · refine .bind (collects_exprWith h allowStruct) fun _ => ?_
    exact .pure (by simp +contextual [before, List.subset_def])

theorem collects_letExpr (allowStruct : Bool) : Collects first held (g.letExpr allowStruct) := by
  refine .next fun _ => .bind (collects_alternativeItems h) fun _ => .next fun _ => ?_
  refine .bind (h.unary allowStruct) fun _ => ?_
  refine .bind ((h.climb _ allowStruct Rank.compare).mono (by simp)) fun _ => .pure ?_
  simp +contextual [List.subset_def, or_imp]

theorem collects_ifExpr : Collects first held g.ifExpr := by
  refine .iterate (fun found => ?_) (by simp)
  refine .next fun _ => .bind (collects_exprWith h false) fun _ => ?_
  refine .bind (collects_block h) fun _ => ?_
  extract_lets longer
  refine .next fun _ => .ite (.next fun _ => .ite ?_ ?_) ?_
  · exact .pure (by simp [longer])
  · exact .bind (collects_block h) fun _ => .pure (by simp [longer])
  · exact .pure (by simp [longer])

theorem collects_whileExpr : Collects first held g.whileExpr := by
  refine .next fun _ => .bind (collects_exprWith h false) fun _ => ?_
  exact .bind (collects_block h) fun _ => .pure (by simp)

theorem collects_forExpr : Collects first held g.forExpr := by
  refine .next fun _ => .bind (collects_alternativeItems h) fun _ => .next fun _ => ?_
  refine .bind (collects_exprWith h false) fun _ => .bind (collects_block h) fun _ => .pure ?_
  simp

theorem collects_loopExpr : Collects first held g.loopExpr :=
  .next fun _ => collects_block h

theorem collects_arm : Collects first held g.arm := by
  unfold arm
  refine .bind (collects_outerAttributeItems h) fun before => ?_
  refine .bind (collects_alternativeItems h) fun pattern => .next fun _ => ?_
  extract_lets afterGuard
  have hafterGuard : ∀ guard : List Item,
      Collects first (held ++ items before ++ items pattern ++ items guard) (afterGuard guard) := by
    refine fun guard => .next fun _ => .bind h.early fun body => .next fun _ => ?_
    extract_lets rest
    have hrest : Collects first
        (held ++ items before ++ items pattern ++ items guard ++ items body) (rest ()) :=
      .pure (by simp)
    exact .ite (.next fun _ => hrest) (.next fun _ => hrest)
  exact .ite (.bind (collects_exprItems h) hafterGuard) (.bind (.pure (by simp)) hafterGuard)

theorem collects_matchExpr : Collects first held g.matchExpr := by
  refine .next fun _ => .bind (collects_exprWith h false) fun _ => ?_
  refine .bind (.inGroup ?_) fun arms => .pure (by simp)
  refine .bind (collects_innerAttributes h) fun _ => ?_
  refine .bind (.manyWhile (collects_arm h)) fun _ => .pure ?_
  simp +contextual [List.subset_def]

theorem collects_blockForm? : Collects first held g.blockForm? := by
  have hblock : Collects first held (do return some (← g.block)) :=
    .bind (collects_block h) fun _ => .pure (by simp)
  unfold blockForm?
  extract_lets blockAfter
  refine .next fun _ => .ite ?_ (.next fun _ => .ite ?_ (.next fun _ => .ite ?_ ?_))
  · exact .bind (collects_ifExpr h) fun _ => .pure (by simp)
  · exact .bind (collects_whileExpr h) fun _ => .pure (by simp)
  · exact .bind (collects_forExpr h) fun _ => .pure (by simp)
  refine .next fun _ => .ite ?_ (.next fun _ => .ite ?_ (.next fun _ => ?_))
  · exact .bind (collects_loopExpr h) fun _ => .pure (by simp)
  · exact .bind (collects_matchExpr h) fun _ => .pure (by simp)
  refine .ite (.next fun _ => hblock) (.next fun _ => .ite (.next fun _ => hblock) ?_)
  refine .next fun _ => .ite (.next fun _ => hblock) (.next fun _ => .ite hblock ?_)
  exact .pure (by simp)

theorem collects_labeled : Collects first held g.labeled := by
  refine .next fun _ => .next fun _ => .next fun _ => .ite (collects_whileExpr h) ?_
  refine .next fun _ => .ite (collects_forExpr h) (.next fun _ => .ite (collects_loopExpr h) ?_)
  exact collects_block h

theorem collects_jumpValue (ahead : Ahead) : Collects first held (g.jumpValue ahead) := by
  refine .next fun _ => .ite (.bind (collects_exprItems h) fun _ => ?_) ?_
  · exact .pure (by simp)
  · exact .pure (by simp)

theorem collects_breakExpr (allowStruct : Bool) :
    Collects first held (g.breakExpr allowStruct) := by
  unfold breakExpr
  refine .next fun _ => .next fun _ => ?_
  extract_lets rest
  have hrest : Collects first held (rest ()) := collects_jumpValue h _
  exact .ite (.next fun _ => .ite (.next fun _ => hrest) hrest) hrest

-- ---------------------------------------------------------------------------
-- Suffixes
-- ---------------------------------------------------------------------------

theorem collects_namedMember : Collects first held g.namedMember := by
  unfold namedMember
  refine .next fun _ => .ite (.pure (by simp)) (.next fun named => .ite (.next fun _ => ?_) ?_)
  · extract_lets rest
    have hrest : ∀ arguments : List Item,
        Collects first (held ++ items arguments) (rest arguments) := by
      refine fun arguments => .next fun _ => .ite ?_ (.pure (by simp))
      exact .bind (.inGroup (collects_commaExprs h)) fun _ => .pure (by simp)
    refine .ite (.bind (collects_genericArguments h) fun found => ?_) ?_
    · exact .pass ((hrest _).mono (by simp))
    · exact .bind (.pure (by simp)) hrest
  · exact .pure (by simp)

theorem collects_afterDot : Collects first held g.afterDot := by
  unfold afterDot
  refine .next fun tokens => ?_
  split
  · refine .ite ?_ (collects_namedMember h)
    extract_lets trailing digits parts rest
    have hrest : Collects first held (rest ()) :=
      .next fun _ => .ite (collects_namedMember h) (.pure (by simp))
    exact .ite (.next fun _ => hrest) hrest
  · exact collects_namedMember h

theorem collects_suffixStep (operand : ExprInfo) :
    Collects first operand.items (g.suffixStep operand) := by
  unfold suffixStep
  extract_lets isRange
  refine .next fun _ => .ite ?_ (.next fun _ => .ite (.next fun _ => ?_) (.next fun _ => ?_))
  · exact .bind (.inGroup (collects_commaExprs h)) fun _ => .pure (by simp)
  · exact .bind (collects_afterDot h) fun _ => .pure (by simp)
  refine .ite ?_ (.next fun _ => .ite (.next fun _ => ?_) (.pure (by simp)))
  · exact .bind (.inGroup (collects_exprItems h)) fun _ => .pure (by simp)
  · exact .pure (by simp)

theorem collects_suffixes (operand : ExprInfo) :
    Collects first operand.items (g.suffixes operand) :=
  .iterate (collects_suffixStep h) (List.Subset.refl _)

-- ---------------------------------------------------------------------------
-- Atoms and prefixes
-- ---------------------------------------------------------------------------

theorem collects_atom (allowStruct : Bool) : Collects first held (g.atom allowStruct) := by
  unfold atom
  extract_lets builtinAhead
  refine .next fun _ => .ite ?_ (.next fun _ => .ite ?_ (.next fun _ => ?_))
  · exact .next fun _ => .pure (by simp)
  · refine .next fun _ => .next fun _ => .bind (collects_block h) fun _ => ?_
    exact .pure (by simp)
  refine .ite (collects_closure h allowStruct) (.next fun _ => .ite ?_ (.next fun _ => ?_))
  · refine .next fun _ => .next fun _ => .next fun _ => .next fun _ => .next fun _ => ?_
    exact .pure (by simp)
  refine .ite (collects_pathExpr h allowStruct) (.next fun _ => .ite ?_ (.next fun _ => ?_))
  · exact .bind (.inGroup (collects_commaExprs h)) fun _ => .pure (by simp)
  refine .ite (collects_breakExpr h allowStruct) (.next fun _ => .ite ?_ (.next fun _ => ?_))
  · exact .next fun _ => .pure (by simp)
  refine .ite (collects_jumpValue h _) (.next fun _ => .ite ?_ (.next fun _ => .ite ?_ ?_))
  · exact .bind (collects_exprItems h) fun _ => .pure (by simp)
  · exact .bind (.inGroup (collects_bracketContent h)) fun _ => .pure (by simp)
  refine .next fun _ => .ite (collects_letExpr h allowStruct) (.next fun _ => ?_)
  refine .ite (collects_jumpValue h _) (.bind (collects_blockForm? h) fun form? => ?_)
  cases form? with
  | some items => exact .pure (by simp)
  | none =>
    refine .next fun _ => .ite ?_ (.next fun _ => .ite ?_ ?_)
    · exact .bind (collects_rangeTail h allowStruct) fun _ => .pure (by simp)
    · exact .pure (by simp)
    · exact .bind (collects_labeled h) fun _ => .pure (by simp)

theorem collects_unaryRule (allowStruct : Bool) :
    Collects first held (g.unaryRule allowStruct) := by
  refine .bind (collects_outerAttributeItems h) fun _ => .next fun _ => .ite ?_ (.next fun _ => ?_)
  · refine .next fun _ => .bind (h.unary allowStruct) fun _ => ?_
    exact .pure (by simp)
  refine .ite (.next fun _ => .bind (h.unary allowStruct) fun _ => ?_) ?_
  · exact .pure (by simp)
  refine .bind (collects_atom h allowStruct) fun _ => ?_
  refine .bind ((collects_suffixes h _).mono (by simp)) fun _ => .pure ?_
  simp +contextual [List.subset_def, or_imp]

theorem collects_earlyRule : Collects first held g.earlyRule := by
  unfold earlyRule
  refine .bind (collects_outerAttributeItems h) fun before => ?_
  extract_lets rest
  refine .bind (collects_blockForm? h) fun form? => ?_
  have hrest : ∀ e, Collects first (held ++ items before ++ items form? ++ items e) (rest e) := by
    intro e
    have he : before ++ e.items ⊆ held ++ items before ++ items form? ++ items e := by
      simp +contextual [List.subset_def, or_imp]
    refine .ite ((h.climb _ _ _).mono he) (.next fun _ => .ite ?_ (.pure he))
    refine .bind ((collects_suffixes h _).mono he) fun _ => (h.climb _ _ _).mono ?_
    exact List.subset_append_right _ _
  cases form? with
  | some items => exact .bind (.pure (by simp)) hrest
  | none =>
    refine .next fun _ => .ite (.bind (collects_labeled h) fun found => ?_) ?_
    · exact .pass ((hrest _).mono (by simp))
    · exact .bind (h.unary true) hrest

-- ---------------------------------------------------------------------------
-- Statements
-- ---------------------------------------------------------------------------

theorem collects_localStatement : Collects first held g.localStatement := by
  unfold localStatement
  refine .next fun _ => .bind h.pattern fun pattern => .next fun _ => ?_
  extract_lets afterType
  have hafterType : ∀ type : List Item,
      Collects first (held ++ items pattern ++ items type) (afterType type) := by
    refine fun type => .next fun _ => ?_
    extract_lets rest
    have hrest : ∀ value : List Item,
        Collects first (held ++ items pattern ++ items type ++ items value) (rest value) :=
      fun value => .next fun _ => .pure (by simp)
    refine .ite (.bind (collects_exprItems h) fun value => ?_) (.bind (.pure (by simp)) hrest)
    refine .next fun _ => .next fun _ => .ite (.bind (collects_block h) fun _ => ?_) ?_
    · exact .pass ((hrest _).mono (by simp))
    · exact .pass ((hrest _).mono (by simp))
  exact .ite (.bind (collects_typeItems h true) hafterType) (.bind (.pure (by simp)) hafterType)

theorem collects_exprStatement : Collects first held g.exprStatement :=
  .bind h.early fun _ => .next fun _ => .pure (by simp)

theorem collects_plainStatement? : Collects first held g.plainStatement? := by
  unfold plainStatement?
  refine .bind (collects_outerAttributes h) fun before => .next fun form => ?_
  cases form with
  | braces =>
    refine .next fun _ => .next fun _ => .next fun _ => .next fun _ => ?_
    exact .pure (by simp)
  | _ =>
    refine .next fun _ => .ite ?_ (.next fun itemAhead => ?_)
    · exact .bind (collects_localStatement h) fun _ => .pure (by simp)
    refine .ite (.pure (by simp)) (.bind (collects_exprStatement h) fun _ => ?_)
    exact .pure (by simp)

theorem collects_statement : Collects first held g.statement :=
  .orElse (collects_plainStatement? h) (.bind h.item fun _ => .pure (by simp))

theorem collects_statementStep (found : List Item) :
    Collects first (items found) (g.statementStep found) := by
  refine .next fun _ => .next fun _ => .ite (.pure (by simp)) ?_
  refine .bind (collects_statement h) fun _ => ?_
  exact .next fun _ => .ite (.pure (by simp)) (.ite (.pure (by simp)) .fail)

theorem collects_statementsRule : Collects first held g.statementsRule :=
  .iterate (collects_statementStep h) (by simp)

end Grammar

end SocketDocs.Source
