import SocketDocs.Proofs.Directive.Readings
import SocketDocs.Proofs.Endpoint.Building

/-!
# Causes of a block

Each directive of a block has at most one problem, told from its place alone (`Directive.problem?`).
The builder warns of every problem once and of nothing else. It does so when it comes to the directive,
except that a message without a type is only noticed where it ends (`Directive.raised`). The lines that
are refused come before all of them (`Endpoint.causes_account`).
-/

namespace SocketDocs

open Directive (messageTypes latestType isOpen)

-- ---------------------------------------------------------------------------
-- Problems
-- ---------------------------------------------------------------------------

namespace Directive

def hasType (before : List Directive) : Bool :=
  before.any (·.messageType?.isSome)

def unopened? (before : List Directive) (x : Directive) : Option Cause :=
  if isOpen before then none else some (.noOpenMessage x.keyword)

/-- A directive that may be about the endpoint is likely about a message once there are types. -/
def applied? (before : List Directive) (x : Directive) : Option Cause :=
  if !isOpen before && hasType before then some (.appliedToEndpoint x.keyword (latestType before))
  else none

/-- What is wrong with a directive after those before it. -/
def problem? (catalog : Catalog) (before : List Directive) (x : Directive) : Option Cause :=
  match x with
  | .direction d => if hasType before then none else some (.untypedMessage d)
  | .description _ => applied? before x
  | .tags _ => applied? before x
  | .payload (.inline _) => unopened? before x
  | .payload (.typeRef name) =>
    if (catalog.resolve? name).isSome then unopened? before x else some (.unknownType name)
  | .sample _ => unopened? before x
  | .error _ => unopened? before x
  | .deprecated => unopened? before x
  | _ => none

def problems (catalog : Catalog) (directives : List Directive) : List Cause :=
  (cuts directives).filterMap fun cut => problem? catalog cut.before cut.directive

def untyped? (messageType : String) (direction : Direction) : Option Cause :=
  if messageType = "" then some (.untypedMessage direction) else none

/-- The problem of the open message, which is noticed where it ends. -/
def pending (directives : List Directive) : Option Cause :=
  (Segment.opened? directives).bind fun s => untyped? s.messageType s.direction

/-- What the builder warns of when it comes to a directive. -/
def raisedAt (catalog : Catalog) (before : List Directive) (x : Directive) : Option Cause :=
  if x.endsMessage then pending before else problem? catalog before x

def raised (catalog : Catalog) (directives : List Directive) : List Cause :=
  ((cuts directives).filterMap fun cut => raisedAt catalog cut.before cut.directive) ++
    (pending directives).toList

variable {catalog : Catalog} {directives : List Directive} {x : Directive}

theorem latestType_eq_empty_iff (htyped : ∀ t ∈ messageTypes directives, t ≠ "") :
    latestType directives = "" ↔ hasType directives = false := by
  unfold latestType
  cases hlast : last? messageType? directives with
  | none =>
    have hnone := List.filterMap_eq_nil_iff.mp (List.getLast?_eq_none_iff.mp hlast)
    simpa [hasType] using hnone
  | some t =>
    obtain ⟨x, hx, ht⟩ := List.mem_filterMap.mp (List.mem_of_getLast? hlast)
    have hne : t ≠ "" := htyped t (by
      rw [messageTypes, List.mem_eraseDups]
      exact List.mem_filterMap.mpr ⟨x, hx, ht⟩)
    have hhas : hasType directives = true := List.any_eq_true.mpr ⟨x, hx, by rw [ht]; rfl⟩
    simp [hne, hhas]

theorem filterMap_cuts_concat {α : Type} (f : List Directive → Directive → Option α)
    (directives : List Directive) (x : Directive) :
    ((cuts (directives ++ [x])).filterMap fun cut => f cut.before cut.directive) =
      ((cuts directives).filterMap fun cut => f cut.before cut.directive) ++
        (f directives x).toList := by
  rw [cuts_append, List.filterMap_append, List.filterMap_map]
  cases h : f directives x <;> simp [cutsFrom, h]

theorem pending_concat_of_quiet (hx : x.endsMessage = false) :
    pending (directives ++ [x]) = pending directives := by
  rw [pending, pending, Segment.opened?_concat_of_quiet hx]
  cases Segment.opened? directives <;> rfl

theorem pending_concat_of_end (htyped : ∀ t ∈ messageTypes directives, t ≠ "")
    (hx : x.endsMessage = true) : pending (directives ++ [x]) = problem? catalog directives x := by
  rw [pending, Segment.opened?_concat_of_end hx]
  cases x with
  | message t => rfl
  | direction d =>
    have hiff := latestType_eq_empty_iff htyped
    cases hhas : hasType directives <;> simp_all [Segment.ofCut?, problem?, untyped?]
  | _ => cases hx

/-- Everything that is wrong is warned of once, and nothing else is. -/
theorem raised_perm (catalog : Catalog) (htyped : ∀ t ∈ messageTypes directives, t ≠ "") :
    (raised catalog directives).Perm (problems catalog directives) := by
  induction directives using List.reverseRecOn with
  | nil => exact .refl _
  | append_singleton directives x ih =>
    have hbefore : ∀ t ∈ messageTypes directives, t ≠ "" := fun t ht =>
      htyped t (messageTypes_subset_append directives [x] ht)
    have ih := ih hbefore
    rw [raised, problems, filterMap_cuts_concat, filterMap_cuts_concat]
    rw [raised, problems] at ih
    cases hx : x.endsMessage with
    | true =>
      -- the message before ends here, and the one that opens is pending
      rw [pending_concat_of_end hbefore hx, raisedAt, if_pos hx]
      exact ih.append_right _
    | false =>
      rw [pending_concat_of_quiet hx, raisedAt, hx, if_neg Bool.false_ne_true, List.append_assoc]
      refine (List.perm_append_comm.append_left _).trans ?_
      rw [← List.append_assoc]
      exact ih.append_right _

end Directive

-- ---------------------------------------------------------------------------
-- The builder
-- ---------------------------------------------------------------------------

namespace EndpointDraft

open Directive (pending problem? raisedAt raised untyped? unopened? applied?)

variable {catalog : Catalog} {directives : List Directive} {draft : EndpointDraft}

theorem complete_causes (draft : EndpointDraft) (done : Option Message) :
    (draft.complete done).causes =
      draft.causes ++ (done.bind fun m => untyped? m.messageType m.direction).toList := by
  cases done with
  | none => simp [complete]
  | some message =>
    by_cases h : message.messageType = ""
    · rw [complete_untyped h]
      simp [untyped?, h, warn]
    · rw [complete_typed h]
      simp [untyped?, h, modifyExchanges, modifyEndpoint]

theorem Tracks.complete_causes (h : Tracks catalog directives draft) (message : Draft) :
    ({ draft with message }.complete draft.message.message?).causes =
      draft.causes ++ (pending directives).toList := by
  rw [EndpointDraft.complete_causes, h.message, pending, Option.bind_map]
  rfl

theorem Tracks.isSome_message (h : Tracks catalog directives draft) :
    draft.message.message?.isSome = isOpen directives := by
  rw [h.message, Option.isSome_map, Segment.isSome_opened?]

theorem Tracks.modifyMessage_causes (h : Tracks catalog directives draft) (x : Directive)
    (change : Message → Message) :
    (draft.modifyMessage x.keyword change).causes =
      draft.causes ++ (unopened? directives x).toList := by
  have hopen := h.isSome_message
  unfold modifyMessage unopened?
  cases hmessage : draft.message <;> rw [hmessage] at hopen <;> simp [← hopen, Draft.message?, warn]

theorem Tracks.modifyMessageOrEndpoint_causes (h : Tracks catalog directives draft)
    (htyped : ∀ t ∈ messageTypes directives, t ≠ "") (x : Directive)
    (changeMessage : Message → Message) (changeEndpoint : Endpoint → Endpoint) :
    (draft.modifyMessageOrEndpoint x.keyword changeMessage changeEndpoint).causes =
      draft.causes ++ (applied? directives x).toList := by
  have hopen := h.isSome_message
  have hiff := Directive.latestType_eq_empty_iff htyped
  unfold modifyMessageOrEndpoint applied?
  cases hmessage : draft.message with
  | building message =>
    rw [hmessage] at hopen
    simp [← hopen, Draft.message?]
  | idle =>
    rw [hmessage] at hopen
    cases hhas : Directive.hasType directives <;>
      simp_all [← hopen, Draft.message?, h.messageType, modifyEndpoint, warn]

/-- A directive gives the warnings that are due at its place. -/
theorem Tracks.apply_causes (h : Tracks catalog directives draft)
    (htyped : ∀ t ∈ messageTypes directives, t ≠ "") (x : Directive) :
    (draft.apply catalog x).causes =
      draft.causes ++ (raisedAt catalog directives x).toList := by
  cases x with
  | message t => exact h.complete_causes .idle
  | direction d => exact h.complete_causes _
  | description text => exact h.modifyMessageOrEndpoint_causes htyped (.description text) _ _
  | tags names => exact h.modifyMessageOrEndpoint_causes htyped (.tags names) _ _
  | sample value => exact h.modifyMessage_causes (.sample value) _
  | error case => exact h.modifyMessage_causes (.error case) _
  | deprecated => exact h.modifyMessage_causes .deprecated _
  | payload source =>
    cases source with
    | inline value => exact h.modifyMessage_causes (.payload (.inline value)) _
    | typeRef name =>
      unfold EndpointDraft.apply
      dsimp only
      cases hname : catalog.resolve? name with
      | none => simp [resolvePayload, hname, raisedAt, Directive.endsMessage, problem?, warn]
      | some record =>
        simp only [resolvePayload, hname, raisedAt, Directive.endsMessage, problem?]
        exact h.modifyMessage_causes (.payload (.typeRef name)) _
  | _ => exact (List.append_nil _).symm

theorem finish_causes (catalog : Catalog) (causes : List Cause) (directives : List Directive)
    (htyped : ∀ t ∈ messageTypes directives, t ≠ "") :
    (directives.foldl (EndpointDraft.apply catalog) { causes }).finish.causes =
      causes ++ raised catalog directives := by
  have hrun : (directives.foldl (EndpointDraft.apply catalog) { causes }).causes =
      causes ++ (Directive.cuts directives).filterMap fun cut =>
        raisedAt catalog cut.before cut.directive := by
    induction directives using List.reverseRecOn with
    | nil => simp [Directive.cuts, Directive.cutsFrom]
    | append_singleton directives x ih =>
      have hbefore : ∀ t ∈ messageTypes directives, t ≠ "" := fun t ht =>
        htyped t (Directive.messageTypes_subset_append directives [x] ht)
      rw [List.foldl_append, List.foldl_cons, List.foldl_nil,
        (tracks_foldl catalog causes directives hbefore).apply_causes hbefore, ih hbefore,
        Directive.filterMap_cuts_concat, List.append_assoc]
  refine ((tracks_foldl catalog causes directives htyped).complete_causes .idle).trans ?_
  rw [hrun, raised, List.append_assoc]

end EndpointDraft

-- ---------------------------------------------------------------------------
-- Blocks
-- ---------------------------------------------------------------------------

namespace Directive

theorem kind_of_problem? {catalog : Catalog} {before : List Directive} {x : Directive}
    {cause : Cause} (h : problem? catalog before x = some cause) :
    cause.kind = .payloadResolutionMiss ↔
      ∃ name, x = .payload (.typeRef name) ∧ catalog.resolve? name = none := by
  have hopen : ∀ y : Directive, unopened? before y = some cause → cause.kind = .directiveGrammar := by
    intro y hy
    unfold unopened? at hy
    split at hy <;> cases hy
    rfl
  have happlied : ∀ y : Directive, applied? before y = some cause → cause.kind = .directiveGrammar := by
    intro y hy
    unfold applied? at hy
    split at hy <;> cases hy
    rfl
  cases x with
  | direction d =>
    rw [problem?] at h
    split at h <;> cases h
    simp [Cause.kind]
  | description text => simp [happlied _ h]
  | tags names => simp [happlied _ h]
  | sample value => simp [hopen _ h]
  | error case => simp [hopen _ h]
  | deprecated => simp [hopen _ h]
  | payload source =>
    cases source with
    | inline value => simp [hopen _ h]
    | typeRef name =>
      rw [problem?] at h
      cases hname : catalog.resolve? name with
      | none =>
        rw [hname] at h
        cases h
        simp [Cause.kind, hname]
      | some record =>
        rw [hname] at h
        simp [hopen _ h, hname]
  | _ => cases h

end Directive

namespace Endpoint

open Directive (marksEndpoint readings segments opensDirective cuts problem? problems raised)

theorem causes_ofBlock (catalog : Catalog) {lines : List String}
    (h : marksEndpoint lines = true) :
    (Endpoint.ofBlock catalog lines).2 =
      (Directive.ofBlock lines).2 ++ raised catalog (Directive.ofBlock lines).1 := by
  unfold Endpoint.ofBlock
  rw [if_pos h]
  exact EndpointDraft.finish_causes catalog _ _ fun t ht => (Directive.isWord_of_mem_messageTypes ht).1

/-- The causes of a block are those of its refused lines, in order, and then one for each directive
that has a problem where it stands. -/
theorem causes_account (catalog : Catalog) {lines : List String}
    (h : marksEndpoint lines = true) :
    let directives := (Directive.ofBlock lines).1
    let refused := (readings lines).filterMap Reading.cause?
    (Endpoint.ofBlock catalog lines).2 = refused ++ raised catalog directives ∧
      (raised catalog directives).Perm
        ((cuts directives).filterMap fun cut => problem? catalog cut.before cut.directive) ∧
      directives = (readings lines).filterMap Reading.directive? ∧
      (segments lines).map (·.1) = lines.filter opensDirective ∧
      (∀ reading ∈ readings lines, reading ≠ .misaligned) ∧
      (∀ cause ∈ refused, cause.kind = .directiveGrammar) ∧
      ∀ cut ∈ cuts directives, ∀ cause,
        problem? catalog cut.before cut.directive = some cause →
        (cause.kind = .payloadResolutionMiss ↔
          ∃ name, cut.directive = .payload (.typeRef name) ∧ catalog.resolve? name = none) := by
  intro directives refused
  have hrefused : (Directive.ofBlock lines).2 = refused :=
    congrArg Prod.snd (Directive.ofBlock_eq lines)
  refine ⟨?_, ?_, congrArg Prod.fst (Directive.ofBlock_eq lines), Directive.segments_lines lines,
    fun _ => Directive.ne_misaligned_of_mem_readings, ?_,
    fun cut _ cause hcause => Directive.kind_of_problem? hcause⟩
  · rw [causes_ofBlock catalog h, hrefused]
  · exact Directive.raised_perm catalog fun t ht => (Directive.isWord_of_mem_messageTypes ht).1
  · intro cause hcause
    obtain ⟨line, name, arguments, -, -, -, hrefuses⟩ :=
      Directive.exists_line_of_mem_causes (hrefused ▸ hcause)
    exact Directive.kind_of_refuses hrefuses

/-- A message without a type is warned of where it ends, after what was said inside it. -/
theorem causes_account_delayed :
    marksEndpoint ["@WebSocket chat", "@Group", "@Send", "@Payload Gone", "@Message a", "@Tags x",
        "@Receive", "@Payload Gone", "@Payload", "@Other"] = true ∧
      (Endpoint.ofBlock Catalog.empty ["@WebSocket chat", "@Group", "@Send", "@Payload Gone",
        "@Message a", "@Tags x", "@Receive", "@Payload Gone", "@Payload", "@Other"]).2 =
      [.noArgument "@Group", .noPayload, .unknownType "Gone", .untypedMessage .send,
        .appliedToEndpoint "@Tags" "a", .unknownType "Gone"] :=
  ⟨by decide, (causes_account Catalog.empty (by decide)).1.trans (by decide +kernel)⟩

end Endpoint

end SocketDocs
