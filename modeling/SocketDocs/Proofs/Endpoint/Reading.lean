import Mathlib.Data.List.Induction
import Mathlib.Data.List.TakeWhile
import SocketDocs.Endpoint.Builder

/-!
# What a block of directives says

An endpoint read off the directives of a block without running through them. Each direction opens a
segment, which reaches to the next message type or direction; its type is the one introduced last
before it. A message is read off its segment, and an exchange off the segments of its type. What
stands in no segment is about the endpoint itself.

The second half follows the reading when a directive is added at the end of a block.
-/

namespace SocketDocs

open Json (Value)

-- ---------------------------------------------------------------------------
-- What one directive gives
-- ---------------------------------------------------------------------------

namespace Directive

def endsMessage : Directive → Bool
  | .message _ => true
  | .direction _ => true
  | _ => false

def name? : Directive → Option String
  | .webSocket name => some name
  | _ => none

def group? : Directive → Option String
  | .group text => some text
  | _ => none

def url? : Directive → Option String
  | .url text => some text
  | _ => none

def description? : Directive → Option String
  | .description text => some text
  | _ => none

def tags? : Directive → Option (List String)
  | .tags names => some names
  | _ => none

def parameter? : Directive → Option Parameter
  | .parameter p => some p
  | _ => none

def messageType? : Directive → Option String
  | .message messageType => some messageType
  | _ => none

def payload? (catalog : Catalog) : Directive → Option Value
  | .payload (.inline value) => some value
  | .payload (.typeRef name) => (catalog.resolve? name).map Record.samplePayload
  | _ => none

def sample? : Directive → Option Value
  | .sample value => some value
  | _ => none

def error? : Directive → Option ErrorCase
  | .error case => some case
  | _ => none

def isDeprecated : Directive → Bool
  | .deprecated => true
  | _ => false

def last? {α : Type} (read : Directive → Option α) (directives : List Directive) : Option α :=
  (directives.filterMap read).getLast?

/-- A directive of a block with what stands before and after it. -/
structure Cut where
  before : List Directive
  directive : Directive
  after : List Directive

def cutsFrom (before : List Directive) : List Directive → List Cut
  | [] => []
  | directive :: after => ⟨before, directive, after⟩ :: cutsFrom (before ++ [directive]) after

def cuts (directives : List Directive) : List Cut :=
  cutsFrom [] directives

def latestType (before : List Directive) : String :=
  (last? messageType? before).getD ""

/-- Whether a message is open after these directives: of those that end a message, the last opens
one. -/
def isOpen (before : List Directive) : Bool :=
  match (before.filter (·.endsMessage)).getLast? with
  | some (.direction _) => true
  | _ => false

def outside (directives : List Directive) : List Directive :=
  ((cuts directives).filter (!isOpen ·.before)).map (·.directive)

def messageTypes (directives : List Directive) : List String :=
  (directives.filterMap messageType?).eraseDups

end Directive

-- ---------------------------------------------------------------------------
-- Messages, exchanges and the endpoint
-- ---------------------------------------------------------------------------

/-- The directives about one message. -/
structure Segment where
  messageType : String
  direction : Direction
  body : List Directive

namespace Segment

open Directive (last?)

def ofCut? (cut : Directive.Cut) : Option Segment :=
  match cut.directive with
  | .direction direction =>
    some ⟨Directive.latestType cut.before, direction, cut.after.takeWhile (!·.endsMessage)⟩
  | _ => none

def all (directives : List Directive) : List Segment :=
  (Directive.cuts directives).filterMap ofCut?

def message (catalog : Catalog) (segment : Segment) : Message where
  messageType := segment.messageType
  direction := segment.direction
  description := (last? Directive.description? segment.body).getD ""
  payload := last? (Directive.payload? catalog) segment.body
  sample := last? Directive.sample? segment.body
  errors := segment.body.filterMap Directive.error?
  deprecated := segment.body.any Directive.isDeprecated
  tags := (last? Directive.tags? segment.body).getD []

end Segment

namespace Exchange

/-- The message in a slot of an exchange: that of the last segment with the type and direction. -/
def slotOf (catalog : Catalog) (segments : List Segment) (messageType : String)
    (direction : Direction) : Option Message :=
  ((segments.filter fun s => s.messageType == messageType && s.direction == direction).getLast?).map
    (·.message catalog)

def firstText (texts : List String) : String :=
  (texts.find? (!·.isEmpty)).getD ""

/-- The first description among the messages of a type, whether or not a later one replaces the
message. -/
def descriptionOf (catalog : Catalog) (segments : List Segment) (messageType : String) : String :=
  firstText ((segments.filter (·.messageType == messageType)).map fun s =>
    (s.message catalog).description)

def ofSegments (catalog : Catalog) (segments : List Segment) (messageType : String) : Exchange where
  messageType := messageType
  description := descriptionOf catalog segments messageType
  send := slotOf catalog segments messageType .send
  receive := slotOf catalog segments messageType .receive

end Exchange

namespace Endpoint

open Directive (last?)

def header (directives : List Directive) : Endpoint where
  name := (last? Directive.name? directives).getD ""
  url := (last? Directive.url? directives).getD ""
  description := (last? Directive.description? (Directive.outside directives)).getD ""
  group := (last? Directive.group? directives).getD ""
  tags := (last? Directive.tags? (Directive.outside directives)).getD []
  parameters := directives.filterMap Directive.parameter?

def ofDirectives (catalog : Catalog) (directives : List Directive) : Endpoint :=
  { header directives with
    exchanges := (Directive.messageTypes directives).map
      (Exchange.ofSegments catalog (Segment.all directives)) }

end Endpoint

-- ---------------------------------------------------------------------------
-- One directive more
-- ---------------------------------------------------------------------------

namespace Directive

variable {directives before body : List Directive} {x : Directive}

theorem last?_concat {α : Type} (read : Directive → Option α) (directives : List Directive)
    (x : Directive) : last? read (directives ++ [x]) = (read x).or (last? read directives) := by
  cases h : read x <;> simp [last?, h]

theorem cutsFrom_append (before front back : List Directive) :
    cutsFrom before (front ++ back) =
      (cutsFrom before front).map (fun cut => { cut with after := cut.after ++ back }) ++
        cutsFrom (before ++ front) back := by
  induction front generalizing before with
  | nil => simp [cutsFrom]
  | cons x front ih => simp [cutsFrom, ih]

theorem cuts_append (front back : List Directive) :
    cuts (front ++ back) =
      (cuts front).map (fun cut => { cut with after := cut.after ++ back }) ++
        cutsFrom front back :=
  cutsFrom_append [] front back

theorem eq_of_mem_cutsFrom {before directives : List Directive} {cut : Cut}
    (h : cut ∈ cutsFrom before directives) :
    before ++ directives = cut.before ++ cut.directive :: cut.after := by
  induction directives generalizing before with
  | nil => cases h
  | cons x rest ih =>
    rcases List.mem_cons.mp h with rfl | h
    · rfl
    · rw [← ih h, List.append_assoc]
      rfl

theorem eq_of_mem_cuts {cut : Cut} (h : cut ∈ cuts directives) :
    directives = cut.before ++ cut.directive :: cut.after :=
  eq_of_mem_cutsFrom h

theorem latestType_mem_messageTypes (h : latestType before ≠ "") (after : List Directive) :
    latestType before ∈ messageTypes (before ++ after) := by
  cases hlast : last? messageType? before with
  | none => simp [latestType, hlast] at h
  | some t =>
    have hmem : t ∈ before.filterMap messageType? := List.mem_of_getLast? hlast
    rw [latestType, hlast, Option.getD_some, messageTypes, List.mem_eraseDups,
      List.filterMap_append]
    exact List.mem_append_left _ hmem

theorem outside_concat (directives : List Directive) (x : Directive) :
    outside (directives ++ [x]) = outside directives ++ if isOpen directives then [] else [x] := by
  simp only [outside, cuts_append, List.filter_append, List.map_append, List.filter_map,
    List.map_map, Function.comp_def, cutsFrom]
  cases h : isOpen directives <;> simp [h]

/-- A block has no end of a message, or it has a last one. -/
theorem exists_last_end (directives : List Directive) :
    (∀ d ∈ directives, d.endsMessage = false) ∨
      ∃ before x body, directives = before ++ x :: body ∧ x.endsMessage = true ∧
        ∀ d ∈ body, d.endsMessage = false := by
  induction directives with
  | nil => exact .inl (by simp)
  | cons x rest ih =>
    rcases ih with hnone | ⟨before, y, body, rfl, hy, hbody⟩
    · cases hx : x.endsMessage with
      | true => exact .inr ⟨[], x, rest, rfl, hx, hnone⟩
      | false => exact .inl (List.forall_mem_cons.mpr ⟨hx, hnone⟩)
    · exact .inr ⟨x :: before, y, body, rfl, hy, hbody⟩

theorem isOpen_of_quiet (h : ∀ d ∈ body, d.endsMessage = false) : isOpen body = false := by
  have hfilter : body.filter (·.endsMessage) = [] := by simpa using h
  simp [isOpen, hfilter]

theorem isOpen_append (hx : x.endsMessage = true) (h : ∀ d ∈ body, d.endsMessage = false) :
    isOpen (before ++ x :: body) = isOpen [x] := by
  have hfilter : body.filter (·.endsMessage) = [] := by simpa using h
  simp [isOpen, hfilter, hx]

end Directive

namespace Segment

open Directive (isOpen latestType cuts cutsFrom)

variable {directives before body : List Directive} {x : Directive}

theorem filterMap_cutsFrom_of_quiet (h : ∀ d ∈ body, d.endsMessage = false)
    (before : List Directive) : (cutsFrom before body).filterMap ofCut? = [] := by
  induction body generalizing before with
  | nil => rfl
  | cons x body ih =>
    obtain ⟨hx, hbody⟩ := List.forall_mem_cons.mp h
    have hnone : ofCut? ⟨before, x, body⟩ = none := by
      cases x <;> first | rfl | cases hx
    simp [cutsFrom, hnone, ih hbody]

theorem all_of_quiet (h : ∀ d ∈ body, d.endsMessage = false) : all body = [] :=
  filterMap_cutsFrom_of_quiet h []

/-- The segment that the last end of a message opens, if any, comes last; those before it do not
reach beyond that end. -/
theorem all_append (hx : x.endsMessage = true) (h : ∀ d ∈ body, d.endsMessage = false) :
    all (before ++ x :: body) = all before ++ (ofCut? ⟨before, x, body⟩).toList := by
  have htake : ∀ after : List Directive,
      (after ++ x :: body).takeWhile (!·.endsMessage) = after.takeWhile (!·.endsMessage) := by
    intro after
    rw [List.takeWhile_append]
    split
    · rename_i hlen
      rw [List.takeWhile_cons_of_neg (by simp [hx]), List.append_nil]
      exact ((List.takeWhile_prefix _).eq_of_length hlen).symm
    · rfl
  have hsame : ∀ cut : Directive.Cut,
      ofCut? { cut with after := cut.after ++ x :: body } = ofCut? cut := by
    rintro ⟨front, y, after⟩
    cases y <;> simp [ofCut?, htake]
  simp only [all, Directive.cuts_append, List.filterMap_append, List.filterMap_map,
    Function.comp_def, hsame, cutsFrom, List.filterMap_cons, filterMap_cutsFrom_of_quiet h]
  cases ofCut? ⟨before, x, body⟩ <;> rfl

def filed (directives : List Directive) : List Segment :=
  if isOpen directives then (all directives).dropLast else all directives

def opened? (directives : List Directive) : Option Segment :=
  if isOpen directives then (all directives).getLast? else none

theorem filed_of_quiet (h : ∀ d ∈ body, d.endsMessage = false) : filed body = [] := by
  simp [filed, Directive.isOpen_of_quiet h, all_of_quiet h]

theorem opened?_of_quiet (h : ∀ d ∈ body, d.endsMessage = false) : opened? body = none := by
  simp [opened?, Directive.isOpen_of_quiet h]

theorem ofCut?_eq_none_iff (hx : x.endsMessage = true) :
    ofCut? ⟨before, x, body⟩ = none ↔ isOpen [x] = false := by
  cases x <;> simp_all [ofCut?, isOpen, Directive.endsMessage]

theorem filed_append (hx : x.endsMessage = true) (h : ∀ d ∈ body, d.endsMessage = false) :
    filed (before ++ x :: body) = all before := by
  rw [filed, Directive.isOpen_append hx h, all_append hx h]
  cases hc : ofCut? ⟨before, x, body⟩ with
  | none => simp [(ofCut?_eq_none_iff hx).mp hc]
  | some s => simp [mt (ofCut?_eq_none_iff hx).mpr (by rw [hc]; simp)]

theorem opened?_append (hx : x.endsMessage = true) (h : ∀ d ∈ body, d.endsMessage = false) :
    opened? (before ++ x :: body) = ofCut? ⟨before, x, body⟩ := by
  rw [opened?, Directive.isOpen_append hx h, all_append hx h]
  cases hc : ofCut? ⟨before, x, body⟩ with
  | none => simp [(ofCut?_eq_none_iff hx).mp hc]
  | some s => simp [mt (ofCut?_eq_none_iff hx).mpr (by rw [hc]; simp)]

theorem isSome_opened? (directives : List Directive) :
    (opened? directives).isSome = isOpen directives := by
  rcases Directive.exists_last_end directives with hnone | ⟨before, x, body, rfl, hx, hbody⟩
  · simp [opened?_of_quiet hnone, Directive.isOpen_of_quiet hnone]
  · rw [opened?_append hx hbody, Directive.isOpen_append hx hbody]
    cases x <;> simp_all [ofCut?, isOpen, Directive.endsMessage]

theorem all_eq_filed_append (directives : List Directive) :
    all directives = filed directives ++ (opened? directives).toList := by
  rcases Directive.exists_last_end directives with hnone | ⟨before, x, body, rfl, hx, hbody⟩
  · simp [all_of_quiet hnone, filed_of_quiet hnone, opened?_of_quiet hnone]
  · rw [all_append hx hbody, filed_append hx hbody, opened?_append hx hbody]

theorem filed_concat_of_end (hx : x.endsMessage = true) : filed (directives ++ [x]) = all directives :=
  filed_append hx (by simp)

theorem opened?_concat_of_end (hx : x.endsMessage = true) :
    opened? (directives ++ [x]) = ofCut? ⟨directives, x, []⟩ :=
  opened?_append hx (by simp)

theorem filed_concat_of_quiet (hx : x.endsMessage = false) :
    filed (directives ++ [x]) = filed directives := by
  rcases Directive.exists_last_end directives with hnone | ⟨before, y, body, rfl, hy, hbody⟩
  · have hall : ∀ d ∈ directives ++ [x], d.endsMessage = false := by
      simpa [hx, or_imp, forall_and] using hnone
    rw [filed_of_quiet hall, filed_of_quiet hnone]
  · have hall : ∀ d ∈ body ++ [x], d.endsMessage = false := by
      simpa [hx, or_imp, forall_and] using hbody
    rw [List.append_assoc, List.cons_append, filed_append hy hall, filed_append hy hbody]

theorem opened?_concat_of_quiet (hx : x.endsMessage = false) :
    opened? (directives ++ [x]) =
      (opened? directives).map fun s => { s with body := s.body ++ [x] } := by
  rcases Directive.exists_last_end directives with hnone | ⟨before, y, body, rfl, hy, hbody⟩
  · have hall : ∀ d ∈ directives ++ [x], d.endsMessage = false := by
      simpa [hx, or_imp, forall_and] using hnone
    rw [opened?_of_quiet hall, opened?_of_quiet hnone]
    rfl
  · have hall : ∀ d ∈ body ++ [x], d.endsMessage = false := by
      simpa [hx, or_imp, forall_and] using hbody
    rw [List.append_assoc, List.cons_append, opened?_append hy hall, opened?_append hy hbody]
    have htake : ∀ l : List Directive, (∀ d ∈ l, d.endsMessage = false) →
        l.takeWhile (!·.endsMessage) = l := by
      intro l hl
      rw [List.takeWhile_eq_self_iff]
      simpa using hl
    cases y <;> simp [ofCut?, htake _ hall, htake _ hbody]

theorem mem_messageTypes_of_mem_all {s : Segment} (h : s ∈ all directives)
    (hne : s.messageType ≠ "") : s.messageType ∈ Directive.messageTypes directives := by
  obtain ⟨⟨before, x, after⟩, hcut, hs⟩ := List.mem_filterMap.mp h
  have hsplit := Directive.eq_of_mem_cuts hcut
  have htype : s.messageType = latestType before := by
    cases x <;> cases hs
    rfl
  rw [htype] at hne ⊢
  rw [hsplit]
  exact Directive.latestType_mem_messageTypes hne _

end Segment

end SocketDocs
