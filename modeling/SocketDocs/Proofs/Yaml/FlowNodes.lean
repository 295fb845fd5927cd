import Mathlib.Algebra.Order.BigOperators.Group.List
import Mathlib.Data.List.Forall2
import SocketDocs.Yaml.Node

/-!
# The nodes of flow collections

What the reader of nodes makes of the tokens of scalars and of flow collections without tags and
anchors. `Parses` and `Takes` say it for a whole part and for one step of a collection, with failure
as a result. A key without its token leaves a colon behind that no step can take.
-/

namespace SocketDocs.Yaml

namespace Reader

-- ---------------------------------------------------------------------------
-- Single tokens
-- ---------------------------------------------------------------------------

section

variable {α β : Type} {s : Reading} {token : Token} {rest : List Token}

theorem bind_eq (m : Reader α) (f : α → Reader β) (s : Reading) :
    (m >>= f) s = (m s).bind fun found => f found.1 found.2 := rfl

theorem bind_pure_eq (m : Reader α) (f : α → β) (s : Reading) :
    (m >>= fun a => pure (f a)) s = (m s).map fun found => (f found.1, found.2) := by
  rw [bind_eq]
  cases m s <;> rfl

theorem bind_get (f : Reading → Reader α) (s : Reading) : (get >>= f) s = f s s := rfl

theorem bind_modify (g : Reading → Reading) (f : Unit → Reader α) (s : Reading) :
    (modify g >>= f) s = f () (g s) := rfl

theorem pure_eq (a : α) (s : Reading) : (pure a : Reader α) s = some (a, s) := rfl

theorem peek_eq (h : s.tokens = token :: rest) : peek s = some (token, s) := by
  simp [peek, bind_eq, h, get, getThe, MonadStateOf.get, StateT.get, pure_eq]

theorem bind_peek (h : s.tokens = token :: rest) (f : Token → Reader α) :
    (peek >>= f) s = f token s := by
  rw [bind_eq, peek_eq h]
  rfl

theorem bind_sees (h : s.tokens = token :: rest) (wanted : List Token) (f : Bool → Reader α) :
    (sees wanted >>= f) s = f (wanted.contains token) s := by
  rw [bind_eq, sees, bind_eq, peek_eq h]
  rfl

theorem skip_eq (h : s.tokens = token :: rest) : skip s = some ((), { s with tokens := rest }) := by
  simp [skip, modify, modifyGet, MonadStateOf.modifyGet, StateT.modifyGet, h]

theorem bind_skip (h : s.tokens = token :: rest) (f : Unit → Reader α) :
    (skip >>= f) s = f () { s with tokens := rest } := by
  rw [bind_eq, skip_eq h]
  rfl

theorem bind_take? (h : s.tokens = token :: rest) (wanted : Token) (f : Bool → Reader α) :
    (take? wanted >>= f) s =
      if token = wanted then f true { s with tokens := rest } else f false s := by
  rw [bind_eq, take?, bind_eq, peek_eq h, Option.bind_some]
  by_cases heq : token = wanted
  · rw [if_pos heq, if_pos (by simpa using heq), bind_eq, skip_eq h]
    rfl
  · rw [if_neg heq, if_neg (by simpa using heq)]
    rfl

theorem count_eq (events : Nat) (s : Reading) :
    count events s = some ((), { s with events := s.events + events }) := rfl

end

-- ---------------------------------------------------------------------------
-- Flow collections
-- ---------------------------------------------------------------------------

section

variable {α : Type}

/-- A run from a state ends with a result before the rest of the tokens, or fails. -/
def Ends (s : Reading) (rest : List Token) (found : Option (α × Reading)) : Option α → Prop
  | some a => ∃ events, found = some (a, { s with tokens := rest, events })
  | none => found = none

def Parses (m : Reader α) (tokens rest : List Token) (result : Option α) : Prop :=
  ∀ s : Reading, s.tokens = tokens ++ rest → s.tokens.length ≤ s.bound → Ends s rest (m s) result

def Stops (step : Bool → Reader (Option α)) (stop : Token) : Prop :=
  ∀ (first : Bool) (s : Reading) (rest : List Token), s.tokens = stop :: rest →
    step first s = some (none, { s with tokens := rest })

/-- A step of a flow collection at an item. Without a result the step fails, or the next one. -/
def Takes (step : Bool → Reader (Option α)) (tokens : List Token) (result : Option α) : Prop :=
  ∀ (first : Bool) (s : Reading) (rest : List Token),
    s.tokens = (if first then [] else [.flowEntry]) ++ (tokens ++ rest) →
    s.tokens.length ≤ s.bound →
    Ends s rest (step first s) (result.map some) ∨
      result = none ∧ ∃ a s', step first s = some (some a, s') ∧ step false s' = none

theorem repeated_none {step : Reader (Option α)} {s : Reading} (h : step s = none) (rounds : Nat) :
    repeated step rounds s = none := by
  cases rounds with
  | zero => rfl
  | succ rounds => rw [repeated, bind_eq, h, Option.bind_none]

theorem repeated_some {step : Reader (Option α)} {s s' : Reading} {a : α}
    (h : step s = some (some a, s')) (rounds : Nat) :
    repeated step (rounds + 1) s =
      (repeated step rounds s').map fun found => (a :: found.1, found.2) := by
  rw [repeated, bind_eq, h, Option.bind_some]
  simp only [bind_eq]
  cases repeated step rounds s' <;> rfl

theorem Ends.map {β : Type} {s : Reading} {rest : List Token} {found : Option (α × Reading)}
    {result : Option α} (h : Ends s rest found result) (f : α → β) :
    Ends s rest (found.map fun found => (f found.1, found.2)) (result.map f) := by
  cases result with
  | none =>
    rw [Ends] at h
    rw [h]
    rfl
  | some a =>
    obtain ⟨events, rfl⟩ := h
    exact ⟨events, rfl⟩

theorem mapM_cons_some {ι : Type} {read : ι → Option α} {item : ι} {a : α} (h : read item = some a)
    (items : List ι) : (item :: items).mapM read = (items.mapM read).map (a :: ·) := by
  rw [List.mapM_cons, h]
  cases items.mapM read <;> rfl

theorem mapM_cons_none {ι : Type} {read : ι → Option α} {item : ι} (h : read item = none)
    (items : List ι) : (item :: items).mapM read = none := by
  rw [List.mapM_cons, h]
  rfl

theorem parses_repeated {step : Bool → Reader (Option α)} {stop : Token} (hstop : Stops step stop)
    {ι : Type} {read : ι → Option α} {pieces : List (List Token)} {items : List ι}
    (h : List.Forall₂ (fun item tokens => Takes step tokens (read item)) items pieces)
    {rounds : Nat} (hrounds : pieces.length < rounds) (rest : List Token) :
    Parses (repeated (step false) rounds) (pieces.flatMap (.flowEntry :: ·) ++ [stop]) rest
      (items.mapM read) := by
  induction h generalizing rounds with
  | nil =>
    intro s hs _
    obtain ⟨rounds, rfl⟩ := Nat.exists_eq_succ_of_ne_zero (Nat.ne_of_gt hrounds)
    refine ⟨s.events, ?_⟩
    rw [Nat.succ_eq_add_one, repeated, bind_eq, hstop false s rest (by simpa using hs)]
    rfl
  | @cons item tokens items pieces hitem _ ih =>
    intro s hs hbound
    obtain ⟨rounds, rfl⟩ := Nat.exists_eq_succ_of_ne_zero (Nat.ne_of_gt (Nat.zero_lt_of_lt hrounds))
    rw [Nat.succ_eq_add_one] at hrounds ⊢
    have htakes := hitem false s (pieces.flatMap (.flowEntry :: ·) ++ [stop] ++ rest)
      (by simpa using hs) hbound
    cases hread : read item with
    | none =>
      rw [hread] at htakes
      rw [mapM_cons_none hread, Ends]
      rcases htakes with hnone | ⟨-, a, s', hsome, hnone⟩
      · exact repeated_none hnone _
      · rw [repeated_some hsome, repeated_none hnone]
        rfl
    | some a =>
      rw [hread] at htakes
      obtain ⟨events, hsome⟩ := htakes.resolve_right (by simp)
      have hlength := congrArg List.length hs
      simp only [List.length_append, List.flatMap_cons, List.length_cons] at hlength
      have hmore := ih (show pieces.length < rounds by simpa using hrounds)
        { s with tokens := pieces.flatMap (.flowEntry :: ·) ++ [stop] ++ rest, events } rfl (by
          simp only [List.length_append, List.length_cons]
          omega)
      rw [mapM_cons_some hread, repeated_some hsome]
      exact hmore.map (a :: ·)

def separated : List (List Token) → List Token
  | [] => []
  | first :: rest => first ++ rest.flatMap (.flowEntry :: ·)

theorem parses_flowItems {step : Bool → Reader (Option α)} {stop : Token} (hstop : Stops step stop)
    {ι : Type} {read : ι → Option α} {pieces : List (List Token)} {items : List ι}
    (h : List.Forall₂ (fun item tokens => Takes step tokens (read item)) items pieces)
    (rest : List Token) :
    Parses (flowItems step) (separated pieces ++ [stop]) rest (items.mapM read) := by
  intro s hs hbound
  cases h with
  | nil =>
    refine ⟨s.events, ?_⟩
    rw [flowItems, bind_eq, hstop true s rest hs]
    rfl
  | @cons item tokens items pieces hitem hitems =>
    have htakes := hitem true s (pieces.flatMap (.flowEntry :: ·) ++ [stop] ++ rest)
      (by simpa [separated] using hs) hbound
    have hflow : ∀ {a : α} {s' : Reading}, step true s = some (some a, s') →
        flowItems step s = (repeated (step false) (s'.bound + 1) s').map fun found =>
          (a :: found.1, found.2) := by
      intro a s' hsome
      have hmany : many (step false) s' = repeated (step false) (s'.bound + 1) s' := rfl
      rw [flowItems, bind_eq, hsome, Option.bind_some]
      simp only [bind_eq, hmany]
      cases repeated (step false) (s'.bound + 1) s' <;> rfl
    cases hread : read item with
    | none =>
      rw [hread] at htakes
      rw [mapM_cons_none hread, Ends]
      rcases htakes with hnone | ⟨-, a, s', hsome, hnone⟩
      · rw [Option.map_none, Ends] at hnone
        rw [flowItems, bind_eq, hnone, Option.bind_none]
      · rw [hflow hsome, repeated_none hnone]
        rfl
    | some a =>
      rw [hread] at htakes
      obtain ⟨events, hsome⟩ := htakes.resolve_right (by simp)
      have hpieces : pieces.length ≤ (pieces.flatMap (Token.flowEntry :: ·)).length := by
        rw [List.length_flatMap, ← List.length_map]
        refine List.length_le_sum_of_one_le _ ?_
        rintro _ hn
        obtain ⟨piece, -, rfl⟩ := List.mem_map.mp hn
        simp
      have hlength := congrArg List.length hs
      simp only [separated, List.length_append, List.length_cons] at hlength
      have hmore := parses_repeated hstop hitems (show pieces.length < s.bound + 1 by omega)
        rest { s with tokens := pieces.flatMap (.flowEntry :: ·) ++ [stop] ++ rest, events } rfl (by
          simp only [List.length_append, List.length_cons]
          omega)
      rw [mapM_cons_some hread, hflow hsome]
      exact hmore.map (a :: ·)

end

-- ---------------------------------------------------------------------------
-- Steps
-- ---------------------------------------------------------------------------

def opensValue : Token → Bool
  | .scalar _ _ => true
  | .flowSequenceStart => true
  | .flowMappingStart => true
  | _ => false

theorem ne_of_opensValue {token other : Token} (h : opensValue token = true)
    (hother : opensValue other = false) : token ≠ other := by
  rintro rfl
  rw [h] at hother
  cases hother

section

variable {α : Type} {s : Reading} {stop token : Token}

theorem bind_flowComma_stop {rest : List Token} (h : s.tokens = stop :: rest) (first : Bool)
    (f : Unit → Reader α) : (flowComma first stop >>= f) s = f () s := by
  rw [bind_eq, flowComma, bind_sees h]
  cases first <;> simp [pure_eq]

theorem bind_flowComma {more : List Token} {first : Bool}
    (h : s.tokens = (if first then [] else [.flowEntry]) ++ token :: more)
    (hstop : stop ≠ .flowEntry) (f : Unit → Reader α) :
    (flowComma first stop >>= f) s = f () { s with tokens := token :: more } := by
  rw [bind_eq, flowComma]
  cases first with
  | true =>
    have h : s.tokens = token :: more := h
    rw [bind_sees h, ← h]
    rfl
  | false =>
    have h : s.tokens = .flowEntry :: token :: more := h
    have hne : ([stop].contains Token.flowEntry) = false := by simpa using hstop.symm
    rw [bind_sees h, hne, Bool.or_false, if_neg (by decide), bind_take? h, if_pos rfl]
    rfl

end

theorem stops_flowSequence (read : Context → Reader Node) :
    Stops (flowSequenceStep read) .flowSequenceEnd := by
  intro first s rest h
  rw [flowSequenceStep, bind_flowComma_stop h, bind_take? h, if_pos rfl]
  rfl

theorem stops_flowMapping (read : Context → Reader Node) :
    Stops (flowMappingStep read) .flowMappingEnd := by
  intro first s rest h
  rw [flowMappingStep, bind_flowComma_stop h, bind_take? h, if_pos rfl]
  rfl

theorem takes_flowSequence {read : Context → Reader Node} {token : Token} {more : List Token}
    {result : Option Node} (hopens : opensValue token = true)
    (hread : ∀ rest, Parses (read .flow) (token :: more) rest result) :
    Takes (flowSequenceStep read) (token :: more) result := by
  intro first s rest h hbound
  rw [List.cons_append] at h
  have hend := ne_of_opensValue hopens (show opensValue .flowSequenceEnd = false from rfl)
  have hkey := ne_of_opensValue hopens (show opensValue .key = false from rfl)
  have hlength := congrArg List.length h
  simp only [List.length_append, List.length_cons] at hlength
  generalize hs : ({ s with tokens := token :: (more ++ rest) } : Reading) = s'
  have hs' : s'.tokens = token :: (more ++ rest) := by rw [← hs]
  have hstep : flowSequenceStep read first s =
      (read .flow s').map fun found => (some found.1, found.2) := by
    rw [flowSequenceStep, bind_flowComma h (by decide), hs, bind_take? hs', if_neg hend,
      if_neg (by decide), bind_take? hs', if_neg hkey, if_neg (by decide), bind_eq]
    cases read .flow s' <;> rfl
  have hends := hread rest s' hs' (by
    rw [hs', ← hs]
    simp only [List.length_append, List.length_cons]
    omega)
  rw [hstep]
  subst hs
  exact .inl (hends.map some)

theorem nodeUnless_eq {read : Context → Reader Node} {s : Reading} {token : Token}
    {rest : List Token} (h : s.tokens = token :: rest) {stops : List Token}
    (hstops : stops.contains token = false) (context : Context) :
    nodeUnless read stops context s = read context s := by
  rw [nodeUnless, bind_sees h, hstops, if_neg (by decide)]

theorem takes_flowMapping {read : Context → Reader Node} {text : String} {style : ScalarStyle}
    (hkey : ∀ rest, Parses (read .flow) [.scalar text style] rest (some (.scalar none style text)))
    {token : Token} {more : List Token} {result : Option Node} (hopens : opensValue token = true)
    (hread : ∀ rest, Parses (read .flow) (token :: more) rest result) :
    Takes (flowMappingStep read) (.key :: .scalar text style :: .value :: token :: more)
      (result.map (.scalar none style text, ·)) := by
  intro first s rest h hbound
  simp only [List.cons_append] at h
  have hlength := congrArg List.length h
  simp only [List.length_append, List.length_cons] at hlength
  -- the key, up to the colon
  obtain ⟨events, hscalar⟩ := hkey (.value :: token :: (more ++ rest))
    { s with tokens := .scalar text style :: .value :: token :: (more ++ rest) } rfl (by
      simp only [List.length_append, List.length_cons]
      omega)
  generalize hs : ({ s with tokens := token :: (more ++ rest), events } : Reading) = s'
  have hs' : s'.tokens = token :: (more ++ rest) := by rw [← hs]
  have hstops : ([.flowEntry, .flowMappingEnd] : List Token).contains token = false := by
    have hcomma := ne_of_opensValue hopens (show opensValue .flowEntry = false from rfl)
    have hend := ne_of_opensValue hopens (show opensValue .flowMappingEnd = false from rfl)
    simp [hcomma, hend]
  have hstep : flowMappingStep read first s =
      (read .flow s').map fun found => (some (.scalar none style text, found.1), found.2) := by
    rw [flowMappingStep, bind_flowComma h (by decide), bind_take? rfl, if_neg (by decide),
      if_neg (by decide), bind_take? rfl, if_pos rfl, if_pos rfl, bind_eq,
      nodeUnless_eq rfl (by rfl), hscalar, Option.bind_some, bind_take? rfl, if_pos rfl, if_pos rfl,
      hs, bind_eq, nodeUnless_eq hs' hstops]
    cases read .flow s' <;> rfl
  have hends := hread rest s' hs' (by
    rw [hs', ← hs]
    simp only [List.length_append, List.length_cons]
    omega)
  rw [hstep, Option.map_map]
  subst hs
  exact .inl (hends.map fun value => some (Node.scalar none style text, value))

/-- A member of a mapping whose key is not announced: the key is taken for a whole member, and no
step can go on at the colon. -/
theorem takes_flowMapping_none {read : Context → Reader Node} {text : String} {style : ScalarStyle}
    (hkey : ∀ rest, Parses (read .flow) [.scalar text style] rest (some (.scalar none style text)))
    (more : List Token) :
    Takes (flowMappingStep read) (.scalar text style :: .value :: more) none := by
  intro first s rest h hbound
  simp only [List.cons_append] at h
  have hlength := congrArg List.length h
  simp only [List.length_append, List.length_cons] at hlength
  obtain ⟨events, hscalar⟩ := hkey (.value :: (more ++ rest))
    { s with tokens := .scalar text style :: .value :: (more ++ rest) } rfl (by
      simp only [List.length_append, List.length_cons]
      omega)
  refine .inr ⟨rfl, (.scalar none style text, .absent),
    { s with tokens := .value :: (more ++ rest), events := events + 1 }, ?_, ?_⟩
  · rw [flowMappingStep, bind_flowComma h (by decide), bind_take? rfl, if_neg (by simp),
      if_neg (by decide), bind_take? rfl, if_neg (by simp), if_neg (by decide), bind_eq, hscalar]
    rfl
  · rw [flowMappingStep, bind_eq, flowComma, bind_sees rfl, if_neg (by decide), bind_take? rfl,
      if_neg (by decide)]
    rfl

-- ---------------------------------------------------------------------------
-- Nodes
-- ---------------------------------------------------------------------------

theorem node_succ {s : Reading} {token : Token} {rest : List Token} (h : s.tokens = token :: rest)
    (hopens : opensValue token = true) (fuel : Nat) (context : Context) :
    node (fuel + 1) context s = content (node fuel) context {} s := by
  have hanchor : anchorProperty s = some (none, s) := by
    rw [anchorProperty, bind_peek h]
    cases token <;> first | rfl | cases hopens
  have htag : tagProperty s = some (none, s) := by
    rw [tagProperty, bind_peek h]
    cases token <;> first | rfl | cases hopens
  have hproperties : properties s = some ({}, s) := by
    rw [properties, bind_eq, hanchor, Option.bind_some, bind_eq, htag]
    rfl
  rw [node, bind_peek h]
  cases token with
  | scalar _ _ | flowSequenceStart | flowMappingStart =>
    simp only [bind_eq, hproperties, Option.bind_some]
    rfl
  | _ => cases hopens

theorem parses_scalar (fuel : Nat) (context : Context) (text : String) (style : ScalarStyle)
    (rest : List Token) :
    Parses (node (fuel + 1) context) [.scalar text style] rest (some (.scalar none style text)) := by
  intro s h _
  refine ⟨s.events + 1, ?_⟩
  rw [node_succ h rfl, content, bind_peek h]
  simp only [bind_skip h]
  rfl

theorem parses_sequence (fuel : Nat) (context : Context) {inside rest : List Token}
    {result : Option (List Node)}
    (h : Parses (flowItems (flowSequenceStep (node fuel))) inside rest result) :
    Parses (node (fuel + 1) context) (.flowSequenceStart :: inside) rest
      (result.map (.sequence none)) := by
  intro s hs hbound
  rw [List.cons_append] at hs
  have hends := h { s with tokens := inside ++ rest, events := s.events + 2 } rfl (by
    rw [hs, List.length_cons] at hbound
    simp only
    omega)
  rw [node_succ hs rfl, content, bind_peek hs]
  simp only [bind_skip hs]
  rw [bind_eq, count_eq, Option.bind_some, bind_pure_eq]
  exact hends.map (Node.sequence none)

theorem parses_mapping (fuel : Nat) (context : Context) {inside rest : List Token}
    {result : Option (List (Node × Node))}
    (h : Parses (flowItems (flowMappingStep (node fuel))) inside rest result) :
    Parses (node (fuel + 1) context) (.flowMappingStart :: inside) rest
      (result.map (.mapping none)) := by
  intro s hs hbound
  rw [List.cons_append] at hs
  have hends := h { s with tokens := inside ++ rest, events := s.events + 2 } rfl (by
    rw [hs, List.length_cons] at hbound
    simp only
    omega)
  rw [node_succ hs rfl, content, bind_peek hs]
  simp only [bind_skip hs]
  rw [bind_eq, count_eq, Option.bind_some, bind_pure_eq]
  exact hends.map (Node.mapping none)

-- ---------------------------------------------------------------------------
-- Trees
-- ---------------------------------------------------------------------------

theorem rootNode_eq {s : Reading} {token : Token} {rest : List Token}
    (h : s.tokens = token :: rest) (hopens : opensValue token = true) :
    rootNode s = node (s.bound + 1) .block { s with handles := standardHandles } := by
  have hdirective : isDirective token = false := by
    cases token <;> first | rfl | cases hopens
  have hdirectives : directives (s.bound + 1) false [] s = some ([], s) := by
    rw [directives, bind_peek h]
    cases token <;> first | rfl | cases hopens
  have hstart := ne_of_opensValue hopens (show opensValue .documentStart = false from rfl)
  have hs : ({ s with handles := standardHandles } : Reading).tokens = token :: rest := h
  rw [rootNode, bind_peek h, hdirective]
  rw [bind_get, bind_eq, hdirectives, Option.bind_some, bind_modify, bind_get]
  simp only [List.nil_append, bind_take? hs, if_neg hstart]
  rfl

theorem finish_eq {s : Reading} {rest : List Token} (h : s.tokens = .streamEnd :: rest)
    (rounds : Nat) : finish (rounds + 1) s = some ((), s) := by
  rw [finish, bind_take? h, if_neg (by decide), if_neg (by decide), bind_sees h]
  rfl

theorem ends_stream {s : Reading} {token : Token} {more : List Token} {result : Option Node}
    (hs : s.tokens = token :: more ++ [.streamEnd]) (hopens : opensValue token = true)
    (hbound : s.tokens.length ≤ s.bound)
    (hnode : ∀ rest, Parses (node (s.bound + 1) .block) (token :: more) rest result) :
    Ends { s with handles := standardHandles } [.streamEnd] (stream s) (result.map some) := by
  have hne : [Token.streamEnd].contains token = false := by
    simpa using ne_of_opensValue hopens (show opensValue .streamEnd = false from rfl)
  have hends := hnode [.streamEnd] { s with handles := standardHandles } hs hbound
  rw [List.cons_append] at hs
  rw [stream, bind_sees hs, hne, if_neg (by decide), bind_eq, rootNode_eq hs hopens]
  cases result with
  | none =>
    rw [Ends] at hends
    rw [hends]
    rfl
  | some root =>
    obtain ⟨events, hends⟩ := hends
    refine ⟨events, ?_⟩
    rw [hends, Option.bind_some, bind_get, bind_eq, finish_eq rfl]
    rfl

end Reader

def Reading.start (tokens : List Token) : Reading :=
  { tokens, bound := tokens.length, handles := [], names := [], nameCount := 0, anchored := []
    events := 0 }

theorem Tree.root_ofText? (text : String) :
    (Tree.ofText? text).map (·.root) =
      (tokens? text.toList).bind fun tokens => (Reader.stream (.start tokens)).map (·.1) := by
  rw [Tree.ofText?]
  cases tokens? text.toList with
  | none => rfl
  | some tokens =>
    show Option.map _ ((Reader.stream (.start tokens)).bind _) = _
    cases hstream : Reader.stream (.start tokens) <;> simp [hstream]

end SocketDocs.Yaml
