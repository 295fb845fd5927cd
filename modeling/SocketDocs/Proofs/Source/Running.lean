import SocketDocs.Source.Parser

/-!
# Runs of parsers

What the run of a parser that succeeds tells of the runs of its parts. Where a parser is repeated,
each of the values it gives was read somewhere on the way.
-/

namespace SocketDocs.Source

theorem Stream.Leads.length_le {stream later : Stream} (h : stream.Leads later) :
    later.tokens.length ≤ stream.tokens.length := by
  induction h with
  | refl => exact Nat.le_refl _
  | take _ ih => exact Nat.le_succ_of_le ih

namespace Parser

variable {α β σ : Type} {stream later : Stream}

-- ---------------------------------------------------------------------------
-- Parts
-- ---------------------------------------------------------------------------

theorem run_pure {a b : α} :
    (pure a : Parser α).run stream = some (b, later) ↔ a = b ∧ stream = later := by
  change some (a, stream) = some (b, later) ↔ _
  simp

theorem run_bind {parser : Parser α} {next : α → Parser β} {b : β} :
    (parser >>= next).run stream = some (b, later) ↔
      ∃ a middle, parser.run stream = some (a, middle) ∧ (next a).run middle = some (b, later) := by
  change (Parser.bind parser next).run stream = _ ↔ _
  unfold Parser.bind
  dsimp only
  constructor
  · intro h
    split at h
    · exact ⟨_, _, ‹_›, h⟩
    · cases h
  · rintro ⟨a, middle, hparser, hnext⟩
    simp only [hparser, hnext]

@[simp] theorem run_fail : (fail : Parser α).run stream = none := rfl

theorem run_seen {part : Stream → α} {a : α} :
    (seen part).run stream = some (a, later) ↔ part stream = a ∧ stream = later := by
  change some (part stream, stream) = some (a, later) ↔ _
  simp

theorem run_sees {ahead : Ahead} {answer : Bool} :
    (sees ahead).run stream = some (answer, later) ↔
      ahead stream.tokens = answer ∧ stream = later := by
  change some (ahead stream.tokens, stream) = some (answer, later) ↔ _
  simp

theorem run_require {ahead : Ahead} {u : Unit} :
    (require ahead).run stream = some (u, later) ↔
      ahead stream.tokens = true ∧ stream = later := by
  change (if ahead stream.tokens then pure () else fail : Parser Unit).run stream = _ ↔ _
  by_cases hahead : ahead stream.tokens = true
  · rw [if_pos hahead, run_pure]
    simp [hahead]
  · simp [hahead]

theorem run_currentLine {line : Nat} (h : currentLine.run stream = some (line, later)) :
    ∃ token rest, stream.tokens = token :: rest ∧ line = token.line ∧ later = stream := by
  obtain ⟨tokens, _, htokens, hline⟩ := run_bind.mp h
  obtain ⟨rfl, rfl⟩ := run_seen.mp htokens
  split at hline
  · obtain ⟨rfl, rfl⟩ := run_pure.mp hline
    exact ⟨_, _, ‹_›, rfl, rfl⟩
  · cases hline

theorem run_token {first : Token} :
    token.run stream = some (first, later) ↔
      ∃ rest, stream.tokens = first :: rest ∧ later = .next first rest := by
  unfold token
  dsimp only
  constructor
  · intro h
    split at h
    · cases h
    · cases h
      exact ⟨_, ‹_›, rfl⟩
  · rintro ⟨rest, htokens, rfl⟩
    simp only [htokens]

theorem run_anyIdentifier {found : String × Nat}
    (h : anyIdentifier.run stream = some (found, later)) :
    ∃ rest, stream.tokens = .identifier found.1 found.2 :: rest ∧
      later = .next (.identifier found.1 found.2) rest := by
  obtain ⟨first, middle, htoken, hfound⟩ := run_bind.mp h
  obtain ⟨rest, htokens, rfl⟩ := run_token.mp htoken
  cases first with
  | identifier name line =>
    obtain ⟨rfl, rfl⟩ := run_pure.mp hfound
    exact ⟨rest, htokens, rfl⟩
  | _ => cases hfound

theorem run_identifier {found : String × Nat}
    (h : identifier.run stream = some (found, later)) :
    ∃ rest, stream.tokens = .identifier found.1 found.2 :: rest ∧
      later = .next (.identifier found.1 found.2) rest := by
  obtain ⟨_, _, hrequire, hfound⟩ := run_bind.mp h
  obtain ⟨-, rfl⟩ := run_require.mp hrequire
  exact run_anyIdentifier hfound

theorem run_inGroup {delimiter : Delimiter} {inner : Parser α} {a : α}
    (h : (inGroup delimiter inner).run stream = some (a, later)) :
    ∃ content openLine closeLine rest after,
      stream.tokens = .group delimiter content openLine closeLine :: rest ∧
      inner.run ⟨content, openLine, false⟩ = some (a, after) ∧
      later = .next (.group delimiter content openLine closeLine) rest := by
  obtain ⟨first, middle, htoken, hgroup⟩ := run_bind.mp h
  obtain ⟨rest, htokens, rfl⟩ := run_token.mp htoken
  clear h htoken
  cases first with
  | group delimiter' content openLine closeLine =>
    dsimp only at hgroup
    split at hgroup
    · rename_i hdelimiter
      subst hdelimiter
      split at hgroup
      · rename_i inside after hinside
        split at hgroup
        · obtain ⟨rfl, rfl⟩ := run_pure.mp hgroup
          exact ⟨content, openLine, closeLine, rest, after, htokens, hinside, rfl⟩
        · cases hgroup
      · cases hgroup
    · cases hgroup
  | _ => cases hgroup

-- ---------------------------------------------------------------------------
-- Repetition
-- ---------------------------------------------------------------------------

def Step.state : Step σ → σ
  | .more state => state
  | .done state => state

theorem run_iterateFor {step : σ → Parser (Step σ)} {holds : σ → Stream → Prop}
    (hstep : ∀ {state stream result later}, holds state stream →
      (step state).run stream = some (result, later) → holds result.state later)
    {rounds : Nat} {state last : σ} (hstart : holds state stream)
    (h : (iterateFor step rounds state).run stream = some (last, later)) : holds last later := by
  induction rounds generalizing state stream with
  | zero => cases h
  | succ rounds ih =>
    obtain ⟨result, middle, hrun, h⟩ := run_bind.mp h
    have hmiddle := hstep hstart hrun
    cases result with
    | more state => exact ih hmiddle h
    | done state =>
      obtain ⟨rfl, rfl⟩ := run_pure.mp h
      exact hmiddle

theorem run_iterate {step : σ → Parser (Step σ)} (holds : σ → Stream → Prop)
    (hstep : ∀ {state stream result later}, holds state stream →
      (step state).run stream = some (result, later) → holds result.state later)
    {state last : σ} (hstart : holds state stream)
    (h : (iterate step state).run stream = some (last, later)) : holds last later := by
  obtain ⟨_, _, htokens, h⟩ := run_bind.mp h
  obtain ⟨-, rfl⟩ := run_seen.mp htokens
  exact run_iterateFor hstep hstart h

/-- Somewhere on the way from one stream to another the parser reads the value. -/
def Reads (parser : Parser α) (stream : Stream) (a : α) (later : Stream) : Prop :=
  ∃ before after, stream.Leads before ∧ parser.run before = some (a, after) ∧ after.Leads later

def ReadsAll (parser : Parser α) (stream : Stream) (found : List α) (later : Stream) : Prop :=
  stream.Leads later ∧ ∀ a ∈ found, parser.Reads stream a later

theorem ReadsAll.leads {parser : Parser α} {found : List α} {middle : Stream}
    (h : parser.ReadsAll stream found middle) (hleads : middle.Leads later) :
    parser.ReadsAll stream found later := by
  refine ⟨h.1.trans hleads, fun a ha => ?_⟩
  obtain ⟨before, after, hbefore, hrun, hafter⟩ := h.2 a ha
  exact ⟨before, after, hbefore, hrun, hafter.trans hleads⟩

theorem ReadsAll.cons {parser : Parser α} {found : List α} {middle : Stream} {a : α}
    (h : parser.ReadsAll stream found middle) (hrun : parser.run middle = some (a, later)) :
    parser.ReadsAll stream (a :: found) later := by
  refine ⟨h.1.trans (parser.leads hrun), List.forall_mem_cons.mpr ⟨?_, ?_⟩⟩
  · exact ⟨middle, later, h.1, hrun, .refl _⟩
  · exact (h.leads (parser.leads hrun)).2

theorem ReadsAll.of_reverse {parser : Parser α} {step : List α → Parser (Step (List α))}
    (hstep : ∀ {found middle result after}, parser.ReadsAll stream found middle →
      (step found).run middle = some (result, after) →
        parser.ReadsAll stream result.state after) {found : List α}
    (h : (do return (← iterate step []).reverse : Parser (List α)).run stream =
      some (found, later)) :
    parser.ReadsAll stream found later := by
  obtain ⟨reversed, middle, hrun, h⟩ := run_bind.mp h
  obtain ⟨rfl, rfl⟩ := run_pure.mp h
  have hstart : parser.ReadsAll stream [] stream :=
    ⟨.refl _, fun _ hnil => absurd hnil List.not_mem_nil⟩
  have hall := run_iterate (parser.ReadsAll stream) hstep hstart hrun
  exact ⟨hall.1, fun a ha => hall.2 a (List.mem_reverse.mp ha)⟩

theorem readsAll_manyWhile {ahead : Ahead} {parser : Parser α} {found : List α}
    (h : (manyWhile ahead parser).run stream = some (found, later)) :
    parser.ReadsAll stream found later := by
  refine .of_reverse ?_ h
  intro found middle result after hfound hrun
  obtain ⟨answer, _, hsees, hrun⟩ := run_bind.mp hrun
  obtain ⟨-, rfl⟩ := run_sees.mp hsees
  split at hrun
  · obtain ⟨a, _, ha, hrun⟩ := run_bind.mp hrun
    obtain ⟨rfl, rfl⟩ := run_pure.mp hrun
    exact hfound.cons ha
  · obtain ⟨rfl, rfl⟩ := run_pure.mp hrun
    exact hfound

theorem readsAll_separatedUntil {stop : Ahead} {separator : String} {parser : Parser α}
    {found : List α}
    (h : (separatedUntil stop separator parser).run stream = some (found, later)) :
    parser.ReadsAll stream found later := by
  refine .of_reverse ?_ h
  intro found middle result after hfound hrun
  obtain ⟨answer, _, hsees, hrun⟩ := run_bind.mp hrun
  obtain ⟨-, rfl⟩ := run_sees.mp hsees
  split at hrun
  · obtain ⟨rfl, rfl⟩ := run_pure.mp hrun
    exact hfound
  · obtain ⟨a, _, ha, hrun⟩ := run_bind.mp hrun
    obtain ⟨answer, _, hsees, hrun⟩ := run_bind.mp hrun
    obtain ⟨-, rfl⟩ := run_sees.mp hsees
    split at hrun
    · obtain ⟨rfl, rfl⟩ := run_pure.mp hrun
      exact hfound.cons ha
    · obtain ⟨_, _, hmark, hrun⟩ := run_bind.mp hrun
      obtain ⟨rfl, rfl⟩ := run_pure.mp hrun
      exact (hfound.cons ha).leads ((mark separator).leads hmark)

end Parser

end SocketDocs.Source
