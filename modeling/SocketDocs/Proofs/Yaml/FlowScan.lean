import SocketDocs.Proofs.Yaml.Numbers
import SocketDocs.Proofs.Yaml.Quoted
import SocketDocs.Text.Alphanumeric
import SocketDocs.Yaml.Scan

/-!
# Scanning flow collections

The scanner on text without block collections, anchors and tags: one lemma for each mark of a flow
collection and for the scalars between them. The indentation stays as it was at the start, and no
simple key is ever required, so that none of them can fail by itself.
-/

namespace SocketDocs.Yaml.Scanner

-- ---------------------------------------------------------------------------
-- States
-- ---------------------------------------------------------------------------

/-- A state outside block collections in which no key is required. -/
structure Calm (s : Scanner) : Prop where
  indent : s.indent = -1
  outerIndents : s.outerIndents = []
  count : s.count = s.tokens.length
  bound : s.cursor.rest.length ≤ s.cursor.bound
  simpleKey : s.simpleKey.required = false
  outerKeys : ∀ key ∈ s.outerKeys, key.required = false

def refreshed (cursor : Cursor) (key : SimpleKey) : SimpleKey :=
  if isStale cursor key then { key with possible := false } else key

def settled (s : Scanner) (cursor : Cursor) : Scanner :=
  { s with
    cursor
    simpleKey := refreshed cursor s.simpleKey
    outerKeys := s.outerKeys.map (refreshed cursor) }

@[simp] theorem settled_cursor (s : Scanner) (cursor : Cursor) :
    (s.settled cursor).cursor = cursor := rfl

@[simp] theorem settled_tokens (s : Scanner) (cursor : Cursor) :
    (s.settled cursor).tokens = s.tokens := rfl

@[simp] theorem settled_keyAllowed (s : Scanner) (cursor : Cursor) :
    (s.settled cursor).keyAllowed = s.keyAllowed := rfl

@[simp] theorem settled_length_outerKeys (s : Scanner) (cursor : Cursor) :
    (s.settled cursor).outerKeys.length = s.outerKeys.length := List.length_map ..

@[simp] theorem settled_inFlow (s : Scanner) (cursor : Cursor) :
    (s.settled cursor).inFlow = s.inFlow := by
  simp [inFlow, settled]

@[simp] theorem refreshed_required (cursor : Cursor) (key : SimpleKey) :
    (refreshed cursor key).required = key.required := by
  unfold refreshed
  split <;> rfl

theorem Calm.settled {s : Scanner} (h : s.Calm) {cursor : Cursor}
    (hbound : cursor.rest.length ≤ cursor.bound) : (s.settled cursor).Calm where
  indent := h.indent
  outerIndents := h.outerIndents
  count := h.count
  bound := hbound
  simpleKey := by simpa [Scanner.settled] using h.simpleKey
  outerKeys := by simpa [Scanner.settled] using h.outerKeys

theorem giveUp?_eq {key : SimpleKey} (h : key.required = false) :
    giveUp? key = some { key with possible := false } := by
  simp [giveUp?, h]

theorem refresh?_eq {key : SimpleKey} (h : key.required = false) (cursor : Cursor) :
    refresh? cursor key = some (refreshed cursor key) := by
  unfold refresh? refreshed
  split
  · exact giveUp?_eq h
  · rfl

theorem mapM_refresh? {keys : List SimpleKey} (h : ∀ key ∈ keys, key.required = false)
    (cursor : Cursor) : keys.mapM (refresh? cursor) = some (keys.map (refreshed cursor)) := by
  induction keys with
  | nil => rfl
  | cons key keys ih =>
    obtain ⟨hkey, hkeys⟩ := List.forall_mem_cons.mp h
    simp [refresh?_eq hkey, ih hkeys]

theorem Calm.dropStaleKeys? {s : Scanner} (h : s.Calm) (cursor : Cursor) :
    Scanner.dropStaleKeys? { s with cursor } = some (s.settled cursor) := by
  simp [Scanner.dropStaleKeys?, refresh?_eq h.simpleKey, mapM_refresh? h.outerKeys,
    Scanner.settled]

theorem Calm.closeBlocks {s : Scanner} (h : s.Calm) (column : Int) : s.closeBlocks column = s := by
  unfold Scanner.closeBlocks
  split
  · rfl
  · rw [h.outerIndents]
    rfl

-- ---------------------------------------------------------------------------
-- Blanks
-- ---------------------------------------------------------------------------

def isPadding (c : Char) : Bool :=
  c == ' ' || c == '\n'

def Before (s : Scanner) (text : List Char) : Prop :=
  ∃ blanks, (∀ c ∈ blanks, isPadding c = true) ∧ s.cursor.rest = blanks ++ text ∧
    (s.inFlow = true ∨ blanks = [])

def opensToken (c : Char) : Bool :=
  !(isBlank c || isBreak c || c == '#' || c == byteOrderMark)

theorem opensToken_iff {c : Char} : opensToken c = true ↔
    isBlank c = false ∧ isBreak c = false ∧ c ≠ '#' ∧ c ≠ byteOrderMark := by
  simp [opensToken, and_assoc]

theorem skipWhile_spaces {cursor : Cursor} {spaces rest : List Char} (tabs : Bool)
    (h : cursor.rest = spaces ++ rest) (hspaces : ∀ c ∈ spaces, c = ' ')
    (hrest : ∀ c ∈ rest.head?, isBlank c = false) :
    cursor.skipWhile (fun c => c == ' ' || (tabs && c == '\t')) = cursor.nextBy spaces.length := by
  have hpos : ∀ c ∈ spaces, (c == ' ' || (tabs && c == '\t')) = true := by
    intro c hc
    simp [hspaces c hc]
  have hstop : rest.takeWhile (fun c => c == ' ' || (tabs && c == '\t')) = [] := by
    cases rest with
    | nil => rfl
    | cons c rest =>
      have hc := hrest c rfl
      simp only [isBlank, Bool.or_eq_false_iff] at hc
      simp [hc.1, hc.2]
  rw [Cursor.skipWhile, Cursor.takeWhile, h, List.takeWhile_append_of_pos hpos, hstop,
    List.append_nil]

theorem skipToToken_round {s : Scanner} {spaces rest : List Char} {d : Char} (fuel : Nat)
    (h : s.cursor.rest = spaces ++ d :: rest) (hspaces : ∀ c ∈ spaces, c = ' ')
    (hblank : isBlank d = false) (hcomment : d ≠ '#') (hmark : d ≠ byteOrderMark) :
    skipToToken (fuel + 1) s =
      if isBreak d then
        skipToToken fuel
          { s with
            cursor := (s.cursor.nextBy spaces.length).lineBreak.2
            keyAllowed := s.keyAllowed || !s.inFlow }
      else { s with cursor := s.cursor.nextBy spaces.length } := by
  have hbom : s.cursor.sees byteOrderMark = false := by
    cases spaces with
    | nil => simpa [Cursor.sees, Cursor.char?, h] using hmark
    | cons c spaces =>
      have hc : c = ' ' := hspaces c (List.mem_cons_self ..)
      have hne : ' ' ≠ byteOrderMark := by decide
      simpa [Cursor.sees, Cursor.char?, h, hc] using hne
  have hskip := skipWhile_spaces (s.inFlow || !s.keyAllowed) h hspaces (by simpa using hblank)
  have hrest : (s.cursor.nextBy spaces.length).rest = d :: rest := by simp [Cursor.nextBy, h]
  have hsees : (s.cursor.nextBy spaces.length).sees '#' = false := by
    simpa [Cursor.sees, Cursor.char?, hrest] using hcomment
  have hbreak : (s.cursor.nextBy spaces.length).seesBreak = isBreak d := by
    simp [Cursor.seesBreak, Cursor.char?, hrest]
  rw [skipToToken]
  simp only [hbom, Bool.and_false, Bool.false_eq_true, if_false, hskip, hsees, hbreak]

theorem skipToToken_eq {blanks : List Char} (hblanks : ∀ c ∈ blanks, isPadding c = true) {c : Char}
    (hc : opensToken c = true) {tail : List Char} {s : Scanner}
    (h : s.cursor.rest = blanks ++ c :: tail) (hflow : s.inFlow = true ∨ blanks = []) {fuel : Nat}
    (hfuel : blanks.length < fuel) :
    ∃ cursor, skipToToken fuel s = { s with cursor } ∧ cursor.rest = c :: tail ∧
      cursor.bound = s.cursor.bound ∧ (blanks = [] → cursor = s.cursor) := by
  obtain ⟨hblank, hbreak, hcomment, hmark⟩ := opensToken_iff.mp hc
  induction hn : blanks.length using Nat.strong_induction_on generalizing blanks s fuel with
  | _ n ih =>
    obtain ⟨fuel, rfl⟩ := Nat.exists_eq_succ_of_ne_zero (Nat.ne_of_gt (Nat.zero_lt_of_lt hfuel))
    have hsplit := List.takeWhile_append_dropWhile (p := (· == ' ')) (l := blanks)
    have hspaces : ∀ c ∈ blanks.takeWhile (· == ' '), c = ' ' := by
      intro c hc
      simpa using List.all_eq_true.mp List.all_takeWhile c hc
    generalize blanks.takeWhile (· == ' ') = spaces at hsplit hspaces
    cases hmore : blanks.dropWhile (· == ' ') with
    | nil =>
      rw [hmore, List.append_nil] at hsplit
      subst hsplit
      refine ⟨s.cursor.nextBy spaces.length, ?_, by simp [Cursor.nextBy, h], rfl, ?_⟩
      · rw [skipToToken_round fuel h hspaces hblank hcomment hmark, hbreak]
        rfl
      · rintro rfl
        simp [Cursor.nextBy]
    | cons d more =>
      have hd : d = '\n' := by
        have hnot := List.head?_dropWhile_not (· == ' ') blanks
        have hpad := hblanks d (by rw [← hsplit, hmore]; simp)
        rw [hmore] at hnot
        simp only [List.head?_cons] at hnot
        simpa [isPadding, hnot] using hpad
      rw [hmore] at hsplit
      subst hd hsplit
      have hinFlow : s.inFlow = true := hflow.resolve_right (by simp)
      rw [List.append_assoc, List.cons_append] at h
      have hrest : (s.cursor.nextBy spaces.length).rest = '\n' :: (more ++ c :: tail) := by
        simp [Cursor.nextBy, h]
      have hline := Scan.lineBreak_of_ne hrest (by decide) (by decide)
      have hround := skipToToken_round fuel h hspaces (by decide) (by decide) (by decide)
      rw [if_pos (by decide), hinFlow, Bool.not_true, Bool.or_false] at hround
      simp only [List.length_append, List.length_cons] at hn hfuel
      have hrest' : ({ s with cursor := (s.cursor.nextBy spaces.length).lineBreak.2 } :
          Scanner).cursor.rest = more ++ c :: tail := by simp only [hline]
      obtain ⟨cursor, hskip, hcursor, hbound, -⟩ := ih more.length (by omega)
        (fun c hc => hblanks c (by simp [hc])) hrest' (.inl hinFlow)
        (show more.length < fuel by omega) rfl
      rw [hline] at hbound
      refine ⟨cursor, ?_, hcursor, hbound, by simp⟩
      rw [Nat.succ_eq_add_one, hround, hskip]

-- ---------------------------------------------------------------------------
-- Runs
-- ---------------------------------------------------------------------------

/-- The run goes on from the second state. No round is made without a character. -/
def Reaches (s s' : Scanner) : Prop :=
  ∃ rounds, rounds + s'.cursor.rest.length ≤ s.cursor.rest.length ∧
    ∀ fuel, run (fuel + rounds) s = run fuel s'

def Fails (s : Scanner) : Prop :=
  ∃ rounds, rounds ≤ s.cursor.rest.length ∧ ∀ fuel, run (fuel + rounds) s = none

theorem Reaches.trans {a b c : Scanner} (h : Reaches a b) (h' : Reaches b c) : Reaches a c := by
  obtain ⟨m, hm, hrun⟩ := h
  obtain ⟨n, hn, hrun'⟩ := h'
  refine ⟨n + m, by omega, fun fuel => ?_⟩
  rw [← Nat.add_assoc, hrun, hrun']

theorem Reaches.fails {a b : Scanner} (h : Reaches a b) (h' : Fails b) : Fails a := by
  obtain ⟨m, hm, hrun⟩ := h
  obtain ⟨n, hn, hrun'⟩ := h'
  refine ⟨n + m, by omega, fun fuel => ?_⟩
  rw [← Nat.add_assoc, hrun, hrun']

/-- The second state comes after some tokens, before some text, in `depth` flow collections. -/
structure After (s : Scanner) (tokens : List Token) (rest : List Char) (depth : Nat)
    (s' : Scanner) : Prop where
  reaches : Reaches s s'
  calm : s'.Calm
  tokens : s'.tokens = tokens.reverse ++ s.tokens
  before : s'.Before rest
  depth : s'.outerKeys.length = depth

theorem After.trans {a b c : Scanner} {first second : List Token} {rest rest' : List Char}
    {depth depth' : Nat} (h : After a first rest depth b) (h' : After b second rest' depth' c) :
    After a (first ++ second) rest' depth' c where
  reaches := h.reaches.trans h'.reaches
  calm := h'.calm
  tokens := by rw [h'.tokens, h.tokens, List.reverse_append, List.append_assoc]
  before := h'.before
  depth := h'.depth

theorem inFlow_iff {s : Scanner} : s.inFlow = true ↔ 0 < s.outerKeys.length := by
  rw [inFlow, Bool.not_eq_true', List.isEmpty_eq_false_iff, List.length_pos_iff]

theorem before_of_eq {s : Scanner} {text : List Char} (h : s.cursor.rest = text) : s.Before text :=
  ⟨[], by simp, h, .inr rfl⟩

theorem Calm.run_eq {s : Scanner} (hs : s.Calm) {c : Char} {tail : List Char}
    (hbefore : s.Before (c :: tail)) (hc : opensToken c = true) :
    ∃ cursor, cursor.rest = c :: tail ∧ (c :: tail).length ≤ s.cursor.rest.length ∧
      (s.settled cursor).Calm ∧ (s.cursor.rest = c :: tail → cursor = s.cursor) ∧
      ∀ fuel, run (fuel + 1) s = ((s.settled cursor).token? c).bind (run fuel) := by
  obtain ⟨blanks, hblanks, hrest, hflow⟩ := hbefore
  have hlength := congrArg List.length hrest
  have hbound := hs.bound
  simp only [List.length_append, List.length_cons] at hlength
  obtain ⟨cursor, hskip, hcursor, hcursorBound, hsame⟩ :=
    skipToToken_eq hblanks hc hrest hflow (show blanks.length < s.cursor.bound + 1 by omega)
  have hcalm : (s.settled cursor).Calm := by
    refine hs.settled ?_
    rw [hcursor, hcursorBound, List.length_cons]
    omega
  refine ⟨cursor, hcursor, by simp only [List.length_cons]; omega, hcalm, ?_, fun fuel => ?_⟩
  · intro heq
    refine hsame (List.eq_nil_of_length_eq_zero ?_)
    have := congrArg List.length heq
    simp only [List.length_cons] at this
    omega
  · rw [run, hskip]
    simp [hs.dropStaleKeys?, hcalm.closeBlocks, Cursor.char?, hcursor, Option.bind]

-- ---------------------------------------------------------------------------
-- Keys
-- ---------------------------------------------------------------------------

def saved (s : Scanner) : Scanner :=
  if s.keyAllowed then
    { s with
      simpleKey := {
        possible := true
        position := s.count
        index := s.cursor.index, line := s.cursor.line, column := s.cursor.column } }
  else s

theorem Calm.removeKey? {s : Scanner} (h : s.Calm) :
    s.removeKey? = some { s with simpleKey := { s.simpleKey with possible := false } } := by
  simp [Scanner.removeKey?, giveUp?_eq h.simpleKey]

theorem Calm.saveKey? {s : Scanner} (h : s.Calm) : s.saveKey? = some s.saved := by
  unfold Scanner.saveKey? saved
  split
  · have hrequired : (s.indent == (s.cursor.column : Int)) = false := by
      rw [h.indent, beq_eq_false_iff_ne]
      omega
    simp [h.removeKey?, hrequired]
  · rfl

theorem Calm.saved {s : Scanner} (h : s.Calm) : s.saved.Calm := by
  unfold Scanner.saved
  split
  · exact ⟨h.indent, h.outerIndents, h.count, h.bound, rfl, h.outerKeys⟩
  · exact h

@[simp] theorem saved_cursor (s : Scanner) : s.saved.cursor = s.cursor := by
  unfold saved
  split <;> rfl

@[simp] theorem saved_tokens (s : Scanner) : s.saved.tokens = s.tokens := by
  unfold saved
  split <;> rfl

@[simp] theorem saved_outerKeys (s : Scanner) : s.saved.outerKeys = s.outerKeys := by
  unfold saved
  split <;> rfl

-- ---------------------------------------------------------------------------
-- Marks
-- ---------------------------------------------------------------------------

/-- A line that opens with neither a dash nor a point is no mark of a document. -/
theorem atDocumentMark_of_ne {cursor : Cursor} {c : Char} {tail : List Char}
    (h : cursor.rest = c :: tail) (hdash : c ≠ '-') (hpoint : c ≠ '.') :
    cursor.atDocumentMark = false := by
  simp [Cursor.atDocumentMark, h, List.isPrefixOf, Ne.symm hdash, Ne.symm hpoint]

theorem Calm.advance {s : Scanner} (h : s.Calm) {c : Char} {tail : List Char}
    (hrest : s.cursor.rest = c :: tail) (token : Token) : ((s.skip 1).push token).Calm ∧
      ((s.skip 1).push token).cursor.rest = tail := by
  have hbound := h.bound
  refine ⟨⟨h.indent, h.outerIndents, ?_, ?_, h.simpleKey, h.outerKeys⟩, ?_⟩
  · simp [push, skip, h.count]
  · simp only [push, skip, Cursor.nextBy, hrest, List.drop_one, List.tail_cons,
      List.length_cons] at hbound ⊢
    omega
  · simp [push, skip, Cursor.nextBy, hrest]

theorem after_mark {s : Scanner} (hs : s.Calm) {c : Char} {tail : List Char}
    (hopens : opensToken c = true) (hbefore : s.Before (c :: tail)) (token : Token)
    (next : Scanner → Scanner)
    (htoken : ∀ t : Scanner, t.Calm → t.cursor.rest = c :: tail →
      t.outerKeys.length = s.outerKeys.length →
      t.token? c = some (((next t).skip 1).push token) ∧ (next t).Calm ∧
        (next t).cursor = t.cursor ∧ (next t).tokens = t.tokens) :
    ∃ t : Scanner, t.outerKeys.length = s.outerKeys.length ∧ t.keyAllowed = s.keyAllowed ∧
      After s [token] tail (next t).outerKeys.length (((next t).skip 1).push token) := by
  obtain ⟨cursor, hrest, hle, hcalm, -, hrun⟩ := hs.run_eq hbefore hopens
  obtain ⟨heq, hnext, hcursor, htokens⟩ :=
    htoken (s.settled cursor) hcalm hrest (settled_length_outerKeys s cursor)
  obtain ⟨hcalm', htail⟩ := hnext.advance (by rw [hcursor]; exact hrest) token
  refine ⟨s.settled cursor, settled_length_outerKeys s cursor, rfl, ?_, hcalm', ?_,
    before_of_eq htail, rfl⟩
  · refine ⟨1, ?_, fun fuel => by rw [hrun, heq]; rfl⟩
    rw [htail]
    simpa [Nat.add_comm] using hle
  · simp [push, skip, htokens]

def opened (s : Scanner) : Scanner :=
  { s.saved with
    simpleKey := {}
    outerKeys := s.saved.simpleKey :: s.saved.outerKeys
    keyAllowed := true }

theorem after_open {s : Scanner} (hs : s.Calm) {c : Char} {token : Token} {tail : List Char}
    (hc : c = '[' ∧ token = .flowSequenceStart ∨ c = '\x7b' ∧ token = .flowMappingStart)
    (hbefore : s.Before (c :: tail)) :
    ∃ s', After s [token] tail (s.outerKeys.length + 1) s' ∧ s'.keyAllowed = true := by
  have hopens : opensToken c = true := by rcases hc with ⟨rfl, -⟩ | ⟨rfl, -⟩ <;> decide
  obtain ⟨t, hdepth, -, hafter⟩ := after_mark hs hopens hbefore token opened (by
    intro t ht hrest _
    have hsaved := ht.saved
    refine ⟨?_, ?_, saved_cursor t, saved_tokens t⟩
    · rcases hc with ⟨rfl, rfl⟩ | ⟨rfl, rfl⟩ <;>
        simp [token?, atDocumentMark_of_ne hrest, flowStart?, ht.saveKey?, opened]
    · exact ⟨hsaved.indent, hsaved.outerIndents, hsaved.count, hsaved.bound, rfl,
        List.forall_mem_cons.mpr ⟨hsaved.simpleKey, hsaved.outerKeys⟩⟩)
  refine ⟨((opened t).skip 1).push token, ?_, rfl⟩
  rw [← hdepth]
  simpa [opened] using hafter

def closed (s : Scanner) : Scanner :=
  { s with
    simpleKey := s.outerKeys.headD s.simpleKey
    outerKeys := s.outerKeys.tail
    keyAllowed := false }

theorem after_close {s : Scanner} (hs : s.Calm) {c : Char} {token : Token} {tail : List Char}
    (hc : c = ']' ∧ token = .flowSequenceEnd ∨ c = '\x7d' ∧ token = .flowMappingEnd) {depth : Nat}
    (hdepth : s.outerKeys.length = depth + 1) (hbefore : s.Before (c :: tail)) :
    ∃ s', After s [token] tail depth s' := by
  have hopens : opensToken c = true := by rcases hc with ⟨rfl, -⟩ | ⟨rfl, -⟩ <;> decide
  obtain ⟨t, htdepth, -, hafter⟩ := after_mark hs hopens hbefore token closed (by
    intro t ht hrest htdepth
    rw [hdepth] at htdepth
    obtain ⟨key, rest, hkeys⟩ := List.exists_cons_of_length_eq_add_one htdepth
    have houter := ht.outerKeys
    rw [hkeys, List.forall_mem_cons] at houter
    refine ⟨?_, ⟨ht.indent, ht.outerIndents, ht.count, ht.bound, ?_, ?_⟩, rfl, rfl⟩
    · rcases hc with ⟨rfl, rfl⟩ | ⟨rfl, rfl⟩ <;>
        simp [token?, atDocumentMark_of_ne hrest, flowEnd?, ht.removeKey?, hkeys, closed]
    · simpa [closed, hkeys] using houter.1
    · simpa [closed, hkeys] using houter.2)
  have hlength : t.closed.outerKeys.length = depth := by
    simp only [closed, List.length_tail]
    omega
  exact ⟨_, hlength ▸ hafter⟩

theorem after_comma {s : Scanner} (hs : s.Calm) {tail : List Char} (hbefore : s.Before (',' :: tail)) :
    ∃ s', After s [.flowEntry] tail s.outerKeys.length s' ∧ s'.keyAllowed = true := by
  obtain ⟨t, hdepth, -, hafter⟩ := after_mark hs (by decide) hbefore .flowEntry
    (fun t => { t with
      simpleKey := { t.simpleKey with possible := false }, keyAllowed := true }) (by
    intro t ht hrest _
    refine ⟨?_, ⟨ht.indent, ht.outerIndents, ht.count, ht.bound, ht.simpleKey, ht.outerKeys⟩, rfl,
      rfl⟩
    simp [token?, atDocumentMark_of_ne hrest, flowEntry?, ht.removeKey?])
  exact ⟨_, hdepth ▸ hafter, rfl⟩

-- ---------------------------------------------------------------------------
-- Quoted texts
-- ---------------------------------------------------------------------------

open Json (escapeChar)

def quotedChars (text : List Char) : List Char :=
  '"' :: (text.flatMap escapeChar ++ ['"'])

theorem token?_quoted {t : Scanner} (ht : t.Calm) {tail : List Char}
    (hrest : t.cursor.rest = '"' :: tail) :
    t.token? '"' = (Scan.quoted? false t.cursor).map fun (text, cursor) =>
      { t.saved with keyAllowed := false, cursor }.push
        (.scalar (String.ofList text) .doubleQuoted) := by
  simp [token?, atDocumentMark_of_ne hrest, quotedScalar?, ht.saveKey?]
  cases Scan.quoted? false t.cursor <;> rfl

/-- A quoted text is one token, which may begin a key. -/
theorem after_quoted {s : Scanner} (hs : s.Calm) {text tail : List Char}
    (hbefore : s.Before (quotedChars text ++ tail)) :
    match folded false text with
    | some read => ∃ s',
        After s [.scalar (String.ofList read) .doubleQuoted] tail s.outerKeys.length s' ∧
        s'.cursor.rest = tail ∧ s'.keyAllowed = false ∧
        (s.keyAllowed = true → s'.simpleKey.possible = true ∧
          s'.simpleKey.position = s.tokens.length ∧
          s'.cursor.index = s'.simpleKey.index + (quotedChars text).length ∧
          s'.cursor.line = s'.simpleKey.line + (quotedChars text).countP isBreak)
    | none => Fails s := by
  have hshape : quotedChars text ++ tail = '"' :: (text.flatMap escapeChar ++ '"' :: tail) := by
    simp [quotedChars]
  rw [hshape] at hbefore
  obtain ⟨cursor, hrest, hle, hcalm, -, hrun⟩ := hs.run_eq hbefore (by decide)
  have hread := Scan.quoted?_quote hrest hcalm.bound
  have htoken := token?_quoted hcalm hrest
  cases hfolded : folded false text with
  | none =>
    rw [hfolded] at hread
    refine ⟨1, by simp only [List.length_cons] at hle; omega, fun fuel => ?_⟩
    rw [hrun, htoken]
    simp only [settled_cursor, hread, Option.map_none, Option.bind_none]
  | some read =>
    rw [hfolded] at hread
    obtain ⟨after, hread, hpast, htail⟩ := hread
    have hsaved := hcalm.saved
    have hlength := congrArg List.length hpast.rest
    rw [hrest, htail] at hlength
    simp only [List.length_append, List.length_cons, List.length_nil] at hlength
    refine ⟨{ (s.settled cursor).saved with keyAllowed := false, cursor := after }.push
      (.scalar (String.ofList read) .doubleQuoted), ⟨⟨1, ?_, fun fuel => ?_⟩, ?_, ?_,
        before_of_eq htail, ?_⟩, htail, rfl, ?_⟩
    · simp only [push, htail, List.length_cons, List.length_append] at hle ⊢
      omega
    · rw [hrun, htoken]
      simp only [settled_cursor, hread, Option.map_some, Option.bind_some]
    · refine ⟨hsaved.indent, hsaved.outerIndents, ?_, ?_, hsaved.simpleKey, hsaved.outerKeys⟩
      · simp [push, hsaved.count]
      · have hbound := hcalm.bound
        simp only [push, settled_cursor, hrest, htail, hpast.bound, List.length_cons,
          List.length_append] at hbound ⊢
        omega
    · simp [push]
    · simp [push]
    · intro hallowed
      have hkey : (s.settled cursor).saved.simpleKey =
          { possible := true, position := s.count, index := cursor.index, line := cursor.line,
            column := cursor.column } := by
        simp only [saved, settled_keyAllowed, hallowed, if_true]
        rfl
      simp only [push, hkey, hs.count, hpast.index, hpast.line, quotedChars, and_self]

-- ---------------------------------------------------------------------------
-- Quoted keys
-- ---------------------------------------------------------------------------

/-- A text that can be a key without a mark: on one line, and not too long with its quotes. -/
def isSimple (text : List Char) : Bool :=
  (quotedChars text).countP isBreak == 0 && (quotedChars text).length ≤ 1024

def keyTokens (text read : List Char) : List Token :=
  (if isSimple text then [.key] else []) ++
    [.scalar (String.ofList read) .doubleQuoted, .value]

theorem openBlock_inFlow {s : Scanner} (h : s.inFlow = true) (column : Nat) (position : Option Nat)
    (token : Token) : s.openBlock column position token = s := by
  simp [openBlock, h]

def keyed (s : Scanner) : Scanner :=
  { s.insertAt s.simpleKey.position .key with
    simpleKey := { s.simpleKey with possible := false }
    keyAllowed := false }

theorem Calm.keyed {s : Scanner} (h : s.Calm) : s.keyed.Calm := by
  refine ⟨h.indent, h.outerIndents, ?_, h.bound, h.simpleKey, h.outerKeys⟩
  have hcount := h.count
  simp only [Scanner.keyed, insertAt, List.length_append, List.length_cons, List.length_take,
    List.length_drop]
  omega

theorem token?_colon {t : Scanner} (hflow : t.inFlow = true) {tail : List Char}
    (hrest : t.cursor.rest = ':' :: tail) :
    t.token? ':' =
      if t.simpleKey.possible then some ((t.keyed.skip 1).push .value)
      else some (({ t with keyAllowed := false }.skip 1).push .value) := by
  have hinsert : (t.insertAt t.simpleKey.position .key).inFlow = true := hflow
  have hvalue : t.token? ':' = t.value? := by
    simp [token?, atDocumentMark_of_ne hrest, hflow]
  simp only [hvalue, value?, hflow, openBlock_inFlow hflow, openBlock_inFlow hinsert, Bool.not_true,
    Bool.false_and, Bool.false_eq_true, if_false, keyed]

theorem after_key {s : Scanner} (hs : s.Calm) (hallowed : s.keyAllowed = true)
    (hdepth : 0 < s.outerKeys.length) {text tail : List Char}
    (hbefore : s.Before (quotedChars text ++ ':' :: tail)) :
    match folded false text with
    | some read => ∃ s', After s (keyTokens text read) tail s.outerKeys.length s'
    | none => Fails s := by
  have hquoted := after_quoted hs hbefore
  cases hfolded : folded false text with
  | none =>
    rw [hfolded] at hquoted
    exact hquoted
  | some read =>
    rw [hfolded] at hquoted
    obtain ⟨m, hm, hrest, -, hkey⟩ := hquoted
    obtain ⟨hpossible, hposition, hindex, hline⟩ := hkey hallowed
    obtain ⟨cursor, hcursor, hle, hcalm, hsame, hrun⟩ :=
      hm.calm.run_eq (before_of_eq hrest) (by decide)
    obtain rfl := hsame hrest
    have hflow : (m.settled m.cursor).inFlow = true := by
      rw [settled_inFlow, inFlow_iff, hm.depth]
      exact hdepth
    have htoken := token?_colon hflow hrest
    -- the key has become stale exactly if it is not simple
    have hstale : isStale m.cursor m.simpleKey = !isSimple text := by
      simp only [isStale, isSimple, hpossible, hindex, hline, Bool.true_and]
      rw [Bool.eq_iff_iff]
      simp only [Bool.or_eq_true, decide_eq_true_eq, Bool.not_eq_true', Bool.and_eq_false_iff,
        beq_eq_false_iff_ne, decide_eq_false_iff_not]
      omega
    have hkeyEq : (m.settled m.cursor).simpleKey.possible = isSimple text := by
      simp only [settled, refreshed, hstale]
      cases isSimple text <;> simp [hpossible]
    rw [hkeyEq] at htoken
    have hmtokens : m.tokens = .scalar (String.ofList read) .doubleQuoted :: s.tokens := hm.tokens
    -- one more round, from the quoted text to the state behind the colon
    have hlast : ∀ u : Scanner, u.Calm → u.cursor = m.cursor → u.outerKeys.length = m.outerKeys.length →
        u.tokens = .scalar (String.ofList read) .doubleQuoted ::
          ((if isSimple text then [.key] else []) ++ s.tokens) →
        (m.settled m.cursor).token? ':' = some ((u.skip 1).push .value) →
        ∃ s', After s (keyTokens text read) tail s.outerKeys.length s' := by
      intro u hu hucursor hulength hutokens hutoken
      obtain ⟨hcalm', htail⟩ := hu.advance (by rw [hucursor]; exact hrest) .value
      refine ⟨(u.skip 1).push .value, hm.reaches.trans ⟨1, ?_, fun fuel => ?_⟩, hcalm', ?_,
        before_of_eq htail, ?_⟩
      · rw [htail]
        simpa [Nat.add_comm] using hle
      · rw [hrun, hutoken]
        rfl
      · simp only [push, skip, hutokens, keyTokens]
        cases isSimple text <;> simp
      · simp only [push, skip, hulength, hm.depth]
    cases hsimple : isSimple text with
    | false =>
      rw [hsimple] at htoken
      refine hlast { m.settled m.cursor with keyAllowed := false } ?_ rfl
        (settled_length_outerKeys m m.cursor) (by simp [hsimple, hmtokens]) htoken
      exact ⟨hcalm.indent, hcalm.outerIndents, hcalm.count, hcalm.bound, hcalm.simpleKey,
        hcalm.outerKeys⟩
    | true =>
      rw [hsimple] at htoken
      have hlater : (m.settled m.cursor).count - (m.settled m.cursor).simpleKey.position = 1 := by
        have hposition' : (m.settled m.cursor).simpleKey.position = s.tokens.length := by
          rw [← hposition]
          simp only [settled, refreshed]
          split <;> rfl
        rw [hposition', hcalm.count, settled_tokens, hmtokens, List.length_cons]
        omega
      refine hlast _ hcalm.keyed rfl (settled_length_outerKeys m m.cursor) ?_ htoken
      simp only [keyed, insertAt, hlater, settled_tokens, hmtokens, hsimple]
      simp

-- ---------------------------------------------------------------------------
-- Plain words
-- ---------------------------------------------------------------------------

def isPlainChar (c : Char) : Bool :=
  !(isBlank c || isBreak c || c == ':' || isFlowIndicator c)

def opensWord : List Char → Bool
  | '-' :: c :: _ => c.isAlphanum
  | c :: _ => c.isAlphanum
  | [] => false

def endsItem (c : Char) : Bool :=
  c == ',' || c == ']' || c == '\x7d'

theorem endsItem_cases {c : Char} (h : endsItem c = true) : c = ',' ∨ c = ']' ∨ c = '\x7d' := by
  simpa [endsItem, or_assoc] using h

theorem plainRun_word {word : List Char} (hword : ∀ c ∈ word, isPlainChar c = true)
    (done : List Char) {rest : List Char} {d : Char}
    (hd : isBlank d = true ∨ isBreak d = true ∨ isFlowIndicator d = true) (hcolon : d ≠ ':') :
    Scan.plainRun true done (word ++ d :: rest) = some (done.reverse ++ word) := by
  induction word generalizing done with
  | nil =>
    rcases hd with hd | hd | hd <;> simp [Scan.plainRun, hd, hcolon]
  | cons c word ih =>
    obtain ⟨hc, hword⟩ := List.forall_mem_cons.mp hword
    simp only [isPlainChar, Bool.not_eq_true', Bool.or_eq_false_iff, beq_eq_false_iff_ne] at hc
    obtain ⟨⟨⟨hblank, hbreak⟩, hcolon'⟩, hflow⟩ := hc
    rw [List.cons_append, Scan.plainRun]
    simp [hblank, hbreak, hcolon', hflow, ih hword]

theorem takeGap_padding {blanks : List Char} (hblanks : ∀ c ∈ blanks, isPadding c = true)
    (fuel : Nat) (gap : Scan.Gap) {cursor : Cursor} {tail : List Char}
    (h : cursor.rest = blanks ++ tail) :
    ∃ gap' after, Scan.takeGap 0 (blanks.length + fuel) gap cursor = Scan.takeGap 0 fuel gap' after ∧
      after.rest = tail ∧ after.bound = cursor.bound := by
  induction blanks generalizing gap cursor with
  | nil => exact ⟨gap, cursor, by simp, h, rfl⟩
  | cons c blanks ih =>
    obtain ⟨hc, hblanks⟩ := List.forall_mem_cons.mp hblanks
    rw [List.cons_append] at h
    have hstep : ∃ gap' mid, Scan.takeGap 0 (blanks.length + fuel + 1) gap cursor =
        Scan.takeGap 0 (blanks.length + fuel) gap' mid ∧ mid.rest = blanks ++ tail ∧
        mid.bound = cursor.bound := by
      simp only [isPadding, Bool.or_eq_true, beq_iff_eq] at hc
      rcases hc with rfl | rfl
      · obtain ⟨mid, heq, hpast, hmid, -⟩ :=
          Scan.takeGap_char (by decide) (blanks.length + fuel) gap h
        exact ⟨_, mid, heq, hmid, hpast.bound⟩
      · have hline := Scan.lineBreak_of_ne h (by decide) (by decide)
        have hblank : isBlank '\n' = false := by decide
        have hbreak : isBreak '\n' = true := by decide
        refine ⟨if gap.broken then { gap with more := gap.more ++ cursor.lineBreak.1 }
          else { first := cursor.lineBreak.1, broken := true }, cursor.lineBreak.2, ?_, by rw [hline],
          by rw [hline]⟩
        rw [Scan.takeGap]
        simp only [Cursor.char?, h, List.head?_cons, hblank, hbreak, Bool.false_eq_true, if_false,
          if_true]
        split <;> rfl
    obtain ⟨gap', mid, heq, hmid, hbound⟩ := hstep
    obtain ⟨gap'', after, heq', hafter, hbound'⟩ := ih hblanks gap' hmid
    refine ⟨gap'', after, ?_, hafter, hbound'.trans hbound⟩
    rw [List.length_cons, Nat.add_right_comm, heq, heq']

theorem opensWord_cases {word : List Char} (h : opensWord word = true) :
    ∃ c more, word = c :: more ∧ (c.isAlphanum = true ∨
      c = '-' ∧ ∃ d rest, more = d :: rest ∧ d.isAlphanum = true) := by
  unfold opensWord at h
  split at h
  · exact ⟨_, _, rfl, .inr ⟨rfl, _, _, rfl, h⟩⟩
  · exact ⟨_, _, rfl, .inl h⟩
  · cases h

theorem ne_of_isAlphanum {c d : Char} (hc : c.isAlphanum = true) (hd : d.isAlphanum = false) :
    c ≠ d := by
  rintro rfl
  rw [hc] at hd
  cases hd

theorem atDocumentMark_word {cursor : Cursor} {word tail : List Char}
    (h : cursor.rest = word ++ tail) (hword : opensWord word = true) :
    cursor.atDocumentMark = false := by
  obtain ⟨c, more, rfl, halnum | ⟨rfl, d, rest, rfl, halnum⟩⟩ := opensWord_cases hword
  · exact atDocumentMark_of_ne h (ne_of_isAlphanum halnum rfl) (ne_of_isAlphanum halnum rfl)
  · have hdash : d ≠ '-' := ne_of_isAlphanum halnum rfl
    simp [Cursor.atDocumentMark, h, List.isPrefixOf, Ne.symm hdash]

theorem sees_blank_or_break {cursor : Cursor} {c : Char} {tail : List Char}
    (h : cursor.rest = c :: tail) :
    (cursor.seesBlank || cursor.seesBreak) = (isBlank c || isBreak c) := by
  simp [Cursor.seesBlank, Cursor.seesBreak, Cursor.char?, h]

theorem plainFrom_endsItem {cursor : Cursor} {c : Char} {tail : List Char}
    (h : cursor.rest = c :: tail) (hc : endsItem c = true) (fuel : Nat) (done : List Char)
    (gap : Scan.Gap) :
    Scan.plainFrom true 0 (fuel + 1) done gap cursor = some ⟨done, gap.broken, cursor.nextBy 0⟩ := by
  have hmark : cursor.atDocumentMark = false := by
    rcases endsItem_cases hc with rfl | rfl | rfl <;>
      exact atDocumentMark_of_ne h (by decide) (by decide)
  have hcomment : cursor.sees '#' = false := by
    rcases endsItem_cases hc with rfl | rfl | rfl <;> simp [Cursor.sees, Cursor.char?, h]
  have hrun : Scan.plainRun true [] cursor.rest = some [] := by
    rw [h]
    rcases endsItem_cases hc with rfl | rfl | rfl <;> rfl
  have hrest : (cursor.nextBy 0).rest = c :: tail := h
  have hblank : ((cursor.nextBy 0).seesBlank || (cursor.nextBy 0).seesBreak) = false := by
    rw [sees_blank_or_break hrest]
    rcases endsItem_cases hc with rfl | rfl | rfl <;> decide
  simp only [Scan.plainFrom, hmark, hcomment, hrun, List.length_nil, hblank]
  rfl

/-- A plain word ends before the mark behind it, whatever padding lies between. -/
theorem plain?_word {cursor : Cursor} {word blanks tail : List Char} {c : Char}
    (h : cursor.rest = word ++ (blanks ++ c :: tail)) (hbound : cursor.rest.length ≤ cursor.bound)
    (hopens : opensWord word = true) (hword : ∀ c ∈ word, isPlainChar c = true)
    (hblanks : ∀ c ∈ blanks, isPadding c = true) (hc : endsItem c = true) :
    ∃ found, Scan.plain? true 0 cursor = some found ∧ found.text = word ∧
      found.cursor.rest = c :: tail ∧ found.cursor.bound = cursor.bound := by
  have hmark := atDocumentMark_word h hopens
  obtain ⟨first, more, hcons, hfirst⟩ := opensWord_cases hopens
  have hcomment : cursor.sees '#' = false := by
    have hne : first ≠ '#' := by
      rcases hfirst with halnum | ⟨rfl, -⟩
      · exact ne_of_isAlphanum halnum rfl
      · decide
    simpa [Cursor.sees, Cursor.char?, h, hcons] using hne
  have hempty : word.isEmpty = false := by simp [hcons]
  have hafter : (cursor.nextBy word.length).rest = blanks ++ c :: tail := by
    simp [Cursor.nextBy, h]
  have hlength := congrArg List.length h
  simp only [List.length_append, List.length_cons] at hlength
  obtain ⟨fuel, hfuel⟩ : ∃ fuel, cursor.bound = fuel + 1 := ⟨cursor.bound - 1, by omega⟩
  cases blanks with
  | nil =>
    have hrun : Scan.plainRun true [] cursor.rest = some word := by
      rw [h]
      rcases endsItem_cases hc with rfl | rfl | rfl <;>
        exact plainRun_word hword [] (by decide) (by decide)
    have hblank : ((cursor.nextBy word.length).seesBlank ||
        (cursor.nextBy word.length).seesBreak) = false := by
      rw [sees_blank_or_break hafter]
      rcases endsItem_cases hc with rfl | rfl | rfl <;> decide
    refine ⟨⟨word, false, cursor.nextBy word.length⟩, ?_, rfl, hafter, rfl⟩
    simp only [Scan.plain?, Scan.plainFrom, hmark, hcomment, hrun, hblank, hempty, Bool.or_self,
      Bool.false_eq_true, if_false, Scan.Gap.joined, List.nil_append]
  | cons b blanks =>
    have hb := hblanks b (List.mem_cons_self ..)
    simp only [isPadding, Bool.or_eq_true, beq_iff_eq] at hb
    have hrun : Scan.plainRun true [] cursor.rest = some word := by
      rw [h, List.cons_append]
      rcases hb with rfl | rfl <;> exact plainRun_word hword [] (by decide) (by decide)
    have hblank : ((cursor.nextBy word.length).seesBlank ||
        (cursor.nextBy word.length).seesBreak) = true := by
      rw [sees_blank_or_break hafter]
      rcases hb with rfl | rfl <;> decide
    -- the padding is read as a gap, which leads to nothing
    obtain ⟨gap, after, hgap, hrest, hsame⟩ :=
      takeGap_padding hblanks (cursor.bound - blanks.length) {} hafter
    have hstop : Scan.takeGap 0 (cursor.bound - blanks.length) gap after = some (gap, after) := by
      refine Scan.takeGap_stop hrest ?_
      rcases endsItem_cases hc with rfl | rfl | rfl <;> decide
    rw [hstop, show (b :: blanks).length + (cursor.bound - blanks.length) = cursor.bound + 1 by
      simp only [List.length_cons] at hlength ⊢; omega] at hgap
    have hgap' : Scan.takeGap 0 ((cursor.nextBy word.length).bound + 1) {}
        (cursor.nextBy word.length) = some (gap, after) := hgap
    refine ⟨⟨word, gap.broken, after.nextBy 0⟩, ?_, rfl, hrest, hsame⟩
    rw [Scan.plain?, Scan.plainFrom]
    simp only [hmark, hcomment, hrun, hblank, hgap', hempty, Bool.or_self, Bool.false_eq_true,
      if_false, if_true, Bool.not_true, Bool.false_and, Scan.Gap.joined, List.nil_append]
    rw [hfuel]
    exact plainFrom_endsItem hrest hc fuel word gap

theorem opensToken_of_isAlphanum {c : Char} (h : c.isAlphanum = true) :
    opensToken c = true ∧ ∀ d ∈ indicators, c ≠ d := by
  have hcode : c.toNat < 0x80 := Text.toNat_lt_of_isAlphanum h
  have hne : ∀ d ∈ ' ' :: '\t' :: '\r' :: '\n' :: byteOrderMark :: indicators, c ≠ d := by
    have hnot : (' ' :: '\t' :: '\r' :: '\n' :: byteOrderMark :: indicators).all
        (!·.isAlphanum) = true := by decide
    rw [List.all_eq_true] at hnot
    exact fun d hd => ne_of_isAlphanum h (by simpa using hnot d hd)
  simp only [List.forall_mem_cons] at hne
  obtain ⟨hspace, htab, hreturn, hline, hmark, hindicators⟩ := hne
  refine ⟨?_, hindicators⟩
  have hcomment : c ≠ '#' := hindicators '#' (by decide)
  have hcodes : c.toNat ≠ 0x85 ∧ c.toNat ≠ 0x2028 ∧ c.toNat ≠ 0x2029 := by omega
  simp [opensToken, isBlank, isBreak, hspace, htab, hreturn, hline, hmark, hcomment, hcodes]

theorem token?_word {t : Scanner} (ht : t.Calm) (hflow : t.inFlow = true) {c : Char}
    {word tail : List Char} (hrest : t.cursor.rest = (c :: word) ++ tail)
    (hopens : opensWord (c :: word) = true) :
    t.token? c = (Scan.plain? true 0 t.cursor).map fun found =>
      { t.saved with keyAllowed := found.broken, cursor := found.cursor }.push
        (.scalar (String.ofList found.text) .plain) := by
  have hmark := atDocumentMark_word hrest hopens
  have hplain : t.token? c = t.plainScalar? := by
    obtain ⟨_, _, heq, hfirst⟩ := opensWord_cases hopens
    obtain ⟨rfl, rfl⟩ := List.cons.inj heq
    rcases hfirst with halnum | ⟨rfl, d, rest, rfl, halnum⟩
    · obtain ⟨hopens, hindicators⟩ := opensToken_of_isAlphanum halnum
      obtain ⟨hblank, hbreak, -, -⟩ := opensToken_iff.mp hopens
      have hplain : t.opensPlain c = true := by
        have hnot : c ∉ indicators := fun hc => hindicators c hc rfl
        simp [opensPlain, hblank, hbreak, hnot]
      have hne : ∀ d, d.isAlphanum = false → c ≠ d := fun d => ne_of_isAlphanum halnum
      simp [token?, hmark, hplain, hne]
    · obtain ⟨hblank, hbreak, -, -⟩ := opensToken_iff.mp (opensToken_of_isAlphanum halnum).1
      have hword : t.cursor.endsWord 1 = false := by
        simp [Cursor.endsWord, Cursor.ahead?, hrest, hblank, hbreak]
      have hplain : t.opensPlain '-' = true := by
        simp [opensPlain, Cursor.ahead?, hrest, hblank]
      simp [token?, hmark, hword, hplain]
  have hsaved : t.saved.inFlow = true := by simpa [inFlow] using hflow
  have hindent : t.saved.indent = -1 := ht.saved.indent
  simp [hplain, plainScalar?, ht.saveKey?, hsaved, hindent]
  cases Scan.plain? true 0 t.cursor <;> rfl

theorem after_word {s : Scanner} (hs : s.Calm) (hdepth : 0 < s.outerKeys.length)
    {word blanks tail : List Char} {c : Char} (hopens : opensWord word = true)
    (hword : ∀ c ∈ word, isPlainChar c = true) (hblanks : ∀ c ∈ blanks, isPadding c = true)
    (hc : endsItem c = true) (hbefore : s.Before (word ++ (blanks ++ c :: tail))) :
    ∃ s', After s [.scalar (String.ofList word) .plain] (c :: tail) s.outerKeys.length s' := by
  obtain ⟨first, more, rfl, hfirst⟩ := opensWord_cases hopens
  have hfirstOpens : opensToken first = true := by
    rcases hfirst with halnum | ⟨rfl, -⟩
    · exact (opensToken_of_isAlphanum halnum).1
    · decide
  obtain ⟨cursor, hrest, hle, hcalm, -, hrun⟩ := hs.run_eq hbefore hfirstOpens
  have hflow : (s.settled cursor).inFlow = true := by
    rw [settled_inFlow, inFlow_iff]
    exact hdepth
  have htoken := token?_word hcalm hflow hrest hopens
  obtain ⟨found, hfound, htext, hafter, hbound⟩ :=
    plain?_word hrest hcalm.bound hopens hword hblanks hc
  have hsaved := hcalm.saved
  have hlength : (c :: tail).length < cursor.rest.length := by
    rw [hrest]
    simp
    omega
  refine ⟨{ (s.settled cursor).saved with
    keyAllowed := found.broken, cursor := found.cursor }.push
      (.scalar (String.ofList found.text) .plain), ⟨1, ?_, fun fuel => ?_⟩, ?_, ?_,
      before_of_eq hafter, ?_⟩
  · simp only [push, hafter]
    simp only [List.length_cons] at hle hlength ⊢
    rw [hrest] at hlength
    simp only [List.length_cons] at hlength
    omega
  · rw [hrun, htoken, hfound]
    rfl
  · refine ⟨hsaved.indent, hsaved.outerIndents, ?_, ?_, hsaved.simpleKey, hsaved.outerKeys⟩
    · simp [push, hsaved.count]
    · have hle := hcalm.bound
      simp only [push, hafter, hbound, settled_cursor] at hle ⊢
      omega
  · simp [push, htext]
  · simp [push]

end SocketDocs.Yaml.Scanner
