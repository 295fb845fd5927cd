import SocketDocs.Proofs.Json.Parts
import SocketDocs.Proofs.Yaml.FlowScan

/-!
# The tokens of JSON text

A value written over several lines is a flow collection or a scalar for YAML. Its tokens are those
of its parts (`valueTokens?`); there are none if a text in it cannot be read. A key that is too long
or broken over lines lacks the token that announces it.
-/

namespace SocketDocs.Yaml

open Json (Value Number newline prettyItems prettyMembers)

-- ---------------------------------------------------------------------------
-- Tokens
-- ---------------------------------------------------------------------------

def joined? (first second : Option (List Token)) : Option (List Token) :=
  first.bind fun tokens => second.map (tokens ++ ·)

def keyTokens? (key : String) : Option (List Token) :=
  (folded false key.toList).map (Scanner.keyTokens key.toList)

mutual
def valueTokens? : Value → Option (List Token)
  | .null => some [.scalar "null" .plain]
  | .bool b => some [.scalar (if b then "true" else "false") .plain]
  | .number n => some [.scalar n.text .plain]
  | .string s =>
    (folded false s.toList).map fun read => [.scalar (String.ofList read) .doubleQuoted]
  | .array items =>
    (itemTokens? items).map fun inside => .flowSequenceStart :: (inside ++ [.flowSequenceEnd])
  | .object members =>
    (memberTokens? members).map fun inside => .flowMappingStart :: (inside ++ [.flowMappingEnd])

def itemTokens? : List Value → Option (List Token)
  | [] => some []
  | [item] => valueTokens? item
  | item :: rest => joined? (valueTokens? item) ((itemTokens? rest).map (.flowEntry :: ·))

def memberTokens? : List (String × Value) → Option (List Token)
  | [] => some []
  | [(key, value)] => joined? (keyTokens? key) (valueTokens? value)
  | (key, value) :: rest =>
    joined? (joined? (keyTokens? key) (valueTokens? value))
      ((memberTokens? rest).map (.flowEntry :: ·))
end

-- ---------------------------------------------------------------------------
-- Scanning a part
-- ---------------------------------------------------------------------------

namespace Scanner

/-- From this state some text is passed: either its tokens are read, or the scanner fails. -/
def Scans (s : Scanner) (tokens : Option (List Token)) (rest : List Char) (depth : Nat) : Prop :=
  match tokens with
  | some tokens => ∃ s', After s tokens rest depth s'
  | none => Fails s

theorem After.scans {s s' : Scanner} {first : List Token} {second : Option (List Token)}
    {rest rest' : List Char} {depth depth' : Nat} (h : After s first rest depth s')
    (h' : s'.Scans second rest' depth') : s.Scans (second.map (first ++ ·)) rest' depth' := by
  cases second with
  | none => exact h.reaches.fails h'
  | some second =>
    obtain ⟨s'', h'⟩ := h'
    exact ⟨s'', h.trans h'⟩

theorem Scans.append {s : Scanner} {first second : Option (List Token)} {rest rest' : List Char}
    {depth depth' : Nat} (h : s.Scans first rest depth)
    (h' : ∀ tokens s', After s tokens rest depth s' → s'.Scans second rest' depth') :
    s.Scans (joined? first second) rest' depth' := by
  cases first with
  | none => exact h
  | some first =>
    obtain ⟨s', hs'⟩ := h
    exact hs'.scans (h' first s' hs')

theorem Scans.comma {s : Scanner} {first second : Option (List Token)} {rest rest' : List Char}
    {depth depth' : Nat} (h : s.Scans first (',' :: rest) depth)
    (h' : ∀ s' : Scanner, s'.Calm → s'.keyAllowed = true → s'.outerKeys.length = depth →
      s'.Before rest → s'.Scans second rest' depth') :
    s.Scans (joined? first (second.map (.flowEntry :: ·))) rest' depth' := by
  refine h.append ?_
  intro tokens s' hs'
  obtain ⟨next, hnext, hallowed⟩ := after_comma hs'.calm hs'.before
  exact hnext.scans (h' next hnext.calm hallowed (hnext.depth.trans hs'.depth) hnext.before)

theorem Before.skip {s : Scanner} (hdepth : 0 < s.outerKeys.length) {blanks text : List Char}
    (hblanks : ∀ c ∈ blanks, isPadding c = true) (h : s.Before (blanks ++ text)) : s.Before text := by
  obtain ⟨more, hmore, hrest, -⟩ := h
  refine ⟨more ++ blanks, List.forall_mem_append.mpr ⟨hmore, hblanks⟩, ?_,
    .inl (inFlow_iff.mpr hdepth)⟩
  rw [hrest, List.append_assoc]

theorem isPadding_newline (level : Nat) : ∀ c ∈ (newline level).toList, isPadding c = true := by
  intro c hc
  simp only [newline, String.toList_append, List.mem_append, String.toList_ofList,
    List.mem_replicate] at hc
  rcases hc with hc | ⟨-, rfl⟩
  · obtain rfl : c = '\n' := by simpa using hc
    rfl
  · rfl

/-- A flow collection, given how its inside is passed. -/
theorem scans_collection {s : Scanner} (hs : s.Calm) {first last : Char} {start stop : Token}
    (hmarks : (first = '[' ∧ start = .flowSequenceStart) ∧ last = ']' ∧ stop = .flowSequenceEnd ∨
      (first = '\x7b' ∧ start = .flowMappingStart) ∧ last = '\x7d' ∧ stop = .flowMappingEnd)
    {inside : Option (List Token)} {text tail : List Char}
    (hbefore : s.Before (first :: (text ++ last :: tail)))
    (hinside : ∀ s' : Scanner, s'.Calm → s'.keyAllowed = true → 0 < s'.outerKeys.length →
      s'.Before (text ++ last :: tail) → s'.Scans inside (last :: tail) s'.outerKeys.length) :
    s.Scans (inside.map fun inside => start :: (inside ++ [stop])) tail s.outerKeys.length := by
  have hopen := hmarks.imp (·.1) (·.1)
  have hclose := hmarks.imp (·.2) (·.2)
  obtain ⟨entered, hentered, hallowed⟩ := after_open hs hopen hbefore
  have h := hinside entered hentered.calm hallowed (by rw [hentered.depth]; omega) hentered.before
  cases inside with
  | none => exact hentered.reaches.fails h
  | some inside =>
    obtain ⟨passed, hpassed⟩ := h
    obtain ⟨left, hleft⟩ :=
      after_close hpassed.calm hclose (hpassed.depth.trans hentered.depth) hpassed.before
    refine ⟨left, ?_⟩
    simpa using (hentered.trans hpassed).trans hleft

theorem after_refl {s : Scanner} (hs : s.Calm) {text : List Char} (hbefore : s.Before text) :
    After s [] text s.outerKeys.length s :=
  ⟨⟨0, by omega, fun _ => rfl⟩, hs, rfl, hbefore, rfl⟩

-- ---------------------------------------------------------------------------
-- Scalars
-- ---------------------------------------------------------------------------

theorem isPlainChar_of_isAlphanum {c : Char} (h : c.isAlphanum = true) : isPlainChar c = true := by
  obtain ⟨hblank, hbreak, -, -⟩ := opensToken_iff.mp (opensToken_of_isAlphanum h).1
  have hne : ∀ d : Char, d.isAlphanum = false → c ≠ d := fun d => ne_of_isAlphanum h
  simp [isPlainChar, isFlowIndicator, hblank, hbreak, hne]

theorem isAlphanum_of_isDigit {c : Char} (h : Decimal.isDigit c = true) : c.isAlphanum = true := by
  rw [Decimal.isDigit_eq] at h
  simp [Char.isAlphanum, h]

theorem isPlainChar_of_isNumberChar {c : Char} (h : Json.isNumberChar c = true) :
    isPlainChar c = true := by
  simp only [Json.isNumberChar, Bool.or_eq_true, List.contains_iff_mem] at h
  rcases h with h | h
  · exact isPlainChar_of_isAlphanum (isAlphanum_of_isDigit h)
  · have hmarks : ['.', '-', '+', 'e', 'E'].all isPlainChar = true := by decide
    exact List.all_eq_true.mp hmarks c h

theorem word_number (n : Number) :
    opensWord n.text.toList = true ∧ ∀ c ∈ n.text.toList, isPlainChar c = true := by
  obtain ⟨negative, digit, rest, h⟩ := exists_isNumberText n
  refine ⟨?_, fun c hc => isPlainChar_of_isNumberChar (isNumberChar_of_mem h hc)⟩
  obtain ⟨htext, hdigit, -⟩ := h
  have halnum := isAlphanum_of_isDigit hdigit
  have hminus : digit ≠ '-' := ne_of_isAlphanum halnum rfl
  rw [htext]
  cases negative <;> simp [opensWord, halnum, hminus]

-- ---------------------------------------------------------------------------
-- Values
-- ---------------------------------------------------------------------------

theorem scans_word {s : Scanner} (hs : s.Calm) (hdepth : 0 < s.outerKeys.length) {word : String}
    {blanks tail : List Char} {c : Char}
    (hword : opensWord word.toList = true ∧ ∀ c ∈ word.toList, isPlainChar c = true)
    (hblanks : ∀ c ∈ blanks, isPadding c = true) (hc : endsItem c = true)
    (hbefore : s.Before (word.toList ++ (blanks ++ c :: tail))) :
    s.Scans (some [.scalar word .plain]) (c :: tail) s.outerKeys.length := by
  have h := after_word hs hdepth hword.1 hword.2 hblanks hc hbefore
  rwa [String.ofList_toList] at h

theorem Scans.skip {s : Scanner} (hdepth : 0 < s.outerKeys.length) {tokens : Option (List Token)}
    {blanks rest : List Char} (hblanks : ∀ c ∈ blanks, isPadding c = true)
    (h : s.Scans tokens (blanks ++ rest) s.outerKeys.length) :
    s.Scans tokens rest s.outerKeys.length := by
  cases tokens with
  | none => exact h
  | some tokens =>
    obtain ⟨s', h⟩ := h
    exact ⟨s', h.reaches, h.calm, h.tokens, h.before.skip (by rw [h.depth]; exact hdepth) hblanks,
      h.depth⟩

theorem toList_quote (text : String) : (Json.quote text).toList = quotedChars text.toList := by
  simp [Json.quote, quotedChars]

theorem toList_prettyAt_array (level : Nat) (items : List Value) :
    ∃ blanks, (∀ c ∈ blanks, isPadding c = true) ∧
      ∀ tail, ((Value.array items).prettyAt level).toList ++ tail =
        '[' :: ((prettyItems (level + 1) items).toList ++ blanks ++ ']' :: tail) := by
  cases items with
  | nil => exact ⟨[], by simp, by simp [Value.prettyAt, prettyItems]⟩
  | cons item items =>
    exact ⟨(newline level).toList, isPadding_newline level, by simp [Value.prettyAt]⟩

theorem toList_prettyAt_object (level : Nat) (members : List (String × Value)) :
    ∃ blanks, (∀ c ∈ blanks, isPadding c = true) ∧
      ∀ tail, ((Value.object members).prettyAt level).toList ++ tail =
        '\x7b' :: ((prettyMembers (level + 1) members).toList ++ blanks ++ '\x7d' :: tail) := by
  cases members with
  | nil => exact ⟨[], by simp, by simp [Value.prettyAt, prettyMembers]⟩
  | cons first members =>
    exact ⟨(newline level).toList, isPadding_newline level, by simp [Value.prettyAt]⟩

/-- In a flow collection a value is passed, up to the mark behind it. -/
def Passes (v : Value) : Prop :=
  ∀ (level : Nat) {s : Scanner} {blanks tail : List Char} {c : Char}, s.Calm →
    0 < s.outerKeys.length → (∀ c ∈ blanks, isPadding c = true) → endsItem c = true →
    s.Before ((v.prettyAt level).toList ++ (blanks ++ c :: tail)) →
    s.Scans (valueTokens? v) (c :: tail) s.outerKeys.length

section

variable {blanks tail : List Char} {c : Char} (level : Nat) {s : Scanner}

theorem scans_items {items : List Value} (hitems : ∀ v ∈ items, Passes v) (hs : s.Calm)
    (hdepth : 0 < s.outerKeys.length) (hblanks : ∀ c ∈ blanks, isPadding c = true)
    (hc : endsItem c = true)
    (hbefore : s.Before ((prettyItems level items).toList ++ (blanks ++ c :: tail))) :
    s.Scans (itemTokens? items) (c :: tail) s.outerKeys.length := by
  induction items generalizing s with
  | nil => exact ⟨s, after_refl hs (hbefore.skip hdepth hblanks)⟩
  | cons item rest ih =>
    obtain ⟨hitem, hrest⟩ := List.forall_mem_cons.mp hitems
    cases rest with
    | nil =>
      rw [prettyItems, String.toList_append, List.append_assoc] at hbefore
      exact hitem level hs hdepth hblanks hc (hbefore.skip hdepth (isPadding_newline level))
    | cons next rest =>
      simp only [prettyItems, String.toList_append, List.append_assoc] at hbefore
      have hfirst : s.Scans (valueTokens? item) (',' :: ((prettyItems level (next :: rest)).toList ++
          (blanks ++ c :: tail))) s.outerKeys.length :=
        hitem level hs hdepth (List.forall_mem_nil _) (by decide)
          (hbefore.skip hdepth (isPadding_newline level))
      rw [itemTokens?.eq_3 _ _ (by simp)]
      refine hfirst.comma ?_
      intro s' hs' _ hlength hbefore'
      rw [← hlength]
      exact ih hrest hs' (hlength ▸ hdepth) hbefore'

theorem scans_member {key : String} {value : Value} (hvalue : Passes value) (hs : s.Calm)
    (hallowed : s.keyAllowed = true) (hdepth : 0 < s.outerKeys.length)
    (hblanks : ∀ c ∈ blanks, isPadding c = true) (hc : endsItem c = true)
    (hbefore : s.Before ((newline level ++ Json.quote key ++ ": " ++ value.prettyAt level).toList ++
      (blanks ++ c :: tail))) :
    s.Scans (joined? (keyTokens? key) (valueTokens? value)) (c :: tail) s.outerKeys.length := by
  simp only [String.toList_append, List.append_assoc, toList_quote] at hbefore
  have hkey : s.Scans (keyTokens? key) ([' '] ++ ((value.prettyAt level).toList ++
      (blanks ++ c :: tail))) s.outerKeys.length := by
    have h := after_key hs hallowed hdepth (hbefore.skip hdepth (isPadding_newline level))
    rw [keyTokens?]
    cases hfolded : folded false key.toList with
    | none =>
      rw [hfolded] at h
      exact h
    | some read =>
      rw [hfolded] at h
      exact h
  refine (hkey.skip hdepth (by simp [isPadding])).append ?_
  intro tokens s' hs'
  rw [← hs'.depth]
  exact hvalue level hs'.calm (by rw [hs'.depth]; exact hdepth) hblanks hc hs'.before

theorem scans_members {members : List (String × Value)} (hmembers : ∀ m ∈ members, Passes m.2)
    (hs : s.Calm) (hallowed : s.keyAllowed = true) (hdepth : 0 < s.outerKeys.length)
    (hblanks : ∀ c ∈ blanks, isPadding c = true) (hc : endsItem c = true)
    (hbefore : s.Before ((prettyMembers level members).toList ++ (blanks ++ c :: tail))) :
    s.Scans (memberTokens? members) (c :: tail) s.outerKeys.length := by
  induction members generalizing s with
  | nil => exact ⟨s, after_refl hs (hbefore.skip hdepth hblanks)⟩
  | cons member rest ih =>
    obtain ⟨key, value⟩ := member
    obtain ⟨hvalue, hrest⟩ := List.forall_mem_cons.mp hmembers
    cases rest with
    | nil =>
      rw [prettyMembers] at hbefore
      exact scans_member level hvalue hs hallowed hdepth hblanks hc hbefore
    | cons next rest =>
      rw [prettyMembers.eq_3 _ _ _ _ (by simp)] at hbefore
      have hfirst : s.Scans (joined? (keyTokens? key) (valueTokens? value))
          (',' :: ((prettyMembers level (next :: rest)).toList ++ (blanks ++ c :: tail)))
          s.outerKeys.length :=
        scans_member level hvalue hs hallowed hdepth (List.forall_mem_nil _) (by decide)
          (by simpa using hbefore)
      rw [memberTokens?.eq_3 _ _ _ (by simp)]
      refine hfirst.comma ?_
      intro s' hs' hallowed' hlength hbefore'
      rw [← hlength]
      exact ih hrest hs' hallowed' (hlength ▸ hdepth) hbefore'

theorem scans_object {members : List (String × Value)} (hmembers : ∀ m ∈ members, Passes m.2)
    (hs : s.Calm) (hbefore : s.Before (((Value.object members).prettyAt level).toList ++ tail)) :
    s.Scans (valueTokens? (.object members)) tail s.outerKeys.length := by
  obtain ⟨inner, hinner, htext⟩ := toList_prettyAt_object level members
  rw [htext] at hbefore
  rw [valueTokens?]
  refine scans_collection hs (.inr ⟨⟨rfl, rfl⟩, rfl, rfl⟩) hbefore ?_
  intro s' hs' hallowed hdepth hbefore'
  rw [List.append_assoc] at hbefore'
  exact scans_members (level + 1) hmembers hs' hallowed hdepth hinner (by decide) hbefore'

end

theorem passes (v : Value) : Passes v := by
  induction v using Value.inductionOn with
  | _ v ih =>
    intro level s blanks tail c hs hdepth hblanks hc hbefore
    cases v with
    | null =>
      rw [Value.prettyAt] at hbefore
      exact scans_word hs hdepth ⟨by decide, List.all_eq_true.mp (by decide)⟩ hblanks hc hbefore
    | bool b =>
      rw [Value.prettyAt] at hbefore
      refine scans_word hs hdepth ?_ hblanks hc hbefore
      cases b <;> exact ⟨by decide, List.all_eq_true.mp (by decide)⟩
    | number n =>
      rw [Value.prettyAt] at hbefore
      exact scans_word hs hdepth (word_number n) hblanks hc hbefore
    | string text =>
      rw [Value.prettyAt, toList_quote] at hbefore
      rw [valueTokens?]
      refine Scans.skip hdepth hblanks ?_
      have h := after_quoted hs hbefore
      cases hfolded : folded false text.toList with
      | none =>
        rw [hfolded] at h
        exact h
      | some read =>
        rw [hfolded] at h
        obtain ⟨s', h, -⟩ := h
        exact ⟨s', h⟩
    | array items =>
      obtain ⟨inner, hinner, htext⟩ := toList_prettyAt_array level items
      rw [htext] at hbefore
      rw [valueTokens?]
      refine Scans.skip hdepth hblanks
        (scans_collection hs (.inl ⟨⟨rfl, rfl⟩, rfl, rfl⟩) hbefore ?_)
      intro s' hs' _ hdepth' hbefore'
      rw [List.append_assoc] at hbefore'
      exact scans_items (level + 1) ih hs' hdepth' hinner (by decide) hbefore'
    | object members =>
      have hmembers : ∀ m ∈ members, Passes m.2 :=
        fun m hm => ih m.2 (List.mem_map_of_mem hm)
      exact Scans.skip hdepth hblanks (scans_object level hmembers hs hbefore)

-- ---------------------------------------------------------------------------
-- Whole texts
-- ---------------------------------------------------------------------------

theorem Calm.run_end {s : Scanner} (hs : s.Calm) (hrest : s.cursor.rest = []) (fuel : Nat) :
    run (fuel + 1) s = some (s.tokens.reverse ++ [.streamEnd]) := by
  have hnext : s.cursor.nextBy 0 = s.cursor := rfl
  have hskip : skipToToken (s.cursor.bound + 1) s = { s with cursor := s.cursor } := by
    simp [skipToToken, Cursor.sees, Cursor.seesBreak, Cursor.char?, Cursor.skipWhile,
      Cursor.takeWhile, hrest, hnext]
  have hcalm : (s.settled s.cursor).Calm := hs.settled hs.bound
  rw [run, hskip]
  simp [hs.dropStaleKeys?, hcalm.closeBlocks, Cursor.char?, hrest, finish?, hcalm.removeKey?, push]

theorem calm_start (text : List Char) :
    Calm { cursor := { rest := text, bound := text.length } } :=
  ⟨rfl, rfl, rfl, Nat.le_refl _, rfl, by simp⟩

end Scanner

theorem tokens?_pretty (members : List (String × Value)) :
    tokens? (Value.object members).pretty.toList =
      if (Value.object members).pretty.toList.all isAllowed then
        (valueTokens? (.object members)).map (· ++ [.streamEnd])
      else none := by
  unfold tokens?
  split
  · generalize htext : (Value.object members).pretty.toList = text
    have hscans : Scanner.Scans { cursor := { rest := text, bound := text.length } }
        (valueTokens? (.object members)) [] 0 := by
      refine Scanner.scans_object 0 (fun m _ => Scanner.passes m.2) (Scanner.calm_start text) ?_
      exact Scanner.before_of_eq (by rw [List.append_nil, ← htext]; rfl)
    cases hv : valueTokens? (.object members) with
    | none =>
      rw [hv] at hscans
      obtain ⟨rounds, hrounds, hrun⟩ := hscans
      have hfuel : text.length + 2 = text.length + 2 - rounds + rounds := by
        simp only at hrounds
        omega
      rw [hfuel, hrun]
      rfl
    | some tokens =>
      rw [hv] at hscans
      obtain ⟨s', ⟨rounds, hrounds, hrun⟩, hcalm, htokens, ⟨blanks, -, hrest, hflow⟩, hdepth⟩ := hscans
      -- outside all collections nothing is left
      have hblanks : blanks = [] := by
        refine hflow.resolve_left ?_
        rw [Scanner.inFlow_iff, hdepth]
        exact Nat.lt_irrefl 0
      have hfuel : text.length + 2 = text.length + 1 - rounds + 1 + rounds := by
        simp only at hrounds
        omega
      rw [hfuel, hrun, hcalm.run_end (by rw [hrest, hblanks]; rfl), htokens]
      simp
  · rfl

end SocketDocs.Yaml
