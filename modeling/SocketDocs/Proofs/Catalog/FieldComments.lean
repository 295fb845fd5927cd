import Mathlib.Data.List.Chain
import SocketDocs.Proofs.Comment.Runs
import SocketDocs.Proofs.Source.FieldLines

/-!
# Comments that give samples

The comment that gives a field its sample is the nearest above the field that states one, as far as
nothing but comments and attributes of the field stands in between, and otherwise the one after the
field. Comments on the line of the opening brace or above it never count, and of fields that begin
below one another no two have their sample from one comment (`samples_of_own_comments`).
-/

namespace SocketDocs

open Source (Field FieldList)

def Source.Field.startLine (field : Field) : Nat :=
  (field.attributes.head?.map (·.line)).getD field.nameLine

namespace Sample

-- ---------------------------------------------------------------------------
-- The comment that counts
-- ---------------------------------------------------------------------------

/-- A line below the opening brace that does not part a field from the comments above: there is a
comment alone on it, or the attributes of the field have begun. -/
def Joins (comments : List Comment) (openLine : Nat) (field : Field) (line : Nat) : Prop :=
  openLine < line ∧
    ((∃ text, Comment.ownLine? comments line = some text) ∨
      ∃ mark, field.attributes.head? = some mark ∧ mark.line ≤ line)

def NoneBetween (comments : List Comment) (first stop : Nat) : Prop :=
  ∀ line, first ≤ line → line < stop → ∀ text, Comment.ownLine? comments line = some text →
    ofComment? text = none

/-- The comment gives a field its sample. -/
inductive Supplies (comments : List Comment) (openLine : Nat) (field : Field) : Comment → Prop where
  /-- It states one and stands nearest to the field among the comments above. -/
  | above {first line : Nat} {text : String}
      (run : RunAbove (Joins comments openLine field) field.nameLine first)
      (first_le : first ≤ line) (lt_name : line < field.nameLine)
      (own : Comment.ownLine? comments line = some text)
      (states : (ofComment? text).isSome = true)
      (nearest : NoneBetween comments (line + 1) field.nameLine) :
      Supplies comments openLine field ⟨line, text, true⟩
  /-- No comment above states one, and this one does after the field's type. -/
  | trailing {first : Nat} {text : String}
      (run : RunAbove (Joins comments openLine field) field.nameLine first)
      (noneAbove : NoneBetween comments first field.nameLine)
      (apart : field.typeLine ≠ openLine)
      (after : Comment.trailing? comments field.typeLine = some text)
      (states : (ofComment? text).isSome = true) :
      Supplies comments openLine field ⟨field.typeLine, text, false⟩

theorem above_eq {comments : List Comment} {openLine start stop first : Nat}
    (h : RunAbove (fun line => openLine < line ∧
      ((∃ text, Comment.ownLine? comments line = some text) ∨ start ≤ line)) stop first) :
    above comments start (stop - (openLine + 1)) (stop - 1) =
      (linesBetween first stop).reverse.findSome? fun line =>
        (Comment.ownLine? comments line).bind ofComment? := by
  induction stop generalizing first with
  | zero =>
    rw [h.unique .zero, Nat.zero_sub, linesBetween_self]
    rfl
  | succ stop ih =>
    rw [Nat.add_sub_add_right, Nat.add_sub_cancel]
    by_cases hopen : openLine < stop
    · obtain ⟨first', hrun⟩ := exists_runAbove (fun line => openLine < line ∧
        ((∃ text, Comment.ownLine? comments line = some text) ∨ start ≤ line)) stop
      have hsteps : stop - openLine = stop - (openLine + 1) + 1 := by omega
      rw [hsteps, above]
      cases hown : Comment.ownLine? comments stop with
      | some text =>
        rw [h.unique (hrun.succ ⟨hopen, .inl ⟨text, hown⟩⟩), linesBetween_succ hrun.le_stop,
          List.reverse_append, List.reverse_singleton, List.singleton_append, List.findSome?_cons,
          ← ih hrun, hown, Option.bind_some]
        cases hvalue : ofComment? text <;> simp [hvalue]
      | none =>
        by_cases hstart : start ≤ stop
        · rw [h.unique (hrun.succ ⟨hopen, .inr hstart⟩), linesBetween_succ hrun.le_stop,
            List.reverse_append, List.reverse_singleton, List.singleton_append, List.findSome?_cons,
            ← ih hrun, hown]
          exact if_pos hstart
        · rw [h.unique (.empty ?_), linesBetween_self]
          · exact if_neg hstart
          · rintro ⟨-, ⟨text, htext⟩ | hstart'⟩
            · rw [hown] at htext
              cases htext
            · exact hstart hstart'
    · rw [h.unique (.empty fun hstop => hopen hstop.1), linesBetween_self,
        Nat.sub_eq_zero_of_le (Nat.le_of_not_lt hopen)]
      rfl

theorem startLine_le_iff {field : Field} {line : Nat} (h : line < field.nameLine) :
    field.startLine ≤ line ↔
      ∃ mark, field.attributes.head? = some mark ∧ mark.line ≤ line := by
  unfold Field.startLine
  cases field.attributes.head? with
  | none => simpa using h
  | some mark => simp

theorem findSome?_eq_none_iff_noneBetween {comments : List Comment} {first stop : Nat} :
    ((linesBetween first stop).reverse.findSome? fun line =>
        (Comment.ownLine? comments line).bind ofComment?) = none ↔
      NoneBetween comments first stop := by
  simp only [List.findSome?_eq_none_iff, List.mem_reverse, mem_linesBetween, Option.bind_eq_none_iff,
    and_imp]
  rfl

theorem explicit?_eq {comments : List Comment} {openLine : Nat} {field : Field} {first : Nat}
    (h : RunAbove (Joins comments openLine field) field.nameLine first) :
    explicit? comments openLine field =
      match (linesBetween first field.nameLine).reverse.findSome? fun line =>
        (Comment.ownLine? comments line).bind ofComment? with
      | some value => some value
      | none =>
        if field.typeLine = openLine then none
        else (Comment.trailing? comments field.typeLine).bind ofComment? := by
  have hwalk : above comments field.startLine (field.nameLine - (openLine + 1))
      (field.nameLine - 1) = _ :=
    above_eq (h.congr fun line hline => by rw [Joins, startLine_le_iff hline])
  rw [← hwalk]
  cases habove : above comments field.startLine (field.nameLine - (openLine + 1))
      (field.nameLine - 1) with
  | some value =>
    rw [Field.startLine] at habove
    simp only [explicit?, habove]
  | none =>
    rw [Field.startLine] at habove
    simp only [explicit?, habove, beq_iff_eq]

theorem Supplies.explicit? {comments : List Comment} {openLine : Nat} {field : Field}
    {comment : Comment} (h : Supplies comments openLine field comment) :
    explicit? comments openLine field = ofComment? comment.text := by
  cases h with
  | @above first line text run first_le lt_name own states nearest =>
    obtain ⟨value, hvalue⟩ := Option.isSome_iff_exists.mp states
    have hfound := (findSome?_linesBetween_reverse (f := fun line =>
      (Comment.ownLine? comments line).bind ofComment?) run.le_stop).mpr
        ⟨line, first_le, lt_name, by rwa [own], fun nearer hlt hlt' =>
          Option.bind_eq_none_iff.mpr (nearest nearer hlt hlt')⟩
    rw [explicit?_eq run, hfound, hvalue]
  | trailing run noneAbove apart after states =>
    rw [explicit?_eq run, findSome?_eq_none_iff_noneBetween.mpr noneAbove, if_neg apart, after]
    rfl

theorem exists_supplies {comments : List Comment} {openLine : Nat} {field : Field} {value : String}
    (h : explicit? comments openLine field = some value) :
    ∃ comment, Supplies comments openLine field comment := by
  obtain ⟨first, hrun⟩ := exists_runAbove (Joins comments openLine field) field.nameLine
  rw [explicit?_eq hrun] at h
  split at h
  · rename_i found hfound
    obtain ⟨line, hfirst, hline, hvalue, hnearest⟩ :=
      (findSome?_linesBetween_reverse hrun.le_stop).mp hfound
    obtain ⟨text, hown, hstates⟩ := Option.bind_eq_some_iff.mp hvalue
    refine ⟨_, .above hrun hfirst hline hown (by simp [hstates]) fun nearer hlt hlt' => ?_⟩
    exact Option.bind_eq_none_iff.mp (hnearest nearer hlt hlt')
  · rename_i hnone
    split at h
    · cases h
    · rename_i hapart
      obtain ⟨text, hafter, hstates⟩ := Option.bind_eq_some_iff.mp h
      exact ⟨_, .trailing hrun (findSome?_eq_none_iff_noneBetween.mp hnone) hapart hafter
        (by simp [hstates])⟩

theorem explicit?_eq_some_iff {comments : List Comment} {openLine : Nat} {field : Field}
    {value : String} :
    explicit? comments openLine field = some value ↔
      ∃ comment, Supplies comments openLine field comment ∧
        ofComment? comment.text = some value := by
  constructor
  · intro h
    obtain ⟨comment, hsupplies⟩ := exists_supplies h
    exact ⟨comment, hsupplies, hsupplies.explicit?.symm.trans h⟩
  · rintro ⟨comment, hsupplies, hvalue⟩
    exact hsupplies.explicit?.trans hvalue

-- ---------------------------------------------------------------------------
-- Comments that do not count
-- ---------------------------------------------------------------------------

section

variable {comments comments' : List Comment} {openLine : Nat}
  (hbelow : comments.filter (openLine < ·.line) = comments'.filter (openLine < ·.line))
include hbelow

theorem find?_eq_of_below {kind : Comment → Bool} (hkind : ∀ c, kind c = true → openLine < c.line) :
    comments.find? kind = comments'.find? kind := by
  have hfilter : ∀ comments : List Comment,
      (comments.filter (openLine < ·.line)).find? kind = comments.find? kind := by
    intro comments
    rw [List.find?_filter]
    congr 1
    funext c
    cases hc : kind c with
    | true => simpa using hkind c hc
    | false => simp
  rw [← hfilter comments, hbelow, hfilter]

theorem ownLine?_eq_of_below {line : Nat} (hline : openLine < line) :
    Comment.ownLine? comments line = Comment.ownLine? comments' line := by
  unfold Comment.ownLine?
  rw [find?_eq_of_below hbelow fun c hc => ?_]
  simp only [Bool.and_eq_true, beq_iff_eq] at hc
  exact hc.1 ▸ hline

theorem trailing?_eq_of_below {line : Nat} (hline : openLine < line) :
    Comment.trailing? comments line = Comment.trailing? comments' line := by
  unfold Comment.trailing?
  rw [find?_eq_of_below hbelow fun c hc => ?_]
  simp only [Bool.and_eq_true, beq_iff_eq] at hc
  exact hc.1 ▸ hline

theorem joins_iff_of_below {field : Field} {line : Nat} :
    Joins comments openLine field line ↔ Joins comments' openLine field line := by
  refine and_congr_right fun hline => ?_
  rw [ownLine?_eq_of_below hbelow hline]

theorem noneBetween_of_below {first stop : Nat}
    (hlines : ∀ line, first ≤ line → line < stop → openLine < line)
    (h : NoneBetween comments first stop) : NoneBetween comments' first stop := by
  intro line hfirst hstop text hown
  rw [← ownLine?_eq_of_below hbelow (hlines line hfirst hstop)] at hown
  exact h line hfirst hstop text hown

theorem Supplies.of_below {field : Field} {comment : Comment} (htype : openLine ≤ field.typeLine)
    (h : Supplies comments openLine field comment) : Supplies comments' openLine field comment := by
  cases h with
  | @above first line text run first_le lt_name own states nearest =>
    have hline : ∀ line, first ≤ line → line < field.nameLine → openLine < line :=
      fun line hfirst hstop => (run.of_mem hfirst hstop).1
    refine .above (run.congr fun _ _ => joins_iff_of_below hbelow) first_le lt_name ?_ states ?_
    · rwa [← ownLine?_eq_of_below hbelow (hline line first_le lt_name)]
    · exact noneBetween_of_below hbelow
        (fun line hfirst hstop => hline line (by omega) hstop) nearest
  | @trailing first text run noneAbove apart after states =>
    refine .trailing (run.congr fun _ _ => joins_iff_of_below hbelow) ?_ apart ?_ states
    · exact noneBetween_of_below hbelow (fun line hfirst hstop => (run.of_mem hfirst hstop).1)
        noneAbove
    · rwa [← trailing?_eq_of_below hbelow (lt_of_le_of_ne htype apart.symm)]

theorem explicit?_eq_of_below {field : Field} (htype : openLine ≤ field.typeLine) :
    explicit? comments openLine field = explicit? comments' openLine field := by
  ext value
  simp only [explicit?_eq_some_iff]
  constructor
  · rintro ⟨comment, hsupplies, hvalue⟩
    exact ⟨comment, hsupplies.of_below hbelow htype, hvalue⟩
  · rintro ⟨comment, hsupplies, hvalue⟩
    exact ⟨comment, hsupplies.of_below hbelow.symm htype, hvalue⟩

end

end Sample

namespace Record

theorem ofStruct_eq_of_below {comments comments' : List Comment} {declaration : Source.Struct}
    {body : FieldList} (hbody : declaration.body = some body)
    (htypes : ∀ field ∈ body.fields, body.openLine ≤ field.typeLine)
    (hbelow : comments.filter (body.openLine < ·.line) =
      comments'.filter (body.openLine < ·.line)) (package : String) :
    ofStruct comments package declaration =
      ofStruct comments' package declaration := by
  unfold ofStruct
  rw [hbody]
  congr 1
  refine List.filterMap_congr fun field hfield => ?_
  unfold ofField Sample.ofField
  rw [Sample.explicit?_eq_of_below hbelow (htypes field hfield)]

end Record

namespace Sample

-- ---------------------------------------------------------------------------
-- Comments of one field
-- ---------------------------------------------------------------------------

/-- A field begins below the line where the type of another one ends, and no comment stands alone
on that line, which holds code. -/
def Follows (comments : List Comment) (field next : Field) : Prop :=
  field.typeLine < next.startLine ∧ Comment.ownLine? comments field.typeLine = none

theorem startLine_le_nameLine {openLine : Nat} {field : Field} (h : field.InOrder openLine) :
    field.startLine ≤ field.nameLine := by
  unfold Field.startLine
  cases hhead : field.attributes.head? with
  | none => exact Nat.le_refl _
  | some mark => exact (h.between mark (List.mem_of_head? hhead)).2

theorem Supplies.not_both {comments : List Comment} {openLine : Nat} {field next : Field}
    {comment : Comment} (hfield : field.InOrder openLine) (hnext : next.InOrder openLine)
    (hfollows : Follows comments field next) (h : Supplies comments openLine field comment) :
    ¬Supplies comments openLine next comment := by
  intro h'
  obtain ⟨hbelow, hcode⟩ := hfollows
  have hend : field.typeLine < next.nameLine :=
    Nat.lt_of_lt_of_le hbelow (startLine_le_nameLine hnext)
  cases h with
  | @above first line text run first_le lt_name =>
    cases h' with
    | above run' first_le' =>
      -- the run above the next field would go on over the end of this one
      have hline : line ≤ field.typeLine := Nat.le_trans (Nat.le_of_lt lt_name) hfield.name_le_type
      have hjoins := run'.of_mem (Nat.le_trans first_le' hline) hend
      obtain ⟨-, ⟨text, htext⟩ | hmark⟩ := hjoins
      · rw [hcode] at htext
        cases htext
      · exact absurd ((startLine_le_iff hend).mpr hmark) (Nat.not_le_of_lt hbelow)
  | trailing =>
    generalize hcomment : (⟨field.typeLine, _, false⟩ : Comment) = comment at h'
    cases h' with
    | above => cases hcomment
    | trailing =>
      have hsame : field.typeLine = next.typeLine := congrArg Comment.line hcomment
      have := hnext.name_le_type
      omega

theorem pairwise_follows {comments : List Comment} {openLine : Nat} {fields : List Field}
    (horder : ∀ field ∈ fields, field.InOrder openLine) (h : fields.IsChain (Follows comments)) :
    fields.Pairwise (Follows comments) := by
  have hchain : fields.IsChain fun field next =>
      Follows comments field next ∧ next.startLine ≤ next.typeLine :=
    h.imp_of_mem_imp fun field next _ hnext hfollows => ⟨hfollows,
      Nat.le_trans (startLine_le_nameLine (horder next hnext)) (horder next hnext).name_le_type⟩
  have htrans : IsTrans Field fun field next =>
      Follows comments field next ∧ next.startLine ≤ next.typeLine := by
    refine ⟨fun a b c hab hbc => ⟨⟨?_, hab.1.2⟩, hbc.2⟩⟩
    exact Nat.lt_trans (Nat.lt_of_lt_of_le hab.1.1 hab.2) hbc.1.1
  exact (List.isChain_iff_pairwise.mp hchain).imp And.left

/-- The sample that comments give a field is that of one comment of its own. -/
theorem samples_of_own_comments {path text : String} {file : SourceFile}
    (h : SourceFile.parse? path text = some file) {placed : PlacedStruct}
    (hmem : placed ∈ PlacedStruct.ofFile file) {body : FieldList}
    (hbody : placed.declaration.body = some body) (comments : List Comment) :
    (∀ field value, explicit? comments body.openLine field = some value ↔
      ∃ comment, Supplies comments body.openLine field comment ∧
        ofComment? comment.text = some value) ∧
    (∀ comments' package, comments.filter (body.openLine < ·.line) =
        comments'.filter (body.openLine < ·.line) →
      Record.ofStruct comments package placed.declaration =
        Record.ofStruct comments' package placed.declaration) ∧
    (body.fields.IsChain (Follows comments) →
      body.fields.Pairwise fun field next => ∀ comment,
        Supplies comments body.openLine field comment →
          ¬Supplies comments body.openLine next comment) := by
  have horder : ∀ field ∈ body.fields, field.InOrder body.openLine :=
    PlacedStruct.inOrder_of_mem_ofFile h hmem hbody
  refine ⟨fun _ _ => explicit?_eq_some_iff, fun comments' package hbelow => ?_, fun hchain => ?_⟩
  · refine Record.ofStruct_eq_of_below hbody (fun field hfield => ?_) hbelow package
    exact Nat.le_trans (horder field hfield).open_le_name (horder field hfield).name_le_type
  · refine List.Pairwise.imp_of_mem (fun hfield hnext hfollows comment hsupplies => ?_)
      (pairwise_follows horder hchain)
    exact hsupplies.not_both (horder _ hfield) (horder _ hnext) hfollows

set_option synthInstance.maxSize 1000 in
/-- An attribute does not part a field from the comment above, and the comment after the one field
is none of the next. -/
theorem samples_of_own_comments_attribute :
    ∃ file, SourceFile.parse? "a.rs"
        ("struct A \x7b\n    // Example: 1\n    #[serde(default)]\n    a: u8, // Example: 2\n" ++
          "    b: u8,\n\x7d\n") = some file ∧
      ∃ placed ∈ PlacedStruct.ofFile file, ∃ body, placed.declaration.body = some body ∧
        body.fields.IsChain (Follows file.comments) ∧
        (∃ field ∈ body.fields, ∃ comment, Supplies file.comments body.openLine field comment ∧
          ofComment? comment.text = some "1") ∧
        body.fields.Pairwise fun field next => ∀ comment,
          Supplies file.comments body.openLine field comment →
            ¬Supplies file.comments body.openLine next comment := by
  have hread : (SourceFile.parse? "a.rs"
      ("struct A \x7b\n    // Example: 1\n    #[serde(default)]\n    a: u8, // Example: 2\n" ++
        "    b: u8,\n\x7d\n")).map (fun file => (PlacedStruct.ofFile file).map fun placed =>
        placed.declaration.body.map fun body => body.fields.map fun field =>
          (field.startLine, field.typeLine, Comment.ownLine? file.comments field.typeLine,
            explicit? file.comments body.openLine field)) =
      some [some [(3, 4, none, some "1"), (5, 5, none, none)]] := by
    decide +kernel
  obtain ⟨file, hfile, hstructs⟩ := Option.map_eq_some_iff.mp hread
  obtain ⟨placed, rest, hplaced, hbody, -⟩ := List.map_eq_cons_iff.mp hstructs
  have hmem : placed ∈ PlacedStruct.ofFile file := hplaced ▸ List.mem_cons_self ..
  obtain ⟨body, hbody, hfields⟩ := Option.map_eq_some_iff.mp hbody
  obtain ⟨first, rest, hfirst, hlines, hrest⟩ := List.map_eq_cons_iff.mp hfields
  obtain ⟨second, rest, rfl, hlines', hrest⟩ := List.map_eq_cons_iff.mp hrest
  obtain rfl := List.map_eq_nil_iff.mp hrest
  simp only [Prod.mk.injEq] at hlines hlines'
  obtain ⟨-, htype, hcode, hvalue⟩ := hlines
  have hchain : body.fields.IsChain (Follows file.comments) := by
    rw [hfirst, List.isChain_cons_cons]
    refine ⟨⟨?_, hcode⟩, .singleton _⟩
    rw [htype, hlines'.1]
    decide
  obtain ⟨hsupplies, -, hpairwise⟩ := samples_of_own_comments hfile hmem hbody file.comments
  refine ⟨file, hfile, placed, hmem, body, hbody, hchain, ⟨first, ?_, ?_⟩, hpairwise hchain⟩
  · rw [hfirst]
    exact List.mem_cons_self ..
  · exact (hsupplies first "1").mp hvalue

end Sample

end SocketDocs
