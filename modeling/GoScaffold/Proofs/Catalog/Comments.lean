import GoScaffold.Proofs.Catalog.Contents
import GoScaffold.Proofs.Source.Limited

/-!
# Line comments

A line comment behind a member is read three times: the nesting limit counts its braces,
the reader of declarations takes it for a token that ends with its line, and the reader of
member lines drops it through the next line feed.  A comment that each of them passes
leaves no trace in the catalog.
-/

namespace GoScaffold

open Source (Bracketed Declaration IsOrdinary IsPassed Layout LimitedTo braceDepth declarations endsMember
  isBrace isLineBreak limitedFrom nestingLimit nestsWithin)

/-! ### Commented structs -/

/-- The text of a line comment behind its `//`. -/
structure Comment where
  text : Text
  no_feed : '\n' ∉ text

/-- A member on a line of its own, with or without a comment.  Its brackets are properly
nested, braces at most `limit` deep; it has no quote, apostrophe, backtick or slash, and no
line feed or semicolon stands outside its brackets. -/
structure CommentedLine where
  indent : Layout
  content : Text
  limit : Nat
  isBracketed : Bracketed limit endsMember [] content
  comment? : Option Comment

structure CommentedStruct extends Source.Frame where
  lines : List CommentedLine
  closing : Layout

namespace CommentedLine

variable (line : CommentedLine)

/-- The text from the end of the member through the line feed. -/
def ending : Text :=
  match line.comment? with
  | none => ['\n']
  | some comment => " //" ++ (comment.text ++ ['\n'])

def text : Text :=
  line.indent.text ++ (line.content ++ line.ending)

def withoutComment : CommentedLine :=
  { line with comment? := none }

end CommentedLine

namespace CommentedStruct

variable (struct : CommentedStruct)

def body : Text :=
  struct.lines.flatMap CommentedLine.text ++ struct.closing.text

def text : Text :=
  struct.around .struct struct.body

def declaration : Declaration :=
  ⟨⟨struct.name, .struct⟩, struct.body⟩

def withoutComments : CommentedStruct :=
  { struct with lines := struct.lines.map CommentedLine.withoutComment }

def comments : List Comment :=
  struct.lines.filterMap CommentedLine.comment?

end CommentedStruct

/-! ### The reader of member lines -/

namespace CommentedLine

variable (line : CommentedLine)

theorem endsLine_ending : Source.EndsLine line.ending := by
  rw [ending]
  cases line.comment? with
  | none => exact Source.LineEnd.feed.endsLine
  | some comment => exact Source.endsLine_comment comment.no_feed

/-- The comment is no part of what a line declares. -/
theorem memberLines_append (rest : Text) :
    Source.memberLines (line.text ++ rest) = Source.lineOf line.content ++ Source.memberLines rest := by
  rw [text, List.append_assoc, Source.memberLines_layout_append line.indent.isLayout, List.append_assoc,
    line.isBracketed.memberLines_append line.endsLine_ending]

end CommentedLine

namespace CommentedStruct

variable (struct : CommentedStruct)

theorem memberLines_body : Source.memberLines struct.body =
    struct.lines.flatMap (fun line => Source.lineOf line.content) :=
  Source.memberLines_flatMap (fun line _ => line.memberLines_append) struct.closing.isLayout

/-- Whatever the comments hold, the members of the body are the same without them. -/
theorem ofBody_withoutComments (name : Text) :
    Struct.ofBody name struct.withoutComments.body = Struct.ofBody name struct.body := by
  have hlines : Source.memberLines struct.withoutComments.body = Source.memberLines struct.body := by
    rw [memberLines_body, memberLines_body, withoutComments, List.flatMap_map]
    rfl
  rw [Struct.ofBody, hlines, Struct.ofBody]

end CommentedStruct

/-! ### The reader of declarations -/

/-- What stands behind the first carriage return of the comment, where the reader of
declarations takes it to end, has no brace, and no token starts there. -/
def Comment.EndsQuietly (comment : Comment) : Prop :=
  ∃ front back, comment.text = front ++ back ∧ (∀ c ∈ front, isLineBreak c = false) ∧
    (∀ c, back.head? = some c → isLineBreak c = true) ∧ IsOrdinary (back ++ ['\n'])

/-- Nothing but a carriage return ends a comment early. -/
theorem Comment.endsQuietly_of_no_return {comment : Comment} (h : '\r' ∉ comment.text) :
    comment.EndsQuietly := by
  refine ⟨comment.text, [], (List.append_nil _).symm, ?_, by simp, Source.isOrdinary_layout (by decide)⟩
  intro c hc
  by_contra hbreak
  obtain rfl | rfl : c = '\n' ∨ c = '\r' := by
    simpa only [isLineBreak, Bool.not_eq_false, Bool.or_eq_true, beq_iff_eq] using hbreak
  · exact comment.no_feed hc
  · exact h hc

theorem Comment.EndsQuietly.isPassed {comment : Comment} (h : comment.EndsQuietly) :
    IsPassed (" //" ++ (comment.text ++ ['\n'])) := by
  obtain ⟨front, back, htext, hfront, hback, hordinary⟩ := h
  have hline : ∀ rest, Source.token? ('/' :: '/' :: front ++ (back ++ ['\n'] ++ rest)) =
      some ('/' :: '/' :: front) := by
    intro rest
    apply Source.token?_lineComment hfront
    intro c hc
    cases back with
    | nil =>
      obtain rfl : '\n' = c := Option.some.inj hc
      rfl
    | cons d back => exact hback c hc
  have hspace : IsPassed [' '] := (Source.isOrdinary_layout (by decide)).isPassed
  have hcomment := hspace.append (IsPassed.of_token hline hordinary.isPassed)
  rw [htext, List.append_assoc]
  exact hcomment

theorem CommentedLine.isPassed (line : CommentedLine)
    (hquiet : ∀ comment, line.comment? = some comment → comment.EndsQuietly) : IsPassed line.text := by
  have hending : IsPassed line.ending := by
    rw [ending]
    cases hcomment : line.comment? with
    | none => exact (Source.isOrdinary_layout (by decide)).isPassed
    | some comment => exact (hquiet comment hcomment).isPassed
  exact (Source.isOrdinary_layout line.indent.isLayout).isPassed.append
    (line.isBracketed.isPassed.append hending)

namespace CommentedStruct

def EndsQuietly (struct : CommentedStruct) : Prop :=
  ∀ comment ∈ struct.comments, comment.EndsQuietly

theorem EndsQuietly.isPassed_body {struct : CommentedStruct} (h : struct.EndsQuietly) :
    IsPassed struct.body := by
  have hlines : IsPassed (struct.lines.flatMap CommentedLine.text) := by
    apply IsPassed.flatMap
    intro line hline
    apply line.isPassed
    intro comment hcomment
    exact h comment (List.mem_filterMap.2 ⟨line, hline, hcomment⟩)
  exact hlines.append (Source.isOrdinary_layout struct.closing.isLayout).isPassed

theorem comments_withoutComments (struct : CommentedStruct) : struct.withoutComments.comments = [] := by
  rw [comments, withoutComments, List.filterMap_map, List.filterMap_eq_nil_iff]
  intro line _
  rfl

theorem endsQuietly_withoutComments (struct : CommentedStruct) : struct.withoutComments.EndsQuietly := by
  rw [EndsQuietly, comments_withoutComments]
  exact fun comment hcomment => absurd hcomment List.not_mem_nil

theorem declarations_flatMap_text {listed : List CommentedStruct} (h : ∀ struct ∈ listed, struct.EndsQuietly) :
    declarations (listed.flatMap text) = listed.map declaration := by
  induction listed with
  | nil => rfl
  | cons struct listed ih =>
    obtain ⟨hfirst, hothers⟩ := List.forall_mem_cons.1 h
    rw [List.flatMap_cons, text, struct.declarations_around_append .struct hfirst.isPassed_body, ih hothers,
      List.map_cons, declaration]

end CommentedStruct

/-- Read without the nesting limit, comments that end quietly leave no trace. -/
theorem Catalog.ofDeclarations_withoutComments {listed : List CommentedStruct}
    (h : ∀ struct ∈ listed, struct.EndsQuietly) :
    ofDeclarations (declarations (listed.flatMap CommentedStruct.text)) =
      ofDeclarations (declarations
        ((listed.map CommentedStruct.withoutComments).flatMap CommentedStruct.text)) := by
  have hwithout : ∀ struct ∈ listed.map CommentedStruct.withoutComments, struct.EndsQuietly := by
    intro struct hstruct
    obtain ⟨commented, -, rfl⟩ := List.mem_map.1 hstruct
    exact commented.endsQuietly_withoutComments
  have hsame : ∀ (catalog : Catalog) (struct : CommentedStruct),
      catalog.insertDeclaration struct.withoutComments.declaration =
        catalog.insertDeclaration struct.declaration := by
    intro catalog struct
    exact congrArg catalog.insertStruct (struct.ofBody_withoutComments struct.name)
  rw [CommentedStruct.declarations_flatMap_text h, CommentedStruct.declarations_flatMap_text hwithout,
    ofDeclarations, ofDeclarations, List.foldl_map, List.foldl_map, List.foldl_map]
  simp only [hsame]

/-! ### The nesting limit -/

/-- What the nesting limit leaves of a comment in a struct. -/
def Comment.limited (comment : Comment) : Comment where
  text := limitedFrom nestingLimit 1 comment.text
  no_feed := fun hmem => comment.no_feed (Source.mem_of_mem_limitedFrom (by decide) hmem)

theorem Comment.EndsQuietly.limited {comment : Comment} (h : comment.EndsQuietly) :
    comment.limited.EndsQuietly := by
  obtain ⟨front, back, htext, hfront, hback, hordinary⟩ := h
  have hbraces : ∀ c ∈ back, isBrace c = false := fun c hc => hordinary.1 c (List.mem_append_left _ hc)
  refine ⟨limitedFrom nestingLimit 1 front, back, ?_, Source.isLineBreak_of_mem_limitedFrom hfront, hback,
    hordinary⟩
  have hlimited : comment.limited.text = limitedFrom nestingLimit 1 comment.text := rfl
  rw [hlimited, htext, Source.limitedFrom_append, (Source.limitedFrom_of_no_brace hbraces _ _).1]

namespace CommentedLine

variable (line : CommentedLine)

/-- What the nesting limit leaves of a line in a struct. -/
def limited : CommentedLine where
  indent := line.indent
  content := limitedFrom nestingLimit 1 line.content
  limit := nestingLimit
  isBracketed := by
    have hdepth : 1 < nestingLimit := by decide
    have hlimited := line.isBracketed.limited hdepth rfl
    rwa [List.count_nil, Nat.zero_add] at hlimited
  comment? := line.comment?.map Comment.limited

theorem limitedTo_text
    (hbraces : ∀ comment, line.comment? = some comment → braceDepth 1 comment.text = 1) :
    LimitedTo nestingLimit 1 line.text line.limited.text := by
  have hfeed : LimitedTo nestingLimit 1 ['\n'] ['\n'] := .of_layout (by decide)
  have hending : LimitedTo nestingLimit 1 line.ending line.limited.ending := by
    rw [ending, ending, limited]
    cases hcomment : line.comment? with
    | none => exact hfeed
    | some comment =>
      have hstart : LimitedTo nestingLimit 1 " //" " //" := .of_no_brace (by decide)
      have htext : LimitedTo nestingLimit 1 comment.text comment.limited.text := ⟨rfl, hbraces comment hcomment⟩
      exact hstart.append (htext.append hfeed)
  exact (LimitedTo.of_layout line.indent.isLayout).append ((line.isBracketed.limitedTo nestingLimit 1).append hending)

end CommentedLine

namespace CommentedStruct

variable (struct : CommentedStruct)

/-- What the nesting limit leaves of a struct. -/
def limited : CommentedStruct :=
  { struct with lines := struct.lines.map CommentedLine.limited }

theorem comments_limited : struct.limited.comments = struct.comments.map Comment.limited := by
  rw [comments, limited, List.filterMap_map, comments, List.map_filterMap]
  rfl

theorem withoutComments_limited : struct.limited.withoutComments = struct.withoutComments.limited := by
  rw [limited, withoutComments, limited, withoutComments, List.map_map, List.map_map]
  rfl

variable {struct}

theorem EndsQuietly.limited (h : struct.EndsQuietly) : struct.limited.EndsQuietly := by
  rw [EndsQuietly, comments_limited]
  intro comment hcomment
  obtain ⟨written, hwritten, rfl⟩ := List.mem_map.1 hcomment
  exact (h written hwritten).limited

/-- The limit changes a struct on its own, if the braces in its comments leave the count as
it was. -/
theorem limitedTo_text (hbraces : ∀ comment ∈ struct.comments, braceDepth 1 comment.text = 1) :
    LimitedTo nestingLimit 0 struct.text struct.limited.text := by
  have hlines : LimitedTo nestingLimit 1 (struct.lines.flatMap CommentedLine.text)
      (struct.lines.flatMap fun line => line.limited.text) := by
    apply LimitedTo.flatMap
    intro line hline
    apply line.limitedTo_text
    intro comment hcomment
    exact hbraces comment (List.mem_filterMap.2 ⟨line, hline, hcomment⟩)
  have hbody : LimitedTo nestingLimit 1 struct.body struct.limited.body := by
    rw [body, body, CommentedStruct.limited, List.flatMap_map]
    exact hlines.append (.of_layout struct.closing.isLayout)
  exact struct.limitedTo_around .struct (by decide) hbody

end CommentedStruct

namespace Catalog

theorem ofSource_limited {listed : List CommentedStruct}
    (hbraces : ∀ struct ∈ listed, ∀ comment ∈ struct.comments, braceDepth 1 comment.text = 1) :
    ofSource (listed.flatMap CommentedStruct.text) = ofDeclarations (declarations
      ((listed.map CommentedStruct.limited).flatMap CommentedStruct.text)) := by
  have hlimited : LimitedTo nestingLimit 0 (listed.flatMap CommentedStruct.text)
      (listed.flatMap fun struct => struct.limited.text) := by
    apply LimitedTo.flatMap
    intro struct hstruct
    exact CommentedStruct.limitedTo_text (hbraces struct hstruct)
  rw [ofSource, Source.limitNesting_eq_limitedFrom, hlimited.1, List.flatMap_map]

/-- The limit goes on behind a comment as behind none, if the braces of the comment leave the
count as it was. -/
theorem ofSource_withoutComments_of_braces {listed : List CommentedStruct}
    (hquiet : ∀ struct ∈ listed, struct.EndsQuietly)
    (hbraces : ∀ struct ∈ listed, ∀ comment ∈ struct.comments, braceDepth 1 comment.text = 1) :
    ofSource (listed.flatMap CommentedStruct.text) =
      ofSource ((listed.map CommentedStruct.withoutComments).flatMap CommentedStruct.text) := by
  have hwithout : ∀ struct ∈ listed.map CommentedStruct.withoutComments,
      ∀ comment ∈ struct.comments, braceDepth 1 comment.text = 1 := by
    intro struct hstruct
    obtain ⟨commented, -, rfl⟩ := List.mem_map.1 hstruct
    rw [CommentedStruct.comments_withoutComments]
    exact fun comment hcomment => absurd hcomment List.not_mem_nil
  have hlimited : ∀ struct ∈ listed.map CommentedStruct.limited, struct.EndsQuietly := by
    intro struct hstruct
    obtain ⟨commented, hcommented, rfl⟩ := List.mem_map.1 hstruct
    exact (hquiet commented hcommented).limited
  have hcommute : (listed.map CommentedStruct.withoutComments).map CommentedStruct.limited =
      (listed.map CommentedStruct.limited).map CommentedStruct.withoutComments := by
    rw [List.map_map, List.map_map]
    exact List.map_congr_left fun struct _ => struct.withoutComments_limited.symm
  rw [ofSource_limited hbraces, ofSource_limited hwithout, ofDeclarations_withoutComments hlimited, hcommute]

/-- Comments behind the members of a file of structs leave no trace in its catalog, if each
ends quietly and the nesting limit does not tell the files apart: the braces of each comment
leave the count as it was, or both files nest within the limit. -/
theorem ofSource_withoutComments (listed : List CommentedStruct)
    (hquiet : ∀ struct ∈ listed, struct.EndsQuietly)
    (hbraces : (∀ struct ∈ listed, ∀ comment ∈ struct.comments, braceDepth 1 comment.text = 1) ∨
      (nestsWithin nestingLimit 0 (listed.flatMap CommentedStruct.text) = true ∧
        nestsWithin nestingLimit 0
          ((listed.map CommentedStruct.withoutComments).flatMap CommentedStruct.text) = true)) :
    ofSource (listed.flatMap CommentedStruct.text) =
      ofSource ((listed.map CommentedStruct.withoutComments).flatMap CommentedStruct.text) := by
  rcases hbraces with hbraces | ⟨hnests, hnestsWithout⟩
  · exact ofSource_withoutComments_of_braces hquiet hbraces
  · rw [Source.ofSource_of_nestsWithin hnests, Source.ofSource_of_nestsWithin hnestsWithout,
      ofDeclarations_withoutComments hquiet]

/-- Without a carriage return only the braces of the comments matter. -/
theorem ofSource_withoutComments_of_no_return {listed : List CommentedStruct}
    (hreturn : ∀ struct ∈ listed, ∀ comment ∈ struct.comments, '\r' ∉ comment.text)
    (hbraces : ∀ struct ∈ listed, ∀ comment ∈ struct.comments, braceDepth 1 comment.text = 1) :
    ofSource (listed.flatMap CommentedStruct.text) =
      ofSource ((listed.map CommentedStruct.withoutComments).flatMap CommentedStruct.text) := by
  apply ofSource_withoutComments_of_braces _ hbraces
  intro struct hstruct comment hcomment
  exact Comment.endsQuietly_of_no_return (hreturn struct hstruct comment hcomment)

/-- A struct of two fields, with the comment behind the first. -/
def behindField (comment : Comment) : CommentedStruct where
  toFrame := .printed ['T'] (by decide)
  lines := [⟨.feedTab, "a int", 0, by decide, some comment⟩, ⟨.tab, "b int", 0, by decide, none⟩]
  closing := .nothing

/-- A comment that leaves a brace and two quotes open, and goes on behind a carriage return. -/
theorem ofSource_withoutComments_behindField :
    let struct := behindField ⟨" \x7b \"it's\r ok", by decide⟩
    struct.EndsQuietly ∧ nestsWithin nestingLimit 0 struct.text = true ∧
      nestsWithin nestingLimit 0 struct.withoutComments.text = true ∧
      ofSource struct.text = ofSource struct.withoutComments.text := by
  intro struct
  have hquiet : struct.EndsQuietly := by
    intro comment hcomment
    obtain rfl := List.mem_singleton.1 hcomment
    exact ⟨" \x7b \"it's", "\r ok", by decide, by decide, by rintro c ⟨rfl⟩; rfl,
      Source.isOrdinary_of_startsToken (by decide)⟩
  have hnests : nestsWithin nestingLimit 0 struct.text = true := by decide +kernel
  have hnestsWithout : nestsWithin nestingLimit 0 struct.withoutComments.text = true := by decide +kernel
  have hsame := ofSource_withoutComments [struct] (List.forall_mem_singleton.2 hquiet)
    (.inr ⟨by rw [List.flatMap_singleton]; exact hnests,
      by rw [List.map_singleton, List.flatMap_singleton]; exact hnestsWithout⟩)
  rw [List.map_singleton, List.flatMap_singleton, List.flatMap_singleton] at hsame
  exact ⟨hquiet, hnests, hnestsWithout, hsame⟩

/-- The brace behind the carriage return closes the struct, and the second field is lost. -/
theorem carriageReturn_hides_field :
    let struct := behindField ⟨" x\r\x7d", by decide⟩
    struct.text = "type T struct \x7b\n\ta int // x\r\x7d\n\tb int\n\x7d\n" ∧
      ofSource struct.text = ⟨[⟨"T", [⟨"a", "int"⟩]⟩], []⟩ ∧
      ofSource struct.withoutComments.text = ⟨[⟨"T", [⟨"a", "int"⟩, ⟨"b", "int"⟩]⟩], []⟩ := by
  decide +kernel

end Catalog

end GoScaffold
