import GoScaffold.Proofs.Source.Bracketed
import GoScaffold.Proofs.Text.Words

/-!
# Lines of a body

A bracketed text that an end of a member follows is one member line, with its blanks
collapsed.  Layout in front of it leaves no trace.
-/

namespace GoScaffold.Source

open Unicode (isBlank)
open Text (IsBlanks words collapse)

inductive LineEnd where
  | feed
  | returnFeed
  | semicolon
  deriving DecidableEq, Repr

def LineEnd.text : LineEnd → Text
  | .feed => ['\n']
  | .returnFeed => ['\r', '\n']
  | .semicolon => [';']

def isLayout (c : Char) : Bool :=
  isGap c || isLineBreak c

def IsLayout (text : Text) : Prop := ∀ c ∈ text, isLayout c = true

instance (text : Text) : Decidable (IsLayout text) :=
  List.decidableBAll (fun c => isLayout c = true) text

def endsMember (c : Char) : Bool :=
  c == '\n' || c == ';'

theorem eq_of_endsMember {c : Char} (h : endsMember c = true) : c = '\n' ∨ c = ';' := by
  simpa only [endsMember, Bool.or_eq_true, beq_iff_eq] using h

/-! ### Marks and members -/

theorem membersOfMarks_eq_cons (marks : List Mark) :
    ∃ line lines, membersOfMarks marks = line :: lines := by
  induction marks with
  | nil => exact ⟨[], [], rfl⟩
  | cons mark marks ih =>
    cases mark with
    | memberEnd => exact ⟨[], _, rfl⟩
    | char c =>
      obtain ⟨line, lines, hlines⟩ := ih
      exact ⟨c :: line, lines, by rw [membersOfMarks, hlines, Text.consFirst]⟩

theorem membersOfMarks_chars_memberEnd (text : Text) (marks : List Mark) :
    membersOfMarks (text.map .char ++ .memberEnd :: marks) = text :: membersOfMarks marks := by
  induction text with
  | nil => rfl
  | cons c text ih => rw [List.map_cons, List.cons_append, membersOfMarks, ih, Text.consFirst]

def linesOfMarks (marks : List Mark) : List Text :=
  ((membersOfMarks marks).map collapse).filter fun line => !line.isEmpty

theorem memberLines_eq (body : Text) : memberLines body = linesOfMarks (marksFrom Place.start body) := rfl

theorem isCollapsed_of_mem_memberLines {body line : Text} (h : line ∈ memberLines body) : Text.IsCollapsed line := by
  obtain ⟨member, -, rfl⟩ := List.mem_map.1 (List.mem_of_mem_filter h)
  exact Text.isCollapsed_collapse member

theorem linesOfMarks_cons_space (marks : List Mark) :
    linesOfMarks (.char ' ' :: marks) = linesOfMarks marks := by
  obtain ⟨line, lines, hlines⟩ := membersOfMarks_eq_cons marks
  have hcollapse : collapse (' ' :: line) = collapse line := by
    rw [collapse, Text.words_cons_blank (by decide), collapse]
  rw [linesOfMarks, linesOfMarks, membersOfMarks, hlines, Text.consFirst, List.map_cons, List.map_cons,
    hcollapse]

theorem linesOfMarks_cons_memberEnd (marks : List Mark) :
    linesOfMarks (.memberEnd :: marks) = linesOfMarks marks := rfl

/-! ### Layout -/

theorem eq_of_isLayout {c : Char} (h : isLayout c = true) : c = ' ' ∨ c = '\t' ∨ c = '\n' ∨ c = '\r' := by
  simpa only [isLayout, isGap, isLineBreak, Bool.or_eq_true, beq_iff_eq, or_assoc] using h

theorem memberLines_layout_append {layout : Text} (h : IsLayout layout) (body : Text) :
    memberLines (layout ++ body) = memberLines body := by
  induction layout with
  | nil => rfl
  | cons c layout ih =>
    obtain ⟨hhead, htail⟩ := List.forall_mem_cons.1 h
    rw [← ih htail, List.cons_append, memberLines_eq, marksFrom]
    rcases eq_of_isLayout hhead with rfl | rfl | rfl | rfl
    · exact linesOfMarks_cons_space _
    · exact linesOfMarks_cons_space _
    · exact linesOfMarks_cons_memberEnd _
    · exact linesOfMarks_cons_space _

theorem memberLines_layout {layout : Text} (h : IsLayout layout) :
    memberLines layout = [] := by
  have hnil := memberLines_layout_append h []
  rwa [List.append_nil] at hnil

/-! ### A member -/

theorem words_map_spaced (text : Text) : words (text.map spaced) = words text := by
  have hblank : ∀ c, spaced c = ' ' ∧ isBlank c = true ∨ spaced c = c := by
    intro c
    rw [spaced]
    split
    next hc =>
      obtain (rfl | rfl) | rfl : (c = '\n' ∨ c = '\r') ∨ c = '\t' := by simpa using hc
      · exact .inl ⟨rfl, by decide⟩
      · exact .inl ⟨rfl, by decide⟩
      · exact .inl ⟨rfl, by decide⟩
    next => exact .inr rfl
  apply Text.words_map
  · intro c hc
    rcases hblank c with ⟨hspace, -⟩ | hsame
    · rw [hspace]
      decide
    · rwa [hsame]
  · intro c hc
    rcases hblank c with ⟨-, hwas⟩ | hsame
    · rw [hwas] at hc
      cases hc
    · exact hsame

/-- The line of what is written of a member, unless it is blank. -/
def lineOf (written : Text) : List Text :=
  [collapse written].filter fun line => !line.isEmpty

theorem lineOf_of_words {written content : Text} (h : words written = words content) :
    lineOf written = lineOf content := by
  rw [lineOf, collapse, h, lineOf, collapse]

theorem lineOf_eq_singleton {content : Text} (hne : words content ≠ []) : lineOf content = [collapse content] := by
  have hnotEmpty : (collapse content).isEmpty = false := by
    rw [List.isEmpty_eq_false_iff, Ne, Text.collapse_eq_nil_iff, ← Text.words_eq_nil_iff]
    exact hne
  rw [lineOf, List.filter_cons_of_pos (by simp [hnotEmpty]), List.filter_nil]

theorem linesOfMarks_chars_memberEnd (written : Text) (marks : List Mark) :
    linesOfMarks (written.map .char ++ .memberEnd :: marks) = lineOf written ++ linesOfMarks marks := by
  rw [linesOfMarks, membersOfMarks_chars_memberEnd, List.map_cons, ← List.singleton_append, List.filter_append]
  rfl

/-- The reader takes `ending` for the end of a member, and writes at most blanks before. -/
def EndsLine (ending : Text) : Prop :=
  ∃ blanks, IsBlanks blanks ∧ ∀ rest, marksFrom Place.start (ending ++ rest) =
    blanks.map .char ++ .memberEnd :: marksFrom Place.start rest

theorem LineEnd.endsLine (lineEnd : LineEnd) : EndsLine lineEnd.text := by
  cases lineEnd with
  | feed => exact ⟨[], by decide, fun _ => rfl⟩
  | returnFeed => exact ⟨[' '], by decide, fun _ => rfl⟩
  | semicolon => exact ⟨[], by decide, fun _ => rfl⟩

/-- A line comment is read through the line feed, whatever else is in it. -/
theorem endsLine_comment {comment : Text} (h : '\n' ∉ comment) :
    EndsLine (" //" ++ (comment ++ ['\n'])) := by
  have hcomment : ∀ rest, marksFrom ⟨.lineComment, 0⟩ (comment ++ '\n' :: rest) =
      .memberEnd :: marksFrom Place.start rest := by
    intro rest
    induction comment with
    | nil => rfl
    | cons c comment ih =>
      rw [List.mem_cons, not_or] at h
      have hfeed : (c == '\n') = false := beq_eq_false_iff_ne.2 fun heq => h.1 heq.symm
      have hmarks : Place.marks ⟨.lineComment, 0⟩ c = [] := by simp [Place.marks, hfeed]
      have hnext : Place.next ⟨.lineComment, 0⟩ c = ⟨.lineComment, 0⟩ := by simp [Place.next, hfeed]
      rw [List.cons_append, marksFrom, hmarks, hnext, ih h.2]
      rfl
  refine ⟨[' '], by decide, ?_⟩
  intro rest
  rw [List.append_assoc, List.append_assoc, List.singleton_append]
  exact congrArg (.char ' ' :: ·) (hcomment rest)

/-- A collapsed text has no line feed that might end a member. -/
theorem Bracketed.of_isCollapsed {limit : Nat} {barred : Char → Bool} {content : Text}
    (h : Bracketed limit barred [] content) (hsemicolon : barred ';' = true)
    (hcollapsed : Text.IsCollapsed content) : Bracketed limit endsMember [] content := by
  apply h.of_barred
  intro c hc hend
  obtain rfl | rfl := eq_of_endsMember hend
  · exact absurd (hcollapsed.eq_space hc (by decide)) (by decide)
  · exact hsemicolon

/-- A bracketed text and what ends a member are one line, or none if the text is blank. -/
theorem Bracketed.memberLines_append {limit : Nat} {content ending : Text}
    (h : Bracketed limit endsMember [] content) (hending : EndsLine ending) (rest : Text) :
    memberLines (content ++ (ending ++ rest)) = lineOf content ++ memberLines rest := by
  obtain ⟨blanks, hblanks, hmarks⟩ := hending
  have hcontent := h.marksFrom_append (by decide) (by decide) (ending ++ rest)
  have hwords : words (content.map spaced ++ blanks) = words content := by
    rw [Text.words_append_blanks _ hblanks, words_map_spaced]
  have hline := linesOfMarks_chars_memberEnd (content.map spaced ++ blanks) (marksFrom Place.start rest)
  rw [List.map_append, List.map_map, List.append_assoc, lineOf_of_words hwords] at hline
  rw [memberLines_eq, Place.start]
  rw [List.length_nil, hmarks] at hcontent
  rw [hcontent]
  exact hline

/-- The lines of a body are those of its members, in order. -/
theorem memberLines_flatMap {α : Type} {members : List α} {text content : α → Text}
    (h : ∀ member ∈ members, ∀ rest,
      memberLines (text member ++ rest) = lineOf (content member) ++ memberLines rest)
    {closing : Text} (hclosing : IsLayout closing) :
    memberLines (members.flatMap text ++ closing) = members.flatMap fun member => lineOf (content member) := by
  induction members with
  | nil => exact memberLines_layout hclosing
  | cons member members ih =>
    obtain ⟨hfirst, hothers⟩ := List.forall_mem_cons.1 h
    rw [List.flatMap_cons, List.append_assoc, hfirst, ih hothers, List.flatMap_cons]

end GoScaffold.Source
