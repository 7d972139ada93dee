import GoScaffold.Proofs.Source.MemberLines

/-!
# Declarations as they are written

A declaration with its layout: any spaces and tabs where Go asks for some, and where it
allows some.  Whatever bracketed text stands between its braces, the scan finds the
declaration with that body and goes on behind it, and the nesting limit leaves it alone.
-/

namespace GoScaffold.Source

open Catalog (ofSource ofDeclarations)

/-! ### Layout -/

structure Spacing where
  text : Text
  isSpacing : IsSpacing text

def Spacing.nothing : Spacing :=
  ⟨[], by decide⟩

def Spacing.blank : Spacing :=
  ⟨[' '], by decide⟩

structure Gap extends Spacing where
  ne_nil : text ≠ []

def Gap.blank : Gap :=
  ⟨.blank, by decide⟩

structure Layout where
  text : Text
  isLayout : IsLayout text

def Layout.nothing : Layout :=
  ⟨[], by decide⟩

def Layout.tab : Layout :=
  ⟨['\t'], by decide⟩

def Layout.feedTab : Layout :=
  ⟨['\n', '\t'], by decide⟩

theorem isLayout_of_isGap {c : Char} (h : isGap c = true) : isLayout c = true := by
  simp only [isLayout, h, Bool.true_or]

theorem isBrace_of_isLayout {c : Char} (h : isLayout c = true) : isBrace c = false := by
  rcases eq_of_isLayout h with rfl | rfl | rfl | rfl <;> rfl

theorem declarations_layout_append {layout : Text} (h : IsLayout layout) (rest : Text) :
    declarations (layout ++ rest) = declarations rest := by
  induction layout with
  | nil => rfl
  | cons c layout ih =>
    obtain ⟨hhead, htail⟩ := List.forall_mem_cons.1 h
    rw [← ih htail]
    have hc : startsToken c = false ∧ isWordChar c = false := by
      rcases eq_of_isLayout hhead with rfl | rfl | rfl | rfl <;> decide
    exact declarations_of_single hc.1 hc.2 _

/-! ### Bodies that the counter passes -/

/-- The counter goes through the text with one brace open, and finds the same count behind
it. -/
def IsPassed (text : Text) : Prop :=
  ∀ rest, closingBrace? 1 0 (text ++ rest) = (closingBrace? 1 0 rest).map (· + text.length)

theorem IsPassed.append {front rest : Text} (hfront : IsPassed front) (hrest : IsPassed rest) :
    IsPassed (front ++ rest) := by
  intro behind
  rw [List.append_assoc, hfront, hrest, Option.map_map, List.length_append]
  congr 1
  funext position
  simp only [Function.comp_apply]
  omega

theorem IsPassed.flatMap {α : Type} {listed : List α} {text : α → Text}
    (h : ∀ a ∈ listed, IsPassed (text a)) : IsPassed (listed.flatMap text) := by
  induction listed with
  | nil =>
    intro rest
    simp
  | cons a listed ih =>
    obtain ⟨hfirst, hothers⟩ := List.forall_mem_cons.1 h
    rw [List.flatMap_cons]
    exact hfirst.append (ih hothers)

theorem Bracketed.isPassed {limit : Nat} {barred : Char → Bool} {text : Text}
    (h : Bracketed limit barred [] text) : IsPassed text := by
  intro rest
  have hcount := h.closingBrace?_append (Nat.le_refl 1) rest
  rwa [List.count_nil, Nat.zero_add] at hcount

/-- A token that ends where it does whatever comes later is stepped over. -/
theorem IsPassed.of_token {lexeme behind : Text}
    (htoken : ∀ rest, token? (lexeme ++ (behind ++ rest)) = some lexeme) (hbehind : IsPassed behind) :
    IsPassed (lexeme ++ behind) := by
  intro rest
  have hlexeme := htoken rest
  cases lexeme with
  | nil => exact absurd rfl (token?_isFront hlexeme).2
  | cons c lexeme =>
    rw [List.cons_append] at hlexeme
    rw [List.append_assoc, List.cons_append, closingBrace?, hlexeme]
    dsimp only
    rw [List.length_cons, Nat.add_sub_cancel, closingBrace?_skip, List.drop_left, hbehind, Option.map_map,
      Option.map_map, List.length_append, List.length_cons]
    congr 1
    funext position
    simp only [Function.comp_apply]
    omega

/-- A text without braces in which no token starts, whatever follows it. -/
def IsOrdinary (text : Text) : Prop :=
  (∀ c ∈ text, isBrace c = false) ∧
    ∀ tail, tail <:+ text → tail ≠ [] → ∀ rest, token? (tail ++ rest) = none

theorem isOrdinary_of_startsToken {text : Text}
    (h : ∀ c ∈ text, isBrace c = false ∧ startsToken c = false) : IsOrdinary text := by
  refine ⟨fun c hc => (h c hc).1, ?_⟩
  intro tail htail hne rest
  cases tail with
  | nil => exact absurd rfl hne
  | cons c tail => exact token?_eq_none_of_start (h c (htail.subset List.mem_cons_self)).2 (tail ++ rest)

theorem isOrdinary_layout {layout : Text} (h : IsLayout layout) : IsOrdinary layout := by
  apply isOrdinary_of_startsToken
  intro c hc
  rcases eq_of_isLayout (h c hc) with rfl | rfl | rfl | rfl <;> decide

theorem IsOrdinary.isPassed {text : Text} (h : IsOrdinary text) : IsPassed text := by
  induction text with
  | nil =>
    intro rest
    simp
  | cons c text ih =>
    obtain ⟨hbraces, htokens⟩ := h
    obtain ⟨hbrace, hothers⟩ := List.forall_mem_cons.1 hbraces
    have htext : IsPassed text := by
      apply ih ⟨hothers, ?_⟩
      intro tail htail
      exact htokens tail (htail.trans (List.suffix_cons c text))
    intro rest
    have hnone := htokens (c :: text) List.suffix_rfl (List.cons_ne_nil c text) rest
    simp only [isBrace, Bool.or_eq_false_iff] at hbrace
    rw [List.cons_append] at hnone
    rw [List.cons_append, closingBrace?, hnone]
    simp only [hbrace.1, hbrace.2, Bool.false_eq_true, if_false]
    rw [htext, Option.map_map]
    rfl

/-! ### Frames -/

/-- All of a declaration that is written but its kind and its body. -/
structure Frame where
  indent : Spacing
  beforeName : Gap
  name : Text
  isAsciiIdentifier : isAsciiIdentifier name = true
  behindName : Gap
  beforeBrace : Spacing
  trailing : Spacing

namespace Frame

variable (frame : Frame) (kind : Kind)

def header : Text :=
  "type" ++ frame.beforeName.text ++ frame.name ++ frame.behindName.text ++ kind.word ++
    frame.beforeBrace.text ++ ['{']

/-- A declaration of that name with one blank between its words. -/
def printed (name : Text) (hname : Source.isAsciiIdentifier name = true) : Frame where
  indent := .nothing
  beforeName := .blank
  name := name
  isAsciiIdentifier := hname
  behindName := .blank
  beforeBrace := .blank
  trailing := .nothing

/-- The declaration with that body, and a line feed. -/
def around (body : Text) : Text :=
  frame.indent.text ++ frame.header kind ++ body ++ ['}'] ++ frame.trailing.text ++ ['\n']

theorem spelledBy_header : Header.SpelledBy ⟨frame.name, kind⟩ (frame.header kind) :=
  ⟨frame.isAsciiIdentifier, _, _, _, frame.beforeName.ne_nil, frame.beforeName.isSpacing,
    frame.behindName.ne_nil, frame.behindName.isSpacing, frame.beforeBrace.isSpacing, rfl⟩

theorem isLayout_indent : IsLayout frame.indent.text := by
  intro c hc
  exact isLayout_of_isGap (frame.indent.isSpacing c hc)

theorem isLayout_trailing : IsLayout (frame.trailing.text ++ ['\n']) := by
  intro c hc
  rcases List.mem_append.1 hc with hc | hc
  · exact isLayout_of_isGap (frame.trailing.isSpacing c hc)
  · rw [List.mem_singleton.1 hc]
    rfl

/-- The frame but for its braces, around a body in braces. -/
theorem exists_around_eq : ∃ words, (∀ c ∈ words, isBrace c = false) ∧ ∀ body,
    frame.around kind body = words ++ ('{' :: body ++ ['}']) ++ (frame.trailing.text ++ ['\n']) := by
  obtain ⟨words, hheader, hwords⟩ := (frame.spelledBy_header kind).eq_append
  refine ⟨frame.indent.text ++ words, ?_, ?_⟩
  · intro c hc
    rcases List.mem_append.1 hc with hc | hc
    · exact isBrace_of_isGap (frame.indent.isSpacing c hc)
    · exact hwords c hc
  · intro body
    rw [around, hheader]
    simp only [List.append_assoc, List.cons_append, List.nil_append]

theorem declaration?_append {body : Text} (hbody : IsPassed body) (rest : Text) :
    declaration? (frame.header kind ++ (body ++ '}' :: rest)) =
      some (⟨⟨frame.name, kind⟩, body⟩, (frame.header kind).length + body.length + 1) := by
  have hclosing : closingBrace? 1 0 ('}' :: rest) = some 0 := by
    rw [closingBrace?, token?_eq_none_of_start (by decide)]
    rfl
  have hcount : closingBrace? 1 0 (body ++ '}' :: rest) = some body.length := by
    rw [hbody, hclosing, Option.map_some, Nat.zero_add]
  exact declaration?_eq_some_iff_atFrontOf.2
    ⟨_, rest, frame.spelledBy_header kind, rfl, hcount, rfl⟩

/-- The scan finds a declaration in its frame and goes on behind it. -/
theorem declarations_around_append {body : Text} (hbody : IsPassed body) (rest : Text) :
    declarations (frame.around kind body ++ rest) = ⟨⟨frame.name, kind⟩, body⟩ :: declarations rest := by
  have hsplit : frame.around kind body ++ rest = frame.indent.text ++ (frame.header kind ++
      (body ++ '}' :: (frame.trailing.text ++ ['\n'] ++ rest))) := by
    simp only [around, List.append_assoc, List.cons_append, List.nil_append]
  have hdrop : (frame.header kind ++ (body ++ '}' :: (frame.trailing.text ++ ['\n'] ++ rest))).drop
      ((frame.header kind).length + body.length + 1) = frame.trailing.text ++ ['\n'] ++ rest := by
    rw [← List.drop_drop, ← List.drop_drop, List.drop_left, List.drop_left]
    rfl
  rw [hsplit, declarations_layout_append frame.isLayout_indent,
    declarations_of_declaration (frame.declaration?_append kind hbody _) hdrop,
    declarations_layout_append frame.isLayout_trailing]

end Frame

/-! ### Written declarations -/

/-- A written declaration.  Its body leaves one level of the nesting limit to the braces
around it. -/
structure Written extends Frame where
  kind : Kind
  body : Text
  isBracketed : Bracketed (nestingLimit - 1) (fun _ => false) [] body

namespace Written

variable (written : Written)

def text : Text :=
  written.around written.kind written.body

def declaration : Declaration :=
  ⟨⟨written.name, written.kind⟩, written.body⟩

/-- The scan finds a written declaration and goes on behind it. -/
theorem declarations_text_append (rest : Text) :
    declarations (written.text ++ rest) = written.declaration :: declarations rest :=
  written.declarations_around_append written.kind written.isBracketed.isPassed rest

/-- The nesting limit leaves a written declaration alone. -/
theorem keepsDepth_text : KeepsDepth nestingLimit 0 written.text := by
  obtain ⟨words, hwords, haround⟩ := written.exists_around_eq written.kind
  have hblock : KeepsDepth nestingLimit 0 ('{' :: written.body ++ ['}']) :=
    .block (by decide) (written.isBracketed.keepsDepth 1)
  have htrailing : KeepsDepth nestingLimit 0 (written.trailing.text ++ ['\n']) := by
    apply KeepsDepth.of_no_brace
    intro c hc
    exact isBrace_of_isLayout (written.isLayout_trailing c hc)
  rw [text, haround]
  exact ((KeepsDepth.of_no_brace _ _ hwords).append hblock).append htrailing

end Written

/-! ### Files -/

theorem declarations_written (listed : List Written) :
    declarations (listed.flatMap Written.text) = listed.map Written.declaration := by
  induction listed with
  | nil => rfl
  | cons written listed ih =>
    rw [List.flatMap_cons, written.declarations_text_append, ih, List.map_cons]

theorem keepsDepth_written (listed : List Written) :
    KeepsDepth nestingLimit 0 (listed.flatMap Written.text) :=
  .flatMap fun written _ => written.keepsDepth_text

/-- The catalog of written declarations is the catalog of what they declare. -/
theorem ofSource_written (listed : List Written) :
    ofSource (listed.flatMap Written.text) = ofDeclarations (listed.map Written.declaration) := by
  rw [ofSource_of_nestsWithin (keepsDepth_written listed).1, declarations_written]

end GoScaffold.Source
