import GoScaffold.Proofs.Catalog.Contents
import GoScaffold.Proofs.Catalog.FieldLines
import GoScaffold.Proofs.Source.Nested
import GoScaffold.Proofs.Source.Written

/-!
# Struct files read back

A file of struct declarations, written with any layout, has exactly the structs that it
declares, each with the private fields of its last declaration.  Types may hold any
brackets, so commas, semicolons and braces inside a type have to be told from those
that separate names, end members and close the struct.
-/

namespace GoScaffold

open Text (IsWord IsCollapsed words collapse splitOutside)
open Source (Spacing Gap Layout LineEnd Bracketed isPlain endsMember)

/-! ### Struct files -/

structure GoName where
  text : Text
  isIdentifier : isIdentifier text = true

def separates (c : Char) : Bool :=
  c == ',' || c == ';'

/-- A type: not empty, blanks collapsed, brackets properly nested, no quote, apostrophe,
backtick or slash, and no comma or semicolon outside brackets.  The braces of a
declaration leave one level less than the nesting limit. -/
structure TypeText where
  text : Text
  ne_nil : text ≠ []
  isCollapsed : IsCollapsed text
  isBracketed : Bracketed (Source.nestingLimit - 1) separates [] text

/-- A name that another one follows behind a comma. -/
structure EarlierName where
  name : GoName
  beforeComma : Spacing
  afterComma : Spacing

inductive StructMember where
  | named (earlier : List EarlierName) (last : GoName) (gap : Gap) (type : TypeText)
  | embedded (type : TypeText) (noBlank : ∀ c ∈ type.text, Unicode.isBlank c = false)

/-- A member on its line.  Line breaks may stand in front of it too. -/
structure MemberLine where
  indent : Layout
  member : StructMember
  trailing : Spacing
  lineEnd : LineEnd

structure StructDeclaration extends Source.Frame where
  members : List MemberLine
  closing : Layout

def EarlierName.text (earlier : EarlierName) : Text :=
  earlier.name.text ++ earlier.beforeComma.text ++ [','] ++ earlier.afterComma.text

def StructMember.text : StructMember → Text
  | .named earlier last gap type => earlier.flatMap EarlierName.text ++ last.text ++ gap.text ++ type.text
  | .embedded type _ => type.text

def MemberLine.text (line : MemberLine) : Text :=
  line.indent.text ++ line.member.text ++ line.trailing.text ++ line.lineEnd.text

def StructDeclaration.body (declared : StructDeclaration) : Text :=
  declared.members.flatMap MemberLine.text ++ declared.closing.text

def StructDeclaration.text (declared : StructDeclaration) : Text :=
  declared.around .struct declared.body

/-! ### What a struct file declares -/

/-- The fields that a member declares: one for each name, and none for an embedded type. -/
def StructMember.fields : StructMember → List Field
  | .named earlier last _ type => Field.sharing (earlier.map (·.name.text) ++ [last.text]) type.text
  | .embedded _ _ => []

/-- Is the first character of the name a letter that is not uppercase? -/
def Field.isUnexported (field : Field) : Bool :=
  match field.name with
  | [] => false
  | c :: _ => Unicode.isAlphabetic c && !Unicode.isUppercase c

/-- The struct of a declaration: each private name once, with the type of the last member
that declares it. -/
def StructDeclaration.struct (declared : StructDeclaration) : Struct :=
  ⟨declared.name, Keyed.lastOfEach Field.name
    ((declared.members.flatMap fun line => line.member.fields).filter Field.isUnexported)⟩

/-! ### Members are bracketed -/

theorem isPlain_of_isIdentifierPart {c : Char} (h : isIdentifierPart c = true) : isPlain c = true := by
  have hspecial : ['(', '[', '{', ')', ']', '}', '/', '\x60', '"', '\'', ',', ';', '\n'].any
      isIdentifierPart = false := rfl
  by_contra hnot
  have hmem : c ∈ ['(', '[', '{', ')', ']', '}', '/', '\x60', '"', '\'', ',', ';', '\n'] := by
    simp only [isPlain, isOpening, isClosing, Source.startsToken, Bool.and_eq_true, Bool.not_eq_true',
      Bool.or_eq_false_iff, bne_iff_ne, beq_eq_false_iff_ne] at hnot
    simp only [List.mem_cons, List.not_mem_nil, or_false]
    grind
  exact List.any_eq_false.1 hspecial c hmem h

theorem GoName.not_mem_parenthesis (name : GoName) : '(' ∉ name.text := by
  intro hmem
  have hplain := isPlain_of_isIdentifierPart ((isIdentifierPart_of_mem name.isIdentifier).2 '(' hmem)
  cases hplain

theorem isPlain_of_isGap {c : Char} (h : Source.isGap c = true) : isPlain c = true := by
  rcases Source.eq_of_isGap h with rfl | rfl <;> rfl

section

variable {limit : Nat} {barred : Char → Bool}

theorem GoName.bracketed (name : GoName) (hbarred : ∀ c, isPlain c = true → barred c = false) :
    Bracketed limit barred [] name.text := by
  apply Bracketed.of_plain _ hbarred
  intro c hc
  exact isPlain_of_isIdentifierPart ((isIdentifierPart_of_mem name.isIdentifier).2 c hc)

theorem bracketed_spacing (spacing : Spacing) (hbarred : ∀ c, isPlain c = true → barred c = false) :
    Bracketed limit barred [] spacing.text := by
  apply Bracketed.of_plain _ hbarred
  intro c hc
  exact isPlain_of_isGap (spacing.isSpacing c hc)

end

theorem separates_of_isPlain {c : Char} (h : isPlain c = true) : separates c = false := by
  simp only [isPlain, Bool.and_eq_true, bne_iff_ne] at h
  simp [separates, h.1.1.2, h.1.2]

theorem endsMember_of_isPlain {c : Char} (h : isPlain c = true) : endsMember c = false := by
  simp only [isPlain, Bool.and_eq_true, bne_iff_ne] at h
  simp [endsMember, h.2, h.1.2]

theorem TypeText.bracketed_endsMember (type : TypeText) :
    Bracketed (Source.nestingLimit - 1) endsMember [] type.text :=
  type.isBracketed.of_isCollapsed rfl type.isCollapsed

theorem StructMember.bracketed_endsMember (member : StructMember) :
    Bracketed (Source.nestingLimit - 1) endsMember [] member.text := by
  have hplain : ∀ c, isPlain c = true → endsMember c = false := fun c => endsMember_of_isPlain
  cases member with
  | named earlier last gap type =>
    have hearlier : Bracketed (Source.nestingLimit - 1) endsMember [] (earlier.flatMap EarlierName.text) := by
      induction earlier with
      | nil => exact .nil
      | cons first earlier ih =>
        have hcomma : Bracketed (Source.nestingLimit - 1) endsMember [] [','] :=
          .plain rfl rfl rfl (fun _ => rfl) .nil
        exact ((((first.name.bracketed hplain).append (bracketed_spacing first.beforeComma hplain)).append
          hcomma).append (bracketed_spacing first.afterComma hplain)).append ih
    exact ((hearlier.append (last.bracketed hplain)).append (bracketed_spacing gap.toSpacing hplain)).append
      type.bracketed_endsMember
  | embedded type noBlank => exact type.bracketed_endsMember

/-! ### Members read back -/

/-- The words between the commas of a member, with any spaces in front and behind.  The
induction is on the names that a comma follows: each takes the spaces behind the comma
before it into its piece. -/
theorem words_splitOutside_named (earlier : List EarlierName) (last : GoName) (gap : Gap) (type : TypeText)
    (trailing : Spacing) {front : Text} (hfront : Source.IsSpacing front) :
    (splitOutside ',' (front ++ ((StructMember.named earlier last gap type).text ++ trailing.text))).map words =
      (earlier.map (·.name.text)).map (fun name => [name]) ++ [last.text :: words type.text] := by
  have hplain : ∀ c, isPlain c = true → separates c = false := fun c => separates_of_isPlain
  have hfrontBracketed : Bracketed (Source.nestingLimit - 1) separates [] front :=
    bracketed_spacing ⟨front, hfront⟩ hplain
  induction earlier generalizing front with
  | nil =>
    have hbracketed : Bracketed (Source.nestingLimit - 1) separates []
        (front ++ (last.text ++ (gap.text ++ (type.text ++ trailing.text)))) :=
      hfrontBracketed.append ((last.bracketed hplain).append
        ((bracketed_spacing gap.toSpacing hplain).append
          (type.isBracketed.append (bracketed_spacing trailing hplain))))
    have htext : (StructMember.named [] last gap type).text ++ trailing.text =
        last.text ++ (gap.text ++ (type.text ++ trailing.text)) := by
      simp only [StructMember.text, List.flatMap_nil, List.nil_append, List.append_assoc]
    rw [htext, hbracketed.nested.splitOutside_eq_singleton rfl, List.map_singleton,
      Text.words_blanks_append (isBlanks_of_isSpacing hfront),
      Text.words_word_append (isWord_of_isIdentifier last.isIdentifier) gap.ne_nil
        (isBlanks_of_isSpacing gap.isSpacing),
      Text.words_append_blanks _ (isBlanks_of_isSpacing trailing.isSpacing)]
    rfl
  | cons first earlier ih =>
    have hbracketed : Bracketed (Source.nestingLimit - 1) separates []
        (front ++ (first.name.text ++ first.beforeComma.text)) :=
      hfrontBracketed.append ((first.name.bracketed hplain).append
        (bracketed_spacing first.beforeComma hplain))
    have htext : front ++ ((StructMember.named (first :: earlier) last gap type).text ++ trailing.text) =
        (front ++ (first.name.text ++ first.beforeComma.text)) ++ ',' :: (first.afterComma.text ++
          ((StructMember.named earlier last gap type).text ++ trailing.text)) := by
      simp only [StructMember.text, EarlierName.text, List.flatMap_cons, List.append_assoc,
        List.cons_append, List.nil_append]
    rw [htext, hbracketed.nested.splitOutside_append_separator rfl rfl rfl, List.map_cons,
      ih first.afterComma.isSpacing (bracketed_spacing first.afterComma hplain),
      Text.words_blanks_append (isBlanks_of_isSpacing hfront),
      Text.words_append_blanks _ (isBlanks_of_isSpacing first.beforeComma.isSpacing),
      Text.words_of_isWord (isWord_of_isIdentifier first.name.isIdentifier)]
    rfl

theorem StructMember.words_ne_nil (member : StructMember) (trailing : Spacing) :
    words (member.text ++ trailing.text) ≠ [] := by
  obtain ⟨front, type, htext⟩ : ∃ front, ∃ type : TypeText, member.text = front ++ type.text := by
    cases member with
    | named earlier last gap type => exact ⟨_, type, rfl⟩
    | embedded type noBlank => exact ⟨[], type, rfl⟩
  intro hnil
  rw [Text.words_eq_nil_iff, htext] at hnil
  apply (type.isCollapsed.join_words type.ne_nil).1
  rw [Text.words_eq_nil_iff]
  intro c hc
  exact hnil c (List.mem_append_left _ (List.mem_append_right _ hc))

theorem Field.ofLine_member (member : StructMember) (trailing : Spacing) :
    Field.ofLine (collapse (member.text ++ trailing.text)) = member.fields := by
  cases member with
  | named earlier last gap type =>
    have hnone : Source.IsSpacing [] := by decide
    have hpieces := words_splitOutside_named earlier last gap type trailing hnone
    rw [List.nil_append] at hpieces
    have hnames : ∀ name ∈ earlier.map (·.name.text) ++ [last.text], isIdentifier name = true := by
      intro name hname
      rcases List.mem_append.1 hname with hname | hname
      · obtain ⟨first, -, rfl⟩ := List.mem_map.1 hname
        exact first.name.isIdentifier
      · rw [List.mem_singleton.1 hname]
        exact last.isIdentifier
    obtain ⟨hwords, hjoin⟩ := type.isCollapsed.join_words type.ne_nil
    rw [Field.ofLine_of_words hpieces hwords hnames, hjoin, StructMember.fields]
  | embedded type noBlank =>
    refine Field.ofLine_of_word (type.isBracketed.nested.splitOutside_eq_singleton rfl) ?_
    rw [StructMember.text, Text.words_append_blanks _ (isBlanks_of_isSpacing trailing.isSpacing),
      Text.words_of_isWord ⟨type.ne_nil, noBlank⟩]

/-! ### Declarations read back -/

theorem bracketed_layout {limit : Nat} {layout : Text} (h : Source.IsLayout layout) :
    Bracketed limit (fun _ => false) [] layout := by
  induction layout with
  | nil => exact .nil
  | cons c layout ih =>
    obtain ⟨hhead, htail⟩ := List.forall_mem_cons.1 h
    have hc : isOpening c = false ∧ isClosing c = false ∧ Source.startsToken c = false := by
      rcases Source.eq_of_isLayout hhead with rfl | rfl | rfl | rfl <;> decide
    exact .plain hc.1 hc.2.1 hc.2.2 (fun _ => rfl) (ih htail)

theorem bracketed_lineEnd {limit : Nat} (lineEnd : LineEnd) :
    Bracketed limit (fun _ => false) [] lineEnd.text := by
  cases lineEnd with
  | feed => exact .plain rfl rfl rfl (fun _ => rfl) .nil
  | returnFeed => exact .plain rfl rfl rfl (fun _ => rfl) (.plain rfl rfl rfl (fun _ => rfl) .nil)
  | semicolon => exact .plain rfl rfl rfl (fun _ => rfl) .nil

section

variable {content : Text} (indent : Layout) (trailing : Spacing) (lineEnd : LineEnd)

/-- A member with the layout of its line. -/
theorem bracketed_line (h : Bracketed (Source.nestingLimit - 1) endsMember [] content) :
    Bracketed (Source.nestingLimit - 1) (fun _ => false) []
      (indent.text ++ content ++ trailing.text ++ lineEnd.text) := by
  have hcontent : Bracketed (Source.nestingLimit - 1) (fun _ => false) [] content :=
    h.of_barred fun _ _ hfalse => absurd hfalse Bool.false_ne_true
  exact (((bracketed_layout indent.isLayout).append hcontent).append
    (bracketed_spacing trailing fun _ _ => rfl)).append (bracketed_lineEnd lineEnd)

theorem memberLines_line_append (h : Bracketed (Source.nestingLimit - 1) endsMember [] content) (rest : Text) :
    Source.memberLines (indent.text ++ content ++ trailing.text ++ lineEnd.text ++ rest) =
      Source.lineOf (content ++ trailing.text) ++ Source.memberLines rest := by
  have htrailing : Bracketed (Source.nestingLimit - 1) endsMember [] trailing.text :=
    bracketed_spacing trailing fun c => endsMember_of_isPlain
  have htext : indent.text ++ content ++ trailing.text ++ lineEnd.text ++ rest =
      indent.text ++ ((content ++ trailing.text) ++ (lineEnd.text ++ rest)) := by
    simp only [List.append_assoc]
  rw [htext, Source.memberLines_layout_append indent.isLayout,
    (h.append htrailing).memberLines_append lineEnd.endsLine]

end

theorem StructDeclaration.bracketed_body (declared : StructDeclaration) :
    Bracketed (Source.nestingLimit - 1) (fun _ => false) [] declared.body := by
  refine (Bracketed.flatMap ?_).append (bracketed_layout declared.closing.isLayout)
  intro line _
  exact bracketed_line line.indent line.trailing line.lineEnd line.member.bracketed_endsMember

theorem StructDeclaration.fields_body (declared : StructDeclaration) :
    (Source.memberLines declared.body).flatMap Field.ofLine =
      declared.members.flatMap fun line => line.member.fields := by
  have hlines : Source.memberLines declared.body =
      declared.members.flatMap fun line => Source.lineOf (line.member.text ++ line.trailing.text) :=
    Source.memberLines_flatMap (fun line _ => memberLines_line_append line.indent line.trailing line.lineEnd
      line.member.bracketed_endsMember) declared.closing.isLayout
  rw [hlines, List.flatMap_assoc]
  apply List.flatMap_congr
  intro line _
  rw [Source.lineOf_eq_singleton (line.member.words_ne_nil line.trailing), List.flatMap_singleton,
    Field.ofLine_member]

/-- The declaration without its members told apart. -/
def StructDeclaration.written (declared : StructDeclaration) : Source.Written :=
  ⟨declared.toFrame, .struct, declared.body, declared.bracketed_body⟩

theorem isPrivate_of_isIdentifier {name : Text} (h : isIdentifier name = true) (type : Text) :
    isPrivate name = (Field.mk name type).isUnexported := by
  have htrimmed := Text.isTrimmed_of_no_blank (isWord_of_isIdentifier h).2
  rw [isPrivate, Text.trim_of_isTrimmed htrimmed]
  rfl

theorem StructMember.isIdentifier_of_mem_fields {member : StructMember} {field : Field}
    (h : field ∈ member.fields) : isIdentifier field.name = true := by
  cases member with
  | named earlier last gap type =>
    obtain ⟨name, hname, rfl⟩ := List.mem_map.1 h
    rcases List.mem_append.1 hname with hname | hname
    · obtain ⟨first, -, rfl⟩ := List.mem_map.1 hname
      exact first.name.isIdentifier
    · rw [List.mem_singleton.1 hname]
      exact last.isIdentifier
  | embedded type noBlank => cases h

theorem StructDeclaration.ofBody_body (declared : StructDeclaration) :
    Struct.ofBody declared.name declared.body = declared.struct := by
  have hprivate : Field.privateOfBody declared.body =
      (declared.members.flatMap fun line => line.member.fields).filter Field.isUnexported := by
    rw [Field.privateOfBody, declared.fields_body]
    apply List.filter_congr
    intro field hfield
    obtain ⟨line, -, hmem⟩ := List.mem_flatMap.1 hfield
    exact isPrivate_of_isIdentifier (StructMember.isIdentifier_of_mem_fields hmem) field.type
  rw [StructDeclaration.struct, ← hprivate, ← Keyed.putAll_eq_lastOfEach]
  rfl

/-- A file of struct declarations has no interface and one struct for each name, in the
order of first appearance, from the last declaration of that name. -/
theorem Catalog.ofSource_structFile (listed : List StructDeclaration) :
    Catalog.ofSource (listed.flatMap StructDeclaration.text) =
      ⟨Keyed.lastOfEach Struct.name (listed.map StructDeclaration.struct), []⟩ := by
  have htext : listed.flatMap StructDeclaration.text =
      (listed.map StructDeclaration.written).flatMap Source.Written.text := by
    rw [List.flatMap_map]
    rfl
  have hstructs : ((listed.map StructDeclaration.written).map Source.Written.declaration).filterMap
      Source.Declaration.struct? = listed.map StructDeclaration.struct := by
    rw [List.map_map, List.filterMap_map, ← List.filterMap_eq_map]
    apply List.filterMap_congr
    intro declared _
    exact congrArg some declared.ofBody_body
  have hinterfaces : ((listed.map StructDeclaration.written).map Source.Written.declaration).filterMap
      Source.Declaration.interface? = [] := by
    rw [List.map_map, List.filterMap_map, List.filterMap_eq_nil_iff]
    intro declared _
    rfl
  rw [htext, Source.ofSource_written, Catalog.ofDeclarations_eq, hstructs, hinterfaces,
    Keyed.putAll_eq_lastOfEach]
  rfl

example :
    Catalog.ofSource "type T struct \x7b\n\tb, C func(x, y int); io.Reader\n\td int\n\tb []T\n\x7d\n" =
      ⟨[⟨['T'], [⟨['b'], "[]T"⟩, ⟨['d'], "int"⟩]⟩], []⟩ := by
  decide +kernel

end GoScaffold
