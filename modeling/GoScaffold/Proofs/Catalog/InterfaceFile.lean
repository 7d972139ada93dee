import GoScaffold.Proofs.Catalog.Methods
import GoScaffold.Proofs.Catalog.StructFile

/-!
# Interface files read back

A file of interface declarations, written with any layout, has exactly the interfaces that
it declares, each with all methods of its last declaration.  Parameters and results may
be functions and have parentheses of their own, so the parentheses of a signature have to
be told from those in them and behind them.
-/

namespace GoScaffold

open Text (IsBlanks IsCollapsed words collapse)
open Source (Bracketed Layout LineEnd Spacing endsMember isPlain)

/-! ### Interface files -/

def isSemicolon (c : Char) : Bool :=
  c == ';'

/-- Parameters, results or the name of an embedded interface: blanks collapsed, brackets
properly nested, no quote, apostrophe, backtick or slash, and no semicolon outside brackets.
The text may be empty.  The braces of a declaration leave one level less than the nesting
limit. -/
structure MemberText where
  text : Text
  isCollapsed : IsCollapsed text
  isBracketed : Bracketed (Source.nestingLimit - 1) isSemicolon [] text

inductive InterfaceMember where
  | method (name : GoName) (params : MemberText) (gap : Spacing) (result : MemberText)
  | embedded (interface : MemberText) (noParenthesis : '(' ∉ interface.text)

/-- A member on its line.  Line breaks may stand in front of it too. -/
structure InterfaceLine where
  indent : Layout
  member : InterfaceMember
  trailing : Spacing
  lineEnd : LineEnd

structure InterfaceDeclaration extends Source.Frame where
  lines : List InterfaceLine
  closing : Layout

def InterfaceMember.text : InterfaceMember → Text
  | .method name params gap result =>
    name.text ++ ['('] ++ params.text ++ [')'] ++ gap.text ++ result.text
  | .embedded interface _ => interface.text

def InterfaceLine.text (line : InterfaceLine) : Text :=
  line.indent.text ++ line.member.text ++ line.trailing.text ++ line.lineEnd.text

def InterfaceDeclaration.body (declared : InterfaceDeclaration) : Text :=
  declared.lines.flatMap InterfaceLine.text ++ declared.closing.text

def InterfaceDeclaration.text (declared : InterfaceDeclaration) : Text :=
  declared.around .interface declared.body

/-! ### What an interface file declares -/

/-- The method that a member declares; an embedded interface declares none. -/
def InterfaceMember.method? : InterfaceMember → Option Method
  | .method name params _ result => some (Method.declared name.text params.text result.text)
  | .embedded _ _ => none

def InterfaceDeclaration.interface (declared : InterfaceDeclaration) : Interface :=
  ⟨declared.name, declared.lines.filterMap fun line => line.member.method?⟩

/-! ### Members -/

theorem isCollapsed_signature (name : GoName) (params result : MemberText) :
    IsCollapsed (Method.declared name.text params.text result.text).signature := by
  have hopening : IsCollapsed ['('] := by decide
  have hclosing : IsCollapsed [')'] := by decide
  exact (Text.isCollapsed_of_isWord (isWord_of_isIdentifier name.isIdentifier)).append
    (hopening.append (params.isCollapsed.append hclosing))

namespace InterfaceMember

variable (member : InterfaceMember)

theorem bracketed_endsMember : Bracketed (Source.nestingLimit - 1) endsMember [] member.text := by
  have hplain : ∀ c, isPlain c = true → endsMember c = false := fun c => endsMember_of_isPlain
  cases member with
  | method name params gap result =>
    have hresult := result.isBracketed.of_isCollapsed rfl result.isCollapsed
    have hmember := (name.bracketed hplain).append
      (params.isBracketed.parenthesized.append ((bracketed_spacing gap hplain).append hresult))
    simpa only [text, List.append_assoc, List.cons_append, List.nil_append] using hmember
  | embedded interface noParenthesis =>
    exact interface.isBracketed.of_isCollapsed rfl interface.isCollapsed

/-- The line of a member is read as what the member declares. -/
theorem ofLine?_collapse (trailing : Spacing) :
    Method.ofLine? (collapse (member.text ++ trailing.text)) = member.method? := by
  have hdrop : collapse (member.text ++ trailing.text) = collapse member.text := by
    rw [collapse, Text.words_append_blanks _ (isBlanks_of_isSpacing trailing.isSpacing), collapse]
  rw [hdrop]
  cases member with
  | method name params gap result =>
    have htext : (method name params gap result).text =
        (Method.declared name.text params.text result.text).signature ++ (gap.text ++ result.text) := by
      simp only [text, Method.declared, List.append_assoc, List.cons_append, List.nil_append]
    have hsignature := isCollapsed_signature name params result
    obtain ⟨separator, hseparator, hcollapse⟩ :=
      hsignature.collapse_append_blanks (isBlanks_of_isSpacing gap.isSpacing) result.isCollapsed
    rw [htext, hcollapse, Method.ofLine?_declared name.not_mem_parenthesis params.isBracketed.nested
      hsignature hseparator result.isCollapsed, method?]
  | embedded interface noParenthesis =>
    rw [text, interface.isCollapsed, Method.ofLine?_eq_none noParenthesis, method?]

end InterfaceMember

/-! ### Declarations read back -/

namespace InterfaceDeclaration

variable (declared : InterfaceDeclaration)

theorem bracketed_body : Bracketed (Source.nestingLimit - 1) (fun _ => false) [] declared.body := by
  refine (Bracketed.flatMap ?_).append (bracketed_layout declared.closing.isLayout)
  intro line _
  exact bracketed_line line.indent line.trailing line.lineEnd line.member.bracketed_endsMember

/-- The declaration without its members told apart. -/
def written : Source.Written :=
  ⟨declared.toFrame, .interface, declared.body, declared.bracketed_body⟩

theorem ofBody_body : Interface.ofBody declared.name declared.body = declared.interface := by
  have hlines : Source.memberLines declared.body =
      declared.lines.flatMap fun line => Source.lineOf (line.member.text ++ line.trailing.text) :=
    Source.memberLines_flatMap (fun line _ => memberLines_line_append line.indent line.trailing line.lineEnd
      line.member.bracketed_endsMember) declared.closing.isLayout
  have hmethods : (Source.memberLines declared.body).filterMap Method.ofLine? =
      declared.lines.filterMap fun line => line.member.method? := by
    rw [hlines, List.filterMap_flatMap]
    simp only [Method.filterMap_ofLine?_lineOf, InterfaceMember.ofLine?_collapse]
    exact (List.filterMap_eq_flatMap_toList _ _).symm
  rw [Interface.ofBody, hmethods, interface]

end InterfaceDeclaration

/-- A file of interface declarations has no struct and one interface for each name, in the
order of first appearance, with the methods of the last declaration of that name.  The name
and the parameters of a method are those that its member was written with. -/
theorem Catalog.ofSource_interfaceFile (listed : List InterfaceDeclaration) :
    Catalog.ofSource (listed.flatMap InterfaceDeclaration.text) =
        ⟨[], Keyed.lastOfEach Interface.name (listed.map InterfaceDeclaration.interface)⟩ ∧
      ∀ (name : GoName) (params result : MemberText),
        (Method.declared name.text params.text result.text).name = name.text ∧
          (Method.declared name.text params.text result.text).params = params.text := by
  constructor
  · have htext : listed.flatMap InterfaceDeclaration.text =
        (listed.map InterfaceDeclaration.written).flatMap Source.Written.text := by
      rw [List.flatMap_map]
      rfl
    have hstructs : ((listed.map InterfaceDeclaration.written).map Source.Written.declaration).filterMap
        Source.Declaration.struct? = [] := by
      rw [List.map_map, List.filterMap_map, List.filterMap_eq_nil_iff]
      intro declared _
      rfl
    have hinterfaces : ((listed.map InterfaceDeclaration.written).map Source.Written.declaration).filterMap
        Source.Declaration.interface? = listed.map InterfaceDeclaration.interface := by
      rw [List.map_map, List.filterMap_map, ← List.filterMap_eq_map]
      apply List.filterMap_congr
      intro declared _
      exact congrArg some declared.ofBody_body
    rw [htext, Source.ofSource_written, Catalog.ofDeclarations_eq, hstructs, hinterfaces,
      Keyed.putAll_eq_lastOfEach (listed.map InterfaceDeclaration.interface)]
    rfl
  · intro name params result
    have htrimmed := Text.isTrimmed_of_no_blank (isWord_of_isIdentifier name.isIdentifier).2
    rw [Method.name_declared _ _ name.not_mem_parenthesis, Text.trim_of_isTrimmed htrimmed,
      Method.params_declared _ _ name.not_mem_parenthesis]
    exact ⟨rfl, rfl⟩

/-- An interface that embeds one and has a method whose parameters and results are in
parentheses of their own. -/
def walkDeclaration : InterfaceDeclaration where
  toFrame := .printed ['S'] (by decide)
  lines :=
    [⟨.feedTab, .embedded ⟨"io.Closer", by decide, by decide⟩ (by decide), .nothing, .feed⟩,
      ⟨.tab, .method ⟨"Walk", by decide⟩ ⟨"f func(int) bool", by decide, by decide⟩ .blank
        ⟨"(n int)", by decide, by decide⟩, .nothing, .feed⟩]
  closing := .nothing

/-- The last `S` stands for both, and the embedded interface is no method. -/
theorem Catalog.ofSource_interfaceFile_walk :
    walkDeclaration.text = "type S interface \x7b\n\tio.Closer\n\tWalk(f func(int) bool) (n int)\n\x7d\n" ∧
      Catalog.ofSource (walkDeclaration.text ++ walkDeclaration.text) =
        ⟨[], [⟨['S'], [⟨"Walk(f func(int) bool)", "(n int)"⟩]⟩]⟩ ∧
      (Method.declared "Walk" "f func(int) bool" "(n int)").params = "f func(int) bool" := by
  refine ⟨by decide, ?_, ?_⟩
  · have hcatalog := (Catalog.ofSource_interfaceFile [walkDeclaration, walkDeclaration]).1
    rw [List.flatMap_cons, List.flatMap_singleton] at hcatalog
    rw [hcatalog]
    decide
  · exact ((Catalog.ofSource_interfaceFile []).2 ⟨"Walk", by decide⟩ ⟨"f func(int) bool", by decide, by decide⟩
      ⟨"(n int)", by decide, by decide⟩).2

end GoScaffold
