import GoScaffold.Code.Printer
import GoScaffold.Proofs.Catalog.StructFile
import GoScaffold.Proofs.Identifier.Casing
import GoScaffold.Proofs.Source.Headerless
import GoScaffold.Scaffold.Struct

/-!
# Builders read back

The builder of a struct is a struct declaration and some functions.  The reader finds the
declaration with all its fields, and nothing in the functions: they spell no header, and
their braces nest within the limit.
-/

namespace GoScaffold

open Source (Bracketed Clears KeepsDepth isBrace isGap nestingLimit)

/-! ### Fields that are read back -/

/-- A private field with a type that is not empty, has its blanks collapsed and its brackets
properly nested, no quote, apostrophe, backtick or slash, and no comma or semicolon outside
brackets.  Neither the name nor the type contains `type`. -/
structure Field.IsReadable (limit : Nat) (field : Field) : Prop where
  isIdentifier : isIdentifier field.name = true
  isUnexported : field.isUnexported = true
  ne_nil : field.type ≠ []
  isCollapsed : Text.IsCollapsed field.type
  isBracketed : Bracketed limit separates [] field.type
  not_infix_name : ¬ ("type" : Text) <:+: field.name
  not_infix_type : ¬ ("type" : Text) <:+: field.type

theorem Field.IsReadable.isUnbroken_capitalize {limit : Nat} {field : Field} (h : field.IsReadable limit) :
    IsUnbroken (capitalize field.name) := by
  apply GoScaffold.isUnbroken_capitalize h.isIdentifier
  intro c hc
  obtain ⟨rest, hname⟩ := List.head?_eq_some_iff.1 hc
  have hletter : (Unicode.isAlphabetic c && !Unicode.isUppercase c) = true := by
    simpa only [Field.isUnexported, hname] using h.isUnexported
  rw [Bool.and_eq_true] at hletter
  exact hletter.1

theorem IsUnbroken.filter_isBrace {word : Text} (h : IsUnbroken word) : word.filter isBrace = [] := by
  rw [List.filter_eq_nil_iff]
  intro c hc
  simp [(h c hc).2]

theorem IsUnbroken.clears_append {word rest : Text} (h : IsUnbroken word) (hrest : Clears rest) :
    Clears (word ++ rest) :=
  .word_append (fun c hc => (h c hc).1) hrest

namespace Struct

variable (struct : Struct)

/-! ### The functions -/

def builderFuncs : List Code.Func :=
  struct.newBuilder :: (struct.fields.map struct.builderStep ++ [struct.build])

theorem builder_eq_cons :
    struct.builder = .struct struct.builderName struct.params :: struct.builderFuncs.map .func := by
  simp [builder, builderFuncs]

theorem funcs_builder : Fragment.funcs struct.builder = struct.builderFuncs := by
  rw [builder_eq_cons, Fragment.funcs, List.filterMap_cons_none rfl, List.filterMap_map]
  exact List.filterMap_some

theorem text_builder :
    Fragment.text struct.builder = Code.structText struct.builderName struct.params ++
      struct.builderFuncs.flatMap fun func => '\n' :: func.text := by
  rw [Fragment.text, builder_eq_cons, List.map_cons, Text.join_cons, List.map_map, List.flatMap_map]
  rfl

theorem text_newBuilder :
    struct.newBuilder.text =
      "\nfunc New" ++ struct.builderName ++ "() *" ++ struct.builderName ++ " \x7b\n\treturn &" ++
        struct.builderName ++ "\x7b\x7d\n\x7d" := by
  unfold Code.Func.text Code.Func.head
  simp [newBuilder, Code.paramsText, Code.pointerTo, Code.Stmt.text, Code.Expr.text, Text.join]

theorem text_builderStep (field : Field) :
    (struct.builderStep field).text =
      "\nfunc (" ++ struct.builderReceiver.name ++ " *" ++ struct.builderName ++ ") " ++
        capitalize field.name ++ ['('] ++ field.name ++ [' '] ++ field.type ++ ") *" ++
        struct.builderName ++ " \x7b\n\t" ++ struct.builderReceiver.name ++ ['.'] ++ field.name ++ " = " ++
        field.name ++ "\n\treturn " ++ struct.builderReceiver.name ++ "\n\x7d" := by
  unfold Code.Func.text Code.Func.head
  simp [builderStep, builderReceiver, Code.paramsText, Code.pointerTo, Code.Stmt.text, Code.Expr.text,
    Text.join, Param.declaration, Field.toParam]

theorem text_build :
    struct.build.text =
      "\nfunc (" ++ struct.builderReceiver.name ++ " *" ++ struct.builderName ++ ") Build() *" ++
        struct.name ++ " \x7b\n\treturn &" ++ struct.name ++ "\x7b\n" ++
        struct.fieldNames.flatMap (Code.fieldLine ['\t'] struct.builderReceiver.name) ++ "\t\x7d\n\x7d" := by
  unfold Code.Func.text Code.Func.head
  simp [build, builderReceiver, Code.paramsText, Code.pointerTo, Code.Stmt.text, Code.Expr.text,
    Text.join, Param.declaration]

section

variable {struct} {limit : Nat}

theorem isAsciiIdentifier_builderName (h : Source.isAsciiIdentifier struct.name = true) :
    Source.isAsciiIdentifier struct.builderName = true := by
  rw [builderName]
  cases hname : struct.name with
  | nil =>
    rw [hname] at h
    cases h
  | cons c rest =>
    rw [hname, Source.isAsciiIdentifier, Bool.and_eq_true, List.all_eq_true] at h
    have hbuilder : ∀ d ∈ ("Builder" : Text), Source.isWordChar d = true := by decide
    rw [List.cons_append, Source.isAsciiIdentifier, h.1, Bool.true_and, List.all_eq_true]
    intro d hd
    rcases List.mem_append.1 hd with hd | hd
    · exact h.2 d hd
    · exact hbuilder d hd

theorem isUnbroken_builderReceiver (h : Source.isAsciiIdentifier struct.name = true) :
    IsUnbroken struct.builderReceiver.name := by
  exact isUnbroken_of_isIdentifier (isIdentifier_receiver (isAsciiIdentifier_builderName h) struct.fieldNames)

/-- No function of a builder spells a header. -/
theorem clears_of_mem_builderFuncs (hname : Source.isAsciiIdentifier struct.name = true)
    (hfields : ∀ field ∈ struct.fields, field.IsReadable limit) {func : Code.Func}
    (h : func ∈ struct.builderFuncs) : Clears func.text := by
  have htype := isUnbroken_of_isAsciiIdentifier hname
  have hbuilder := isUnbroken_of_isAsciiIdentifier (isAsciiIdentifier_builderName hname)
  have hobject := isUnbroken_builderReceiver hname
  simp only [builderFuncs, List.mem_cons, List.mem_append, List.mem_map, List.not_mem_nil, or_false] at h
  rcases h with rfl | ⟨field, hfield, rfl⟩ | rfl
  · rw [text_newBuilder]
    simp only [List.append_assoc]
    exact .append (by decide) (hbuilder.clears_append (.append (by decide) (hbuilder.clears_append
      (.append (by decide) (hbuilder.clears_append (by decide))))))
  · have hreadable := hfields field hfield
    have hfieldName := isUnbroken_of_isIdentifier hreadable.isIdentifier
    have hbody : Clears (" \x7b\n\t" ++ (struct.builderReceiver.name ++ (['.'] ++ (field.name ++
        (" = " ++ (field.name ++ ("\n\treturn " ++ (struct.builderReceiver.name ++ "\n\x7d")))))))) :=
      .append (by decide) (hobject.clears_append (.append (by decide) (hfieldName.clears_append
        (.append (by decide) (hfieldName.clears_append (.append (by decide)
          (hobject.clears_append (by decide))))))))
    rw [text_builderStep]
    simp only [List.append_assoc]
    exact .append (by decide) (hobject.clears_append (.append (by decide) (hbuilder.clears_append
      (.append (by decide) (hreadable.isUnbroken_capitalize.clears_append
        (.append_spaced (by decide) hreadable.not_infix_name hreadable.not_infix_type
          (.append (by decide) (hbuilder.clears_append hbody))))))))
  · have hlines : ∀ names : List Text, (∀ name ∈ names, IsUnbroken name) → ∀ rest, Clears ('\n' :: rest) →
        Clears ('\n' :: (names.flatMap (Code.fieldLine ['\t'] struct.builderReceiver.name) ++ rest)) := by
      intro names hnames rest hrest
      induction names with
      | nil => exact hrest
      | cons name names ih =>
        obtain ⟨hfirst, hothers⟩ := List.forall_mem_cons.1 hnames
        have hline : '\n' :: ((name :: names).flatMap (Code.fieldLine ['\t'] struct.builderReceiver.name) ++
            rest) = "\n\t\t" ++ (name ++ (": " ++ (struct.builderReceiver.name ++ (['.'] ++ (name ++ ([','] ++
              ('\n' :: (names.flatMap (Code.fieldLine ['\t'] struct.builderReceiver.name) ++ rest)))))))) := by
          simp [Code.fieldLine]
        rw [hline]
        exact .append (by decide) (hfirst.clears_append (.append (by decide) (hobject.clears_append
          (.append (by decide) (hfirst.clears_append (.append (by decide) (ih hothers)))))))
    have hnames : ∀ name ∈ struct.fieldNames, IsUnbroken name := by
      intro name hmem
      obtain ⟨field, hfield, rfl⟩ := List.mem_map.1 hmem
      exact isUnbroken_of_isIdentifier (hfields field hfield).isIdentifier
    have hbrace : Clears ['{'] := by decide
    have hvalue : Clears ("\x7b\n" ++ (struct.fieldNames.flatMap
        (Code.fieldLine ['\t'] struct.builderReceiver.name) ++ "\t\x7d\n\x7d")) :=
      hbrace.append (hlines _ hnames _ (by decide))
    rw [text_build]
    simp only [List.append_assoc]
    exact .append (by decide) (hobject.clears_append (.append (by decide) (hbuilder.clears_append
      (.append (by decide) (htype.clears_append (.append (by decide) (htype.clears_append hvalue)))))))

/-- The braces of the functions nest within the limit. -/
theorem keepsDepth_of_mem_builderFuncs (hlimit : limit < nestingLimit)
    (hname : Source.isAsciiIdentifier struct.name = true)
    (hfields : ∀ field ∈ struct.fields, field.IsReadable limit) {func : Code.Func}
    (h : func ∈ struct.builderFuncs) : KeepsDepth nestingLimit 0 func.text := by
  have htype := (isUnbroken_of_isAsciiIdentifier hname).filter_isBrace
  have hbuilder := (isUnbroken_of_isAsciiIdentifier (isAsciiIdentifier_builderName hname)).filter_isBrace
  have hobject := (isUnbroken_builderReceiver hname).filter_isBrace
  rw [← Source.keepsDepth_filter_iff]
  simp only [builderFuncs, List.mem_cons, List.mem_append, List.mem_map, List.not_mem_nil, or_false] at h
  rcases h with rfl | ⟨field, hfield, rfl⟩ | rfl
  · have hbraces : struct.newBuilder.text.filter isBrace = ['{', '{', '}', '}'] := by
      rw [text_newBuilder]
      simp only [List.filter_append, hbuilder]
      rfl
    rw [hbraces]
    exact ⟨by decide, by decide⟩
  · have hreadable := hfields field hfield
    have hfieldName := (isUnbroken_of_isIdentifier hreadable.isIdentifier).filter_isBrace
    have hmethod := hreadable.isUnbroken_capitalize.filter_isBrace
    have hbraces : (struct.builderStep field).text.filter isBrace =
        (field.type ++ ['{', '}']).filter isBrace := by
      rw [text_builderStep]
      simp only [List.filter_append, hbuilder, hobject, hfieldName, hmethod, List.append_assoc]
      rfl
    have hfieldType := (hreadable.isBracketed.mono (Nat.le_of_lt hlimit)).keepsDepth 0
    rw [hbraces, Source.keepsDepth_filter_iff]
    exact hfieldType.append ⟨by decide, by decide⟩
  · have hlines : (struct.fieldNames.flatMap (Code.fieldLine ['\t'] struct.builderReceiver.name)).filter
        isBrace = [] := by
      rw [List.filter_flatMap, List.flatMap_eq_nil_iff]
      intro name hmem
      obtain ⟨field, hfield, rfl⟩ := List.mem_map.1 hmem
      have hfieldName := (isUnbroken_of_isIdentifier (hfields field hfield).isIdentifier).filter_isBrace
      rw [Code.fieldLine]
      simp only [List.filter_append, hobject, hfieldName]
      rfl
    have hbraces : struct.build.text.filter isBrace = ['{', '{', '}', '}'] := by
      rw [text_build]
      simp only [List.filter_append, hbuilder, hobject, htype, hlines]
      rfl
    rw [hbraces]
    exact ⟨by decide, by decide⟩

/-! ### The declaration -/

/-- The members of a struct, one on each line. -/
theorem exists_memberLines (hlimit : limit < nestingLimit) {fields : List Field}
    (hfields : ∀ field ∈ fields, field.IsReadable limit) :
    ∃ members : List MemberLine,
      members.flatMap MemberLine.text = (fields.map Field.toParam).flatMap Code.memberLine ∧
        (members.flatMap fun line => line.member.fields) = fields := by
  induction fields with
  | nil => exact ⟨[], rfl, rfl⟩
  | cons field fields ih =>
    obtain ⟨hfirst, hothers⟩ := List.forall_mem_cons.1 hfields
    obtain ⟨members, htext, hmembers⟩ := ih hothers
    let type : TypeText := ⟨field.type, hfirst.ne_nil, hfirst.isCollapsed,
      hfirst.isBracketed.mono (Nat.le_sub_one_of_lt hlimit)⟩
    let line : MemberLine :=
      ⟨.tab, .named [] ⟨field.name, hfirst.isIdentifier⟩ .blank type, .nothing, .feed⟩
    refine ⟨line :: members, ?_, ?_⟩
    · have hline : line.text = Code.memberLine field.toParam := by
        simp [line, type, MemberLine.text, StructMember.text, Source.LineEnd.text, Code.memberLine,
          Param.declaration, Field.toParam, Source.Layout.tab, Source.Gap.blank, Source.Spacing.blank,
          Source.Spacing.nothing]
      rw [List.flatMap_cons, List.map_cons, List.flatMap_cons, hline, htext]
    · rw [List.flatMap_cons, hmembers]
      rfl

theorem structText_eq_around (name : Text) (hname : Source.isAsciiIdentifier name = true)
    (fields : List Param) :
    Code.structText name fields ++ ['\n'] =
      '\n' :: (Source.Frame.printed name hname).around .struct ('\n' :: fields.flatMap Code.memberLine) := by
  unfold Code.structText Source.Frame.around Source.Frame.header Source.Frame.printed
  simp only [List.append_assoc]
  rfl

theorem ofDeclarations_struct (name body : Text) :
    Catalog.ofDeclarations [⟨⟨name, .struct⟩, body⟩] = ⟨[ofBody name body], []⟩ :=
  rfl

/-- The declaration of a builder, read back. -/
theorem exists_written (hlimit : limit < nestingLimit) (hname : Source.isAsciiIdentifier struct.name = true)
    (hfields : ∀ field ∈ struct.fields, field.IsReadable limit) (hnodup : struct.fieldNames.Nodup) :
    ∃ written : Source.Written,
      Code.structText struct.builderName struct.params ++ ['\n'] = '\n' :: written.text ∧
        Catalog.ofDeclarations [written.declaration] = ⟨[⟨struct.builderName, struct.fields⟩], []⟩ := by
  obtain ⟨members, htext, hmembers⟩ := exists_memberLines hlimit hfields
  let declared : StructDeclaration :=
    ⟨.printed struct.builderName (isAsciiIdentifier_builderName hname), members, .nothing⟩
  have hlines : declared.body = struct.params.flatMap Code.memberLine := by
    rw [StructDeclaration.body, htext]
    exact List.append_nil _
  refine ⟨⟨declared.toFrame, .struct, ['\n'] ++ declared.body,
    (bracketed_layout (by decide)).append declared.bracketed_body⟩, ?_, ?_⟩
  · rw [structText_eq_around _ (isAsciiIdentifier_builderName hname), ← hlines]
    rfl
  · have hkept : struct.fields.filter Field.isUnexported = struct.fields :=
      List.filter_eq_self.2 fun field hfield => (hfields field hfield).isUnexported
    have hbody : ofBody struct.builderName (['\n'] ++ declared.body) = ⟨struct.builderName, struct.fields⟩ := by
      rw [ofBody, Source.memberLines_layout_append (by decide)]
      refine (declared.ofBody_body).trans ?_
      rw [StructDeclaration.struct, ← Keyed.putAll_eq_lastOfEach, hmembers, hkept,
        Keyed.putAll_of_nodup hnodup]
      rfl
    refine (ofDeclarations_struct struct.builderName (['\n'] ++ declared.body)).trans ?_
    rw [hbody]

end

end Struct

/-- What is read from the builder of a struct is one struct, with the fields of the first in
their order, whatever their types nest and however many they are. -/
theorem Catalog.ofSource_builder {limit : Nat} (hlimit : limit < nestingLimit) (struct : Struct)
    (hname : Source.isAsciiIdentifier struct.name = true)
    (hfields : ∀ field ∈ struct.fields, field.IsReadable limit) (hnodup : struct.fieldNames.Nodup) :
    (receiver? struct.builderName struct.fieldNames).isSome = true ∧
      ofSource struct.builder.text = ⟨[⟨struct.builderName, struct.fields⟩], []⟩ := by
  refine ⟨receiver?_isSome_of_isAsciiIdentifier (Struct.isAsciiIdentifier_builderName hname) _, ?_⟩
  obtain ⟨written, hstruct, hcatalog⟩ := Struct.exists_written hlimit hname hfields hnodup
  obtain ⟨func, funcs, hfuncs⟩ : ∃ func funcs, struct.builderFuncs = func :: funcs := ⟨_, _, rfl⟩
  have htext : struct.builder.text = ['\n'] ++ (written.text ++
      (func.text ++ funcs.flatMap fun func => '\n' :: func.text)) := by
    have hlast : Code.structText struct.builderName struct.params ++
        (('\n' :: func.text) ++ funcs.flatMap fun func => '\n' :: func.text) =
          (Code.structText struct.builderName struct.params ++ ['\n']) ++
            (func.text ++ funcs.flatMap fun func => '\n' :: func.text) := by
      rw [List.append_assoc]
      rfl
    rw [Struct.text_builder, hfuncs, List.flatMap_cons, hlast, hstruct]
    rfl
  have hfirst : func ∈ struct.builderFuncs := by
    rw [hfuncs]
    exact List.mem_cons_self
  have hlater : ∀ other ∈ funcs, other ∈ struct.builderFuncs := by
    intro other hother
    rw [hfuncs]
    exact List.mem_cons_of_mem func hother
  have hnone : Source.declarations (func.text ++ funcs.flatMap fun func => '\n' :: func.text) = [] := by
    have hfeed : Clears ['\n'] := by decide
    have hrest : Source.Spelling.nothing.after (funcs.flatMap fun func => '\n' :: func.text) = .nothing :=
      Clears.flatMap fun other hother =>
        hfeed.append (Struct.clears_of_mem_builderFuncs hname hfields (hlater other hother))
    apply Source.declarations_eq_nil_of_after .nothing
    rw [Source.Spelling.after_append,
      Struct.clears_of_mem_builderFuncs hname hfields hfirst .nothing (by decide), hrest]
    decide
  have hdepth : KeepsDepth nestingLimit 0 struct.builder.text := by
    have hfeed : KeepsDepth nestingLimit 0 ['\n'] := .of_no_brace _ _ (by decide)
    rw [htext]
    refine hfeed.append (written.keepsDepth_text.append ?_)
    apply (Struct.keepsDepth_of_mem_builderFuncs hlimit hname hfields hfirst).append
    apply KeepsDepth.flatMap
    intro other hother
    exact hfeed.append (Struct.keepsDepth_of_mem_builderFuncs hlimit hname hfields (hlater other hother))
  rw [Source.ofSource_of_nestsWithin hdepth.1, htext, Source.declarations_layout_append (by decide),
    written.declarations_text_append, hnone, hcatalog]

/-- A struct with a field whose type nests brackets of two kinds. -/
def Struct.button : Struct :=
  ⟨"Button", [⟨"label", "string"⟩, ⟨"onClick", "func(struct \x7bx, y int\x7d) error"⟩]⟩

theorem Struct.isReadable_of_mem_button : ∀ field ∈ Struct.button.fields, field.IsReadable 200 := by
  intro field hfield
  rcases List.mem_cons.1 hfield with rfl | hfield
  · exact ⟨by decide +kernel, by decide +kernel, by decide, by decide +kernel, by decide +kernel,
      by decide +kernel, by decide +kernel⟩
  · rw [List.mem_singleton.1 hfield]
    exact ⟨by decide +kernel, by decide +kernel, by decide, by decide +kernel, by decide +kernel,
      by decide +kernel, by decide +kernel⟩

theorem Catalog.ofSource_builder_button :
    (receiver? Struct.button.builderName Struct.button.fieldNames).isSome = true ∧
      ofSource Struct.button.builder.text = ⟨[⟨Struct.button.builderName, Struct.button.fields⟩], []⟩ :=
  ofSource_builder (by decide : 200 < nestingLimit) Struct.button (by decide)
    Struct.isReadable_of_mem_button (by decide)

end GoScaffold
