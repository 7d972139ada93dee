import GoScaffold.Proofs.Scaffold.Builder
import GoScaffold.Proofs.Scaffold.MemberNames

/-!
# The variables of generated bodies

A method works on its receiver and the constructor on the variable that it defines.  That
variable is an identifier which no parameter is called, and the body reads nothing else but
parameters.  Go lets a program declare `_` but not read it, and a type whose name starts with an
underscore gets just that receiver.
-/

namespace GoScaffold

/-! ### What a body declares and reads -/

namespace Code

/-- The variables that an expression reads. -/
def Expr.reads : Expr → List Text
  | name called => [called]
  | field object _ => [object]
  | allocate _ => []
  | fresh _ => []
  | filled _ object fields => fields.map fun _ => object

/-- The variables that a statement reads.  An assignment to a field reads the object that has it. -/
def Stmt.reads : Stmt → List Text
  | define _ value => value.reads
  | assign object _ value => object :: value.reads
  | giveBack value => value.reads
  | remark _ => []
  | abort _ => []
  | dispatch subject writer _ _ => subject.reads ++ [writer]

def Stmt.defined? : Stmt → Option Text
  | define name _ => some name
  | _ => none

namespace Func

/-- The variables that a function declares besides its parameters. -/
def objects (func : Func) : List Text :=
  (func.receiver?.map Param.name).toList ++ func.body.filterMap Stmt.defined?

def reads (func : Func) : List Text :=
  func.body.flatMap Stmt.reads

/-- Besides its parameters the function declares `object` and nothing else, which is an
identifier, is not called like a parameter, and is all that the body reads besides them. -/
structure WorksOn (func : Func) (object : Text) : Prop where
  objects_eq : func.objects = [object]
  isIdentifier : isIdentifier object = true
  ne_param : ∀ param ∈ func.params, param.name ≠ object
  of_mem_reads : ∀ name ∈ func.reads, name = object ∨ ∃ param ∈ func.params, param.name = name

end Func

end Code

/-! ### The functions of a struct -/

open Code (Func Stmt)

section

variable {type : Text} (htype : Source.isAsciiIdentifier type = true) (field : Field)

include htype

theorem getter_worksOn (naming : Naming) : (getter type field naming).WorksOn (receiver type []) where
  objects_eq := rfl
  isIdentifier := isIdentifier_receiver htype []
  ne_param := List.forall_mem_nil _
  of_mem_reads := by
    intro name hname
    exact .inl (List.mem_singleton.1 hname)

theorem setter_worksOn : (setter type field).WorksOn (receiver type [field.name]) where
  objects_eq := rfl
  isIdentifier := isIdentifier_receiver htype _
  ne_param := by
    intro param hparam heq
    obtain rfl := List.mem_singleton.1 hparam
    exact receiver_not_mem htype [field.name] (List.mem_singleton.2 heq.symm)
  of_mem_reads := by
    intro name hname
    rcases List.mem_cons.1 hname with rfl | hname
    · exact .inl rfl
    · exact .inr ⟨field.toParam, List.mem_singleton_self _, (List.mem_singleton.1 hname).symm⟩

end

namespace Struct

variable {struct : Struct}

theorem name_ne_receiver {type : Text} (h : Source.isAsciiIdentifier type = true) {field : Field}
    (hfield : field ∈ struct.fields) : field.name ≠ receiver type struct.fieldNames := by
  intro heq
  exact receiver_not_mem h struct.fieldNames (heq ▸ List.mem_map_of_mem hfield)

theorem objects_constructor : struct.constructor.objects = [receiver struct.name struct.fieldNames] := by
  have hassigned : ∀ object : Text, (struct.fieldNames.map fun field =>
      Stmt.assign object field (.name field)).filterMap Stmt.defined? = [] := by
    intro object
    rw [List.filterMap_map, List.filterMap_eq_nil_iff]
    intro field _
    rfl
  rw [Func.objects, constructor]
  simp only [List.filterMap_append, hassigned]
  rfl

theorem constructor_worksOn (hname : Source.isAsciiIdentifier struct.name = true) :
    struct.constructor.WorksOn (receiver struct.name struct.fieldNames) where
  objects_eq := objects_constructor
  isIdentifier := isIdentifier_receiver hname _
  ne_param := by
    intro param hparam
    obtain ⟨field, hfield, rfl⟩ := List.mem_map.1 hparam
    exact name_ne_receiver hname hfield
  of_mem_reads := by
    intro name hmem
    obtain ⟨stmt, hstmt, hread⟩ := List.mem_flatMap.1 hmem
    rcases List.mem_append.1 hstmt with hstmt | hlast
    · rcases List.mem_append.1 hstmt with hfirst | hassign
      · rw [List.mem_singleton.1 hfirst] at hread
        cases hread
      · obtain ⟨called, hcalled, rfl⟩ := List.mem_map.1 hassign
        obtain ⟨field, hfield, rfl⟩ := List.mem_map.1 hcalled
        rcases List.mem_cons.1 hread with rfl | hread
        · exact .inl rfl
        · exact .inr ⟨field.toParam, List.mem_map_of_mem hfield, (List.mem_singleton.1 hread).symm⟩
    · rw [List.mem_singleton.1 hlast] at hread
      exact .inl (List.mem_singleton.1 hread)

theorem builderStep_worksOn (hname : Source.isAsciiIdentifier struct.builderName = true) {field : Field}
    (hfield : field ∈ struct.fields) :
    (struct.builderStep field).WorksOn (receiver struct.builderName struct.fieldNames) where
  objects_eq := rfl
  isIdentifier := isIdentifier_receiver hname _
  ne_param := by
    intro param hparam
    obtain rfl := List.mem_singleton.1 hparam
    exact name_ne_receiver hname hfield
  of_mem_reads := by
    intro name hmem
    rcases List.mem_cons.1 hmem with rfl | hmem
    · exact .inl rfl
    · rcases List.mem_cons.1 hmem with rfl | hmem
      · exact .inr ⟨field.toParam, List.mem_singleton_self _, rfl⟩
      · exact .inl (List.mem_singleton.1 hmem)

theorem build_worksOn (hname : Source.isAsciiIdentifier struct.builderName = true) :
    struct.build.WorksOn (receiver struct.builderName struct.fieldNames) where
  objects_eq := rfl
  isIdentifier := isIdentifier_receiver hname _
  ne_param := List.forall_mem_nil _
  of_mem_reads := by
    intro name hmem
    obtain ⟨stmt, hstmt, hread⟩ := List.mem_flatMap.1 hmem
    rw [List.mem_singleton.1 hstmt] at hread
    obtain ⟨field, -, rfl⟩ := List.mem_map.1 hread
    exact .inl rfl

theorem receiver_mem_reads_constructor :
    receiver struct.name struct.fieldNames ∈ struct.constructor.reads :=
  List.mem_flatMap.2 ⟨_, List.mem_append_right _ (List.mem_singleton_self _), List.mem_singleton_self _⟩

/-- `Build` copies the fields out of the builder, if there are any. -/
theorem receiver_mem_reads_build (hfields : struct.fields ≠ []) :
    receiver struct.builderName struct.fieldNames ∈ struct.build.reads := by
  obtain ⟨field, hfield⟩ := List.exists_mem_of_ne_nil _ hfields
  exact List.mem_flatMap.2 ⟨_, List.mem_singleton_self _,
    List.mem_map.2 ⟨field.name, List.mem_map_of_mem hfield, rfl⟩⟩

theorem head?_builderName (hne : struct.name ≠ []) : struct.builderName.head? = struct.name.head? := by
  rw [builderName, List.head?_append_of_ne_nil _ hne]

/-- The functions that are generated for a struct, each with its variable. -/
theorem exists_worksOn {naming : Naming} {label : Label} {fragment : Fragment} {func : Func}
    (hname : Source.isAsciiIdentifier struct.name = true) (h : struct.Offers naming label fragment)
    (hfunc : func ∈ fragment.funcs) (hnew : func ≠ struct.newBuilder) :
    ∃ type taken, Source.isAsciiIdentifier type = true ∧ type.head? = struct.name.head? ∧
      (∀ name ∈ taken, name ∈ struct.fieldNames) ∧ func.WorksOn (receiver type taken) ∧
        (struct.fields ≠ [] → receiver type taken ∈ func.reads) := by
  cases h with
  | getter hfield =>
    obtain rfl := List.mem_singleton.1 hfunc
    exact ⟨struct.name, [], hname, rfl, List.forall_mem_nil _, getter_worksOn hname _ naming,
      fun _ => List.mem_singleton_self _⟩
  | @setter field hfield =>
    obtain rfl := List.mem_singleton.1 hfunc
    refine ⟨struct.name, [field.name], hname, rfl, ?_, setter_worksOn hname field,
      fun _ => List.mem_cons_self⟩
    intro name hmem
    rw [List.mem_singleton.1 hmem]
    exact List.mem_map_of_mem hfield
  | constructor =>
    obtain rfl := List.mem_singleton.1 hfunc
    exact ⟨struct.name, struct.fieldNames, hname, rfl, fun _ => id, constructor_worksOn hname,
      fun _ => receiver_mem_reads_constructor⟩
  | builder =>
    have hbuilder := isAsciiIdentifier_builderName hname
    have hhead := head?_builderName (isWord_of_isAsciiIdentifier hname).1
    rw [funcs_builder] at hfunc
    rcases List.mem_cons.1 hfunc with hnewBuilder | hfunc
    · exact absurd hnewBuilder hnew
    rcases List.mem_append.1 hfunc with hstep | hbuild
    · obtain ⟨field, hfield, rfl⟩ := List.mem_map.1 hstep
      exact ⟨struct.builderName, struct.fieldNames, hbuilder, hhead, fun _ => id,
        builderStep_worksOn hbuilder hfield, fun _ => List.mem_cons_self⟩
    · obtain rfl := List.mem_singleton.1 hbuild
      exact ⟨struct.builderName, struct.fieldNames, hbuilder, hhead, fun _ => id, build_worksOn hbuilder,
        receiver_mem_reads_build⟩

end Struct

namespace Catalog

/-- Every function that is generated for a struct of a source text works on one variable, which it
reads when there are fields: an identifier that no parameter is called.  It is the blank
identifier, which cannot be read, exactly when the name of the struct starts with an underscore.
`NewTBuilder` is left out; it declares no variable and reads none. -/
theorem worksOn_variable (text : Text) : ∀ struct ∈ (ofSource text).structs,
    ∀ naming label fragment, struct.Offers naming label fragment →
      ∀ func ∈ fragment.funcs, func ≠ struct.newBuilder →
        ∃ object, func.WorksOn object ∧ (struct.fields ≠ [] → object ∈ func.reads) ∧
          (object = ['_'] ↔ struct.name.head? = some '_') := by
  intro struct hstruct naming label fragment hoffers func hfunc hnew
  obtain ⟨-, -, hname⟩ := struct_of_mem_ofSource hstruct
  obtain ⟨type, taken, htype, hhead, htaken, hworks, hreads⟩ :=
    Struct.exists_worksOn hname hoffers hfunc hnew
  refine ⟨receiver type taken, hworks, hreads, ?_⟩
  have hfree : ['_'] ∉ taken := by
    intro hmem
    obtain ⟨c, rest, heq, hletter, -⟩ := isUnexported_of_mem_fieldNames hstruct _ (htaken _ hmem)
    obtain ⟨rfl, -⟩ := List.cons.inj heq
    exact absurd hletter (by decide)
  rw [← hhead]
  exact receiver_eq_underscore_iff htype taken hfree

theorem worksOn_variable_point :
    ∃ object, Struct.point.constructor.WorksOn object ∧ object ∈ Struct.point.constructor.reads ∧
      object ≠ ['_'] := by
  obtain ⟨object, hworks, hreads, hblank⟩ := worksOn_variable _ _ point_mem_ofSource .exported _ _ .constructor
    Struct.point.constructor (List.mem_singleton_self _) (by decide +kernel)
  exact ⟨object, hworks, hreads (by decide), fun heq => absurd (hblank.1 heq) (by decide)⟩

/-- The getter of `_point` reads the blank identifier. -/
theorem getter_reads_blank :
    ∃ struct ∈ (ofSource "type _point struct \x7b\n\tx int\n\x7d\n").structs, ∃ field ∈ struct.fields,
      (getter struct.name field .exported).objects = [['_']] ∧
        ['_'] ∈ (getter struct.name field .exported).reads :=
  ⟨⟨"_point", [⟨['x'], "int"⟩]⟩, by decide +kernel, ⟨['x'], "int"⟩, by decide, by decide +kernel,
    by decide +kernel⟩

end Catalog

end GoScaffold
