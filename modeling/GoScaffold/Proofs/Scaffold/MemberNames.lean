import GoScaffold.Proofs.Catalog.Labels
import GoScaffold.Proofs.Identifier.Capitals

/-!
# The members of generated types

Go refuses a type with two members of one name, be they methods or fields.  The methods of a
builder and the accessors of a struct are named after fields, whose names are different; their
capital forms may clash all the same, with each other, with `Build` or with a field.  Each
result here says exactly when.
-/

namespace GoScaffold

open Code

/-! ### What a fragment declares on a type -/

namespace Fragment

/-- The names of the methods of `type`. -/
def methodNames (fragment : Fragment) (type : Text) : List Text :=
  (fragment.funcs.filter fun func =>
    func.receiver?.any fun object => object.type == pointerTo type).map Func.name

/-- The names of the fields of the struct `type`. -/
def fieldNames (fragment : Fragment) (type : Text) : List Text :=
  fragment.flatMap fun
    | .struct name fields => if name = type then fields.map Param.name else []
    | .func _ => []

theorem methodNames_append (front rest : Fragment) (type : Text) :
    methodNames (front ++ rest) type = front.methodNames type ++ rest.methodNames type := by
  simp only [methodNames, funcs, List.filterMap_append, List.filter_append, List.map_append]

/-- Functions that all are methods of `type`. -/
theorem methodNames_map {α : Type} (type : Text) (method : α → Func)
    (hmethod : ∀ a, (method a).receiver?.map Param.type = some (pointerTo type)) (elements : List α) :
    methodNames (elements.map fun a => .func (method a)) type = elements.map fun a => (method a).name := by
  induction elements with
  | nil => rfl
  | cons a rest ih =>
    have hon : (method a).receiver?.any (fun object => object.type == pointerTo type) = true := by
      obtain ⟨object, hobject, htype⟩ := Option.map_eq_some_iff.1 (hmethod a)
      simp [hobject, htype]
    rw [methodNames, funcs] at ih ⊢
    rw [List.map_cons, List.map_cons, ← ih]
    simp only [List.filterMap_cons, Decl.func?, List.filter_cons, hon, if_true, List.map_cons]

end Fragment

/-- No method has the name of another method or of a field. -/
structure MembersApart (methods fields : List Text) : Prop where
  nodup : methods.Nodup
  not_mem : ∀ name ∈ methods, name ∉ fields

theorem membersApart_append_iff {front rest fields : List Text} :
    MembersApart (front ++ rest) fields ↔
      MembersApart front fields ∧ MembersApart rest fields ∧ ∀ name ∈ front, ∀ other ∈ rest, name ≠ other := by
  constructor
  · rintro ⟨hnodup, hapart⟩
    obtain ⟨hfront, hrest, hdisjoint⟩ := List.nodup_append.1 hnodup
    rw [List.forall_mem_append] at hapart
    exact ⟨⟨hfront, hapart.1⟩, ⟨hrest, hapart.2⟩, hdisjoint⟩
  · rintro ⟨hfront, hrest, hdisjoint⟩
    exact ⟨List.nodup_append.2 ⟨hfront.nodup, hrest.nodup, hdisjoint⟩,
      List.forall_mem_append.2 ⟨hfront.not_mem, hrest.not_mem⟩⟩

namespace Struct

variable (struct : Struct)

theorem methodNames_builder :
    struct.builder.methodNames struct.builderName =
      struct.fieldNames.map capitalize ++ [("Build" : Text)] := by
  have hsteps := Fragment.methodNames_map struct.builderName struct.builderStep (fun _ => rfl) struct.fields
  have hfirst : Fragment.methodNames [.struct struct.builderName struct.params, .func struct.newBuilder]
      struct.builderName = [] := rfl
  have hbuild : Fragment.methodNames [.func struct.build] struct.builderName = [("Build" : Text)] := by
    simp [Fragment.methodNames, Fragment.funcs, Decl.func?, build, builderReceiver]
  rw [builder, Fragment.methodNames_append, Fragment.methodNames_append, hsteps, hfirst, hbuild,
    List.nil_append, fieldNames, List.map_map]
  rfl

theorem fieldNames_builder : struct.builder.fieldNames struct.builderName = struct.fieldNames := by
  simp [Fragment.fieldNames, builder, fieldNames, params, List.flatMap_map, Function.comp_def, Field.toParam]

/-- The getters that export the fields, then the setters. -/
def accessors : Fragment :=
  struct.fields.map (fun field => .func (getter struct.name field .exported)) ++
    struct.fields.map (fun field => .func (setter struct.name field))

theorem methodNames_accessors :
    struct.accessors.methodNames struct.name =
      struct.fieldNames.map capitalize ++ struct.fieldNames.map setterName := by
  have hgetters := Fragment.methodNames_map struct.name (getter struct.name · .exported) (fun _ => rfl)
    struct.fields
  have hsetters := Fragment.methodNames_map struct.name (setter struct.name) (fun _ => rfl) struct.fields
  rw [accessors, Fragment.methodNames_append, hgetters, hsetters, fieldNames, List.map_map, List.map_map]
  rfl

/-- The accessors do not clash with each other or with the fields, and the getters are exported. -/
structure AccessorsApart (struct : Struct) : Prop where
  apart : MembersApart (struct.accessors.methodNames struct.name) struct.fieldNames
  exported : ∀ field ∈ struct.fields, startsUppercase (getter struct.name field .exported).name = true

/-- A struct whose fields start with basic Latin letters. -/
def point : Struct :=
  ⟨"Point", [⟨['x'], "int"⟩, ⟨['y'], "int"⟩]⟩

end Struct

/-! ### Methods named after unexported fields -/

section

variable {names : List Text} (hnames : ∀ name ∈ names, IsUnexported name)

include hnames

/-- Methods that start uppercase are never called like an unexported field. -/
theorem membersApart_of_startsUppercase {methods : List Text} (hnodup : methods.Nodup)
    (hupper : ∀ method ∈ methods, startsUppercase method = true) : MembersApart methods names := by
  refine ⟨hnodup, ?_⟩
  intro method hmethod hmem
  have hlower := (hnames method hmem).startsUppercase_eq_false
  rw [hupper method hmethod] at hlower
  cases hlower

/-- A capital form is the name of a field only when some name is its own capital form. -/
theorem membersApart_capitals_iff :
    MembersApart (names.map capitalize) names ↔
      (names.map capitalize).Nodup ∧ ∀ name ∈ names, capitalize name ≠ name := by
  constructor
  · rintro ⟨hnodup, hapart⟩
    refine ⟨hnodup, ?_⟩
    intro name hname hsame
    apply hapart _ (List.mem_map_of_mem hname)
    rwa [hsame]
  · rintro ⟨hnodup, hchanged⟩
    refine ⟨hnodup, ?_⟩
    intro method hmethod hmem
    obtain ⟨name, hname, rfl⟩ := List.mem_map.1 hmethod
    rcases capitalize_eq_self_or_of_capitalize_eq (hnames _ hmem) rfl with hsame | hsame
    · exact hchanged name hname hsame
    · exact hchanged _ hmem hsame

theorem membersApart_capitals_build_iff :
    MembersApart (names.map capitalize ++ [("Build" : Text)]) names ↔
      ("build" : Text) ∉ names ∧ (names.map capitalize).Nodup ∧ ∀ name ∈ names, capitalize name ≠ name := by
  have hlast : MembersApart [("Build" : Text)] names :=
    membersApart_of_startsUppercase hnames (List.nodup_singleton _) (by decide)
  have hbuild : (∀ method ∈ names.map capitalize, ∀ last ∈ [("Build" : Text)], method ≠ last) ↔
      ("build" : Text) ∉ names := by
    constructor
    · intro hapart hname
      exact hapart _ (List.mem_map_of_mem hname) _ (List.mem_singleton_self _)
        ((capitalize_eq_build_iff (hnames _ hname)).2 rfl)
    · intro hnot method hmethod last hmem heq
      obtain ⟨name, hname, rfl⟩ := List.mem_map.1 hmethod
      rw [List.mem_singleton.1 hmem, capitalize_eq_build_iff (hnames name hname)] at heq
      exact hnot (heq ▸ hname)
  rw [membersApart_append_iff, membersApart_capitals_iff hnames, hbuild]
  constructor
  · rintro ⟨hcapitals, -, hnot⟩
    exact ⟨hnot, hcapitals⟩
  · rintro ⟨hnot, hcapitals⟩
    exact ⟨hcapitals, hlast, hnot⟩

theorem membersApart_capitals_setters_iff :
    MembersApart (names.map capitalize ++ names.map setterName) names ↔
      (names.map capitalize).Nodup ∧ (∀ name ∈ names, capitalize name ≠ name) ∧
        ∀ name ∈ names, ∀ other ∈ names,
          name ≠ "set" ++ capitalize other ∧ name ≠ "ſet" ++ capitalize other := by
  have hsetters : (names.map capitalize).Nodup → MembersApart (names.map setterName) names := by
    intro hcapitals
    apply membersApart_of_startsUppercase hnames
    · have hmap : names.map setterName = (names.map capitalize).map (("Set" : Text) ++ ·) := by
        rw [List.map_map]
        rfl
      rw [hmap]
      exact hcapitals.map (List.append_right_injective _)
    · intro method hmethod
      obtain ⟨name, -, rfl⟩ := List.mem_map.1 hmethod
      rfl
  have hclash : (∀ method ∈ names.map capitalize, ∀ assigning ∈ names.map setterName, method ≠ assigning) ↔
      ∀ name ∈ names, ∀ other ∈ names,
        name ≠ "set" ++ capitalize other ∧ name ≠ "ſet" ++ capitalize other := by
    simp only [List.forall_mem_map]
    refine forall₂_congr fun name hname => forall₂_congr fun other _ => ?_
    rw [Ne, setterName, capitalize_eq_set_append_iff (hnames name hname), not_or]
  rw [membersApart_append_iff, membersApart_capitals_iff hnames, hclash]
  constructor
  · rintro ⟨⟨hcapitals, hchanged⟩, -, hapart⟩
    exact ⟨hcapitals, hchanged, hapart⟩
  · rintro ⟨hcapitals, hchanged, hapart⟩
    exact ⟨⟨hcapitals, hchanged⟩, hsetters hcapitals, hapart⟩

theorem nodup_capitals_of_startsAscii (hascii : ∀ name ∈ names, startsAscii name = true) (hnodup : names.Nodup) :
    (names.map capitalize).Nodup := by
  apply hnodup.map_on
  intro name hname other hother heq
  exact eq_of_capitalize_eq_of_startsAscii (hnames name hname) (hnames other hother) (hascii name hname)
    (hascii other hother) heq

end

theorem Struct.accessorsApart_iff_capitals {struct : Struct}
    (hnames : ∀ name ∈ struct.fieldNames, IsUnexported name) :
    struct.AccessorsApart ↔
      (struct.fieldNames.map capitalize).Nodup ∧
        (∀ name ∈ struct.fieldNames, capitalize name ≠ name ∧ name.head? ≠ some 'ŉ') ∧
        ∀ name ∈ struct.fieldNames, ∀ other ∈ struct.fieldNames,
          name ≠ "set" ++ capitalize other ∧ name ≠ "ſet" ++ capitalize other := by
  have hmembers := membersApart_capitals_setters_iff hnames
  rw [← struct.methodNames_accessors] at hmembers
  have hexported : (∀ field ∈ struct.fields, startsUppercase (getter struct.name field .exported).name = true) ↔
      ∀ name ∈ struct.fieldNames, capitalize name ≠ name ∧ name.head? ≠ some 'ŉ' := by
    rw [fieldNames, List.forall_mem_map]
    refine forall₂_congr fun field hfield => ?_
    exact startsUppercase_capitalize_iff (hnames _ (List.mem_map_of_mem hfield))
  constructor
  · rintro ⟨hapart, hupper⟩
    obtain ⟨hcapitals, -, hsetters⟩ := hmembers.1 hapart
    exact ⟨hcapitals, hexported.1 hupper, hsetters⟩
  · rintro ⟨hcapitals, hupper, hsetters⟩
    have hchanged : ∀ name ∈ struct.fieldNames, capitalize name ≠ name := by
      intro name hname
      exact (hupper name hname).1
    exact ⟨hmembers.2 ⟨hcapitals, hchanged, hsetters⟩, hexported.2 hupper⟩

/-! ### Builders and accessors of a source text -/

namespace Catalog

theorem isUnexported_of_mem_fieldNames {text : Text} {struct : Struct} (h : struct ∈ (ofSource text).structs) :
    ∀ name ∈ struct.fieldNames, IsUnexported name := by
  intro name hname
  obtain ⟨body, hbody, -⟩ := struct_of_mem_ofSource h
  obtain ⟨field, hfield, rfl⟩ := List.mem_map.1 hname
  rw [hbody] at hfield
  obtain ⟨⟨htrimmed, -⟩, hprivate⟩ := Struct.field_of_mem_ofBody hfield
  exact isUnexported_of_isPrivate htrimmed hprivate

theorem point_mem_ofSource :
    Struct.point ∈ (ofSource "type Point struct \x7b\n\tx, y int\n\x7d\n").structs := by
  decide +kernel

/-- The methods of a builder are its steps, which are called like the capital forms of the
fields, and `Build`.  They have different names, none of them the name of a field, exactly when
no field is called `build` and the capital forms are different from each other and from the
names.  With names that start with basic Latin letters `build` is all that can go wrong. -/
theorem builder_membersApart_iff (text : Text) : ∀ struct ∈ (ofSource text).structs,
    struct.builder.methodNames struct.builderName =
        struct.fieldNames.map capitalize ++ [("Build" : Text)] ∧
      struct.builder.fieldNames struct.builderName = struct.fieldNames ∧
      (MembersApart (struct.builder.methodNames struct.builderName)
          (struct.builder.fieldNames struct.builderName) ↔
        ("build" : Text) ∉ struct.fieldNames ∧ (struct.fieldNames.map capitalize).Nodup ∧
          ∀ name ∈ struct.fieldNames, capitalize name ≠ name) ∧
      ((∀ name ∈ struct.fieldNames, startsAscii name = true) →
        (MembersApart (struct.builder.methodNames struct.builderName)
            (struct.builder.fieldNames struct.builderName) ↔
          ("build" : Text) ∉ struct.fieldNames)) := by
  intro struct hstruct
  have hnames := isUnexported_of_mem_fieldNames hstruct
  rw [struct.methodNames_builder, struct.fieldNames_builder, membersApart_capitals_build_iff hnames]
  refine ⟨rfl, rfl, Iff.rfl, ?_⟩
  intro hascii
  constructor
  · rintro ⟨hnot, -⟩
    exact hnot
  · intro hnot
    refine ⟨hnot, nodup_capitals_of_startsAscii hnames hascii (nodup_fields hstruct), ?_⟩
    intro name hname
    exact capitalize_ne_of_startsAscii (hnames name hname) (hascii name hname)

theorem builder_membersApart_point :
    MembersApart (Struct.point.builder.methodNames Struct.point.builderName)
      (Struct.point.builder.fieldNames Struct.point.builderName) :=
  ((builder_membersApart_iff _ _ point_mem_ofSource).2.2.2 (by decide)).2 (by decide)

/-- The step of a field `build` is a second method `Build`. -/
theorem builder_declares_build_twice :
    ∃ struct ∈ (ofSource "type T struct \x7b\n\tbuild int\n\x7d\n").structs,
      ¬ (struct.builder.methodNames struct.builderName).Nodup :=
  ⟨⟨['T'], [⟨"build", "int"⟩]⟩, by decide +kernel, by decide +kernel⟩

/-- The accessors of a struct are getters, which are called like the capital forms of the
fields, and setters.  They do not clash and the getters are exported exactly when the capital
forms are different and start uppercase and no field is called like a setter with a small first
letter.  A setter is never called like a field. -/
theorem accessorsApart_iff (text : Text) : ∀ struct ∈ (ofSource text).structs,
    struct.accessors.methodNames struct.name =
        struct.fieldNames.map capitalize ++ struct.fieldNames.map setterName ∧
      (∀ name ∈ struct.fieldNames, setterName name ∉ struct.fieldNames) ∧
      (struct.AccessorsApart ↔
        (struct.fieldNames.map capitalize).Nodup ∧
          (∀ name ∈ struct.fieldNames, capitalize name ≠ name ∧ name.head? ≠ some 'ŉ') ∧
          ∀ name ∈ struct.fieldNames, ∀ other ∈ struct.fieldNames,
            name ≠ "set" ++ capitalize other ∧ name ≠ "ſet" ++ capitalize other) ∧
      ((∀ name ∈ struct.fieldNames, startsAscii name = true) →
        (struct.AccessorsApart ↔ ∀ name ∈ struct.fieldNames, ∀ other ∈ struct.fieldNames,
          name ≠ "set" ++ capitalize other)) := by
  intro struct hstruct
  have hnames := isUnexported_of_mem_fieldNames hstruct
  have hiff := Struct.accessorsApart_iff_capitals hnames
  refine ⟨struct.methodNames_accessors, ?_, hiff, ?_⟩
  · intro name _ hmem
    have hlower := (hnames _ hmem).startsUppercase_eq_false
    cases hlower
  · intro hascii
    rw [hiff]
    constructor
    · rintro ⟨-, -, hapart⟩ name hname other hother
      exact (hapart name hname other hother).1
    · intro hapart
      refine ⟨nodup_capitals_of_startsAscii hnames hascii (nodup_fields hstruct), ?_, ?_⟩
      · intro name hname
        exact ⟨capitalize_ne_of_startsAscii (hnames name hname) (hascii name hname),
          head?_ne_of_startsAscii (hascii name hname) (by decide)⟩
      · intro name hname other hother
        refine ⟨hapart name hname other hother, ?_⟩
        rintro rfl
        exact head?_ne_of_startsAscii (hascii _ hname) (by decide) rfl

theorem accessorsApart_point : Struct.point.AccessorsApart :=
  ((accessorsApart_iff _ _ point_mem_ofSource).2.2.2 (by decide)).2 (by decide)

/-- The getter of `setX` is called like the setter of `x`, and a letter without cases is its own
capital form, so its getter is neither exported nor called otherwise than the field. -/
theorem accessors_clash :
    ∃ struct ∈ (ofSource "type T struct \x7b\n\tx, setX, 名 int\n\x7d\n").structs,
      ¬ (struct.accessors.methodNames struct.name).Nodup ∧
        ∃ field ∈ struct.fields, startsUppercase (getter struct.name field .exported).name = false ∧
          (getter struct.name field .exported).name ∈ struct.fieldNames :=
  ⟨⟨['T'], [⟨['x'], "int"⟩, ⟨"setX", "int"⟩, ⟨['名'], "int"⟩]⟩, by decide +kernel, by decide +kernel,
    ⟨['名'], "int"⟩, by decide +kernel, by decide +kernel, by decide +kernel⟩

end Catalog

end GoScaffold
