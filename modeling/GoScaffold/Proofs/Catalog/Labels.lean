import GoScaffold.Proofs.Catalog.Contents
import GoScaffold.Proofs.LabelText
import GoScaffold.Proofs.Request

/-!
# Labels that can be used

Every label offered for a source text stands for one thing that can be generated, and
labels with different texts are different.  A label is read back from its text
exactly when the name of its field has no blanks, which the members of a struct do
not promise: in `a b, c int` the first name is `a b`.
-/

namespace GoScaffold

open Text (IsWord IsTrimmed IsCollapsed)
open Unicode (isBlank)

/-! ### What a label asks for -/

/-- The labels of a struct, each with the code that it asks for. -/
inductive Struct.Offers (struct : Struct) (naming : Naming) : Label → Fragment → Prop
  | getter {field : Field} (h : field ∈ struct.fields) :
    Offers struct naming (.getter struct.name field.name field.type)
      [.func (GoScaffold.getter struct.name field naming)]
  | setter {field : Field} (h : field ∈ struct.fields) :
    Offers struct naming (.setter struct.name field.name field.type)
      [.func (GoScaffold.setter struct.name field)]
  | constructor : Offers struct naming (.constructor struct.name) [.func struct.constructor]
  | builder : Offers struct naming (.builder struct.name) struct.builder

theorem Struct.offers_of_mem_labels {struct : Struct} {label : Label} (h : label ∈ struct.labels)
    (naming : Naming) : ∃ fragment, struct.Offers naming label fragment := by
  rw [labels, List.mem_append] at h
  rcases h with h | h
  · obtain ⟨field, hfield, hlabel⟩ := List.mem_flatMap.1 h
    simp only [List.mem_cons, List.not_mem_nil, or_false] at hlabel
    rcases hlabel with rfl | rfl
    · exact ⟨_, .getter hfield⟩
    · exact ⟨_, .setter hfield⟩
  · simp only [List.mem_cons, List.not_mem_nil, or_false] at h
    rcases h with rfl | rfl
    · exact ⟨_, .constructor⟩
    · exact ⟨_, .builder⟩

namespace Catalog

theorem mem_labels {catalog : Catalog} {label : Label} (h : label ∈ catalog.labels) :
    (∃ struct ∈ catalog.structs, label ∈ struct.labels) ∨
      ∃ interface ∈ catalog.interfaces, label = .bare interface.name := by
  rw [labels, List.mem_append] at h
  rcases h with h | h
  · exact .inl (List.mem_flatMap.1 h)
  · obtain ⟨interface, hinterface, rfl⟩ := List.mem_map.1 h
    exact .inr ⟨interface, hinterface, rfl⟩

/-- What a struct offers is what the request of the label generates, when the names of
the structs and the names of its fields are different. -/
theorem generate_of_offers {catalog : Catalog} (hstructs : (catalog.structs.map Struct.name).Nodup)
    {struct : Struct} (hmem : struct ∈ catalog.structs)
    (hfields : (struct.fields.map Field.name).Nodup) {naming : Naming} {label : Label}
    {fragment : Fragment} (h : struct.Offers naming label fragment) :
    (Request.ofLabel label naming).bind catalog.generate = .ok fragment := by
  have hstruct : catalog.struct? struct.name = some struct := Keyed.get?_of_mem hstructs hmem
  have hfield : ∀ field ∈ struct.fields, struct.field? field.name = some field :=
    fun _ => Keyed.get?_of_mem hfields
  cases h with
  | getter hin => exact generate_eq_ok_iff.2 (.getter hstruct (hfield _ hin))
  | setter hin => exact generate_eq_ok_iff.2 (.setter hstruct (hfield _ hin))
  | constructor => exact generate_eq_ok_iff.2 (.constructor hstruct)
  | builder => exact generate_eq_ok_iff.2 (.builder hstruct)

end Catalog

/-! ### No label twice -/

/-- The type that the label of a struct names. -/
def Label.structName? : Label → Option Text
  | .getter type _ _ => some type
  | .setter type _ _ => some type
  | .constructor type => some type
  | .builder type => some type
  | .bare _ => none

theorem Struct.structName?_of_mem_labels {struct : Struct} {label : Label} (h : label ∈ struct.labels) :
    label.structName? = some struct.name := by
  obtain ⟨fragment, hoffers⟩ := offers_of_mem_labels h .exported
  cases hoffers with
  | getter => rfl
  | setter => rfl
  | constructor => rfl
  | builder => rfl

theorem Struct.nodup_labels {struct : Struct} (h : (struct.fields.map Field.name).Nodup) :
    struct.labels.Nodup := by
  rw [labels, List.nodup_append]
  refine ⟨?_, by simp, ?_⟩
  · rw [List.nodup_flatMap]
    constructor
    · intro field _
      simp
    apply (List.pairwise_map.1 h).imp
    intro one other hne label hone hother
    simp only [List.mem_cons, List.not_mem_nil, or_false] at hone hother
    rcases hone with rfl | rfl
    · rcases hother with heq | heq
      · exact hne (Label.getter.inj heq).2.1
      · cases heq
    · rcases hother with heq | heq
      · cases heq
      · exact hne (Label.setter.inj heq).2.1
  · rintro label hone _ hother rfl
    obtain ⟨field, -, hfield⟩ := List.mem_flatMap.1 hone
    simp only [List.mem_cons, List.not_mem_nil, or_false] at hfield hother
    rcases hfield with rfl | rfl
    · rcases hother with heq | heq <;> cases heq
    · rcases hother with heq | heq <;> cases heq

theorem Catalog.nodup_labels {catalog : Catalog} (hstructs : (catalog.structs.map Struct.name).Nodup)
    (hinterfaces : (catalog.interfaces.map Interface.name).Nodup)
    (hfields : ∀ struct ∈ catalog.structs, (struct.fields.map Field.name).Nodup) :
    catalog.labels.Nodup := by
  rw [labels, List.nodup_append]
  refine ⟨?_, ?_, ?_⟩
  · rw [List.nodup_flatMap]
    constructor
    · intro struct hstruct
      exact Struct.nodup_labels (hfields struct hstruct)
    apply (List.pairwise_map.1 hstructs).imp
    intro one other hne label hone hother
    have hname := Struct.structName?_of_mem_labels hone
    rw [Struct.structName?_of_mem_labels hother] at hname
    exact hne (Option.some.inj hname).symm
  · have hmap : catalog.interfaces.map (fun interface => Label.bare interface.name) =
        (catalog.interfaces.map Interface.name).map Label.bare := by
      rw [List.map_map]
      rfl
    rw [hmap]
    exact hinterfaces.map fun _ _ => Label.bare.inj
  · rintro label hone _ hother rfl
    obtain ⟨struct, -, hstruct⟩ := List.mem_flatMap.1 hone
    obtain ⟨interface, -, rfl⟩ := List.mem_map.1 hother
    cases Struct.structName?_of_mem_labels hstruct

/-! ### Labels of a source text -/

namespace Catalog

theorem nodup_fields {text : Text} {struct : Struct} (h : struct ∈ (ofSource text).structs) :
    (struct.fields.map Field.name).Nodup := by
  obtain ⟨body, hbody, -⟩ := struct_of_mem_ofSource h
  rw [hbody]
  exact Struct.nodup_ofBody _ body

/-- All that a label of a source text may lack for being read back is a field name
without blanks. -/
theorem isReadable_of_mem_labels {text : Text} {label : Label} (h : label ∈ (ofSource text).labels)
    (hfield : ∀ c ∈ label.fieldName, isBlank c = false) : label.IsReadable := by
  rcases mem_labels h with ⟨struct, hstruct, hlabel⟩ | ⟨interface, hinterface, rfl⟩
  · obtain ⟨body, hbody, hname⟩ := struct_of_mem_ofSource hstruct
    have hword : IsWord struct.name := isWord_of_isAsciiIdentifier hname
    have hfields : ∀ field ∈ struct.fields, (∀ c ∈ field.name, isBlank c = false) →
        IsWord struct.name ∧ IsWord field.name ∧ field.type ≠ [] ∧ IsCollapsed field.type := by
      intro field hmem hblanks
      rw [hbody] at hmem
      obtain ⟨⟨-, htype, hcollapsed⟩, hprivate⟩ := Struct.field_of_mem_ofBody hmem
      refine ⟨hword, ⟨?_, hblanks⟩, htype, hcollapsed⟩
      intro hnil
      rw [hnil] at hprivate
      cases hprivate
    obtain ⟨fragment, hoffers⟩ := Struct.offers_of_mem_labels hlabel .exported
    cases hoffers with
    | getter hmem => exact hfields _ hmem hfield
    | setter hmem => exact hfields _ hmem hfield
    | constructor => exact hword
    | builder => exact hword
  · obtain ⟨body, -, hname⟩ := interface_of_mem_ofSource hinterface
    exact isWord_of_isAsciiIdentifier hname

/-- A label of a source text is read back from its text exactly when the name of its
field has no blanks.  So all labels are read back, and have different texts, exactly
when no field name has a blank.  In any case the label of a struct generates what it
stands for; the other labels are the bare names of the interfaces. -/
theorem labels_read_back_iff (text : Text) :
    (∀ label ∈ (ofSource text).labels,
      (Label.ofText label.text = .ok label ↔ ∀ c ∈ label.fieldName, isBlank c = false)) ∧
    ((∀ label ∈ (ofSource text).labels, Label.ofText label.text = .ok label) ∧
        ((ofSource text).labels.map Label.text).Nodup ↔
      ∀ struct ∈ (ofSource text).structs, ∀ field ∈ struct.fields,
        ∀ c ∈ field.name, isBlank c = false) ∧
    ∀ naming, ∀ label ∈ (ofSource text).labels,
      (∃ interface ∈ (ofSource text).interfaces, label = .bare interface.name) ∨
        ∃ struct ∈ (ofSource text).structs, ∃ fragment, struct.Offers naming label fragment ∧
          (Request.ofLabel label naming).bind (ofSource text).generate = .ok fragment := by
  have hread : ∀ label ∈ (ofSource text).labels,
      (Label.ofText label.text = .ok label ↔ ∀ c ∈ label.fieldName, isBlank c = false) := by
    intro label hlabel
    constructor
    · intro hread
      exact Label.isBlank_of_mem_fieldName hread
    · intro hfield
      exact Label.ofText_text (isReadable_of_mem_labels hlabel hfield)
  refine ⟨hread, ⟨?_, ?_⟩, ?_⟩
  · rintro ⟨hall, -⟩ struct hstruct field hfield
    have hlabel : Label.getter struct.name field.name field.type ∈ (ofSource text).labels := by
      refine List.mem_append_left _ (List.mem_flatMap.2 ⟨struct, hstruct, ?_⟩)
      exact List.mem_append_left _ (List.mem_flatMap.2 ⟨field, hfield, by simp⟩)
    exact (hread _ hlabel).1 (hall _ hlabel)
  · intro hfields
    have hall : ∀ label ∈ (ofSource text).labels, Label.ofText label.text = .ok label := by
      intro label hlabel
      rw [hread label hlabel]
      rcases mem_labels hlabel with ⟨struct, hstruct, hmem⟩ | ⟨interface, -, rfl⟩
      · obtain ⟨fragment, hoffers⟩ := Struct.offers_of_mem_labels hmem .exported
        cases hoffers with
        | getter hfield => exact hfields struct hstruct _ hfield
        | setter hfield => exact hfields struct hstruct _ hfield
        | constructor =>
          intro c hc
          cases hc
        | builder =>
          intro c hc
          cases hc
      · intro c hc
        cases hc
    refine ⟨hall, ?_⟩
    have hlabels : (ofSource text).labels.Nodup :=
      nodup_labels (nodup_structs text) (nodup_interfaces text) fun _ => nodup_fields
    -- two labels of one text would both be what is read from it
    apply hlabels.map_on
    intro one hone other hother heq
    have hsame := hall one hone
    rw [heq, hall other hother] at hsame
    exact (Except.ok.inj hsame).symm
  · intro naming label hlabel
    rcases mem_labels hlabel with ⟨struct, hstruct, hmem⟩ | hbare
    · obtain ⟨fragment, hoffers⟩ := Struct.offers_of_mem_labels hmem naming
      exact .inr ⟨struct, hstruct, fragment, hoffers,
        generate_of_offers (nodup_structs text) hstruct (nodup_fields hstruct) hoffers⟩
    · exact .inl hbare

/-- The first name of `a b, c int` has a blank, and its labels are not read back. -/
theorem label_with_blank_not_read_back :
    ∃ label ∈ (ofSource "type T struct \x7b\n\ta b, c int\n\x7d\n").labels,
      Label.ofText label.text ≠ .ok label :=
  ⟨.getter ['T'] "a b" "int", by decide +kernel, by decide +kernel⟩

end Catalog

end GoScaffold
