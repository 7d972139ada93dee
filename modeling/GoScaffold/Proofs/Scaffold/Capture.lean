import GoScaffold.Proofs.Scaffold.Builder
import GoScaffold.Proofs.Scaffold.MemberNames

/-!
# Names that hide what a body uses

The constructor of `T` calls `new(T)` and takes parameters that are called like the fields; the
method `Build` returns a `&T{…}` and declares a receiver that only avoids the fields.  A
parameter or receiver called `new` or `T` would hide the function or the type.
-/

namespace GoScaffold

namespace Struct

/-- The constructor and `Build` declare nothing that hides what their bodies use. -/
structure Uncaptured (struct : Struct) : Prop where
  params : ∀ param ∈ struct.constructor.params, param.name ≠ "new" ∧ param.name ≠ struct.name
  object : ∀ object ∈ struct.build.receiver?, object.name ≠ struct.name

variable {struct : Struct}

theorem forall_mem_constructor_params_iff :
    (∀ param ∈ struct.constructor.params, param.name ≠ "new" ∧ param.name ≠ struct.name) ↔
      ("new" : Text) ∉ struct.fieldNames ∧ struct.name ∉ struct.fieldNames := by
  have hnames : ∀ name : Text, (∀ param ∈ struct.params, param.name ≠ name) ↔ name ∉ struct.fieldNames := by
    intro name
    simp [params, fieldNames, Field.toParam]
  rw [← hnames, ← hnames, ← forall₂_and]
  rfl

theorem decapitalize_builderName (hne : struct.name ≠ []) :
    decapitalize struct.builderName = decapitalize struct.name ++ "Builder" := by
  obtain ⟨c, rest, hname⟩ := List.exists_cons_of_ne_nil hne
  rw [builderName, hname, List.cons_append, decapitalize, decapitalize, List.append_assoc]

/-- The receiver of the builder is called like the struct only when decapitalizing leaves that
name as it is, and then when the name is free and no shorter initials of it are. -/
theorem receiver_builderName_ne_iff (hname : Source.isAsciiIdentifier struct.name = true)
    (hfree : struct.name ∉ struct.fieldNames) :
    receiver struct.builderName struct.fieldNames ≠ struct.name ↔
      (decapitalize struct.name = struct.name → isKeyword struct.name = true ∨
        ∃ initial ∈ initials struct.name,
          initial ≠ struct.name ∧ isFree struct.fieldNames initial = true) := by
  have hne : struct.name ≠ [] := (isWord_of_isAsciiIdentifier hname).1
  by_cases hsmall : decapitalize struct.name = struct.name
  · have hinitial : struct.name ∈ initials (decapitalize struct.builderName) := by
      rw [decapitalize_builderName hne, hsmall, mem_initials_iff]
      exact ⟨hne, List.prefix_append _ _⟩
    have hself : isFree struct.fieldNames struct.name = !isKeyword struct.name := by
      rw [isFree, isIdentifier_of_isAsciiIdentifier hname]
      simp [hfree]
    rw [Ne, receiver_eq_initial_iff hinitial, hself, not_and_or]
    simp only [hsmall, forall_const, Bool.not_eq_true', Bool.not_eq_false, not_forall, exists_prop]
  · refine iff_of_true ?_ fun hsame => absurd hsame hsmall
    intro hhides
    apply hsmall
    obtain ⟨c, rest, hcons⟩ := List.exists_cons_of_ne_nil hne
    rw [hcons] at hname
    have hlower := decapitalize_of_isAsciiIdentifier hname
    have hhead : (decapitalize struct.builderName).head? = some c.toLower := by
      rw [decapitalize_builderName hne, hcons, hlower]
      rfl
    have hreceiver := head?_receiver hhead struct.fieldNames
    rw [hhides, hcons, List.head?_cons, Option.some.injEq] at hreceiver
    rw [hcons, hlower, ← hreceiver]

end Struct

namespace Catalog

/-- Nothing in the constructor and in `Build` of a struct `T` is captured exactly when no field
is called `new` or `T` and the search for a receiver does not come to `T`: decapitalizing
changes it, or it is a keyword, or shorter initials of it are free.  When `T` starts uppercase
all that matters is that no field is called `new`. -/
theorem uncaptured_iff (text : Text) : ∀ struct ∈ (ofSource text).structs,
    (struct.Uncaptured ↔
      ("new" : Text) ∉ struct.fieldNames ∧ struct.name ∉ struct.fieldNames ∧
        (decapitalize struct.name = struct.name → isKeyword struct.name = true ∨
          ∃ initial ∈ initials struct.name,
            initial ≠ struct.name ∧ isFree struct.fieldNames initial = true)) ∧
      (startsUppercase struct.name = true → (struct.Uncaptured ↔ ("new" : Text) ∉ struct.fieldNames)) := by
  intro struct hstruct
  obtain ⟨-, -, hname⟩ := struct_of_mem_ofSource hstruct
  have hiff : struct.Uncaptured ↔
      ("new" : Text) ∉ struct.fieldNames ∧ struct.name ∉ struct.fieldNames ∧
        (decapitalize struct.name = struct.name → isKeyword struct.name = true ∨
          ∃ initial ∈ initials struct.name,
            initial ≠ struct.name ∧ isFree struct.fieldNames initial = true) := by
    constructor
    · rintro ⟨hparams, hobject⟩
      obtain ⟨hnew, hfree⟩ := Struct.forall_mem_constructor_params_iff.1 hparams
      exact ⟨hnew, hfree, (Struct.receiver_builderName_ne_iff hname hfree).1 (hobject _ rfl)⟩
    · rintro ⟨hnew, hfree, hinitials⟩
      refine ⟨Struct.forall_mem_constructor_params_iff.2 ⟨hnew, hfree⟩, ?_⟩
      intro object hobject
      obtain rfl := Option.some.inj hobject
      exact (Struct.receiver_builderName_ne_iff hname hfree).2 hinitials
  refine ⟨hiff, ?_⟩
  intro hupper
  rw [hiff]
  constructor
  · rintro ⟨hnew, -⟩
    exact hnew
  · intro hnew
    refine ⟨hnew, ?_, ?_⟩
    · intro hmem
      have hlower := (isUnexported_of_mem_fieldNames hstruct _ hmem).startsUppercase_eq_false
      rw [hupper] at hlower
      cases hlower
    · intro hsame
      exact absurd hsame (decapitalize_ne_of_startsUppercase hname hupper)

theorem uncaptured_point :
    ∃ struct ∈ (ofSource "type point struct \x7b\n\tx, y int\n\x7d\n").structs,
      struct.fieldNames = [['x'], ['y']] ∧ struct.Uncaptured := by
  have hmem : (⟨"point", [⟨['x'], "int"⟩, ⟨['y'], "int"⟩]⟩ : Struct) ∈
      (ofSource "type point struct \x7b\n\tx, y int\n\x7d\n").structs := by decide +kernel
  refine ⟨_, hmem, rfl, (uncaptured_iff _ _ hmem).1.2 ⟨by decide, by decide, ?_⟩⟩
  intro _
  exact .inr ⟨['p'], by decide, by decide, by decide +kernel⟩

/-- The parameter `new` hides the function that the constructor calls, and the receiver `t` the
type that `Build` returns. -/
theorem new_and_type_captured :
    ∃ struct ∈ (ofSource "type t struct \x7b\n\tnew int\n\x7d\n").structs,
      (∃ param ∈ struct.constructor.params, param.name = "new") ∧
        ∃ object ∈ struct.build.receiver?, object.name = struct.name :=
  ⟨⟨['t'], [⟨"new", "int"⟩]⟩, by decide +kernel, ⟨⟨"new", "int"⟩, by decide, rfl⟩,
    ⟨['t'], "*tBuilder"⟩, by decide +kernel, rfl⟩

end Catalog

end GoScaffold
