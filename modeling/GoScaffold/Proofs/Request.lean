import GoScaffold.Proofs.FirstFailure
import GoScaffold.Proofs.Keyed
import GoScaffold.Request

/-!
# What a request gives

A request is answered from the declarations that it finds in the catalog, and only a request that
names one that is not there is refused.
-/

namespace GoScaffold

namespace Catalog

variable {catalog : Catalog}

theorem findStruct_eq_ok_iff {name : Text} {struct : Struct} :
    catalog.findStruct name = .ok struct ↔ catalog.struct? name = some struct := by
  unfold findStruct
  cases catalog.struct? name with
  | none => simp only [reduceCtorEq]
  | some found => simp only [Except.ok.injEq, Option.some.injEq]

theorem findInterface_eq_ok_iff {name : Text} {interface : Interface} :
    catalog.findInterface name = .ok interface ↔ catalog.interface? name = some interface := by
  unfold findInterface
  cases catalog.interface? name with
  | none => simp only [reduceCtorEq]
  | some found => simp only [Except.ok.injEq, Option.some.injEq]

theorem findField_eq_ok_iff {structName fieldName : Text} {struct : Struct} {field : Field} :
    catalog.findField structName fieldName = .ok (struct, field) ↔
      catalog.struct? structName = some struct ∧ struct.field? fieldName = some field := by
  unfold findField
  rw [bind_eq_ok_iff]
  constructor
  · rintro ⟨found, hfound, hfield⟩
    split at hfield
    next member hmember =>
      cases hfield
      exact ⟨findStruct_eq_ok_iff.1 hfound, hmember⟩
    next => cases hfield
  · rintro ⟨hstruct, hfield⟩
    refine ⟨struct, findStruct_eq_ok_iff.2 hstruct, ?_⟩
    rw [hfield]

theorem struct?_eq_none_iff {name : Text} :
    catalog.struct? name = none ↔ ∀ struct ∈ catalog.structs, struct.name ≠ name :=
  Keyed.get?_eq_none_iff

theorem interface?_eq_none_iff {name : Text} :
    catalog.interface? name = none ↔ ∀ interface ∈ catalog.interfaces, interface.name ≠ name :=
  Keyed.get?_eq_none_iff

theorem field?_eq_none_iff {struct : Struct} {name : Text} :
    struct.field? name = none ↔ ∀ field ∈ struct.fields, field.name ≠ name :=
  Keyed.get?_eq_none_iff

theorem findStruct_eq_error_iff {name : Text} {failure : GenerateError} :
    catalog.findStruct name = .error failure ↔
      (∀ struct ∈ catalog.structs, struct.name ≠ name) ∧ .unknownStruct name = failure := by
  rw [← struct?_eq_none_iff]
  unfold findStruct
  cases catalog.struct? name with
  | none => simp only [Except.error.injEq, true_and]
  | some found => simp only [reduceCtorEq, false_and]

theorem findInterface_eq_error_iff {name : Text} {failure : GenerateError} :
    catalog.findInterface name = .error failure ↔
      (∀ interface ∈ catalog.interfaces, interface.name ≠ name) ∧ .unknownInterface name = failure := by
  rw [← interface?_eq_none_iff]
  unfold findInterface
  cases catalog.interface? name with
  | none => simp only [Except.error.injEq, true_and]
  | some found => simp only [reduceCtorEq, false_and]

/-- A struct that is not there is told before its field is looked for. -/
theorem findField_eq_error_iff {structName fieldName : Text} {failure : GenerateError} :
    catalog.findField structName fieldName = .error failure ↔
      catalog.findStruct structName = .error failure ∨
        ∃ struct, catalog.struct? structName = some struct ∧
          (∀ field ∈ struct.fields, field.name ≠ fieldName) ∧
            .unknownField structName fieldName = failure := by
  unfold findField
  rw [bind_eq_error_iff]
  apply or_congr_right
  apply exists_congr
  intro struct
  rw [findStruct_eq_ok_iff]
  apply and_congr_right
  intro hstruct
  obtain ⟨-, rfl⟩ := Keyed.get?_eq_some hstruct
  rw [← field?_eq_none_iff]
  cases struct.field? fieldName with
  | none => simp only [Except.error.injEq, true_and]
  | some found => simp only [reduceCtorEq, false_and]

end Catalog

/-- The answers to the requests, each with what has to be found for it. -/
inductive Request.Answer (catalog : Catalog) : Request → Fragment → Prop
  | getter {structName fieldName : Text} {naming : Naming} {struct : Struct} {field : Field}
      (hstruct : catalog.struct? structName = some struct)
      (hfield : struct.field? fieldName = some field) :
    Answer catalog (.getter structName fieldName naming)
      [.func (GoScaffold.getter struct.name field naming)]
  | setter {structName fieldName : Text} {struct : Struct} {field : Field}
      (hstruct : catalog.struct? structName = some struct)
      (hfield : struct.field? fieldName = some field) :
    Answer catalog (.setter structName fieldName) [.func (GoScaffold.setter struct.name field)]
  | constructor {structName : Text} {struct : Struct}
      (hstruct : catalog.struct? structName = some struct) :
    Answer catalog (.constructor structName) [.func struct.constructor]
  | builder {structName : Text} {struct : Struct}
      (hstruct : catalog.struct? structName = some struct) :
    Answer catalog (.builder structName) struct.builder
  | stubs {interfaceName target : Text} {interface : Interface}
      (hinterface : catalog.interface? interfaceName = some interface) :
    Answer catalog (.stubs interfaceName target) (interface.stubs target)
  | handler {target : Text} {verbs : List Verb} :
    Answer catalog (.handler target verbs) [.func (GoScaffold.handler target verbs)]

theorem Catalog.generate_eq_ok_iff {catalog : Catalog} {request : Request} {fragment : Fragment} :
    catalog.generate request = .ok fragment ↔ request.Answer catalog fragment := by
  constructor
  · intro h
    cases request with
    | getter structName fieldName naming =>
      obtain ⟨⟨struct, field⟩, hfound, ⟨⟩⟩ := bind_eq_ok_iff.1 h
      obtain ⟨hstruct, hfield⟩ := findField_eq_ok_iff.1 hfound
      exact .getter hstruct hfield
    | setter structName fieldName =>
      obtain ⟨⟨struct, field⟩, hfound, ⟨⟩⟩ := bind_eq_ok_iff.1 h
      obtain ⟨hstruct, hfield⟩ := findField_eq_ok_iff.1 hfound
      exact .setter hstruct hfield
    | constructor structName =>
      obtain ⟨struct, hfound, ⟨⟩⟩ := bind_eq_ok_iff.1 h
      exact .constructor (findStruct_eq_ok_iff.1 hfound)
    | builder structName =>
      obtain ⟨struct, hfound, ⟨⟩⟩ := bind_eq_ok_iff.1 h
      exact .builder (findStruct_eq_ok_iff.1 hfound)
    | stubs interfaceName target =>
      obtain ⟨interface, hfound, ⟨⟩⟩ := bind_eq_ok_iff.1 h
      exact .stubs (findInterface_eq_ok_iff.1 hfound)
    | handler target verbs =>
      cases h
      exact .handler
  · intro h
    cases h with
    | getter hstruct hfield => exact bind_eq_ok_iff.2 ⟨_, findField_eq_ok_iff.2 ⟨hstruct, hfield⟩, rfl⟩
    | setter hstruct hfield => exact bind_eq_ok_iff.2 ⟨_, findField_eq_ok_iff.2 ⟨hstruct, hfield⟩, rfl⟩
    | constructor hstruct => exact bind_eq_ok_iff.2 ⟨_, findStruct_eq_ok_iff.2 hstruct, rfl⟩
    | builder hstruct => exact bind_eq_ok_iff.2 ⟨_, findStruct_eq_ok_iff.2 hstruct, rfl⟩
    | stubs hinterface => exact bind_eq_ok_iff.2 ⟨_, findInterface_eq_ok_iff.2 hinterface, rfl⟩
    | handler => rfl

end GoScaffold
