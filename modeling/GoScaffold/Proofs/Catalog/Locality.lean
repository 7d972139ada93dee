import GoScaffold.Proofs.Catalog.Insertions
import GoScaffold.Proofs.Request
import GoScaffold.Proofs.Scaffold.Variables

/-!
# A request reads one declaration

What a request gives depends on the one struct or interface that it names.  A request that names
something that is not in the catalog is refused with just that, and any other request gives code.
What is inserted under other names is not noticed.
-/

namespace GoScaffold

namespace Request

/-! ### What a request names -/

def structName? : Request → Option Text
  | getter struct _ _ => some struct
  | setter struct _ => some struct
  | constructor struct => some struct
  | builder struct => some struct
  | stubs _ _ => none
  | handler _ _ => none

def fieldName? : Request → Option Text
  | getter _ field _ => some field
  | setter _ field => some field
  | _ => none

def interfaceName? : Request → Option Text
  | stubs interface _ => some interface
  | _ => none

/-- What a request names and a catalog does not have.  A field is missed only in a struct that is
there. -/
inductive Misses (catalog : Catalog) (request : Request) : GenerateError → Prop
  | struct {name : Text} (hnamed : request.structName? = some name)
      (habsent : ∀ struct ∈ catalog.structs, struct.name ≠ name) :
    Misses catalog request (.unknownStruct name)
  | field {structName fieldName : Text} {struct : Struct} (hnamed : request.structName? = some structName)
      (hmember : request.fieldName? = some fieldName) (hstruct : catalog.struct? structName = some struct)
      (habsent : ∀ field ∈ struct.fields, field.name ≠ fieldName) :
    Misses catalog request (.unknownField structName fieldName)
  | interface {name : Text} (hnamed : request.interfaceName? = some name)
      (habsent : ∀ interface ∈ catalog.interfaces, interface.name ≠ name) :
    Misses catalog request (.unknownInterface name)

/-! ### Receivers -/

/-- The types for which a request needs a receiver, each with the names that the receiver avoids. -/
inductive Searches (catalog : Catalog) : Request → Text → List Text → Prop
  | getter {structName fieldName : Text} {naming : Naming} {struct : Struct} {field : Field}
      (hstruct : catalog.struct? structName = some struct)
      (hfield : struct.field? fieldName = some field) :
    Searches catalog (.getter structName fieldName naming) struct.name []
  | setter {structName fieldName : Text} {struct : Struct} {field : Field}
      (hstruct : catalog.struct? structName = some struct)
      (hfield : struct.field? fieldName = some field) :
    Searches catalog (.setter structName fieldName) struct.name [field.name]
  | constructor {structName : Text} {struct : Struct}
      (hstruct : catalog.struct? structName = some struct) :
    Searches catalog (.constructor structName) struct.name struct.fieldNames
  | builder {structName : Text} {struct : Struct}
      (hstruct : catalog.struct? structName = some struct) :
    Searches catalog (.builder structName) struct.builderName struct.fieldNames
  | stubs {interfaceName target : Text} {interface : Interface} {method : Method}
      (hinterface : catalog.interface? interfaceName = some interface)
      (hmethod : method ∈ interface.methods) :
    Searches catalog (.stubs interfaceName target) target
      (method.namedParams.map Param.name ++ method.resultNames)
  | handler {target : Text} {verbs : List Verb} :
    Searches catalog (.handler target verbs) target ["w", "r"]

/-- Every search for a receiver finds one. -/
def Ends (request : Request) (catalog : Catalog) : Prop :=
  ∀ type taken, request.Searches catalog type taken → (receiver? type taken).isSome = true

theorem Answer.exists_searches {catalog : Catalog} {request : Request} {fragment : Fragment}
    (h : request.Answer catalog fragment) {func : Code.Func} (hfunc : func ∈ fragment.funcs)
    {object : Text} (hobject : object ∈ func.objects) :
    ∃ type taken, request.Searches catalog type taken ∧ object = receiver type taken := by
  cases h with
  | getter hstruct hfield =>
    obtain rfl := List.mem_singleton.1 hfunc
    exact ⟨_, _, .getter hstruct hfield, List.mem_singleton.1 hobject⟩
  | setter hstruct hfield =>
    obtain rfl := List.mem_singleton.1 hfunc
    exact ⟨_, _, .setter hstruct hfield, List.mem_singleton.1 hobject⟩
  | constructor hstruct =>
    obtain rfl := List.mem_singleton.1 hfunc
    rw [Struct.objects_constructor] at hobject
    exact ⟨_, _, .constructor hstruct, List.mem_singleton.1 hobject⟩
  | builder hstruct =>
    rw [Struct.funcs_builder] at hfunc
    refine ⟨_, _, .builder hstruct, ?_⟩
    rcases List.mem_cons.1 hfunc with rfl | hfunc
    · cases hobject
    rcases List.mem_append.1 hfunc with hstep | hbuild
    · obtain ⟨field, -, rfl⟩ := List.mem_map.1 hstep
      exact List.mem_singleton.1 hobject
    · obtain rfl := List.mem_singleton.1 hbuild
      exact List.mem_singleton.1 hobject
  | stubs hinterface =>
    obtain ⟨decl, hdecl, hfunc⟩ := List.mem_filterMap.1 hfunc
    obtain ⟨method, hmethod, rfl⟩ := List.mem_map.1 hdecl
    obtain rfl := Option.some.inj hfunc
    exact ⟨_, _, .stubs hinterface hmethod, List.mem_singleton.1 hobject⟩
  | handler =>
    obtain rfl := List.mem_singleton.1 hfunc
    exact ⟨_, _, .handler, List.mem_singleton.1 hobject⟩

/-! ### Catalogs that a request does not tell apart -/

/-- Both catalogs have the same under the name that the request looks up. -/
structure Agrees (request : Request) (one other : Catalog) : Prop where
  struct? : ∀ name, request.structName? = some name → one.struct? name = other.struct? name
  interface? : ∀ name, request.interfaceName? = some name → one.interface? name = other.interface? name

variable {request : Request} {one other : Catalog}

theorem Agrees.searches (h : request.Agrees one other) {type : Text} {taken : List Text}
    (hsearches : request.Searches one type taken) : request.Searches other type taken := by
  cases hsearches with
  | getter hstruct hfield => exact .getter ((h.struct? _ rfl).symm.trans hstruct) hfield
  | setter hstruct hfield => exact .setter ((h.struct? _ rfl).symm.trans hstruct) hfield
  | constructor hstruct => exact .constructor ((h.struct? _ rfl).symm.trans hstruct)
  | builder hstruct => exact .builder ((h.struct? _ rfl).symm.trans hstruct)
  | stubs hinterface hmethod => exact .stubs ((h.interface? _ rfl).symm.trans hinterface) hmethod
  | handler => exact .handler

theorem Agrees.generate_eq (h : request.Agrees one other) : one.generate request = other.generate request := by
  cases request with
  | getter structName fieldName naming =>
    simp only [Catalog.generate, Catalog.findField, Catalog.findStruct, h.struct? structName rfl]
  | setter structName fieldName =>
    simp only [Catalog.generate, Catalog.findField, Catalog.findStruct, h.struct? structName rfl]
  | constructor structName => simp only [Catalog.generate, Catalog.findStruct, h.struct? structName rfl]
  | builder structName => simp only [Catalog.generate, Catalog.findStruct, h.struct? structName rfl]
  | stubs interfaceName target =>
    simp only [Catalog.generate, Catalog.findInterface, h.interface? interfaceName rfl]
  | handler target verbs => rfl

end Request

/-- What is inserted has another name than what the request looks up. -/
def Insertion.Spares (request : Request) : Insertion → Prop
  | struct inserted => request.structName? ≠ some inserted.name
  | interface inserted => request.interfaceName? ≠ some inserted.name

namespace Catalog

theorem agrees_insert (catalog : Catalog) {request : Request} {insertion : Insertion}
    (h : insertion.Spares request) : request.Agrees (catalog.insert insertion) catalog := by
  cases insertion with
  | struct inserted =>
    refine ⟨?_, fun _ _ => rfl⟩
    intro name hnamed
    apply Keyed.get?_put_of_ne
    rintro rfl
    exact h hnamed
  | interface inserted =>
    refine ⟨fun _ _ => rfl, ?_⟩
    intro name hnamed
    apply Keyed.get?_put_of_ne
    rintro rfl
    exact h hnamed

theorem agrees_insertAll (catalog : Catalog) {request : Request} {run : List Insertion}
    (h : ∀ insertion ∈ run, insertion.Spares request) :
    request.Agrees (catalog.insertAll run) catalog := by
  induction run generalizing catalog with
  | nil => exact ⟨fun _ _ => rfl, fun _ _ => rfl⟩
  | cons insertion run ih =>
    obtain ⟨hfirst, hrest⟩ := List.forall_mem_cons.1 h
    have hone := catalog.agrees_insert hfirst
    have hothers := ih (catalog.insert insertion) hrest
    exact ⟨fun name hnamed => (hothers.struct? name hnamed).trans (hone.struct? name hnamed),
      fun name hnamed => (hothers.interface? name hnamed).trans (hone.interface? name hnamed)⟩

/-! ### Requests that are refused -/

section

variable {catalog : Catalog} {request : Request} {failure : GenerateError}

theorem misses_of_findStruct {name : Text} (hnamed : request.structName? = some name)
    (h : catalog.findStruct name = .error failure) : request.Misses catalog failure := by
  obtain ⟨habsent, rfl⟩ := findStruct_eq_error_iff.1 h
  exact .struct hnamed habsent

theorem misses_of_findField {structName fieldName : Text} (hnamed : request.structName? = some structName)
    (hmember : request.fieldName? = some fieldName)
    (h : catalog.findField structName fieldName = .error failure) : request.Misses catalog failure := by
  rcases findField_eq_error_iff.1 h with hfind | ⟨struct, hstruct, habsent, rfl⟩
  · exact misses_of_findStruct hnamed hfind
  · exact .field hnamed hmember hstruct habsent

theorem generate_eq_error_iff : catalog.generate request = .error failure ↔ request.Misses catalog failure := by
  constructor
  · intro h
    -- Once the look-up of a request has succeeded nothing refuses it any more.
    cases request with
    | getter structName fieldName naming =>
      rcases bind_eq_error_iff.1 h with hfind | ⟨found, -, ⟨⟩⟩
      exact misses_of_findField rfl rfl hfind
    | setter structName fieldName =>
      rcases bind_eq_error_iff.1 h with hfind | ⟨found, -, ⟨⟩⟩
      exact misses_of_findField rfl rfl hfind
    | constructor structName =>
      rcases bind_eq_error_iff.1 h with hfind | ⟨found, -, ⟨⟩⟩
      exact misses_of_findStruct rfl hfind
    | builder structName =>
      rcases bind_eq_error_iff.1 h with hfind | ⟨found, -, ⟨⟩⟩
      exact misses_of_findStruct rfl hfind
    | stubs interfaceName target =>
      rcases bind_eq_error_iff.1 h with hfind | ⟨found, -, ⟨⟩⟩
      obtain ⟨habsent, rfl⟩ := findInterface_eq_error_iff.1 hfind
      exact .interface rfl habsent
    | handler target verbs => cases h
  · rintro (⟨hnamed, habsent⟩ | ⟨hnamed, hmember, hstruct, habsent⟩ | ⟨hnamed, habsent⟩)
    · have hfind := findStruct_eq_error_iff.2 ⟨habsent, rfl⟩
      cases request <;> cases hnamed
      · exact bind_eq_error_iff.2 (.inl (findField_eq_error_iff.2 (.inl hfind)))
      · exact bind_eq_error_iff.2 (.inl (findField_eq_error_iff.2 (.inl hfind)))
      · exact bind_eq_error_iff.2 (.inl hfind)
      · exact bind_eq_error_iff.2 (.inl hfind)
    · have hfind := findField_eq_error_iff.2 (.inr ⟨_, hstruct, habsent, rfl⟩)
      cases request <;> cases hnamed <;> cases hmember
      · exact bind_eq_error_iff.2 (.inl hfind)
      · exact bind_eq_error_iff.2 (.inl hfind)
    · have hfind := findInterface_eq_error_iff.2 ⟨habsent, rfl⟩
      cases request <;> cases hnamed
      exact bind_eq_error_iff.2 (.inl hfind)

end

/-- A request whose searches for receivers end gives the same, code or refusal, whatever is
inserted under other names than the one that it looks up, and a struct and an interface do not
stand in each other's way.  It is refused exactly for what it misses.  When it misses nothing it
gives code, and each variable of the code, parameters apart, is what one of the searches finds. -/
theorem generate_reads_named (catalog : Catalog) (request : Request) (hends : request.Ends catalog) :
    (∀ run, (∀ insertion ∈ run, Insertion.Spares request insertion) →
      request.Ends (catalog.insertAll run) ∧
        (catalog.insertAll run).generate request = catalog.generate request) ∧
    (∀ failure, catalog.generate request = .error failure ↔ request.Misses catalog failure) ∧
    ((∀ failure, ¬request.Misses catalog failure) →
      ∃ fragment, catalog.generate request = .ok fragment ∧
        ∀ func ∈ fragment.funcs, ∀ object ∈ func.objects, ∃ type taken,
          request.Searches catalog type taken ∧ receiver? type taken = some object) := by
  refine ⟨?_, fun _ => generate_eq_error_iff, ?_⟩
  · intro run hspares
    have hagrees := catalog.agrees_insertAll hspares
    exact ⟨fun type taken hsearches => hends type taken (hagrees.searches hsearches), hagrees.generate_eq⟩
  · intro hnone
    cases hgenerate : catalog.generate request with
    | error failure => exact absurd (generate_eq_error_iff.1 hgenerate) (hnone failure)
    | ok fragment =>
      refine ⟨fragment, rfl, ?_⟩
      intro func hfunc object hobject
      obtain ⟨type, taken, hsearches, rfl⟩ :=
        (generate_eq_ok_iff.1 hgenerate).exists_searches hfunc hobject
      obtain ⟨found, hfound⟩ := Option.isSome_iff_exists.1 (hends type taken hsearches)
      refine ⟨type, taken, hsearches, ?_⟩
      rw [receiver, hfound, Option.getD_some]

/-- An interface of the same name and a struct of another name change nothing for a getter. -/
theorem generate_reads_named_point :
    (Request.getter "Point" ['x'] .exported).Ends ⟨[Struct.point], []⟩ ∧
      (insertAll ⟨[Struct.point], []⟩ [.interface ⟨"Point", []⟩, .struct ⟨"Line", []⟩]).generate
          (.getter "Point" ['x'] .exported) =
        generate ⟨[Struct.point], []⟩ (.getter "Point" ['x'] .exported) ∧
      ∃ fragment, generate ⟨[Struct.point], []⟩ (.getter "Point" ['x'] .exported) = .ok fragment := by
  have hstruct : struct? ⟨[Struct.point], []⟩ "Point" = some Struct.point := by decide +kernel
  have hends : (Request.getter "Point" ['x'] .exported).Ends ⟨[Struct.point], []⟩ := by
    intro type taken hsearches
    cases hsearches with
    | getter hfound =>
      obtain rfl := Option.some.inj (hstruct.symm.trans hfound)
      decide +kernel
  have hnone : ∀ failure,
      ¬(Request.getter "Point" ['x'] .exported).Misses ⟨[Struct.point], []⟩ failure := by
    rintro failure (⟨hnamed, habsent⟩ | ⟨hnamed, hmember, hfound, habsent⟩ | ⟨hnamed, -⟩)
    · exact habsent Struct.point (List.mem_singleton_self _) (Option.some.inj hnamed)
    · obtain rfl := Option.some.inj hnamed
      obtain rfl := Option.some.inj (hstruct.symm.trans hfound)
      exact habsent ⟨['x'], "int"⟩ (by decide) (Option.some.inj hmember)
    · cases hnamed
  obtain ⟨hlocal, -, hcode⟩ := generate_reads_named _ _ hends
  refine ⟨hends, (hlocal _ ?_).2, ?_⟩
  · intro insertion hinsertion
    rcases List.mem_pair.1 hinsertion with rfl | rfl
    · rintro ⟨⟩
    · exact fun hnamed => absurd (Option.some.inj hnamed) (by decide)
  · obtain ⟨fragment, hfragment, -⟩ := hcode hnone
    exact ⟨fragment, hfragment⟩

end Catalog

end GoScaffold
