import GoScaffold.Code.Printer
import GoScaffold.Proofs.Catalog.Methods
import GoScaffold.Proofs.Parameter.Written
import GoScaffold.Scaffold.Target

/-!
# Stubs have the signatures of their methods

A method of an interface as it is written: its name, a parameter list, and nothing, one
type or a list in parentheses for its results.  Its stub declares the same parameters in
the same order and repeats the results, and no two names in its scope are the same when
those written are different.
-/

namespace GoScaffold

open Param (Written WrittenType Slot)

/-! ### Written methods -/

inductive WrittenResult where
  | none
  | single (type : WrittenType)
  | list (listed : Written)

def WrittenResult.text : WrittenResult → Text
  | none => []
  | single type => type.text
  | list listed => '(' :: (listed.text ++ [')'])

/-- The names that a result list declares. -/
def WrittenResult.names : WrittenResult → List Text
  | none => []
  | single _ => []
  | list listed => listed.names

structure WrittenMethod where
  name : GoName
  params : Written
  result : WrittenResult

def WrittenMethod.method (written : WrittenMethod) : Method :=
  ⟨written.name.text ++ '(' :: (written.params.text ++ [')']), written.result.text⟩

namespace WrittenMethod

variable (written : WrittenMethod)

theorem name_method : written.method.name = written.name.text := by
  have hname := Method.name_declared written.params.text written.result.text written.name.not_mem_parenthesis
  rw [Text.trim_of_isTrimmed (Param.isTrimmed_of_goName written.name)] at hname
  exact hname

theorem params_method : written.method.params = written.params.text :=
  Method.params_declared written.params.text written.result.text written.name.not_mem_parenthesis

/-! ### Results -/

theorem parenthesized?_list (text : Text) :
    Param.parenthesized? (Text.trim ('(' :: (text ++ [')']))) = some text := by
  have htrimmed : Text.IsTrimmed ('(' :: (text ++ [')'])) := by
    constructor
    · rintro c ⟨rfl⟩
      decide
    · intro c hc
      rw [← List.cons_append, List.getLast?_append_of_ne_nil _ (List.cons_ne_nil _ _)] at hc
      obtain rfl : ')' = c := Option.some.inj hc
      decide
  rw [Text.trim_of_isTrimmed htrimmed]
  simp [Param.parenthesized?]

/-- A result list that gives names is read with these names. -/
theorem resultNames_groups (listed : List Param.Group) :
    Param.resultNames (WrittenResult.list (.groups listed)).text = (Written.groups listed).names := by
  have hnamed : ∀ slot ∈ (Written.groups listed).slots, slot.name?.isSome = true := by
    intro slot hslot
    obtain ⟨group, -, hslot⟩ := List.mem_flatMap.1 hslot
    obtain ⟨name, -, rfl⟩ := List.mem_map.1 hslot
    rfl
  rw [Param.resultNames, WrittenResult.text, parenthesized?_list]
  dsimp only
  cases listed with
  | nil => rfl
  | cons group listed =>
    have hany : (Param.entries (Written.groups (group :: listed)).text).any
        (fun entry => entry.namedType?.isSome) = true := by
      rw [List.any_eq_true]
      refine ⟨.named group.last.text group.type.text, ?_, rfl⟩
      rw [Param.entries_groups, List.flatMap_cons]
      simp
    rw [if_pos hany, Param.ofList, Param.settle_entries, Param.names_fill_of_named hnamed]
    rfl

theorem mem_resultNames {name : Text} (h : name ∈ written.result.names) :
    name ∈ written.method.resultNames := by
  rw [method, Method.resultNames]
  cases hresult : written.result with
  | none =>
    rw [hresult] at h
    cases h
  | single type =>
    rw [hresult] at h
    cases h
  | list listed =>
    rw [hresult] at h
    cases listed with
    | groups listed => rwa [resultNames_groups]
    | types listed =>
      rw [WrittenResult.names, Written.names, Written.slots, List.filterMap_map] at h
      obtain ⟨unnamed, -, hnone⟩ := List.mem_filterMap.1 h
      cases hnone

/-! ### Names in the scope of a stub -/

theorem namedParams_method :
    written.method.namedParams =
      Param.fill (written.params.names ++ written.method.resultNames) written.params.slots := by
  rw [Method.namedParams, Param.ofList, params_method, Param.settle_entries]
  rfl

/-- Names that are written once each stay different, and what is made up avoids them all. -/
theorem nodup_scope (hnames : (written.params.names ++ written.result.names).Nodup) :
    (written.method.namedParams.map Param.name ++ written.result.names).Nodup := by
  obtain ⟨hparams, hresults, hapart⟩ := List.nodup_append.1 hnames
  rw [namedParams_method, List.nodup_append]
  have hfills := Param.fills_fill (written.params.names ++ written.method.resultNames) written.params.slots
  refine ⟨?_, hresults, ?_⟩
  · exact (hfills.nodup_names_iff fun _ hname => List.mem_append_left _ hname).2 hparams
  · intro name hname result hresult
    rcases List.mem_append.1 (hfills.names_perm.subset hname) with hwritten | hmade
    · exact hapart name hwritten result hresult
    · rintro rfl
      exact hfills.not_mem_of_mem_madeUp name hmade
        (List.mem_append_right _ (written.mem_resultNames hresult))

/-! ### The stub -/

theorem text_stub (interface target : Text) :
    (written.method.stub interface target).text =
      "\n// " ++ written.name.text ++ " implements " ++ interface ++ ".\nfunc (" ++
        written.method.stubReceiver target ++ " *" ++ target ++ ") " ++ written.name.text ++ ['('] ++
        Text.join ", " (written.method.namedParams.map Param.declaration) ++ [')'] ++
        (if written.result.text = [] then [] else ' ' :: written.result.text) ++
        " \x7b\n\t// TODO: implement\n\tpanic(\"not implemented\")\n\x7d" := by
  have hresult : written.method.result = written.result.text := rfl
  unfold Code.Func.text Code.Func.head
  simp only [Method.stub, Code.paramsText, Code.pointerTo, written.name_method, hresult]
  by_cases hnil : written.result.text = []
  · simp [hnil, Code.Stmt.text, Param.declaration]
  · simp [hnil, Code.Stmt.text, Param.declaration]

end WrittenMethod

/-- The text of a stub: it names the method and the interface, has one `name type` for each
parameter that the method declares, in order, with the name that is written if there is
one, and the results as they are written.  When all names that are written are different,
so are the receiver, the parameters and the named results. -/
theorem Method.stub_implements (interface target : Text) (written : WrittenMethod)
    (hreceiver : (receiver? target (written.method.namedParams.map Param.name ++
      written.method.resultNames)).isSome = true) :
    ∃ (object : Text) (params : List Param),
      isIdentifier object = true ∧
      (written.method.stub interface target).text =
        "\n// " ++ written.name.text ++ " implements " ++ interface ++ ".\nfunc (" ++ object ++ " *" ++
          target ++ ") " ++ written.name.text ++ ['('] ++
          Text.join ", " (params.map fun param => param.name ++ [' '] ++ param.type) ++ [')'] ++
          (if written.result.text = [] then [] else ' ' :: written.result.text) ++
          " \x7b\n\t// TODO: implement\n\tpanic(\"not implemented\")\n\x7d" ∧
      List.Forall₂ Slot.Fits written.params.slots params ∧
      ((written.params.names ++ written.result.names).Nodup →
        (object :: (params.map Param.name ++ written.result.names)).Nodup) := by
  obtain ⟨object, hobject⟩ := Option.isSome_iff_exists.1 hreceiver
  obtain ⟨hreceives, hidentifier, hfree⟩ := of_receiver?_eq_some hobject
  have htext := written.text_stub interface target
  have hstub : written.method.stubReceiver target = object := hreceives
  rw [hstub] at htext
  refine ⟨object, written.method.namedParams, hidentifier, htext, ?_, ?_⟩
  · rw [written.namedParams_method]
    exact Param.forall₂_fits_fill _ _
  · intro hnames
    rw [List.nodup_cons]
    refine ⟨?_, written.nodup_scope hnames⟩
    intro hmem
    rcases List.mem_append.1 hmem with hparam | hresult
    · exact hfree (List.mem_append_left _ hparam)
    · exact hfree (List.mem_append_right _ (written.mem_resultNames hresult))

/-- `Convert([]byte, chan int) (n int, err error)`. -/
def WrittenMethod.convert : WrittenMethod :=
  let nothing : Param.Blanks := ⟨[], by decide⟩
  let space : Param.Blanks := ⟨[' '], by decide⟩
  let bytes : WrittenType := ⟨"[]byte", by decide, by decide +kernel,
    (by decide : Source.Bracketed 1 Param.isComma [] "[]byte").nested⟩
  let channel : WrittenType := ⟨"chan int", by decide, by decide +kernel,
    (by decide : Source.Bracketed 1 Param.isComma [] "chan int").nested⟩
  let int : WrittenType := ⟨"int", by decide, by decide +kernel,
    (by decide : Source.Bracketed 1 Param.isComma [] "int").nested⟩
  let error : WrittenType := ⟨"error", by decide, by decide +kernel,
    (by decide : Source.Bracketed 1 Param.isComma [] "error").nested⟩
  have hbytes : ∀ first second others, Text.words "[]byte" = first :: second :: others →
      isIdentifier first = false := by
    intro first second others h
    have hone : Text.words "[]byte" = ["[]byte"] := by decide +kernel
    rw [hone] at h
    cases h
  have hchannel : ∀ first second others, Text.words "chan int" = first :: second :: others →
      isIdentifier first = false := by
    intro first second others h
    have htwo : Text.words "chan int" = ["chan", "int"] := by decide +kernel
    rw [htwo] at h
    cases h
    decide +kernel
  { name := ⟨"Convert", by decide +kernel⟩
    params := .types [⟨nothing, bytes, hbytes, nothing⟩, ⟨space, channel, hchannel, nothing⟩]
    result := .list (.groups [⟨[], nothing, ⟨['n'], by decide +kernel⟩, space, by decide, int, nothing⟩,
      ⟨[], space, ⟨"err", by decide +kernel⟩, space, by decide, error, nothing⟩]) }

/-- Neither name that is made up for a bare type is the receiver or a result. -/
theorem Method.stub_implements_convert :
    let written := WrittenMethod.convert
    (receiver? "Codec" (written.method.namedParams.map Param.name ++
      written.method.resultNames)).isSome = true ∧
    ∃ (object : Text) (params : List Param),
      (written.method.stub "Converter" "Codec").text =
        "\n// Convert implements Converter.\nfunc (" ++ object ++ " *Codec) Convert(" ++
          Text.join ", " (params.map fun param => param.name ++ [' '] ++ param.type) ++ [')'] ++
          " (n int, err error) \x7b\n\t// TODO: implement\n\tpanic(\"not implemented\")\n\x7d" ∧
      params.map Param.type = ["[]byte", "chan int"] ∧
      (object :: (params.map Param.name ++ [("n" : Text), "err"])).Nodup := by
  have hreceiver : (receiver? "Codec" (WrittenMethod.convert.method.namedParams.map Param.name ++
      WrittenMethod.convert.method.resultNames)).isSome = true := by decide +kernel
  refine ⟨hreceiver, ?_⟩
  obtain ⟨object, params, -, htext, hfits, hnodup⟩ :=
    Method.stub_implements "Converter" "Codec" WrittenMethod.convert hreceiver
  refine ⟨object, params, ?_, ?_, hnodup (by decide +kernel)⟩
  · have hname : WrittenMethod.convert.name.text = "Convert" := rfl
    have hresult : WrittenMethod.convert.result.text = "(n int, err error)" := by decide +kernel
    rw [htext, hname, hresult, if_neg (by decide)]
    simp only [List.append_assoc]
    rfl
  · cases hfits with
    | cons hbytes hothers =>
      cases hothers with
      | cons hchannel hnone =>
        cases hnone
        rw [List.map_cons, List.map_cons, List.map_nil, hbytes.1, hchannel.1]
        rfl

end GoScaffold
