import GoScaffold.Catalog.OfSource
import GoScaffold.Proofs.Catalog.Insertions
import GoScaffold.Proofs.Identifier.Capitals
import GoScaffold.Proofs.Source.ClosedBraces

/-!
# What a catalog holds

The structs and the interfaces of a source text are insertions of their own, each in
the order of the declarations.  Names are different within each kind and within the
fields of a struct, and whatever the text is, the fields have collapsed types and
names without blanks at their ends.  Behind a text that closes its braces, all that
another declares is inserted into the catalog of the first.
-/

namespace GoScaffold

open Text (IsWord IsTrimmed IsCollapsed)

/-! ### Declarations -/

namespace Source.Declaration

def struct? (declaration : Declaration) : Option Struct :=
  match declaration.header.kind with
  | .struct => some (Struct.ofBody declaration.header.name declaration.body)
  | .interface => none

def interface? (declaration : Declaration) : Option Interface :=
  match declaration.header.kind with
  | .struct => none
  | .interface => some (Interface.ofBody declaration.header.name declaration.body)

def insertion (declaration : Declaration) : Insertion :=
  match declaration.header.kind with
  | .struct => .struct (Struct.ofBody declaration.header.name declaration.body)
  | .interface => .interface (Interface.ofBody declaration.header.name declaration.body)

theorem struct?_insertion (declaration : Declaration) : declaration.insertion.struct? = declaration.struct? := by
  obtain ⟨⟨name, kind⟩, body⟩ := declaration
  cases kind <;> rfl

theorem interface?_insertion (declaration : Declaration) :
    declaration.insertion.interface? = declaration.interface? := by
  obtain ⟨⟨name, kind⟩, body⟩ := declaration
  cases kind <;> rfl

end Source.Declaration

namespace Catalog

open Source (Declaration declarations)

theorem ofDeclarations_eq_ofInsertions (listed : List Declaration) :
    ofDeclarations listed = ofInsertions (listed.map Declaration.insertion) := by
  have hstep : insertDeclaration = fun catalog declaration => catalog.insert declaration.insertion := by
    funext catalog declaration
    obtain ⟨⟨name, kind⟩, body⟩ := declaration
    cases kind <;> rfl
  rw [ofDeclarations, hstep, ofInsertions, insertAll, List.foldl_map]

theorem ofDeclarations_eq (listed : List Declaration) :
    ofDeclarations listed =
      ⟨Keyed.putAll Struct.name (listed.filterMap Declaration.struct?),
        Keyed.putAll Interface.name (listed.filterMap Declaration.interface?)⟩ := by
  simp only [ofDeclarations_eq_ofInsertions, ofInsertions_eq, List.filterMap_map, Function.comp_def,
    Declaration.struct?_insertion, Declaration.interface?_insertion]

end Catalog

/-! ### Fields of a member line -/

/-- A name without blanks at its ends and a collapsed type. -/
def Field.IsTidy (field : Field) : Prop :=
  IsTrimmed field.name ∧ field.type ≠ [] ∧ IsCollapsed field.type

theorem Field.isTidy_of_mem_map {names : List Text} {type : Text} {field : Field}
    (hnames : ∀ name ∈ names, IsTrimmed name) (htype : IsCollapsed type)
    (h : field ∈ if type.isEmpty then []
      else (names.filter fun name => !name.isEmpty).map fun name => Field.mk name type) :
    field.IsTidy := by
  split at h
  next => cases h
  next hne =>
    obtain ⟨name, hmem, rfl⟩ := List.mem_map.1 h
    exact ⟨hnames name (List.mem_filter.1 hmem).1, by simpa using hne, htype⟩

theorem Field.isTidy_of_mem_ofShared {pieces : List Text} {field : Field}
    (h : field ∈ Field.ofShared pieces) : field.IsTidy := by
  have hnames : ∀ lastName, IsTrimmed lastName →
      ∀ name ∈ pieces.dropLast.map Text.trim ++ [lastName], IsTrimmed name := by
    intro lastName hlastName name hname
    rcases List.mem_append.1 hname with hpiece | hlast
    · obtain ⟨piece, -, rfl⟩ := List.mem_map.1 hpiece
      exact Text.isTrimmed_trim piece
    · rwa [List.mem_singleton.1 hlast]
  rw [ofShared] at h
  cases hcut : Text.splitAtBlank? (Text.trim (pieces.getLast?.getD [])) with
  | some cut =>
    obtain ⟨c, -, -, hword⟩ := Text.splitAtBlank?_eq_some hcut
    simp only [hcut] at h
    exact isTidy_of_mem_map (hnames _ (Text.isTrimmed_of_no_blank hword))
      (Text.isCollapsed_collapse cut.2) h
  | none =>
    simp only [hcut] at h
    refine isTidy_of_mem_map (hnames [] (Text.isTrimmed_of_no_blank (by simp))) ?_ h
    by_cases hnil : Text.trim (pieces.getLast?.getD []) = []
    · rw [hnil]
      rfl
    · exact Text.isCollapsed_of_isWord ⟨hnil, Text.splitAtBlank?_eq_none hcut⟩

theorem Field.isTidy_of_mem_ofSingle {line : Text} {field : Field}
    (h : field ∈ Field.ofSingle line) : field.IsTidy := by
  rw [ofSingle] at h
  split at h
  next name rest hsplit =>
    split at h
    next hfield =>
      obtain ⟨hname, htype⟩ : isIdentifier name = true ∧ Text.trim rest ≠ [] := by
        simpa using hfield
      obtain rfl := List.mem_singleton.1 h
      refine ⟨Text.isTrimmed_of_no_blank (isWord_of_isIdentifier hname).2, ?_,
        Text.isCollapsed_collapse rest⟩
      rwa [Ne, Text.collapse_eq_nil_iff, ← Text.trim_eq_nil_iff]
    next => cases h
  next => cases h

theorem Field.isTidy_of_mem_ofLine {line : Text} {field : Field} (h : field ∈ Field.ofLine line) :
    field.IsTidy := by
  simp only [ofLine] at h
  split at h
  next => exact isTidy_of_mem_ofShared h
  next => exact isTidy_of_mem_ofSingle h

/-! ### Structs -/

def Field.privateOfBody (body : Text) : List Field :=
  ((Source.memberLines body).flatMap Field.ofLine).filter fun field => isPrivate field.name

theorem Struct.ofBody_fields (name body : Text) :
    (Struct.ofBody name body).fields = Keyed.putAll Field.name (Field.privateOfBody body) :=
  rfl

theorem Struct.nodup_ofBody (name body : Text) : ((Struct.ofBody name body).fields.map Field.name).Nodup := by
  rw [ofBody_fields]
  exact Keyed.nodup_putAll _

theorem Struct.field_of_mem_ofBody {name body : Text} {field : Field}
    (h : field ∈ (Struct.ofBody name body).fields) :
    field.IsTidy ∧ isPrivate field.name = true := by
  rw [ofBody_fields] at h
  obtain ⟨hmem, hprivate⟩ := List.mem_filter.1 (Keyed.mem_putAll h)
  obtain ⟨line, -, hline⟩ := List.mem_flatMap.1 hmem
  exact ⟨Field.isTidy_of_mem_ofLine hline, hprivate⟩

/-! ### Catalogs of source texts -/

namespace Catalog

open Source (Declaration declarations)

theorem isAsciiIdentifier_of_mem_declarations {text : Text} {declaration : Declaration}
    (h : declaration ∈ declarations text) :
    Source.isAsciiIdentifier declaration.header.name = true := by
  obtain ⟨segment, hsegment, hdeclared⟩ := List.mem_filterMap.1 h
  rw [← Source.placeFrom_map_snd 0 (Source.segments text)] at hsegment
  obtain ⟨⟨position, placed⟩, hplaced, rfl⟩ := List.mem_map.1 hsegment
  obtain ⟨c, rest, -, rfl, -⟩ := Source.mem_placedSegments hplaced
  rw [Source.Segment.declared?_first, Option.map_eq_some_iff] at hdeclared
  obtain ⟨⟨declared, length⟩, hfound, rfl⟩ := hdeclared
  obtain ⟨front, after, hspelled, -⟩ := Source.declaration?_eq_some_iff_atFrontOf.1 hfound
  exact hspelled.1

theorem nodup_structs (text : Text) : ((ofSource text).structs.map Struct.name).Nodup := by
  rw [ofSource, ofDeclarations_eq]
  exact Keyed.nodup_putAll _

theorem nodup_interfaces (text : Text) : ((ofSource text).interfaces.map Interface.name).Nodup := by
  rw [ofSource, ofDeclarations_eq]
  exact Keyed.nodup_putAll _

theorem struct_of_mem_ofSource {text : Text} {struct : Struct} (h : struct ∈ (ofSource text).structs) :
    ∃ body, struct = Struct.ofBody struct.name body ∧
      Source.isAsciiIdentifier struct.name = true := by
  rw [ofSource, ofDeclarations_eq] at h
  obtain ⟨declaration, hmem, hstruct⟩ := List.mem_filterMap.1 (Keyed.mem_putAll h)
  have hname := isAsciiIdentifier_of_mem_declarations hmem
  obtain ⟨⟨name, kind⟩, body⟩ := declaration
  cases kind with
  | struct =>
    obtain rfl : Struct.ofBody name body = struct := Option.some.inj hstruct
    exact ⟨body, rfl, hname⟩
  | interface => cases hstruct

theorem interface_of_mem_ofSource {text : Text} {interface : Interface}
    (h : interface ∈ (ofSource text).interfaces) :
    ∃ body, interface = Interface.ofBody interface.name body ∧
      Source.isAsciiIdentifier interface.name = true := by
  rw [ofSource, ofDeclarations_eq] at h
  obtain ⟨declaration, hmem, hinterface⟩ := List.mem_filterMap.1 (Keyed.mem_putAll h)
  have hname := isAsciiIdentifier_of_mem_declarations hmem
  obtain ⟨⟨name, kind⟩, body⟩ := declaration
  cases kind with
  | struct => cases hinterface
  | interface =>
    obtain rfl : Interface.ofBody name body = interface := Option.some.inj hinterface
    exact ⟨body, rfl, hname⟩

end Catalog

/-! ### The invariant of source texts -/

/-- An ASCII identifier with fields of different names.  The name of a field starts with a letter
that is not uppercase and has no blanks at its ends, and its type is not empty and collapsed. -/
structure Struct.IsWellFormed (struct : Struct) : Prop where
  isAsciiIdentifier : Source.isAsciiIdentifier struct.name = true
  nodup : (struct.fields.map Field.name).Nodup
  isUnexported : ∀ field ∈ struct.fields, IsUnexported field.name
  isTidy : ∀ field ∈ struct.fields, field.IsTidy

structure Catalog.IsWellFormed (catalog : Catalog) : Prop where
  nodup_structs : (catalog.structs.map Struct.name).Nodup
  nodup_interfaces : (catalog.interfaces.map Interface.name).Nodup
  structs : ∀ struct ∈ catalog.structs, struct.IsWellFormed
  interfaces : ∀ interface ∈ catalog.interfaces, Source.isAsciiIdentifier interface.name = true

theorem Struct.isWellFormed_ofBody {name : Text} (hname : Source.isAsciiIdentifier name = true)
    (body : Text) : (Struct.ofBody name body).IsWellFormed where
  isAsciiIdentifier := hname
  nodup := Struct.nodup_ofBody name body
  isUnexported := by
    intro field hfield
    obtain ⟨htidy, hprivate⟩ := Struct.field_of_mem_ofBody hfield
    exact isUnexported_of_isPrivate htidy.1 hprivate
  isTidy _ hfield := (Struct.field_of_mem_ofBody hfield).1

/-- The catalog of every text is well formed, however malformed the text is. -/
theorem Catalog.isWellFormed_ofSource (text : Text) : (ofSource text).IsWellFormed where
  nodup_structs := nodup_structs text
  nodup_interfaces := nodup_interfaces text
  structs := by
    intro struct hstruct
    obtain ⟨body, hbody, hname⟩ := struct_of_mem_ofSource hstruct
    rw [hbody]
    exact Struct.isWellFormed_ofBody hname body
  interfaces := by
    intro interface hinterface
    obtain ⟨body, -, hname⟩ := interface_of_mem_ofSource hinterface
    exact hname

/-! ### Source texts behind each other -/

namespace Catalog

open Source (declarations limitNesting nestingLimit)

/-- Reading a text without tokens that closes its braces and then, behind a line feed, any other is
reading each of them: what the second gives is inserted into what the first gives. -/
theorem ofSource_append_lineFeed {front : Text} (htoken : ∀ c ∈ front, Source.startsToken c = false)
    (hbraces : Source.ClosesBraces 0 front) (rest : Text) :
    ofSource (front ++ '\n' :: rest) = (ofSource front).insertAll (ofSource rest).insertions := by
  -- the limit blanks braces in pairs, so what it leaves is such a text again
  have hscan : declarations (limitNesting nestingLimit front ++ '\n' :: limitNesting nestingLimit rest) =
      declarations (limitNesting nestingLimit front) ++ declarations (limitNesting nestingLimit rest) :=
    (hbraces.limitNesting nestingLimit).declarations_append_lineFeed
      (Source.startsToken_of_mem_limitNesting htoken nestingLimit) _
  rw [ofSource, hbraces.limitNesting_append_lineFeed, hscan, ofDeclarations_eq_ofInsertions, List.map_append,
    ← insertAll_insertions, ← ofDeclarations_eq_ofInsertions, ← ofDeclarations_eq_ofInsertions]
  rfl

/-- The second text declares the struct of the first once more, and an interface that it does not
close. -/
theorem ofSource_append_redeclared :
    ofSource ("type Point struct \x7b\n\tat struct \x7b x int \x7d\n\x7d" ++
        '\n' :: "type Point struct \x7b y int \x7d\ntype Open interface \x7b") =
      (ofSource "type Point struct \x7b\n\tat struct \x7b x int \x7d\n\x7d").insertAll
        (ofSource "type Point struct \x7b y int \x7d\ntype Open interface \x7b").insertions :=
  ofSource_append_lineFeed (by decide) (by decide) _

end Catalog

end GoScaffold
