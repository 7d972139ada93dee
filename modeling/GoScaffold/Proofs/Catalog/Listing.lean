import GoScaffold.Catalog.Listing
import GoScaffold.Proofs.Catalog.Contents
import GoScaffold.Proofs.Catalog.Methods

/-!
# Reading a listing back

A line of a listing starts with a tab exactly when it is a member's.  The member of a struct is
cut at its first blank, and the member of an interface behind its first pair of parentheses,
as in a source text.  So where names are words and all else is collapsed, the listing tells
the catalog.
-/

namespace GoScaffold

open Text (IsBlanks IsCollapsed IsWord join splitAtBlank? splitOn trim)
open Source (IsPair)
open Unicode (isBlank)

/-! ### What is listed without loss -/

/-- A name without blanks and a collapsed type. -/
structure Field.IsListable (field : Field) : Prop where
  isWord_name : IsWord field.name
  type_ne_nil : field.type ≠ []
  isCollapsed_type : IsCollapsed field.type

/-- A collapsed signature that ends with the `)` that closes its first `(`, and a collapsed result. -/
structure Method.IsListable (method : Method) : Prop where
  isCollapsed_signature : IsCollapsed method.signature
  closes : ∃ front pair, method.signature = front ++ pair ∧ '(' ∉ front ∧ IsPair pair
  isCollapsed_result : IsCollapsed method.result

structure Struct.IsListable (struct : Struct) : Prop where
  isWord_name : IsWord struct.name
  fields : ∀ field ∈ struct.fields, field.IsListable

structure Interface.IsListable (interface : Interface) : Prop where
  isWord_name : IsWord interface.name
  methods : ∀ method ∈ interface.methods, method.IsListable

structure Catalog.IsListable (catalog : Catalog) : Prop where
  structs : ∀ struct ∈ catalog.structs, struct.IsListable
  interfaces : ∀ interface ∈ catalog.interfaces, interface.IsListable

/-! ### Source texts -/

/-- Cutting a member line leaves nothing to trim or to collapse. -/
theorem Method.isListable_of_ofLine? {line : Text} (hline : IsCollapsed line) {method : Method}
    (h : ofLine? line = some method) : method.IsListable := by
  obtain ⟨front, separator, hcut⟩ := isCutFrom_of_ofLine? hline h
  obtain ⟨⟨closed, rest⟩, -, rfl⟩ := Option.map_eq_some_iff.1 h
  rw [hcut.line_eq] at hline
  have hsignature : IsCollapsed ([] ++ (trim closed ++ (separator ++ trim rest))) := hline
  have hresult : IsCollapsed (trim closed ++ separator ++ (trim rest ++ [])) := by
    simpa using hline
  exact {
    isCollapsed_signature := hsignature.of_append (Text.isTrimmed_trim closed)
    closes := ⟨front, _, hcut.signature_eq, hcut.not_mem_front, hcut.isPair⟩
    isCollapsed_result := hresult.of_append (Text.isTrimmed_trim rest) }

theorem Interface.isListable_ofBody {name : Text} (hname : IsWord name) (body : Text) :
    (Interface.ofBody name body).IsListable where
  isWord_name := hname
  methods := by
    intro method hmethod
    obtain ⟨line, hline, hread⟩ := List.mem_filterMap.1 hmethod
    exact Method.isListable_of_ofLine? (Source.isCollapsed_of_mem_memberLines hline) hread

/-- All that a source text may lack for a listing without loss is field names without blanks. -/
theorem Catalog.isListable_ofSource_iff {text : Text} :
    (ofSource text).IsListable ↔
      ∀ struct ∈ (ofSource text).structs, ∀ field ∈ struct.fields, ∀ c ∈ field.name, isBlank c = false := by
  constructor
  · intro h struct hstruct field hfield
    exact ((h.structs struct hstruct).fields field hfield).isWord_name.2
  · intro h
    refine ⟨?_, ?_⟩
    · intro struct hstruct
      have hformed := (isWellFormed_ofSource text).structs struct hstruct
      refine ⟨isWord_of_isAsciiIdentifier hformed.isAsciiIdentifier, ?_⟩
      intro field hfield
      obtain ⟨-, htype, hcollapsed⟩ := hformed.isTidy field hfield
      obtain ⟨c, rest, hname, -⟩ := hformed.isUnexported field hfield
      exact ⟨⟨by simp [hname], h struct hstruct field hfield⟩, htype, hcollapsed⟩
    · intro interface hinterface
      obtain ⟨body, hbody, hname⟩ := interface_of_mem_ofSource hinterface
      rw [hbody]
      exact Interface.isListable_ofBody (isWord_of_isAsciiIdentifier hname) body

/-! ### Lines -/

theorem lineFeed_not_mem_of_isWord {word : Text} (h : IsWord word) : '\n' ∉ word := by
  intro hmem
  exact absurd (h.2 '\n' hmem) (by decide)

theorem lineFeed_not_mem_of_isCollapsed {text : Text} (h : IsCollapsed text) : '\n' ∉ text := by
  intro hmem
  exact absurd (h.eq_space hmem (by decide)) (by decide)

namespace ListedDeclaration

def lines (declaration : ListedDeclaration) : List Text :=
  declaration.header :: declaration.members.map fun member => '\t' :: member

theorem lines_map {α : Type} {member line : α → Text} {header : Text} {elements : List α}
    (h : ∀ a ∈ elements, line a = '\t' :: member a) :
    lines ⟨header, elements.map member⟩ = header :: elements.map line := by
  rw [lines, List.map_map, List.map_congr_left h]
  rfl

/-- No tab in front of the header, and no line feed in any line. -/
structure IsWritten (declaration : ListedDeclaration) : Prop where
  header_ne_nil : declaration.header ≠ []
  tab_not_first : declaration.header.head? ≠ some '\t'
  lineFeed_not_mem_header : '\n' ∉ declaration.header
  lineFeed_not_mem_members : ∀ member ∈ declaration.members, '\n' ∉ member

theorem IsWritten.line_spec {declaration : ListedDeclaration} (h : declaration.IsWritten) :
    ∀ line ∈ declaration.lines, line ≠ [] ∧ '\n' ∉ line := by
  rw [lines, List.forall_mem_cons, List.forall_mem_map]
  refine ⟨⟨h.header_ne_nil, h.lineFeed_not_mem_header⟩, ?_⟩
  intro member hmember
  exact ⟨List.cons_ne_nil _ _, by simpa using h.lineFeed_not_mem_members member hmember⟩

theorem isWritten_keyword_append {keyword name : Text} {members : List Text} (hnil : keyword ≠ [])
    (htab : keyword.head? ≠ some '\t') (hlineFeed : '\n' ∉ keyword) (hname : IsWord name)
    (hmembers : ∀ member ∈ members, '\n' ∉ member) : IsWritten ⟨keyword ++ name, members⟩ where
  header_ne_nil := List.append_ne_nil_of_left_ne_nil hnil name
  tab_not_first := by rwa [List.head?_append_of_ne_nil _ hnil]
  lineFeed_not_mem_header := List.not_mem_append hlineFeed (lineFeed_not_mem_of_isWord hname)
  lineFeed_not_mem_members := hmembers

theorem ofLines_members (members rest : List Text) :
    ofLines ((members.map fun member => '\t' :: member) ++ rest) =
      (members ++ (ofLines rest).1, (ofLines rest).2) := by
  induction members with
  | nil => rfl
  | cons member members ih =>
    rw [List.map_cons, List.cons_append, ofLines, ih]
    rfl

theorem ofLines_header {header : Text} (h : header.head? ≠ some '\t') (rest : List Text) :
    ofLines (header :: rest) = ([], ⟨header, (ofLines rest).1⟩ :: (ofLines rest).2) := by
  rw [ofLines]
  rintro member rfl
  exact h rfl

variable {declarations : List ListedDeclaration}

theorem ofLines_lines (h : ∀ declaration ∈ declarations, declaration.IsWritten) :
    ofLines (declarations.flatMap lines) = ([], declarations) := by
  induction declarations with
  | nil => rfl
  | cons declaration declarations ih =>
    obtain ⟨hfirst, hothers⟩ := List.forall_mem_cons.1 h
    rw [List.flatMap_cons, lines, List.cons_append, ofLines_header hfirst.tab_not_first, ofLines_members,
      ih hothers, List.append_nil]

theorem ofListing_join (h : ∀ declaration ∈ declarations, declaration.IsWritten) :
    ofListing (join ['\n'] (declarations.flatMap lines)) = declarations := by
  have hlines : ∀ line ∈ declarations.flatMap lines, line ≠ [] ∧ '\n' ∉ line := by
    intro line hline
    obtain ⟨declaration, hmem, hline⟩ := List.mem_flatMap.1 hline
    exact (h declaration hmem).line_spec line hline
  have hsplit : (splitOn (· == '\n') (join ['\n'] (declarations.flatMap lines))).filter
      (fun line => !line.isEmpty) = declarations.flatMap lines := by
    by_cases hnil : declarations.flatMap lines = []
    · rw [hnil]
      rfl
    · rw [Text.splitOn_join hnil fun line hline => (hlines line hline).2, List.filter_eq_self]
      intro line hline
      simpa using (hlines line hline).1
  rw [ofListing, hsplit, ofLines_lines h]

end ListedDeclaration

/-! ### Members -/

namespace Field

/-- The member line without its tab. -/
def member (field : Field) : Text :=
  field.name ++ ' ' :: field.type

theorem line_eq (field : Field) : field.line = '\t' :: field.member := by
  simp [line, member]

variable {field : Field}

theorem IsListable.lineFeed_not_mem_member (h : field.IsListable) : '\n' ∉ field.member := by
  have hname := lineFeed_not_mem_of_isWord h.isWord_name
  have htype := lineFeed_not_mem_of_isCollapsed h.isCollapsed_type
  simp [member, hname, htype]

theorem IsListable.ofMember?_member (h : field.IsListable) : ofMember? field.member = some field := by
  rw [ofMember?, member, Text.splitAtBlank?_append h.isWord_name.2 (by decide)]
  rfl

end Field

namespace Method

/-- The member line without its tab. -/
def member (method : Method) : Text :=
  if method.result.isEmpty then method.signature else method.signature ++ ' ' :: method.result

variable {method : Method}

theorem IsListable.getLast?_signature (h : method.IsListable) : method.signature.getLast? = some ')' := by
  obtain ⟨front, pair, hsignature, -, hpair⟩ := h.closes
  obtain ⟨inner, rfl⟩ := hpair.eq_parentheses
  rw [hsignature, ← List.cons_append, ← List.append_assoc, List.getLast?_concat]

/-- The member line ends with the `)` of the signature or with the result, so it does not end blank. -/
theorem IsListable.isBlank_last (h : method.IsListable) {c : Char}
    (hc : ('\t' :: method.member).getLast? = some c) : isBlank c = false := by
  rw [member] at hc
  split at hc
  next =>
    rw [List.getLast?_cons, h.getLast?_signature, Option.getD_some, Option.some.injEq] at hc
    rw [← hc]
    decide
  next hresult =>
    have hne : method.result ≠ [] := by simpa using hresult
    rw [List.append_cons, ← List.cons_append, List.getLast?_append_of_ne_nil _ hne] at hc
    exact h.isCollapsed_result.isTrimmed.2 c hc

theorem IsListable.line_eq (h : method.IsListable) : method.line = '\t' :: method.member := by
  obtain ⟨blanks, hblanks, hline⟩ : ∃ blanks, IsBlanks blanks ∧
      ("\t" : Text) ++ method.signature ++ [' '] ++ method.result = ('\t' :: method.member) ++ blanks := by
    rw [member]
    split
    next hresult => exact ⟨[' '], by decide, by simp [List.isEmpty_iff.1 hresult]⟩
    next => exact ⟨[], by decide, by simp⟩
  rw [line, hline]
  exact Text.trimEnd_append_blanks hblanks fun _ => h.isBlank_last

theorem IsListable.lineFeed_not_mem_member (h : method.IsListable) : '\n' ∉ method.member := by
  have hsignature := lineFeed_not_mem_of_isCollapsed h.isCollapsed_signature
  have hresult := lineFeed_not_mem_of_isCollapsed h.isCollapsed_result
  rw [member]
  split
  next => exact hsignature
  next => simp [hsignature, hresult]

/-- A listed method is read as from a member line of a source text. -/
theorem IsListable.ofLine?_member (h : method.IsListable) : ofLine? method.member = some method := by
  have hnone : IsBlanks [] := by decide
  have hspace : IsBlanks [' '] := by decide
  obtain ⟨rest, hmember, hresult⟩ : ∃ rest, method.member = method.signature ++ rest ∧
      trim rest = method.result := by
    rw [member]
    split
    next hempty => exact ⟨[], (List.append_nil _).symm, (List.isEmpty_iff.1 hempty).symm⟩
    next =>
      refine ⟨' ' :: method.result, rfl, ?_⟩
      simpa using Text.trim_append hspace h.isCollapsed_result.isTrimmed hnone
  have hcut : Text.splitClosed? method.member = some (method.signature, rest) :=
    Source.splitClosed?_eq_some_iff.2 ⟨hmember, h.closes⟩
  rw [ofLine?, hcut, Option.map_some]
  dsimp only
  rw [hresult, Text.trim_of_isTrimmed h.isCollapsed_signature.isTrimmed]

end Method

/-! ### Declarations -/

theorem filterMap_map_eq_self {α β : Type} {write : α → β} {read : β → Option α} {elements : List α}
    (h : ∀ a ∈ elements, read (write a) = some a) : (elements.map write).filterMap read = elements := by
  rw [List.filterMap_map]
  exact (List.filterMap_congr h).trans List.filterMap_some

theorem filterMap_map_eq_nil {α β γ : Type} {write : α → β} {read : β → Option γ}
    (h : ∀ a, read (write a) = none) (elements : List α) : (elements.map write).filterMap read = [] := by
  simp [List.filterMap_map, h]

namespace Struct

/-- The struct as it is listed. -/
def listed (struct : Struct) : ListedDeclaration :=
  ⟨"struct " ++ struct.name, struct.fields.map Field.member⟩

theorem lines_listed (struct : Struct) : struct.listed.lines = struct.lines :=
  ListedDeclaration.lines_map fun field _ => field.line_eq

theorem interface?_listed (struct : Struct) : struct.listed.interface? = none := by
  unfold ListedDeclaration.interface? listed
  simp [List.isPrefixOf?]

variable {struct : Struct}

theorem IsListable.isWritten (h : struct.IsListable) : struct.listed.IsWritten := by
  refine ListedDeclaration.isWritten_keyword_append (by decide) (by decide) (by decide) h.isWord_name ?_
  rw [List.forall_mem_map]
  exact fun field hfield => (h.fields field hfield).lineFeed_not_mem_member

theorem IsListable.struct?_listed (h : struct.IsListable) : struct.listed.struct? = some struct := by
  have hname : List.isPrefixOf? ("struct " : Text) ("struct " ++ struct.name) = some struct.name :=
    List.isPrefixOf?_eq_some_iff_append_eq.2 rfl
  unfold ListedDeclaration.struct? listed
  rw [hname, Option.map_some,
    filterMap_map_eq_self fun field hfield => (h.fields field hfield).ofMember?_member]

end Struct

namespace Interface

/-- The interface as it is listed. -/
def listed (interface : Interface) : ListedDeclaration :=
  ⟨"interface " ++ interface.name, interface.methods.map Method.member⟩

theorem struct?_listed (interface : Interface) : interface.listed.struct? = none := by
  unfold ListedDeclaration.struct? listed
  simp [List.isPrefixOf?]

variable {interface : Interface}

theorem IsListable.lines_listed (h : interface.IsListable) : interface.listed.lines = interface.lines :=
  ListedDeclaration.lines_map fun method hmethod => (h.methods method hmethod).line_eq

theorem IsListable.isWritten (h : interface.IsListable) : interface.listed.IsWritten := by
  refine ListedDeclaration.isWritten_keyword_append (by decide) (by decide) (by decide) h.isWord_name ?_
  rw [List.forall_mem_map]
  exact fun method hmethod => (h.methods method hmethod).lineFeed_not_mem_member

theorem IsListable.interface?_listed (h : interface.IsListable) :
    interface.listed.interface? = some interface := by
  have hname : List.isPrefixOf? ("interface " : Text) ("interface " ++ interface.name) = some interface.name :=
    List.isPrefixOf?_eq_some_iff_append_eq.2 rfl
  unfold ListedDeclaration.interface? listed
  rw [hname, Option.map_some,
    filterMap_map_eq_self fun method hmethod => (h.methods method hmethod).ofLine?_member]

end Interface

/-! ### Catalogs -/

namespace Catalog

/-- The declarations in the order in which they are listed. -/
def listed (catalog : Catalog) : List ListedDeclaration :=
  catalog.structs.map Struct.listed ++ catalog.interfaces.map Interface.listed

variable {catalog : Catalog}

theorem IsListable.isWritten (h : catalog.IsListable) :
    ∀ declaration ∈ catalog.listed, declaration.IsWritten := by
  rw [listed, List.forall_mem_append, List.forall_mem_map, List.forall_mem_map]
  exact ⟨fun struct hstruct => (h.structs struct hstruct).isWritten,
    fun interface hinterface => (h.interfaces interface hinterface).isWritten⟩

theorem IsListable.listing_eq (h : catalog.IsListable) :
    catalog.listing = join ['\n'] (catalog.listed.flatMap ListedDeclaration.lines) := by
  have hstructs : (catalog.structs.map Struct.listed).flatMap ListedDeclaration.lines =
      catalog.structs.flatMap Struct.lines := by
    rw [List.flatMap_map]
    apply List.flatMap_congr
    intro struct _
    exact struct.lines_listed
  have hinterfaces : (catalog.interfaces.map Interface.listed).flatMap ListedDeclaration.lines =
      catalog.interfaces.flatMap Interface.lines := by
    rw [List.flatMap_map]
    apply List.flatMap_congr
    intro interface hinterface
    exact (h.interfaces interface hinterface).lines_listed
  rw [listing, listed, List.flatMap_append, hstructs, hinterfaces]

/-- A catalog is read back from its listing. -/
theorem IsListable.ofListing_listing (h : catalog.IsListable) : ofListing catalog.listing = catalog := by
  have hstructs : catalog.listed.filterMap ListedDeclaration.struct? = catalog.structs := by
    rw [listed, List.filterMap_append, filterMap_map_eq_nil Interface.struct?_listed, List.append_nil]
    exact filterMap_map_eq_self fun struct hstruct => (h.structs struct hstruct).struct?_listed
  have hinterfaces : catalog.listed.filterMap ListedDeclaration.interface? = catalog.interfaces := by
    rw [listed, List.filterMap_append, filterMap_map_eq_nil Struct.interface?_listed, List.nil_append]
    exact filterMap_map_eq_self fun interface hinterface =>
      (h.interfaces interface hinterface).interface?_listed
  rw [ofListing, h.listing_eq, ListedDeclaration.ofListing_join h.isWritten, hstructs, hinterfaces]

/-- Catalogs with the same listing are the same: the same structs and interfaces with the same
members, all in the same order. -/
theorem eq_of_listing_eq {catalog other : Catalog} (hcatalog : catalog.IsListable) (hother : other.IsListable)
    (h : catalog.listing = other.listing) : catalog = other :=
  calc
    catalog = ofListing catalog.listing := hcatalog.ofListing_listing.symm
    _ = ofListing other.listing := congrArg ofListing h
    _ = other := hother.ofListing_listing

theorem eq_of_listing_eq_point :
    ofSource "type Point struct { x, y int }\ntype Shape interface { At(p Point)  bool }" =
      ofSource "type Shape interface{At(p Point) bool}\ntype Point struct{x int; y int}" :=
  eq_of_listing_eq (isListable_ofSource_iff.2 (by decide +kernel)) (isListable_ofSource_iff.2 (by decide +kernel))
    (by decide +kernel)

end Catalog

end GoScaffold
