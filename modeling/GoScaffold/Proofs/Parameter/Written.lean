import GoScaffold.Proofs.Catalog.StructFile
import GoScaffold.Proofs.Parameter.Naming

/-!
# Parameter lists as they are written

A list either gives names to all its parameters, some of which may share a type, or it is
a list of types.  Both are read back as they were written, whatever blanks stand around
their parts, and the names that are made up for bare types collide with nothing.
-/

namespace GoScaffold.Param

open Text (IsBlanks IsCollapsed IsTrimmed words join)
open Source (Nested)

/-! ### Lists -/

structure Blanks where
  text : Text
  isBlanks : IsBlanks text

def isComma (c : Char) : Bool :=
  c == ','

/-- A type: not empty, blanks collapsed, brackets properly nested, and no comma outside
brackets. -/
structure WrittenType where
  text : Text
  ne_nil : text ≠ []
  isCollapsed : IsCollapsed text
  isNested : Nested isComma [] text

structure SharingName where
  left : Blanks
  name : GoName
  right : Blanks

/-- Names that share a type: `a, b int`. -/
structure Group where
  earlier : List SharingName
  left : Blanks
  last : GoName
  gap : Blanks
  gap_ne_nil : gap.text ≠ []
  type : WrittenType
  right : Blanks

/-- A type without a name is one word, or several of which the first is no identifier. -/
structure UnnamedType where
  left : Blanks
  type : WrittenType
  isUnnamed : ∀ first second others, words type.text = first :: second :: others →
    isIdentifier first = false
  right : Blanks

inductive Written where
  | groups (groups : List Group)
  | types (types : List UnnamedType)

def SharingName.text (sharing : SharingName) : Text :=
  sharing.left.text ++ (sharing.name.text ++ sharing.right.text)

/-- The part of a group from its last name on. -/
def Group.lastText (group : Group) : Text :=
  group.left.text ++ (group.last.text ++ (group.gap.text ++ group.type.text) ++ group.right.text)

def Group.pieces (group : Group) : List Text :=
  group.earlier.map SharingName.text ++ [group.lastText]

def UnnamedType.piece (unnamed : UnnamedType) : Text :=
  unnamed.left.text ++ (unnamed.type.text ++ unnamed.right.text)

def Written.pieces : Written → List Text
  | groups listed => listed.flatMap Group.pieces
  | types listed => listed.map UnnamedType.piece

def Written.text (written : Written) : Text :=
  join [','] written.pieces

/-! ### What a list declares -/

/-- The parameters of a group: each of its names has its type. -/
def Group.slots (group : Group) : List Slot :=
  (group.earlier.map (·.name.text) ++ [group.last.text]).map fun name => ⟨some name, group.type.text⟩

def Written.slots : Written → List Slot
  | groups listed => listed.flatMap Group.slots
  | types listed => listed.map fun unnamed => ⟨none, unnamed.type.text⟩

def Written.names (written : Written) : List Text :=
  written.slots.filterMap Slot.name?

/-! ### Pieces read as entries -/

theorem isTrimmed_of_goName (name : GoName) : IsTrimmed name.text :=
  Text.isTrimmed_of_no_blank (isWord_of_isIdentifier name.isIdentifier).2

theorem words_sharingName (sharing : SharingName) : words sharing.text = [sharing.name.text] := by
  rw [SharingName.text, Text.words_blanks_append sharing.left.isBlanks,
    Text.words_append_blanks _ sharing.right.isBlanks,
    Text.words_of_isWord (isWord_of_isIdentifier sharing.name.isIdentifier)]

theorem ofWords_lastText (group : Group) :
    words group.lastText ≠ [] ∧
      Entry.ofWords (words group.lastText) = .named group.last.text group.type.text := by
  obtain ⟨hne, hjoin⟩ := group.type.isCollapsed.join_words group.type.ne_nil
  have hwords : words group.lastText = group.last.text :: words group.type.text := by
    rw [Group.lastText, Text.words_blanks_append group.left.isBlanks,
      Text.words_append_blanks _ group.right.isBlanks,
      Text.words_word_append (isWord_of_isIdentifier group.last.isIdentifier) group.gap_ne_nil
        group.gap.isBlanks]
  rw [hwords]
  refine ⟨List.cons_ne_nil _ _, ?_⟩
  cases htype : words group.type.text with
  | nil => exact absurd htype hne
  | cons first others => rw [Entry.ofWords, if_pos group.last.isIdentifier, ← htype, hjoin]

/-- A type without a name is read as a word or as a type of several words; either way it
has no name. -/
theorem ofWords_piece (unnamed : UnnamedType) :
    words unnamed.piece ≠ [] ∧
      (Entry.ofWords (words unnamed.piece) = .bare unnamed.type.text ∨
        Entry.ofWords (words unnamed.piece) = .typed unnamed.type.text) := by
  obtain ⟨hne, hjoin⟩ := unnamed.type.isCollapsed.join_words unnamed.type.ne_nil
  rw [UnnamedType.piece, Text.words_blanks_append unnamed.left.isBlanks,
    Text.words_append_blanks _ unnamed.right.isBlanks]
  refine ⟨hne, ?_⟩
  match htype : words unnamed.type.text with
  | [] => exact absurd htype hne
  | [word] =>
    rw [htype] at hjoin
    rw [Entry.ofWords, ← hjoin]
    exact .inl (by simp [join])
  | first :: second :: others =>
    rw [Entry.ofWords, if_neg (by simp [unnamed.isUnnamed first second others htype]), ← htype, hjoin]
    exact .inr rfl

/-! ### Pieces are nested -/

theorem nested_blanks (blanks : Blanks) : Nested isComma [] blanks.text := by
  apply Nested.of_plain
  intro c hc
  have hnone := Unicode.eq_false_of_isBlank (p := fun c => isOpening c || isClosing c || isComma c)
    (by decide +kernel) (blanks.isBlanks c hc)
  simpa only [Bool.or_eq_false_iff, and_assoc] using hnone

theorem nested_goName (name : GoName) : Nested isComma [] name.text := by
  apply Nested.of_plain
  intro c hc
  have hplain := isPlain_of_isIdentifierPart ((isIdentifierPart_of_mem name.isIdentifier).2 c hc)
  simp only [Source.isPlain, Bool.and_eq_true, Bool.not_eq_true', bne_iff_ne] at hplain
  obtain ⟨⟨⟨⟨⟨hopening, hclosing⟩, -⟩, hcomma⟩, -⟩, -⟩ := hplain
  exact ⟨hopening, hclosing, by simpa [isComma] using hcomma⟩

theorem Written.nested_of_mem_pieces (written : Written) :
    ∀ piece ∈ written.pieces, Nested isComma [] piece := by
  intro piece hpiece
  cases written with
  | groups listed =>
    obtain ⟨group, -, hpiece⟩ := List.mem_flatMap.1 hpiece
    rcases List.mem_append.1 hpiece with hpiece | hpiece
    · obtain ⟨sharing, -, rfl⟩ := List.mem_map.1 hpiece
      exact (nested_blanks _).append ((nested_goName _).append (nested_blanks _))
    · rw [List.mem_singleton.1 hpiece]
      exact (nested_blanks _).append
        (((nested_goName _).append ((nested_blanks _).append group.type.isNested)).append (nested_blanks _))
  | types listed =>
    obtain ⟨unnamed, -, rfl⟩ := List.mem_map.1 hpiece
    exact (nested_blanks _).append (unnamed.type.isNested.append (nested_blanks _))

theorem entries_join {listed : List Text} (hnested : ∀ piece ∈ listed, Nested isComma [] piece)
    (hne : ∀ piece ∈ listed, words piece ≠ []) :
    entries (join [','] listed) = listed.map fun piece => Entry.ofWords (words piece) := by
  by_cases hnil : listed = []
  · rw [hnil]
    rfl
  · have hkept : (listed.map words).filter (fun piece => !piece.isEmpty) = listed.map words := by
      rw [List.filter_eq_self]
      intro piece hpiece
      obtain ⟨text, htext, rfl⟩ := List.mem_map.1 hpiece
      simpa using hne text htext
    rw [entries_eq, pieces, Source.splitOutside_join rfl rfl rfl hnil hnested, hkept, List.map_map]
    rfl

/-! ### Lists read back -/

theorem settle_group (names : List Text) (last type : Text) (rest : List Entry) :
    settle (names.map Entry.bare ++ .named last type :: rest) =
      (names ++ [last]).map (fun name => ⟨some name, type⟩) ++ settle rest := by
  induction names with
  | nil => rfl
  | cons name names ih =>
    have hlater : (names.map Entry.bare ++ .named last type :: rest).findSome? Entry.namedType? = some type := by
      rw [List.findSome?_append, List.findSome?_map]
      have hbare : names.findSome? (Entry.namedType? ∘ Entry.bare) = none :=
        List.findSome?_eq_none_iff.2 fun _ _ => rfl
      rw [hbare]
      rfl
    rw [List.map_cons, List.cons_append, settle, hlater, ih]
    rfl

theorem settle_types {listed : List Entry} (h : ∀ entry ∈ listed, entry.namedType? = none) :
    settle listed = listed.map fun entry => match entry with
      | .named name type => ⟨some name, type⟩
      | .typed type => ⟨none, type⟩
      | .bare word => ⟨none, word⟩ := by
  induction listed with
  | nil => rfl
  | cons entry listed ih =>
    obtain ⟨hentry, hothers⟩ := List.forall_mem_cons.1 h
    cases entry with
    | named name type => cases hentry
    | typed type => rw [settle, ih hothers, List.map_cons]
    | bare word =>
      rw [settle, List.findSome?_eq_none_iff.2 hothers]
      simp only [ih hothers, List.map_cons]

theorem entries_groups (listed : List Group) :
    entries (Written.groups listed).text =
      listed.flatMap fun group =>
        (group.earlier.map (·.name.text)).map Entry.bare ++ [.named group.last.text group.type.text] := by
  have hne : ∀ piece ∈ (Written.groups listed).pieces, words piece ≠ [] := by
    intro piece hpiece
    obtain ⟨group, -, hpiece⟩ := List.mem_flatMap.1 hpiece
    rcases List.mem_append.1 hpiece with hpiece | hpiece
    · obtain ⟨sharing, -, rfl⟩ := List.mem_map.1 hpiece
      simp [words_sharingName]
    · rw [List.mem_singleton.1 hpiece]
      exact (ofWords_lastText group).1
  rw [Written.text, entries_join (Written.nested_of_mem_pieces _) hne, Written.pieces, List.map_flatMap]
  apply List.flatMap_congr
  intro group _
  rw [Group.pieces, List.map_append, List.map_map, List.map_map, List.map_singleton,
    (ofWords_lastText group).2]
  congr 1
  apply List.map_congr_left
  intro sharing _
  rw [Function.comp_apply, words_sharingName]
  rfl

/-- A list without names has no entry with a name, and its types are the slots. -/
theorem settle_entries_types (listed : List UnnamedType) :
    (∀ entry ∈ entries (Written.types listed).text, entry.namedType? = none) ∧
      settle (entries (Written.types listed).text) = (Written.types listed).slots := by
  have hentries : entries (Written.types listed).text =
      listed.map fun unnamed => Entry.ofWords (words unnamed.piece) := by
    rw [Written.text, entries_join (Written.nested_of_mem_pieces _), Written.pieces, List.map_map]
    · rfl
    · intro piece hpiece
      obtain ⟨unnamed, -, rfl⟩ := List.mem_map.1 hpiece
      exact (ofWords_piece unnamed).1
  have hnone : ∀ entry ∈ listed.map fun unnamed => Entry.ofWords (words unnamed.piece),
      entry.namedType? = none := by
    intro entry hentry
    obtain ⟨unnamed, -, rfl⟩ := List.mem_map.1 hentry
    rcases (ofWords_piece unnamed).2 with hbare | htyped
    · rw [hbare]
      rfl
    · rw [htyped]
      rfl
  rw [hentries]
  refine ⟨hnone, ?_⟩
  rw [settle_types hnone, List.map_map, Written.slots]
  apply List.map_congr_left
  intro unnamed _
  rcases (ofWords_piece unnamed).2 with hbare | htyped
  · rw [Function.comp_apply, hbare]
  · rw [Function.comp_apply, htyped]

/-- A written list declares what is read from it. -/
theorem settle_entries (written : Written) : settle (entries written.text) = written.slots := by
  cases written with
  | groups listed =>
    rw [entries_groups, Written.slots]
    induction listed with
    | nil => rfl
    | cons group listed ih =>
      rw [List.flatMap_cons, List.append_assoc, List.singleton_append, settle_group, ih, List.flatMap_cons,
        Group.slots]
  | types listed => exact (settle_entries_types listed).2

/-! ### Filled lists -/

/-- The parameter has the type of the slot, and its name when it has one. -/
def Slot.Fits (slot : Slot) (param : Param) : Prop :=
  param.type = slot.type ∧ ∀ name, slot.name? = some name → param.name = name

theorem forall₂_fits_fill (used : List Text) (slots : List Slot) :
    List.Forall₂ Slot.Fits slots (fill used slots) := by
  induction slots generalizing used with
  | nil => exact .nil
  | cons slot slots ih =>
    obtain ⟨name?, type⟩ := slot
    cases name? with
    | some name => exact .cons ⟨rfl, fun _ hname => Option.some.inj hname⟩ (ih used)
    | none => exact .cons ⟨rfl, fun _ hname => by cases hname⟩ (ih _)

theorem names_fill_of_named {slots : List Slot} (h : ∀ slot ∈ slots, slot.name?.isSome = true)
    (used : List Text) : (fill used slots).map Param.name = slots.filterMap Slot.name? := by
  induction slots with
  | nil => rfl
  | cons slot slots ih =>
    obtain ⟨hslot, hothers⟩ := List.forall_mem_cons.1 h
    obtain ⟨name?, type⟩ := slot
    cases name? with
    | some name =>
      have hname : Slot.name? ⟨some name, type⟩ = some name := rfl
      rw [fill, List.map_cons, ih hothers, List.filterMap_cons_some hname]
    | none => cases hslot

end GoScaffold.Param
