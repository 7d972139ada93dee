import GoScaffold.Label
import GoScaffold.Proofs.Text.Words

/-!
# Reading labels back

A label is spelled by a list of words.  Reading goes by these words alone and undoes the
spelling, so a label is read back from its text exactly when its names are words and its
type is collapsed, and every text that can be read is the text of its label, up to the
blanks between the words.
-/

namespace GoScaffold.Label

open Text (IsWord IsCollapsed words collapse join)
open Unicode (isBlank)

/-- The field that a label names; the empty text when it names none. -/
def fieldName : Label → Text
  | getter _ field _ => field
  | setter _ field _ => field
  | constructor _ => []
  | builder _ => []
  | bare _ => []

/-- The names of the label are words, and the type of its field is collapsed and not empty. -/
def IsReadable : Label → Prop
  | getter type field fieldType => IsWord type ∧ IsWord field ∧ fieldType ≠ [] ∧ IsCollapsed fieldType
  | setter type field fieldType => IsWord type ∧ IsWord field ∧ fieldType ≠ [] ∧ IsCollapsed fieldType
  | constructor type => IsWord type
  | builder type => IsWord type
  | bare name => IsWord name

/-! ### Spelling -/

/-- The words of a label with the action `action` on a field. -/
def accessorSpelling (type action field fieldType : Text) : List Text :=
  type :: action :: field :: ['('] :: (words fieldType ++ [[')']])

/-- The words of a label. -/
def spelling : Label → List Text
  | getter type field fieldType => accessorSpelling type "Get" field fieldType
  | setter type field fieldType => accessorSpelling type "Set" field fieldType
  | constructor type => [type, "Constructor"]
  | builder type => [type, "Builder"]
  | bare name => [name]

theorem join_pair (first second : Text) : join [' '] [first, second] = first ++ ' ' :: second := by
  simp [Text.join_cons]

theorem join_accessorSpelling (type action field : Text) {fieldType : Text} (hne : fieldType ≠ [])
    (hcollapsed : IsCollapsed fieldType) :
    join [' '] (accessorSpelling type action field fieldType) = accessorText type action field fieldType := by
  obtain ⟨hwords, hjoin⟩ := hcollapsed.join_words hne
  have hclosed := Text.join_append_separator [' '] hwords (List.cons_ne_nil [')'] [])
  rw [hjoin] at hclosed
  have hopened : join [' '] (['('] :: (words fieldType ++ [[')']])) =
      ['('] ++ ([' '] ++ join [' '] (words fieldType ++ [[')']])) := by
    refine (Text.join_append_separator [' '] (List.cons_ne_nil ['('] []) ?_).symm
    simp
  rw [accessorSpelling, Text.join_cons_cons, Text.join_cons_cons, Text.join_cons_cons, hopened, ← hclosed]
  simp [accessorText, join]

theorem join_spelling {label : Label} (h : label.IsReadable) : join [' '] label.spelling = label.text := by
  cases label with
  | getter type field fieldType => exact join_accessorSpelling type "Get" field h.2.2.1 h.2.2.2
  | setter type field fieldType => exact join_accessorSpelling type "Set" field h.2.2.1 h.2.2.2
  | constructor type => exact join_pair type "Constructor"
  | builder type => exact join_pair type "Builder"
  | bare name => exact List.intercalate_singleton

theorem isWord_of_mem_accessorSpelling {type action field : Text} (htype : IsWord type)
    (haction : IsWord action) (hfield : IsWord field) (fieldType : Text) :
    ∀ word ∈ accessorSpelling type action field fieldType, IsWord word := by
  have hopen : IsWord ['('] := by decide
  have hclose : IsWord [')'] := by decide
  simp only [accessorSpelling, List.forall_mem_cons, List.forall_mem_append]
  exact ⟨htype, haction, hfield, hopen, Text.isWord_of_mem_words, hclose, by simp⟩

theorem isWord_of_mem_spelling {label : Label} (h : label.IsReadable) :
    ∀ word ∈ label.spelling, IsWord word := by
  cases label with
  | getter type field fieldType => exact isWord_of_mem_accessorSpelling h.1 (by decide) h.2.1 fieldType
  | setter type field fieldType => exact isWord_of_mem_accessorSpelling h.1 (by decide) h.2.1 fieldType
  | constructor type => exact List.forall_mem_cons.2 ⟨h, by decide⟩
  | builder type => exact List.forall_mem_cons.2 ⟨h, by decide⟩
  | bare name => exact List.forall_mem_singleton.2 h

theorem words_text {label : Label} (h : label.IsReadable) : words label.text = label.spelling := by
  rw [← join_spelling h, Text.words_join (isWord_of_mem_spelling h)]

theorem isCollapsed_text {label : Label} (h : label.IsReadable) : IsCollapsed label.text := by
  rw [IsCollapsed, collapse, words_text h, join_spelling h]

/-! ### Reading -/

theorem accessorOperands?_eq_some_iff {operands : List Text} {field fieldType : Text} :
    accessorOperands? operands = some (field, fieldType) ↔
      ∃ typeWords, typeWords ≠ [] ∧ join [' '] typeWords = fieldType ∧
        operands = field :: ['('] :: (typeWords ++ [[')']]) := by
  constructor
  · intro h
    match operands, h with
    | first :: opening :: rest, h =>
      rw [accessorOperands?] at h
      split at h
      next hshape =>
        obtain ⟨rfl, hlast, hne⟩ := hshape
        obtain ⟨rfl, rfl⟩ := Prod.mk.inj (Option.some.inj h)
        exact ⟨rest.dropLast, hne, rfl, by rw [List.dropLast_append_getLast? _ hlast]⟩
      next => cases h
  · rintro ⟨typeWords, hne, rfl, rfl⟩
    simp [accessorOperands?, hne]

theorem ofWords_accessor (source type field : Text) {action : Text}
    (haction : action = "Get" ∨ action = "Set") {fieldType : Text} (hne : fieldType ≠ [])
    (hcollapsed : IsCollapsed fieldType) :
    ofWords source (accessorSpelling type action field fieldType) =
      .ok (if action = ("Get" : Text) then getter type field fieldType else setter type field fieldType) := by
  obtain ⟨hwords, hjoin⟩ := hcollapsed.join_words hne
  have hoperands : accessorOperands? (field :: ['('] :: (words fieldType ++ [[')']])) = some (field, fieldType) :=
    accessorOperands?_eq_some_iff.2 ⟨words fieldType, hwords, hjoin, rfl⟩
  rw [accessorSpelling, ofWords, if_pos haction, hoperands]

theorem ofWords_spelling {label : Label} (h : label.IsReadable) (source : Text) :
    ofWords source label.spelling = .ok label := by
  cases label with
  | getter type field fieldType => exact ofWords_accessor source type field (.inl rfl) h.2.2.1 h.2.2.2
  | setter type field fieldType => exact ofWords_accessor source type field (.inr rfl) h.2.2.1 h.2.2.2
  | constructor type => rfl
  | builder type => rfl
  | bare name => rfl

/-- A label that is read from words is spelled by them. -/
theorem of_ofWords_eq_ok {source : Text} {listed : List Text} (hwords : ∀ word ∈ listed, IsWord word)
    {label : Label} (h : ofWords source listed = .ok label) : label.IsReadable ∧ label.spelling = listed := by
  match listed, h with
  | [name], h =>
    obtain rfl := Except.ok.inj h
    exact ⟨hwords name (by simp), rfl⟩
  | type :: action :: operands, h =>
    have htype : IsWord type := hwords type (by simp)
    rw [ofWords] at h
    split at h
    next haction =>
      split at h
      next field fieldType hoperands =>
        obtain ⟨typeWords, hne, rfl, rfl⟩ := accessorOperands?_eq_some_iff.1 hoperands
        have hfield : IsWord field := hwords field (by simp)
        have htypeWords : ∀ word ∈ typeWords, IsWord word := fun word hword => hwords word (by simp [hword])
        have hjoin : words (join [' '] typeWords) = typeWords := Text.words_join htypeWords
        have hreadable : IsWord type ∧ IsWord field ∧ join [' '] typeWords ≠ [] ∧
            IsCollapsed (join [' '] typeWords) := by
          refine ⟨htype, hfield, ?_, by rw [IsCollapsed, collapse, hjoin]⟩
          intro hnil
          rw [hnil] at hjoin
          exact hne hjoin.symm
        obtain rfl := Except.ok.inj h
        by_cases hget : action = ("Get" : Text)
        · rw [if_pos hget]
          exact ⟨hreadable, by rw [spelling, accessorSpelling, hjoin, hget]⟩
        · rw [if_neg hget]
          exact ⟨hreadable, by rw [spelling, accessorSpelling, hjoin, haction.resolve_left hget]⟩
      next => cases h
    next =>
      split at h
      next hconstructor =>
        obtain rfl := Except.ok.inj h
        exact ⟨htype, by rw [spelling, hconstructor.1, hconstructor.2]⟩
      next =>
        split at h
        next hbuilder =>
          obtain rfl := Except.ok.inj h
          exact ⟨htype, by rw [spelling, hbuilder.1, hbuilder.2]⟩
        next => cases h

theorem ofText_eq_ok_iff {source : Text} {label : Label} :
    ofText source = .ok label ↔ label.IsReadable ∧ label.spelling = words source := by
  constructor
  · exact of_ofWords_eq_ok Text.isWord_of_mem_words
  · rintro ⟨hreadable, hspelling⟩
    rw [ofText, ← hspelling, ofWords_spelling hreadable]

theorem ofText_text {label : Label} (h : label.IsReadable) : ofText label.text = .ok label :=
  ofText_eq_ok_iff.2 ⟨h, (words_text h).symm⟩

/-- The field of a label that was read is a word of the text. -/
theorem isBlank_of_mem_fieldName {source : Text} {label : Label} (h : ofText source = .ok label) :
    ∀ c ∈ label.fieldName, isBlank c = false := by
  obtain ⟨hreadable, -⟩ := ofText_eq_ok_iff.1 h
  cases label with
  | getter type field fieldType => exact hreadable.2.1.2
  | setter type field fieldType => exact hreadable.2.1.2
  | constructor type => simp [fieldName]
  | builder type => simp [fieldName]
  | bare name => simp [fieldName]

/-! ### Texts and labels -/

theorem spelling_eq_words_iff {label : Label} (h : label.IsReadable) (source : Text) :
    label.spelling = words source ↔ label.text = collapse source := by
  rw [← words_text h]
  constructor
  · intro hwords
    rw [← isCollapsed_text h, collapse, hwords, collapse]
  · intro htext
    rw [htext, Text.words_collapse]

/-- The labels that are read back from their texts are those whose names are words and whose
type is not empty and collapsed.  A text is read as one of these exactly when it is the
text of the label with other blanks.  So two texts are read as one label exactly when they
have the same words and one of them can be read. -/
theorem ofText_inverts_text :
    (∀ label : Label, ofText label.text = .ok label ↔ label.IsReadable) ∧
    (∀ (source : Text) (label : Label),
      ofText source = .ok label ↔ label.IsReadable ∧ label.text = collapse source) ∧
    ∀ source other : Text,
      (∃ label, ofText source = .ok label ∧ ofText other = .ok label) ↔
        words source = words other ∧ ∃ label, ofText source = .ok label ∨ ofText other = .ok label := by
  refine ⟨?_, ?_, ?_⟩
  · intro label
    exact ⟨fun h => (ofText_eq_ok_iff.1 h).1, ofText_text⟩
  · intro source label
    rw [ofText_eq_ok_iff]
    exact and_congr_right fun hreadable => spelling_eq_words_iff hreadable source
  · intro source other
    simp only [ofText_eq_ok_iff]
    constructor
    · rintro ⟨label, ⟨hreadable, hsource⟩, -, hother⟩
      exact ⟨hsource.symm.trans hother, label, .inl ⟨hreadable, hsource⟩⟩
    · rintro ⟨hwords, label, ⟨hreadable, hsource⟩ | ⟨hreadable, hother⟩⟩
      · exact ⟨label, ⟨hreadable, hsource⟩, hreadable, hsource.trans hwords⟩
      · exact ⟨label, ⟨hreadable, hother.trans hwords.symm⟩, hreadable, hother⟩

end GoScaffold.Label
