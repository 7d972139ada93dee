import Mathlib.Data.List.TakeWhile
import Mathlib.Data.List.Basic
import GoScaffold.Source.Declaration

/-!
# The spelling of headers

`type Name struct {` with any spaces and tabs between its parts.  The reader takes
each part as long as it can, which is no restriction: no part may go on with a
character that starts the next one.
-/

namespace GoScaffold.Source

def Kind.word : Kind → Text
  | .struct => "struct"
  | .interface => "interface"

/-- An ASCII letter or underscore, then ASCII letters, digits and underscores. -/
def isAsciiIdentifier : Text → Bool
  | [] => false
  | c :: rest => (c.isAlpha || c == '_') && rest.all isWordChar

def IsSpacing (text : Text) : Prop := ∀ c ∈ text, isGap c = true

instance (text : Text) : Decidable (IsSpacing text) :=
  List.decidableBAll (fun c => isGap c = true) text

/-- A text that reads `type`, the name, the word of the kind and `{`, with spaces and
tabs between them; only before `{` they may be missing. -/
def Header.SpelledBy (header : Header) (text : Text) : Prop :=
  isAsciiIdentifier header.name = true ∧
    ∃ before behind spacing, before ≠ [] ∧ IsSpacing before ∧ behind ≠ [] ∧ IsSpacing behind ∧
      IsSpacing spacing ∧
      text = "type" ++ before ++ header.name ++ behind ++ header.kind.word ++ spacing ++ ['{']

/-! ### The parts -/

/-- Taking while `p` holds stops exactly at a text that does not start with `p`. -/
theorem takeWhile_dropWhile_append {p : Char → Bool} {front rest : Text}
    (hfront : ∀ c ∈ front, p c = true) (hrest : ∀ d, rest.head? = some d → p d = false) :
    (front ++ rest).takeWhile p = front ∧ (front ++ rest).dropWhile p = rest := by
  have htake : rest.takeWhile p = [] := by
    cases rest with
    | nil => rfl
    | cons d rest => simp [hrest d rfl]
  have hdrop : rest.dropWhile p = rest := by
    cases rest with
    | nil => rfl
    | cons d rest => simp [hrest d rfl]
  rw [List.takeWhile_append_of_pos hfront, List.dropWhile_append_of_pos hfront, htake, hdrop]
  exact ⟨List.append_nil front, rfl⟩

theorem gap?_append {gap rest : Text} (hne : gap ≠ []) (hgap : IsSpacing gap)
    (hrest : ∀ d, rest.head? = some d → isGap d = false) : gap? (gap ++ rest) = some rest := by
  cases gap with
  | nil => exact absurd rfl hne
  | cons c gap =>
    obtain ⟨hc, htail⟩ := List.forall_mem_cons.1 hgap
    have hstop := takeWhile_dropWhile_append htail hrest
    rw [List.cons_append, gap?, if_pos hc, hstop.2]

theorem gap?_eq_some {text rest : Text} (h : gap? text = some rest) :
    ∃ gap, gap ≠ [] ∧ IsSpacing gap ∧ text = gap ++ rest := by
  cases text with
  | nil => cases h
  | cons c tail =>
    rw [gap?] at h
    split at h
    next hc =>
      cases h
      refine ⟨c :: tail.takeWhile isGap, by simp, ?_, by simp⟩
      intro d hd
      rcases List.mem_cons.1 hd with rfl | hd
      · exact hc
      · exact List.mem_takeWhile_imp hd
    next => cases h

theorem name?_append {name rest : Text} (hname : isAsciiIdentifier name = true)
    (hrest : ∀ d, rest.head? = some d → isWordChar d = false) :
    name? (name ++ rest) = some (name, rest) := by
  cases name with
  | nil => cases hname
  | cons c name =>
    obtain ⟨hc, hall⟩ : (c.isAlpha || c == '_') = true ∧ ∀ e ∈ name, isWordChar e = true := by
      simpa only [isAsciiIdentifier, Bool.and_eq_true, List.all_eq_true] using hname
    have hstop := takeWhile_dropWhile_append hall hrest
    rw [List.cons_append, name?, if_pos hc, hstop.1, hstop.2]

theorem name?_eq_some {text name rest : Text} (h : name? text = some (name, rest)) :
    isAsciiIdentifier name = true ∧ text = name ++ rest := by
  cases text with
  | nil => cases h
  | cons c tail =>
    rw [name?] at h
    split at h
    next hc =>
      cases h
      refine ⟨?_, by simp⟩
      rw [isAsciiIdentifier, hc, Bool.true_and, List.all_eq_true]
      exact fun e he => List.mem_takeWhile_imp he
    next => cases h

theorem kind?_append (kind : Kind) (rest : Text) :
    kind? (kind.word ++ rest) = some (kind, rest) := by
  cases kind with
  | struct => rfl
  | interface => rfl

theorem kind?_eq_some {text rest : Text} {kind : Kind} (h : kind? text = some (kind, rest)) :
    text = kind.word ++ rest := by
  rw [kind?] at h
  split at h
  next tail hstruct =>
    cases h
    exact (List.isPrefixOf?_eq_some_iff_append_eq.1 hstruct).symm
  next =>
    obtain ⟨tail, htail, heq⟩ := Option.map_eq_some_iff.1 h
    cases heq
    exact (List.isPrefixOf?_eq_some_iff_append_eq.1 htail).symm

theorem openBrace?_append {spacing : Text} (hspacing : IsSpacing spacing) (rest : Text) :
    openBrace? (spacing ++ '{' :: rest) = some rest := by
  rw [openBrace?, List.dropWhile_append_of_pos hspacing]
  rfl

theorem openBrace?_eq_some {text rest : Text} (h : openBrace? text = some rest) :
    ∃ spacing, IsSpacing spacing ∧ text = spacing ++ '{' :: rest := by
  rw [openBrace?] at h
  split at h
  next => cases h
  next c tail hdrop =>
    split at h
    next hc =>
      obtain rfl : c = '{' := by simpa using hc
      cases h
      refine ⟨text.takeWhile isGap, fun d hd => List.mem_takeWhile_imp hd, ?_⟩
      rw [← hdrop, List.takeWhile_append_dropWhile]
    next => cases h

/-! ### Headers -/

theorem eq_of_isGap {c : Char} (h : isGap c = true) : c = ' ' ∨ c = '\t' := by
  simpa only [isGap, Bool.or_eq_true, beq_iff_eq] using h

theorem isWordChar_of_isGap {c : Char} (h : isGap c = true) : isWordChar c = false := by
  rcases eq_of_isGap h with rfl | rfl <;> decide

theorem isGap_of_isWordChar {c : Char} (h : isWordChar c = true) : isGap c = false := by
  by_contra hgap
  rw [Bool.not_eq_false] at hgap
  rw [isWordChar_of_isGap hgap] at h
  cases h

theorem isWordChar_of_mem_isAsciiIdentifier {name : Text} (h : isAsciiIdentifier name = true) :
    ∀ c ∈ name, isWordChar c = true := by
  cases name with
  | nil => cases h
  | cons c name =>
    obtain ⟨hc, hall⟩ : (c.isAlpha || c == '_') = true ∧ ∀ d ∈ name, isWordChar d = true := by
      simpa only [isAsciiIdentifier, Bool.and_eq_true, List.all_eq_true] using h
    intro d hd
    rcases List.mem_cons.1 hd with rfl | hd
    · simp only [isWordChar, Char.isAlphanum, Bool.or_eq_true] at hc ⊢
      exact hc.imp_left .inl
    · exact hall d hd

theorem Kind.isWordChar_of_mem_word (kind : Kind) : ∀ c ∈ kind.word, isWordChar c = true := by
  have hall : kind.word.all isWordChar = true := by
    cases kind with
    | struct => rfl
    | interface => rfl
  simpa using hall

theorem isAsciiIdentifier_head {name rest : Text} (h : isAsciiIdentifier name = true) :
    ∀ d, (name ++ rest).head? = some d → isGap d = false := by
  cases name with
  | nil => cases h
  | cons c name =>
    rintro d ⟨rfl⟩
    exact isGap_of_isWordChar (isWordChar_of_mem_isAsciiIdentifier h c (by simp))

theorem Kind.word_head (kind : Kind) (rest : Text) :
    ∀ d, (kind.word ++ rest).head? = some d → isGap d = false := by
  cases kind with
  | struct =>
    rintro d ⟨rfl⟩
    rfl
  | interface =>
    rintro d ⟨rfl⟩
    rfl

theorem IsSpacing.head {spacing rest : Text} (hne : spacing ≠ []) (hspacing : IsSpacing spacing) :
    ∀ d, (spacing ++ rest).head? = some d → isWordChar d = false := by
  cases spacing with
  | nil => exact absurd rfl hne
  | cons c spacing =>
    rintro d ⟨rfl⟩
    exact isWordChar_of_isGap (hspacing c (by simp))

theorem Header.SpelledBy.mem_cases {header : Header} {front : Text} (h : header.SpelledBy front) {c : Char}
    (hc : c ∈ front) : isWordChar c = true ∨ isGap c = true ∨ c = '{' := by
  obtain ⟨hname, before, behind, spacing, -, hbefore, -, hbehind, hspacing, rfl⟩ := h
  have htype : ("type" : Text).all isWordChar = true := rfl
  simp only [List.mem_append] at hc
  rcases hc with (((((hc | hc) | hc) | hc) | hc) | hc) | hc
  · exact .inl (List.all_eq_true.1 htype c hc)
  · exact .inr (.inl (hbefore c hc))
  · exact .inl (isWordChar_of_mem_isAsciiIdentifier hname c hc)
  · exact .inr (.inl (hbehind c hc))
  · exact .inl (header.kind.isWordChar_of_mem_word c hc)
  · exact .inr (.inl (hspacing c hc))
  · exact .inr (.inr (List.mem_singleton.1 hc))

/-- The header that a text starts with is the one that a front of it spells. -/
theorem header?_eq_some_iff {text rest : Text} {header : Header} :
    header? text = some (header, rest) ↔
      ∃ front, header.SpelledBy front ∧ text = front ++ rest := by
  constructor
  · intro h
    simp only [header?, bind, Option.bind_eq_some_iff, pure, Option.some.injEq] at h
    obtain ⟨text₁, htype, text₂, hbefore, ⟨name, text₃⟩, hname, text₄, hbehind, ⟨kind, text₅⟩,
      hkind, text₆, hbrace, heq⟩ := h
    obtain ⟨rfl, rfl⟩ := Prod.mk.inj heq
    have htype := (List.isPrefixOf?_eq_some_iff_append_eq.1 htype).symm
    obtain ⟨before, hbeforeNe, hbeforeGap, rfl⟩ := gap?_eq_some hbefore
    obtain ⟨hidentifier, rfl⟩ := name?_eq_some hname
    obtain ⟨behind, hbehindNe, hbehindGap, rfl⟩ := gap?_eq_some hbehind
    obtain rfl := kind?_eq_some hkind
    obtain ⟨spacing, hspacing, rfl⟩ := openBrace?_eq_some hbrace
    refine ⟨_, ⟨hidentifier, before, behind, spacing, hbeforeNe, hbeforeGap, hbehindNe, hbehindGap,
      hspacing, rfl⟩, ?_⟩
    rw [htype]
    simp only [List.append_assoc, List.singleton_append]
  · rintro ⟨front, ⟨hidentifier, before, behind, spacing, hbeforeNe, hbeforeGap, hbehindNe,
      hbehindGap, hspacing, rfl⟩, rfl⟩
    obtain ⟨name, kind⟩ := header
    simp only [List.append_assoc, List.singleton_append] at hidentifier ⊢
    have hname : name? (name ++ (behind ++ (kind.word ++ (spacing ++ '{' :: rest)))) =
        some (name, behind ++ (kind.word ++ (spacing ++ '{' :: rest))) :=
      name?_append hidentifier (hbehindGap.head hbehindNe)
    have hbehind := gap?_append hbehindNe hbehindGap (kind.word_head (spacing ++ '{' :: rest))
    simp only [header?, bind, pure]
    rw [List.isPrefixOf?_eq_some_iff_append_eq.2 rfl, Option.bind_some,
      gap?_append hbeforeNe hbeforeGap (isAsciiIdentifier_head hidentifier), Option.bind_some,
      hname, Option.bind_some, hbehind, Option.bind_some, kind?_append, Option.bind_some,
      openBrace?_append hspacing, Option.bind_some]

end GoScaffold.Source
