import Mathlib.Data.List.Induction
import GoScaffold.Proofs.Source.Scan

/-!
# Texts without headers

A header starts with `type`, spaces or tabs, and a letter of the name.  A text that never
spells so much declares nothing.  Whether it does is read off its parts one after the
other: all that a part has to know of what stands in front of it is how far the spelling
of a header has come there.
-/

namespace GoScaffold.Source

/-- How much of `type`, a gap and the first letter of a name has been read. -/
inductive Spelling where
  | nothing
  | t
  | ty
  | typ
  | type
  | gap
  | name
  deriving DecidableEq, Repr

namespace Spelling

/-- The spelling that starts with `c`. -/
def first (c : Char) : Spelling :=
  if c == 't' then t else nothing

def next (spelling : Spelling) (c : Char) : Spelling :=
  match spelling with
  | nothing => first c
  | t => if c == 'y' then ty else first c
  | ty => if c == 'p' then typ else first c
  | typ => if c == 'e' then type else first c
  | type => if isGap c then gap else first c
  | gap => if isGap c then gap else if isWordChar c then name else first c
  | name => name

def after (spelling : Spelling) (text : Text) : Spelling :=
  text.foldl next spelling

theorem after_append (spelling : Spelling) (front rest : Text) :
    spelling.after (front ++ rest) = (spelling.after front).after rest :=
  List.foldl_append

/-! ### Headers are spelled -/

theorem after_name (text : Text) : name.after text = name := by
  induction text with
  | nil => rfl
  | cons c text ih => exact ih

theorem after_gap {text : Text} (h : IsSpacing text) : gap.after text = gap := by
  induction text with
  | nil => rfl
  | cons c text ih =>
    obtain ⟨hc, htail⟩ := List.forall_mem_cons.1 h
    have hnext : gap.next c = gap := by simp only [next, hc, if_true]
    rw [after, List.foldl_cons, hnext]
    exact ih htail

theorem after_header (spelling : Spelling) {header : Header} {front : Text}
    (h : header.SpelledBy front) (rest : Text) : spelling.after (front ++ rest) = name := by
  obtain ⟨hname, before, behind, spacing, hne, hbefore, -, -, -, rfl⟩ := h
  have htype : spelling.after "type" = type ∨ spelling.after "type" = name := by
    cases spelling with
    | gap => exact .inr rfl
    | name => exact .inr rfl
    | nothing => exact .inl rfl
    | t => exact .inl rfl
    | ty => exact .inl rfl
    | typ => exact .inl rfl
    | type => exact .inl rfl
  simp only [after_append]
  rcases htype with htype | htype
  · have hgap : type.after before = gap := by
      cases before with
      | nil => exact absurd rfl hne
      | cons c before =>
        obtain ⟨hc, htail⟩ := List.forall_mem_cons.1 hbefore
        have hnext : type.next c = gap := by simp only [next, hc, if_true]
        rw [after, List.foldl_cons, hnext]
        exact after_gap htail
    have hletter : gap.after header.name = name := by
      cases hletters : header.name with
      | nil =>
        rw [hletters] at hname
        cases hname
      | cons c letters =>
        have hc : isWordChar c = true :=
          isWordChar_of_mem_isAsciiIdentifier hname c (by rw [hletters]; exact List.mem_cons_self)
        have hnext : gap.next c = name := by
          simp only [next, isGap_of_isWordChar hc, hc, if_true, Bool.false_eq_true, if_false]
        rw [after, List.foldl_cons, hnext]
        exact after_name letters
    simp only [htype, hgap, hletter, after_name]
  · simp only [htype, after_name]

end Spelling

/-- A text that spells no header declares nothing. -/
theorem declarations_eq_nil_of_after (spelling : Spelling) {text : Text}
    (h : spelling.after text ≠ .name) : declarations text = [] := by
  induction text using segments_induction generalizing spelling with
  | nil => rfl
  | cons c rest after hafter hsegments _ ih =>
    have hnone : declaration? (c :: rest) = none := by
      rw [Option.eq_none_iff_forall_ne_some]
      rintro ⟨declared, length⟩ hfound
      obtain ⟨front, tail, hspelled, htext, -⟩ := declaration?_eq_some_iff_atFrontOf.1 hfound
      rw [htext] at h
      exact h (spelling.after_header hspelled _)
    rw [hafter, Spelling.after_append] at h
    rw [declarations, hsegments, List.filterMap_cons, Segment.declared?_first, hnone]
    exact ih _ h

/-! ### Parts that spell no header -/

namespace Spelling

/-- What a text without `type` may leave. -/
def fronts : List Spelling := [nothing, t, ty, typ]

/-- What a text without gaps may leave. -/
def words : List Spelling := type :: fronts

/-- What the text behind a `spelling` looks like. -/
def Reaches (spelling : Spelling) (text : Text) : Prop :=
  match spelling with
  | nothing => True
  | t => ("t" : Text) <:+ text
  | ty => ("ty" : Text) <:+ text
  | typ => ("typ" : Text) <:+ text
  | _ => ("type" : Text) <:+: text

theorem reaches_first (text : Text) (c : Char) : (first c).Reaches (text ++ [c]) := by
  rw [first]
  split
  next hc =>
    obtain rfl : c = 't' := by simpa using hc
    exact ⟨text, rfl⟩
  next => trivial

theorem Reaches.next {spelling : Spelling} {text : Text} (h : spelling.Reaches text) (c : Char) :
    (spelling.next c).Reaches (text ++ [c]) := by
  have hlater : ("type" : Text) <:+: text → ("type" : Text) <:+: text ++ [c] := fun hoccurs =>
    hoccurs.trans (List.prefix_append text [c]).isInfix
  cases spelling with
  | nothing => exact reaches_first text c
  | t =>
    rw [Spelling.next]
    split
    next hc =>
      obtain rfl : c = 'y' := by simpa using hc
      obtain ⟨front, rfl⟩ := h
      exact ⟨front, by simp⟩
    next => exact reaches_first text c
  | ty =>
    rw [Spelling.next]
    split
    next hc =>
      obtain rfl : c = 'p' := by simpa using hc
      obtain ⟨front, rfl⟩ := h
      exact ⟨front, by simp⟩
    next => exact reaches_first text c
  | typ =>
    rw [Spelling.next]
    split
    next hc =>
      obtain rfl : c = 'e' := by simpa using hc
      obtain ⟨front, rfl⟩ := h
      exact ⟨front, [], by simp⟩
    next => exact reaches_first text c
  | type =>
    rw [Spelling.next]
    split
    next => exact hlater h
    next => exact reaches_first text c
  | gap =>
    rw [Spelling.next]
    split
    next => exact hlater h
    next =>
      split
      next => exact hlater h
      next => exact reaches_first text c
  | name => exact hlater h

theorem reaches_after (text : Text) : (nothing.after text).Reaches text := by
  induction text using List.reverseRecOn with
  | nil => trivial
  | append_singleton text c ih =>
    rw [after_append]
    exact ih.next c

theorem after_mem_fronts {text : Text} (h : ¬ ("type" : Text) <:+: text) : nothing.after text ∈ fronts := by
  have hreaches := reaches_after text
  revert hreaches
  cases nothing.after text with
  | nothing => exact fun _ => by decide
  | t => exact fun _ => by decide
  | ty => exact fun _ => by decide
  | typ => exact fun _ => by decide
  | type => exact fun hoccurs => absurd hoccurs h
  | gap => exact fun hoccurs => absurd hoccurs h
  | name => exact fun hoccurs => absurd hoccurs h

theorem after_mem_words {spelling : Spelling} (hspelling : spelling ∈ words) {text : Text}
    (h : ∀ c ∈ text, isGap c = false) : spelling.after text ∈ words := by
  induction text generalizing spelling with
  | nil => exact hspelling
  | cons c text ih =>
    obtain ⟨hc, htail⟩ := List.forall_mem_cons.1 h
    apply ih _ htail
    have hfirst : first c ∈ words := by
      rw [first]
      split <;> decide
    cases spelling with
    | nothing => exact hfirst
    | t => rw [next]; split; exacts [by decide, hfirst]
    | ty => rw [next]; split; exacts [by decide, hfirst]
    | typ => rw [next]; split; exacts [by decide, hfirst]
    | type => simpa only [next, hc, Bool.false_eq_true, if_false] using hfirst
    | gap => exact absurd hspelling (by decide)
    | name => exact absurd hspelling (by decide)

end Spelling

/-- A text that leaves nothing of a header, whatever word stands in front of it. -/
def Clears (text : Text) : Prop :=
  ∀ spelling ∈ Spelling.words, spelling.after text = .nothing

instance (text : Text) : Decidable (Clears text) :=
  inferInstanceAs (Decidable (∀ spelling ∈ Spelling.words, spelling.after text = .nothing))

theorem Clears.append {front rest : Text} (hfront : Clears front) (hrest : Clears rest) :
    Clears (front ++ rest) := by
  intro spelling hspelling
  rw [Spelling.after_append, hfront spelling hspelling]
  exact hrest .nothing (by decide)

theorem Clears.word_append {word rest : Text} (hword : ∀ c ∈ word, isGap c = false) (hrest : Clears rest) :
    Clears (word ++ rest) := by
  intro spelling hspelling
  rw [Spelling.after_append]
  exact hrest _ (Spelling.after_mem_words hspelling hword)

theorem Clears.flatMap {α : Type} {listed : List α} {text : α → Text} (h : ∀ a ∈ listed, Clears (text a)) :
    Spelling.nothing.after (listed.flatMap text) = .nothing := by
  induction listed with
  | nil => rfl
  | cons a listed ih =>
    obtain ⟨hfirst, hothers⟩ := List.forall_mem_cons.1 h
    rw [List.flatMap_cons, Spelling.after_append, hfirst .nothing (by decide), ih hothers]

/-- Behind what ends all spelling, two texts without `type` may stand, with a space between
them. -/
theorem Clears.append_spaced {front first second rest : Text} (hfront : Clears front)
    (hfirst : ¬ ("type" : Text) <:+: first) (hsecond : ¬ ("type" : Text) <:+: second)
    (hrest : Clears rest) : Clears (front ++ (first ++ ([' '] ++ (second ++ rest)))) := by
  have hspace : ∀ spelling ∈ Spelling.fronts, spelling.after [' '] = .nothing := by decide
  intro spelling hspelling
  rw [Spelling.after_append, hfront spelling hspelling, Spelling.after_append, Spelling.after_append,
    hspace _ (Spelling.after_mem_fronts hfirst), Spelling.after_append]
  exact hrest _ (List.mem_cons_of_mem _ (Spelling.after_mem_fronts hsecond))

end GoScaffold.Source
