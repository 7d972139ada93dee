import Mathlib.Data.List.Pairwise
import GoScaffold.Proofs.Source.BraceCount

/-!
# The scan of a source text

The segments of a text lie side by side and cover it.  Each is what stands first at
its place, and no word runs across the start of a segment.  So the declarations that
the scan reports are those that start at a segment, none of them starts in the middle
of a word or inside a token, and they follow each other without overlap.
-/

namespace GoScaffold.Source

/-! ### The first segment -/

/-- No word runs on from `front` into `rest`. -/
def AtWordBoundary (front rest : Text) : Prop :=
  ∀ c d, front.getLast? = some c → rest.head? = some d → isWordChar c = true →
    isWordChar d = false

theorem AtWordBoundary.nil_left (rest : Text) : AtWordBoundary [] rest := by
  intro c d hc
  cases hc

theorem AtWordBoundary.append_left {front rest : Text} (h : AtWordBoundary front rest)
    (hne : front ≠ []) (before : Text) : AtWordBoundary (before ++ front) rest := by
  intro c d hc
  rw [List.getLast?_append_of_ne_nil before hne] at hc
  exact h c d hc

theorem FrontEndingIn.atWordBoundary {last : Char} {front text : Text}
    (h : FrontEndingIn last front text) (hlast : isWordChar last = false) (rest : Text) :
    AtWordBoundary front rest := by
  intro c d hc _ hword
  obtain rfl : last = c := by simpa [h.2] using hc
  rw [hlast] at hword
  cases hword

/-- A declaration is a front of its text that starts with `t` and ends with a brace. -/
theorem Declaration.AtFrontOf.take {declared : Declaration} {length : Nat} {text : Text}
    (h : declared.AtFrontOf length text) :
    FrontEndingIn '}' (text.take length) text ∧ (text.take length).length = length ∧
      text.head? = some 't' := by
  obtain ⟨front, after, ⟨-, before, behind, spacing, -, -, -, -, -, hfront⟩, rfl, -, rfl⟩ := h
  have htake : (front ++ (declared.body ++ '}' :: after)).take
      (front.length + declared.body.length + 1) = front ++ declared.body ++ ['}'] := by
    have hwhole : front ++ (declared.body ++ '}' :: after) =
        (front ++ declared.body ++ ['}']) ++ after := by simp
    rw [hwhole]
    exact List.take_left' (by simp [Nat.add_assoc])
  rw [htake]
  refine ⟨⟨⟨after, by simp⟩, by simp⟩, by simp [Nat.add_assoc], ?_⟩
  rw [hfront]
  rfl

/-- The first segment is a front of its text behind which no word runs on. -/
theorem Segment.first_front (c : Char) (rest : Text) :
    ∃ after, c :: rest = (Segment.first c rest).text ++ after ∧
      (Segment.first c rest).text ≠ [] ∧ AtWordBoundary (Segment.first c rest).text after := by
  rw [Segment.first]
  cases hdeclaration : declaration? (c :: rest) with
  | some found =>
    obtain ⟨declared, length⟩ := found
    have htake := (declaration?_eq_some_iff_atFrontOf.1 hdeclaration).take.1
    refine ⟨(c :: rest).drop length, ?_, htake.ne_nil, htake.atWordBoundary (by decide) _⟩
    exact (List.take_append_drop length (c :: rest)).symm
  | none =>
    cases htoken : token? (c :: rest) with
    | some lexeme =>
      rcases token?_front htoken with ⟨last, hlast, hfront⟩ | ⟨comment, after, rfl, hafter, hline⟩
      · obtain ⟨after, hafter⟩ := hfront.1
        exact ⟨after, hafter.symm, hfront.ne_nil, hfront.atWordBoundary hlast after⟩
      · refine ⟨after, hafter, by simp [Segment.text], ?_⟩
        intro e d _ hd _
        obtain rfl | rfl : d = '\n' ∨ d = '\r' := by
          simpa [isLineBreak] using hline d hd
        · decide
        · decide
    | none =>
      by_cases hc : isWordChar c = true
      · simp only [hc, if_true, Segment.text]
        refine ⟨rest.dropWhile isWordChar, by simp, by simp, ?_⟩
        intro e d _ hd _
        have hstop := List.head?_dropWhile_not isWordChar rest
        rw [hd] at hstop
        simpa using hstop
      · simp only [hc, Segment.text]
        refine ⟨rest, rfl, by simp, ?_⟩
        intro e d he _ hword
        obtain rfl : c = e := by simpa using he
        exact absurd hword hc

theorem Segment.declared?_first (c : Char) (rest : Text) :
    (Segment.first c rest).declared? = (declaration? (c :: rest)).map Prod.fst := by
  rw [Segment.first]
  cases declaration? (c :: rest) with
  | some found => rfl
  | none =>
    cases token? (c :: rest) with
    | some lexeme => rfl
    | none => by_cases h : isWordChar c = true <;> simp [h, Segment.declared?]

/-! ### All segments -/

theorem segmentsFrom_eq_segments (skip : Nat) (text : Text) :
    segmentsFrom skip text = segments (text.drop skip) := by
  induction skip generalizing text with
  | zero => rfl
  | succ skip ih =>
    cases text with
    | nil => rfl
    | cons c rest => rw [segmentsFrom, ih, List.drop_succ_cons]

theorem segments_cons {c : Char} {rest after : Text}
    (h : c :: rest = (Segment.first c rest).text ++ after) :
    segments (c :: rest) = Segment.first c rest :: segments after := by
  obtain ⟨-, -, hne, -⟩ := Segment.first_front c rest
  rw [segments, segmentsFrom, segmentsFrom_eq_segments]
  have hlength : 0 < (Segment.first c rest).text.length := List.length_pos_iff.2 hne
  have hdrop : rest.drop ((Segment.first c rest).text.length - 1) = after := by
    rw [← List.drop_succ_cons, Nat.sub_add_cancel hlength]
    conv_lhs => rw [h]
    exact List.drop_left
  rw [hdrop]

theorem segments_induction {motive : Text → Prop} (nil : motive [])
    (cons : ∀ c rest after, c :: rest = (Segment.first c rest).text ++ after →
      segments (c :: rest) = Segment.first c rest :: segments after →
      AtWordBoundary (Segment.first c rest).text after → motive after → motive (c :: rest)) :
    ∀ text, motive text := by
  intro text
  induction hlength : text.length using Nat.strong_induction_on generalizing text with
  | _ length ih =>
    cases text with
    | nil => exact nil
    | cons c rest =>
      obtain ⟨after, hafter, hne, hboundary⟩ := Segment.first_front c rest
      have hshorter : after.length < length := by
        have hpos := List.length_pos_iff.2 hne
        have hsum := congrArg List.length hafter
        rw [List.length_append] at hsum
        omega
      exact cons c rest after hafter (segments_cons hafter) hboundary
        (ih after.length hshorter after rfl)

theorem segments_flatMap_text (text : Text) : (segments text).flatMap Segment.text = text := by
  induction text using segments_induction with
  | nil => rfl
  | cons c rest after hafter hsegments _ ih => rw [hsegments, List.flatMap_cons, ih, ← hafter]

/-! ### Reading on -/

theorem declarations_of_first {c : Char} {rest after : Text} {segment : Segment}
    (hfirst : Segment.first c rest = segment) (hsplit : c :: rest = segment.text ++ after) :
    declarations (c :: rest) = segment.declared?.toList ++ declarations after := by
  subst hfirst
  rw [declarations, segments_cons hsplit, List.filterMap_cons]
  cases (Segment.first c rest).declared? with
  | none => rfl
  | some declared => rfl

theorem declarations_of_declaration {text after : Text} {declared : Declaration} {length : Nat}
    (h : declaration? text = some (declared, length)) (hafter : text.drop length = after) :
    declarations text = declared :: declarations after := by
  cases text with
  | nil => cases h
  | cons c rest =>
    have hfirst : Segment.first c rest = .declaration declared ((c :: rest).take length) := by
      rw [Segment.first, h]
    refine declarations_of_first hfirst ?_
    rw [← hafter]
    exact (List.take_append_drop length (c :: rest)).symm

/-- A token at which no declaration starts is passed over. -/
theorem declarations_of_token {lexeme after : Text}
    (hdeclaration : declaration? (lexeme ++ after) = none)
    (htoken : token? (lexeme ++ after) = some lexeme) :
    declarations (lexeme ++ after) = declarations after := by
  cases lexeme with
  | nil => exact absurd rfl (token?_isFront htoken).2
  | cons c rest =>
    rw [List.cons_append] at hdeclaration htoken
    have hfirst : Segment.first c (rest ++ after) = .token (c :: rest) := by
      rw [Segment.first, hdeclaration, htoken]
    exact declarations_of_first hfirst rfl

theorem declaration?_eq_none_of_head {c : Char} (hc : c ≠ 't') (rest : Text) :
    declaration? (c :: rest) = none := by
  rw [Option.eq_none_iff_forall_ne_some]
  rintro ⟨declared, length⟩ h
  have hhead := (declaration?_eq_some_iff_atFrontOf.1 h).take.2.2
  exact hc (by simpa using hhead)

theorem declarations_of_char {c : Char} {rest : Text} (hdeclaration : declaration? (c :: rest) = none)
    (htoken : token? (c :: rest) = none) (hword : isWordChar c = false) :
    declarations (c :: rest) = declarations rest := by
  have hfirst : Segment.first c rest = .single c := by
    rw [Segment.first, hdeclaration, htoken]
    simp only [hword, Bool.false_eq_true, if_false]
  exact declarations_of_first hfirst rfl

/-- A whole word at which no declaration starts is passed over. -/
theorem declarations_of_word {c : Char} {rest : Text} (hdeclaration : declaration? (c :: rest) = none)
    (hword : isWordChar c = true) : declarations (c :: rest) = declarations (rest.dropWhile isWordChar) := by
  have hfirst : Segment.first c rest = .word (c :: rest.takeWhile isWordChar) := by
    rw [Segment.first, hdeclaration, token?_eq_none_of_start (startsToken_of_isWordChar hword)]
    simp only [hword, if_true]
  exact declarations_of_first hfirst (by simp [Segment.text])

/-- A character that starts neither a token nor a word is passed over. -/
theorem declarations_of_single {c : Char} (htoken : startsToken c = false) (hword : isWordChar c = false)
    (rest : Text) : declarations (c :: rest) = declarations rest := by
  have hc : c ≠ 't' := by
    rintro rfl
    exact absurd hword (by decide)
  exact declarations_of_char (declaration?_eq_none_of_head hc rest) (token?_eq_none_of_start htoken rest) hword

theorem declarations_eq_nil {text : Text} (h : '{' ∉ text) : declarations text = [] := by
  induction text using segments_induction with
  | nil => rfl
  | cons c rest after hafter hsegments _ ih =>
    have hnone : declaration? (c :: rest) = none := by
      rw [Option.eq_none_iff_forall_ne_some]
      rintro ⟨declared, length⟩ hfound
      obtain ⟨front, tail, ⟨-, before, behind, spacing, -, -, -, -, -, rfl⟩, htext, -⟩ :=
        declaration?_eq_some_iff_atFrontOf.1 hfound
      rw [htext] at h
      simp at h
    have hrest : '{' ∉ after := by
      intro hmem
      rw [hafter] at h
      exact h (List.mem_append_right _ hmem)
    rw [declarations, hsegments, List.filterMap_cons, Segment.declared?_first, hnone]
    exact ih hrest

/-! ### Places -/

/-- Segments that start at `position`, each with the position of its first character. -/
def placeFrom (position : Nat) : List Segment → List (Nat × Segment)
  | [] => []
  | segment :: rest => (position, segment) :: placeFrom (position + segment.text.length) rest

def placedSegments (text : Text) : List (Nat × Segment) :=
  placeFrom 0 (segments text)

theorem placeFrom_map_snd (position : Nat) (listed : List Segment) :
    (placeFrom position listed).map Prod.snd = listed := by
  induction listed generalizing position with
  | nil => rfl
  | cons segment rest ih => rw [placeFrom, List.map_cons, ih]

theorem le_of_mem_placeFrom {position : Nat} {listed : List Segment} {placed : Nat × Segment}
    (h : placed ∈ placeFrom position listed) : position ≤ placed.1 := by
  induction listed generalizing position with
  | nil => cases h
  | cons segment rest ih =>
    rcases List.mem_cons.1 h with rfl | h
    · exact Nat.le_refl position
    · exact Nat.le_trans (Nat.le_add_right position segment.text.length) (ih h)

theorem placeFrom_pairwise (position : Nat) (listed : List Segment) :
    (placeFrom position listed).Pairwise fun former later =>
      former.1 + former.2.text.length ≤ later.1 := by
  induction listed generalizing position with
  | nil => exact List.Pairwise.nil
  | cons segment rest ih =>
    apply List.Pairwise.cons
    · intro later hlater
      exact le_of_mem_placeFrom hlater
    · exact ih _

/-- A placed segment is the first segment of the text from its position on, and no word
runs across that position. -/
theorem placeFrom_segments {front text : Text} {position : Nat} {segment : Segment}
    (h : (position, segment) ∈ placeFrom front.length (segments text))
    (hboundary : AtWordBoundary front text) :
    ∃ before c rest, text = before ++ c :: rest ∧ position = front.length + before.length ∧
      segment = Segment.first c rest ∧ AtWordBoundary (front ++ before) (c :: rest) := by
  induction text using segments_induction generalizing front with
  | nil => cases h
  | cons c rest after hafter hsegments hbehind ih =>
    rw [hsegments, placeFrom] at h
    rcases List.mem_cons.1 h with heq | h
    · obtain ⟨rfl, rfl⟩ := Prod.mk.inj heq
      exact ⟨[], c, rest, rfl, rfl, rfl, by rwa [List.append_nil]⟩
    · obtain ⟨-, -, hne, -⟩ := Segment.first_front c rest
      rw [← List.length_append] at h
      obtain ⟨before, d, tail, rfl, rfl, rfl, hwithin⟩ :=
        ih h (hbehind.append_left hne front)
      refine ⟨(Segment.first c rest).text ++ before, d, tail, ?_, ?_, rfl, ?_⟩
      · rw [hafter, List.append_assoc]
      · rw [List.length_append, List.length_append, Nat.add_assoc]
      · rwa [← List.append_assoc]

theorem mem_placedSegments {text : Text} {position : Nat} {segment : Segment}
    (h : (position, segment) ∈ placedSegments text) :
    ∃ c rest, text.drop position = c :: rest ∧ segment = Segment.first c rest ∧
      AtWordBoundary (text.take position) (c :: rest) := by
  have hplaced : (position, segment) ∈ placeFrom ([] : Text).length (segments text) := h
  obtain ⟨before, c, rest, rfl, rfl, rfl, hboundary⟩ :=
    placeFrom_segments hplaced (AtWordBoundary.nil_left text)
  rw [List.nil_append] at hboundary
  refine ⟨c, rest, ?_, rfl, ?_⟩
  · simp
  · simpa using hboundary

theorem Segment.text_ne_nil_of_mem {text : Text} {position : Nat} {segment : Segment}
    (h : (position, segment) ∈ placedSegments text) : segment.text ≠ [] := by
  obtain ⟨c, rest, -, rfl, -⟩ := mem_placedSegments h
  obtain ⟨-, -, hne, -⟩ := Segment.first_front c rest
  exact hne

theorem Segment.token?_of_first {c : Char} {rest lexeme : Text}
    (h : Segment.first c rest = .token lexeme) : token? (c :: rest) = some lexeme := by
  rw [Segment.first] at h
  split at h
  next => cases h
  next =>
    split at h
    next found hfound =>
      cases h
      exact hfound
    next =>
      split at h
      next => cases h
      next => cases h

theorem placedSegments_disjoint {text : Text} {one other : Nat × Segment}
    (hone : one ∈ placedSegments text) (hother : other ∈ placedSegments text) (hne : one ≠ other) :
    one.1 + one.2.text.length ≤ other.1 ∨ other.1 + other.2.text.length ≤ one.1 := by
  have hpairwise : (placedSegments text).Pairwise fun one other : Nat × Segment =>
      one.1 + one.2.text.length ≤ other.1 ∨ other.1 + other.2.text.length ≤ one.1 :=
    (placeFrom_pairwise 0 (segments text)).imp Or.inl
  have hsymm : Std.Symm fun one other : Nat × Segment =>
      one.1 + one.2.text.length ≤ other.1 ∨ other.1 + other.2.text.length ≤ one.1 :=
    ⟨fun _ _ => Or.symm⟩
  exact hpairwise.forall hone hother hne

/-! ### Where declarations are found -/

/-- A declaration starts at a position exactly when its header is spelled there and the
count of braces, from one at its opening brace, comes to zero at the brace behind its
body.  The segments cover the text, one behind the other; the declarations that the
scan reports are those of the segments, in order, and a segment is a declaration
exactly when one starts there.  No reported declaration starts behind a word
character or inside a token. -/
theorem declarations_at_segments (text : Text) :
    (∀ position declared length,
      declaration? (text.drop position) = some (declared, length) ↔
        declared.AtFrontOf length (text.drop position)) ∧
    (placedSegments text).flatMap (fun placed => placed.2.text) = text ∧
    ((placedSegments text).Pairwise fun former later =>
      former.1 + former.2.text.length ≤ later.1) ∧
    declarations text = (placedSegments text).filterMap (fun placed => placed.2.declared?) ∧
    ∀ position segment, (position, segment) ∈ placedSegments text →
      segment.declared? = (declaration? (text.drop position)).map Prod.fst ∧
      (segment.declared?.isSome →
        (∀ c, (text.take position).getLast? = some c → isWordChar c = false) ∧
        ∀ start lexeme, (start, Segment.token lexeme) ∈ placedSegments text →
          token? (text.drop start) = some lexeme ∧
            ¬ (start ≤ position ∧ position < start + lexeme.length)) := by
  refine ⟨fun position declared length => declaration?_eq_some_iff_atFrontOf, ?_,
    placeFrom_pairwise 0 (segments text), ?_, ?_⟩
  · conv_rhs => rw [← segments_flatMap_text text, ← placeFrom_map_snd 0 (segments text)]
    rw [List.flatMap_map]
    rfl
  · rw [declarations, ← placeFrom_map_snd 0 (segments text), List.filterMap_map]
    rfl
  · intro position segment hplaced
    obtain ⟨c, rest, hdrop, rfl, hboundary⟩ := mem_placedSegments hplaced
    refine ⟨by rw [hdrop, Segment.declared?_first], ?_⟩
    intro hdeclared
    rw [Segment.declared?_first, Option.isSome_map] at hdeclared
    obtain ⟨⟨declared, length⟩, hfound⟩ := Option.isSome_iff_exists.1 hdeclared
    have hfront := declaration?_eq_some_iff_atFrontOf.1 hfound
    refine ⟨?_, ?_⟩
    · intro d hd
      by_contra hword
      rw [Bool.not_eq_false] at hword
      exact absurd (hboundary d 't' hd hfront.take.2.2 hword) (by decide)
    · intro start lexeme htoken
      obtain ⟨d, tail, hstart, hsegment, -⟩ := mem_placedSegments htoken
      refine ⟨by rw [hstart, Segment.token?_of_first hsegment.symm], ?_⟩
      rintro ⟨hstarts, hends⟩
      have hne : (start, Segment.token lexeme) ≠ (position, Segment.first c rest) := by
        intro heq
        have hsame := (Prod.mk.inj heq).2
        rw [Segment.first, hfound] at hsame
        cases hsame
      rcases placedSegments_disjoint htoken hplaced hne with hbefore | hbehind
      · exact absurd hends (Nat.not_lt.2 hbefore)
      · have hpos := List.length_pos_iff.2 (Segment.text_ne_nil_of_mem hplaced)
        simp only at hbehind
        omega

end GoScaffold.Source
