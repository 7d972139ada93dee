import GoScaffold.Proofs.Text.Words
import GoScaffold.Text.Basic

/-!
# Pieces between separators

Cutting a text outside its brackets loses only the separators, and blanks do not decide
where it is cut: a collapsed text has the same pieces, with the same words.
-/

namespace GoScaffold.Text

open Unicode (isBlank)

variable {separator : Char}

/-! ### Putting text in front -/

theorem foldr_consFirst_cons (front piece : Text) (pieces : List Text) :
    front.foldr consFirst (piece :: pieces) = (front ++ piece) :: pieces := by
  induction front with
  | nil => rfl
  | cons c front ih => rw [List.foldr_cons, ih]; rfl

theorem splitOutsideFrom_eq_cons (separator : Char) (depth : Nat) (text : Text) :
    ∃ piece pieces, splitOutsideFrom separator depth text = piece :: pieces := by
  cases text with
  | nil => exact ⟨[], [], rfl⟩
  | cons c rest =>
    rw [splitOutsideFrom]
    split
    next => exact ⟨[], _, rfl⟩
    next =>
      obtain ⟨piece, pieces, hpieces⟩ := splitOutsideFrom_eq_cons separator (depthAfter depth c) rest
      rw [hpieces]
      exact ⟨c :: piece, pieces, rfl⟩

theorem join_splitOutsideFrom (separator : Char) (depth : Nat) (text : Text) :
    join [separator] (splitOutsideFrom separator depth text) = text := by
  induction text generalizing depth with
  | nil => rfl
  | cons c rest ih =>
    rw [splitOutsideFrom]
    split
    next hcut =>
      simp only [Bool.and_eq_true, beq_iff_eq] at hcut
      obtain ⟨⟨⟨rfl, -⟩, -⟩, -⟩ := hcut
      have hrest := ih depth
      obtain ⟨piece, pieces, hpieces⟩ := splitOutsideFrom_eq_cons c depth rest
      rw [hpieces] at hrest ⊢
      rw [join_cons_cons, hrest]
      rfl
    next =>
      have hrest := ih (depthAfter depth c)
      obtain ⟨piece, pieces, hpieces⟩ := splitOutsideFrom_eq_cons separator (depthAfter depth c) rest
      rw [hpieces] at hrest ⊢
      rw [← hrest, consFirst]
      cases pieces with
      | nil => rfl
      | cons second pieces =>
        rw [join_cons_cons, join_cons_cons]
        rfl

theorem splitOutside_eq_singleton {text piece : Text} (h : splitOutside separator text = [piece]) :
    piece = text := by
  have hjoin := join_splitOutsideFrom separator 0 text
  rw [← splitOutside, h] at hjoin
  simpa [join] using hjoin

/-! ### Words of the pieces -/

theorem depthAfter_of_isBlank {c : Char} (h : isBlank c = true) (depth : Nat) :
    depthAfter depth c = depth := by
  have hopening : isOpening c = false := by
    by_contra hnot
    obtain (rfl | rfl) | rfl : (c = '(' ∨ c = '[') ∨ c = '{' := by
      simpa only [isOpening, Bool.not_eq_false, Bool.or_eq_true, beq_iff_eq] using hnot
    all_goals exact absurd h (by decide)
  have hclosing : isClosing c = false := by
    by_contra hnot
    obtain (rfl | rfl) | rfl : (c = ')' ∨ c = ']') ∨ c = '}' := by
      simpa only [isClosing, Bool.not_eq_false, Bool.or_eq_true, beq_iff_eq] using hnot
    all_goals exact absurd h (by decide)
  simp only [depthAfter, hopening, hclosing, Bool.false_eq_true, if_false]

theorem splitOutsideFrom_cons_blank (hseparator : isBlank separator = false) {c : Char}
    (hc : isBlank c = true) (depth : Nat) (rest : Text) :
    splitOutsideFrom separator depth (c :: rest) =
      consFirst c (splitOutsideFrom separator depth rest) := by
  have hne : (c == separator) = false := by
    rw [beq_eq_false_iff_ne]
    rintro rfl
    rw [hc] at hseparator
    cases hseparator
  rw [splitOutsideFrom, depthAfter_of_isBlank hc]
  simp only [hne, Bool.false_and, Bool.false_eq_true, if_false]

/-- The pieces have the same words, whatever stands in front of the first ones. -/
def SameWords (pieces others : List Text) : Prop :=
  ∀ front : Text, (front.foldr consFirst pieces).map words = (front.foldr consFirst others).map words

theorem SameWords.append {text other : Text}
    (h : ∀ depth, SameWords (splitOutsideFrom separator depth text) (splitOutsideFrom separator depth other))
    (front : Text) (depth : Nat) :
    SameWords (splitOutsideFrom separator depth (front ++ text))
      (splitOutsideFrom separator depth (front ++ other)) := by
  induction front generalizing depth with
  | nil => exact h depth
  | cons c front ih =>
    intro before
    rw [List.cons_append, List.cons_append, splitOutsideFrom, splitOutsideFrom]
    split
    next =>
      have hrest : (splitOutsideFrom separator depth (front ++ text)).map words =
          (splitOutsideFrom separator depth (front ++ other)).map words := ih depth []
      rw [foldr_consFirst_cons, foldr_consFirst_cons, List.map_cons, List.map_cons, hrest]
    next =>
      have hrest := ih (depthAfter depth c) (before ++ [c])
      rwa [List.foldr_append, List.foldr_append] at hrest

/-- At a blank the words of what stands before it end. -/
theorem SameWords.of_blank (hseparator : isBlank separator = false) {c d : Char} {text other : Text}
    {depth : Nat} (hc : isBlank c = true) (hd : isBlank d = true)
    (h : (splitOutsideFrom separator depth text).map words =
      (splitOutsideFrom separator depth other).map words) :
    SameWords (splitOutsideFrom separator depth (c :: text))
      (splitOutsideFrom separator depth (d :: other)) := by
  intro front
  rw [splitOutsideFrom_cons_blank hseparator hc, splitOutsideFrom_cons_blank hseparator hd]
  obtain ⟨piece, pieces, hpieces⟩ := splitOutsideFrom_eq_cons separator depth text
  obtain ⟨first, others, hothers⟩ := splitOutsideFrom_eq_cons separator depth other
  rw [hpieces, hothers, List.map_cons, List.map_cons] at h
  obtain ⟨hfirst, hrest⟩ := List.cons.inj h
  rw [hpieces, hothers, consFirst, consFirst, foldr_consFirst_cons, foldr_consFirst_cons,
    List.map_cons, List.map_cons, words_append_blank front hc, words_append_blank front hd, hfirst, hrest]

theorem splitOutsideFrom_blanks_append (hseparator : isBlank separator = false) {blanks : Text}
    (hblanks : IsBlanks blanks) (depth : Nat) (text : Text) :
    (splitOutsideFrom separator depth (blanks ++ text)).map words =
      (splitOutsideFrom separator depth text).map words := by
  induction blanks with
  | nil => rfl
  | cons c blanks ih =>
    obtain ⟨hc, htail⟩ := List.forall_mem_cons.1 hblanks
    rw [List.cons_append, splitOutsideFrom_cons_blank hseparator hc, ← ih htail]
    obtain ⟨piece, pieces, hpieces⟩ := splitOutsideFrom_eq_cons separator depth (blanks ++ text)
    rw [hpieces, consFirst, List.map_cons, List.map_cons, words_cons_blank hc]

theorem SameWords.of_blanks (hseparator : isBlank separator = false) {blanks : Text}
    (hblanks : IsBlanks blanks) (depth : Nat) :
    SameWords (splitOutsideFrom separator depth []) (splitOutsideFrom separator depth blanks) := by
  cases blanks with
  | nil => exact fun _ => rfl
  | cons c blanks =>
    intro front
    obtain ⟨hc, htail⟩ := List.forall_mem_cons.1 hblanks
    have hrest : (splitOutsideFrom separator depth blanks).map words = [[]] := by
      have hwords := splitOutsideFrom_blanks_append hseparator htail depth []
      rwa [List.append_nil] at hwords
    obtain ⟨piece, pieces, hpieces⟩ := splitOutsideFrom_eq_cons separator depth blanks
    rw [hpieces, List.map_cons, List.cons.injEq] at hrest
    rw [splitOutsideFrom_cons_blank hseparator hc, hpieces, consFirst, splitOutsideFrom,
      foldr_consFirst_cons, foldr_consFirst_cons, List.map_cons, List.map_cons,
      words_append_blank front hc, hrest.1, hrest.2, List.append_nil, List.append_nil]
    rfl

/-- Collapsing keeps the words of every piece. -/
theorem splitOutsideFrom_collapse (hseparator : isBlank separator = false) (depth : Nat) (text : Text) :
    (splitOutsideFrom separator depth (collapse text)).map words =
      (splitOutsideFrom separator depth text).map words := by
  induction text using words_induction generalizing depth with
  | blanks text hblanks =>
    rw [collapse_eq_nil_iff.2 hblanks]
    exact SameWords.of_blanks hseparator hblanks depth []
  | last blanks word hblanks hword =>
    rw [collapse_blanks_append hblanks, isCollapsed_of_isWord hword,
      splitOutsideFrom_blanks_append hseparator hblanks]
  | word blanks word c rest hblanks hword hc ih =>
    rw [collapse_blanks_append hblanks, splitOutsideFrom_blanks_append hseparator hblanks]
    rw [collapse_word_append_blank hword hc]
    split
    next hnone =>
      have hblanks : IsBlanks (c :: rest) := by
        rw [← words_eq_nil_iff, words_cons_blank hc, hnone]
      have hwords := SameWords.append (SameWords.of_blanks hseparator hblanks) word depth []
      rwa [List.append_nil] at hwords
    next =>
      exact SameWords.append (fun depth => SameWords.of_blank hseparator (by decide) hc (ih depth))
        word depth []

end GoScaffold.Text
