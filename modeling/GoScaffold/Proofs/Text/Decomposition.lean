import GoScaffold.Proofs.Text.Pieces

/-!
# The decomposition of a text

A separator cuts a text wherever it stands outside brackets, and a bracket cuts nowhere.  So
the pieces of a text are told without reading it from left to right: the separator joins
them to the text, stands in none of them outside brackets, and each of them but the last
ends outside brackets.  No other pieces have these properties.
-/

namespace GoScaffold.Text

variable {separator : Char} {depth : Nat}

def IsSeparator (c : Char) : Prop :=
  isOpening c = false ∧ isClosing c = false

instance (c : Char) : Decidable (IsSeparator c) :=
  inferInstanceAs (Decidable (_ ∧ _))

theorem IsSeparator.depthAfter_eq (h : IsSeparator separator) (depth : Nat) :
    depthAfter depth separator = depth := by
  simp only [depthAfter, h.1, h.2, Bool.false_eq_true, if_false]

/-! ### One character -/

theorem splitOutsideFrom_separator (h : IsSeparator separator) (rest : Text) :
    splitOutsideFrom separator 0 (separator :: rest) = [] :: splitOutsideFrom separator 0 rest := by
  rw [splitOutsideFrom, h.1, h.2]
  simp

theorem splitOutsideFrom_cons {c : Char} (h : ¬ (IsSeparator separator ∧ c = separator ∧ depth = 0))
    (rest : Text) :
    splitOutsideFrom separator depth (c :: rest) =
      consFirst c (splitOutsideFrom separator (depthAfter depth c) rest) := by
  have hkept : (c == separator && depth == 0 && !isOpening c && !isClosing c) = false := by
    by_contra hcut
    simp only [Bool.not_eq_false, Bool.and_eq_true, beq_iff_eq, Bool.not_eq_true'] at hcut
    obtain ⟨⟨⟨rfl, hdepth⟩, hopening⟩, hclosing⟩ := hcut
    exact h ⟨⟨hopening, hclosing⟩, rfl, hdepth⟩
  rw [splitOutsideFrom, hkept, if_neg Bool.false_ne_true]

theorem consFirst_append {pieces : List Text} (hne : pieces ≠ []) (c : Char) (others : List Text) :
    consFirst c (pieces ++ others) = consFirst c pieces ++ others := by
  cases pieces with
  | nil => exact absurd rfl hne
  | cons piece pieces => rfl

/-- At a separator outside brackets the pieces behind it begin. -/
theorem splitOutsideFrom_append_separator (hseparator : IsSeparator separator) {front : Text}
    (hfront : front.foldl depthAfter depth = 0) (rest : Text) :
    splitOutsideFrom separator depth (front ++ separator :: rest) =
      splitOutsideFrom separator depth front ++ splitOutsideFrom separator 0 rest := by
  induction front generalizing depth with
  | nil =>
    obtain rfl : depth = 0 := hfront
    exact splitOutsideFrom_separator hseparator rest
  | cons c front ih =>
    rw [List.foldl_cons] at hfront
    rw [List.cons_append]
    by_cases hcut : IsSeparator separator ∧ c = separator ∧ depth = 0
    · obtain ⟨-, rfl, rfl⟩ := hcut
      rw [hseparator.depthAfter_eq] at hfront
      rw [splitOutsideFrom_separator hseparator, splitOutsideFrom_separator hseparator, ih hfront,
        List.cons_append]
    · obtain ⟨piece, pieces, hpieces⟩ := splitOutsideFrom_eq_cons separator (depthAfter depth c) front
      rw [splitOutsideFrom_cons hcut, splitOutsideFrom_cons hcut, ih hfront, consFirst_append]
      rw [hpieces]
      exact List.cons_ne_nil piece pieces

/-! ### Texts in one piece -/

/-- In a text that starts at depth `depth` the separator stands nowhere outside brackets. -/
def IsUncut (separator : Char) (depth : Nat) (text : Text) : Prop :=
  IsSeparator separator → ∀ front rest, text = front ++ separator :: rest → front.foldl depthAfter depth ≠ 0

theorem isUncut_nil : IsUncut separator depth [] := by
  intro _ front rest hnil
  simp at hnil

theorem isUncut_cons_iff {c : Char} {rest : Text} :
    IsUncut separator depth (c :: rest) ↔
      ¬ (IsSeparator separator ∧ c = separator ∧ depth = 0) ∧
        IsUncut separator (depthAfter depth c) rest := by
  constructor
  · intro h
    refine ⟨?_, ?_⟩
    · rintro ⟨hseparator, rfl, rfl⟩
      exact h hseparator [] rest rfl rfl
    · intro hseparator front behind hrest
      exact h hseparator (c :: front) behind (by rw [hrest, List.cons_append])
  · rintro ⟨hfirst, hrest⟩ hseparator front behind htext
    cases front with
    | nil =>
      obtain ⟨rfl, rfl⟩ := List.cons.inj htext
      exact fun hdepth => hfirst ⟨hseparator, rfl, hdepth⟩
    | cons d front =>
      obtain ⟨rfl, rfl⟩ := List.cons.inj htext
      exact hrest hseparator front behind rfl

theorem IsUncut.splitOutsideFrom_eq {text : Text} (h : IsUncut separator depth text) :
    splitOutsideFrom separator depth text = [text] := by
  induction text generalizing depth with
  | nil => rfl
  | cons c rest ih =>
    obtain ⟨hfirst, hrest⟩ := isUncut_cons_iff.1 h
    rw [splitOutsideFrom_cons hfirst, ih hrest, consFirst]

/-! ### All pieces -/

/-- Pieces of a text that starts at depth `depth`, which a separator between each two of
them cuts apart and nothing else. -/
inductive IsDecomposition (separator : Char) : Nat → List Text → Prop
  | last {depth : Nat} {piece : Text} (huncut : IsUncut separator depth piece) :
    IsDecomposition separator depth [piece]
  | more {depth : Nat} {piece : Text} {pieces : List Text} (hseparator : IsSeparator separator)
      (huncut : IsUncut separator depth piece) (houtside : piece.foldl depthAfter depth = 0)
      (hpieces : IsDecomposition separator 0 pieces) : IsDecomposition separator depth (piece :: pieces)

variable {pieces : List Text}

theorem IsDecomposition.consFirst {c : Char}
    (hfirst : ¬ (IsSeparator separator ∧ c = separator ∧ depth = 0))
    (h : IsDecomposition separator (depthAfter depth c) pieces) :
    IsDecomposition separator depth (consFirst c pieces) := by
  cases h with
  | last huncut => exact .last (isUncut_cons_iff.2 ⟨hfirst, huncut⟩)
  | more hseparator huncut houtside hpieces =>
    exact .more hseparator (isUncut_cons_iff.2 ⟨hfirst, huncut⟩) houtside hpieces

theorem isDecomposition_splitOutsideFrom (separator : Char) (depth : Nat) (text : Text) :
    IsDecomposition separator depth (splitOutsideFrom separator depth text) := by
  induction text generalizing depth with
  | nil => exact .last isUncut_nil
  | cons c rest ih =>
    by_cases hcut : IsSeparator separator ∧ c = separator ∧ depth = 0
    · obtain ⟨hseparator, rfl, rfl⟩ := hcut
      rw [splitOutsideFrom_separator hseparator]
      exact .more hseparator isUncut_nil rfl (ih 0)
    · rw [splitOutsideFrom_cons hcut]
      exact (ih _).consFirst hcut

theorem IsDecomposition.splitOutsideFrom_join (h : IsDecomposition separator depth pieces) :
    splitOutsideFrom separator depth (join [separator] pieces) = pieces := by
  induction h with
  | last huncut =>
    rw [join, List.intercalate_singleton]
    exact huncut.splitOutsideFrom_eq
  | @more depth piece pieces hseparator huncut houtside hpieces ih =>
    obtain ⟨second, others, rfl⟩ : ∃ second others, pieces = second :: others := by
      cases hpieces with
      | last => exact ⟨_, _, rfl⟩
      | more => exact ⟨_, _, rfl⟩
    rw [join_cons_cons, List.append_assoc, List.singleton_append,
      splitOutsideFrom_append_separator hseparator houtside, huncut.splitOutsideFrom_eq, ih,
      List.singleton_append]

theorem splitOutsideFrom_eq_iff {text : Text} :
    splitOutsideFrom separator depth text = pieces ↔
      join [separator] pieces = text ∧ IsDecomposition separator depth pieces := by
  constructor
  · rintro rfl
    exact ⟨join_splitOutsideFrom separator depth text, isDecomposition_splitOutsideFrom separator depth text⟩
  · rintro ⟨rfl, h⟩
    exact h.splitOutsideFrom_join

theorem IsDecomposition.isUncut_of_mem (h : IsDecomposition separator 0 pieces) {piece : Text}
    (hpiece : piece ∈ pieces) : IsUncut separator 0 piece := by
  generalize hdepth : 0 = depth at h
  induction h with
  | last huncut =>
    subst hdepth
    rwa [List.mem_singleton.1 hpiece]
  | more _ huncut _ _ ih =>
    subst hdepth
    rcases List.mem_cons.1 hpiece with rfl | hpiece
    · exact huncut
    · exact ih hpiece rfl

/-- The separator joins the pieces to the text again, and none of them can be split further.  Behind
a text that ends outside brackets a separator starts the pieces of what follows.  A bracket
separates nothing.  No other pieces are a decomposition of the text. -/
theorem splitOutside_decomposes (separator : Char) (text : Text) :
    join [separator] (splitOutside separator text) = text ∧
      (∀ piece ∈ splitOutside separator text, splitOutside separator piece = [piece]) ∧
      (∀ rest, IsSeparator separator → text.foldl depthAfter 0 = 0 →
        splitOutside separator (text ++ separator :: rest) =
          splitOutside separator text ++ splitOutside separator rest) ∧
      (¬ IsSeparator separator → splitOutside separator text = [text]) ∧
      ∀ pieces, splitOutside separator text = pieces ↔
        join [separator] pieces = text ∧ IsDecomposition separator 0 pieces := by
  refine ⟨join_splitOutsideFrom separator 0 text, ?_, ?_, ?_, fun pieces => splitOutsideFrom_eq_iff⟩
  · intro piece hpiece
    exact ((isDecomposition_splitOutsideFrom separator 0 text).isUncut_of_mem hpiece).splitOutsideFrom_eq
  · intro rest hseparator houtside
    exact splitOutsideFrom_append_separator hseparator houtside rest
  · intro hbracket
    have huncut : IsUncut separator 0 text := fun hseparator => absurd hseparator hbracket
    exact huncut.splitOutsideFrom_eq

/-- A `)` that nothing opened is passed, and an open `(` holds the rest of the text together. -/
example : splitOutside ',' "a), b, f(c, d" = ["a)", " b", " f(c, d"] := by decide

end GoScaffold.Text
