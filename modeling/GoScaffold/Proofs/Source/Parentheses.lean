import GoScaffold.Proofs.Source.Nested

/-!
# The first pair of parentheses

The search for the `)` that closes the first `(` counts parentheses and no other
brackets.  It cuts behind the first pair: from its `(` on each shorter part holds more `(`
than `)`.  In a nested text each pair holds as many `)` as `(`, so the search ends at the
pair with which the text in front of it ends.
-/

namespace GoScaffold.Source

open Text (splitClosed? splitClosedFrom?)

/-- The number of open parentheses behind `c`. -/
def parenthesesAfter (depth : Nat) (c : Char) : Nat :=
  if c == '(' then depth + 1 else if c == ')' then depth - 1 else depth

/-- A character that closes no pair is passed. -/
theorem splitClosedFrom?_cons {depth : Nat} {c : Char} (h : c ≠ ')' ∨ depth ≠ 1) (rest : Text) :
    splitClosedFrom? depth (c :: rest) =
      (splitClosedFrom? (parenthesesAfter depth c) rest).map fun cut => (c :: cut.1, cut.2) := by
  have hopen : (c == ')' && depth == 1) = false := by
    rw [Bool.and_eq_false_iff, beq_eq_false_iff_ne, beq_eq_false_iff_ne]
    exact h
  rw [splitClosedFrom?, hopen, if_neg Bool.false_ne_true]
  rfl

/-- The search starts at the first parenthesis. -/
theorem splitClosed?_append {front : Text} (h : '(' ∉ front) (rest : Text) :
    splitClosed? (front ++ rest) = (splitClosed? rest).map fun cut => (front ++ cut.1, cut.2) := by
  rw [splitClosed?, splitClosed?]
  induction front with
  | nil => simp
  | cons c front ih =>
    rw [List.mem_cons, not_or] at h
    have hnext : parenthesesAfter 0 c = 0 := by
      rw [parenthesesAfter, if_neg (by simpa using Ne.symm h.1), Nat.zero_sub, ite_self]
    rw [List.cons_append, splitClosedFrom?_cons (.inr Nat.zero_ne_one), hnext, ih h.2, Option.map_map]
    rfl

theorem splitClosed?_eq_none {text : Text} (h : '(' ∉ text) : splitClosed? text = none := by
  have hnone := splitClosed?_append h []
  rwa [List.append_nil] at hnone

/-- A nested text closes no pair that was opened in front of it. -/
theorem Nested.splitClosedFrom?_append {barred : Char → Bool} {opened : List Char} {text : Text}
    (h : Nested barred opened text) {depth : Nat} (hdepth : 1 ≤ depth) (rest : Text) :
    splitClosedFrom? (opened.count ')' + depth) (text ++ rest) =
      (splitClosedFrom? depth rest).map fun cut => (text ++ cut.1, cut.2) := by
  induction h with
  | nil => simp
  | @opening c closer opened text hcloser _ ih =>
    have hnext : parenthesesAfter (opened.count ')' + depth) c = (closer :: opened).count ')' + depth := by
      rcases closer?_eq_some hcloser with ⟨rfl, rfl⟩ | ⟨rfl, rfl⟩ | ⟨rfl, rfl⟩
      · simp [parenthesesAfter, Nat.add_right_comm]
      · simp [parenthesesAfter]
      · simp [parenthesesAfter]
    have hopen : c ≠ ')' := by
      rintro rfl
      cases hcloser
    rw [List.cons_append, splitClosedFrom?_cons (.inl hopen), hnext, ih, Option.map_map]
    rfl
  | @closing c opened text hclosing _ ih =>
    have hnext : parenthesesAfter ((c :: opened).count ')' + depth) c = opened.count ')' + depth := by
      rcases eq_of_isClosing hclosing with rfl | rfl | rfl
      · simp [parenthesesAfter, Nat.add_right_comm]
      · simp [parenthesesAfter]
      · simp [parenthesesAfter]
    have hopen : c ≠ ')' ∨ (c :: opened).count ')' + depth ≠ 1 := by
      by_cases hc : c = ')'
      · subst hc
        rw [List.count_cons_self]
        exact .inr (by omega)
      · exact .inl hc
    rw [List.cons_append, splitClosedFrom?_cons hopen, hnext, ih, Option.map_map]
    rfl
  | @plain c opened text hopening hclosing _ _ ih =>
    have hne : c ≠ '(' ∧ c ≠ ')' := by
      constructor
      · rintro rfl
        cases hopening
      · rintro rfl
        cases hclosing
    have hnext : parenthesesAfter (opened.count ')' + depth) c = opened.count ')' + depth := by
      simp [parenthesesAfter, hne.1, hne.2]
    rw [List.cons_append, splitClosedFrom?_cons (.inl hne.2), hnext, ih, Option.map_map]
    rfl

/-- The first parentheses are cut off with the nested text in them, whatever follows. -/
theorem splitClosed?_parentheses {barred : Char → Bool} {front inner : Text} (hfront : '(' ∉ front)
    (hinner : Nested barred [] inner) (rest : Text) :
    splitClosed? (front ++ '(' :: (inner ++ ')' :: rest)) = some (front ++ '(' :: (inner ++ [')']), rest) := by
  have hclosed : splitClosedFrom? 1 (inner ++ ')' :: rest) = some (inner ++ [')'], rest) := by
    have hpassed := hinner.splitClosedFrom?_append (Nat.le_refl 1) (')' :: rest)
    rwa [List.count_nil, Nat.zero_add] at hpassed
  have hopened : splitClosed? ('(' :: (inner ++ ')' :: rest)) = some ('(' :: (inner ++ [')']), rest) := by
    rw [splitClosed?, splitClosedFrom?_cons (.inl (by decide))]
    exact congrArg (Option.map _) hclosed
  rw [splitClosed?_append hfront, hopened]
  rfl

/-! ### Counted -/

/-- The text closes `depth` parentheses with its last character and not before. -/
structure ClosesLast (depth : Nat) (text : Text) : Prop where
  count_eq : text.count ')' = text.count '(' + depth
  count_lt : ∀ front, front <+: text → front ≠ text → front.count ')' < front.count '(' + depth

theorem ClosesLast.ne_nil {depth : Nat} (hdepth : 0 < depth) {text : Text} (h : ClosesLast depth text) :
    text ≠ [] := by
  rintro rfl
  have hcount := h.count_eq
  simp at hcount
  omega

theorem closesLast_zero_iff {text : Text} : ClosesLast 0 text ↔ text = [] := by
  constructor
  · intro h
    by_contra hne
    exact absurd (h.count_lt [] List.nil_prefix (Ne.symm hne)) (by simp)
  · rintro rfl
    exact ⟨rfl, fun front hfront hne => absurd (List.prefix_nil.1 hfront) hne⟩

/-- A character in front changes the numbers as it changes the depth. -/
theorem count_parenthesesAfter {depth : Nat} (hdepth : 0 < depth) (c : Char) (text : Text) :
    (c :: text).count ')' + parenthesesAfter depth c + text.count '(' =
      text.count ')' + (c :: text).count '(' + depth := by
  rw [parenthesesAfter, List.count_cons, List.count_cons]
  by_cases hopen : c = '('
  · subst hopen
    simp
    omega
  · by_cases hclose : c = ')'
    · subst hclose
      simp
      omega
    · simp [hopen, hclose]
      omega

theorem closesLast_cons_iff {depth : Nat} (hdepth : 0 < depth) (c : Char) (text : Text) :
    ClosesLast depth (c :: text) ↔ ClosesLast (parenthesesAfter depth c) text := by
  have hcount := count_parenthesesAfter hdepth c
  have htext := hcount text
  constructor
  · rintro ⟨heq, hlt⟩
    refine ⟨by omega, ?_⟩
    intro front hfront hne
    have hlonger := hlt (c :: front) (List.cons_prefix_cons.2 ⟨rfl, hfront⟩) (by simpa using hne)
    have hfront := hcount front
    omega
  · rintro ⟨heq, hlt⟩
    refine ⟨by omega, ?_⟩
    intro front hfront hne
    rcases List.prefix_cons_iff.1 hfront with rfl | ⟨behind, rfl, hbehind⟩
    · simpa using hdepth
    · have hshorter := hlt behind hbehind (by simpa using hne)
      have hbehind := hcount behind
      omega

theorem parenthesesAfter_pos {depth : Nat} {c : Char} (hdepth : 0 < depth) (h : c ≠ ')' ∨ depth ≠ 1) :
    0 < parenthesesAfter depth c := by
  rw [parenthesesAfter]
  split
  next => omega
  next =>
    split
    next hclose =>
      have hdeeper : depth ≠ 1 := h.resolve_left (not_not.2 (by simpa using hclose))
      omega
    next => exact hdepth

theorem splitClosedFrom?_eq_some_iff {depth : Nat} (hdepth : 0 < depth) {text closed rest : Text} :
    splitClosedFrom? depth text = some (closed, rest) ↔ text = closed ++ rest ∧ ClosesLast depth closed := by
  induction text generalizing depth closed with
  | nil =>
    constructor
    · intro h
      cases h
    · rintro ⟨hnil, hcloses⟩
      exact absurd (List.append_eq_nil_iff.1 hnil.symm).1 (hcloses.ne_nil hdepth)
  | cons c text ih =>
    have hcons : c :: text = closed ++ rest ∧ ClosesLast depth closed ↔
        ∃ behind, closed = c :: behind ∧ text = behind ++ rest ∧ ClosesLast (parenthesesAfter depth c) behind := by
      constructor
      · rintro ⟨htext, hcloses⟩
        cases closed with
        | nil => exact absurd rfl (hcloses.ne_nil hdepth)
        | cons d behind =>
          obtain ⟨rfl, rfl⟩ := List.cons.inj htext
          exact ⟨behind, rfl, rfl, (closesLast_cons_iff hdepth c behind).1 hcloses⟩
      · rintro ⟨behind, rfl, rfl, hcloses⟩
        exact ⟨rfl, (closesLast_cons_iff hdepth c behind).2 hcloses⟩
    rw [hcons]
    by_cases hlast : c = ')' ∧ depth = 1
    · obtain ⟨rfl, rfl⟩ := hlast
      have hcut : splitClosedFrom? 1 (')' :: text) = some ([')'], text) := rfl
      have hnext : parenthesesAfter 1 ')' = 0 := rfl
      simp only [hcut, hnext, closesLast_zero_iff, Option.some.injEq, Prod.mk.injEq]
      constructor
      · rintro ⟨rfl, rfl⟩
        exact ⟨[], rfl, rfl, rfl⟩
      · rintro ⟨_, rfl, rfl, rfl⟩
        exact ⟨rfl, rfl⟩
    · rw [not_and_or] at hlast
      rw [splitClosedFrom?_cons hlast, Option.map_eq_some_iff]
      constructor
      · rintro ⟨⟨behind, after⟩, hbehind, hcut⟩
        obtain ⟨rfl, rfl⟩ := Prod.mk.inj hcut
        exact ⟨behind, rfl, (ih (parenthesesAfter_pos hdepth hlast)).1 hbehind⟩
      · rintro ⟨behind, rfl, hbehind⟩
        exact ⟨(behind, rest), (ih (parenthesesAfter_pos hdepth hlast)).2 hbehind, rfl⟩

/-- A text that starts with `(` and ends where it holds as many `)` for the first time. -/
structure IsPair (pair : Text) : Prop where
  head?_eq : pair.head? = some '('
  count_eq : pair.count '(' = pair.count ')'
  count_lt : ∀ front, front <+: pair → front ≠ [] → front ≠ pair → front.count ')' < front.count '('

theorem isPair_cons_iff {text : Text} : IsPair ('(' :: text) ↔ ClosesLast 1 text := by
  constructor
  · rintro ⟨-, heq, hlt⟩
    refine ⟨by simpa using heq.symm, ?_⟩
    intro front hfront hne
    simpa using hlt ('(' :: front) (List.cons_prefix_cons.2 ⟨rfl, hfront⟩) (by simp) (by simpa using hne)
  · rintro ⟨heq, hlt⟩
    refine ⟨rfl, by simpa using heq.symm, ?_⟩
    intro front hfront hnil hne
    rcases List.prefix_cons_iff.1 hfront with rfl | ⟨behind, rfl, hbehind⟩
    · exact absurd rfl hnil
    · simpa using hlt behind hbehind (by simpa using hne)

/-- The last character of a pair is the `)` that makes the numbers equal. -/
theorem IsPair.eq_parentheses {pair : Text} (h : IsPair pair) : ∃ inner, pair = '(' :: (inner ++ [')']) := by
  obtain ⟨text, rfl⟩ := List.head?_eq_some_iff.1 h.head?_eq
  have hcloses := isPair_cons_iff.1 h
  rcases text.eq_nil_or_concat with rfl | ⟨inner, c, rfl⟩
  · exact absurd rfl (hcloses.ne_nil Nat.one_pos)
  · rw [List.concat_eq_append] at hcloses ⊢
    have hlt := hcloses.count_lt inner (List.prefix_append inner [c]) (by simp)
    have heq := hcloses.count_eq
    have hlast : c = ')' := by
      by_contra hne
      simp [hne] at heq
      omega
    exact ⟨inner, by rw [hlast]⟩

/-- The text is cut behind a pair that starts at its first `(`. -/
theorem splitClosed?_eq_some_iff {text closed rest : Text} :
    splitClosed? text = some (closed, rest) ↔
      text = closed ++ rest ∧ ∃ front pair, closed = front ++ pair ∧ '(' ∉ front ∧ IsPair pair := by
  have hpair : ∀ {front behind : Text}, '(' ∉ front →
      (splitClosed? (front ++ '(' :: behind) = some (closed, rest) ↔
        ∃ inner, closed = front ++ '(' :: inner ∧ behind = inner ++ rest ∧ IsPair ('(' :: inner)) := by
    intro front behind hfront
    have hopened : splitClosed? ('(' :: behind) =
        (splitClosedFrom? 1 behind).map fun cut => ('(' :: cut.1, cut.2) := splitClosedFrom?_cons (.inl (by decide)) _
    rw [splitClosed?_append hfront, hopened, Option.map_map, Option.map_eq_some_iff]
    constructor
    · rintro ⟨⟨inner, after⟩, hcut, heq⟩
      obtain ⟨rfl, rfl⟩ := Prod.mk.inj heq
      obtain ⟨rfl, hcloses⟩ := (splitClosedFrom?_eq_some_iff Nat.one_pos).1 hcut
      exact ⟨inner, rfl, rfl, isPair_cons_iff.2 hcloses⟩
    · rintro ⟨inner, rfl, rfl, hisPair⟩
      exact ⟨(inner, rest), (splitClosedFrom?_eq_some_iff Nat.one_pos).2 ⟨rfl, isPair_cons_iff.1 hisPair⟩, rfl⟩
  constructor
  · intro h
    have hmem : '(' ∈ text := by
      by_contra hnone
      rw [splitClosed?_eq_none hnone] at h
      cases h
    obtain ⟨front, behind, rfl, hfront⟩ := List.eq_append_cons_of_mem hmem
    obtain ⟨inner, rfl, rfl, hisPair⟩ := (hpair hfront).1 h
    exact ⟨by simp, front, '(' :: inner, rfl, hfront, hisPair⟩
  · rintro ⟨rfl, front, pair, rfl, hfront, hisPair⟩
    obtain ⟨inner, rfl⟩ := List.head?_eq_some_iff.1 hisPair.head?_eq
    rw [List.append_assoc, List.cons_append]
    exact (hpair hfront).2 ⟨inner, rfl, rfl, hisPair⟩

end GoScaffold.Source
