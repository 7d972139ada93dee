import GoScaffold.Proofs.Source.Parentheses
import GoScaffold.Proofs.Text.Positions

/-!
# The byte that closes the first parenthesis

The search counts parentheses from the first `(` on and gives the byte position of the `)` that
brings the count to zero.  Until then more are open than closed, so a count that must not fall
below zero never has to.
-/

namespace GoScaffold.Text

open Source (IsPair parenthesesAfter parenthesesAfter_pos splitClosedFrom?_cons
  splitClosedFrom?_eq_some_iff splitClosed?_append splitClosed?_eq_none splitClosed?_eq_some_iff)

/-! ### The position -/

/-- The first `(` is the byte `opening`, and the byte `closing` is the `)` with which the text
from there on holds as many `)` as `(` for the first time. -/
structure IsFirstPairAt (text : Text) (opening closing : Nat) : Prop where
  position?_eq : position? '(' text = some opening
  byte_eq : (bytes text)[closing]? = some 0x29
  le : opening ≤ closing
  counted : ∃ pair, slice? opening (closing + 1) text = some pair ∧ pair.count '(' = pair.count ')' ∧
    ∀ front, front <+: pair → front ≠ [] → front ≠ pair → front.count ')' < front.count '('

theorem byteSize_parentheses (front inner : Text) :
    byteSize (front ++ '(' :: (inner ++ [')'])) = byteSize (front ++ '(' :: inner) + 1 := by
  have hclose : byteSize [')'] = 1 := rfl
  rw [← List.cons_append, ← List.append_assoc, byteSize_append _ [')'], hclose]

theorem isFirstPairAt_of_isPair {front inner rest : Text} (hfront : '(' ∉ front)
    (h : IsPair ('(' :: (inner ++ [')']))) :
    IsFirstPairAt (front ++ ('(' :: (inner ++ [')']) ++ rest)) (byteSize front)
      (byteSize (front ++ '(' :: inner)) where
  position?_eq := by
    rw [List.cons_append]
    exact position?_append hfront _
  byte_eq := by
    have hbyte := bytes_getElem?_byteSize (front ++ '(' :: inner) (show ')'.toNat < 128 by decide) rest
    simpa using hbyte
  le := by
    rw [byteSize_append]
    exact Nat.le_add_right _ _
  counted := by
    have hend := byteSize_parentheses front inner
    exact ⟨_, slice?_eq_some_iff.2 ⟨front, rest, rfl, rfl, hend⟩, h.count_eq, h.count_lt⟩

theorem IsFirstPairAt.exists_isPair {text : Text} {opening closing : Nat}
    (h : IsFirstPairAt text opening closing) :
    ∃ front inner rest, text = front ++ ('(' :: (inner ++ [')']) ++ rest) ∧ '(' ∉ front ∧
      IsPair ('(' :: (inner ++ [')'])) ∧ byteSize (front ++ '(' :: inner) = closing := by
  obtain ⟨front, behind, rfl, hfront, rfl⟩ := position?_eq_some_iff.1 h.position?_eq
  obtain ⟨pair, hslice, hcount, hlt⟩ := h.counted
  obtain ⟨before, rest, htext, hbefore, hend⟩ := slice?_eq_some_iff.1 hslice
  -- both cuts are made at the first parenthesis, so they cut the same text in front
  obtain ⟨rfl, hbehind⟩ : front = before ∧ '(' :: behind = pair ++ rest := by
    have hcut := cutAt?_append front ('(' :: behind)
    rw [cutAt?_eq_some_iff.2 ⟨htext, hbefore⟩, Option.some.injEq, Prod.mk.injEq] at hcut
    exact ⟨hcut.1.symm, hcut.2.symm⟩
  have hle := h.le
  have hpair : IsPair pair := by
    refine ⟨?_, hcount, hlt⟩
    cases pair with
    | nil =>
      rw [List.append_nil] at hend
      omega
    | cons c pair =>
      obtain ⟨rfl, -⟩ := List.cons.inj hbehind
      rfl
  obtain ⟨inner, rfl⟩ := hpair.eq_parentheses
  rw [byteSize_parentheses] at hend
  exact ⟨front, inner, rest, by rw [hbehind], hfront, hpair, Nat.succ.inj hend⟩

theorem closingPosition?_of_isPair {front inner rest : Text} (hfront : '(' ∉ front)
    (h : IsPair ('(' :: (inner ++ [')']))) :
    closingPosition? (front ++ ('(' :: (inner ++ [')']) ++ rest)) =
      some (byteSize (front ++ '(' :: inner)) := by
  have hcut := splitClosed?_eq_some_iff.2
    ⟨(List.append_assoc front _ rest).symm, front, '(' :: (inner ++ [')']), rfl, hfront, h⟩
  rw [closingPosition?, hcut, Option.map_some, ← List.cons_append, ← List.append_assoc]
  simp only [List.dropLast_concat]

theorem closingPosition?_eq_some_iff {text : Text} {closing : Nat} :
    closingPosition? text = some closing ↔ ∃ opening, IsFirstPairAt text opening closing := by
  constructor
  · intro h
    obtain ⟨⟨closed, rest⟩, hcut, -⟩ := Option.map_eq_some_iff.1 h
    obtain ⟨rfl, front, pair, rfl, hfront, hpair⟩ := splitClosed?_eq_some_iff.1 hcut
    obtain ⟨inner, rfl⟩ := hpair.eq_parentheses
    rw [List.append_assoc, closingPosition?_of_isPair hfront hpair, Option.some.injEq] at h
    rw [List.append_assoc, ← h]
    exact ⟨byteSize front, isFirstPairAt_of_isPair hfront hpair⟩
  · rintro ⟨opening, h⟩
    obtain ⟨front, inner, rest, rfl, hfront, hpair, rfl⟩ := h.exists_isPair
    exact closingPosition?_of_isPair hfront hpair

theorem closingPosition?_eq_none_iff {text : Text} :
    closingPosition? text = none ↔ '(' ∉ text ∨ ¬ ∃ opening closing, IsFirstPairAt text opening closing := by
  rw [Option.eq_none_iff_forall_ne_some]
  constructor
  · intro h
    refine .inr ?_
    rintro ⟨opening, closing, hpair⟩
    exact h closing (closingPosition?_eq_some_iff.2 ⟨opening, hpair⟩)
  · rintro hnone closing hsome
    obtain ⟨opening, hpair⟩ := closingPosition?_eq_some_iff.1 hsome
    rcases hnone with hnone | hnone
    · rw [closingPosition?, splitClosed?_eq_none hnone] at hsome
      cases hsome
    · exact hnone ⟨opening, closing, hpair⟩

/-! ### The count -/

/-- What stops a search that checks each of its steps. -/
inductive Fault where
  /-- a `)` where nothing is open -/
  | belowZero
  /-- a byte position inside a character -/
  | insideCharacter
  deriving DecidableEq, Repr

/-- The number of open parentheses behind `c`, unless it would fall below zero. -/
def checkedAfter (depth : Nat) (c : Char) : Except Fault Nat :=
  if c = ')' ∧ depth = 0 then .error .belowZero else .ok (parenthesesAfter depth c)

/-- The search through a text that starts at the byte `position` with `depth` parentheses open. -/
def checkedSearch (position depth : Nat) : Text → Except Fault (Option Nat)
  | [] => .ok none
  | c :: rest =>
    match checkedAfter depth c with
    | .error fault => .error fault
    | .ok next =>
      if c = ')' ∧ next = 0 then .ok (some position)
      else checkedSearch (position + c.utf8Size) next rest

/-- The search from the first `(` on, which it cuts the text at. -/
def checkedPosition (text : Text) : Except Fault (Option Nat) :=
  match position? '(' text with
  | none => .ok none
  | some opening =>
    match cutAt? opening text with
    | none => .error .insideCharacter
    | some (_, opened) => checkedSearch opening 0 opened

/-- With parentheses open a count does not fall below zero before the search ends. -/
theorem checkedSearch_eq {depth : Nat} (hdepth : 0 < depth) (position : Nat) (text : Text) :
    checkedSearch position depth text =
      .ok ((splitClosedFrom? depth text).map fun cut => position + byteSize cut.1.dropLast) := by
  induction text generalizing depth position with
  | nil => rfl
  | cons c rest ih =>
    have hchecked : checkedAfter depth c = .ok (parenthesesAfter depth c) :=
      if_neg fun hfault => Nat.ne_of_gt hdepth hfault.2
    rw [checkedSearch, hchecked]
    by_cases hlast : c = ')' ∧ depth = 1
    · obtain ⟨rfl, rfl⟩ := hlast
      rfl
    · rw [not_and_or] at hlast
      have hnext := parenthesesAfter_pos hdepth hlast
      have hstay : ¬ (c = ')' ∧ parenthesesAfter depth c = 0) := fun hend => Nat.ne_of_gt hnext hend.2
      rw [splitClosedFrom?_cons hlast]
      simp only [hstay, if_false, ih hnext]
      cases hcut : splitClosedFrom? (parenthesesAfter depth c) rest with
      | none => rfl
      | some cut =>
        obtain ⟨-, hcloses⟩ := (splitClosedFrom?_eq_some_iff hnext).1 hcut
        have hfirst : (c :: cut.1).dropLast = c :: cut.1.dropLast :=
          List.dropLast_cons_of_ne_nil (hcloses.ne_nil hnext)
        rw [Option.map_some, Option.map_some, Option.map_some, hfirst, byteSize, Nat.add_assoc]

theorem checkedPosition_eq (text : Text) : checkedPosition text = .ok (closingPosition? text) := by
  by_cases hmem : '(' ∈ text
  · obtain ⟨front, behind, rfl, hfront⟩ := List.eq_append_cons_of_mem hmem
    have hfirst : checkedSearch (byteSize front) 0 ('(' :: behind) =
        checkedSearch (byteSize front + 1) 1 behind := rfl
    have hsplit : splitClosedFrom? 0 ('(' :: behind) =
        (splitClosedFrom? 1 behind).map fun cut => ('(' :: cut.1, cut.2) :=
      splitClosedFrom?_cons (.inl (by decide)) behind
    rw [checkedPosition, position?_append hfront]
    simp only [cutAt?_append]
    rw [hfirst, checkedSearch_eq Nat.one_pos, closingPosition?, splitClosed?_append hfront, splitClosed?,
      hsplit]
    cases hcut : splitClosedFrom? 1 behind with
    | none => rfl
    | some cut =>
      obtain ⟨-, hcloses⟩ := (splitClosedFrom?_eq_some_iff Nat.one_pos).1 hcut
      have hlast : (front ++ '(' :: cut.1).dropLast = front ++ '(' :: cut.1.dropLast := by
        rw [List.dropLast_append_of_ne_nil (List.cons_ne_nil _ _),
          List.dropLast_cons_of_ne_nil (hcloses.ne_nil Nat.one_pos)]
      have hopen : byteSize ('(' :: cut.1.dropLast) = 1 + byteSize cut.1.dropLast := rfl
      simp only [Option.map_some, hlast, byteSize_append, hopen, Nat.add_assoc]
  · rw [checkedPosition, position?_eq_none hmem, closingPosition?, splitClosed?_eq_none hmem]
    rfl

/-- The search finds the byte that closes the first `(`, and nothing exactly where the text has no `(`
or none that is closed.  Checking each step finds no fault: the count never falls below zero. -/
theorem closingPosition?_finds (text : Text) :
    (∀ closing, closingPosition? text = some closing ↔ ∃ opening, IsFirstPairAt text opening closing) ∧
      (closingPosition? text = none ↔
        '(' ∉ text ∨ ¬ ∃ opening closing, IsFirstPairAt text opening closing) ∧
      checkedPosition text = .ok (closingPosition? text) :=
  ⟨fun _ => closingPosition?_eq_some_iff, closingPosition?_eq_none_iff, checkedPosition_eq text⟩

/-- The `)` in front of the first `(` is not counted, where it would be a fault; `é` has two bytes. -/
example : closingPosition? "é) f(a (b)) (c)" = some 11 ∧ closingPosition? ") f(a (b)" = none ∧
    checkedSearch 0 0 ") f(a (b)" = .error .belowZero :=
  ⟨by decide, by decide, rfl⟩

end GoScaffold.Text
