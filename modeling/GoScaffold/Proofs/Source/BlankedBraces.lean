import Mathlib.Data.List.Forall2
import GoScaffold.Proofs.Source.ClosedBraces
import GoScaffold.Proofs.Text.Positions

/-!
# The braces that the limit blanks

The limit writes a space over a brace and changes nothing else, so all characters keep their
places.  What it leaves nests within the limit, and a text that nests within it is left as it
is.  Braces are blanked in pairs: one that opens goes exactly when the one that closes it
goes, and a `}` that closes nothing stays.
-/

namespace GoScaffold.Source

open Text (byteSize)

variable {limit depth outer : Nat} {front rest text : Text}

/-! ### Places -/

/-- The text with spaces over some of its braces. -/
def IsBlankedFrom (text blanked : Text) : Prop :=
  List.Forall₂ (fun c d => d = c ∨ (isBrace c = true ∧ d = ' ')) text blanked

theorem isBlankedFrom_limitedFrom (limit depth : Nat) (text : Text) :
    IsBlankedFrom text (limitedFrom limit depth text) := by
  induction text generalizing depth with
  | nil => exact .nil
  | cons c rest ih => exact .cons (limitedChar_eq_or limit depth c) (ih (bracesAfter depth c))

/-- A brace has as many bytes as the space over it. -/
theorem IsBlankedFrom.byteSize_take {blanked : Text} (h : IsBlankedFrom text blanked) (n : Nat) :
    byteSize (blanked.take n) = byteSize (text.take n) := by
  induction h generalizing n with
  | nil => rfl
  | @cons c d rest blanked hc _ ih =>
    cases n with
    | zero => rfl
    | succ n =>
      have hsize : d.utf8Size = c.utf8Size := by
        rcases hc with rfl | ⟨hbrace, rfl⟩
        · rfl
        · obtain rfl | rfl : c = '{' ∨ c = '}' := by
            simpa only [isBrace, Bool.or_eq_true, beq_iff_eq] using hbrace
          · rfl
          · rfl
      rw [List.take_succ_cons, List.take_succ_cons, byteSize, byteSize, hsize, ih]

theorem getElem?_limitedFrom_append (limit depth : Nat) (front rest : Text) (c : Char) :
    (limitedFrom limit depth (front ++ c :: rest))[front.length]? =
      some (limitedChar limit (braceDepth depth front) c) := by
  have hlength : (limitedFrom limit depth front).length = front.length :=
    (isBlankedFrom_limitedFrom limit depth front).length_eq.symm
  rw [limitedFrom_append, ← hlength, List.getElem?_append_right (Nat.le_refl _), Nat.sub_self]
  rfl

/-! ### Depth -/

theorem nestsWithin_limitedFrom (limit depth : Nat) (text : Text) :
    nestsWithin limit (min depth limit) (limitedFrom limit depth text) = true := by
  induction text generalizing depth with
  | nil => rfl
  | cons c rest ih =>
    have hopen : limitedChar limit depth c = '{' → min depth limit < limit := by
      intro hkept
      obtain rfl : c = '{' := eq_of_limitedChar_eq (by decide) hkept
      by_contra hdeep
      have hlimit : limit ≤ depth := by omega
      rw [limitedChar_opening, if_pos hlimit] at hkept
      exact absurd hkept (by decide)
    rw [limitedFrom, nestsWithin_cons_iff, bracesAfter_min_limitedChar]
    exact ⟨hopen, ih (bracesAfter depth c)⟩

/-- Braces nest within the limit exactly when no front of the text leaves more of them open. -/
theorem nestsWithin_iff (hdepth : depth ≤ limit) :
    nestsWithin limit depth text = true ↔ ∀ front, front <+: text → braceDepth depth front ≤ limit := by
  induction text generalizing depth with
  | nil =>
    refine iff_of_true rfl ?_
    intro front hfront
    rw [List.prefix_nil.1 hfront]
    exact hdepth
  | cons c rest ih =>
    rw [nestsWithin_cons_iff, ← bracesAfter_le_iff hdepth]
    constructor
    · rintro ⟨hc, hrest⟩ front hfront
      rcases List.prefix_cons_iff.1 hfront with rfl | ⟨inner, rfl, hinner⟩
      · exact hdepth
      · exact (ih hc).1 hrest inner hinner
    · intro hfronts
      have hc : bracesAfter depth c ≤ limit := hfronts [c] ⟨rest, rfl⟩
      refine ⟨hc, (ih hc).2 ?_⟩
      intro inner hinner
      exact hfronts (c :: inner) ((List.prefix_cons_inj c).2 hinner)

/-! ### Pairs -/

/-- The braces at the two positions are a pair: the text between them closes the braces that it
opens, and no others. -/
def IsBracePair (text : Text) (opening closing : Nat) : Prop :=
  ∃ front inner rest, text = front ++ '{' :: (inner ++ '}' :: rest) ∧ ClosesBraces 0 inner ∧
    front.length = opening ∧ front.length + inner.length + 1 = closing

/-- The limit blanks both braces of a pair or none. -/
theorem IsBracePair.blanked_iff {opening closing : Nat} (h : IsBracePair text opening closing) (limit : Nat) :
    (limitNesting limit text)[opening]? = some ' ' ↔ (limitNesting limit text)[closing]? = some ' ' := by
  obtain ⟨front, inner, rest, rfl, hinner, rfl, rfl⟩ := h
  have hopening := getElem?_limitedFrom_append limit 0 front (inner ++ '}' :: rest) '{'
  have hclosing := getElem?_limitedFrom_append limit 0 (front ++ '{' :: inner) rest '}'
  rw [hinner.braceDepth_opening_append, List.append_assoc, List.cons_append, List.length_append,
    List.length_cons, ← Nat.add_assoc] at hclosing
  rw [limitNesting_eq_limitedFrom, hopening, hclosing, limitedChar_opening, limitedChar_closing]
  by_cases hdeep : limit ≤ braceDepth 0 front
  · rw [if_pos hdeep, if_pos (Nat.lt_succ_of_le hdeep)]
  · rw [if_neg hdeep, if_neg (fun hlt => hdeep (Nat.le_of_lt_succ hlt))]
    exact iff_of_false (by decide) (by decide)

/-- A brace that opens is in one pair at most. -/
theorem IsBracePair.closing_eq {opening closing other : Nat} (h : IsBracePair text opening closing)
    (hother : IsBracePair text opening other) : closing = other := by
  have hle : ∀ {inner rest inner' rest' : Text}, ClosesBraces 0 inner → ClosesBraces 0 inner' →
      inner ++ '}' :: rest = inner' ++ '}' :: rest' → inner'.length ≤ inner.length := by
    intro inner rest inner' rest' hinner hinner' heq
    by_contra hlonger
    have hclosed : inner ++ ['}'] <+: inner ++ '}' :: rest := ⟨rest, by simp⟩
    have hwhole : inner' <+: inner ++ '}' :: rest := heq ▸ List.prefix_append inner' _
    have hfront : inner ++ ['}'] <+: inner' := by
      apply List.prefix_of_prefix_length_le hclosed hwhole
      simpa [Nat.succ_le_iff] using hlonger
    have hcount := hinner'.count_le _ hfront
    have hbalance := hinner.count_eq
    simp at hcount hbalance
    omega
  obtain ⟨front, inner, rest, rfl, hinner, rfl, rfl⟩ := h
  obtain ⟨front', inner', rest', heq, hinner', hlength, rfl⟩ := hother
  obtain ⟨rfl, hbehind⟩ := List.append_inj heq hlength.symm
  obtain ⟨-, htail⟩ := List.cons.inj hbehind
  have hforth := hle hinner hinner' htail
  have hback := hle hinner' hinner htail.symm
  omega

/-- A text that closes a brace which is open before it has the `}` that closes this one. -/
theorem ClosesBraces.exists_closing (h : ClosesBraces (outer + (depth + 1)) text) :
    ∃ inner rest, text = inner ++ '}' :: rest ∧ ClosesBraces depth inner := by
  induction text generalizing depth with
  | nil =>
    have hzero := closesBraces_nil_iff.1 h
    omega
  | cons c text ih =>
    obtain ⟨-, htext⟩ := closesBraces_cons_iff.1 h
    by_cases hopen : c = '{'
    · subst hopen
      obtain ⟨inner, rest, rfl, hinner⟩ := ih htext
      exact ⟨'{' :: inner, rest, rfl, closesBraces_cons_iff.2 ⟨fun hc => absurd hc (by decide), hinner⟩⟩
    by_cases hclose : c = '}'
    · subst hclose
      cases depth with
      | zero => exact ⟨[], text, rfl, closesBraces_nil_iff.2 rfl⟩
      | succ depth =>
        obtain ⟨inner, rest, rfl, hinner⟩ := ih htext
        exact ⟨'}' :: inner, rest, rfl, closesBraces_cons_iff.2 ⟨fun _ => Nat.succ_ne_zero depth, hinner⟩⟩
    · have hbrace : isBrace c = false := by simp [isBrace, hopen, hclose]
      rw [bracesAfter_of_not_brace hbrace] at htext
      obtain ⟨inner, rest, rfl, hinner⟩ := ih htext
      refine ⟨c :: inner, rest, rfl, closesBraces_cons_iff.2 ⟨fun hc => absurd hc hclose, ?_⟩⟩
      rwa [bracesAfter_of_not_brace hbrace]

/-- A text that leaves braces open has the `{` that opened the last of them. -/
theorem exists_opening (h : braceDepth 0 text ≠ 0) :
    ∃ front inner, text = front ++ '{' :: inner ∧ ClosesBraces 0 inner := by
  induction hlength : text.length using Nat.strong_induction_on generalizing text with
  | _ length ih =>
    rcases List.eq_nil_or_concat text with rfl | ⟨before, c, rfl⟩
    · exact absurd rfl h
    rw [List.concat_eq_append] at h hlength ⊢
    rw [List.length_append, List.length_singleton] at hlength
    have hdepth : braceDepth 0 (before ++ [c]) = bracesAfter (braceDepth 0 before) c := braceDepth_append 0 before [c]
    rw [hdepth] at h
    by_cases hopen : c = '{'
    · subst hopen
      exact ⟨before, [], rfl, closesBraces_nil_iff.2 rfl⟩
    by_cases hclose : c = '}'
    · -- the brace that this one closes, and in front of it the one that is asked for
      subst hclose
      have hsome : 1 < braceDepth 0 before := by
        simp [bracesAfter] at h
        omega
      obtain ⟨front, inner, rfl, hinner⟩ := ih before.length (by omega) (by omega) rfl
      have hfront := hinner.braceDepth_opening_append 0 front
      have hshorter : front.length < length := by
        rw [← hlength, List.length_append]
        omega
      obtain ⟨front, outside, rfl, houtside⟩ := ih front.length hshorter (by omega) rfl
      have hblock : ClosesBraces 0 ('{' :: (inner ++ ['}'])) :=
        closesBraces_cons_iff.2 ⟨fun hc => absurd hc (by decide), hinner.append (by decide)⟩
      exact ⟨front, outside ++ '{' :: (inner ++ ['}']), by simp, houtside.append hblock⟩
    · have hbrace : isBrace c = false := by simp [isBrace, hopen, hclose]
      rw [bracesAfter_of_not_brace hbrace] at h
      obtain ⟨front, inner, rfl, hinner⟩ := ih before.length (by omega) h rfl
      have hlast : ClosesBraces 0 [c] := by
        rw [closesBraces_cons_iff, bracesAfter_of_not_brace hbrace, closesBraces_nil_iff]
        exact ⟨fun hc => absurd hc hclose, rfl⟩
      exact ⟨front, inner ++ [c], by simp, hinner.append hlast⟩

theorem exists_append_of_getElem? {position : Nat} {c : Char} (h : text[position]? = some c) :
    ∃ front rest, text = front ++ c :: rest ∧ front.length = position := by
  obtain ⟨hposition, rfl⟩ := List.getElem?_eq_some_iff.1 h
  refine ⟨text.take position, text.drop (position + 1), ?_, List.length_take_of_le (Nat.le_of_lt hposition)⟩
  rw [← List.drop_eq_getElem_cons, List.take_append_drop]

theorem ClosesBraces.exists_isBracePair (h : ClosesBraces 0 text) {opening : Nat}
    (hopening : text[opening]? = some '{') : ∃ closing, IsBracePair text opening closing := by
  obtain ⟨front, behind, rfl, rfl⟩ := exists_append_of_getElem? hopening
  have hbehind : ClosesBraces (braceDepth 0 front + (0 + 1)) behind := (closesBraces_cons_iff.1 h.of_append).2
  obtain ⟨inner, rest, rfl, hinner⟩ := hbehind.exists_closing
  exact ⟨_, front, inner, rest, rfl, hinner, rfl, rfl⟩

/-- A `}` is blanked only where braces are open, so it closes one of them. -/
theorem exists_isBracePair_of_blanked {closing : Nat} (hclosing : text[closing]? = some '}')
    (hblanked : (limitNesting limit text)[closing]? = some ' ') :
    ∃ opening, IsBracePair text opening closing := by
  obtain ⟨front, rest, rfl, rfl⟩ := exists_append_of_getElem? hclosing
  have hopen : braceDepth 0 front ≠ 0 := by
    intro hzero
    rw [limitNesting_eq_limitedFrom, getElem?_limitedFrom_append, hzero, limitedChar_closing,
      if_neg (Nat.not_lt_zero limit)] at hblanked
    exact absurd hblanked (by decide)
  obtain ⟨front, inner, rfl, hinner⟩ := exists_opening hopen
  refine ⟨front.length, front, inner, rest, by simp, hinner, rfl, ?_⟩
  rw [List.length_append, List.length_cons, Nat.add_assoc]

/-! ### The cut -/

/-- The limit writes spaces over some braces and keeps all places, counted in characters and in
bytes.  No front of what it leaves has more open braces than the limit allows; so it leaves a
text as it is exactly when no front of the text has more, and does nothing the second time.
It blanks both braces of a pair or none, and no `}` without a pair.  A text that closes its
braces is left as one that does, and each blanked `{` has the `}` that closes it, which is
blanked too. -/
theorem limitNesting_blanks_pairs (limit : Nat) (text : Text) :
    IsBlankedFrom text (limitNesting limit text) ∧
    (∀ n, byteSize ((limitNesting limit text).take n) = byteSize (text.take n)) ∧
    (∀ front, front <+: limitNesting limit text → braceDepth 0 front ≤ limit) ∧
    ((∀ front, front <+: text → braceDepth 0 front ≤ limit) ↔ limitNesting limit text = text) ∧
    limitNesting limit (limitNesting limit text) = limitNesting limit text ∧
    (∀ opening closing, IsBracePair text opening closing →
      ((limitNesting limit text)[opening]? = some ' ' ↔ (limitNesting limit text)[closing]? = some ' ')) ∧
    (∀ closing, text[closing]? = some '}' → (limitNesting limit text)[closing]? = some ' ' →
      ∃ opening, IsBracePair text opening closing) ∧
    (ClosesBraces 0 text → ClosesBraces 0 (limitNesting limit text) ∧
      ∀ opening, text[opening]? = some '{' → (limitNesting limit text)[opening]? = some ' ' →
        ∃ closing, (∀ other, IsBracePair text opening other ↔ other = closing) ∧
          (limitNesting limit text)[closing]? = some ' ') := by
  have hblanked : IsBlankedFrom text (limitNesting limit text) := by
    rw [limitNesting_eq_limitedFrom]
    exact isBlankedFrom_limitedFrom limit 0 text
  have hnests : nestsWithin limit 0 (limitNesting limit text) = true := by
    rw [limitNesting_eq_limitedFrom, ← Nat.zero_min limit]
    exact nestsWithin_limitedFrom limit 0 text
  have hunchanged : ∀ text, nestsWithin limit 0 text = true ↔ limitNesting limit text = text := by
    intro text
    rw [limitNesting_eq_limitedFrom]
    exact (limitedFrom_eq_self_iff (Nat.zero_le limit) text).symm
  refine ⟨hblanked, hblanked.byteSize_take, (nestsWithin_iff (Nat.zero_le limit)).1 hnests, ?_,
    (hunchanged _).1 hnests, fun _ _ hpair => hpair.blanked_iff limit,
    fun _ => exists_isBracePair_of_blanked, ?_⟩
  · rw [← hunchanged, nestsWithin_iff (Nat.zero_le limit)]
  · intro hcloses
    refine ⟨hcloses.limitNesting limit, ?_⟩
    intro opening hopening hspace
    obtain ⟨closing, hpair⟩ := hcloses.exists_isBracePair hopening
    refine ⟨closing, ?_, (hpair.blanked_iff limit).1 hspace⟩
    intro other
    constructor
    · intro hother
      exact hother.closing_eq hpair
    · rintro rfl
      exact hpair

/-- The inner two pairs are blanked, and the brace in front closes nothing. -/
example : limitNesting 1 "\x7d\x7b\x7b\x7bb\x7d\x7d\x7d" = "\x7d\x7b  b  \x7d" := by decide

end GoScaffold.Source
