import GoScaffold.Catalog.OfSource
import GoScaffold.Proofs.Source.Scan

/-!
# What the nesting limit changes

The limit goes by the count of all braces, with those in comments and literals.  A
text in which this count stays within the limit is read as it stands.
-/

namespace GoScaffold.Source

open Catalog (ofSource ofDeclarations)

/-! ### Counting all braces -/

/-- The count of open braces behind `c`.  A closing brace that nothing opened counts as
an ordinary character. -/
def bracesAfter (depth : Nat) (c : Char) : Nat :=
  if c == '{' then depth + 1 else if c == '}' then depth - 1 else depth

def braceDepth (depth : Nat) (text : Text) : Nat :=
  text.foldl bracesAfter depth

/-- Does the count of open braces, from `depth` on, never exceed `limit`? -/
def nestsWithin (limit depth : Nat) : Text → Bool
  | [] => true
  | c :: rest => (c != '{' || decide (depth < limit)) && nestsWithin limit (bracesAfter depth c) rest

def isBrace (c : Char) : Bool :=
  c == '{' || c == '}'

theorem bracesAfter_leftBrace (depth : Nat) : bracesAfter depth '{' = depth + 1 := rfl

theorem bracesAfter_rightBrace (depth : Nat) : bracesAfter depth '}' = depth - 1 := rfl

theorem bracesAfter_of_not_brace {c : Char} (h : isBrace c = false) (depth : Nat) :
    bracesAfter depth c = depth := by
  simp only [isBrace, Bool.or_eq_false_iff] at h
  simp only [bracesAfter, h.1, h.2, Bool.false_eq_true, if_false]

theorem braceDepth_append (depth : Nat) (front rest : Text) :
    braceDepth depth (front ++ rest) = braceDepth (braceDepth depth front) rest :=
  List.foldl_append

theorem nestsWithin_append (limit depth : Nat) (front rest : Text) :
    nestsWithin limit depth (front ++ rest) =
      (nestsWithin limit depth front && nestsWithin limit (braceDepth depth front) rest) := by
  induction front generalizing depth with
  | nil => simp [nestsWithin, braceDepth]
  | cons c front ih => simp only [List.cons_append, nestsWithin, ih, Bool.and_assoc, braceDepth,
      List.foldl_cons]

theorem nestsWithin_filter_isBrace (limit depth : Nat) (text : Text) :
    nestsWithin limit depth (text.filter isBrace) = nestsWithin limit depth text := by
  induction text generalizing depth with
  | nil => rfl
  | cons c rest ih =>
    by_cases hbrace : isBrace c = true
    · rw [List.filter_cons_of_pos hbrace, nestsWithin, nestsWithin, ih]
    · rw [List.filter_cons_of_neg hbrace, ih, nestsWithin]
      rw [Bool.not_eq_true] at hbrace
      rw [bracesAfter_of_not_brace hbrace]
      simp only [isBrace, Bool.or_eq_false_iff, beq_eq_false_iff_ne] at hbrace
      simp [hbrace.1]

/-! ### The limit character by character -/

/-- What the limit leaves of a character at a place where `depth` braces are open. -/
def limitedChar (limit depth : Nat) (c : Char) : Char :=
  if (c == '{' && decide (limit ≤ depth)) || (c == '}' && decide (limit < depth)) then ' ' else c

/-- What the limit leaves of a text that starts where `depth` braces are open. -/
def limitedFrom (limit depth : Nat) : Text → Text
  | [] => []
  | c :: rest => limitedChar limit depth c :: limitedFrom limit (bracesAfter depth c) rest

theorem limitedChar_opening (limit depth : Nat) :
    limitedChar limit depth '{' = if limit ≤ depth then ' ' else '{' := by
  simp [limitedChar]

theorem limitedChar_closing (limit depth : Nat) :
    limitedChar limit depth '}' = if limit < depth then ' ' else '}' := by
  simp [limitedChar]

theorem limitedChar_of_ne {c : Char} (hopening : c ≠ '{') (hclosing : c ≠ '}') (limit depth : Nat) :
    limitedChar limit depth c = c := by
  simp [limitedChar, hopening, hclosing]

theorem limitedChar_of_not_brace {c : Char} (h : isBrace c = false) (limit depth : Nat) :
    limitedChar limit depth c = c := by
  simp only [isBrace, Bool.or_eq_false_iff, beq_eq_false_iff_ne] at h
  exact limitedChar_of_ne h.1 h.2 limit depth

theorem limitedChar_eq_or (limit depth : Nat) (c : Char) :
    limitedChar limit depth c = c ∨ (isBrace c = true ∧ limitedChar limit depth c = ' ') := by
  rw [limitedChar]
  split
  next hblank =>
    refine .inr ⟨?_, rfl⟩
    simp only [Bool.or_eq_true, Bool.and_eq_true] at hblank
    rw [isBrace, Bool.or_eq_true]
    exact hblank.imp And.left And.left
  next => exact .inl rfl

/-- The limit writes nothing but spaces. -/
theorem eq_of_limitedChar_eq {limit depth : Nat} {c d : Char} (hd : d ≠ ' ')
    (h : limitedChar limit depth c = d) : c = d := by
  rcases limitedChar_eq_or limit depth c with hsame | ⟨-, hspace⟩
  · rw [← hsame, h]
  · exact absurd (h.symm.trans hspace) hd

/-- The two counters of the limit, braces kept and braces blanked, are one count of all
open braces, cut at the limit. -/
theorem limitNestingFrom_eq_limitedFrom (limit depth : Nat) (text : Text) :
    limitNestingFrom limit (min depth limit) (depth - limit) text = limitedFrom limit depth text := by
  induction text generalizing depth with
  | nil => rfl
  | cons c rest ih =>
    rw [limitNestingFrom, limitedFrom, ← ih]
    by_cases hopen : c = '{'
    · subst hopen
      rw [if_pos (beq_self_eq_true '{'), bracesAfter_leftBrace, limitedChar_opening]
      by_cases hlimit : limit ≤ depth
      · have hfull : limit ≤ min depth limit := by omega
        have hkept : min (depth + 1) limit = min depth limit := by omega
        have hblanked : depth + 1 - limit = depth - limit + 1 := by omega
        rw [if_pos hfull, if_pos hlimit, hkept, hblanked]
      · have hroom : ¬ limit ≤ min depth limit := by omega
        have hkept : min (depth + 1) limit = min depth limit + 1 := by omega
        have hblanked : depth + 1 - limit = depth - limit := by omega
        rw [if_neg hroom, if_neg hlimit, hkept, hblanked]
    · rw [if_neg (by simpa using hopen)]
      by_cases hclose : c = '}'
      · subst hclose
        rw [if_pos (beq_self_eq_true '}'), bracesAfter_rightBrace, limitedChar_closing]
        by_cases hlimit : limit < depth
        · have hsome : 0 < depth - limit := by omega
          have hkept : min (depth - 1) limit = min depth limit := by omega
          have hblanked : depth - 1 - limit = depth - limit - 1 := by omega
          rw [if_pos hsome, if_pos hlimit, hkept, hblanked]
        · have hnone : ¬ 0 < depth - limit := by omega
          have hkept : min (depth - 1) limit = min depth limit - 1 := by omega
          have hblanked : depth - 1 - limit = depth - limit := by omega
          rw [if_neg hnone, if_neg hlimit, hkept, hblanked]
      · have hbrace : isBrace c = false := by simp [isBrace, hopen, hclose]
        rw [if_neg (by simpa using hclose), limitedChar_of_not_brace hbrace, bracesAfter_of_not_brace hbrace]

theorem limitNesting_eq_limitedFrom (limit : Nat) (text : Text) :
    limitNesting limit text = limitedFrom limit 0 text := by
  rw [limitNesting, ← limitNestingFrom_eq_limitedFrom, Nat.zero_min, Nat.zero_sub]

theorem limitedFrom_append (limit depth : Nat) (front rest : Text) :
    limitedFrom limit depth (front ++ rest) =
      limitedFrom limit depth front ++ limitedFrom limit (braceDepth depth front) rest := by
  induction front generalizing depth with
  | nil => rfl
  | cons c front ih => rw [List.cons_append, limitedFrom, limitedFrom, ih]; rfl

theorem nestsWithin_cons_iff {limit depth : Nat} {c : Char} {rest : Text} :
    nestsWithin limit depth (c :: rest) = true ↔
      (c = '{' → depth < limit) ∧ nestsWithin limit (bracesAfter depth c) rest = true := by
  simp [nestsWithin, Classical.or_iff_not_imp_left]

theorem bracesAfter_le_iff {limit depth : Nat} (hdepth : depth ≤ limit) {c : Char} :
    bracesAfter depth c ≤ limit ↔ (c = '{' → depth < limit) := by
  by_cases hopen : c = '{'
  · subst hopen
    rw [bracesAfter_leftBrace]
    exact ⟨fun hlt _ => hlt, fun hlt => hlt rfl⟩
  · have hle : bracesAfter depth c ≤ limit := by
      simp only [bracesAfter, beq_iff_eq, hopen, if_false]
      split <;> omega
    exact iff_of_true hle fun hc => absurd hc hopen

theorem limitedChar_eq_self_iff {limit depth : Nat} (hdepth : depth ≤ limit) {c : Char} :
    limitedChar limit depth c = c ↔ (c = '{' → depth < limit) := by
  by_cases hopen : c = '{'
  · subst hopen
    rw [limitedChar_opening]
    by_cases hlimit : depth < limit
    · exact iff_of_true (if_neg (Nat.not_le.2 hlimit)) fun _ => hlimit
    · rw [if_pos (Nat.not_lt.1 hlimit)]
      exact iff_of_false (by decide) fun hlt => hlimit (hlt rfl)
  · refine iff_of_true ?_ fun hc => absurd hc hopen
    by_cases hclose : c = '}'
    · rw [hclose, limitedChar_closing, if_neg (Nat.not_lt.2 hdepth)]
    · exact limitedChar_of_ne hopen hclose limit depth

/-- The limit leaves a text as it is exactly when its braces nest within the limit. -/
theorem limitedFrom_eq_self_iff {limit depth : Nat} (hdepth : depth ≤ limit) (text : Text) :
    limitedFrom limit depth text = text ↔ nestsWithin limit depth text = true := by
  induction text generalizing depth with
  | nil => exact iff_of_true rfl rfl
  | cons c rest ih =>
    rw [limitedFrom, List.cons.injEq, limitedChar_eq_self_iff hdepth, nestsWithin_cons_iff]
    apply and_congr_right
    intro hc
    exact ih ((bracesAfter_le_iff hdepth).2 hc)

theorem ofSource_of_nestsWithin {text : Text} (h : nestsWithin nestingLimit 0 text = true) :
    ofSource text = ofDeclarations (declarations text) := by
  rw [ofSource, limitNesting_eq_limitedFrom, (limitedFrom_eq_self_iff (Nat.zero_le nestingLimit) text).2 h]

/-! ### Texts without braces -/

theorem mem_of_mem_limitedFrom {limit depth : Nat} {text : Text} {c : Char} (hc : c ≠ ' ')
    (h : c ∈ limitedFrom limit depth text) : c ∈ text := by
  induction text generalizing depth with
  | nil => exact h
  | cons d rest ih =>
    rcases List.mem_cons.1 h with heq | hrest
    · rw [eq_of_limitedChar_eq hc heq.symm]
      exact List.mem_cons_self
    · exact List.mem_cons_of_mem d (ih hrest)

theorem isLineBreak_of_mem_limitedFrom {limit depth : Nat} {text : Text}
    (h : ∀ c ∈ text, isLineBreak c = false) :
    ∀ c ∈ limitedFrom limit depth text, isLineBreak c = false := by
  intro c hc
  by_cases hspace : c = ' '
  · subst hspace
    rfl
  · exact h c (mem_of_mem_limitedFrom hspace hc)

theorem limitedFrom_of_no_brace {text : Text} (h : ∀ c ∈ text, isBrace c = false)
    (limit depth : Nat) : limitedFrom limit depth text = text ∧ braceDepth depth text = depth := by
  induction text generalizing depth with
  | nil => exact ⟨rfl, rfl⟩
  | cons c rest ih =>
    obtain ⟨hc, htail⟩ := List.forall_mem_cons.1 h
    have hrest := ih htail depth
    rw [limitedFrom, limitedChar_of_not_brace hc, bracesAfter_of_not_brace hc, hrest.1, braceDepth,
      List.foldl_cons, bracesAfter_of_not_brace hc]
    exact ⟨rfl, hrest.2⟩

theorem isBrace_of_isWordChar {c : Char} (h : isWordChar c = true) : isBrace c = false := by
  by_contra hbrace
  obtain rfl | rfl : c = '{' ∨ c = '}' := by
    simpa only [isBrace, Bool.not_eq_false, Bool.or_eq_true, beq_iff_eq] using hbrace
  · exact absurd h (by decide)
  · exact absurd h (by decide)

theorem isBrace_of_isGap {c : Char} (h : isGap c = true) : isBrace c = false := by
  rcases eq_of_isGap h with rfl | rfl <;> decide

/-- The only brace of a spelled header is its last character. -/
theorem Header.SpelledBy.eq_append {header : Header} {front : Text} (h : header.SpelledBy front) :
    ∃ words, front = words ++ ['{'] ∧ ∀ c ∈ words, isBrace c = false := by
  obtain ⟨hname, before, behind, spacing, -, hbefore, -, hbehind, hspacing, rfl⟩ := h
  refine ⟨_, rfl, ?_⟩
  have htype : ("type" : Text).any isBrace = false := rfl
  intro c hc
  simp only [List.mem_append] at hc
  rcases hc with ((((hc | hc) | hc) | hc) | hc) | hc
  · simpa using List.any_eq_false.1 htype c hc
  · exact isBrace_of_isGap (hbefore c hc)
  · exact isBrace_of_isWordChar (isWordChar_of_mem_isAsciiIdentifier hname c hc)
  · exact isBrace_of_isGap (hbehind c hc)
  · exact isBrace_of_isWordChar (header.kind.isWordChar_of_mem_word c hc)
  · exact isBrace_of_isGap (hspacing c hc)

theorem Header.SpelledBy.braceDepth_eq {header : Header} {front : Text} (h : header.SpelledBy front)
    (depth : Nat) : braceDepth depth front = depth + 1 := by
  obtain ⟨words, rfl, hwords⟩ := h.eq_append
  rw [braceDepth_append, (limitedFrom_of_no_brace hwords nestingLimit depth).2]
  rfl

end GoScaffold.Source
