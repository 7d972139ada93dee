import GoScaffold.Proofs.Source.NestingLimit

/-!
# Texts that close their braces

A text without tokens that closes all its braces, and never one that it has not opened,
leaves nothing to what follows it: neither an open brace for the nesting limit, nor a body
that has not ended, nor, in front of a line feed, a header that is read in part.  So its
declarations are found whatever comes later, and the scan starts anew behind the line feed.
-/

namespace GoScaffold.Source

variable {limit depth : Nat} {front rest text : Text} {c : Char}

/-! ### Closing braces -/

/-- The text closes the `depth` braces that are open before it and all that it opens itself, and at
no place has it closed more than that. -/
structure ClosesBraces (depth : Nat) (text : Text) : Prop where
  count_le : ∀ front, front <+: text → front.count '}' ≤ depth + front.count '{'
  count_eq : text.count '}' = depth + text.count '{'

theorem closesBraces_nil_iff : ClosesBraces depth [] ↔ depth = 0 := by
  constructor
  · intro h
    simpa using h.count_eq.symm
  · rintro rfl
    exact ⟨fun front hfront => by simp [List.prefix_nil.1 hfront], by simp⟩

theorem count_bracesAfter (hc : c = '}' → depth ≠ 0) (text : Text) :
    bracesAfter depth c + text.count '{' + (c :: text).count '}' =
      depth + (c :: text).count '{' + text.count '}' := by
  by_cases hopen : c = '{'
  · subst hopen
    rw [bracesAfter_leftBrace, List.count_cons_self, List.count_cons_of_ne (by decide)]
    omega
  · by_cases hclose : c = '}'
    · subst hclose
      have hpos := hc rfl
      rw [bracesAfter_rightBrace, List.count_cons_self, List.count_cons_of_ne (by decide)]
      omega
    · simp [bracesAfter, hopen, hclose]

theorem closesBraces_cons_iff :
    ClosesBraces depth (c :: text) ↔ (c = '}' → depth ≠ 0) ∧ ClosesBraces (bracesAfter depth c) text := by
  constructor
  · intro h
    have hc : c = '}' → depth ≠ 0 := by
      rintro rfl
      have hfirst := h.count_le ['}'] ⟨text, rfl⟩
      simp at hfirst
      omega
    refine ⟨hc, ?_, ?_⟩
    · intro front hfront
      have hle := h.count_le (c :: front) ((List.prefix_cons_inj c).2 hfront)
      have hcount := count_bracesAfter hc front
      omega
    · have heq := h.count_eq
      have hcount := count_bracesAfter hc text
      omega
  · rintro ⟨hc, h⟩
    constructor
    · intro front hfront
      rcases List.prefix_cons_iff.1 hfront with rfl | ⟨inner, rfl, hinner⟩
      · simp
      · have hle := h.count_le inner hinner
        have hcount := count_bracesAfter hc inner
        omega
    · have heq := h.count_eq
      have hcount := count_bracesAfter hc text
      omega

def closesBraces : Nat → Text → Bool
  | depth, [] => depth == 0
  | depth, c :: rest => (c != '}' || depth != 0) && closesBraces (bracesAfter depth c) rest

theorem closesBraces_iff : closesBraces depth text = true ↔ ClosesBraces depth text := by
  induction text generalizing depth with
  | nil => simp [closesBraces, closesBraces_nil_iff]
  | cons c rest ih =>
    rw [closesBraces, closesBraces_cons_iff, Bool.and_eq_true, ih]
    simp [Classical.or_iff_not_imp_left]

instance : Decidable (ClosesBraces depth text) :=
  decidable_of_iff _ closesBraces_iff

theorem bracesAfter_add (hc : c = '}' → depth ≠ 0) (outer : Nat) :
    bracesAfter (outer + depth) c = outer + bracesAfter depth c := by
  by_cases hclose : c = '}'
  · subst hclose
    have hpos := hc rfl
    rw [bracesAfter_rightBrace, bracesAfter_rightBrace]
    omega
  · by_cases hopen : c = '{'
    · simp [bracesAfter, hopen, Nat.add_assoc]
    · simp [bracesAfter, hopen, hclose]

theorem ClosesBraces.of_append (h : ClosesBraces depth (front ++ rest)) :
    ClosesBraces (braceDepth depth front) rest := by
  induction front generalizing depth with
  | nil => exact h
  | cons c front ih => exact ih (closesBraces_cons_iff.1 h).2

theorem ClosesBraces.append {outer : Nat} (hfront : ClosesBraces depth front)
    (hrest : ClosesBraces outer rest) : ClosesBraces (outer + depth) (front ++ rest) := by
  induction front generalizing depth with
  | nil =>
    obtain rfl := closesBraces_nil_iff.1 hfront
    exact hrest
  | cons c front ih =>
    obtain ⟨hc, hfront⟩ := closesBraces_cons_iff.1 hfront
    rw [List.cons_append, closesBraces_cons_iff, bracesAfter_add hc]
    exact ⟨fun heq => by have := hc heq; omega, ih hfront⟩

/-- The braces that were open around the text are open behind it. -/
theorem ClosesBraces.braceDepth_add (h : ClosesBraces depth text) (outer : Nat) :
    braceDepth (outer + depth) text = outer := by
  induction text generalizing depth with
  | nil =>
    obtain rfl := closesBraces_nil_iff.1 h
    rfl
  | cons c text ih =>
    obtain ⟨hc, htext⟩ := closesBraces_cons_iff.1 h
    rw [braceDepth, List.foldl_cons, bracesAfter_add hc]
    exact ih htext

theorem ClosesBraces.braceDepth_opening_append (h : ClosesBraces 0 text) (depth : Nat) (front : Text) :
    braceDepth depth (front ++ '{' :: text) = braceDepth depth front + 1 := by
  rw [braceDepth_append]
  exact h.braceDepth_add (braceDepth depth front + 1)

theorem ClosesBraces.braceDepth_eq_zero (h : ClosesBraces depth text) : braceDepth depth text = 0 := by
  have hdepth := h.braceDepth_add 0
  rwa [Nat.zero_add] at hdepth

/-! ### What the limit leaves -/

/-- What the limit leaves of a character is counted as the character is, up to the limit. -/
theorem bracesAfter_min_limitedChar (limit depth : Nat) (c : Char) :
    bracesAfter (min depth limit) (limitedChar limit depth c) = min (bracesAfter depth c) limit := by
  by_cases hopen : c = '{'
  · subst hopen
    rw [limitedChar_opening, bracesAfter_leftBrace]
    by_cases hlimit : limit ≤ depth
    · rw [if_pos hlimit, bracesAfter_of_not_brace (by decide)]
      omega
    · rw [if_neg hlimit, bracesAfter_leftBrace]
      omega
  · by_cases hclose : c = '}'
    · subst hclose
      rw [limitedChar_closing, bracesAfter_rightBrace]
      by_cases hlimit : limit < depth
      · rw [if_pos hlimit, bracesAfter_of_not_brace (by decide)]
        omega
      · rw [if_neg hlimit, bracesAfter_rightBrace]
        omega
    · have hbrace : isBrace c = false := by simp [isBrace, hopen, hclose]
      rw [limitedChar_of_not_brace hbrace, bracesAfter_of_not_brace hbrace, bracesAfter_of_not_brace hbrace]

/-- A brace that closes is left only where some of those that were left are open. -/
theorem min_ne_zero_of_limitedChar {c : Char} (hc : c = '}' → depth ≠ 0)
    (h : limitedChar limit depth c = '}') : min depth limit ≠ 0 := by
  obtain rfl : c = '}' := eq_of_limitedChar_eq (by decide) h
  have hpos := hc rfl
  have hlimit : ¬ limit < depth := by
    intro hdeep
    rw [limitedChar_closing, if_pos hdeep] at h
    exact absurd h (by decide)
  omega

/-- What the limit leaves closes the braces that it leaves. -/
theorem ClosesBraces.limited (h : ClosesBraces depth text) (limit : Nat) :
    ClosesBraces (min depth limit) (limitedFrom limit depth text) := by
  induction text generalizing depth with
  | nil =>
    rw [closesBraces_nil_iff] at h
    rw [h, Nat.zero_min]
    exact closesBraces_nil_iff.2 rfl
  | cons c rest ih =>
    obtain ⟨hc, hrest⟩ := closesBraces_cons_iff.1 h
    rw [limitedFrom, closesBraces_cons_iff, bracesAfter_min_limitedChar]
    exact ⟨min_ne_zero_of_limitedChar hc, ih hrest⟩

theorem ClosesBraces.limitNesting (h : ClosesBraces 0 text) (limit : Nat) :
    ClosesBraces 0 (limitNesting limit text) := by
  rw [limitNesting_eq_limitedFrom, ← Nat.zero_min limit]
  exact h.limited limit

/-- Behind a text that closes its braces the limit starts anew, however deep the text nests. -/
theorem ClosesBraces.limitNesting_append_lineFeed (h : ClosesBraces 0 text) (limit : Nat) (rest : Text) :
    Source.limitNesting limit (text ++ '\n' :: rest) =
      Source.limitNesting limit text ++ '\n' :: Source.limitNesting limit rest := by
  have hfeed : isBrace '\n' = false := rfl
  simp only [limitNesting_eq_limitedFrom, limitedFrom_append, h.braceDepth_eq_zero, limitedFrom,
    limitedChar_of_not_brace hfeed, bracesAfter_of_not_brace hfeed]

theorem startsToken_of_mem_limitNesting (htoken : ∀ c ∈ text, startsToken c = false) (limit : Nat) :
    ∀ c ∈ limitNesting limit text, startsToken c = false := by
  intro c hc
  rw [limitNesting_eq_limitedFrom] at hc
  by_cases hspace : c = ' '
  · subst hspace
    rfl
  · exact htoken c (mem_of_mem_limitedFrom hspace hc)

/-! ### Bodies -/

theorem closingBrace?_token {lexeme : Text} (h : token? (lexeme ++ rest) = some lexeme) (depth : Nat) :
    closingBrace? depth 0 (lexeme ++ rest) = (closingBrace? depth 0 rest).map (· + lexeme.length) := by
  cases lexeme with
  | nil => exact absurd rfl (token?_isFront h).2
  | cons c lexeme =>
    rw [List.cons_append] at h ⊢
    rw [closingBrace?, h]
    dsimp only
    rw [List.length_cons, Nat.add_sub_cancel, closingBrace?_skip, List.drop_left, Option.map_map]
    rfl

theorem closingBrace?_single (h : token? (c :: rest) = none) (depth : Nat) :
    closingBrace? depth 0 (c :: rest) =
      if c = '}' ∧ depth ≤ 1 then some 0 else (closingBrace? (bracesAfter depth c) 0 rest).map (· + 1) := by
  rw [closingBrace?, h]
  grind [bracesAfter]

/-- In a text that closes its braces the counter finds an end, and text behind does not move
it. -/
theorem ClosesBraces.exists_closingBrace? (htoken : ∀ c ∈ text, startsToken c = false)
    {outer : Nat} (hdepth : depth ≠ 0) (h : ClosesBraces (outer + depth) text) :
    ∃ position, ∀ rest, closingBrace? depth 0 (text ++ rest) = some position := by
  induction text generalizing depth with
  | nil =>
    have hzero := closesBraces_nil_iff.1 h
    omega
  | cons c text ih =>
    obtain ⟨hc, htail⟩ := List.forall_mem_cons.1 htoken
    obtain ⟨-, hrest⟩ := closesBraces_cons_iff.1 h
    have hstep : ∀ rest, closingBrace? depth 0 (c :: (text ++ rest)) =
        if c = '}' ∧ depth ≤ 1 then some 0
        else (closingBrace? (bracesAfter depth c) 0 (text ++ rest)).map (· + 1) :=
      fun rest => closingBrace?_single (token?_eq_none_of_start hc _) depth
    by_cases hend : c = '}' ∧ depth ≤ 1
    · refine ⟨0, ?_⟩
      intro rest
      rw [List.cons_append, hstep, if_pos hend]
    · have hnext : bracesAfter (outer + depth) c = outer + bracesAfter depth c ∧ bracesAfter depth c ≠ 0 := by
        grind [bracesAfter]
      rw [hnext.1] at hrest
      obtain ⟨position, hposition⟩ := ih htail hnext.2 hrest
      refine ⟨position + 1, ?_⟩
      intro rest
      rw [List.cons_append, hstep, if_neg hend, hposition]
      rfl

theorem ClosesBraces.body?_append (htoken : ∀ c ∈ text, startsToken c = false)
    (h : ClosesBraces (depth + 1) text) (rest : Text) : body? 0 (text ++ rest) = body? 0 text := by
  obtain ⟨position, hposition⟩ := h.exists_closingBrace? htoken Nat.one_ne_zero
  have hbody : ∀ rest, ∃ body, body? 0 (text ++ rest) = some body ∧ body <+: text ++ rest ∧
      body.length = position := by
    intro rest
    have hcount := hposition rest
    rw [closingBrace?_one, Option.map_eq_some_iff] at hcount
    obtain ⟨body, hfound, hlength⟩ := hcount
    exact ⟨body, hfound, (List.prefix_append body ['}']).trans (body?_isFront hfound), hlength⟩
  obtain ⟨body, hfound, hfront, hlength⟩ := hbody []
  obtain ⟨other, hother, hotherFront, hotherLength⟩ := hbody rest
  rw [List.append_nil] at hfound hfront
  have hsame : body = other :=
    List.IsPrefix.eq_of_length
      (List.prefix_of_prefix_length_le (hfront.trans (List.prefix_append text rest)) hotherFront
        (by omega)) (by omega)
  rw [hfound, hother, hsame]

/-! ### Headers -/

/-- No token starts in a header. -/
theorem Header.SpelledBy.startsToken_eq_false {header : Header} (h : header.SpelledBy front)
    (hc : c ∈ front) : startsToken c = false := by
  rcases h.mem_cases hc with hword | hgap | rfl
  · exact startsToken_of_isWordChar hword
  · obtain rfl | rfl := eq_of_isGap hgap
    · rfl
    · rfl
  · rfl

/-- No header goes over a line. -/
theorem Header.SpelledBy.not_mem_lineFeed {header : Header} (h : header.SpelledBy front) : '\n' ∉ front := by
  intro hmem
  rcases h.mem_cases hmem with hword | hgap | hbrace
  · exact absurd hword (by decide)
  · exact absurd hgap (by decide)
  · exact absurd hbrace (by decide)

/-- A header is read in front of a line feed as at the end of the text. -/
theorem header?_append_lineFeed (text rest : Text) :
    header? (text ++ '\n' :: rest) =
      (header? text).map fun (header, behind) => (header, behind ++ '\n' :: rest) := by
  cases hheader : header? text with
  | some found =>
    obtain ⟨header, behind⟩ := found
    obtain ⟨front, hspelled, rfl⟩ := header?_eq_some_iff.1 hheader
    exact header?_eq_some_iff.2 ⟨front, hspelled, List.append_assoc front behind _⟩
  | none =>
    rw [Option.map_none, Option.eq_none_iff_forall_ne_some]
    rintro ⟨header, behind⟩ hfound
    obtain ⟨front, hspelled, htext⟩ := header?_eq_some_iff.1 hfound
    rcases List.append_eq_append_iff.1 htext with ⟨middle, rfl, hmiddle⟩ | ⟨middle, rfl, -⟩
    · cases middle with
      | nil =>
        rw [List.append_nil] at hspelled
        rw [header?_eq_some_iff.2 ⟨text, hspelled, (List.append_nil text).symm⟩] at hheader
        cases hheader
      | cons d middle =>
        obtain ⟨rfl, -⟩ := List.cons.inj hmiddle
        exact hspelled.not_mem_lineFeed (by simp)
    · rw [header?_eq_some_iff.2 ⟨front, hspelled, rfl⟩] at hheader
      cases hheader

/-! ### The scan -/

theorem ClosesBraces.declaration?_append_lineFeed (htoken : ∀ c ∈ text, startsToken c = false)
    (h : ClosesBraces depth text) (rest : Text) :
    declaration? (text ++ '\n' :: rest) = declaration? text := by
  simp only [declaration?, header?_append_lineFeed]
  cases hheader : header? text with
  | none => rfl
  | some found =>
    obtain ⟨header, behind⟩ := found
    obtain ⟨front, hspelled, rfl⟩ := header?_eq_some_iff.1 hheader
    have hbehind : ClosesBraces (depth + 1) behind := hspelled.braceDepth_eq depth ▸ h.of_append
    have hbody := hbehind.body?_append (fun c hc => htoken c (List.mem_append_right _ hc)) ('\n' :: rest)
    have hlength : (front ++ behind ++ '\n' :: rest).length - (behind ++ '\n' :: rest).length =
        (front ++ behind).length - behind.length := by
      simp only [List.length_append]
      omega
    simp only [Option.map_some, Option.bind_eq_bind, Option.bind_some, hbody, hlength]

/-- The first segment of a text that closes its braces does not reach over its end. -/
theorem ClosesBraces.first_append_lineFeed (htoken : ∀ d ∈ c :: text, startsToken d = false)
    (h : ClosesBraces depth (c :: text)) (rest : Text) :
    Segment.first c (text ++ '\n' :: rest) = Segment.first c text := by
  have hdeclaration := h.declaration?_append_lineFeed htoken rest
  rw [List.cons_append] at hdeclaration
  rw [Segment.first, Segment.first, hdeclaration]
  cases hfound : declaration? (c :: text) with
  | some found =>
    obtain ⟨declared, length⟩ := found
    have htake := (declaration?_eq_some_iff_atFrontOf.1 hfound).take.2.1
    have hle : length ≤ (c :: text).length := by
      rw [List.length_take] at htake
      omega
    simp only [← List.cons_append, List.take_append_of_le_length hle]
  | none =>
    have hline : (text ++ '\n' :: rest).takeWhile isWordChar = text.takeWhile isWordChar := by
      have hfeed : isWordChar '\n' = false := by decide
      rw [List.takeWhile_append]
      split
      next hall =>
        simp [hfeed, (List.takeWhile_prefix isWordChar).eq_of_length hall]
      next => rfl
    have hstart := htoken c List.mem_cons_self
    simp only [token?_eq_none_of_start hstart, hline]

/-- Behind a text that closes its braces the scan starts anew. -/
theorem ClosesBraces.declarations_append_lineFeed (htoken : ∀ c ∈ text, startsToken c = false)
    (h : ClosesBraces depth text) (rest : Text) :
    declarations (text ++ '\n' :: rest) = declarations text ++ declarations rest := by
  induction text using segments_induction generalizing depth with
  | nil =>
    exact declarations_of_single (by decide) (by decide) rest
  | cons c text after hafter hsegments _ ih =>
    have hfirst := h.first_append_lineFeed htoken rest
    have hsplit : c :: (text ++ '\n' :: rest) = (Segment.first c text).text ++ (after ++ '\n' :: rest) := by
      rw [← List.cons_append, hafter, List.append_assoc]
    have hbehind := ih (fun d hd => htoken d (by rw [hafter]; exact List.mem_append_right _ hd))
      (ClosesBraces.of_append (hafter ▸ h))
    rw [List.cons_append, declarations_of_first hfirst hsplit, hbehind, declarations_of_first rfl hafter,
      List.append_assoc]

end GoScaffold.Source
