import GoScaffold.Proofs.Identifier.Classes
import GoScaffold.Proofs.Source.Written

/-!
# Declarations that are not closed

A header whose brace is never closed hides nothing.  However far its body was read, through
blocks and whole declarations, the scan steps over the words of the header only.  No other
header starts at one of them, so what stands behind the brace is read as if it stood
alone.
-/

namespace GoScaffold.Source

open Catalog (ofSource)

variable {header : Header} {front rest : Text}

/-! ### Stepping over words -/

theorem declarations_word_append {word : Text} (hne : word ≠ []) (hword : ∀ c ∈ word, isWordChar c = true)
    (hrest : ∀ d, rest.head? = some d → isWordChar d = false) (hnone : declaration? (word ++ rest) = none) :
    declarations (word ++ rest) = declarations rest := by
  cases word with
  | nil => exact absurd rfl hne
  | cons c word =>
    obtain ⟨hc, htail⟩ := List.forall_mem_cons.1 hword
    rw [List.cons_append] at hnone ⊢
    rw [declarations_of_word hnone hc, (takeWhile_dropWhile_append htail hrest).2]

theorem IsSpacing.declarations_append {spacing : Text} (h : IsSpacing spacing) (rest : Text) :
    declarations (spacing ++ rest) = declarations rest :=
  declarations_layout_append (fun c hc => isLayout_of_isGap (h c hc)) rest

/-! ### The words of a header -/

theorem Kind.isWord_word (kind : Kind) : Text.IsWord kind.word := by
  cases kind <;> decide

theorem words_name_append {name behind spacing : Text} (hname : isAsciiIdentifier name = true)
    (hne : behind ≠ []) (hbehind : IsSpacing behind) (kind : Kind) (hspacing : IsSpacing spacing) :
    Text.words (name ++ (behind ++ (kind.word ++ spacing))) = [name, kind.word] := by
  rw [Text.words_word_append (isWord_of_isAsciiIdentifier hname) hne (isBlanks_of_isSpacing hbehind),
    Text.words_append_blanks _ (isBlanks_of_isSpacing hspacing), Text.words_of_isWord kind.isWord_word]

/-- In front of its brace a header has three words. -/
theorem Header.SpelledBy.words_eq {words : Text} (h : header.SpelledBy (words ++ ['{'])) :
    Text.words words = [("type" : Text), header.name, header.kind.word] := by
  obtain ⟨hname, before, behind, spacing, hbeforeNe, hbefore, hbehindNe, hbehind, hspacing, heq⟩ := h
  rw [List.append_cancel_right heq]
  simp only [List.append_assoc]
  rw [Text.words_word_append (by decide) hbeforeNe (isBlanks_of_isSpacing hbefore),
    words_name_append hname hbehindNe hbehind header.kind hspacing]

theorem takeWhile_append_brace {words : Text} (h : '{' ∉ words) (rest : Text) :
    (words ++ '{' :: rest).takeWhile (· != '{') = words := by
  have hwords : ∀ c ∈ words, (c != '{') = true := by
    intro c hc
    simpa using ne_of_mem_of_not_mem hc h
  exact (takeWhile_dropWhile_append hwords (by rintro d ⟨rfl⟩; rfl)).1

/-- A header reaches up to the first brace of its text. -/
theorem Header.SpelledBy.eq_of_first_brace {words behind : Text} (h : header.SpelledBy front)
    (hwords : '{' ∉ words) (heq : words ++ '{' :: rest = front ++ behind) : front = words ++ ['{'] := by
  obtain ⟨headerWords, rfl, hbrace⟩ := h.eq_append
  have hheaderWords : '{' ∉ headerWords := fun hmem => absurd (hbrace '{' hmem) (by decide)
  rw [List.append_assoc, List.singleton_append] at heq
  rw [← takeWhile_append_brace hwords rest, heq, takeWhile_append_brace hheaderWords behind]

/-- No header starts at the name of another: behind it there are two words before the brace. -/
theorem declaration?_name_append {name behind spacing : Text} (hname : isAsciiIdentifier name = true)
    (hne : behind ≠ []) (hbehind : IsSpacing behind) (kind : Kind) (hspacing : IsSpacing spacing)
    (rest : Text) :
    declaration? (name ++ (behind ++ (kind.word ++ (spacing ++ '{' :: rest)))) = none := by
  have hbrace : '{' ∉ name ++ (behind ++ (kind.word ++ spacing)) := by
    intro hmem
    simp only [List.mem_append] at hmem
    rcases hmem with hmem | hmem | hmem | hmem
    · exact absurd (isWordChar_of_mem_isAsciiIdentifier hname '{' hmem) (by decide)
    · exact absurd (hbehind '{' hmem) (by decide)
    · exact absurd (kind.isWordChar_of_mem_word '{' hmem) (by decide)
    · exact absurd (hspacing '{' hmem) (by decide)
  rw [Option.eq_none_iff_forall_ne_some]
  rintro ⟨declared, length⟩ hfound
  obtain ⟨front, after, hspelled, htext, -⟩ := declaration?_eq_some_iff_atFrontOf.1 hfound
  have hfront : front = name ++ (behind ++ (kind.word ++ spacing)) ++ ['{'] :=
    hspelled.eq_of_first_brace hbrace (by simpa only [List.append_assoc] using htext)
  rw [hfront] at hspelled
  have hwords := hspelled.words_eq
  rw [words_name_append hname hne hbehind kind hspacing] at hwords
  simp at hwords

/-! ### Behind a brace that is not closed -/

theorem Header.SpelledBy.declaration?_append (h : header.SpelledBy front)
    (hopen : closingBrace? 1 0 rest = none) : declaration? (front ++ rest) = none := by
  rw [closingBrace?_one, Option.map_eq_none_iff] at hopen
  have hheader : header? (front ++ rest) = some (header, rest) := header?_eq_some_iff.2 ⟨front, h, rfl⟩
  simp only [declaration?, bind, hheader, Option.bind_some, hopen, Option.bind_none]

/-- The scan steps over a header whose brace is not closed, and reads on behind the brace. -/
theorem Header.SpelledBy.declarations_append (h : header.SpelledBy front)
    (hopen : closingBrace? 1 0 rest = none) : declarations (front ++ rest) = declarations rest := by
  have hheader := h.declaration?_append hopen
  obtain ⟨hname, before, behind, spacing, hbeforeNe, hbefore, hbehindNe, hbehind, hspacing, rfl⟩ := h
  have hkindNone : declaration? (header.kind.word ++ (spacing ++ '{' :: rest)) = none := by
    cases header.kind <;> exact declaration?_eq_none_of_head (by decide) _
  have hspacingHead : ∀ d, (spacing ++ '{' :: rest).head? = some d → isWordChar d = false := by
    cases spacing with
    | nil => rintro d ⟨rfl⟩; rfl
    | cons c spacing => exact hspacing.head (List.cons_ne_nil c spacing)
  simp only [List.append_assoc, List.singleton_append] at hheader ⊢
  calc declarations ("type" ++ (before ++ (header.name ++ (behind ++ (header.kind.word ++
          (spacing ++ '{' :: rest))))))
      = declarations (before ++ (header.name ++ (behind ++ (header.kind.word ++
          (spacing ++ '{' :: rest))))) :=
        declarations_word_append (by decide) (by decide) (hbefore.head hbeforeNe) hheader
    _ = declarations (header.name ++ (behind ++ (header.kind.word ++ (spacing ++ '{' :: rest)))) :=
        hbefore.declarations_append _
    _ = declarations (behind ++ (header.kind.word ++ (spacing ++ '{' :: rest))) :=
        declarations_word_append (isWord_of_isAsciiIdentifier hname).1
          (isWordChar_of_mem_isAsciiIdentifier hname) (hbehind.head hbehindNe)
          (declaration?_name_append hname hbehindNe hbehind header.kind hspacing rest)
    _ = declarations (header.kind.word ++ (spacing ++ '{' :: rest)) :=
        hbehind.declarations_append _
    _ = declarations (spacing ++ '{' :: rest) :=
        declarations_word_append header.kind.isWord_word.1 header.kind.isWordChar_of_mem_word hspacingHead
          hkindNone
    _ = declarations ('{' :: rest) := hspacing.declarations_append _
    _ = declarations rest :=
        declarations_of_single (by decide) (by decide) rest

/-! ### The nesting limit -/

theorem bracesAfter_mono {depth other : Nat} (h : depth ≤ other) (c : Char) :
    bracesAfter depth c ≤ bracesAfter other c := by
  simp only [bracesAfter]
  split
  next => omega
  next => split <;> omega

theorem nestsWithin_of_le {limit depth other : Nat} (hle : depth ≤ other) {text : Text}
    (h : nestsWithin limit other text = true) : nestsWithin limit depth text = true := by
  induction text generalizing depth other with
  | nil => rfl
  | cons c text ih =>
    simp only [nestsWithin, Bool.and_eq_true, Bool.or_eq_true, decide_eq_true_eq] at h ⊢
    obtain ⟨hc, htext⟩ := h
    exact ⟨hc.imp_right (Nat.lt_of_le_of_lt hle), ih (bracesAfter_mono hle c) htext⟩

/-- A header whose brace is never closed outside tokens hides nothing behind it: where the count
of all braces stays within the limit, the catalog is that of the text behind the header. -/
theorem ofSource_unclosed_append (hheader : header.SpelledBy front)
    (hopen : closingBrace? 1 0 rest = none) (hlimit : nestsWithin nestingLimit 0 (front ++ rest) = true) :
    ofSource (front ++ rest) = ofSource rest := by
  have hrest : nestsWithin nestingLimit 0 rest = true := by
    rw [nestsWithin_append, hheader.braceDepth_eq, Bool.and_eq_true] at hlimit
    exact nestsWithin_of_le (Nat.zero_le 1) hlimit.2
  rw [ofSource_of_nestsWithin hlimit, ofSource_of_nestsWithin hrest, hheader.declarations_append hopen]

/-- The struct behind the field of an unclosed one is found. -/
theorem ofSource_unclosed_append_broken :
    ofSource ("type Broken struct \x7b" ++ "\n\ta int\n\ntype Ok struct \x7b\n\tb int\n\x7d\n") =
      ofSource "\n\ta int\n\ntype Ok struct \x7b\n\tb int\n\x7d\n" := by
  have hheader : Header.SpelledBy ⟨"Broken", .struct⟩ "type Broken struct \x7b" :=
    ⟨by decide, [' '], [' '], [' '], by decide, by decide, by decide, by decide, by decide, by decide⟩
  exact ofSource_unclosed_append hheader (by decide +kernel) (by decide)

end GoScaffold.Source
