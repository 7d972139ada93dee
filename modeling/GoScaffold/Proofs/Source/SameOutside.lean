import Mathlib.Data.List.Forall2
import GoScaffold.Proofs.Source.BlankedBraces

/-!
# Texts that differ inside tokens

The braces inside a comment or a literal do not tell where it ends, so it ends at the same
place with spaces over them.  And what stands inside tokens does not tell which
declarations are read: where two texts have tokens of the same lengths at the same
places, and the same characters between them, the scan goes through both side by side.
-/

namespace GoScaffold.Source

variable {text blanked rest other : Text}

/-! ### Blanked tokens -/

/-- A character that is neither a space nor a brace is where it was. -/
theorem beq_of_blanked {c d e : Char} (h : d = c ∨ (isBrace c = true ∧ d = ' ')) (hspace : e ≠ ' ')
    (hbrace : isBrace e = false) : (d == e) = (c == e) := by
  rcases h with rfl | ⟨hc, rfl⟩
  · rfl
  · have hne : c ≠ e := by
      rintro rfl
      rw [hbrace] at hc
      cases hc
    rw [beq_eq_false_iff_ne.2 hspace.symm, beq_eq_false_iff_ne.2 hne]

theorem isLineBreak_of_blanked {c d : Char} (h : d = c ∨ (isBrace c = true ∧ d = ' ')) :
    isLineBreak d = isLineBreak c := by
  rw [isLineBreak, isLineBreak, beq_of_blanked h (by decide) (by decide), beq_of_blanked h (by decide) (by decide)]

theorem map_cons_take {found : Option Text} {c d : Char} :
    (found.map fun through => blanked.take through.length).map (d :: ·) =
      (found.map (c :: ·)).map fun through => (d :: blanked).take through.length := by
  rw [Option.map_map, Option.map_map]
  rfl

theorem IsBlankedFrom.throughBacktick? (h : IsBlankedFrom text blanked) :
    throughBacktick? blanked = (throughBacktick? text).map fun through => blanked.take through.length := by
  induction h with
  | nil => rfl
  | @cons c d rest behind hc _ ih =>
    have htick := beq_of_blanked (e := '\x60') hc (by decide) (by decide)
    rw [Source.throughBacktick?, Source.throughBacktick?, htick, ih]
    split
    next => rfl
    next => exact map_cons_take

theorem IsBlankedFrom.head?_beq (h : IsBlankedFrom text blanked) {e : Char} (hspace : e ≠ ' ')
    (hbrace : isBrace e = false) : (blanked.head? == some e) = (text.head? == some e) := by
  cases h with
  | nil => rfl
  | cons hc _ => exact beq_of_blanked hc hspace hbrace

theorem IsBlankedFrom.throughCommentEnd? (h : IsBlankedFrom text blanked) :
    throughCommentEnd? blanked = (throughCommentEnd? text).map fun through => blanked.take through.length := by
  induction h with
  | nil => rfl
  | @cons c d rest behind hc hrest ih =>
    have hstar := beq_of_blanked (e := '*') hc (by decide) (by decide)
    have hslash := IsBlankedFrom.head?_beq (e := '/') hrest (by decide) (by decide)
    rw [Source.throughCommentEnd?, Source.throughCommentEnd?, hstar, hslash, ih]
    split
    next hend =>
      obtain ⟨rfl, hnext⟩ : d = '*' ∧ behind.head? = some '/' := by simpa [← hstar, ← hslash] using hend
      obtain ⟨tail, rfl⟩ := List.head?_eq_some_iff.1 hnext
      rfl
    next => exact map_cons_take

theorem IsBlankedFrom.throughQuote? {quote : Char} (hquote : quote = '"' ∨ quote = '\'')
    (h : IsBlankedFrom text blanked) :
    throughQuote? quote blanked =
      (throughQuote? quote text).map fun through => blanked.take through.length := by
  have hspace : quote ≠ ' ' := by rcases hquote with rfl | rfl <;> decide
  have hbrace : isBrace quote = false := by rcases hquote with rfl | rfl <;> decide
  fun_induction Source.throughQuote? quote text generalizing blanked with
  | case1 =>
    cases h
    rfl
  | case2 c rest hc =>
    cases h with
    | @cons _ d _ behind hd hrest =>
      rw [Source.throughQuote?.eq_def quote (d :: behind)]
      simp only [beq_of_blanked hd hspace hbrace, hc, if_true]
      rfl
  | case3 c hc hescape =>
    cases h with
    | cons hd hrest =>
      cases hrest
      rw [Source.throughQuote?, beq_of_blanked hd hspace hbrace, if_neg hc,
        beq_of_blanked hd (by decide) (by decide), if_pos hescape]
      rfl
  | case4 c hc hescape escaped rest ih =>
    cases h with
    | cons hd hrest =>
      cases hrest with
      | cons he hrest =>
        rw [Source.throughQuote?, beq_of_blanked hd hspace hbrace, if_neg hc,
          beq_of_blanked hd (by decide) (by decide), if_pos hescape, ih hrest, Option.map_map, Option.map_map]
        rfl
  | case5 c rest hc hescape hbreak =>
    cases h with
    | @cons _ d _ behind hd hrest =>
      rw [Source.throughQuote?.eq_def quote (d :: behind)]
      simp only [beq_of_blanked hd hspace hbrace, hc, beq_of_blanked (e := '\\') hd (by decide) (by decide),
        hescape, isLineBreak_of_blanked hd, hbreak, if_true]
      rfl
  | case6 c rest hc hescape hbreak ih =>
    cases h with
    | @cons _ d _ behind hd hrest =>
      rw [Source.throughQuote?.eq_def quote (d :: behind)]
      simp only [beq_of_blanked hd hspace hbrace, hc, beq_of_blanked (e := '\\') hd (by decide) (by decide),
        hescape, isLineBreak_of_blanked hd, hbreak, ih hrest]
      exact map_cons_take

theorem IsBlankedFrom.takeWhile_line (h : IsBlankedFrom text blanked) :
    blanked.takeWhile (fun c => !isLineBreak c) =
      blanked.take (text.takeWhile fun c => !isLineBreak c).length := by
  induction h with
  | nil => rfl
  | @cons c d rest behind hc _ ih =>
    rw [List.takeWhile_cons, List.takeWhile_cons, isLineBreak_of_blanked hc, ih]
    split
    next => rfl
    next => rfl

/-- Braces in a token do not tell where it ends. -/
theorem IsBlankedFrom.token? (h : IsBlankedFrom text blanked) :
    token? blanked = (token? text).map fun lexeme => blanked.take lexeme.length := by
  cases h with
  | nil => rfl
  | @cons c d rest behind hc hrest =>
    unfold Source.token?
    simp only [beq_of_blanked (e := '/') hc (by decide) (by decide),
      beq_of_blanked (e := '\x60') hc (by decide) (by decide),
      beq_of_blanked (e := '"') hc (by decide) (by decide),
      beq_of_blanked (e := '\'') hc (by decide) (by decide)]
    split
    next hslash =>
      cases hrest with
      | nil => rfl
      | @cons c' d' rest behind hc' hrest =>
        simp only [beq_of_blanked (e := '/') hc' (by decide) (by decide),
          beq_of_blanked (e := '*') hc' (by decide) (by decide)]
        split
        next =>
          rw [IsBlankedFrom.takeWhile_line hrest]
          rfl
        next =>
          split
          next =>
            rw [IsBlankedFrom.throughCommentEnd? hrest, Option.map_map, Option.map_map]
            rfl
          next => rfl
    next =>
      split
      next =>
        rw [IsBlankedFrom.throughBacktick? hrest]
        exact map_cons_take
      next =>
        split
        next hquote =>
          have hopening : c = '"' ∨ c = '\'' := by simpa using hquote
          obtain rfl : d = c := by
            rcases hc with rfl | ⟨hbrace, -⟩
            · rfl
            · rcases hopening with rfl | rfl
              · exact absurd hbrace (by decide)
              · exact absurd hbrace (by decide)
          rw [IsBlankedFrom.throughQuote? hopening hrest]
          exact map_cons_take
        next => rfl

/-! ### Token by token -/

/-- The texts differ inside tokens only: token by token of the same length, and character by
character between them. -/
inductive SameOutside : Text → Text → Prop
  | nil : SameOutside [] []
  | token {lexeme other rest behind : Text} (htoken : token? (lexeme ++ rest) = some lexeme)
      (hother : token? (other ++ behind) = some other) (hlength : other.length = lexeme.length)
      (hrest : SameOutside rest behind) : SameOutside (lexeme ++ rest) (other ++ behind)
  | single {c : Char} {rest behind : Text} (htoken : token? (c :: rest) = none)
      (hother : token? (c :: behind) = none) (hrest : SameOutside rest behind) :
      SameOutside (c :: rest) (c :: behind)

namespace SameOutside

theorem symm (h : SameOutside text other) : SameOutside other text := by
  induction h with
  | nil => exact .nil
  | token htoken hother hlength _ ih => exact .token hother htoken hlength.symm ih
  | single htoken hother _ ih => exact .single hother htoken ih

/-- In front of the first token the texts are the same. -/
theorem of_append {front : Text} (hfront : ∀ c ∈ front, startsToken c = false)
    (h : SameOutside (front ++ rest) other) : ∃ behind, other = front ++ behind ∧ SameOutside rest behind := by
  induction front generalizing other with
  | nil => exact ⟨other, rfl, h⟩
  | cons c front ih =>
    obtain ⟨hc, htail⟩ := List.forall_mem_cons.1 hfront
    generalize htext : c :: front ++ rest = text at h
    cases h with
    | nil => cases htext
    | token htoken =>
      rw [← htext, List.cons_append, token?_eq_none_of_start hc] at htoken
      cases htoken
    | single _ _ hrest =>
      obtain ⟨rfl, rfl⟩ := List.cons.inj htext
      obtain ⟨behind, rfl, hbehind⟩ := ih htail hrest
      exact ⟨behind, rfl, hbehind⟩

/-! ### Bodies and declarations -/

theorem closingBrace?_eq (h : SameOutside text other) (depth : Nat) :
    closingBrace? depth 0 other = closingBrace? depth 0 text := by
  induction h generalizing depth with
  | nil => rfl
  | token htoken hother hlength _ ih =>
    rw [closingBrace?_token htoken, closingBrace?_token hother, ih, hlength]
  | single htoken hother _ ih => rw [closingBrace?_single htoken, closingBrace?_single hother, ih]

/-- Behind the brace that closes a body the texts go on side by side. -/
theorem drop_closing (h : SameOutside text other) {depth position : Nat}
    (hclosing : closingBrace? depth 0 text = some position) :
    SameOutside (text.drop (position + 1)) (other.drop (position + 1)) := by
  induction h generalizing depth position with
  | nil => cases hclosing
  | token htoken hother hlength _ ih =>
    rw [closingBrace?_token htoken, Option.map_eq_some_iff] at hclosing
    obtain ⟨position, hposition, rfl⟩ := hclosing
    rw [Nat.add_right_comm, Nat.add_comm (position + 1), List.drop_length_add_append, ← hlength,
      List.drop_length_add_append]
    exact ih hposition
  | @single c rest behind htoken _ hrest ih =>
    rw [closingBrace?_single htoken] at hclosing
    split at hclosing
    next =>
      obtain rfl : 0 = position := Option.some.inj hclosing
      exact hrest
    next =>
      obtain ⟨position, hposition, rfl⟩ := Option.map_eq_some_iff.1 hclosing
      exact ih hposition

/-- The same header is read at the front of both texts, with bodies of the same length. -/
theorem declaration?_eq_some (h : SameOutside text other) {declared : Declaration} {length : Nat}
    (hfound : declaration? text = some (declared, length)) :
    (∃ body, declaration? other = some (⟨declared.header, body⟩, length)) ∧
      SameOutside (text.drop length) (other.drop length) := by
  obtain ⟨front, after, hspelled, rfl, hclosing, rfl⟩ := declaration?_eq_some_iff_atFrontOf.1 hfound
  obtain ⟨behind, rfl, hbehind⟩ := h.of_append fun c => hspelled.startsToken_eq_false
  refine ⟨?_, ?_⟩
  · have hbody := (hbehind.closingBrace?_eq 1).trans hclosing
    rw [closingBrace?_one, Option.map_eq_some_iff] at hbody
    obtain ⟨body, hread, hlength⟩ := hbody
    obtain ⟨last, rfl, hcount⟩ := body?_eq_some_iff.1 hread
    exact ⟨body, declaration?_eq_some_iff_atFrontOf.2
      ⟨front, last, hspelled, rfl, hcount, by rw [hlength]⟩⟩
  · have hdrop : ∀ tail : Text, (front ++ tail).drop (front.length + declared.body.length + 1) =
        tail.drop (declared.body.length + 1) := by
      intro tail
      rw [Nat.add_assoc, List.drop_length_add_append]
    rw [hdrop, hdrop]
    exact hbehind.drop_closing hclosing

theorem declaration?_eq_none_iff (h : SameOutside text other) :
    declaration? other = none ↔ declaration? text = none := by
  rw [Option.eq_none_iff_forall_ne_some, Option.eq_none_iff_forall_ne_some]
  constructor
  · rintro hnone ⟨declared, length⟩ hfound
    obtain ⟨⟨body, hbody⟩, -⟩ := h.declaration?_eq_some hfound
    exact hnone _ hbody
  · rintro hnone ⟨declared, length⟩ hfound
    obtain ⟨⟨body, hbody⟩, -⟩ := h.symm.declaration?_eq_some hfound
    exact hnone _ hbody

/-! ### Words -/

theorem isWordChar_head_of_token? {lexeme : Text} (h : token? (lexeme ++ rest) = some lexeme) :
    ∃ c tail, lexeme = c :: tail ∧ isWordChar c = false := by
  cases lexeme with
  | nil => exact absurd rfl (token?_isFront h).2
  | cons c tail =>
    refine ⟨c, tail, rfl, ?_⟩
    by_contra hword
    rw [Bool.not_eq_false] at hword
    rw [List.cons_append, token?_eq_none_of_start (startsToken_of_isWordChar hword)] at h
    cases h

/-- No token starts with a word character, so words end at the same place. -/
theorem dropWhile_word (h : SameOutside text other) :
    SameOutside (text.dropWhile isWordChar) (other.dropWhile isWordChar) := by
  induction h with
  | nil => exact .nil
  | token htoken hother hlength hrest =>
    obtain ⟨c, tail, rfl, hc⟩ := isWordChar_head_of_token? htoken
    obtain ⟨d, tail', rfl, hd⟩ := isWordChar_head_of_token? hother
    rw [List.cons_append, List.cons_append, List.dropWhile_cons_of_neg (by simp [hc]),
      List.dropWhile_cons_of_neg (by simp [hd])]
    exact .token htoken hother hlength hrest
  | @single c rest behind htoken hother hrest ih =>
    rw [List.dropWhile_cons, List.dropWhile_cons]
    split
    next => exact ih
    next => exact .single htoken hother hrest

/-- Whatever stands inside tokens, the same headers are read, in the same order.  The induction
is on what is left to read: a declaration, a token, a word or a character is taken off both
texts at once. -/
theorem map_header_declarations (h : SameOutside text other) :
    (declarations other).map Declaration.header = (declarations text).map Declaration.header := by
  induction hlength : text.length using Nat.strong_induction_on generalizing text other with
  | _ length ih =>
    subst hlength
    cases hfound : declaration? text with
    | some found =>
      obtain ⟨declared, length⟩ := found
      obtain ⟨⟨body, hbody⟩, hbehind⟩ := h.declaration?_eq_some hfound
      have hshorter : (text.drop length).length < text.length := by
        obtain ⟨front, after, -, rfl, -, rfl⟩ := declaration?_eq_some_iff_atFrontOf.1 hfound
        simp only [List.length_drop, List.length_append, List.length_cons]
        omega
      rw [declarations_of_declaration hfound rfl, declarations_of_declaration hbody rfl, List.map_cons,
        List.map_cons, ih _ hshorter hbehind rfl]
    | none =>
      have hnone := h.declaration?_eq_none_iff.2 hfound
      cases h with
      | nil => rfl
      | @token lexeme lexeme' rest behind htoken hother _ hrest =>
        have hpos := List.length_pos_iff.2 (token?_isFront htoken).2
        rw [declarations_of_token hfound htoken, declarations_of_token hnone hother]
        exact ih rest.length (by rw [List.length_append]; omega) hrest rfl
      | @single c rest behind htoken hother hrest =>
        by_cases hc : isWordChar c = true
        · rw [declarations_of_word hfound hc, declarations_of_word hnone hc]
          refine ih _ ?_ hrest.dropWhile_word rfl
          exact Nat.lt_succ_of_le (List.dropWhile_suffix isWordChar).length_le
        · rw [Bool.not_eq_true] at hc
          rw [declarations_of_char hfound htoken hc, declarations_of_char hnone hother hc]
          exact ih rest.length (Nat.lt_succ_self _) hrest rfl

end SameOutside

end GoScaffold.Source
