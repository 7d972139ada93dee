import Mathlib.Data.List.TakeWhile
import GoScaffold.Source.Declaration

/-!
# Where comments and literals end

A token is a non-empty front of the text that it is read from, and only four
characters start one.  No word runs on from the last character of a token into
the text behind it, so a scan may go on there without looking back.
-/

namespace GoScaffold.Source

/-! ### The ends of literals -/

/-- `front` is where `text` starts, and ends with `last`. -/
def FrontEndingIn (last : Char) (front text : Text) : Prop :=
  front <+: text ∧ front.getLast? = some last

theorem FrontEndingIn.cons {last : Char} {front text : Text} (c : Char)
    (h : FrontEndingIn last front text) : FrontEndingIn last (c :: front) (c :: text) := by
  refine ⟨(List.prefix_cons_inj c).2 h.1, ?_⟩
  rw [List.getLast?_cons, h.2]
  rfl

theorem FrontEndingIn.ne_nil {last : Char} {front text : Text}
    (h : FrontEndingIn last front text) : front ≠ [] := by
  rintro rfl
  cases h.2

theorem throughCommentEnd?_front {text through : Text}
    (h : throughCommentEnd? text = some through) : FrontEndingIn '/' through text := by
  induction text generalizing through with
  | nil => cases h
  | cons c rest ih =>
    rw [throughCommentEnd?] at h
    split at h
    next hend =>
      obtain ⟨rfl, hslash⟩ : c = '*' ∧ rest.head? = some '/' := by simpa using hend
      obtain ⟨tail, rfl⟩ := List.head?_eq_some_iff.1 hslash
      cases h
      exact ⟨⟨tail, rfl⟩, rfl⟩
    next =>
      obtain ⟨inner, hinner, rfl⟩ := Option.map_eq_some_iff.1 h
      exact (ih hinner).cons c

theorem throughBacktick?_front {text through : Text}
    (h : throughBacktick? text = some through) : FrontEndingIn '\x60' through text := by
  induction text generalizing through with
  | nil => cases h
  | cons c rest ih =>
    rw [throughBacktick?] at h
    split at h
    next hend =>
      obtain rfl : c = '\x60' := by simpa using hend
      cases h
      exact ⟨⟨rest, rfl⟩, rfl⟩
    next =>
      obtain ⟨inner, hinner, rfl⟩ := Option.map_eq_some_iff.1 h
      exact (ih hinner).cons c

theorem throughQuote?_front {quote : Char} {text through : Text}
    (h : throughQuote? quote text = some through) : FrontEndingIn quote through text := by
  fun_induction throughQuote? quote text generalizing through with
  | case1 => cases h
  | case2 c rest hquote =>
    obtain rfl : c = quote := by simpa using hquote
    cases h
    exact ⟨⟨rest, rfl⟩, rfl⟩
  | case3 => cases h
  | case4 c _ _ escaped rest ih =>
    obtain ⟨inner, hinner, rfl⟩ := Option.map_eq_some_iff.1 h
    exact ((ih hinner).cons escaped).cons c
  | case5 => cases h
  | case6 c rest _ _ _ ih =>
    obtain ⟨inner, hinner, rfl⟩ := Option.map_eq_some_iff.1 h
    exact (ih hinner).cons c

/-! ### Tokens -/

def startsToken (c : Char) : Bool :=
  c == '/' || c == '\x60' || c == '"' || c == '\''

theorem startsToken_of_isWordChar {c : Char} (h : isWordChar c = true) : startsToken c = false := by
  by_contra hstart
  simp only [startsToken, Bool.not_eq_false, Bool.or_eq_true, beq_iff_eq] at hstart
  obtain ((rfl | rfl) | rfl) | rfl := hstart <;> exact absurd h (by decide)

theorem token?_eq_none_of_start {c : Char} (h : startsToken c = false) (rest : Text) :
    token? (c :: rest) = none := by
  simp only [startsToken, Bool.or_eq_false_iff] at h
  obtain ⟨⟨⟨hslash, htick⟩, hdouble⟩, hsingle⟩ := h
  unfold token?
  simp only [hslash, htick, hdouble, hsingle, Bool.or_self, Bool.false_eq_true, if_false]

/-- A line comment ends with its line, or with the text. -/
theorem token?_lineComment {comment behind : Text} (hcomment : ∀ c ∈ comment, isLineBreak c = false)
    (hbehind : ∀ d, behind.head? = some d → isLineBreak d = true) :
    token? ('/' :: '/' :: (comment ++ behind)) = some ('/' :: '/' :: comment) := by
  have hline : (comment ++ behind).takeWhile (fun c => !isLineBreak c) = comment := by
    rw [List.takeWhile_append_of_pos (by simpa using hcomment)]
    cases behind with
    | nil => exact List.append_nil comment
    | cons d behind => simp [hbehind d rfl]
  simp [token?, hline]

/-- The four kinds of token: a line comment, which the end of its line or of the text ends, a
block comment, a raw string, and a string or a rune. -/
theorem token?_cases {text lexeme : Text} (h : token? text = some lexeme) :
    (∃ comment rest, lexeme = '/' :: '/' :: comment ∧ text = lexeme ++ rest ∧
      (∀ c ∈ comment, isLineBreak c = false) ∧ ∀ d, rest.head? = some d → isLineBreak d = true) ∨
    (∃ inner through, lexeme = '/' :: '*' :: through ∧ text = '/' :: '*' :: inner ∧
      throughCommentEnd? inner = some through) ∨
    (∃ inner through, lexeme = '\x60' :: through ∧ text = '\x60' :: inner ∧
      throughBacktick? inner = some through) ∨
    ∃ quote inner through, (quote = '"' ∨ quote = '\'') ∧ lexeme = quote :: through ∧
      text = quote :: inner ∧ throughQuote? quote inner = some through := by
  cases text with
  | nil => cases h
  | cons c rest =>
    unfold token? at h
    simp only at h
    split at h
    next hslash =>
      obtain rfl : c = '/' := by simpa using hslash
      cases rest with
      | nil => cases h
      | cons d rest =>
        simp only at h
        split at h
        next hline =>
          obtain rfl : d = '/' := by simpa using hline
          cases h
          refine .inl ⟨_, rest.dropWhile fun e => !isLineBreak e, rfl, by simp, ?_, ?_⟩
          · intro e he
            simpa using List.mem_takeWhile_imp he
          · intro e he
            have hstop := List.head?_dropWhile_not (fun e => !isLineBreak e) rest
            rw [he] at hstop
            simpa using hstop
        next =>
          split at h
          next hblock =>
            obtain rfl : d = '*' := by simpa using hblock
            obtain ⟨through, hthrough, rfl⟩ := Option.map_eq_some_iff.1 h
            exact .inr (.inl ⟨rest, through, rfl, rfl, hthrough⟩)
          next => cases h
    next =>
      split at h
      next htick =>
        obtain rfl : c = '\x60' := by simpa using htick
        obtain ⟨through, hthrough, rfl⟩ := Option.map_eq_some_iff.1 h
        exact .inr (.inr (.inl ⟨rest, through, rfl, rfl, hthrough⟩))
      next =>
        split at h
        next hquote =>
          obtain ⟨through, hthrough, rfl⟩ := Option.map_eq_some_iff.1 h
          exact .inr (.inr (.inr ⟨c, rest, through, by simpa using hquote, rfl, rfl, hthrough⟩))
        next => cases h

/-- A token is a line comment, which the end of its line or of the text ends, or it ends
with the character that closes it. -/
theorem token?_front {text lexeme : Text} (h : token? text = some lexeme) :
    (∃ last, isWordChar last = false ∧ FrontEndingIn last lexeme text) ∨
      ∃ comment rest, lexeme = '/' :: '/' :: comment ∧ text = lexeme ++ rest ∧
        ∀ d, rest.head? = some d → isLineBreak d = true := by
  rcases token?_cases h with ⟨comment, rest, rfl, rfl, -, hline⟩ | ⟨inner, through, rfl, rfl, hthrough⟩ |
    ⟨inner, through, rfl, rfl, hthrough⟩ | ⟨quote, inner, through, hquote, rfl, rfl, hthrough⟩
  · exact .inr ⟨comment, rest, rfl, rfl, hline⟩
  · exact .inl ⟨'/', by decide, ((throughCommentEnd?_front hthrough).cons '*').cons '/'⟩
  · exact .inl ⟨'\x60', by decide, (throughBacktick?_front hthrough).cons '\x60'⟩
  · refine .inl ⟨quote, ?_, (throughQuote?_front hthrough).cons quote⟩
    rcases hquote with rfl | rfl
    · decide
    · decide

theorem token?_isFront {text lexeme : Text} (h : token? text = some lexeme) :
    lexeme <+: text ∧ lexeme ≠ [] := by
  rcases token?_front h with ⟨last, -, hfront⟩ | ⟨comment, rest, rfl, rfl, -⟩
  · exact ⟨hfront.1, hfront.ne_nil⟩
  · exact ⟨⟨rest, rfl⟩, by simp⟩

end GoScaffold.Source
