import GoScaffold.Proofs.Source.MemberLines
import GoScaffold.Proofs.Source.Nested

/-!
# Where members end

The reader of member lines is a machine of its own, which knows tokens by other rules than
the reader of declarations: it knows no runes, it has no token that is not closed, and a
carriage return does not end its comments.  In a body where these differences do not show,
a member ends at the line feeds and semicolons outside tokens and brackets, and nowhere
else.
-/

namespace GoScaffold.Source

/-! ### Code -/

/-- The text with a space for each character of its tokens.  Tokens may go on in the text
`behind`; the first `skip` characters belong to a token. -/
def codeFrom (behind : Text) : Nat → Text → Text
  | _, [] => []
  | skip + 1, _ :: rest => ' ' :: codeFrom behind skip rest
  | 0, c :: rest =>
    match token? (c :: (rest ++ behind)) with
    | some lexeme => ' ' :: codeFrom behind (lexeme.length - 1) rest
    | none => c :: codeFrom behind 0 rest

/-- The code of a body that the text `behind` follows. -/
def code (behind body : Text) : Text :=
  codeFrom behind 0 body

theorem code_cons {behind rest : Text} {c : Char} (h : token? (c :: (rest ++ behind)) = none) :
    code behind (c :: rest) = c :: code behind rest := by
  rw [code, codeFrom, h, code]

theorem codeFrom_append (behind front rest : Text) :
    codeFrom behind front.length (front ++ rest) = List.replicate front.length ' ' ++ code behind rest := by
  induction front with
  | nil => rfl
  | cons c front ih =>
    rw [List.cons_append, List.length_cons, codeFrom, ih, List.replicate_succ, List.cons_append]

theorem code_append {behind lexeme rest : Text} (h : token? (lexeme ++ (rest ++ behind)) = some lexeme) :
    code behind (lexeme ++ rest) = List.replicate lexeme.length ' ' ++ code behind rest := by
  cases lexeme with
  | nil => exact absurd rfl (token?_isFront h).2
  | cons c lexeme =>
    rw [List.cons_append] at h
    rw [List.cons_append, code, codeFrom, List.append_assoc, h]
    dsimp only
    rw [List.length_cons, Nat.add_sub_cancel, codeFrom_append, List.replicate_succ, List.cons_append]

/-! ### The machine -/

namespace Place

/-- The place behind a text. -/
def after (place : Place) (text : Text) : Place :=
  text.foldl next place

/-- Does the character at the position end a member, when the text starts at `place`? -/
def EndsAt (place : Place) (text : Text) (position : Nat) : Prop :=
  ∃ c, text[position]? = some c ∧ Mark.memberEnd ∈ (place.after (text.take position)).marks c

theorem endsAt_zero {place : Place} {c : Char} {rest : Text} :
    place.EndsAt (c :: rest) 0 ↔ Mark.memberEnd ∈ place.marks c := by
  simp [EndsAt, after]

theorem endsAt_succ {place : Place} {c : Char} {rest : Text} {position : Nat} :
    place.EndsAt (c :: rest) (position + 1) ↔ (place.next c).EndsAt rest position :=
  Iff.rfl

/-- The machine reads the text from one place to the other and ends no member. -/
def Passes (place : Place) (text : Text) (other : Place) : Prop :=
  place.after text = other ∧ ∀ position, ¬ place.EndsAt text position

theorem Passes.nil (place : Place) : place.Passes [] place :=
  ⟨rfl, fun _ ⟨_, hnone, _⟩ => by cases hnone⟩

theorem Passes.cons {place other : Place} {c : Char} {rest : Text} (hc : Mark.memberEnd ∉ place.marks c)
    (h : (place.next c).Passes rest other) : place.Passes (c :: rest) other := by
  refine ⟨h.1, ?_⟩
  intro position
  cases position with
  | zero => rwa [endsAt_zero]
  | succ position =>
    rw [endsAt_succ]
    exact h.2 position

theorem Passes.endsAt_append {place other : Place} {front rest : Text} (h : place.Passes front other)
    {position : Nat} :
    place.EndsAt (front ++ rest) position ↔
      front.length ≤ position ∧ other.EndsAt rest (position - front.length) := by
  induction front generalizing place position with
  | nil =>
    obtain rfl : place = other := h.1
    simp
  | cons c front ih =>
    have hrest : (place.next c).Passes front other :=
      ⟨h.1, fun position => endsAt_succ.not.1 (h.2 (position + 1))⟩
    cases position with
    | zero =>
      have hc : ¬ Mark.memberEnd ∈ place.marks c := endsAt_zero.not.1 (h.2 0)
      simp [endsAt_zero, hc]
    | succ position =>
      rw [List.cons_append, endsAt_succ, ih hrest, List.length_cons, Nat.add_sub_add_right,
        Nat.add_le_add_iff_right]

end Place

/-! ### Tokens that are passed -/

theorem memberEnd_mem_marksOfCode {depth : Nat} {c : Char} :
    Mark.memberEnd ∈ marksOfCode depth c ↔ endsMember c = true ∧ depth = 0 := by
  rw [marksOfCode, endsMember]
  split
  next hc =>
    obtain rfl | rfl : c = '/' ∨ c = '\x60' := by simpa using hc
    · simp
    · simp
  next =>
    split
    next hend => simpa using hend
    next hend =>
      split
      · simpa using hend
      · simpa using hend

namespace Place

variable {depth : Nat}

theorem passes_lineComment {comment : Text} (h : ∀ c ∈ comment, isLineBreak c = false) :
    Passes ⟨.lineComment, depth⟩ comment ⟨.lineComment, depth⟩ := by
  induction comment with
  | nil => exact .nil _
  | cons c comment ih =>
    obtain ⟨hc, htail⟩ := List.forall_mem_cons.1 h
    have hne : (c == '\n') = false := by
      simp only [isLineBreak, Bool.or_eq_false_iff] at hc
      exact hc.1
    have hmarks : Mark.memberEnd ∉ marks ⟨.lineComment, depth⟩ c := by simp [marks, hne]
    have hnext : next ⟨.lineComment, depth⟩ c = ⟨.lineComment, depth⟩ := by simp [next, hne]
    apply Passes.cons hmarks
    rw [hnext]
    exact ih htail

/-- A star that has been read is not followed by the slash that would have ended the
comment before. -/
theorem passes_blockComment {star : Bool} {text through : Text} (h : throughCommentEnd? text = some through)
    (hstar : star = true → text.head? ≠ some '/') :
    Passes ⟨.blockComment star, depth⟩ through ⟨.code, depth⟩ := by
  induction text generalizing star through with
  | nil => cases h
  | cons c rest ih =>
    have hmarks : ∀ star d, Mark.memberEnd ∉ marks ⟨.blockComment star, depth⟩ d := fun _ _ hmem => by
      cases hmem
    have hgoes : (star && c == '/') = false := by
      cases star with
      | false => rfl
      | true => simpa using hstar rfl
    have hnext : next ⟨.blockComment star, depth⟩ c = ⟨.blockComment (c == '*'), depth⟩ := by
      simp [next, hgoes]
    rw [throughCommentEnd?] at h
    split at h
    next hend =>
      obtain ⟨rfl, -⟩ : c = '*' ∧ rest.head? = some '/' := by simpa using hend
      cases h
      apply Passes.cons (hmarks _ _)
      rw [hnext]
      exact .cons (hmarks _ _) (.nil _)
    next hend =>
      obtain ⟨inner, hinner, rfl⟩ := Option.map_eq_some_iff.1 h
      apply Passes.cons (hmarks _ _)
      rw [hnext]
      apply ih hinner
      intro hc hhead
      simp [hc, hhead] at hend

theorem passes_tag {text through : Text} (h : throughBacktick? text = some through) :
    Passes ⟨.tag, depth⟩ through ⟨.code, depth⟩ := by
  have hmarks : ∀ d, Mark.memberEnd ∉ marks ⟨.tag, depth⟩ d := fun _ hmem => by cases hmem
  induction text generalizing through with
  | nil => cases h
  | cons c rest ih =>
    rw [throughBacktick?] at h
    split at h
    next hend =>
      obtain rfl : c = '\x60' := by simpa using hend
      cases h
      exact .cons (hmarks _) (.nil _)
    next hend =>
      obtain ⟨inner, hinner, rfl⟩ := Option.map_eq_some_iff.1 h
      have hnext : next ⟨.tag, depth⟩ c = ⟨.tag, depth⟩ := by simp [next, hend]
      apply Passes.cons (hmarks _)
      rw [hnext]
      exact ih hinner

theorem passes_string {text through : Text} (h : throughQuote? '"' text = some through) :
    Passes ⟨.string, depth⟩ through ⟨.code, depth⟩ := by
  have hstring : ∀ d, Mark.memberEnd ∉ marks ⟨.string, depth⟩ d := by simp [marks]
  have hescape : ∀ d, Mark.memberEnd ∉ marks ⟨.escape, depth⟩ d := by simp [marks]
  fun_induction throughQuote? '"' text generalizing through with
  | case1 => cases h
  | case2 c rest hquote =>
    obtain rfl : c = '"' := by simpa using hquote
    cases h
    exact .cons (hstring _) (.nil _)
  | case3 => cases h
  | case4 c hquote hbackslash escaped rest ih =>
    obtain rfl : c = '\\' := by simpa using hbackslash
    obtain ⟨inner, hinner, rfl⟩ := Option.map_eq_some_iff.1 h
    exact .cons (hstring _) (.cons (hescape _) (ih hinner))
  | case5 => cases h
  | case6 c rest hquote hbackslash hbreak ih =>
    obtain ⟨inner, hinner, rfl⟩ := Option.map_eq_some_iff.1 h
    have hfeed : (c == '\n') = false := by
      simp only [isLineBreak, Bool.not_eq_true, Bool.or_eq_false_iff] at hbreak
      exact hbreak.1
    have hnext : next ⟨.string, depth⟩ c = ⟨.string, depth⟩ := by
      simp [next, hquote, hbackslash, hfeed]
    apply Passes.cons (hstring _)
    rw [hnext]
    exact ih hinner

/-! ### Code that is read -/

/-- At that place, what comes next is read as code at that depth: behind a slash no comment
starts, and a line comment comes to the end of its line. -/
def ReadsCode (place : Place) (depth : Nat) (text : Text) : Prop :=
  place.depth = depth ∧
    match place.mode with
    | .code => True
    | .slash => text.head? ≠ some '/' ∧ text.head? ≠ some '*'
    | .lineComment =>
      ∀ c rest, text = c :: rest → c = '\n' ∨ (c = '\r' ∧ ∀ d, rest.head? = some d → d = '\n')
    | _ => False

theorem readsCode_afterCode {c : Char} {rest : Text} (hquote : c ≠ '"') (htag : c ≠ '\x60')
    (hslash : c = '/' → rest.head? ≠ some '/' ∧ rest.head? ≠ some '*') :
    (afterCode depth c).ReadsCode (depthAfter depth c) rest := by
  by_cases hc : c = '/'
  · subst hc
    exact ⟨rfl, hslash rfl⟩
  · simp only [afterCode, beq_eq_false_iff_ne.2 hc, beq_eq_false_iff_ne.2 hquote,
      beq_eq_false_iff_ne.2 htag, Bool.false_eq_true, if_false]
    exact ⟨rfl, trivial⟩

theorem ReadsCode.next {place : Place} {c : Char} {rest : Text} (h : place.ReadsCode depth (c :: rest))
    (hquote : c ≠ '"') (htag : c ≠ '\x60')
    (hslash : c = '/' → rest.head? ≠ some '/' ∧ rest.head? ≠ some '*') :
    (Mark.memberEnd ∈ place.marks c ↔ endsMember c = true ∧ depth = 0) ∧
      (place.next c).ReadsCode (depthAfter depth c) rest := by
  obtain ⟨mode, opened⟩ := place
  obtain ⟨rfl, hmode⟩ := h
  have hafter : (afterCode opened c).ReadsCode (depthAfter opened c) rest :=
    readsCode_afterCode hquote htag hslash
  cases mode with
  | code => exact ⟨memberEnd_mem_marksOfCode, hafter⟩
  | slash =>
    obtain ⟨hnotSlash, hnotStar⟩ : c ≠ '/' ∧ c ≠ '*' := by simpa using hmode
    have hmarks : marks ⟨.slash, opened⟩ c = .char '/' :: marksOfCode opened c := by
      simp [marks, hnotSlash, hnotStar]
    have hnext : Place.next ⟨.slash, opened⟩ c = afterCode opened c := by
      simp [Place.next, hnotSlash, hnotStar]
    rw [hmarks, hnext, List.mem_cons, memberEnd_mem_marksOfCode]
    exact ⟨by simp, hafter⟩
  | lineComment =>
    rcases hmode c rest rfl with rfl | ⟨rfl, hfeed⟩
    · have hmarks : marks ⟨.lineComment, opened⟩ '\n' = marksOfCode opened '\n' := rfl
      rw [hmarks]
      exact ⟨memberEnd_mem_marksOfCode, hafter⟩
    · refine ⟨iff_of_false (fun hmem => by cases hmem) (fun hend => absurd hend.1 (by decide)), rfl, ?_⟩
      rintro d after rfl
      exact .inl (hfeed d rfl)
  | blockComment star => exact hmode.elim
  | tag => exact hmode.elim
  | string => exact hmode.elim
  | escape => exact hmode.elim

/-- At a place that reads code, a character that starts a token leaves no mark and is read as
code too. -/
theorem ReadsCode.next_of_startsToken {place : Place} {c : Char} {rest : Text}
    (h : place.ReadsCode depth (c :: rest)) (hc : startsToken c = true) :
    Mark.memberEnd ∉ place.marks c ∧ place.next c = afterCode depth c := by
  have hcode : Mark.memberEnd ∉ marksOfCode depth c := by
    rw [memberEnd_mem_marksOfCode]
    rintro ⟨hend, -⟩
    obtain rfl | rfl := eq_of_endsMember hend
    · cases hc
    · cases hc
  obtain ⟨mode, opened⟩ := place
  obtain ⟨rfl, hmode⟩ := h
  cases mode with
  | code => exact ⟨hcode, rfl⟩
  | slash =>
    obtain ⟨hnotSlash, hnotStar⟩ : c ≠ '/' ∧ c ≠ '*' := by simpa using hmode
    have hmarks : marks ⟨.slash, opened⟩ c = .char '/' :: marksOfCode opened c := by
      simp [marks, hnotSlash, hnotStar]
    rw [hmarks, List.mem_cons]
    exact ⟨by simpa using hcode, by simp [Place.next, hnotSlash, hnotStar]⟩
  | lineComment =>
    rcases hmode c rest rfl with rfl | ⟨rfl, -⟩
    · cases hc
    · cases hc
  | blockComment star => exact hmode.elim
  | tag => exact hmode.elim
  | string => exact hmode.elim
  | escape => exact hmode.elim

end Place

/-! ### Bodies that are read alike -/

/-- A text that means nothing to the machine: no bracket, no end of a member, no double
quote or backtick, and no start of a comment. -/
structure IsQuiet (text : Text) : Prop where
  not_bracket : ∀ c ∈ text, isOpening c = false ∧ isClosing c = false
  not_end : ∀ c ∈ text, endsMember c = false
  not_quote : ∀ c ∈ text, c ≠ '"' ∧ c ≠ '\x60'
  not_comment : ¬ ("//" : Text) <:+: text ∧ ¬ ("/*" : Text) <:+: text

theorem IsQuiet.tail {c : Char} {rest : Text} (h : IsQuiet (c :: rest)) : IsQuiet rest := by
  have hlater : ∀ part : Text, part <:+: rest → part <:+: c :: rest := fun part hpart =>
    List.infix_cons hpart
  exact ⟨fun d hd => h.not_bracket d (List.mem_cons_of_mem c hd),
    fun d hd => h.not_end d (List.mem_cons_of_mem c hd),
    fun d hd => h.not_quote d (List.mem_cons_of_mem c hd),
    fun hpart => h.not_comment.1 (hlater _ hpart), fun hpart => h.not_comment.2 (hlater _ hpart)⟩

/-- The machine reads a quiet text that does not end in a slash as code. -/
theorem IsQuiet.passes {text rest : Text} {place : Place} {depth : Nat} (h : IsQuiet text)
    (hlast : text.getLast? ≠ some '/') (hplace : place.ReadsCode depth (text ++ rest)) :
    ∃ other, place.Passes text other ∧ other.ReadsCode depth rest := by
  induction text generalizing place with
  | nil => exact ⟨place, .nil place, hplace⟩
  | cons c text ih =>
    have hhead : c ∈ c :: text := List.mem_cons_self
    have hslash : c = '/' → (text ++ rest).head? ≠ some '/' ∧ (text ++ rest).head? ≠ some '*' := by
      rintro rfl
      cases text with
      | nil => exact absurd rfl hlast
      | cons d text =>
        refine ⟨?_, ?_⟩
        · rintro ⟨rfl⟩
          exact h.not_comment.1 ⟨[], text, rfl⟩
        · rintro ⟨rfl⟩
          exact h.not_comment.2 ⟨[], text, rfl⟩
    obtain ⟨hmarks, hnext⟩ := hplace.next (h.not_quote c hhead).1 (h.not_quote c hhead).2 hslash
    have hquiet : Mark.memberEnd ∉ place.marks c := by
      rw [hmarks, h.not_end c hhead]
      simp
    have hlater : text.getLast? ≠ some '/' := by
      intro heq
      apply hlast
      rw [List.getLast?_cons, heq]
      rfl
    rw [depthAfter_plain (h.not_bracket c hhead).1 (h.not_bracket c hhead).2] at hnext
    obtain ⟨other, hpasses, hother⟩ := ih h.tail hlater hnext
    exact ⟨other, .cons hquiet hpasses, hother⟩

/-- A body, followed by the text `behind`, in which the two readers have the same tokens.
No double quote or backtick stands outside the tokens, and no block comment is left open;
the runes mean nothing to the machine; and a carriage return that ends a line comment is
followed by a line feed, if by anything. -/
inductive Legible (behind : Text) : Text → Prop
  | nil : Legible behind []
  | char {c : Char} {rest : Text} (hnone : token? (c :: (rest ++ behind)) = none)
      (hquote : c ≠ '"' ∧ c ≠ '\x60') (hopen : c = '/' → rest.head? ≠ some '*')
      (hrest : Legible behind rest) : Legible behind (c :: rest)
  | token {lexeme rest : Text} (htoken : token? (lexeme ++ (rest ++ behind)) = some lexeme)
      (hrune : lexeme.head? = some '\'' → IsQuiet lexeme)
      (hreturn : ("//" : Text) <+: lexeme → ∀ c after, rest = '\r' :: c :: after → c = '\n')
      (hrest : Legible behind rest) : Legible behind (lexeme ++ rest)

/-- A token of a legible body is passed. -/
theorem passes_token {lexeme rest behind : Text} {place : Place} {depth : Nat}
    (htoken : token? (lexeme ++ (rest ++ behind)) = some lexeme)
    (hrune : lexeme.head? = some '\'' → IsQuiet lexeme)
    (hreturn : ("//" : Text) <+: lexeme → ∀ c after, rest = '\r' :: c :: after → c = '\n')
    (hplace : place.ReadsCode depth (lexeme ++ rest)) :
    ∃ other, place.Passes lexeme other ∧ other.ReadsCode depth rest := by
  rcases token?_cases htoken with ⟨comment, after, rfl, htext, hcomment, hline⟩ |
    ⟨inner, through, rfl, htext, hthrough⟩ | ⟨inner, through, rfl, htext, hthrough⟩ |
    ⟨quote, inner, through, rfl | rfl, rfl, htext, hthrough⟩
  · obtain ⟨hmarks, hnext⟩ := hplace.next_of_startsToken (by decide)
    have hpasses : (place.next '/').Passes ('/' :: comment) ⟨.lineComment, depth⟩ := by
      rw [hnext]
      exact .cons (fun hmem => by cases hmem) (Place.passes_lineComment hcomment)
    refine ⟨⟨.lineComment, depth⟩, .cons hmarks hpasses, rfl, ?_⟩
    rintro c rest rfl
    have hbreak : isLineBreak c = true := by
      apply hline
      rw [← List.append_cancel_left htext]
      rfl
    rw [isLineBreak, Bool.or_eq_true, beq_iff_eq, beq_iff_eq] at hbreak
    refine hbreak.imp_right ?_
    rintro rfl
    refine ⟨rfl, ?_⟩
    intro d hd
    obtain ⟨tail, rfl⟩ := List.head?_eq_some_iff.1 hd
    exact hreturn ⟨comment, rfl⟩ d tail rfl
  · obtain ⟨hmarks, hnext⟩ := hplace.next_of_startsToken (by decide)
    have hstar : Mark.memberEnd ∉ Place.marks ⟨.slash, depth⟩ '*' := by simp [Place.marks]
    have hpasses : (place.next '/').Passes ('*' :: through) ⟨.code, depth⟩ := by
      rw [hnext]
      exact .cons hstar (Place.passes_blockComment hthrough (fun hstar => by cases hstar))
    exact ⟨⟨.code, depth⟩, .cons hmarks hpasses, rfl, trivial⟩
  · obtain ⟨hmarks, hnext⟩ := hplace.next_of_startsToken (by decide)
    refine ⟨⟨.code, depth⟩, .cons hmarks ?_, rfl, trivial⟩
    rw [hnext]
    exact Place.passes_tag hthrough
  · obtain ⟨hmarks, hnext⟩ := hplace.next_of_startsToken (by decide)
    refine ⟨⟨.code, depth⟩, .cons hmarks ?_, rfl, trivial⟩
    rw [hnext]
    exact Place.passes_string hthrough
  · apply (hrune rfl).passes _ hplace
    have hlast := ((throughQuote?_front hthrough).cons '\'').2
    rw [hlast]
    decide

/-- The ends of members, from a place that reads code: the line feeds and semicolons of the
code where no bracket is open.  The induction is along the tokens and the code between
them. -/
theorem Legible.endsAt_iff {behind body : Text} (h : Legible behind body) {place : Place} {depth : Nat}
    (hplace : place.ReadsCode depth body) (position : Nat) :
    place.EndsAt body position ↔
      ∃ c, (code behind body)[position]? = some c ∧ endsMember c = true ∧
        ((code behind body).take position).foldl depthAfter depth = 0 := by
  induction h generalizing place depth position with
  | nil =>
    refine iff_of_false ?_ ?_
    · rintro ⟨c, hc, -⟩
      cases hc
    · rintro ⟨c, hc, -⟩
      cases hc
  | @char c rest hnone hquote hopen _ ih =>
    have hslash : c = '/' → rest.head? ≠ some '/' ∧ rest.head? ≠ some '*' := by
      intro hc
      refine ⟨?_, hopen hc⟩
      intro hhead
      obtain ⟨tail, rfl⟩ := List.head?_eq_some_iff.1 hhead
      rw [hc] at hnone
      cases hnone
    obtain ⟨hmarks, hnext⟩ := hplace.next hquote.1 hquote.2 hslash
    rw [code_cons hnone]
    cases position with
    | zero =>
      rw [Place.endsAt_zero, hmarks]
      simp
    | succ position =>
      rw [Place.endsAt_succ, ih hnext]
      simp
  | @token lexeme rest htoken hrune hreturn _ ih =>
    obtain ⟨other, hpasses, hother⟩ := passes_token htoken hrune hreturn hplace
    have hspaces : ∀ n, (List.replicate n ' ').foldl depthAfter depth = depth := by
      intro n
      induction n with
      | zero => rfl
      | succ n ih => rw [List.replicate_succ, List.foldl_cons]; exact ih
    rw [hpasses.endsAt_append, code_append htoken, ih hother]
    by_cases hposition : lexeme.length ≤ position
    · have hlength : (List.replicate lexeme.length ' ').length ≤ position := by
        rwa [List.length_replicate]
      have hfront : (List.replicate lexeme.length ' ').take position = List.replicate lexeme.length ' ' :=
        List.take_of_length_le hlength
      rw [List.getElem?_append_right hlength, List.take_append, List.foldl_append, hfront, hspaces,
        List.length_replicate]
      exact and_iff_right hposition
    · refine iff_of_false (fun hends => hposition hends.1) ?_
      rintro ⟨c, hc, hend, -⟩
      rw [List.getElem?_append_left (by simpa using hposition), List.getElem?_replicate] at hc
      split at hc
      next =>
        cases hc
        cases hend
      next => cases hc

/-! ### Cutting -/

theorem membersOfMarks_append_memberEnd (front rest : List Mark) :
    membersOfMarks (front ++ .memberEnd :: rest) = membersOfMarks front ++ membersOfMarks rest := by
  induction front with
  | nil => rfl
  | cons mark front ih =>
    cases mark with
    | memberEnd => rw [List.cons_append, membersOfMarks, ih, membersOfMarks, List.cons_append]
    | char c =>
      obtain ⟨line, lines, hlines⟩ := membersOfMarks_eq_cons front
      rw [List.cons_append, membersOfMarks, ih, membersOfMarks, hlines]
      rfl

/-- What the machine writes before it comes to the end of the body. -/
def Place.written (place : Place) : Text → List Mark
  | [] => []
  | c :: rest => place.marks c ++ (place.next c).written rest

theorem marksFrom_append (place : Place) (front rest : Text) :
    marksFrom place (front ++ rest) = place.written front ++ marksFrom (place.after front) rest := by
  induction front generalizing place with
  | nil => rfl
  | cons c front ih => rw [List.cons_append, marksFrom, ih, Place.written, List.append_assoc]; rfl

/-- A character that ends a member leaves the machine as it was at the start, and writes what
the end of the body would have written. -/
theorem Place.of_memberEnd_mem_marks {place : Place} {c : Char} (h : Mark.memberEnd ∈ place.marks c) :
    place.marks c = place.pending ++ [.memberEnd] ∧ place.next c = Place.start := by
  have hcode : ∀ depth, Mark.memberEnd ∈ marksOfCode depth c →
      marksOfCode depth c = [.memberEnd] ∧ afterCode depth c = Place.start := by
    intro depth hmem
    obtain ⟨hend, rfl⟩ := memberEnd_mem_marksOfCode.1 hmem
    obtain rfl | rfl := eq_of_endsMember hend
    · exact ⟨rfl, rfl⟩
    · exact ⟨rfl, rfl⟩
  obtain ⟨mode, depth⟩ := place
  cases mode with
  | code => exact hcode depth h
  | slash =>
    by_cases hslash : c = '/'
    · simp [marks, hslash] at h
    · by_cases hstar : c = '*'
      · simp [marks, hstar] at h
      · have hmarks : marks ⟨.slash, depth⟩ c = .char '/' :: marksOfCode depth c := by
          simp [marks, hslash, hstar]
        have hnext : next ⟨.slash, depth⟩ c = afterCode depth c := by simp [next, hslash, hstar]
        rw [hmarks] at h ⊢
        obtain ⟨hend, hstart⟩ := hcode depth (by simpa using h)
        rw [hend, hnext, hstart]
        exact ⟨rfl, rfl⟩
  | lineComment =>
    by_cases hfeed : c = '\n'
    · subst hfeed
      exact hcode depth h
    · simp [marks, hfeed] at h
  | blockComment star => simp [marks] at h
  | tag => simp [marks] at h
  | string => simp [marks] at h
  | escape => simp [marks] at h

/-- A member line ends where the machine says so: the lines are those in front of the place
and those behind it. -/
theorem memberLines_of_endsAt {body : Text} {position : Nat} (h : Place.start.EndsAt body position) :
    memberLines body = memberLines (body.take position) ++ memberLines (body.drop (position + 1)) := by
  obtain ⟨c, hc, hmarks⟩ := h
  obtain ⟨hwrites, hnext⟩ := Place.of_memberEnd_mem_marks hmarks
  have hbody : body = body.take position ++ c :: body.drop (position + 1) := by
    obtain ⟨hposition, rfl⟩ := List.getElem?_eq_some_iff.1 hc
    rw [← List.drop_eq_getElem_cons, List.take_append_drop]
  have hfront : marksFrom Place.start (body.take position) =
      Place.start.written (body.take position) ++ (Place.start.after (body.take position)).pending := by
    have happend := marksFrom_append Place.start (body.take position) []
    rwa [List.append_nil] at happend
  have hwhole : marksFrom Place.start body = marksFrom Place.start (body.take position) ++
      .memberEnd :: marksFrom Place.start (body.drop (position + 1)) := by
    conv_lhs => rw [hbody]
    rw [marksFrom_append, marksFrom, hwrites, hnext, hfront]
    simp
  rw [memberLines_eq, hwhole, linesOfMarks, membersOfMarks_append_memberEnd, List.map_append,
    List.filter_append]
  rfl

/-! ### The two readers -/

/-- In a legible body a member line ends at exactly those line feeds and semicolons of the
code where no bracket of the code is open.  When these brackets are properly nested, those
are the ones outside all tokens and all pairs of brackets. -/
theorem Legible.memberEnds {behind body : Text} (h : Legible behind body) :
    (∀ position, Place.start.EndsAt body position ↔
      ∃ c, (code behind body)[position]? = some c ∧ endsMember c = true ∧
        ((code behind body).take position).foldl depthAfter 0 = 0) ∧
    (Nested (fun _ => false) [] (code behind body) → ∀ position, Place.start.EndsAt body position ↔
      ∃ c, (code behind body)[position]? = some c ∧ endsMember c = true ∧
        ¬ InsidePair (code behind body) position) ∧
    ∀ position, Place.start.EndsAt body position →
      memberLines body = memberLines (body.take position) ++ memberLines (body.drop (position + 1)) := by
  have hplace : Place.start.ReadsCode 0 body := ⟨rfl, trivial⟩
  have hends := h.endsAt_iff hplace
  refine ⟨hends, ?_, fun position => memberLines_of_endsAt⟩
  intro hnested position
  rw [hends]
  apply exists_congr
  intro c
  apply and_congr_right
  intro hc
  apply and_congr_right
  intro hend
  have hplain : isOpening c = false ∧ isClosing c = false := by
    obtain rfl | rfl := eq_of_endsMember hend
    · decide
    · decide
  rw [hnested.insidePair_iff hc hplain, not_not]

theorem Legible.plain_append {behind front rest : Text} (hfront : ∀ c ∈ front, startsToken c = false)
    (hrest : Legible behind rest) : Legible behind (front ++ rest) := by
  induction front with
  | nil => exact hrest
  | cons c front ih =>
    obtain ⟨hc, htail⟩ := List.forall_mem_cons.1 hfront
    have hstart := hc
    simp only [startsToken, Bool.or_eq_false_iff, beq_eq_false_iff_ne] at hstart
    obtain ⟨⟨⟨hslash, htag⟩, hquote⟩, -⟩ := hstart
    exact .char (token?_eq_none_of_start hc _) ⟨hquote, htag⟩ (fun heq => absurd heq hslash) (ih htail)

/-- The semicolon in the comment ends no member, the line feed behind it does. -/
theorem Legible.memberEnds_comment :
    let body : Text := "a ['x']int // x;\n\tb [2]int\n"
    Legible ['}'] body ∧ ¬ Place.start.EndsAt body 15 ∧ Place.start.EndsAt body 16 := by
  let first : Text := "a ["
  let comment : Text := "// x;"
  let rune : Text := "'x'"
  let element : Text := "]int "
  let last : Text := "\n\tb [2]int\n"
  have hrest : Legible ['}'] (last ++ []) := .plain_append (by decide) .nil
  have hcomment : Legible ['}'] (comment ++ (last ++ [])) :=
    .token (by decide) (fun hhead => by cases hhead) (fun _ c after hreturn => by cases hreturn) hrest
  have hrune : Legible ['}'] (rune ++ (element ++ (comment ++ (last ++ [])))) :=
    .token (by decide) (fun _ => ⟨by decide, by decide, by decide, by decide⟩)
      (fun hslash => absurd hslash (by decide)) (.plain_append (by decide) hcomment)
  have hlegible : Legible ['}'] (first ++ (rune ++ (element ++ (comment ++ (last ++ []))))) :=
    .plain_append (by decide) hrune
  obtain ⟨hends, -, -⟩ := Legible.memberEnds hlegible
  refine ⟨hlegible, fun hend => ?_, (hends 16).2 ⟨'\n', by decide +kernel, by decide, by decide +kernel⟩⟩
  obtain ⟨c, hc, hend, -⟩ := (hends 15).1 hend
  have hspace : (code ['}'] "a ['x']int // x;\n\tb [2]int\n")[15]? = some ' ' := by decide +kernel
  obtain rfl : ' ' = c := Option.some.inj (hspace.symm.trans hc)
  cases hend

/-- The reader of member lines does not know that this brace is a rune, so the line feed
behind it ends no member. -/
theorem rune_hides_memberEnd :
    let body : Text := "\n\ta ['\x7b']int\n\tb int\n"
    body? 0 (body ++ ['}']) = some body ∧ (code ['}'] body)[12]? = some '\n' ∧
      ¬ InsidePair (code ['}'] body) 12 ∧ ¬ Place.start.EndsAt body 12 ∧
      memberLines body = ["a ['\x7b']int b int"] := by
  have hbracketed : Bracketed 1 (fun _ => false) [] (code ['}'] "\n\ta ['\x7b']int\n\tb int\n") := by
    decide +kernel
  have hfeed : (code ['}'] "\n\ta ['\x7b']int\n\tb int\n")[12]? = some '\n' := by decide +kernel
  have hcount : ((code ['}'] "\n\ta ['\x7b']int\n\tb int\n").take 12).foldl depthAfter 0 = 0 := by
    decide +kernel
  refine ⟨by decide +kernel, hfeed, ?_, ?_, by decide +kernel⟩
  · rw [hbracketed.nested.insidePair_iff hfeed (by decide), not_not]
    exact hcount
  · rintro ⟨c, hc, hmem⟩
    obtain rfl : '\n' = c := Option.some.inj hc
    have hquiet : Mark.memberEnd ∉
        (Place.start.after (("\n\ta ['\x7b']int\n\tb int\n" : Text).take 12)).marks '\n' := by decide +kernel
    exact hquiet hmem

end GoScaffold.Source
