import GoScaffold.Proofs.Source.MemberEnds

/-!
# What member lines leave out

A line feed outside brackets and literals cuts a body in two that are read each on its own.
In code a block comment counts as one space, and a tag counts as nothing; so does a line
comment that comes to the end of its line.  None of this depends on what is written in them,
nor on what follows, which may open what it never closes.
-/

namespace GoScaffold.Source

/-! ### What the machine writes -/

namespace Place

variable {place other : Place} {depth : Nat} {front rest text : Text} {marks : List Mark} {c : Char}

/-- The machine reads the text from one place to the other and writes the marks. -/
structure Writes (place : Place) (text : Text) (marks : List Mark) (other : Place) : Prop where
  written_eq : place.written text = marks
  after_eq : place.after text = other

theorem Writes.nil (place : Place) : place.Writes [] [] place :=
  ⟨rfl, rfl⟩

theorem Writes.cons (h : (place.next c).Writes rest marks other) :
    place.Writes (c :: rest) (place.marks c ++ marks) other :=
  ⟨congrArg (place.marks c ++ ·) h.written_eq, h.after_eq⟩

/-- A character that leaves no mark. -/
theorem Writes.skip {next : Place} (hmarks : place.marks c = []) (hnext : place.next c = next)
    (h : next.Writes rest marks other) : place.Writes (c :: rest) marks other := by
  subst hnext
  have hcons := h.cons
  rwa [hmarks, List.nil_append] at hcons

theorem Writes.marksFrom_append (h : place.Writes text marks other) (rest : Text) :
    marksFrom place (text ++ rest) = marks ++ marksFrom other rest := by
  rw [Source.marksFrom_append, h.written_eq, h.after_eq]

/-! ### Comments and tags -/

theorem writes_lineComment (h : '\n' ∉ text) :
    Writes ⟨.lineComment, depth⟩ text [] ⟨.lineComment, depth⟩ := by
  induction text with
  | nil => exact .nil _
  | cons c text ih =>
    rw [List.mem_cons, not_or] at h
    have hfeed : (c == '\n') = false := beq_eq_false_iff_ne.2 fun heq => h.1 heq.symm
    exact .skip (by simp [marks, hfeed]) (by simp [next, hfeed]) (ih h.2)

theorem writes_tag (h : '\x60' ∉ text) : Writes ⟨.tag, depth⟩ (text ++ ['\x60']) [] ⟨.code, depth⟩ := by
  induction text with
  | nil => exact .skip rfl rfl (.nil _)
  | cons c text ih =>
    rw [List.mem_cons, not_or] at h
    have htag : (c == '\x60') = false := beq_eq_false_iff_ne.2 fun heq => h.1 heq.symm
    exact .skip rfl (by simp [next, htag]) (ih h.2)

/-- A block comment is read through its first `*/`; a star that has been read counts for it. -/
theorem writes_blockComment {star : Bool} (h : ¬ ("*/" : Text) <:+: text)
    (hstar : star = true → text.head? ≠ some '/') :
    Writes ⟨.blockComment star, depth⟩ (text ++ "*/") [] ⟨.code, depth⟩ := by
  have hgoes : ∀ {star c}, (star = true → c ≠ '/') →
      next ⟨.blockComment star, depth⟩ c = ⟨.blockComment (c == '*'), depth⟩ := by
    intro star c hc
    cases star with
    | false => rfl
    | true => simp [next, hc rfl]
  induction text generalizing star with
  | nil => exact .skip rfl (hgoes fun _ => by decide) (.skip rfl rfl (.nil _))
  | cons c text ih =>
    have hc : star = true → c ≠ '/' := by
      rintro hstarred rfl
      exact hstar hstarred rfl
    refine .skip rfl (hgoes hc) (ih (fun hinside => h (List.infix_cons hinside)) ?_)
    intro hstarred hslash
    obtain ⟨after, rfl⟩ := List.head?_eq_some_iff.1 hslash
    rw [beq_iff_eq] at hstarred
    exact h ⟨[], after, by rw [hstarred]; rfl⟩

theorem writes_comment_of_code (h : ¬ ("*/" : Text) <:+: text) :
    Writes ⟨.code, depth⟩ ("/*" ++ (text ++ "*/")) [.char ' '] ⟨.code, depth⟩ :=
  .skip rfl rfl (.cons (writes_blockComment h fun hstar => by cases hstar))

theorem writes_tag_of_code (h : '\x60' ∉ text) :
    Writes ⟨.code, depth⟩ ('\x60' :: (text ++ ['\x60'])) [] ⟨.code, depth⟩ :=
  .skip rfl rfl (writes_tag h)

theorem writes_lineComment_of_code (h : '\n' ∉ text) :
    Writes ⟨.code, depth⟩ ("//" ++ text) [] ⟨.lineComment, depth⟩ :=
  .skip rfl rfl (.skip rfl rfl (writes_lineComment h))

end Place

/-! ### Outside -/

/-- Outside strings, tags and comments. -/
def Mode.isOutside : Mode → Bool
  | .code => true
  | .slash => true
  | _ => false

/-- Outside strings, tags and block comments; a line feed ends a line comment. -/
def Mode.readsLineFeed : Mode → Bool
  | .code => true
  | .slash => true
  | .lineComment => true
  | _ => false

namespace Place

variable {place : Place} {front : Text} {c : Char}

theorem eq_slash_of_mode_afterCode {depth : Nat} (h : (afterCode depth c).mode = .slash) : c = '/' := by
  by_contra hslash
  rw [afterCode, if_neg (by simpa using hslash)] at h
  split at h
  · cases h
  · split at h <;> cases h

theorem eq_slash_of_mode_next (h : (place.next c).mode = .slash) : c = '/' := by
  obtain ⟨mode, depth⟩ := place
  cases mode with
  | code => exact eq_slash_of_mode_afterCode h
  | slash =>
    simp only [next] at h
    split at h
    · cases h
    · split at h
      · cases h
      · exact eq_slash_of_mode_afterCode h
  | lineComment =>
    simp only [next] at h
    split at h
    · exact eq_slash_of_mode_afterCode h
    · cases h
  | blockComment star =>
    simp only [next] at h
    split at h <;> cases h
  | tag =>
    simp only [next] at h
    split at h <;> cases h
  | string =>
    simp only [next] at h
    split at h
    · cases h
    · split at h <;> cases h
  | escape => cases h

/-- The machine waits for what follows a slash only behind one. -/
theorem mode_eq_code (hmode : (Place.start.after front).mode.isOutside = true)
    (hlast : front.getLast? ≠ some '/') : (Place.start.after front).mode = .code := by
  have hslash : (Place.start.after front).mode ≠ .slash := by
    intro hslash
    rcases List.eq_nil_or_concat front with rfl | ⟨before, c, rfl⟩
    · cases hslash
    · rw [List.concat_eq_append] at hslash hlast
      rw [after, List.foldl_append] at hslash
      rw [eq_slash_of_mode_next hslash, List.getLast?_concat] at hlast
      exact hlast rfl
  cases hcase : (Place.start.after front).mode with
  | code => rfl
  | slash => exact absurd hcase hslash
  | _ =>
    rw [hcase] at hmode
    cases hmode

theorem memberEnd_mem_marks_lineFeed (hmode : place.mode.readsLineFeed = true) (hdepth : place.depth = 0) :
    Mark.memberEnd ∈ place.marks '\n' := by
  obtain ⟨mode, depth⟩ := place
  obtain rfl : depth = 0 := hdepth
  cases mode with
  | code => decide
  | slash => decide
  | lineComment => decide
  | _ => cases hmode

end Place

/-! ### Lines -/

theorem memberLines_append_congr {front one other : Text}
    (h : marksFrom (Place.start.after front) one = marksFrom (Place.start.after front) other) :
    memberLines (front ++ one) = memberLines (front ++ other) := by
  rw [memberLines_eq, memberLines_eq, marksFrom_append, marksFrom_append, h]

/-- Behind a text that ends outside brackets, strings, tags and block comments, a line feed
cuts: what follows gives the lines that it gives on its own.  Behind a text that ends outside
strings, tags and comments and not with a slash, a block comment gives what a space gives,
and a tag, or a line comment that ends with its line or with the body, what nothing gives.
No line is empty or has blanks that could be collapsed. -/
theorem memberLines_independent (front rest : Text) :
    ((Place.start.after front).mode.readsLineFeed = true → (Place.start.after front).depth = 0 →
      memberLines (front ++ '\n' :: rest) = memberLines front ++ memberLines rest) ∧
    ((Place.start.after front).mode.isOutside = true → front.getLast? ≠ some '/' →
      (∀ comment, ¬ ("*/" : Text) <:+: comment →
        memberLines (front ++ (("/*" ++ (comment ++ "*/")) ++ rest)) = memberLines (front ++ (' ' :: rest))) ∧
      (∀ tag, '\x60' ∉ tag →
        memberLines (front ++ ('\x60' :: (tag ++ ['\x60']) ++ rest)) = memberLines (front ++ rest)) ∧
      (∀ comment, '\n' ∉ comment → (rest = [] ∨ rest.head? = some '\n') →
        memberLines (front ++ (("//" ++ comment) ++ rest)) = memberLines (front ++ rest))) ∧
    ∀ line ∈ memberLines front, line ≠ [] ∧ Text.IsCollapsed line := by
  refine ⟨?_, ?_, ?_⟩
  · intro hmode hdepth
    have hend : Place.start.EndsAt (front ++ '\n' :: rest) front.length := by
      refine ⟨'\n', by simp, ?_⟩
      rw [List.take_left]
      exact Place.memberEnd_mem_marks_lineFeed hmode hdepth
    have hcut := memberLines_of_endsAt hend
    rwa [List.take_left, List.drop_append, List.drop_of_length_le (Nat.le_succ _), List.nil_append,
      Nat.add_sub_cancel_left, List.drop_one, List.tail_cons] at hcut
  · intro hmode hlast
    obtain ⟨depth, hplace⟩ : ∃ depth, Place.start.after front = ⟨.code, depth⟩ := by
      refine ⟨(Place.start.after front).depth, ?_⟩
      rw [← Place.mode_eq_code hmode hlast]
    refine ⟨?_, ?_, ?_⟩
    · intro comment hcomment
      apply memberLines_append_congr
      rw [hplace, (Place.writes_comment_of_code hcomment).marksFrom_append]
      rfl
    · intro tag htag
      apply memberLines_append_congr
      rw [hplace, (Place.writes_tag_of_code htag).marksFrom_append]
      rfl
    · intro comment hcomment hrest
      apply memberLines_append_congr
      rw [hplace, (Place.writes_lineComment_of_code hcomment).marksFrom_append]
      rcases hrest with rfl | hfeed
      · rfl
      · obtain ⟨behind, rfl⟩ := List.head?_eq_some_iff.1 hfeed
        rfl
  · intro line hline
    have hne := (List.mem_filter.1 hline).2
    exact ⟨by simpa using hne, isCollapsed_of_mem_memberLines hline⟩

/-- The string that is opened behind the line feed takes nothing from the line in front. -/
example : memberLines "a /* ; */ int \x60json\x60 // key\nb \"x" = ["a int", "b \"x"] := by decide +kernel

end GoScaffold.Source
