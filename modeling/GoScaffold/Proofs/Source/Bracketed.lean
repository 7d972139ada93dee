import GoScaffold.Proofs.Source.BraceCount
import GoScaffold.Proofs.Source.NestingLimit
import GoScaffold.Proofs.Text.Pieces
import GoScaffold.Source.MemberLine

/-!
# Bracketed texts

Four readers count brackets in a source text, each in its own way: the nesting limit
and the reader of bodies count braces, the readers of member lines and of pieces count
brackets of every kind together.  In a text without comments and literals whose
brackets close in the order in which they opened, all of them see the same nesting:
each has its count back at the end, and has taken nothing inside a bracket for an end
of what it reads.
-/

namespace GoScaffold.Source

def closer? (c : Char) : Option Char :=
  if c == '(' then some ')' else if c == '[' then some ']' else if c == '{' then some '}' else none

/-- A text without tokens that closes the brackets which wait for `opened`, the innermost
first, and all that it opens itself.  No more than `limit` braces are open at a time,
and outside all brackets no character is `barred`. -/
inductive Bracketed (limit : Nat) (barred : Char → Bool) : List Char → Text → Prop
  | nil : Bracketed limit barred [] []
  | opening {c closer : Char} {opened : List Char} {rest : Text} (hcloser : closer? c = some closer)
      (hlimit : c = '{' → opened.count '}' < limit)
      (hrest : Bracketed limit barred (closer :: opened) rest) : Bracketed limit barred opened (c :: rest)
  | closing {c : Char} {opened : List Char} {rest : Text} (hclosing : isClosing c = true)
      (hrest : Bracketed limit barred opened rest) : Bracketed limit barred (c :: opened) (c :: rest)
  | plain {c : Char} {opened : List Char} {rest : Text} (hopening : isOpening c = false)
      (hclosing : isClosing c = false) (htoken : startsToken c = false)
      (hbarred : opened = [] → barred c = false) (hrest : Bracketed limit barred opened rest) :
      Bracketed limit barred opened (c :: rest)

def isBracketed (limit : Nat) (barred : Char → Bool) (opened : List Char) : Text → Bool
  | [] => opened.isEmpty
  | c :: rest =>
    match closer? c with
    | some closer =>
      (c != '{' || decide (opened.count '}' < limit)) && isBracketed limit barred (closer :: opened) rest
    | none =>
      if isClosing c then opened.head? == some c && isBracketed limit barred opened.tail rest
      else
        !startsToken c && !(opened.isEmpty && barred c) && isBracketed limit barred opened rest

/-! ### Brackets -/

theorem closer?_eq_some {c closer : Char} (h : closer? c = some closer) :
    (c = '(' ∧ closer = ')') ∨ (c = '[' ∧ closer = ']') ∨ (c = '{' ∧ closer = '}') := by
  simp only [closer?] at h
  split at h
  next hround => exact .inl ⟨by simpa using hround, (Option.some.inj h).symm⟩
  next =>
    split at h
    next hsquare => exact .inr (.inl ⟨by simpa using hsquare, (Option.some.inj h).symm⟩)
    next =>
      split at h
      next hbrace => exact .inr (.inr ⟨by simpa using hbrace, (Option.some.inj h).symm⟩)
      next => cases h

theorem closer?_eq_none_iff {c : Char} : closer? c = none ↔ isOpening c = false := by
  simp only [closer?, isOpening]
  grind

theorem eq_of_isClosing {c : Char} (h : isClosing c = true) : c = ')' ∨ c = ']' ∨ c = '}' := by
  simpa only [isClosing, Bool.or_eq_true, beq_iff_eq, or_assoc] using h

theorem closer?_eq_none_of_isClosing {c : Char} (h : isClosing c = true) : closer? c = none := by
  rcases eq_of_isClosing h with rfl | rfl | rfl <;> rfl

/-! ### The check -/

variable {limit : Nat} {barred : Char → Bool} {opened : List Char} {front rest text : Text}

theorem isBracketed_iff : isBracketed limit barred opened text = true ↔ Bracketed limit barred opened text := by
  constructor
  · intro h
    induction text generalizing opened with
    | nil =>
      rw [isBracketed, List.isEmpty_iff] at h
      subst h
      exact .nil
    | cons c rest ih =>
      rw [isBracketed] at h
      cases hcloser : closer? c with
      | some closer =>
        simp only [hcloser, Bool.and_eq_true, Bool.or_eq_true, bne_iff_ne, decide_eq_true_eq] at h
        apply Bracketed.opening hcloser _ (ih h.2)
        intro hbrace
        exact h.1.resolve_left fun hne => hne hbrace
      | none =>
        simp only [hcloser] at h
        split at h
        next hclosing =>
          rw [Bool.and_eq_true, beq_iff_eq, List.head?_eq_some_iff] at h
          obtain ⟨⟨outer, rfl⟩, hrest⟩ := h
          exact .closing hclosing (ih hrest)
        next hclosing =>
          simp only [Bool.and_eq_true, Bool.not_eq_true', Bool.and_eq_false_iff,
            List.isEmpty_eq_false_iff] at h
          obtain ⟨⟨htoken, hbarred⟩, hrest⟩ := h
          apply Bracketed.plain (closer?_eq_none_iff.1 hcloser) (by simpa using hclosing) htoken _ (ih hrest)
          intro hopened
          exact hbarred.resolve_left fun hne => hne hopened
  · intro h
    induction h with
    | nil => rfl
    | opening hcloser hlimit _ ih =>
      simp only [isBracketed, hcloser, ih, Bool.and_true, Bool.or_eq_true, bne_iff_ne,
        decide_eq_true_eq]
      exact Classical.or_iff_not_imp_left.2 fun hbrace => hlimit (not_not.1 hbrace)
    | closing hclosing _ ih =>
      simp [isBracketed, closer?_eq_none_of_isClosing hclosing, hclosing, ih]
    | @plain c opened rest hopening hclosing htoken hbarred _ ih =>
      have hnot : (opened.isEmpty && barred c) = false := by
        cases opened with
        | nil => simp [hbarred rfl]
        | cons closer opened => rfl
      simp [isBracketed, closer?_eq_none_iff.2 hopening, hclosing, htoken, hnot, ih]

instance : Decidable (Bracketed limit barred opened text) :=
  decidable_of_iff _ isBracketed_iff

/-! ### Building bracketed texts -/

theorem Bracketed.append (hfront : Bracketed limit barred opened front)
    (hrest : Bracketed limit barred [] rest) : Bracketed limit barred opened (front ++ rest) := by
  induction hfront with
  | nil => exact hrest
  | opening hcloser hlimit _ ih => exact .opening hcloser hlimit ih
  | closing hclosing _ ih => exact .closing hclosing ih
  | plain hopening hclosing htoken hbarred _ ih => exact .plain hopening hclosing htoken hbarred ih

theorem Bracketed.flatMap {α : Type} {listed : List α} {text : α → Text}
    (h : ∀ a ∈ listed, Bracketed limit barred [] (text a)) : Bracketed limit barred [] (listed.flatMap text) := by
  induction listed with
  | nil => exact .nil
  | cons a listed ih =>
    obtain ⟨hfirst, hothers⟩ := List.forall_mem_cons.1 h
    rw [List.flatMap_cons]
    exact hfirst.append (ih hothers)

/-- Inside parentheses nothing is barred. -/
theorem Bracketed.parenthesized {other : Char → Bool} (h : Bracketed limit barred [] text) :
    Bracketed limit other [] ('(' :: (text ++ [')'])) := by
  have hinside : ∀ {opened text}, Bracketed limit barred opened text →
      Bracketed limit other (opened ++ [')']) (text ++ [')']) := by
    intro opened text h
    induction h with
    | nil => exact .closing rfl .nil
    | opening hcloser hlimit _ ih => exact .opening hcloser (by simpa using hlimit) ih
    | closing hclosing _ ih => exact .closing hclosing ih
    | plain hopening hclosing htoken _ _ ih => exact .plain hopening hclosing htoken (by simp) ih
  exact .opening rfl (fun hbrace => absurd hbrace (by decide)) (hinside h)

theorem Bracketed.mono {other : Nat} (hle : limit ≤ other) (h : Bracketed limit barred opened text) :
    Bracketed other barred opened text := by
  induction h with
  | nil => exact .nil
  | opening hcloser hlimit _ ih =>
    exact .opening hcloser (fun hbrace => Nat.lt_of_lt_of_le (hlimit hbrace) hle) ih
  | closing hclosing _ ih => exact .closing hclosing ih
  | plain hopening hclosing htoken hbarred _ ih => exact .plain hopening hclosing htoken hbarred ih

/-- What is not in the text may be barred. -/
theorem Bracketed.of_barred {other : Char → Bool} (h : Bracketed limit barred opened text)
    (hother : ∀ c ∈ text, other c = true → barred c = true) : Bracketed limit other opened text := by
  induction h with
  | nil => exact .nil
  | opening hcloser hlimit _ ih =>
    obtain ⟨-, htail⟩ := List.forall_mem_cons.1 hother
    exact .opening hcloser hlimit (ih htail)
  | closing hclosing _ ih =>
    obtain ⟨-, htail⟩ := List.forall_mem_cons.1 hother
    exact .closing hclosing (ih htail)
  | plain hopening hclosing htoken hbarred _ ih =>
    obtain ⟨hhead, htail⟩ := List.forall_mem_cons.1 hother
    apply Bracketed.plain hopening hclosing htoken _ (ih htail)
    intro hopened
    by_contra hbar
    rw [hhead (by simpa using hbar)] at hbarred
    cases hbarred hopened

/-- A character that means nothing to a reader which knows brackets, tokens, commas and
the ends of members. -/
def isPlain (c : Char) : Bool :=
  !isOpening c && !isClosing c && !startsToken c && c != ',' && c != ';' && c != '\n'

theorem Bracketed.of_plain (htext : ∀ c ∈ text, isPlain c = true)
    (hbarred : ∀ c, isPlain c = true → barred c = false) : Bracketed limit barred [] text := by
  induction text with
  | nil => exact .nil
  | cons c rest ih =>
    obtain ⟨hc, htail⟩ := List.forall_mem_cons.1 htext
    have hparts := hc
    simp only [isPlain, Bool.and_eq_true, Bool.not_eq_true'] at hparts
    obtain ⟨⟨⟨⟨⟨hopening, hclosing⟩, htoken⟩, -⟩, -⟩, -⟩ := hparts
    apply Bracketed.plain hopening hclosing htoken _ (ih htail)
    intro _
    exact hbarred c hc

/-! ### The nesting limit -/

/-- Braces nest within `limit` from `depth` on, and the count is `depth` again behind the
text. -/
def KeepsDepth (limit depth : Nat) (text : Text) : Prop :=
  nestsWithin limit depth text = true ∧ braceDepth depth text = depth

theorem KeepsDepth.append {depth : Nat} (hfront : KeepsDepth limit depth front)
    (hrest : KeepsDepth limit depth rest) : KeepsDepth limit depth (front ++ rest) := by
  constructor
  · rw [nestsWithin_append, hfront.1, hfront.2, hrest.1]
    rfl
  · rw [braceDepth_append, hfront.2, hrest.2]

theorem KeepsDepth.flatMap {α : Type} {depth : Nat} {listed : List α} {text : α → Text}
    (h : ∀ a ∈ listed, KeepsDepth limit depth (text a)) : KeepsDepth limit depth (listed.flatMap text) := by
  induction listed with
  | nil => exact ⟨rfl, rfl⟩
  | cons a listed ih =>
    obtain ⟨hfirst, hothers⟩ := List.forall_mem_cons.1 h
    rw [List.flatMap_cons]
    exact hfirst.append (ih hothers)

/-- Only braces matter. -/
theorem keepsDepth_filter_iff {depth : Nat} :
    KeepsDepth limit depth (text.filter isBrace) ↔ KeepsDepth limit depth text := by
  have hcount : ∀ depth, braceDepth depth (text.filter isBrace) = braceDepth depth text := by
    induction text with
    | nil => exact fun _ => rfl
    | cons c rest ih =>
      intro depth
      by_cases hbrace : isBrace c = true
      · rw [List.filter_cons_of_pos hbrace]
        exact ih (bracesAfter depth c)
      · rw [List.filter_cons_of_neg hbrace, ih, braceDepth, braceDepth, List.foldl_cons,
          bracesAfter_of_not_brace (by simpa using hbrace)]
  rw [KeepsDepth, nestsWithin_filter_isBrace, hcount, KeepsDepth]

theorem KeepsDepth.of_no_brace (limit depth : Nat) (h : ∀ c ∈ text, isBrace c = false) :
    KeepsDepth limit depth text := by
  rw [← keepsDepth_filter_iff, List.filter_eq_nil_iff.2 (by simpa using h)]
  exact ⟨rfl, rfl⟩

theorem KeepsDepth.block {depth : Nat} (hdepth : depth < limit)
    (h : KeepsDepth limit (depth + 1) text) : KeepsDepth limit depth ('{' :: text ++ ['}']) := by
  constructor
  · rw [List.cons_append, nestsWithin, nestsWithin_append]
    rw [bracesAfter_leftBrace, h.1, h.2]
    simp [nestsWithin, hdepth]
  · have hnext : braceDepth depth ('{' :: text ++ ['}']) = bracesAfter (braceDepth (depth + 1) text) '}' :=
      braceDepth_append depth ('{' :: text) ['}']
    rw [hnext, h.2]
    rfl

theorem bracesAfter_opening {c closer : Char} (h : closer? c = some closer) (opened : List Char)
    (depth : Nat) :
    bracesAfter (opened.count '}' + depth) c = (closer :: opened).count '}' + depth := by
  rcases closer?_eq_some h with ⟨rfl, rfl⟩ | ⟨rfl, rfl⟩ | ⟨rfl, rfl⟩
  · simp [bracesAfter]
  · simp [bracesAfter]
  · simp [bracesAfter, Nat.add_right_comm]

theorem bracesAfter_closing {c : Char} (h : isClosing c = true) (opened : List Char) (depth : Nat) :
    bracesAfter ((c :: opened).count '}' + depth) c = opened.count '}' + depth := by
  rcases eq_of_isClosing h with rfl | rfl | rfl
  · simp [bracesAfter]
  · simp [bracesAfter]
  · simp [bracesAfter, Nat.add_right_comm]

theorem isBrace_of_plain {c : Char} (hopening : isOpening c = false) (hclosing : isClosing c = false) :
    isBrace c = false := by
  simp only [isOpening, isClosing, Bool.or_eq_false_iff] at hopening hclosing
  simp only [isBrace, hopening.2, hclosing.2, Bool.or_self]

/-- The nesting limit sees the braces that are open, on top of those around the text. -/
theorem Bracketed.nestsWithin_braceDepth (h : Bracketed limit barred opened text) (depth : Nat) :
    nestsWithin (limit + depth) (opened.count '}' + depth) text = true ∧
      braceDepth (opened.count '}' + depth) text = depth := by
  induction h with
  | nil => exact ⟨rfl, by simp [braceDepth]⟩
  | @opening c closer opened rest hcloser hlimit _ ih =>
    rw [nestsWithin, braceDepth, List.foldl_cons, bracesAfter_opening hcloser]
    refine ⟨?_, ih.2⟩
    rw [ih.1, Bool.and_true, Bool.or_eq_true, bne_iff_ne, decide_eq_true_eq]
    by_cases hbrace : c = '{'
    · have hroom := hlimit hbrace
      exact .inr (by omega)
    · exact .inl hbrace
  | closing hclosing _ ih =>
    rw [nestsWithin, braceDepth, List.foldl_cons, bracesAfter_closing hclosing]
    refine ⟨?_, ih.2⟩
    rw [ih.1]
    rcases eq_of_isClosing hclosing with rfl | rfl | rfl <;> rfl
  | plain hopening hclosing _ _ _ ih =>
    have hbrace := isBrace_of_plain hopening hclosing
    rw [nestsWithin, braceDepth, List.foldl_cons, bracesAfter_of_not_brace hbrace]
    refine ⟨?_, ih.2⟩
    simp only [isBrace, Bool.or_eq_false_iff, beq_eq_false_iff_ne] at hbrace
    simp [ih.1, hbrace.1]

theorem Bracketed.keepsDepth (h : Bracketed limit barred [] text) (depth : Nat) :
    KeepsDepth (limit + depth) depth text := by
  simpa [KeepsDepth] using h.nestsWithin_braceDepth depth

/-! ### Bodies -/

theorem Bracketed.closingBrace?_append {depth : Nat} (hdepth : 1 ≤ depth)
    (h : Bracketed limit barred opened text) (rest : Text) :
    closingBrace? (opened.count '}' + depth) 0 (text ++ rest) =
      (closingBrace? depth 0 rest).map (· + text.length) := by
  induction h with
  | nil => simp
  | @opening c closer opened text hcloser _ _ ih =>
    have hstep : closingBrace? (opened.count '}' + depth) 0 (c :: (text ++ rest)) =
        (closingBrace? ((closer :: opened).count '}' + depth) 0 (text ++ rest)).map (· + 1) := by
      rw [← bracesAfter_opening hcloser, closingBrace?]
      rcases closer?_eq_some hcloser with ⟨rfl, rfl⟩ | ⟨rfl, rfl⟩ | ⟨rfl, rfl⟩ <;>
        simp [token?_eq_none_of_start, startsToken, bracesAfter]
    rw [List.cons_append, hstep, ih, Option.map_map]
    rfl
  | @closing c opened text hclosing _ ih =>
    have hstep : closingBrace? ((c :: opened).count '}' + depth) 0 (c :: (text ++ rest)) =
        (closingBrace? (opened.count '}' + depth) 0 (text ++ rest)).map (· + 1) := by
      rw [← bracesAfter_closing hclosing, closingBrace?]
      have hopen : ¬ opened.count '}' + 1 + depth ≤ 1 := by omega
      rcases eq_of_isClosing hclosing with rfl | rfl | rfl <;>
        simp [token?_eq_none_of_start, startsToken, bracesAfter, hopen]
    rw [List.cons_append, hstep, ih, Option.map_map]
    rfl
  | @plain c opened text hopening hclosing htoken _ _ ih =>
    have hbrace := isBrace_of_plain hopening hclosing
    simp only [isBrace, Bool.or_eq_false_iff, beq_eq_false_iff_ne] at hbrace
    have hstep : closingBrace? (opened.count '}' + depth) 0 (c :: (text ++ rest)) =
        (closingBrace? (opened.count '}' + depth) 0 (text ++ rest)).map (· + 1) := by
      rw [closingBrace?]
      simp [token?_eq_none_of_start htoken, hbrace.1, hbrace.2]
    rw [List.cons_append, hstep, ih, Option.map_map]
    rfl

/-! ### Brackets of every kind -/

theorem depthAfter_opening {c closer : Char} (h : closer? c = some closer) (depth : Nat) :
    depthAfter depth c = depth + 1 := by
  rcases closer?_eq_some h with ⟨rfl, rfl⟩ | ⟨rfl, rfl⟩ | ⟨rfl, rfl⟩ <;> rfl

theorem depthAfter_closing {c : Char} (h : isClosing c = true) (depth : Nat) :
    depthAfter (depth + 1) c = depth := by
  rcases eq_of_isClosing h with rfl | rfl | rfl <;> rfl

theorem depthAfter_plain {c : Char} (hopening : isOpening c = false) (hclosing : isClosing c = false)
    (depth : Nat) : depthAfter depth c = depth := by
  simp only [depthAfter, hopening, hclosing, Bool.false_eq_true, if_false]

def spaced (c : Char) : Char :=
  if c == '\n' || c == '\r' || c == '\t' then ' ' else c

theorem marksOfCode_eq_char {depth : Nat} {c : Char} (hslash : c ≠ '/') (htag : c ≠ '\x60')
    (hend : (c = '\n' ∨ c = ';') → depth ≠ 0) : marksOfCode depth c = [.char (spaced c)] := by
  have hnot : ((c == '\n' || c == ';') && depth == 0) = false := by
    rw [Bool.and_eq_false_iff, beq_eq_false_iff_ne]
    by_cases hc : c = '\n' ∨ c = ';'
    · exact .inr (hend hc)
    · exact .inl (by simpa using hc)
  simp only [marksOfCode, hnot, spaced, beq_eq_false_iff_ne.2 hslash, beq_eq_false_iff_ne.2 htag,
    Bool.or_self, Bool.false_eq_true, if_false]
  split <;> rfl

/-- The reader of members writes a bracketed text out, when it may end no member. -/
theorem Bracketed.marksFrom_append (hfeed : barred '\n' = true) (hsemicolon : barred ';' = true)
    (h : Bracketed limit barred opened text) (rest : Text) :
    marksFrom ⟨.code, opened.length⟩ (text ++ rest) =
      text.map (fun c => .char (spaced c)) ++ marksFrom Place.start rest := by
  have hnext : ∀ {c depth}, startsToken c = false →
      Place.next ⟨.code, depth⟩ c = ⟨.code, depthAfter depth c⟩ := by
    intro c depth htoken
    simp only [startsToken, Bool.or_eq_false_iff] at htoken
    obtain ⟨⟨⟨hslash, htag⟩, hquote⟩, -⟩ := htoken
    simp only [Place.next, Place.afterCode, hslash, htag, hquote, Bool.false_eq_true, if_false]
  induction h with
  | nil => rfl
  | @opening c closer opened text hcloser _ _ ih =>
    have hmarks : marksOfCode opened.length c = [.char (spaced c)] := by
      rcases closer?_eq_some hcloser with ⟨rfl, rfl⟩ | ⟨rfl, rfl⟩ | ⟨rfl, rfl⟩ <;> rfl
    have htoken : startsToken c = false := by
      rcases closer?_eq_some hcloser with ⟨rfl, rfl⟩ | ⟨rfl, rfl⟩ | ⟨rfl, rfl⟩ <;> rfl
    rw [List.length_cons] at ih
    rw [List.cons_append, marksFrom, hnext htoken, depthAfter_opening hcloser, ih, Place.marks, hmarks]
    rfl
  | @closing c opened text hclosing _ ih =>
    have hmarks : marksOfCode (opened.length + 1) c = [.char (spaced c)] := by
      rcases eq_of_isClosing hclosing with rfl | rfl | rfl <;> rfl
    have htoken : startsToken c = false := by
      rcases eq_of_isClosing hclosing with rfl | rfl | rfl <;> rfl
    rw [List.cons_append, List.length_cons, marksFrom, hnext htoken, depthAfter_closing hclosing, ih,
      Place.marks, hmarks]
    rfl
  | @plain c opened text hopening hclosing htoken hbarred _ ih =>
    have hstart := htoken
    simp only [startsToken, Bool.or_eq_false_iff, beq_eq_false_iff_ne] at hstart
    obtain ⟨⟨⟨hslash, htag⟩, -⟩, -⟩ := hstart
    have hend : (c = '\n' ∨ c = ';') → opened.length ≠ 0 := by
      intro hc hopened
      have hbar := hbarred (List.length_eq_zero_iff.1 hopened)
      rcases hc with rfl | rfl
      · rw [hfeed] at hbar
        cases hbar
      · rw [hsemicolon] at hbar
        cases hbar
    rw [List.cons_append, marksFrom, hnext htoken, depthAfter_plain hopening hclosing, ih, Place.marks,
      marksOfCode_eq_char hslash htag hend]
    rfl

end GoScaffold.Source
