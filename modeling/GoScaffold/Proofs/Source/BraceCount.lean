import GoScaffold.Proofs.Source.Headers
import GoScaffold.Proofs.Source.Tokens

/-!
# Declarations by counting braces

A body is read by recursion on its blocks.  One pass with a counter finds the same
end: tokens are stepped over, an opening brace adds one and a closing brace takes
one away, and the body ends at the brace that brings the count to zero.  Together
with the spelling of the header this says at which places of a text a declaration
is read, and what its body is.
-/

namespace GoScaffold.Source

/-! ### The counter -/

/-- The position of the `}` that brings the count of open braces from `depth` to zero.
The first `skip` characters belong to a token that is stepped over. -/
def closingBrace? (depth : Nat) : Nat → Text → Option Nat
  | _, [] => none
  | skip + 1, _ :: rest => (closingBrace? depth skip rest).map (· + 1)
  | 0, c :: rest =>
    match token? (c :: rest) with
    | some lexeme => (closingBrace? depth (lexeme.length - 1) rest).map (· + 1)
    | none =>
      if c == '{' then (closingBrace? (depth + 1) 0 rest).map (· + 1)
      else if c == '}' then
        if depth ≤ 1 then some 0 else (closingBrace? (depth - 1) 0 rest).map (· + 1)
      else (closingBrace? depth 0 rest).map (· + 1)

theorem closingBrace?_skip (depth skip : Nat) (text : Text) :
    closingBrace? depth skip text =
      (closingBrace? depth 0 (text.drop skip)).map (· + skip) := by
  induction skip generalizing text with
  | zero => simp
  | succ skip ih =>
    cases text with
    | nil => simp [closingBrace?]
    | cons c rest =>
      rw [closingBrace?, ih, List.drop_succ_cons, Option.map_map]
      rfl

/-- What the counter finds at depth `depth + 1`, told by the body that ends there. -/
def closingAfter? (depth : Nat) (text : Text) (body? : Option Text) : Option Nat :=
  body?.bind fun body =>
    if depth = 0 then some body.length
    else (closingBrace? depth 0 (text.drop (body.length + 1))).map (· + (body.length + 1))

theorem closingAfter?_cons (depth : Nat) (c : Char) (rest : Text) (body? : Option Text) :
    closingAfter? depth (c :: rest) (body?.map (c :: ·)) =
      (closingAfter? depth rest body?).map (· + 1) := by
  cases body? with
  | none => rfl
  | some body =>
    by_cases h : depth = 0
    · simp [closingAfter?, h]
    · simp [closingAfter?, h, Function.comp_def, Nat.add_assoc]

/-- The counter finds the ends of bodies: at depth `depth + 1` it passes the end of the
body that starts here and goes on behind it, at depth `depth`.  The induction
follows the recursion of the body on its blocks. -/
theorem closingBrace?_succ (depth skip : Nat) (text : Text) :
    closingBrace? (depth + 1) skip text = closingAfter? depth text (body? skip text) := by
  fun_induction body? skip text generalizing depth with
  | case1 => simp [closingBrace?, closingAfter?]
  | case2 skip c rest ih => rw [closingBrace?, ih, closingAfter?_cons]
  | case3 c rest lexeme htoken ih =>
    rw [closingBrace?]
    simp only [htoken]
    rw [ih, closingAfter?_cons]
  | case4 c rest htoken hclose =>
    obtain rfl : c = '}' := by simpa using hclose
    rw [closingBrace?]
    simp only [htoken]
    by_cases h : depth = 0
    · simp [closingAfter?, h]
    · simp [closingAfter?, h]
  | case5 c rest htoken hclose hopen block hblock ihblock ihrest =>
    obtain rfl : c = '{' := by simpa using hopen
    rw [closingBrace?]
    simp only [htoken]
    -- the block ends at depth `depth + 1`, and the counter is behind it then
    have hbehind : closingBrace? (depth + 2) 0 rest =
        closingBrace? (depth + 1) (block.length + 1) rest := by
      rw [ihblock, hblock, closingBrace?_skip (depth + 1) (block.length + 1)]
      rfl
    rw [closingAfter?_cons, ← ihrest, ← hbehind]
    rfl
  | case6 c rest htoken hclose hopen hblock ihblock =>
    obtain rfl : c = '{' := by simpa using hopen
    rw [closingBrace?]
    simp only [htoken]
    rw [if_pos (by decide), ihblock, hblock]
    rfl
  | case7 c rest htoken hclose hopen ih =>
    rw [closingBrace?]
    simp only [htoken]
    rw [if_neg hopen, if_neg hclose, ih, closingAfter?_cons]

/-- The body of a declaration ends where the count of braces, which its opening brace
started at one, comes to zero. -/
theorem closingBrace?_one (text : Text) :
    closingBrace? 1 0 text = (body? 0 text).map List.length := by
  rw [closingBrace?_succ]
  cases body? 0 text with
  | none => rfl
  | some body => rfl

/-! ### Declarations -/

theorem body?_isFront {skip : Nat} {text body : Text} (h : body? skip text = some body) :
    body ++ ['}'] <+: text := by
  fun_induction body? skip text generalizing body with
  | case1 => cases h
  | case2 skip c rest ih =>
    obtain ⟨inner, hinner, rfl⟩ := Option.map_eq_some_iff.1 h
    exact (List.prefix_cons_inj c).2 (ih hinner)
  | case3 c rest lexeme htoken ih =>
    obtain ⟨inner, hinner, rfl⟩ := Option.map_eq_some_iff.1 h
    exact (List.prefix_cons_inj c).2 (ih hinner)
  | case4 c rest htoken hclose =>
    obtain rfl : c = '}' := by simpa using hclose
    cases h
    exact ⟨rest, rfl⟩
  | case5 c rest htoken hclose hopen block hblock ihblock ihrest =>
    obtain ⟨inner, hinner, rfl⟩ := Option.map_eq_some_iff.1 h
    exact (List.prefix_cons_inj c).2 (ihrest hinner)
  | case6 => cases h
  | case7 c rest htoken hclose hopen ih =>
    obtain ⟨inner, hinner, rfl⟩ := Option.map_eq_some_iff.1 h
    exact (List.prefix_cons_inj c).2 (ih hinner)

theorem body?_eq_some_iff {text body : Text} :
    body? 0 text = some body ↔
      ∃ after, text = body ++ '}' :: after ∧ closingBrace? 1 0 text = some body.length := by
  constructor
  · intro h
    obtain ⟨after, hafter⟩ := body?_isFront h
    refine ⟨after, by simpa using hafter.symm, ?_⟩
    rw [closingBrace?_one, h]
    rfl
  · rintro ⟨after, rfl, hcount⟩
    rw [closingBrace?_one] at hcount
    obtain ⟨found, hfound, hlength⟩ := Option.map_eq_some_iff.1 hcount
    obtain ⟨tail, htail⟩ := body?_isFront hfound
    rw [List.append_assoc] at htail
    rw [hfound, (List.append_inj htail hlength).1]

/-- `text` starts with the declaration: a front of it spells the header, and the counter
that starts behind the opening brace comes to zero at the brace behind the body.
`length` counts the characters from `type` through that brace. -/
def Declaration.AtFrontOf (declared : Declaration) (length : Nat) (text : Text) : Prop :=
  ∃ front after, declared.header.SpelledBy front ∧
    text = front ++ (declared.body ++ '}' :: after) ∧
    closingBrace? 1 0 (declared.body ++ '}' :: after) = some declared.body.length ∧
    length = front.length + declared.body.length + 1

theorem declaration?_eq_some_iff_atFrontOf {text : Text} {declared : Declaration} {length : Nat} :
    declaration? text = some (declared, length) ↔ declared.AtFrontOf length text := by
  obtain ⟨header, body⟩ := declared
  constructor
  · intro h
    simp only [declaration?, bind, Option.bind_eq_some_iff, pure, Option.some.injEq] at h
    obtain ⟨⟨found, rest⟩, hheader, inner, hbody, heq⟩ := h
    obtain ⟨⟨rfl, rfl⟩, rfl⟩ : (found = header ∧ inner = body) ∧
        text.length - rest.length + inner.length + 1 = length := by
      simpa only [Prod.mk.injEq, Declaration.mk.injEq] using heq
    obtain ⟨front, hfront, rfl⟩ := header?_eq_some_iff.1 hheader
    obtain ⟨after, rfl, hcount⟩ := body?_eq_some_iff.1 hbody
    refine ⟨front, after, hfront, rfl, hcount, ?_⟩
    rw [List.length_append, Nat.add_sub_cancel]
  · rintro ⟨front, after, hfront, rfl, hcount, rfl⟩
    have hheader : header? (front ++ (body ++ '}' :: after)) = some (header, body ++ '}' :: after) :=
      header?_eq_some_iff.2 ⟨front, hfront, rfl⟩
    have hbody : body? 0 (body ++ '}' :: after) = some body :=
      body?_eq_some_iff.2 ⟨after, rfl, hcount⟩
    simp only [declaration?, bind, pure]
    rw [hheader, Option.bind_some, hbody, Option.bind_some, List.length_append,
      Nat.add_sub_cancel]

end GoScaffold.Source
