import GoScaffold.Catalog.OfSource
import GoScaffold.Proofs.Source.MemberLines
import GoScaffold.Proofs.Source.Parentheses
import GoScaffold.Proofs.Text.Positions

/-!
# Member lines cut into methods

A signature is a name and a parameter list in parentheses, and name and list are found again
in it.  An interface has one method for each of its member lines with a closed pair of
parentheses.  The line is the signature, which ends with the first pair, and the result.
Every byte position at which a line or a signature is cut lies between two characters.
-/

namespace GoScaffold

open Text (IsBlanks IsCollapsed byteSize closingPosition? collapse lastPosition? position? slice?
  splitClosed? trim)
open Source (IsPair Nested isCollapsed_of_mem_memberLines memberLines)

/-! ### Signatures -/

namespace Method

/-- The method with that name, parameter list and result. -/
def declared (name params result : Text) : Method :=
  ⟨name ++ '(' :: (params ++ [')']), result⟩

variable {name : Text} (params result : Text)

theorem signature_takeWhile_dropWhile (h : '(' ∉ name) :
    (declared name params result).signature.takeWhile (fun c => c != '(') = name ∧
      (declared name params result).signature.dropWhile (fun c => c != '(') = '(' :: (params ++ [')']) := by
  have hname : ∀ c ∈ name, (c != '(') = true := by
    intro c hc
    rw [bne_iff_ne]
    rintro rfl
    exact h hc
  rw [declared, List.takeWhile_append_of_pos hname, List.takeWhile_cons_of_neg (by decide), List.append_nil,
    List.dropWhile_append_of_pos hname, List.dropWhile_cons_of_neg (by decide)]
  exact ⟨rfl, rfl⟩

theorem name_declared (h : '(' ∉ name) : (declared name params result).name = trim name := by
  rw [Method.name, (signature_takeWhile_dropWhile params result h).1]

theorem params_declared (h : '(' ∉ name) : (declared name params result).params = params := by
  simp [Method.params, (signature_takeWhile_dropWhile params result h).2]

/-! ### Member lines -/

theorem ofLine?_eq_none {line : Text} (h : '(' ∉ line) : ofLine? line = none := by
  rw [ofLine?, Source.splitClosed?_eq_none h, Option.map_none]

/-- A line that spells a method declares it. -/
theorem ofLine?_declared {barred : Char → Bool} {params result separator : Text} (hname : '(' ∉ name)
    (hparams : Nested barred [] params) (hsignature : IsCollapsed (declared name params result).signature)
    (hseparator : IsBlanks separator) (hresult : IsCollapsed result) :
    ofLine? ((declared name params result).signature ++ (separator ++ result)) =
      some (declared name params result) := by
  have hcut := Source.splitClosed?_parentheses hname hparams (separator ++ result)
  have hline : (declared name params result).signature ++ (separator ++ result) =
      name ++ '(' :: (params ++ ')' :: (separator ++ result)) := by
    simp only [declared, List.append_assoc, List.cons_append, List.nil_append]
  have htrim : trim (separator ++ result) = result := by
    have hnone : IsBlanks [] := by decide
    simpa using Text.trim_append hseparator hresult.isTrimmed hnone
  rw [ofLine?, hline, hcut, Option.map_some]
  dsimp only
  rw [htrim]
  exact congrArg (fun signature => some (Method.mk signature result))
    (Text.trim_of_isTrimmed hsignature.isTrimmed)

/-- The methods of the line of a member, if it has one. -/
theorem filterMap_ofLine?_lineOf (written : Text) :
    (Source.lineOf written).filterMap ofLine? = (ofLine? (collapse written)).toList := by
  rw [Source.lineOf]
  by_cases hnil : collapse written = []
  · rw [hnil]
    rfl
  · rw [List.filter_cons_of_pos (by simpa using hnil), List.filter_nil]
    cases hline : ofLine? (collapse written) with
    | none => rw [List.filterMap_cons_none hline]; rfl
    | some method => rw [List.filterMap_cons_some hline]; rfl

end Method

/-! ### Closed pairs -/

/-- The first `(` of the line is closed. -/
def HasPair (line : Text) : Prop :=
  ∃ front pair rest, line = front ++ (pair ++ rest) ∧ '(' ∉ front ∧ IsPair pair

theorem isSome_splitClosed?_iff {line : Text} : (splitClosed? line).isSome = true ↔ HasPair line := by
  rw [Option.isSome_iff_exists]
  constructor
  · rintro ⟨⟨closed, rest⟩, hcut⟩
    obtain ⟨rfl, front, pair, rfl, hfront, hpair⟩ := Source.splitClosed?_eq_some_iff.1 hcut
    exact ⟨front, pair, rest, by simp, hfront, hpair⟩
  · rintro ⟨front, pair, rest, rfl, hfront, hpair⟩
    exact ⟨(front ++ pair, rest), Source.splitClosed?_eq_some_iff.2 ⟨by simp, front, pair, rfl, hfront, hpair⟩⟩

instance : DecidablePred HasPair :=
  fun _ => decidable_of_iff _ isSome_splitClosed?_iff

namespace Method

/-- The line is the signature, `separator` and the result.  The signature is `front` and the
first pair of parentheses of the line, with the parameters inside. -/
structure IsCutFrom (method : Method) (line front separator : Text) : Prop where
  line_eq : line = method.signature ++ (separator ++ method.result)
  separator_eq : separator = [] ∨ separator = [' ']
  signature_eq : method.signature = front ++ '(' :: (method.params ++ [')'])
  isPair : IsPair ('(' :: (method.params ++ [')']))
  not_mem_front : '(' ∉ front
  name_eq : method.name = trim front

/-- The first `(` of the line and of the signature is at the byte `opening`, and the `)` that
closes it, the last one of the signature, at the byte `closing`; cutting there gives the
parts of the method. -/
structure IsSlicedAt (method : Method) (line front separator : Text) (opening closing : Nat) : Prop where
  position?_line : position? '(' line = some opening
  closingPosition?_line : closingPosition? line = some closing
  slice?_opening : slice? opening (byteSize line) line =
    some ('(' :: (method.params ++ [')']) ++ (separator ++ method.result))
  slice?_signature : slice? 0 (closing + 1) line = some method.signature
  slice?_result : slice? (closing + 1) (byteSize line) line = some (separator ++ method.result)
  position?_signature : position? '(' method.signature = some opening
  lastPosition?_signature : lastPosition? ')' method.signature = some closing
  slice?_name : slice? 0 opening method.signature = some front
  slice?_params : slice? (opening + 1) closing method.signature = some method.params

/-! ### One line -/

/-- A signature in front of which nothing was trimmed has nothing to trim. -/
theorem isTrimmed_signature {front params rest : Text}
    (h : IsCollapsed (front ++ '(' :: (params ++ [')']) ++ rest)) :
    Text.IsTrimmed (front ++ '(' :: (params ++ [')'])) := by
  constructor
  · intro c hc
    apply h.isTrimmed.1
    rw [List.head?_append_of_ne_nil _ (by simp), hc]
  · intro c hc
    rw [← List.cons_append, ← List.append_assoc, List.getLast?_concat, Option.some.injEq] at hc
    rw [← hc]
    decide

theorem isCutFrom_of_ofLine? {line : Text} (hline : IsCollapsed line) {method : Method}
    (h : ofLine? line = some method) : ∃ front separator, method.IsCutFrom line front separator := by
  obtain ⟨⟨closed, rest⟩, hcut, hmethod⟩ := Option.map_eq_some_iff.1 h
  obtain ⟨rfl, front, pair, rfl, hfront, hpair⟩ := Source.splitClosed?_eq_some_iff.1 hcut
  obtain ⟨params, rfl⟩ := hpair.eq_parentheses
  obtain ⟨separator, hseparator, hrest⟩ := hline.eq_separator_append
  obtain rfl : declared front params (trim rest) = method := by
    rw [← hmethod]
    dsimp only
    rw [Text.trim_of_isTrimmed (isTrimmed_signature hline), declared]
  have hparams := params_declared params (trim rest) hfront
  exact ⟨front, separator, {
    line_eq := congrArg (_ ++ ·) hrest
    separator_eq := hseparator
    signature_eq := by rw [hparams, declared]
    isPair := by rwa [hparams]
    not_mem_front := hfront
    name_eq := name_declared params (trim rest) hfront }⟩

theorem IsCutFrom.splitClosed?_signature_append {method : Method} {line front separator : Text}
    (h : method.IsCutFrom line front separator) (rest : Text) :
    splitClosed? (method.signature ++ rest) = some (method.signature, rest) :=
  Source.splitClosed?_eq_some_iff.2 ⟨rfl, front, _, h.signature_eq, h.not_mem_front, h.isPair⟩

/-- No part of a signature that ends before it has a closed pair. -/
theorem IsCutFrom.not_hasPair {method : Method} {line front separator : Text}
    (h : method.IsCutFrom line front separator) {shorter : Text} (hfront : shorter <+: method.signature)
    (hne : shorter ≠ method.signature) : ¬ HasPair shorter := by
  rintro ⟨other, pair, rest, rfl, hother, hpair⟩
  obtain ⟨behind, hbehind⟩ := hfront
  have hshorter : splitClosed? method.signature = some (other ++ pair, rest ++ behind) :=
    Source.splitClosed?_eq_some_iff.2 ⟨by simp [← hbehind], other, pair, rfl, hother, hpair⟩
  have hwhole := h.splitClosed?_signature_append []
  rw [List.append_nil, hshorter, Option.some.injEq, Prod.mk.injEq] at hwhole
  obtain ⟨hsame, hnothing⟩ := hwhole
  rw [(List.append_eq_nil_iff.1 hnothing).1, List.append_nil, hsame] at hne
  exact hne rfl

theorem IsCutFrom.not_mem_name {method : Method} {line front separator : Text}
    (h : method.IsCutFrom line front separator) : '(' ∉ method.name := by
  intro hmem
  obtain ⟨left, right, hfront, -⟩ := Text.trim_spec front
  apply h.not_mem_front
  rw [hfront]
  rw [h.name_eq] at hmem
  simp [hmem]

/-! ### Byte positions -/

theorem IsCutFrom.isSlicedAt {method : Method} {line front separator : Text}
    (h : method.IsCutFrom line front separator) :
    method.IsSlicedAt line front separator (byteSize front) (byteSize (front ++ '(' :: method.params)) := by
  have hopen : byteSize ['('] = 1 := rfl
  have hclose : byteSize [')'] = 1 := rfl
  have hsignature : method.signature = (front ++ '(' :: method.params) ++ [')'] := by
    simp [h.signature_eq]
  have hend : byteSize (front ++ '(' :: method.params) + 1 = byteSize method.signature := by
    rw [hsignature, Text.byteSize_append _ [')'], hclose]
  have hline : line = front ++ '(' :: (method.params ++ [')'] ++ (separator ++ method.result)) := by
    conv_lhs => rw [h.line_eq, h.signature_eq]
    simp
  have hclosing : closingPosition? line = some (byteSize (front ++ '(' :: method.params)) := by
    rw [h.line_eq, closingPosition?, h.splitClosed?_signature_append, hsignature]
    simp only [Option.map_some, List.dropLast_concat]
  have hinside : slice? (byteSize front + 1) (byteSize (front ++ '(' :: method.params)) method.signature =
      some method.params := by
    refine Text.slice?_eq_some_iff.2 ⟨front ++ ['('], [')'], by simp [h.signature_eq], ?_, by simp⟩
    rw [Text.byteSize_append, hopen]
  exact {
    position?_line := by rw [hline, Text.position?_append h.not_mem_front]
    closingPosition?_line := hclosing
    slice?_opening := Text.slice?_eq_some_iff.2 ⟨front, [], by simp [hline], rfl, by simp [hline]⟩
    slice?_signature := by
      rw [hend]
      exact Text.slice?_eq_some_iff.2 ⟨[], separator ++ method.result, h.line_eq, rfl, rfl⟩
    slice?_result := by
      rw [hend]
      exact Text.slice?_eq_some_iff.2
        ⟨method.signature, [], by simp [← h.line_eq], rfl, by rw [← h.line_eq]⟩
    position?_signature := by rw [h.signature_eq, Text.position?_append h.not_mem_front]
    lastPosition?_signature := by rw [hsignature, Text.lastPosition?_append_singleton]
    slice?_name := Text.slice?_eq_some_iff.2
      ⟨[], '(' :: (method.params ++ [')']), h.signature_eq, rfl, rfl⟩
    slice?_params := hinside }

end Method

/-! ### All lines -/

theorem forall₂_filterMap {α β : Type} {p : α → Bool} {f : α → Option β} {R : α → β → Prop}
    (hp : ∀ a, (f a).isSome = p a) {elements : List α} (hR : ∀ a ∈ elements, ∀ b, f a = some b → R a b) :
    List.Forall₂ R (elements.filter p) (elements.filterMap f) := by
  induction elements with
  | nil => exact .nil
  | cons a elements ih =>
    obtain ⟨ha, hothers⟩ := List.forall_mem_cons.1 hR
    cases hfa : f a with
    | none =>
      rw [List.filterMap_cons_none hfa, List.filter_cons_of_neg (by simp [← hp, hfa])]
      exact ih hothers
    | some b =>
      rw [List.filterMap_cons_some hfa, List.filter_cons_of_pos (by simp [← hp, hfa])]
      exact .cons (ha b hfa) (ih hothers)

/-- The methods of a body are, one by one and in order, those of the member lines with a closed
pair of parentheses.  Each line is the signature, nothing or one space, and the result;
the signature ends with the `)` that closes its first `(`, and no shorter part of it has
a closed pair; the parameters are all that stands inside, and the name has no `(`.  The
byte positions of the two parentheses and all cuts at them lie between characters. -/
theorem Interface.methods_ofBody (name body : Text) :
    List.Forall₂
      (fun line method => ∃ front separator, method.IsCutFrom line front separator ∧
        '(' ∉ method.name ∧
        (∀ shorter, shorter <+: method.signature → shorter ≠ method.signature → ¬ HasPair shorter) ∧
        ∃ opening closing, method.IsSlicedAt line front separator opening closing)
      ((memberLines body).filter fun line => decide (HasPair line)) (Interface.ofBody name body).methods := by
  have hsome : ∀ line, (Method.ofLine? line).isSome = decide (HasPair line) := by
    intro line
    rw [Method.ofLine?, Option.isSome_map, Bool.eq_iff_iff, decide_eq_true_eq, isSome_splitClosed?_iff]
  apply forall₂_filterMap hsome
  intro line hline method hmethod
  obtain ⟨front, separator, hcut⟩ := Method.isCutFrom_of_ofLine? (isCollapsed_of_mem_memberLines hline) hmethod
  exact ⟨front, separator, hcut, hcut.not_mem_name, fun _ => hcut.not_hasPair, _, _, hcut.isSlicedAt⟩

/-- The first pair of the line ends behind the parameters, and the `)` in front of it opens nothing. -/
example : (Interface.ofBody ['I'] "é) Do(f func(int) ü) (err error)\nio.Reader\nOpen(").methods =
    [⟨"é) Do(f func(int) ü)", "(err error)"⟩] := by decide +kernel

end GoScaffold
