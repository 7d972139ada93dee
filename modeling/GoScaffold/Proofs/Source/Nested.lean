import GoScaffold.Proofs.Source.Bracketed
import GoScaffold.Proofs.Text.Decomposition

/-!
# Nested texts

A text in which each bracket is closed by its own kind, the innermost first.  Nothing is
said of quotes and comments, and brackets may nest as deep as they like: parameters and
results are read by their brackets only.
-/

namespace GoScaffold.Source

/-- A text that closes the brackets which wait for `opened`, the innermost first, and all
that it opens itself.  Outside all brackets no character is `barred`. -/
inductive Nested (barred : Char → Bool) : List Char → Text → Prop
  | nil : Nested barred [] []
  | opening {c closer : Char} {opened : List Char} {rest : Text} (hcloser : closer? c = some closer)
      (hrest : Nested barred (closer :: opened) rest) : Nested barred opened (c :: rest)
  | closing {c : Char} {opened : List Char} {rest : Text} (hclosing : isClosing c = true)
      (hrest : Nested barred opened rest) : Nested barred (c :: opened) (c :: rest)
  | plain {c : Char} {opened : List Char} {rest : Text} (hopening : isOpening c = false)
      (hclosing : isClosing c = false) (hbarred : opened = [] → barred c = false)
      (hrest : Nested barred opened rest) : Nested barred opened (c :: rest)

variable {limit : Nat} {barred : Char → Bool} {opened : List Char} {front rest text : Text}

theorem Bracketed.nested (h : Bracketed limit barred opened text) : Nested barred opened text := by
  induction h with
  | nil => exact .nil
  | opening hcloser _ _ ih => exact .opening hcloser ih
  | closing hclosing _ ih => exact .closing hclosing ih
  | plain hopening hclosing _ hbarred _ ih => exact .plain hopening hclosing hbarred ih

theorem Nested.append_outer {outer : List Char} (hfront : Nested barred opened front)
    (hrest : Nested barred outer rest) : Nested barred (opened ++ outer) (front ++ rest) := by
  induction hfront with
  | nil => exact hrest
  | opening hcloser _ ih => exact .opening hcloser ih
  | closing hclosing _ ih => exact .closing hclosing ih
  | plain hopening hclosing hbarred _ ih =>
    exact .plain hopening hclosing (fun hnil => hbarred (List.append_eq_nil_iff.1 hnil).1) ih

theorem Nested.append (hfront : Nested barred opened front) (hrest : Nested barred [] rest) :
    Nested barred opened (front ++ rest) := by
  have happend := hfront.append_outer hrest
  rwa [List.append_nil] at happend

/-- A text without brackets and without barred characters. -/
theorem Nested.of_plain (h : ∀ c ∈ text, isOpening c = false ∧ isClosing c = false ∧ barred c = false) :
    Nested barred [] text := by
  induction text with
  | nil => exact .nil
  | cons c rest ih =>
    obtain ⟨⟨hopening, hclosing, hbarred⟩, htail⟩ := List.forall_mem_cons.1 h
    exact .plain hopening hclosing (fun _ => hbarred) (ih htail)

/-- A nested text leaves the count of open brackets as it was. -/
theorem Nested.foldl_depthAfter (h : Nested barred opened text) (depth : Nat) :
    text.foldl depthAfter (opened.length + depth) = depth := by
  induction h with
  | nil => exact Nat.zero_add depth
  | @opening c closer opened rest hcloser _ ih =>
    rw [List.foldl_cons, depthAfter_opening hcloser, Nat.add_right_comm]
    exact ih
  | @closing c opened rest hclosing _ ih =>
    rw [List.foldl_cons, List.length_cons, Nat.add_right_comm, depthAfter_closing hclosing, ih]
  | plain hopening hclosing _ _ ih => rw [List.foldl_cons, depthAfter_plain hopening hclosing, ih]

/-! ### Pieces -/

/-- A separator that is barred stands in a nested text only inside brackets. -/
theorem Nested.isUncut {separator : Char} (hseparator : barred separator = true)
    (h : Nested barred opened text) : Text.IsUncut separator opened.length text := by
  induction h with
  | nil => exact Text.isUncut_nil
  | @opening c closer opened text hcloser _ ih =>
    rw [Text.isUncut_cons_iff, depthAfter_opening hcloser]
    refine ⟨?_, ih⟩
    rintro ⟨⟨hopening, -⟩, rfl, -⟩
    rw [closer?_eq_none_iff.2 hopening] at hcloser
    cases hcloser
  | @closing c opened text hclosing _ ih =>
    rw [Text.isUncut_cons_iff, List.length_cons, depthAfter_closing hclosing]
    refine ⟨?_, ih⟩
    rintro ⟨-, -, hdepth⟩
    cases hdepth
  | @plain c opened text hopening hclosing hbarred _ ih =>
    rw [Text.isUncut_cons_iff, depthAfter_plain hopening hclosing]
    refine ⟨?_, ih⟩
    rintro ⟨-, rfl, hdepth⟩
    rw [hbarred (List.length_eq_zero_iff.1 hdepth)] at hseparator
    cases hseparator

theorem Nested.splitOutside_eq_singleton {separator : Char} (hseparator : barred separator = true)
    (h : Nested barred [] text) : Text.splitOutside separator text = [text] :=
  (h.isUncut hseparator).splitOutsideFrom_eq

theorem Nested.splitOutside_append_separator {separator : Char} (hseparator : barred separator = true)
    (hopening : isOpening separator = false) (hclosing : isClosing separator = false)
    (h : Nested barred [] text) (rest : Text) :
    Text.splitOutside separator (text ++ separator :: rest) =
      text :: Text.splitOutside separator rest := by
  have hwhole := h.splitOutside_eq_singleton hseparator
  have happend := Text.splitOutsideFrom_append_separator ⟨hopening, hclosing⟩ (h.foldl_depthAfter 0) rest
  rw [Text.splitOutside] at hwhole
  rwa [List.length_nil, Nat.zero_add, hwhole] at happend

/-- Nested pieces are found again between the separators that join them. -/
theorem splitOutside_join {separator : Char} (hseparator : barred separator = true)
    (hopening : isOpening separator = false) (hclosing : isClosing separator = false)
    {pieces : List Text} (hne : pieces ≠ []) (h : ∀ piece ∈ pieces, Nested barred [] piece) :
    Text.splitOutside separator (Text.join [separator] pieces) = pieces := by
  induction pieces with
  | nil => exact absurd rfl hne
  | cons first pieces ih =>
    obtain ⟨hfirst, hothers⟩ := List.forall_mem_cons.1 h
    cases pieces with
    | nil =>
      rw [Text.join, List.intercalate_singleton]
      exact hfirst.splitOutside_eq_singleton hseparator
    | cons second pieces =>
      rw [Text.join_cons_cons, List.append_assoc, List.singleton_append,
        hfirst.splitOutside_append_separator hseparator hopening hclosing,
        ih (List.cons_ne_nil second pieces) hothers]

/-! ### Pairs -/

/-- Does the position lie between a bracket and the one that closes it? -/
def InsidePair (text : Text) (position : Nat) : Prop :=
  ∃ front c closer inner rest, closer? c = some closer ∧ Nested (fun _ => false) [] inner ∧
    text = front ++ c :: (inner ++ closer :: rest) ∧ front.length < position ∧
    position ≤ front.length + inner.length

theorem isClosing_of_closer? {c closer : Char} (h : closer? c = some closer) : isClosing closer = true := by
  rcases closer?_eq_some h with ⟨-, rfl⟩ | ⟨-, rfl⟩ | ⟨-, rfl⟩ <;> rfl

/-- Inside a nested text the count never falls below what it was in front of it. -/
theorem Nested.le_foldl_depthAfter (h : Nested barred opened text) (depth n : Nat) :
    depth ≤ (text.take n).foldl depthAfter (opened.length + depth) := by
  induction h generalizing n with
  | nil =>
    rw [List.take_nil]
    exact Nat.le_add_left depth _
  | @opening c closer opened rest hcloser _ ih =>
    cases n with
    | zero => exact Nat.le_add_left depth _
    | succ n =>
      rw [List.take_succ_cons, List.foldl_cons, depthAfter_opening hcloser, Nat.add_right_comm]
      exact ih n
  | @closing c opened rest hclosing _ ih =>
    cases n with
    | zero => exact Nat.le_add_left depth _
    | succ n =>
      rw [List.take_succ_cons, List.foldl_cons, List.length_cons, Nat.add_right_comm,
        depthAfter_closing hclosing]
      exact ih n
  | plain hopening hclosing _ _ ih =>
    cases n with
    | zero => exact Nat.le_add_left depth _
    | succ n =>
      rw [List.take_succ_cons, List.foldl_cons, depthAfter_plain hopening hclosing]
      exact ih n

/-- Where the brackets that a text has to close are told apart, so is the text. -/
theorem Nested.split {above : List Char} {closer : Char} (h : Nested barred (above ++ closer :: opened) text) :
    ∃ inner rest, text = inner ++ closer :: rest ∧ Nested (fun _ => false) above inner ∧
      Nested barred opened rest := by
  obtain ⟨stack, hstack⟩ : ∃ stack, stack = above ++ closer :: opened := ⟨_, rfl⟩
  rw [← hstack] at h
  induction h generalizing above with
  | nil => exact absurd hstack.symm (List.append_ne_nil_of_right_ne_nil _ (List.cons_ne_nil _ _))
  | @opening c other stack rest hcloser _ ih =>
    have hwaiting : other :: stack = (other :: above) ++ closer :: opened := by
      rw [hstack]
      rfl
    obtain ⟨inner, behind, rfl, hinner, hbehind⟩ := ih hwaiting
    exact ⟨c :: inner, behind, rfl, .opening hcloser hinner, hbehind⟩
  | @closing c stack rest hclosing hrest ih =>
    cases above with
    | nil =>
      obtain ⟨rfl, rfl⟩ := List.cons.inj hstack
      exact ⟨[], rest, rfl, .nil, hrest⟩
    | cons first above =>
      obtain ⟨rfl, htail⟩ := List.cons.inj hstack
      obtain ⟨inner, behind, rfl, hinner, hbehind⟩ := ih htail
      exact ⟨c :: inner, behind, rfl, .closing hclosing hinner, hbehind⟩
  | @plain c stack rest hopening hclosing _ _ ih =>
    obtain ⟨inner, behind, rfl, hinner, hbehind⟩ := ih hstack
    exact ⟨c :: inner, behind, rfl, .plain hopening hclosing (fun _ => rfl) hinner, hbehind⟩

theorem InsidePair.append_left {position : Nat} (h : InsidePair text position) (before : Text) :
    InsidePair (before ++ text) (before.length + position) := by
  obtain ⟨front, c, closer, inner, rest, hcloser, hinner, rfl, hfront, hposition⟩ := h
  refine ⟨before ++ front, c, closer, inner, rest, hcloser, hinner, by rw [List.append_assoc], ?_, ?_⟩
  · rw [List.length_append]
    omega
  · rw [List.length_append]
    omega

theorem InsidePair.depth_ne_zero {position : Nat} (h : InsidePair text position) :
    (text.take position).foldl depthAfter 0 ≠ 0 := by
  obtain ⟨front, c, closer, inner, rest, hcloser, hinner, rfl, hfront, hposition⟩ := h
  obtain ⟨n, rfl⟩ : ∃ n, position = front.length + (n + 1) := ⟨position - front.length - 1, by omega⟩
  have hn : n ≤ inner.length := by omega
  have htake : (front ++ c :: (inner ++ closer :: rest)).take (front.length + (n + 1)) =
      front ++ c :: inner.take n := by
    rw [List.take_length_add_append, List.take_succ_cons, List.take_append_of_le_length hn]
  have hbound := hinner.le_foldl_depthAfter (front.foldl depthAfter 0 + 1) n
  rw [List.length_nil, Nat.zero_add] at hbound
  rw [htake, List.foldl_append, List.foldl_cons, depthAfter_opening hcloser]
  omega

theorem Nested.block {c closer : Char} {inner : Text} (hcloser : closer? c = some closer)
    (hinner : Nested (fun _ => false) [] inner) : Nested (fun _ => false) [] (c :: (inner ++ [closer])) :=
  .opening hcloser (hinner.append_outer (.closing (isClosing_of_closer? hcloser) .nil))

/-- The count behind a nested text is that of what follows it. -/
theorem Nested.foldl_depthAfter_take_append (hfront : Nested barred [] front) (rest : Text) (n : Nat) :
    ((front ++ rest).take (front.length + n)).foldl depthAfter 0 = (rest.take n).foldl depthAfter 0 := by
  have hcount := hfront.foldl_depthAfter 0
  rw [List.length_nil, Nat.add_zero] at hcount
  rw [List.take_length_add_append, List.foldl_append, hcount]

/-- Where the count is not zero, a character that is no bracket lies inside a pair.  The
induction is along the pairs that are not inside another one. -/
theorem Nested.insidePair_of_depth_ne_zero (h : Nested barred [] text) {position : Nat} {c : Char}
    (hc : text[position]? = some c) (hplain : isClosing c = false)
    (hdepth : (text.take position).foldl depthAfter 0 ≠ 0) : InsidePair text position := by
  induction hlength : text.length using Nat.strong_induction_on generalizing text position with
  | _ length ih =>
    cases h with
    | nil => cases hc
    | @opening d closer _ rest hcloser hrest =>
      obtain ⟨inner, behind, rfl, hinner, hbehind⟩ : ∃ inner behind, rest = inner ++ closer :: behind ∧
          Nested (fun _ => false) [] inner ∧ Nested barred [] behind := Nested.split hrest
      have hsplit : d :: (inner ++ closer :: behind) = (d :: (inner ++ [closer])) ++ behind := by simp
      have hblock : (d :: (inner ++ [closer])).length = inner.length + 2 := by simp
      cases position with
      | zero => exact absurd rfl hdepth
      | succ n =>
        rcases Nat.lt_trichotomy n inner.length with hn | rfl | hn
        · refine ⟨[], d, closer, inner, behind, hcloser, hinner, rfl, Nat.succ_pos n, ?_⟩
          rw [List.length_nil, Nat.zero_add]
          exact hn
        · -- the bracket that closes the pair
          rw [List.getElem?_cons_succ, List.getElem?_append_right (Nat.le_refl _), Nat.sub_self] at hc
          obtain rfl : closer = c := Option.some.inj hc
          rw [isClosing_of_closer? hcloser] at hplain
          cases hplain
        · obtain ⟨m, hm⟩ : ∃ m, n + 1 = (d :: (inner ++ [closer])).length + m := ⟨n - inner.length - 1, by omega⟩
          rw [hm, hsplit, (hinner.block hcloser).foldl_depthAfter_take_append] at hdepth
          rw [hm, hsplit, List.getElem?_append_right (Nat.le_add_right _ _), Nat.add_sub_cancel_left] at hc
          have hshorter : behind.length < length := by
            rw [← hlength, hsplit, List.length_append]
            omega
          rw [hm, hsplit]
          exact (ih behind.length hshorter hbehind hc hdepth rfl).append_left _
    | @plain d _ rest hopening hclosing _ hrest =>
      cases position with
      | zero => exact absurd rfl hdepth
      | succ position =>
        rw [List.take_succ_cons, List.foldl_cons, depthAfter_plain hopening hclosing] at hdepth
        have hshorter : rest.length < length := by
          rw [← hlength]
          exact Nat.lt_succ_self _
        have hshift := (ih rest.length hshorter hrest hc hdepth rfl).append_left [d]
        rwa [List.length_singleton, Nat.add_comm] at hshift

/-- In a nested text a character that is no bracket lies inside a pair exactly when the count
of open brackets is not zero there. -/
theorem Nested.insidePair_iff (h : Nested barred [] text) {position : Nat} {c : Char}
    (hc : text[position]? = some c) (hplain : isOpening c = false ∧ isClosing c = false) :
    InsidePair text position ↔ (text.take position).foldl depthAfter 0 ≠ 0 :=
  ⟨InsidePair.depth_ne_zero, h.insidePair_of_depth_ne_zero hc hplain.2⟩

end GoScaffold.Source
