import GoScaffold.Proofs.Source.Written

/-!
# What the nesting limit leaves

The limit blanks braces in pairs: a brace that opens too deep and the one that closes it
both become spaces.  So a text with properly nested brackets keeps them properly nested,
and what stood outside all brackets still does.
-/

namespace GoScaffold.Source

variable {limit depth : Nat} {barred : Char → Bool} {opened : List Char} {text : Text}

/-! ### Brackets that stay -/

/-- The brackets that wait to be closed, without the braces that opened beyond the limit,
where `depth` braces are open around the text. -/
def stayingOpen (limit depth : Nat) : List Char → List Char
  | [] => []
  | c :: outer =>
    if c = '}' ∧ limit ≤ outer.count '}' + depth then stayingOpen limit depth outer
    else c :: stayingOpen limit depth outer

theorem count_stayingOpen_le (limit depth : Nat) (opened : List Char) :
    (stayingOpen limit depth opened).count '}' ≤ opened.count '}' := by
  induction opened with
  | nil => exact Nat.le_refl 0
  | cons c outer ih =>
    rw [stayingOpen]
    split
    next => exact Nat.le_trans ih List.count_le_count_cons
    next =>
      rw [List.count_cons, List.count_cons]
      exact Nat.add_le_add_right ih _

/-- The outermost bracket stays. -/
theorem eq_nil_of_stayingOpen (hdepth : depth < limit) (h : stayingOpen limit depth opened = []) :
    opened = [] := by
  induction opened with
  | nil => rfl
  | cons c outer ih =>
    rw [stayingOpen] at h
    split at h
    next hdropped =>
      rw [ih h] at hdropped
      have hlimit := hdropped.2
      rw [List.count_nil] at hlimit
      omega
    next => cases h

/-- What the limit leaves of a bracketed text is bracketed, and its braces nest within the
limit.  The induction is along the brackets: those that are blanked are gone from what
waits to be closed, both at once. -/
theorem Bracketed.limited {other : Nat} (hdepth : depth < limit) (hspace : barred ' ' = false)
    (h : Bracketed other barred opened text) :
    Bracketed limit barred (stayingOpen limit depth opened)
      (limitedFrom limit (opened.count '}' + depth) text) := by
  have hblank : ∀ {opened rest}, Bracketed limit barred opened rest →
      Bracketed limit barred opened (' ' :: rest) := fun hrest =>
    .plain (by decide) (by decide) (by decide) (fun _ => hspace) hrest
  induction h with
  | nil => exact .nil
  | @opening c closer opened rest hcloser _ _ ih =>
    rw [limitedFrom, bracesAfter_opening hcloser]
    by_cases hbrace : c = '{'
    · subst hbrace
      obtain rfl : '}' = closer := Option.some.inj hcloser
      by_cases hdeep : limit ≤ opened.count '}' + depth
      · rw [stayingOpen, if_pos ⟨rfl, hdeep⟩] at ih
        rw [limitedChar_opening, if_pos hdeep]
        exact hblank ih
      · rw [stayingOpen, if_neg (fun hdropped => hdeep hdropped.2)] at ih
        rw [limitedChar_opening, if_neg hdeep]
        refine .opening hcloser (fun _ => ?_) ih
        have hle := count_stayingOpen_le limit depth opened
        omega
    · have hcloserNe : closer ≠ '}' := by
        rcases closer?_eq_some hcloser with ⟨-, rfl⟩ | ⟨-, rfl⟩ | ⟨rfl, -⟩
        · decide
        · decide
        · exact absurd rfl hbrace
      have hclosing : c ≠ '}' := by
        rintro rfl
        cases hcloser
      rw [stayingOpen, if_neg (fun hdropped => hcloserNe hdropped.1)] at ih
      rw [limitedChar_of_ne hbrace hclosing]
      exact .opening hcloser (fun heq => absurd heq hbrace) ih
  | @closing c opened rest hclosing _ ih =>
    rw [limitedFrom, bracesAfter_closing hclosing]
    by_cases hbrace : c = '}'
    · subst hbrace
      rw [stayingOpen, List.count_cons_self, limitedChar_closing]
      by_cases hdeep : limit ≤ opened.count '}' + depth
      · rw [if_pos ⟨rfl, hdeep⟩, if_pos (by omega)]
        exact hblank ih
      · rw [if_neg (fun hdropped => hdeep hdropped.2), if_neg (by omega)]
        exact .closing hclosing ih
    · have hopening : c ≠ '{' := by
        rintro rfl
        cases hclosing
      rw [stayingOpen, if_neg (fun hdropped => hbrace hdropped.1), limitedChar_of_ne hopening hbrace]
      exact .closing hclosing ih
  | @plain c opened rest hopening hclosing htoken hbarred _ ih =>
    have hbrace := isBrace_of_plain hopening hclosing
    rw [limitedFrom, limitedChar_of_not_brace hbrace, bracesAfter_of_not_brace hbrace]
    exact .plain hopening hclosing htoken (fun hnil => hbarred (eq_nil_of_stayingOpen hdepth hnil)) ih

/-! ### Texts that the limit changes on their own -/

/-- The limit makes `limited` of the text where `depth` braces are open, and as many are open
behind it. -/
def LimitedTo (limit depth : Nat) (text limited : Text) : Prop :=
  limitedFrom limit depth text = limited ∧ braceDepth depth text = depth

theorem LimitedTo.append {front rest frontLimited restLimited : Text}
    (hfront : LimitedTo limit depth front frontLimited) (hrest : LimitedTo limit depth rest restLimited) :
    LimitedTo limit depth (front ++ rest) (frontLimited ++ restLimited) := by
  constructor
  · rw [limitedFrom_append, hfront.1, hfront.2, hrest.1]
  · rw [braceDepth_append, hfront.2, hrest.2]

theorem LimitedTo.flatMap {α : Type} {listed : List α} {text limited : α → Text}
    (h : ∀ a ∈ listed, LimitedTo limit depth (text a) (limited a)) :
    LimitedTo limit depth (listed.flatMap text) (listed.flatMap limited) := by
  induction listed with
  | nil => exact ⟨rfl, rfl⟩
  | cons a listed ih =>
    obtain ⟨hfirst, hothers⟩ := List.forall_mem_cons.1 h
    rw [List.flatMap_cons, List.flatMap_cons]
    exact hfirst.append (ih hothers)

theorem LimitedTo.of_no_brace (h : ∀ c ∈ text, isBrace c = false) : LimitedTo limit depth text text :=
  limitedFrom_of_no_brace h limit depth

theorem LimitedTo.of_layout (h : IsLayout text) : LimitedTo limit depth text text := by
  apply LimitedTo.of_no_brace
  intro c hc
  exact isBrace_of_isLayout (h c hc)

theorem LimitedTo.block {limited : Text} (hdepth : depth < limit)
    (h : LimitedTo limit (depth + 1) text limited) :
    LimitedTo limit depth ('{' :: text ++ ['}']) ('{' :: limited ++ ['}']) := by
  have hopen : limitedChar limit depth '{' = '{' := by
    rw [limitedChar_opening, if_neg (Nat.not_le.2 hdepth)]
  have hclose : limitedChar limit (depth + 1) '}' = '}' := by
    rw [limitedChar_closing, if_neg (Nat.not_lt.2 (Nat.succ_le_of_lt hdepth))]
  constructor
  · rw [List.cons_append, limitedFrom, hopen, bracesAfter_leftBrace, limitedFrom_append, h.1, h.2, limitedFrom,
      hclose]
    rfl
  · rw [braceDepth_append]
    exact congrArg (fun depth => bracesAfter depth '}') h.2

theorem Bracketed.limitedTo {other : Nat} (h : Bracketed other barred [] text) (limit depth : Nat) :
    LimitedTo limit depth text (limitedFrom limit depth text) :=
  ⟨rfl, (h.keepsDepth depth).2⟩

theorem Frame.limitedTo_around (frame : Frame) (kind : Kind) {body limited : Text} (hlimit : 0 < limit)
    (h : LimitedTo limit 1 body limited) :
    LimitedTo limit 0 (frame.around kind body) (frame.around kind limited) := by
  obtain ⟨words, hwords, haround⟩ := frame.exists_around_eq kind
  rw [haround, haround]
  exact ((LimitedTo.of_no_brace hwords).append (.block hlimit h)).append (.of_layout frame.isLayout_trailing)

end GoScaffold.Source
