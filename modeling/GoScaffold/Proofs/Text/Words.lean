import Mathlib.Data.List.Basic
import Mathlib.Data.List.TakeWhile
import Mathlib.Tactic.ByContra
import GoScaffold.Text.Basic

/-!
# Words and blanks

The words of a text are all that collapsing keeps of it.  They are found on both
sides of any blank, so trimming, collapsing and cutting at the first blank are each
described by what they do to the words.
-/

namespace GoScaffold.Text

open Unicode (isBlank)

/-- Decided along the text: characters are too many to go through them all. -/
instance decidableForallMem (text : Text) (p : Char → Prop) [DecidablePred p] :
    Decidable (∀ c ∈ text, p c) :=
  List.decidableBAll p text

/-- Non-empty and without blanks. -/
def IsWord (word : Text) : Prop :=
  word ≠ [] ∧ ∀ c ∈ word, isBlank c = false

def IsBlanks (text : Text) : Prop :=
  ∀ c ∈ text, isBlank c = true

def IsCollapsed (text : Text) : Prop :=
  collapse text = text

instance (word : Text) : Decidable (IsWord word) :=
  @instDecidableAnd _ _ _ (List.decidableBAll (fun c => isBlank c = false) word)

instance (text : Text) : Decidable (IsBlanks text) :=
  List.decidableBAll (fun c => isBlank c = true) text

instance (text : Text) : Decidable (IsCollapsed text) :=
  inferInstanceAs (Decidable (collapse text = text))

/-! ### Pieces -/

theorem splitOn_eq_splitOnP (p : Char → Bool) (text : Text) : splitOn p text = text.splitOnP p := by
  induction text with
  | nil => rfl
  | cons c rest ih =>
    rw [splitOn, List.splitOnP_cons_eq_if_modifyHead, ih]
    cases hpieces : rest.splitOnP p with
    | nil => exact absurd hpieces (List.splitOnP_ne_nil p rest)
    | cons piece pieces => rfl

theorem splitOn_join {c : Char} {pieces : List Text} (hne : pieces ≠ [])
    (h : ∀ piece ∈ pieces, c ∉ piece) : splitOn (· == c) (join [c] pieces) = pieces := by
  rw [splitOn_eq_splitOnP, ← List.splitOn_eq_splitOnP]
  exact List.splitOn_intercalate c h hne

/-! ### The words of a text -/

theorem words_append_blank (front : Text) {c : Char} (hc : isBlank c = true) (rest : Text) :
    words (front ++ c :: rest) = words front ++ words rest := by
  simp only [words, splitOn_eq_splitOnP]
  rw [List.splitOnP_append_cons front rest hc, List.filter_append]

@[simp] theorem words_nil : words [] = [] := rfl

theorem words_cons_blank {c : Char} (hc : isBlank c = true) (rest : Text) :
    words (c :: rest) = words rest := by
  simpa using words_append_blank [] hc rest

theorem words_of_isWord {word : Text} (h : IsWord word) : words word = [word] := by
  rw [words, splitOn_eq_splitOnP, List.splitOnP_eq_singleton h.2]
  cases word with
  | nil => exact absurd rfl h.1
  | cons c rest => rfl

theorem IsWord.append {front rest : Text} (hfront : IsWord front) (hrest : IsWord rest) :
    IsWord (front ++ rest) := by
  refine ⟨List.append_ne_nil_of_left_ne_nil hfront.1 rest, ?_⟩
  intro c hc
  rcases List.mem_append.1 hc with hc | hc
  · exact hfront.2 c hc
  · exact hrest.2 c hc

theorem words_blanks_append {blanks : Text} (h : IsBlanks blanks) (text : Text) :
    words (blanks ++ text) = words text := by
  induction blanks with
  | nil => rfl
  | cons c blanks ih =>
    obtain ⟨hc, htail⟩ := List.forall_mem_cons.1 h
    rw [List.cons_append, words_cons_blank hc, ih htail]

theorem words_map {f : Char → Char} (hblank : ∀ c, isBlank c = true → isBlank (f c) = true)
    (hother : ∀ c, isBlank c = false → f c = c) (text : Text) : words (text.map f) = words text := by
  have hsplit : splitOn isBlank (text.map f) = splitOn isBlank text := by
    induction text with
    | nil => rfl
    | cons c rest ih =>
      rw [List.map_cons, splitOn, splitOn, ih]
      cases hc : isBlank c with
      | true => rw [if_pos (hblank c hc), if_pos rfl]
      | false => rw [hother c hc, hc]
  rw [words, hsplit, words]

theorem words_append_blanks (text : Text) {blanks : Text} (h : IsBlanks blanks) :
    words (text ++ blanks) = words text := by
  cases blanks with
  | nil => rw [List.append_nil]
  | cons c blanks =>
    obtain ⟨hc, htail⟩ := List.forall_mem_cons.1 h
    have hrest : words blanks = [] := by
      simpa using words_blanks_append htail []
    rw [words_append_blank text hc, hrest, List.append_nil]

/-- A word, some blanks and a text: the word comes first. -/
theorem words_word_append {word blanks : Text} (hword : IsWord word) (hne : blanks ≠ [])
    (hblanks : IsBlanks blanks) (text : Text) :
    words (word ++ (blanks ++ text)) = word :: words text := by
  cases blanks with
  | nil => exact absurd rfl hne
  | cons c blanks =>
    obtain ⟨hc, htail⟩ := List.forall_mem_cons.1 hblanks
    rw [List.cons_append, words_append_blank word hc, words_of_isWord hword, words_blanks_append htail]
    rfl

theorem leading_blanks (text : Text) :
    ∃ blanks behind, text = blanks ++ behind ∧ IsBlanks blanks ∧
      ∀ c, behind.head? = some c → isBlank c = false := by
  refine ⟨text.takeWhile isBlank, text.dropWhile isBlank, by simp, ?_, ?_⟩
  · intro c hc
    exact List.mem_takeWhile_imp hc
  intro c hc
  have hstop := List.head?_dropWhile_not isBlank text
  rw [hc] at hstop
  simpa using hstop

/-- Every text is blanks, or blanks and a word that a blank or the end of the text
follows. -/
theorem blanks_or_word (text : Text) :
    IsBlanks text ∨ ∃ blanks word rest, text = blanks ++ (word ++ rest) ∧ IsBlanks blanks ∧
      IsWord word ∧ (rest = [] ∨ ∃ c after, rest = c :: after ∧ isBlank c = true) := by
  obtain ⟨blanks, behind, rfl, hblanks, hbehind⟩ := leading_blanks text
  cases behind with
  | nil => exact .inl (by rwa [List.append_nil])
  | cons c behind =>
    refine .inr ⟨blanks, (c :: behind).takeWhile (!isBlank ·), (c :: behind).dropWhile (!isBlank ·),
      by rw [List.takeWhile_append_dropWhile], hblanks, ⟨?_, ?_⟩, ?_⟩
    · rw [List.takeWhile_cons_of_pos (by simp [hbehind c rfl])]
      exact List.cons_ne_nil c _
    · intro d hd
      simpa using List.mem_takeWhile_imp hd
    · cases hrest : (c :: behind).dropWhile (!isBlank ·) with
      | nil => exact .inl rfl
      | cons d after =>
        have hstop := List.head?_dropWhile_not (!isBlank ·) (c :: behind)
        rw [hrest] at hstop
        exact .inr ⟨d, after, rfl, by simpa using hstop⟩

theorem words_induction {motive : Text → Prop} (blanks : ∀ text, IsBlanks text → motive text)
    (last : ∀ blanks word, IsBlanks blanks → IsWord word → motive (blanks ++ word))
    (word : ∀ blanks word c rest, IsBlanks blanks → IsWord word → isBlank c = true →
      motive rest → motive (blanks ++ (word ++ c :: rest))) : ∀ text, motive text := by
  intro text
  induction hlength : text.length using Nat.strong_induction_on generalizing text with
  | _ length ih =>
    rcases blanks_or_word text with
      hblanks | ⟨before, first, rest, rfl, hbefore, hfirst, rfl | ⟨c, after, rfl, hc⟩⟩
    · exact blanks text hblanks
    · rw [List.append_nil]
      exact last before first hbefore hfirst
    · refine word before first c after hbefore hfirst hc (ih after.length ?_ after rfl)
      simp only [List.length_append, List.length_cons] at hlength
      omega

theorem isWord_of_mem_words {text : Text} : ∀ word ∈ words text, IsWord word := by
  induction text using words_induction with
  | blanks text hblanks =>
    intro word hword
    rw [← List.append_nil text, words_blanks_append hblanks] at hword
    cases hword
  | last blanks first hblanks hfirst =>
    intro word hword
    rw [words_blanks_append hblanks, words_of_isWord hfirst, List.mem_singleton] at hword
    rwa [hword]
  | word blanks first c rest hblanks hfirst hc ih =>
    intro word hword
    rw [words_blanks_append hblanks, words_append_blank first hc, words_of_isWord hfirst] at hword
    rcases List.mem_cons.1 hword with rfl | hword
    · exact hfirst
    · exact ih word hword

/-! ### Collapsing -/

theorem join_cons_cons (separator first second : Text) (pieces : List Text) :
    join separator (first :: second :: pieces) = first ++ separator ++ join separator (second :: pieces) :=
  List.intercalate_cons_cons

theorem join_cons (separator first : Text) (pieces : List Text) :
    join separator (first :: pieces) = first ++ pieces.flatMap (separator ++ ·) := by
  induction pieces generalizing first with
  | nil => exact (List.intercalate_singleton).trans (List.append_nil first).symm
  | cons second pieces ih => rw [join_cons_cons, ih, List.flatMap_cons, List.append_assoc, List.append_assoc]

/-- Where one join follows another, the words at the seam are one. -/
theorem join_append_join (separator last first : Text) (pieces others : List Text) :
    join separator (pieces ++ [last]) ++ join separator (first :: others) =
      join separator (pieces ++ (last ++ first) :: others) := by
  cases pieces with
  | nil => simp only [List.nil_append, join_cons, List.flatMap_nil, List.append_nil, List.append_assoc]
  | cons piece pieces =>
    simp only [List.cons_append, join_cons, List.flatMap_append, List.flatMap_cons, List.flatMap_nil,
      List.append_nil, List.append_assoc]

theorem join_append_separator (separator : Text) {pieces others : List Text} (hpieces : pieces ≠ [])
    (hothers : others ≠ []) :
    join separator pieces ++ (separator ++ join separator others) = join separator (pieces ++ others) := by
  cases pieces with
  | nil => exact absurd rfl hpieces
  | cons piece pieces =>
    cases others with
    | nil => exact absurd rfl hothers
    | cons other others =>
      simp only [List.cons_append, join_cons, List.flatMap_append, List.flatMap_cons, List.append_assoc]

theorem words_join {pieces : List Text} (h : ∀ piece ∈ pieces, IsWord piece) :
    words (join [' '] pieces) = pieces := by
  induction pieces with
  | nil => rfl
  | cons first pieces ih =>
    obtain ⟨hfirst, hothers⟩ := List.forall_mem_cons.1 h
    cases pieces with
    | nil => simpa [join] using words_of_isWord hfirst
    | cons second pieces =>
      rw [join_cons_cons, List.append_assoc, words_word_append hfirst (by simp) (by decide), ih hothers]

@[simp] theorem words_collapse (text : Text) : words (collapse text) = words text :=
  words_join isWord_of_mem_words

theorem isCollapsed_collapse (text : Text) : IsCollapsed (collapse text) := by
  rw [IsCollapsed, collapse, words_collapse, collapse]

theorem isCollapsed_of_isWord {word : Text} (h : IsWord word) : IsCollapsed word := by
  rw [IsCollapsed, collapse, words_of_isWord h]
  exact List.intercalate_singleton

theorem IsCollapsed.join_words {text : Text} (h : IsCollapsed text) (hne : text ≠ []) :
    words text ≠ [] ∧ join [' '] (words text) = text := by
  refine ⟨?_, h⟩
  intro hwords
  rw [IsCollapsed, collapse, hwords] at h
  exact hne h.symm

/-- Collapsed texts have no blanks at their ends, so nothing collapses where they meet. -/
theorem IsCollapsed.append {front rest : Text} (hfront : IsCollapsed front) (hrest : IsCollapsed rest) :
    IsCollapsed (front ++ rest) := by
  have hleft : ∀ word ∈ words front, IsWord word := isWord_of_mem_words
  have hright : ∀ word ∈ words rest, IsWord word := isWord_of_mem_words
  rw [← hfront, ← hrest, collapse, collapse]
  rcases (words front).eq_nil_or_concat with hnil | ⟨pieces, last, hpieces⟩
  · rw [hnil]
    exact isCollapsed_collapse rest
  cases hothers : words rest with
  | nil =>
    rw [join, join, List.intercalate_nil, List.append_nil]
    exact isCollapsed_collapse front
  | cons first others =>
    rw [List.concat_eq_append] at hpieces
    rw [hpieces, List.forall_mem_append, List.forall_mem_singleton] at hleft
    rw [hothers, List.forall_mem_cons] at hright
    have hwords : ∀ word ∈ pieces ++ (last ++ first) :: others, IsWord word := by
      rw [List.forall_mem_append, List.forall_mem_cons]
      exact ⟨hleft.1, hleft.2.append hright.1, hright.2⟩
    rw [hpieces, join_append_join, IsCollapsed, collapse, words_join hwords]

/-- Blanks between collapsed texts collapse to a space or to nothing. -/
theorem IsCollapsed.collapse_append_blanks {front blanks rest : Text} (hfront : IsCollapsed front)
    (hblanks : IsBlanks blanks) (hrest : IsCollapsed rest) :
    ∃ separator, IsBlanks separator ∧ collapse (front ++ (blanks ++ rest)) = front ++ (separator ++ rest) := by
  cases blanks with
  | nil => exact ⟨[], by decide, hfront.append hrest⟩
  | cons c blanks =>
    obtain ⟨hc, htail⟩ := List.forall_mem_cons.1 hblanks
    have hwords : words (front ++ (c :: blanks ++ rest)) = words front ++ words rest := by
      rw [List.cons_append, words_append_blank front hc, words_blanks_append htail]
    rw [collapse, hwords]
    by_cases hnone : words front = [] ∨ words rest = []
    · refine ⟨[], by decide, ?_⟩
      conv_rhs => rw [← hfront, ← hrest, collapse, collapse]
      rcases hnone with hnone | hnone
      · rw [hnone]
        rfl
      · rw [hnone, List.append_nil]
        exact (List.append_nil _).symm
    · rw [not_or] at hnone
      refine ⟨[' '], by decide, ?_⟩
      conv_rhs => rw [← hfront, ← hrest, collapse, collapse]
      exact (join_append_separator [' '] hnone.1 hnone.2).symm

theorem words_eq_nil_iff {text : Text} : words text = [] ↔ IsBlanks text := by
  constructor
  · intro h
    induction text using words_induction with
    | blanks text hblanks => exact hblanks
    | last blanks first hblanks hfirst =>
      rw [words_blanks_append hblanks, words_of_isWord hfirst] at h
      cases h
    | word blanks first c rest hblanks hfirst hc ih =>
      rw [words_blanks_append hblanks, words_append_blank first hc, words_of_isWord hfirst] at h
      cases h
  · intro h
    rw [← List.append_nil text, words_blanks_append h, words_nil]

theorem collapse_eq_nil_iff {text : Text} : collapse text = [] ↔ IsBlanks text := by
  rw [← words_eq_nil_iff]
  constructor
  · intro h
    rw [← words_collapse, h, words_nil]
  · intro h
    rw [collapse, h]
    rfl

theorem collapse_blanks_append {blanks : Text} (hblanks : IsBlanks blanks) (text : Text) :
    collapse (blanks ++ text) = collapse text := by
  rw [collapse, words_blanks_append hblanks, collapse]

theorem collapse_word_append_blank {word : Text} (hword : IsWord word) {c : Char} (hc : isBlank c = true)
    (rest : Text) :
    collapse (word ++ c :: rest) = if words rest = [] then word else word ++ ' ' :: collapse rest := by
  rw [collapse, words_append_blank word hc, words_of_isWord hword, collapse]
  cases words rest with
  | nil => simp [join]
  | cons second others => simp [join_cons_cons]

theorem length_collapse_le (text : Text) : (collapse text).length ≤ text.length := by
  induction text using words_induction with
  | blanks text hblanks => simp [collapse_eq_nil_iff.2 hblanks]
  | last blanks word hblanks hword =>
    rw [collapse_blanks_append hblanks, isCollapsed_of_isWord hword]
    simp
  | word blanks word c rest hblanks hword hc ih =>
    rw [collapse_blanks_append hblanks, collapse_word_append_blank hword hc]
    split <;> simp only [List.length_append, List.length_cons] <;> omega

/-- One of two blanks in a row would not have been kept. -/
theorem IsCollapsed.isBlank_eq_false {front rest : Text} {c d : Char}
    (h : IsCollapsed (front ++ c :: d :: rest)) (hc : isBlank c = true) : isBlank d = false := by
  by_contra hd
  rw [Bool.not_eq_false] at hd
  have hwords : words (front ++ c :: d :: rest) = words (front ++ c :: rest) := by
    rw [words_append_blank front hc, words_append_blank front hc, words_cons_blank hd]
  have hshorter : collapse (front ++ c :: rest) = front ++ c :: d :: rest := by
    rw [collapse, ← hwords]
    exact h
  have hle := length_collapse_le (front ++ c :: rest)
  rw [hshorter] at hle
  simp only [List.length_append, List.length_cons] at hle
  omega

theorem mem_join_spaces {pieces : List Text} {c : Char} (h : c ∈ join [' '] pieces) :
    c = ' ' ∨ ∃ piece ∈ pieces, c ∈ piece := by
  induction pieces with
  | nil => cases h
  | cons first pieces ih =>
    cases pieces with
    | nil => exact .inr ⟨first, by simp, by simpa [join] using h⟩
    | cons second pieces =>
      rw [join_cons_cons, List.mem_append, List.mem_append, List.mem_singleton] at h
      rcases h with (hfirst | hspace) | hrest
      · exact .inr ⟨first, by simp, hfirst⟩
      · exact .inl hspace
      · rcases ih hrest with hspace | ⟨piece, hpiece, hc⟩
        · exact .inl hspace
        · exact .inr ⟨piece, List.mem_cons_of_mem first hpiece, hc⟩

/-- A collapsed text has no blanks but spaces. -/
theorem IsCollapsed.eq_space {text : Text} (h : IsCollapsed text) {c : Char} (hc : c ∈ text)
    (hblank : isBlank c = true) : c = ' ' := by
  rw [← h, collapse] at hc
  rcases mem_join_spaces hc with hspace | ⟨word, hword, hmem⟩
  · exact hspace
  · rw [(isWord_of_mem_words word hword).2 c hmem] at hblank
    cases hblank

/-! ### Trimming -/

def IsTrimmed (text : Text) : Prop :=
  (∀ c, text.head? = some c → isBlank c = false) ∧ ∀ c, text.getLast? = some c → isBlank c = false

theorem isTrimmed_of_no_blank {text : Text} (h : ∀ c ∈ text, isBlank c = false) : IsTrimmed text := by
  constructor
  · intro c hc
    exact h c (List.mem_of_head? hc)
  · intro c hc
    exact h c (List.mem_of_getLast? hc)

theorem dropWhile_blanks_append {blanks text : Text} (hblanks : IsBlanks blanks)
    (htext : ∀ c, text.head? = some c → isBlank c = false) :
    (blanks ++ text).dropWhile isBlank = text := by
  rw [List.dropWhile_append_of_pos hblanks]
  cases text with
  | nil => rfl
  | cons c text => rw [List.dropWhile_cons_of_neg (by simp [htext c rfl])]

theorem trimEnd_append_blanks {text blanks : Text} (hblanks : IsBlanks blanks)
    (htext : ∀ c, text.getLast? = some c → isBlank c = false) : trimEnd (text ++ blanks) = text := by
  rw [trimEnd, List.reverse_append, dropWhile_blanks_append, List.reverse_reverse]
  · intro c hc
    exact hblanks c (List.mem_reverse.1 hc)
  · intro c hc
    rw [List.head?_reverse] at hc
    exact htext c hc

/-- Trimming takes the blanks around a trimmed text away. -/
theorem trim_append {left middle right : Text} (hleft : IsBlanks left) (hmiddle : IsTrimmed middle)
    (hright : IsBlanks right) : trim (left ++ (middle ++ right)) = middle := by
  cases middle with
  | nil =>
    have hall : (left ++ ([] ++ right)).dropWhile isBlank = [] := by
      rw [List.nil_append, List.dropWhile_append_of_pos hleft]
      exact List.dropWhile_eq_nil_iff.2 hright
    rw [trim, hall]
    rfl
  | cons c middle =>
    rw [trim, dropWhile_blanks_append hleft, trimEnd_append_blanks hright hmiddle.2]
    rintro d ⟨rfl⟩
    exact hmiddle.1 c rfl

/-- A text is its trimmed part between blanks. -/
theorem trim_spec (text : Text) :
    ∃ left right, text = left ++ (trim text ++ right) ∧ IsBlanks left ∧ IsBlanks right ∧
      IsTrimmed (trim text) := by
  obtain ⟨left, behind, rfl, hleft, hbehind⟩ := leading_blanks text
  obtain ⟨right, middle, hsplit, hright, hmiddle⟩ := leading_blanks behind.reverse
  obtain ⟨right, rfl⟩ : ∃ reversed : Text, right = reversed.reverse := ⟨_, right.reverse_reverse.symm⟩
  obtain ⟨middle, rfl⟩ : ∃ reversed : Text, middle = reversed.reverse := ⟨_, middle.reverse_reverse.symm⟩
  obtain rfl : behind = middle ++ right := by
    rw [← List.reverse_inj, hsplit, List.reverse_append]
  have htrimmed : IsTrimmed middle := by
    constructor
    · intro c hc
      apply hbehind
      cases middle with
      | nil => cases hc
      | cons d middle => exact hc
    · intro c hc
      apply hmiddle
      rwa [List.head?_reverse]
  have hright : IsBlanks right := by
    intro c hc
    exact hright c (List.mem_reverse.2 hc)
  rw [trim_append hleft htrimmed hright]
  exact ⟨left, right, rfl, hleft, hright, htrimmed⟩

@[simp] theorem words_trim (text : Text) : words (trim text) = words text := by
  obtain ⟨left, right, htext, hleft, hright, -⟩ := trim_spec text
  conv_rhs => rw [htext, words_blanks_append hleft, words_append_blanks _ hright]

theorem isTrimmed_trim (text : Text) : IsTrimmed (trim text) := by
  obtain ⟨-, -, -, -, -, htrimmed⟩ := trim_spec text
  exact htrimmed

theorem trim_eq_nil_iff {text : Text} : trim text = [] ↔ IsBlanks text := by
  rw [← words_eq_nil_iff, ← words_trim]
  constructor
  · intro h
    rw [h, words_nil]
  · intro h
    rcases (trim text).eq_nil_or_concat with hnil | ⟨front, c, hfront⟩
    · exact hnil
    · have hblank : isBlank c = true := words_eq_nil_iff.1 h c (by simp [hfront])
      rw [(isTrimmed_trim text).2 c (by simp [hfront])] at hblank
      cases hblank

theorem trim_of_isTrimmed {text : Text} (h : IsTrimmed text) : trim text = text := by
  have hnone : IsBlanks [] := by decide
  simpa using trim_append hnone h hnone

theorem IsTrimmed.eq_nil_of_isBlanks_append {blanks text : Text} (h : IsTrimmed (blanks ++ text))
    (hblanks : IsBlanks blanks) : blanks = [] := by
  cases blanks with
  | nil => rfl
  | cons c blanks =>
    have hblank := hblanks c (by simp)
    rw [h.1 c rfl] at hblank
    cases hblank

/-- A trimmed text starts with its first word. -/
theorem IsTrimmed.eq_of_words {text first : Text} {others : List Text} (h : IsTrimmed text)
    (hwords : words text = first :: others) :
    (others = [] ∧ text = first) ∨
      ∃ c rest, text = first ++ c :: rest ∧ isBlank c = true ∧ words rest = others := by
  rcases blanks_or_word text with hblanks | ⟨blanks, word, rest, rfl, hblanks, hword, hrest⟩
  · rw [words_eq_nil_iff.2 hblanks] at hwords
    cases hwords
  · obtain rfl := h.eq_nil_of_isBlanks_append hblanks
    rcases hrest with rfl | ⟨c, after, rfl, hc⟩
    · rw [List.nil_append, List.append_nil, words_of_isWord hword] at hwords
      obtain ⟨rfl, rfl⟩ := List.cons.inj hwords
      exact .inl ⟨rfl, by rw [List.nil_append, List.append_nil]⟩
    · rw [List.nil_append, words_append_blank word hc, words_of_isWord hword] at hwords
      obtain ⟨rfl, rfl⟩ := List.cons.inj hwords
      exact .inr ⟨c, after, rfl, hc, rfl⟩

theorem trim_of_words_singleton {text word : Text} (h : words text = [word]) : trim text = word := by
  rcases (isTrimmed_trim text).eq_of_words ((words_trim text).trans h) with
    ⟨-, htext⟩ | ⟨c, rest, htext, hc, hrest⟩
  · exact htext
  · -- only blanks could follow the word, and the last of them would be trimmed
    exfalso
    have hblanks : IsBlanks (c :: rest) := by
      intro d hd
      rcases List.mem_cons.1 hd with rfl | hd
      · exact hc
      · exact words_eq_nil_iff.1 hrest d hd
    obtain ⟨d, hd⟩ : ∃ d, (c :: rest).getLast? = some d := ⟨_, List.getLast?_eq_some_getLast (by simp)⟩
    have hlast : (trim text).getLast? = some d := by
      rw [htext, List.getLast?_append_of_ne_nil _ (by simp), hd]
    have hblank := hblanks d (List.mem_of_getLast? hd)
    rw [(isTrimmed_trim text).2 d hlast] at hblank
    cases hblank

theorem isTrimmed_join {pieces : List Text} (h : ∀ piece ∈ pieces, IsWord piece) :
    IsTrimmed (join [' '] pieces) := by
  induction pieces with
  | nil => exact isTrimmed_of_no_blank (fun _ hc => by cases hc)
  | cons first pieces ih =>
    obtain ⟨hfirst, hothers⟩ := List.forall_mem_cons.1 h
    have htrimmed := isTrimmed_of_no_blank hfirst.2
    cases pieces with
    | nil =>
      rw [join, List.intercalate_singleton]
      exact htrimmed
    | cons second pieces =>
      have hne : join [' '] (second :: pieces) ≠ [] := by
        intro hnil
        have hwords := words_join hothers
        rw [hnil] at hwords
        cases hwords
      rw [join_cons_cons, List.append_assoc, List.singleton_append]
      constructor
      · intro c hc
        rw [List.head?_append_of_ne_nil _ hfirst.1] at hc
        exact htrimmed.1 c hc
      · intro c hc
        rw [List.getLast?_append_of_ne_nil _ (List.cons_ne_nil _ _), List.getLast?_cons,
          List.getLast?_eq_some_getLast hne, Option.getD_some] at hc
        apply (ih hothers).2
        rw [List.getLast?_eq_some_getLast hne, hc]

theorem IsCollapsed.isTrimmed {text : Text} (h : IsCollapsed text) : IsTrimmed text := by
  rw [← h, collapse]
  exact isTrimmed_join isWord_of_mem_words

/-- A trimmed text whose blanks are single spaces is collapsed. -/
theorem IsTrimmed.isCollapsed {text : Text} (htrimmed : IsTrimmed text)
    (hspaces : ∀ c ∈ text, isBlank c = true → c = ' ')
    (hsingle : ∀ front c d rest, text = front ++ c :: d :: rest → isBlank c = true → isBlank d = false) :
    IsCollapsed text := by
  induction text using words_induction with
  | blanks text hblanks =>
    rw [← trim_of_isTrimmed htrimmed, trim_eq_nil_iff.2 hblanks]
    rfl
  | last blanks word hblanks hword =>
    obtain rfl := htrimmed.eq_nil_of_isBlanks_append hblanks
    exact isCollapsed_of_isWord hword
  | word blanks word c rest hblanks hword hc ih =>
    obtain rfl := htrimmed.eq_nil_of_isBlanks_append hblanks
    obtain rfl : c = ' ' := hspaces c (by simp) hc
    rw [List.nil_append] at htrimmed hspaces hsingle ⊢
    -- the space is neither the last character nor in front of another blank
    cases rest with
    | nil => exact absurd (htrimmed.2 ' ' (by simp)) (by decide)
    | cons d rest =>
      have hd : isBlank d = false := hsingle word ' ' d rest rfl hc
      have hwords : words (d :: rest) ≠ [] := by
        intro hnil
        rw [words_eq_nil_iff.1 hnil d (by simp)] at hd
        cases hd
      have hrest : IsCollapsed (d :: rest) := by
        apply ih
        · refine ⟨fun e he => by rwa [← Option.some.inj he], ?_⟩
          intro e he
          apply htrimmed.2
          rw [List.getLast?_append_of_ne_nil _ (List.cons_ne_nil _ _), List.getLast?_cons_cons, he]
        · intro e he
          exact hspaces e (by simp [List.mem_cons.1 he])
        · intro front e f after hafter
          exact hsingle (word ++ ' ' :: front) e f after (by simp [hafter])
      rw [IsCollapsed, collapse_word_append_blank hword hc, if_neg hwords, hrest]

/-- A trimmed part of a collapsed text is collapsed. -/
theorem IsCollapsed.of_append {left text right : Text} (h : IsCollapsed (left ++ (text ++ right)))
    (htrimmed : IsTrimmed text) : IsCollapsed text := by
  apply htrimmed.isCollapsed
  · intro c hc
    exact h.eq_space (by simp [hc])
  · rintro front c d rest rfl hc
    have hwhole : IsCollapsed ((left ++ front) ++ c :: d :: (rest ++ right)) := by simpa using h
    exact hwhole.isBlank_eq_false hc

/-- At any place a collapsed text goes on behind nothing or one space. -/
theorem IsCollapsed.eq_separator_append {front rest : Text} (h : IsCollapsed (front ++ rest)) :
    ∃ separator, (separator = [] ∨ separator = [' ']) ∧ rest = separator ++ trim rest := by
  obtain ⟨left, right, hrest, hleft, hright, -⟩ := trim_spec rest
  have hend : right = [] := by
    rcases right.eq_nil_or_concat with hnil | ⟨more, c, rfl⟩
    · exact hnil
    · have hlast : (front ++ rest).getLast? = some c := by
        rw [hrest, List.concat_eq_append]
        simp
      have hblank := hright c (by simp)
      rw [h.isTrimmed.2 c hlast] at hblank
      cases hblank
  rw [hend, List.append_nil] at hrest
  refine ⟨left, ?_, hrest⟩
  match left, hleft with
  | [], _ => exact .inl rfl
  | [c], hleft =>
    have hmem : c ∈ front ++ rest := by
      rw [hrest]
      simp
    exact .inr (by rw [h.eq_space hmem (hleft c (by simp))])
  | c :: d :: more, hleft =>
    rw [hrest, List.cons_append, List.cons_append] at h
    have hblank := hleft d (by simp)
    rw [h.isBlank_eq_false (hleft c (by simp))] at hblank
    cases hblank

/-! ### Cutting at the first blank -/

theorem splitAtBlank?_append {word : Text} {c : Char} (hword : ∀ d ∈ word, isBlank d = false)
    (hc : isBlank c = true) (rest : Text) : splitAtBlank? (word ++ c :: rest) = some (word, rest) := by
  have hnot : ∀ d ∈ word, (!isBlank d) = true := by simpa using hword
  rw [splitAtBlank?, List.dropWhile_append_of_pos hnot, List.takeWhile_append_of_pos hnot]
  simp [hc]

theorem splitAtBlank?_eq_some {text word rest : Text} (h : splitAtBlank? text = some (word, rest)) :
    ∃ c, text = word ++ c :: rest ∧ isBlank c = true ∧ ∀ d ∈ word, isBlank d = false := by
  rw [splitAtBlank?] at h
  split at h
  next => cases h
  next c behind hdrop =>
    obtain ⟨rfl, rfl⟩ := Prod.mk.inj (Option.some.inj h)
    have hstop := List.head?_dropWhile_not (!isBlank ·) text
    rw [hdrop] at hstop
    refine ⟨c, by rw [← hdrop, List.takeWhile_append_dropWhile], by simpa using hstop, ?_⟩
    intro d hd
    simpa using List.mem_takeWhile_imp hd

theorem splitAtBlank?_of_no_blank {text : Text} (h : ∀ c ∈ text, isBlank c = false) :
    splitAtBlank? text = none := by
  have hdrop : text.dropWhile (!isBlank ·) = [] := by
    rw [List.dropWhile_eq_nil_iff]
    intro c hc
    simp [h c hc]
  rw [splitAtBlank?, hdrop]

theorem splitAtBlank?_eq_none {text : Text} (h : splitAtBlank? text = none) :
    ∀ c ∈ text, isBlank c = false := by
  rw [splitAtBlank?] at h
  split at h
  next hdrop =>
    intro c hc
    simpa using List.dropWhile_eq_nil_iff.1 hdrop c hc
  next => cases h

end GoScaffold.Text
