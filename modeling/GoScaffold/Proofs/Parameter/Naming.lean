import GoScaffold.Parameter
import GoScaffold.Proofs.Identifier.Casing
import GoScaffold.Proofs.Text.Pieces

/-!
# Names for all parameters

A parameter list has one parameter for each piece between its commas that is not blank.
What a piece declares depends on its words, and, when it is a single word, on the pieces
behind it.  The parameters without a name get one that is an identifier and that nothing
else in the list is called.
-/

namespace GoScaffold.Param

open Text (IsTrimmed IsWord words collapse join trim splitOutside)

/-! ### What the pieces declare -/

/-- The words of the pieces between the commas outside brackets; blank pieces are left out. -/
def pieces (list : Text) : List (List Text) :=
  ((splitOutside ',' list).map words).filter fun piece => !piece.isEmpty

/-- The type that a piece with a name has: all words behind the first, if that is an
identifier. -/
def givenType? : List Text → Option Text
  | first :: second :: others =>
    if isIdentifier first then some (join [' '] (second :: others)) else none
  | _ => none

/-- What a piece declares, given the pieces behind it. -/
inductive Declares (later : List (List Text)) : List Text → Slot → Prop
  /-- `n int` -/
  | named {name second : Text} {others : List Text} (hname : isIdentifier name = true) :
    Declares later (name :: second :: others) ⟨some name, join [' '] (second :: others)⟩
  /-- `chan int` -/
  | typed {first second : Text} {others : List Text} (hfirst : isIdentifier first = false) :
    Declares later (first :: second :: others) ⟨none, join [' '] (first :: second :: others)⟩
  /-- `a` in `a, b int` -/
  | shared {word type : Text} (htype : later.findSome? givenType? = some type) :
    Declares later [word] ⟨some word, type⟩
  /-- `int` -/
  | bare {word : Text} (htype : later.findSome? givenType? = none) : Declares later [word] ⟨none, word⟩

/-- One slot for each piece, in order. -/
inductive DeclaresAll : List (List Text) → List Slot → Prop
  | nil : DeclaresAll [] []
  | cons {piece : List Text} {later : List (List Text)} {slot : Slot} {slots : List Slot}
    (first : Declares later piece slot) (others : DeclaresAll later slots) :
    DeclaresAll (piece :: later) (slot :: slots)

theorem DeclaresAll.length_eq {listed : List (List Text)} {slots : List Slot} (h : DeclaresAll listed slots) :
    slots.length = listed.length := by
  induction h with
  | nil => rfl
  | cons first others ih => simp [ih]

/-! ### Entries by their words -/

/-- The entry that is spelled by words. -/
def Entry.ofWords : List Text → Entry
  | [] => .bare []
  | [word] => .bare word
  | first :: second :: others =>
    if isIdentifier first then .named first (join [' '] (second :: others))
    else .typed (join [' '] (first :: second :: others))

theorem Entry.of_eq_ofWords {text : Text} (h : IsTrimmed text) : Entry.of text = Entry.ofWords (words text) := by
  cases hwords : words text with
  | nil =>
    have htext : text = [] := by
      rw [← Text.trim_of_isTrimmed h, Text.trim_eq_nil_iff, ← Text.words_eq_nil_iff, hwords]
    subst htext
    rfl
  | cons first others =>
    have hmem : first ∈ words text := by simp [hwords]
    have hfirst : IsWord first := Text.isWord_of_mem_words first hmem
    rcases h.eq_of_words hwords with ⟨rfl, rfl⟩ | ⟨c, rest, htext, hc, rfl⟩
    · rw [Entry.of, Text.splitAtBlank?_of_no_blank hfirst.2, Entry.ofWords]
    · cases hrest : words rest with
      | nil =>
        -- a blank behind the only word would not have been trimmed
        exfalso
        rw [hrest] at hwords
        have hone := Text.trim_of_words_singleton hwords
        rw [Text.trim_of_isTrimmed h, htext] at hone
        simp at hone
      | cons second behind =>
        have hcollapse : collapse text = join [' '] (first :: second :: behind) := by
          rw [collapse, hwords, hrest]
        have hsplit : text.splitAtBlank? = some (first, rest) := by
          rw [htext, Text.splitAtBlank?_append hfirst.2 hc]
        rw [Entry.of, hsplit]
        dsimp only
        rw [hcollapse, collapse, hrest, Entry.ofWords]

theorem entries_eq (list : Text) : entries list = (pieces list).map Entry.ofWords := by
  have hkept : ∀ piece : Text, (!(trim piece).isEmpty) = !(words piece).isEmpty := by
    intro piece
    rw [Bool.eq_iff_iff]
    simp [Text.trim_eq_nil_iff, Text.words_eq_nil_iff]
  rw [entries, pieces, List.filter_map, List.filter_map, List.map_map, List.map_map]
  have hfilter : (fun entry : Text => !entry.isEmpty) ∘ trim = (fun piece : List Text => !piece.isEmpty) ∘ words :=
    funext hkept
  rw [hfilter]
  apply List.map_congr_left
  intro piece _
  rw [Function.comp_apply, Function.comp_apply, Entry.of_eq_ofWords (Text.isTrimmed_trim piece), Text.words_trim]

theorem namedType?_ofWords (piece : List Text) : (Entry.ofWords piece).namedType? = givenType? piece := by
  match piece with
  | [] => rfl
  | [word] => rfl
  | first :: second :: others =>
    rw [Entry.ofWords, givenType?]
    split <;> rfl

theorem declaresAll_settle {listed : List (List Text)} (hne : ∀ piece ∈ listed, piece ≠ []) :
    DeclaresAll listed (settle (listed.map Entry.ofWords)) := by
  induction listed with
  | nil => exact .nil
  | cons piece later ih =>
    obtain ⟨hpiece, hlater⟩ := List.forall_mem_cons.1 hne
    have hgiven : (later.map Entry.ofWords).findSome? Entry.namedType? = later.findSome? givenType? := by
      rw [List.findSome?_map]
      exact congrArg later.findSome? (funext namedType?_ofWords)
    rw [List.map_cons]
    match piece, hpiece with
    | [word], _ =>
      rw [Entry.ofWords, settle, hgiven]
      cases htype : later.findSome? givenType? with
      | some type => exact .cons (.shared htype) (ih hlater)
      | none => exact .cons (.bare htype) (ih hlater)
    | first :: second :: others, _ =>
      rw [Entry.ofWords]
      cases hfirst : isIdentifier first with
      | true => exact .cons (.named hfirst) (ih hlater)
      | false => exact .cons (.typed hfirst) (ih hlater)

theorem declaresAll_entries (list : Text) : DeclaresAll (pieces list) (settle (entries list)) := by
  rw [entries_eq]
  apply declaresAll_settle
  intro piece hpiece
  simpa using List.of_mem_filter hpiece

/-! ### Names that are made up -/

theorem isIdentifier_nameOfType (type : Text) : isIdentifier (nameOfType type) = true := by
  unfold nameOfType
  dsimp only
  split
  next hname => exact hname
  next => decide

theorem isIdentifier_numbered {base : Text} (h : isIdentifier base = true) (n : Nat) :
    isIdentifier (numbered base n) = true := by
  rw [numbered]
  split
  next => exact h
  next =>
    have hdigit : ∀ d ∈ Nat.toDigits 10 n, d.isDigit = true :=
      fun _ hd => Nat.isDigit_of_mem_toDigits (by decide) (by decide) hd
    have hpart : ∀ d ∈ Nat.toDigits 10 n, isIdentifierPart d = true := by
      intro d hd
      apply isIdentifierPart_of_isWordChar
      simp [Source.isWordChar, Char.isAlphanum, hdigit d hd]
    have hkeyword : isKeyword (base ++ Nat.toDigits 10 n) = false := by
      apply isKeyword_eq_false_of_any (p := Char.isDigit) rfl
      obtain ⟨d, hd⟩ := List.exists_mem_of_ne_nil _ (Nat.toDigits_ne_nil (b := 10) (n := n))
      rw [List.any_eq_true]
      exact ⟨d, List.mem_append_right _ hd, hdigit d hd⟩
    cases base with
    | nil => cases h
    | cons c rest =>
      simp only [isIdentifier, Bool.and_eq_true, List.all_eq_true] at h
      rw [List.cons_append] at hkeyword ⊢
      simp only [isIdentifier, hkeyword, Bool.not_false, Bool.and_true, Bool.and_eq_true, List.all_eq_true,
        List.forall_mem_append]
      exact ⟨h.1.1, h.1.2, hpart⟩

/-- The parameters of slots beside the names in `used`.  A slot with a name keeps it, and one
without gets the first of the numbered names of its type that is not in use, and that is
in use from then on. -/
inductive Fills : List Text → List Slot → List Param → Prop
  | nil {used : List Text} : Fills used [] []
  | written {used : List Text} {name type : Text} {slots : List Slot} {params : List Param}
    (others : Fills used slots params) : Fills used (⟨some name, type⟩ :: slots) (⟨name, type⟩ :: params)
  | made {used : List Text} {type : Text} {n : Nat} {slots : List Slot} {params : List Param}
    (hle : n ≤ used.length) (hstops : StopsAt used (numbered (nameOfType type)) n)
    (others : Fills (numbered (nameOfType type) n :: used) slots params) :
    Fills used (⟨none, type⟩ :: slots) (⟨numbered (nameOfType type) n, type⟩ :: params)

theorem fills_fill (used : List Text) (slots : List Slot) : Fills used slots (fill used slots) := by
  induction slots generalizing used with
  | nil => exact .nil
  | cons slot slots ih =>
    obtain ⟨name?, type⟩ := slot
    cases name? with
    | some name => exact .written (ih used)
    | none =>
      obtain ⟨n, hle, hstops⟩ := exists_stopsAt (numbered_injective (nameOfType type)) used
      rw [fill, freshNumbered_eq_of_stopsAt hstops]
      exact .made hle hstops (ih _)

/-- The names of the parameters whose slots have none. -/
def madeUp (slots : List Slot) (params : List Param) : List Text :=
  ((slots.zip params).filter fun pair => pair.1.name?.isNone).map fun pair => pair.2.name

@[simp] theorem madeUp_nil : madeUp [] [] = [] := rfl

@[simp] theorem madeUp_cons_some (name type : Text) (slots : List Slot) (param : Param) (params : List Param) :
    madeUp (⟨some name, type⟩ :: slots) (param :: params) = madeUp slots params := rfl

@[simp] theorem madeUp_cons_none (type : Text) (slots : List Slot) (param : Param) (params : List Param) :
    madeUp (⟨none, type⟩ :: slots) (param :: params) = param.name :: madeUp slots params := rfl

namespace Fills

variable {used : List Text} {slots : List Slot} {params : List Param}

theorem length_eq (h : Fills used slots params) : params.length = slots.length := by
  induction h with
  | nil => rfl
  | written others ih => simp [ih]
  | made hle hstops others ih => simp [ih]

theorem names_perm (h : Fills used slots params) :
    (params.map Param.name).Perm (slots.filterMap Slot.name? ++ madeUp slots params) := by
  induction h with
  | nil => simp
  | written others ih => simpa using ih
  | made hle hstops others ih => simpa using (ih.cons _).trans List.perm_middle.symm

theorem isIdentifier_of_mem_madeUp (h : Fills used slots params) :
    ∀ name ∈ madeUp slots params, isIdentifier name = true := by
  induction h with
  | nil => simp
  | written others ih => simpa using ih
  | made hle hstops others ih =>
    rw [madeUp_cons_none, List.forall_mem_cons]
    exact ⟨isIdentifier_numbered (isIdentifier_nameOfType _) _, ih⟩

theorem not_mem_of_mem_madeUp (h : Fills used slots params) : ∀ name ∈ madeUp slots params, name ∉ used := by
  induction h with
  | nil => simp
  | written others ih => simpa using ih
  | made hle hstops others ih =>
    rw [madeUp_cons_none, List.forall_mem_cons]
    exact ⟨hstops.not_mem, fun name hname hmem => ih name hname (List.mem_cons_of_mem _ hmem)⟩

/-- A name that was made up is in use for the rest of the list. -/
theorem nodup_madeUp (h : Fills used slots params) : (madeUp slots params).Nodup := by
  induction h with
  | nil => simp
  | written others ih => simpa using ih
  | made hle hstops others ih =>
    rw [madeUp_cons_none, List.nodup_cons]
    exact ⟨fun hmem => others.not_mem_of_mem_madeUp _ hmem List.mem_cons_self, ih⟩

/-- When the written names are in use, the made up ones bring no name that was there before. -/
theorem nodup_names_iff (h : Fills used slots params) (hused : ∀ name ∈ slots.filterMap Slot.name?, name ∈ used) :
    (params.map Param.name).Nodup ↔ (slots.filterMap Slot.name?).Nodup := by
  rw [h.names_perm.nodup_iff, List.nodup_append]
  constructor
  · rintro ⟨hwritten, -, -⟩
    exact hwritten
  · intro hwritten
    refine ⟨hwritten, h.nodup_madeUp, ?_⟩
    rintro name hname _ hmade rfl
    exact h.not_mem_of_mem_madeUp name hmade (hused name hname)

end Fills

/-- Every parameter list has one parameter for each of its pieces, in order, with the type and
the name that the piece declares.  One without a name gets the first of the numbered names
of its type that is not written in the list, not reserved and not made up before, and
there are no more of them to pass than such names.  What is made up is an identifier and
made up once, so all names are different exactly when those that are written are. -/
theorem ofList_names_all (list : Text) (reserved : List Text) :
    let slots := settle (entries list)
    let written := slots.filterMap Slot.name?
    let params := ofList list reserved
    DeclaresAll (pieces list) slots ∧
      Fills (written ++ reserved) slots params ∧
      params.length = (pieces list).length ∧
      (params.map Param.name).Perm (written ++ madeUp slots params) ∧
      (∀ name ∈ madeUp slots params, isIdentifier name = true ∧ name ∉ written ∧ name ∉ reserved) ∧
      (madeUp slots params).Nodup ∧
      ((params.map Param.name).Nodup ↔ written.Nodup) := by
  intro slots written params
  have hdeclares : DeclaresAll (pieces list) slots := declaresAll_entries list
  have hfills : Fills (written ++ reserved) slots params := fills_fill _ _
  refine ⟨hdeclares, hfills, hfills.length_eq.trans hdeclares.length_eq, hfills.names_perm, ?_,
    hfills.nodup_madeUp, hfills.nodup_names_iff fun _ hname => List.mem_append_left _ hname⟩
  intro name hname
  have hfree := hfills.not_mem_of_mem_madeUp name hname
  rw [List.mem_append, not_or] at hfree
  exact ⟨hfills.isIdentifier_of_mem_madeUp name hname, hfree⟩

/-- A type that is written twice, a name that shares a later type, and a reserved name. -/
example : ofList "a, chan int, b string, string, string" ["string"] =
    [⟨['a'], "string"⟩, ⟨"arg", "chan int"⟩, ⟨['b'], "string"⟩, ⟨"string1", "string"⟩,
      ⟨"string2", "string"⟩] := by decide +kernel

end GoScaffold.Param
