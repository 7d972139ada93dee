import GoScaffold.Proofs.FirstFailure
import GoScaffold.Proofs.Identifier.Casing
import GoScaffold.Proofs.Scaffold.Dispatch
import GoScaffold.Request

/-!
# Lists of verbs

A list is read item by item between its commas.  Blank items are passed over; any other one is a
verb, in letters of any case, or the whole list is refused for the first item that is not.
-/

namespace GoScaffold

open Text (IsBlanks join splitOn trim)
open Unicode (uppercase)

namespace Verb

/-! ### One item -/

/-- The item is the name of the verb in ASCII letters of any case, between any blanks. -/
def IsSpelling (item : Text) (verb : Verb) : Prop :=
  (trim item).map Char.toUpper = verb.name

instance (item : Text) (verb : Verb) : Decidable (IsSpelling item verb) :=
  inferInstanceAs (Decidable (_ = _))

theorem ofText?_eq_some_iff {item : Text} {verb : Verb} :
    ofText? item = some verb ↔ (trim item).flatMap uppercase = verb.name := by
  constructor
  · intro h
    have hname := List.find?_some h
    exact (beq_iff_eq.1 hname).symm
  · intro h
    have hall : ∀ verb ∈ all, all.find? (fun other => other.name == verb.name) = some verb := by
      decide +kernel
    rw [ofText?, h]
    exact hall verb verb.mem_all

theorem toUpper_of_not_ascii {c : Char} (h : ¬ c.toNat < 128) : c.toUpper = c := by
  refine dif_neg ?_
  rintro ⟨-, hle⟩
  have hcode : c.toNat ≤ 122 := UInt32.le_iff_toNat_le.1 hle
  omega

theorem toNat_lt_of_isSpelling {item : Text} {verb : Verb} (h : IsSpelling item verb) :
    ∀ c ∈ trim item, c.toNat < 128 := by
  have hall : ∀ verb ∈ all, ∀ c ∈ verb.name, c.toNat < 128 := by decide +kernel
  intro c hc
  by_contra hascii
  have hmem : c.toUpper ∈ verb.name := by
    rw [← h]
    exact List.mem_map_of_mem hc
  rw [toUpper_of_not_ascii hascii] at hmem
  exact hascii (hall verb verb.mem_all c hmem)

theorem flatMap_uppercase_of_ascii {text : Text} (h : ∀ c ∈ text, c.toNat < 128) :
    text.flatMap uppercase = text.map Char.toUpper := by
  rw [List.map_eq_flatMap]
  apply List.flatMap_congr
  intro c hc
  exact Unicode.uppercase_of_ascii (h c hc)

/-- Of the items in ASCII the spellings of a verb are read as the verb, and no others.  An item
with `ı` or `ſ`, of which the capitals are ASCII letters, may be read as a verb as well. -/
theorem ofText?_eq_some_iff_isSpelling {item : Text} (h : ∀ c ∈ trim item, c.toNat < 128) {verb : Verb} :
    ofText? item = some verb ↔ IsSpelling item verb := by
  rw [ofText?_eq_some_iff, flatMap_uppercase_of_ascii h, IsSpelling]

theorem ofText?_of_isSpelling {item : Text} {verb : Verb} (h : IsSpelling item verb) :
    ofText? item = some verb :=
  (ofText?_eq_some_iff_isSpelling (toNat_lt_of_isSpelling h)).2 h

theorem isSpelling_name (verb : Verb) : IsSpelling verb.name verb := by
  have hall : ∀ verb ∈ all, IsSpelling verb.name verb := by decide +kernel
  exact hall verb verb.mem_all

/-! ### The list -/

/-- An item for which a list is refused: in uppercase letters it is the name of no verb. -/
def IsRefused (item : Text) : Prop :=
  ¬ IsBlanks item ∧ ∀ verb : Verb, (trim item).flatMap uppercase ≠ verb.name

theorem isRefused_iff {item : Text} : IsRefused item ↔ ¬ IsBlanks item ∧ ofText? item = none := by
  simp only [IsRefused, Option.eq_none_iff_forall_ne_some, ne_eq, ofText?_eq_some_iff]

instance : DecidablePred IsRefused :=
  fun _ => decidable_of_iff _ isRefused_iff.symm

/-- The verb of an item that is not blank. -/
def ofItem (item : Text) : Except GenerateError Verb :=
  match ofText? item with
  | some verb => .ok verb
  | none => .error (.unknownVerb item)

theorem ofItem_eq_ok_iff {item : Text} {verb : Verb} : ofItem item = .ok verb ↔ ofText? item = some verb := by
  unfold ofItem
  cases ofText? item with
  | none => simp only [reduceCtorEq]
  | some found => simp only [Except.ok.injEq, Option.some.injEq]

theorem ofList_join {items : List Text} (h : ∀ item ∈ items, ',' ∉ item) :
    ofList (join [','] items) = (items.filter fun item => !decide (IsBlanks item)).mapM ofItem := by
  have hfilter : (fun item : Text => !(trim item).isEmpty) = fun item => !decide (IsBlanks item) := by
    funext item
    rw [Bool.not_inj_iff, Bool.eq_iff_iff, List.isEmpty_iff, Text.trim_eq_nil_iff, decide_eq_true_eq]
  have hitems : (splitOn (· == ',') (join [','] items)).filter (fun item => !decide (IsBlanks item)) =
      items.filter fun item => !decide (IsBlanks item) := by
    cases items with
    | nil => rfl
    | cons item items => rw [Text.splitOn_join (List.cons_ne_nil item items) h]
  rw [ofList, hfilter, hitems]
  rfl

theorem ofList_join_eq_ok {items : List Text} (h : ∀ item ∈ items, ',' ∉ item) {verbs : List Verb}
    (hverbs : List.Forall₂ IsSpelling (items.filter fun item => !decide (IsBlanks item)) verbs) :
    ofList (join [','] items) = .ok verbs := by
  rw [ofList_join h, mapM_eq_ok_iff]
  apply hverbs.imp
  intro item verb hspelling
  exact ofItem_eq_ok_iff.2 (ofText?_of_isSpelling hspelling)

/-- What stands behind the first refused item is not read. -/
theorem ofList_join_eq_error {before after : List Text} {item : Text}
    (h : ∀ other ∈ before ++ item :: after, ',' ∉ other) (hbefore : ∀ earlier ∈ before, ¬ IsRefused earlier)
    (hitem : IsRefused item) :
    ofList (join [','] (before ++ item :: after)) = .error (.unknownVerb item) := by
  rw [ofList_join h, mapM_eq_error_iff, List.filter_append, List.filter_cons_of_pos (by simpa using hitem.1)]
  refine ⟨_, item, _, rfl, ?_, by rw [ofItem, (isRefused_iff.1 hitem).2]⟩
  intro earlier hearlier
  obtain ⟨hmem, hblank⟩ := List.mem_filter.1 hearlier
  have hread : ofText? earlier ≠ none := fun hnone =>
    hbefore earlier hmem (isRefused_iff.2 ⟨by simpa using hblank, hnone⟩)
  obtain ⟨verb, hverb⟩ := Option.ne_none_iff_exists'.1 hread
  exact ⟨verb, ofItem_eq_ok_iff.2 hverb⟩

theorem exists_first_refused {items : List Text} (h : ∃ item ∈ items, IsRefused item) :
    ∃ before item after, items = before ++ item :: after ∧ (∀ earlier ∈ before, ¬ IsRefused earlier) ∧
      IsRefused item := by
  obtain ⟨item, hfirst⟩ : ∃ item, items.find? (fun item => decide (IsRefused item)) = some item := by
    rw [← Option.isSome_iff_exists, List.find?_isSome]
    simpa using h
  obtain ⟨hitem, before, after, rfl, hbefore⟩ := List.find?_eq_some_iff_append.1 hfirst
  exact ⟨before, item, after, rfl, by simpa using hbefore, by simpa using hitem⟩

/-- Items without commas, joined by commas, are read one by one.  Where every item that is not
blank spells a verb, the result is these verbs, in the order of the items.  Where one is
refused, the first of them is named as it is written.  So the names of verbs, joined by commas,
are read as the verbs. -/
theorem ofList_reads_items :
    (∀ items : List Text, (∀ item ∈ items, ',' ∉ item) →
      (∀ verbs, List.Forall₂ IsSpelling (items.filter fun item => !decide (IsBlanks item)) verbs →
        ofList (join [','] items) = .ok verbs) ∧
      ((∃ item ∈ items, IsRefused item) →
        ∃ before item after, items = before ++ item :: after ∧ (∀ earlier ∈ before, ¬ IsRefused earlier) ∧
          IsRefused item ∧ ofList (join [','] items) = .error (.unknownVerb item))) ∧
    ∀ verbs : List Verb, ofList (join [','] (verbs.map name)) = .ok verbs := by
  refine ⟨?_, ?_⟩
  · intro items hitems
    refine ⟨fun verbs => ofList_join_eq_ok hitems, ?_⟩
    intro hrefused
    obtain ⟨before, item, after, rfl, hbefore, hitem⟩ := exists_first_refused hrefused
    exact ⟨before, item, after, rfl, hbefore, hitem, ofList_join_eq_error hitems hbefore hitem⟩
  · intro verbs
    have hnames : ∀ verb ∈ all, ',' ∉ verb.name ∧ ¬ IsBlanks verb.name := by decide +kernel
    have hcommas : ∀ item ∈ verbs.map name, ',' ∉ item := by
      intro item hitem
      obtain ⟨verb, -, rfl⟩ := List.mem_map.1 hitem
      exact (hnames verb verb.mem_all).1
    have hkept : (verbs.map name).filter (fun item => !decide (IsBlanks item)) = verbs.map name := by
      rw [List.filter_eq_self]
      intro item hitem
      obtain ⟨verb, -, rfl⟩ := List.mem_map.1 hitem
      simpa using (hnames verb verb.mem_all).2
    apply ofList_join_eq_ok hcommas
    rw [hkept, List.forall₂_map_left_iff, List.forall₂_same]
    intro verb _
    exact verb.isSpelling_name

example : ofList " get,,POST ,\tPut,put" = .ok [.get, .post, .put, .put] ∧
    ofList "GET, , fetch ,no" = .error (.unknownVerb " fetch ") := by
  decide +kernel

end Verb

end GoScaffold
