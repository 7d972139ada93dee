import GoScaffold.Catalog.OfSource
import GoScaffold.Proofs.Identifier.Classes
import GoScaffold.Proofs.Text.Pieces

/-!
# Fields by the words of a line

What a member line declares depends on the words of its pieces only: one word in each
piece but the last, which has a name and the words of the type.
-/

namespace GoScaffold.Field

open Text (IsWord words collapse join trim splitOutside)

def sharing (names : List Text) (type : Text) : List Field :=
  names.map fun name => ⟨name, type⟩

theorem map_trim_of_words {pieces names : List Text}
    (h : pieces.map words = names.map fun name => [name]) : pieces.map trim = names := by
  induction pieces generalizing names with
  | nil =>
    rw [List.map_nil, eq_comm, List.map_eq_nil_iff] at h
    rw [h, List.map_nil]
  | cons piece pieces ih =>
    cases names with
    | nil => cases h
    | cons name names =>
      rw [List.map_cons, List.map_cons, List.cons.injEq] at h
      rw [List.map_cons, Text.trim_of_words_singleton h.1, ih h.2]

theorem ofShared_of_words {pieces names typeWords : List Text} {last : Text}
    (hpieces : pieces.map words = names.map (fun name => [name]) ++ [last :: typeWords])
    (htype : typeWords ≠ []) (hnames : ∀ name ∈ names ++ [last], name ≠ []) :
    ofShared pieces = sharing (names ++ [last]) (join [' '] typeWords) := by
  obtain ⟨front, back, rfl, hfront, hback⟩ := List.map_eq_append_iff.1 hpieces
  obtain ⟨piece, rfl, hpiece⟩ : ∃ piece, back = [piece] ∧ words piece = last :: typeWords := by
    obtain ⟨piece, none, rfl, hpiece, hnone⟩ := List.map_eq_cons_iff.1 hback
    rw [List.map_eq_nil_iff] at hnone
    exact ⟨piece, by rw [hnone], hpiece⟩
  obtain ⟨c, rest, htrim, hc, hrest⟩ :
      ∃ c rest, trim piece = last ++ c :: rest ∧ Unicode.isBlank c = true ∧ words rest = typeWords := by
    rcases (Text.isTrimmed_trim piece).eq_of_words ((Text.words_trim piece).trans hpiece) with
      ⟨hnone, -⟩ | hfound
    · exact absurd hnone htype
    · exact hfound
  have hmem : last ∈ words piece := by simp [hpiece]
  have hlast : IsWord last := Text.isWord_of_mem_words last hmem
  have hcollapse : collapse rest = join [' '] typeWords := by rw [collapse, hrest]
  have hnotEmpty : (collapse rest).isEmpty = false := by
    rw [List.isEmpty_eq_false_iff, Ne, Text.collapse_eq_nil_iff, ← Text.words_eq_nil_iff, hrest]
    exact htype
  have hkept : ((front.map trim ++ [last]).filter fun name => !name.isEmpty) = names ++ [last] := by
    rw [map_trim_of_words hfront, List.filter_eq_self]
    intro name hname
    simpa using hnames name hname
  rw [ofShared, List.getLast?_concat, Option.getD_some, htrim, Text.splitAtBlank?_append hlast.2 hc]
  simp only [hnotEmpty, Bool.false_eq_true, if_false, List.dropLast_concat]
  rw [hkept, hcollapse, sharing]

theorem ofSingle_of_words {line name : Text} {typeWords : List Text}
    (hwords : words line = name :: typeWords) (htype : typeWords ≠ [])
    (hname : isIdentifier name = true) :
    ofSingle (collapse line) = sharing [name] (join [' '] typeWords) := by
  have hall : ∀ word ∈ typeWords, IsWord word := by
    intro word hword
    have hmem : word ∈ words line := by simp [hwords, hword]
    exact Text.isWord_of_mem_words word hmem
  cases typeWords with
  | nil => exact absurd rfl htype
  | cons first others =>
    have hline : collapse line = name ++ ' ' :: join [' '] (first :: others) := by
      rw [collapse, hwords, Text.join_cons_cons, List.append_assoc, List.singleton_append]
    have htrim : (trim (join [' '] (first :: others))).isEmpty = false := by
      rw [List.isEmpty_eq_false_iff, Ne, Text.trim_eq_nil_iff, ← Text.words_eq_nil_iff,
        Text.words_join hall]
      exact List.cons_ne_nil first others
    rw [hline, ofSingle, Text.splitAtBlank?_append (isWord_of_isIdentifier hname).2 (by decide)]
    simp only [hname, htrim, Bool.not_false, Bool.and_self, if_true]
    rw [collapse, Text.words_join hall, sharing, List.map_cons, List.map_nil]

/-- A line that declares fields: identifiers between commas, and a type. -/
theorem ofLine_of_words {line last : Text} {names typeWords : List Text}
    (hpieces : (splitOutside ',' line).map words =
      names.map (fun name => [name]) ++ [last :: typeWords])
    (htype : typeWords ≠ []) (hnames : ∀ name ∈ names ++ [last], isIdentifier name = true) :
    ofLine (collapse line) = sharing (names ++ [last]) (join [' '] typeWords) := by
  have hcollapsed : (splitOutside ',' (collapse line)).map words =
      names.map (fun name => [name]) ++ [last :: typeWords] := by
    rw [← hpieces]
    exact Text.splitOutsideFrom_collapse (by decide) 0 line
  have hlength : (splitOutside ',' (collapse line)).length = names.length + 1 := by
    have hsame := congrArg List.length hcollapsed
    simpa using hsame
  rw [ofLine, hlength]
  cases names with
  | nil =>
    obtain ⟨piece, none, hsplit, hpiece, hnone⟩ := List.map_eq_cons_iff.1 hpieces
    rw [List.map_eq_nil_iff] at hnone
    subst hnone
    obtain rfl := Text.splitOutside_eq_singleton hsplit
    exact ofSingle_of_words hpiece htype (hnames last (by simp))
  | cons name names =>
    have hmany : 1 < (name :: names).length + 1 := by simp
    simp only [hmany, if_true]
    apply ofShared_of_words hcollapsed htype
    intro other hother
    exact (isWord_of_isIdentifier (hnames other hother)).1

theorem ofLine_of_word {line word : Text} (hsplit : splitOutside ',' word = [word])
    (hwords : words line = [word]) : ofLine (collapse line) = [] := by
  have hmem : word ∈ words line := by simp [hwords]
  have hword : IsWord word := Text.isWord_of_mem_words word hmem
  have hline : collapse line = word := by
    rw [collapse, hwords]
    exact List.intercalate_singleton
  have hnone : Text.splitAtBlank? word = none := Text.splitAtBlank?_of_no_blank hword.2
  rw [hline, ofLine, hsplit, List.length_singleton]
  simp [ofSingle, hnone]

end GoScaffold.Field
