import Mathlib.Data.List.Basic
import GoScaffold.Identifier.Basic
import GoScaffold.Proofs.Source.Headers
import GoScaffold.Proofs.Text.Words

/-!
# Blanks are in no identifier

The blanks are a few code points, so what holds of none of them is decided one by one.  That
letters and numbers are no blanks is read off the ends of their spans.
-/

namespace GoScaffold

open Unicode (isBlank)

namespace Unicode

/-- The code points from the first of a span to its last. -/
def Span.codes (span : Span) : List Nat :=
  List.range' span.first (span.last + 1 - span.first)

theorem Span.mem_codes {span : Span} {n : Nat} (h : span.contains n = true) : n ∈ span.codes := by
  simp only [Span.contains, Bool.and_eq_true, decide_eq_true_eq] at h
  obtain ⟨⟨hfirst, hlast⟩, -⟩ := h
  rw [Span.codes, List.mem_range'_1]
  omega

def blankCodes : List Nat :=
  blankSpans.flatMap Span.codes

theorem toNat_mem_blankCodes {c : Char} (h : isBlank c = true) : c.toNat ∈ blankCodes := by
  rw [isBlank, Span.anyContains, List.any_eq_true] at h
  obtain ⟨span, hspan, hcontains⟩ := h
  exact List.mem_flatMap.2 ⟨span, hspan, Span.mem_codes hcontains⟩

/-- What is false of each blank is false of a character that is blank. -/
theorem eq_false_of_isBlank {p : Char → Bool} (hp : ∀ n ∈ blankCodes, p (Char.ofNat n) = false)
    {c : Char} (h : isBlank c = true) : p c = false := by
  have hcode := hp c.toNat (toNat_mem_blankCodes h)
  rwa [Char.ofNat_toNat] at hcode

/-- Does every span of the one list end before every span of the other begins, or the other
way round? -/
def Span.areApart (spans others : List Span) : Bool :=
  spans.all fun span => others.all fun other => span.last.blt other.first || other.last.blt span.first

theorem Span.anyContains_eq_false_of_areApart {spans others : List Span} (h : areApart spans others = true)
    {n : Nat} (hn : anyContains spans n = true) : anyContains others n = false := by
  rw [anyContains, List.any_eq_true] at hn
  rw [anyContains, List.any_eq_false]
  obtain ⟨span, hspan, hcontains⟩ := hn
  intro other hother hboth
  rw [areApart, List.all_eq_true] at h
  have hends := List.all_eq_true.1 (h span hspan) other hother
  simp only [contains, Bool.and_eq_true, decide_eq_true_eq] at hcontains hboth
  simp only [Bool.or_eq_true, Nat.blt_eq] at hends
  omega

end Unicode

theorem isBlank_of_isIdentifierPart {c : Char} (h : isIdentifierPart c = true) : isBlank c = false := by
  by_cases hascii : c.toNat < 0x80
  · by_contra hblank
    rw [Bool.not_eq_false] at hblank
    have hcode : ¬ (c.toNat < 0x80 ∧ isIdentifierPart c = true) := by
      simpa using Unicode.eq_false_of_isBlank (p := fun c => decide (c.toNat < 0x80) && isIdentifierPart c)
        (by decide) hblank
    exact hcode ⟨hascii, h⟩
  · have halphabetic : Unicode.Span.areApart Unicode.alphabeticSpans Unicode.blankSpans = true := by
      decide +kernel
    have hnumeric : Unicode.Span.areApart Unicode.numericSpans Unicode.blankSpans = true := by decide +kernel
    rw [isIdentifierPart, Unicode.isAlphabetic, Unicode.isNumeric, if_neg hascii, if_neg hascii,
      Bool.or_eq_true, Bool.or_eq_true, beq_iff_eq] at h
    rcases h with (hletter | hnumber) | rfl
    · exact Unicode.Span.anyContains_eq_false_of_areApart halphabetic hletter
    · exact Unicode.Span.anyContains_eq_false_of_areApart hnumeric hnumber
    · decide

theorem isBlank_of_isWordChar {c : Char} (h : Source.isWordChar c = true) : isBlank c = false := by
  by_contra hblank
  rw [Bool.not_eq_false] at hblank
  rw [Unicode.eq_false_of_isBlank (p := Source.isWordChar) (by decide) hblank] at h
  cases h

theorem isBlanks_of_isSpacing {text : Text} (h : Source.IsSpacing text) : Text.IsBlanks text := by
  intro c hc
  rcases Source.eq_of_isGap (h c hc) with rfl | rfl <;> decide

theorem isIdentifierPart_of_isIdentifierStart {c : Char} (h : isIdentifierStart c = true) :
    isIdentifierPart c = true := by
  simp only [isIdentifierStart, isIdentifierPart, Bool.or_eq_true] at h ⊢
  exact h.imp_left .inl

theorem isIdentifierPart_of_mem {name : Text} (h : isIdentifier name = true) :
    name ≠ [] ∧ ∀ c ∈ name, isIdentifierPart c = true := by
  cases name with
  | nil => cases h
  | cons c rest =>
    simp only [isIdentifier, Bool.and_eq_true, List.all_eq_true] at h
    obtain ⟨⟨hstart, hrest⟩, -⟩ := h
    refine ⟨List.cons_ne_nil c rest, ?_⟩
    intro d hd
    rcases List.mem_cons.1 hd with rfl | hd
    · exact isIdentifierPart_of_isIdentifierStart hstart
    · exact hrest d hd

theorem isWord_of_isIdentifier {name : Text} (h : isIdentifier name = true) : Text.IsWord name := by
  obtain ⟨hne, hparts⟩ := isIdentifierPart_of_mem h
  refine ⟨hne, ?_⟩
  intro c hc
  exact isBlank_of_isIdentifierPart (hparts c hc)

theorem isWord_of_isAsciiIdentifier {name : Text} (h : Source.isAsciiIdentifier name = true) :
    Text.IsWord name := by
  constructor
  · rintro rfl
    cases h
  · intro c hc
    exact isBlank_of_isWordChar (Source.isWordChar_of_mem_isAsciiIdentifier h c hc)

end GoScaffold
