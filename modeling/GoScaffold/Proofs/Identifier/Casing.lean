import GoScaffold.Proofs.Identifier.Fresh
import GoScaffold.Proofs.Source.NestingLimit

/-!
# What a change of the first letter writes

The case mappings write letters: no space, tab or brace is the image of a letter, and the
lowercase form of an ASCII identifier is an identifier again.  The tables are checked
entry by entry, ASCII character by character.  So a type that has an ASCII identifier for a
name always gets a receiver.
-/

namespace GoScaffold

open Source (isGap isBrace isWordChar)

namespace Unicode

theorem toNat_ofNat_of_isValidChar {n : Nat} (h : n.isValidChar) : (Char.ofNat n).toNat = n := by
  rw [Char.ofNat, dif_pos h]
  rfl

theorem toNat_ofNat_ne {code n : Nat} (hn : n ≠ 0) (h : code ≠ n) : (Char.ofNat code).toNat ≠ n := by
  by_cases hvalid : code.isValidChar
  · rwa [toNat_ofNat_of_isValidChar hvalid]
  · rw [Char.ofNat, dif_neg hvalid]
    exact hn.symm

/-- A character goes to its expansion, or to the one that its shift says, or stays. -/
theorem mapCase_cases (shifts : List Shift) (expansions : List (Nat × List Nat)) (c : Char) :
    (∃ expansion ∈ expansions, expansion.1 = c.toNat ∧
        mapCase shifts expansions c = expansion.2.map Char.ofNat) ∨
      (∃ shift ∈ shifts, shift.span.contains c.toNat = true ∧
        mapCase shifts expansions c = [Char.ofNat (c.toNat + shift.distance).toNat]) ∨
      mapCase shifts expansions c = [c] := by
  rw [mapCase]
  cases hlookup : expansions.lookup c.toNat with
  | some codes =>
    obtain ⟨before, after, rfl, -⟩ := List.lookup_eq_some_iff.1 hlookup
    exact .inl ⟨(c.toNat, codes), List.mem_append_right _ List.mem_cons_self, rfl, rfl⟩
  | none =>
    cases hfind : shifts.find? (·.span.contains c.toNat) with
    | some shift =>
      exact .inr (.inl ⟨shift, List.mem_of_find?_eq_some hfind, by simpa using List.find?_some hfind, rfl⟩)
    | none => exact .inr (.inr rfl)

/-- A case mapping does not write a code that is in none of its expansions and whose
distance from every shift lies outside the shift. -/
theorem toNat_ne_of_mem_mapCase {shifts : List Shift} {expansions : List (Nat × List Nat)} {n : Nat}
    (hn : n ≠ 0) (hexpansions : ∀ expansion ∈ expansions, n ∉ expansion.2)
    (hshifts : ∀ shift ∈ shifts, shift.span.contains (n - shift.distance).toNat = false)
    {c : Char} (hc : c.toNat ≠ n) : ∀ d ∈ mapCase shifts expansions c, d.toNat ≠ n := by
  intro d hd
  rcases mapCase_cases shifts expansions c with
    ⟨expansion, hmem, -, himage⟩ | ⟨shift, hmem, hcontains, himage⟩ | hsame
  · rw [himage] at hd
    obtain ⟨code, hcode, rfl⟩ := List.mem_map.1 hd
    apply toNat_ofNat_ne hn
    rintro rfl
    exact hexpansions expansion hmem hcode
  · rw [himage, List.mem_singleton] at hd
    subst hd
    apply toNat_ofNat_ne hn
    intro hcode
    have hback : (n - shift.distance).toNat = c.toNat := by omega
    have hshift := hshifts shift hmem
    rw [hback, hcontains] at hshift
    cases hshift
  · rw [hsame, List.mem_singleton] at hd
    rwa [hd]

/-- What is true of each ASCII character is true of a character with a small code. -/
theorem of_ascii {p : Char → Bool} (hp : ((List.range 128).all fun n => p (Char.ofNat n)) = true) {c : Char}
    (h : c.toNat < 128) : p c = true := by
  have hcode := List.all_eq_true.1 hp c.toNat (List.mem_range.2 h)
  rwa [Char.ofNat_toNat] at hcode

theorem isUpper_iff {c : Char} : c.isUpper = true ↔ 65 ≤ c.toNat ∧ c.toNat ≤ 90 := by
  change decide ('A'.val ≤ c.val ∧ c.val ≤ 'Z'.val) = true ↔ _
  rw [decide_eq_true_eq, UInt32.le_iff_toNat_le, UInt32.le_iff_toNat_le]
  rfl

theorem isLower_iff {c : Char} : c.isLower = true ↔ 97 ≤ c.toNat ∧ c.toNat ≤ 122 := by
  change (decide ('a'.val ≤ c.val) && decide (c.val ≤ 'z'.val)) = true ↔ _
  rw [Bool.and_eq_true, decide_eq_true_eq, decide_eq_true_eq, UInt32.le_iff_toNat_le,
    UInt32.le_iff_toNat_le]
  rfl

theorem uppercase_of_ascii {c : Char} (h : c.toNat < 128) : uppercase c = [c.toUpper] := by
  rw [uppercase, if_pos h]

theorem lowercase_of_ascii {c : Char} (h : c.toNat < 128) : lowercase c = [c.toLower] := by
  rw [lowercase, if_pos h]

/-- The uppercase form of a letter has no space, tab or brace. -/
theorem not_gap_or_brace_of_mem_uppercase {c : Char} (h : isAlphabetic c = true) :
    ∀ d ∈ uppercase c, isGap d = false ∧ isBrace d = false := by
  intro d hd
  by_cases hascii : c.toNat < 128
  · have hletter : (!isAlphabetic c || (uppercase c).all fun d => !isGap d && !isBrace d) = true :=
      of_ascii (p := fun c => !isAlphabetic c || (uppercase c).all fun d => !isGap d && !isBrace d)
        rfl hascii
    rw [h, Bool.not_true, Bool.false_or, List.all_eq_true] at hletter
    simpa using hletter d hd
  · rw [uppercase, if_neg hascii] at hd
    have hexpansions : ∀ n ∈ [32, 9, 123, 125], ∀ expansion ∈ upperExpansions, n ∉ expansion.2 := by
      decide +kernel
    have hshifts : ∀ n ∈ [32, 9, 123, 125], ∀ shift ∈ upperShifts,
        shift.span.contains ((n : Nat) - shift.distance).toNat = false := by decide +kernel
    have hne : ∀ n ∈ [32, 9, 123, 125], d.toNat ≠ n := by
      intro n hn
      have hsmall : n ≠ 0 ∧ n < 128 := by
        revert hn n
        decide
      exact toNat_ne_of_mem_mapCase hsmall.1 (hexpansions n hn) (hshifts n hn) (by omega) d hd
    have hchar : ∀ e ∈ [' ', '\t', '{', '}'], d ≠ e := by
      intro e he heq
      have hcode : e.toNat ∈ [32, 9, 123, 125] := by
        clear heq
        revert e
        decide
      exact hne e.toNat hcode (congrArg Char.toNat heq)
    simp only [List.forall_mem_cons] at hchar
    obtain ⟨hspace, htab, hopening, hclosing, -⟩ := hchar
    simp [isGap, isBrace, hspace, htab, hopening, hclosing]

end Unicode

/-- A text without spaces, tabs and braces. -/
def IsUnbroken (text : Text) : Prop :=
  ∀ c ∈ text, isGap c = false ∧ isBrace c = false

theorem not_gap_or_brace_of_isIdentifierPart {c : Char} (h : isIdentifierPart c = true) :
    isGap c = false ∧ isBrace c = false := by
  have hspecial : [' ', '\t', '{', '}'].any isIdentifierPart = false := rfl
  have hne : ∀ d ∈ [' ', '\t', '{', '}'], c ≠ d := by
    rintro d hd rfl
    exact List.any_eq_false.1 hspecial c hd h
  simp only [List.forall_mem_cons] at hne
  obtain ⟨hspace, htab, hopening, hclosing, -⟩ := hne
  simp [isGap, isBrace, hspace, htab, hopening, hclosing]

theorem isUnbroken_of_isIdentifier {name : Text} (h : isIdentifier name = true) : IsUnbroken name := by
  intro c hc
  exact not_gap_or_brace_of_isIdentifierPart ((isIdentifierPart_of_mem h).2 c hc)

theorem isUnbroken_capitalize {name : Text} (hname : isIdentifier name = true)
    (hletter : ∀ c, name.head? = some c → Unicode.isAlphabetic c = true) :
    IsUnbroken (capitalize name) := by
  cases name with
  | nil => cases hname
  | cons c rest =>
    intro d hd
    rw [capitalize] at hd
    rcases List.mem_append.1 hd with hd | hd
    · exact Unicode.not_gap_or_brace_of_mem_uppercase (hletter c rfl) d hd
    · exact isUnbroken_of_isIdentifier hname d (List.mem_cons_of_mem c hd)

/-! ### ASCII identifiers -/

theorem toNat_lt_of_isWordChar {c : Char} (h : isWordChar c = true) : c.toNat < 128 := by
  change (((c.isUpper || c.isLower) || c.isDigit) || c == '_') = true at h
  rw [Bool.or_eq_true, Bool.or_eq_true, Bool.or_eq_true, Unicode.isUpper_iff, Unicode.isLower_iff,
    Char.isDigit_iff_toNat, beq_iff_eq] at h
  rcases h with ((hupper | hlower) | hdigit) | rfl
  · omega
  · omega
  · have hnine : '9'.toNat = 57 := rfl
    omega
  · decide

theorem isIdentifierPart_of_isWordChar {c : Char} (h : isWordChar c = true) : isIdentifierPart c = true := by
  have hpart : (!isWordChar c || isIdentifierPart c) = true :=
    Unicode.of_ascii (p := fun c => !isWordChar c || isIdentifierPart c) rfl
      (toNat_lt_of_isWordChar h)
  simpa [h] using hpart

theorem isUnbroken_of_isAsciiIdentifier {name : Text} (h : Source.isAsciiIdentifier name = true) :
    IsUnbroken name := by
  intro c hc
  exact not_gap_or_brace_of_isIdentifierPart
    (isIdentifierPart_of_isWordChar (Source.isWordChar_of_mem_isAsciiIdentifier h c hc))

theorem isAsciiIdentifier_cons {c : Char} {rest : Text} (h : Source.isAsciiIdentifier (c :: rest) = true) :
    c.toNat < 128 ∧ isIdentifierStart c = true ∧ isIdentifierStart c.toLower = true ∧
      ∀ d ∈ rest, isIdentifierPart d = true := by
  have hall := Source.isWordChar_of_mem_isAsciiIdentifier h
  have hcode := toNat_lt_of_isWordChar (hall c List.mem_cons_self)
  have hhead : (c.isAlpha || c == '_') = true := by
    simp only [Source.isAsciiIdentifier, Bool.and_eq_true] at h
    exact h.1
  have hstart : (!(c.isAlpha || c == '_') || isIdentifierStart c && isIdentifierStart c.toLower) = true :=
    Unicode.of_ascii (p := fun c => !(c.isAlpha || c == '_') || isIdentifierStart c && isIdentifierStart c.toLower)
      rfl hcode
  rw [hhead, Bool.not_true, Bool.false_or, Bool.and_eq_true] at hstart
  refine ⟨hcode, hstart.1, hstart.2, ?_⟩
  intro d hd
  exact isIdentifierPart_of_isWordChar (hall d (List.mem_cons_of_mem c hd))

theorem isIdentifier_of_isAsciiIdentifier {name : Text} (h : Source.isAsciiIdentifier name = true) :
    isIdentifier name = !isKeyword name := by
  cases name with
  | nil => cases h
  | cons c rest =>
    obtain ⟨-, hstart, -, hrest⟩ := isAsciiIdentifier_cons h
    rw [isIdentifier, hstart, List.all_eq_true.2 hrest, Bool.true_and, Bool.true_and]

theorem decapitalize_of_isAsciiIdentifier {c : Char} {rest : Text}
    (h : Source.isAsciiIdentifier (c :: rest) = true) : decapitalize (c :: rest) = c.toLower :: rest := by
  obtain ⟨hcode, -⟩ := isAsciiIdentifier_cons h
  rw [decapitalize, Unicode.lowercase_of_ascii hcode, List.singleton_append]

theorem isIdentifier_receiverStem {type : Text} (h : Source.isAsciiIdentifier type = true) :
    isIdentifier (receiverStem (decapitalize type)) = true := by
  cases type with
  | nil => cases h
  | cons c rest =>
    obtain ⟨-, -, hstart, hrest⟩ := isAsciiIdentifier_cons h
    have hstem : receiverStem (decapitalize (c :: rest)) = c.toLower :: (rest ++ ['_']) := by
      simp [receiverStem, decapitalize_of_isAsciiIdentifier h]
    rw [hstem, isIdentifier_cons_iff_of_underscore (by simp), List.forall_mem_append]
    exact ⟨hstart, hrest, by decide⟩

/-- A receiver is found for every type that has an ASCII identifier for a name. -/
theorem receiver?_isSome_of_isAsciiIdentifier {type : Text} (h : Source.isAsciiIdentifier type = true)
    (taken : List Text) : (receiver? type taken).isSome = true :=
  receiver?_isSome (isIdentifier_receiverStem h) taken

/-! ### Receivers of ASCII types -/

section

variable {type : Text} (h : Source.isAsciiIdentifier type = true) (taken : List Text)

include h

theorem isIdentifier_receiver : isIdentifier (receiver type taken) = true := by
  obtain ⟨object, hobject⟩ := Option.isSome_iff_exists.1 (receiver?_isSome_of_isAsciiIdentifier h taken)
  obtain ⟨hreceiver, hidentifier, -⟩ := of_receiver?_eq_some hobject
  rwa [hreceiver]

theorem receiver_not_mem : receiver type taken ∉ taken := by
  obtain ⟨object, hobject⟩ := Option.isSome_iff_exists.1 (receiver?_isSome_of_isAsciiIdentifier h taken)
  obtain ⟨hreceiver, -, hfree⟩ := of_receiver?_eq_some hobject
  rwa [hreceiver]

/-- The receiver is the blank identifier for the types that start with an underscore, when that is
not taken: it is the first of their initials. -/
theorem receiver_eq_underscore_iff (hfree : ['_'] ∉ taken) :
    receiver type taken = ['_'] ↔ type.head? = some '_' := by
  cases type with
  | nil => cases h
  | cons c rest =>
    have hlower := decapitalize_of_isAsciiIdentifier h
    obtain ⟨hcode, -⟩ := isAsciiIdentifier_cons h
    have hunderscore : (c.toLower == '_') = (c == '_') := by
      have hboth : ((c.toLower == '_') == (c == '_')) = true :=
        Unicode.of_ascii (p := fun c => (c.toLower == '_') == (c == '_')) rfl hcode
      exact beq_iff_eq.1 hboth
    rw [List.head?_cons, Option.some.injEq, ← beq_iff_eq (a := c), ← hunderscore, beq_iff_eq]
    constructor
    · intro hreceiver
      have hhead : (receiver (c :: rest) taken).head? = some c.toLower := by
        apply head?_receiver
        rw [hlower, List.head?_cons]
      rw [hreceiver, List.head?_cons] at hhead
      exact (Option.some.inj hhead).symm
    · intro hstarts
      have hinitial : ['_'] ∈ initials (decapitalize (c :: rest)) := by
        rw [hlower, hstarts, mem_initials_iff]
        exact ⟨List.cons_ne_nil _ _, rest, rfl⟩
      rw [receiver_eq_initial_iff hinitial]
      refine ⟨?_, ?_⟩
      · have hidentifier : isIdentifier ['_'] = true := by decide
        simp [isFree, hidentifier, hfree]
      · intro shorter hshorter hdiffers
        exact absurd (List.mem_singleton.1 hshorter) hdiffers

end

end GoScaffold
