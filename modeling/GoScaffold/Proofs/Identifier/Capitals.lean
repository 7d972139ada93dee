import GoScaffold.Proofs.Identifier.Casing

/-!
# Names and their capital forms

A letter goes to uppercase letters or stays as it is, with one exception, and the tables show
which letters go to a given capital.  So the capital form of a name that is not exported says
much about the name: it is `Build` for `build` only, and it starts with `Set` for the names that
start with `set` or `ſet` only.  Different names may have one capital form, but not when they
start with basic Latin letters.
-/

namespace GoScaffold

namespace Unicode

/-! ### Uppercase codes -/

theorem isUppercase_of_isUpper {c : Char} (h : c.isUpper = true) : isUppercase c = true := by
  have hcode := isUpper_iff.1 h
  have hascii : c.toNat < 0x80 := by omega
  rwa [isUppercase, if_pos hascii]

theorem isUppercase_ofNat {n : Nat} (h : Span.anyContains uppercaseSpans n = true) :
    isUppercase (Char.ofNat n) = true := by
  have hspans : ∀ span ∈ uppercaseSpans, 0x80 ≤ span.first ∧
      (span.last < 0xD800 ∨ 0xDFFF < span.first ∧ span.last < 0x110000) := by decide +kernel
  have hcode : ¬ n < 0x80 ∧ n.isValidChar := by
    rw [Span.anyContains, List.any_eq_true] at h
    obtain ⟨span, hspan, hcontains⟩ := h
    simp only [Span.contains, Bool.and_eq_true, decide_eq_true_eq] at hcontains
    obtain ⟨⟨hfirst, hlast⟩, -⟩ := hcontains
    have hrange := hspans span hspan
    rw [Nat.isValidChar]
    omega
  rwa [isUppercase, toNat_ofNat_of_isValidChar hcode.2, if_neg hcode.1]

/-- The spans of an ascending list from the first that reaches `n` on. -/
def Span.reaching (n : Nat) (spans : List Span) : List Span :=
  spans.dropWhile fun span => span.last.blt n

/-- Do the ends and the strides of two spans show that the outer one holds all of the inner? -/
def Span.isWithin (inner outer : Span) : Bool :=
  outer.first.ble inner.first && inner.last.ble outer.last &&
    (inner.first - outer.first) % outer.stride == 0 && inner.stride % outer.stride == 0

theorem Span.contains_of_isWithin {inner outer : Span} (h : inner.isWithin outer = true) {n : Nat}
    (hn : inner.contains n = true) : outer.contains n = true := by
  simp only [isWithin, contains, Bool.and_eq_true, Nat.ble_eq, beq_iff_eq, decide_eq_true_eq] at h hn ⊢
  obtain ⟨⟨⟨hfirst, hlast⟩, hstart⟩, hstride⟩ := h
  obtain ⟨⟨hle, hge⟩, hstep⟩ := hn
  refine ⟨⟨by omega, by omega⟩, ?_⟩
  have hsplit : n - outer.first = (n - inner.first) + (inner.first - outer.first) := by omega
  rw [hsplit]
  exact Nat.mod_eq_zero_of_dvd (Nat.dvd_add
    (Nat.dvd_trans (Nat.dvd_of_mod_eq_zero hstride) (Nat.dvd_of_mod_eq_zero hstep))
    (Nat.dvd_of_mod_eq_zero hstart))

/-- Is each code of the span uppercase?  The uppercase spans are searched from the one that
reaches the span, which for most spans holds all of it; otherwise the codes are asked one by
one. -/
def Span.isUppercase (span : Span) : Bool :=
  let near := reaching span.first uppercaseSpans
  near.head?.any span.isWithin || span.codes.all fun n =>
    !span.contains n || if n < 0x80 then (Char.ofNat n).isUpper else anyContains near n

theorem Span.isUppercase_of_contains {span : Span} (h : span.isUppercase = true) {n : Nat}
    (hn : span.contains n = true) : Unicode.isUppercase (Char.ofNat n) = true := by
  have hnear : reaching span.first uppercaseSpans ⊆ uppercaseSpans := (List.dropWhile_suffix _).subset
  rw [Span.isUppercase, Bool.or_eq_true, List.all_eq_true] at h
  rcases h with hwithin | hcodes
  · obtain ⟨outer, hhead, hwithin⟩ := (Option.any_eq_true _ _).1 hwithin
    apply isUppercase_ofNat
    rw [anyContains, List.any_eq_true]
    exact ⟨outer, hnear (List.mem_of_mem_head? hhead), contains_of_isWithin hwithin hn⟩
  · have hcode := hcodes n (mem_codes hn)
    rw [hn, Bool.not_true, Bool.false_or] at hcode
    split at hcode
    next hascii => exact isUppercase_of_isUpper hcode
    next hascii =>
      apply isUppercase_ofNat
      rw [anyContains, List.any_eq_true] at hcode ⊢
      obtain ⟨outer, hmem, hcontains⟩ := hcode
      exact ⟨outer, hnear hmem, hcontains⟩

/-! ### The uppercase form of a letter -/

def Shift.image (shift : Shift) (n : Nat) : Nat :=
  (n + shift.distance).toNat

/-- Where a shift goes to. -/
def Shift.target (shift : Shift) : Span :=
  ⟨shift.image shift.span.first, shift.image shift.span.last, shift.span.stride⟩

theorem Shift.contains_target {shift : Shift} (hfirst : 0 ≤ shift.span.first + shift.distance) {n : Nat}
    (hn : shift.span.contains n = true) : shift.target.contains (shift.image n) = true := by
  simp only [Span.contains, target, image, Bool.and_eq_true, beq_iff_eq, decide_eq_true_eq] at hn ⊢
  obtain ⟨⟨hle, hge⟩, hstep⟩ := hn
  refine ⟨⟨decide_eq_true (by omega), decide_eq_true (by omega)⟩, ?_⟩
  have hsame : (n + shift.distance).toNat - (shift.span.first + shift.distance).toNat = n - shift.span.first := by
    omega
  rw [hsame, hstep]

/-- Every shift goes to uppercase letters, and only two shifts bring a letter from outside to a
basic Latin one. -/
theorem of_mem_upperShifts : ∀ shift ∈ upperShifts,
    0 ≤ shift.span.first + shift.distance ∧ shift.target.isUppercase = true ∧
      (0x80 ≤ shift.target.first ∨ shift = ⟨⟨'ı'.toNat, 'ı'.toNat, 1⟩, -232⟩ ∨
        shift = ⟨⟨'ſ'.toNat, 'ſ'.toNat, 1⟩, -300⟩) := by
  decide +kernel

/-- Every expansion but that of `ŉ` starts with an uppercase letter, and none has a basic Latin
small letter in its second place. -/
theorem of_mem_upperExpansions : ∀ expansion ∈ upperExpansions,
    (expansion.1 = 'ŉ'.toNat ∨ ∃ code ∈ expansion.2.head?, Span.isUppercase ⟨code, code, 1⟩ = true) ∧
      2 ≤ expansion.2.length ∧ ∀ code ∈ expansion.2[1]?, (Char.ofNat code).isLower = false := by
  decide +kernel

/-- `ŉ` goes to an apostrophe, which is a letter without cases, and `N`. -/
theorem uppercase_apostropheN :
    uppercase 'ŉ' = ['ʼ', 'N'] ∧ uppercase 'ʼ' = ['ʼ'] ∧ isUppercase 'ʼ' = false := by
  decide +kernel

/-- A letter stays as it is or goes to letters of which the first is uppercase, except for `ŉ`. -/
theorem uppercase_cases (c : Char) :
    uppercase c = [c] ∨ c = 'ŉ' ∨ ∃ d rest, uppercase c = d :: rest ∧ isUppercase d = true := by
  by_cases hascii : c.toNat < 0x80
  · have hletter : (c.toUpper == c || isUppercase c.toUpper) = true :=
      of_ascii (p := fun c => c.toUpper == c || isUppercase c.toUpper) rfl hascii
    rw [Bool.or_eq_true, beq_iff_eq] at hletter
    rw [uppercase, if_pos hascii]
    rcases hletter with hsame | hupper
    · exact .inl (by rw [hsame])
    · exact .inr (.inr ⟨c.toUpper, [], rfl, hupper⟩)
  · rw [uppercase, if_neg hascii]
    rcases mapCase_cases upperShifts upperExpansions c with
      ⟨expansion, hmem, hsource, himage⟩ | ⟨shift, hmem, hcontains, himage⟩ | hsame
    · rcases (of_mem_upperExpansions expansion hmem).1 with hexception | ⟨code, hcode, hupper⟩
      · exact .inr (.inl (Char.toNat_inj.1 (hsource.symm.trans hexception)))
      · obtain ⟨others, hcodes⟩ := List.head?_eq_some_iff.1 hcode
        have hself : (⟨code, code, 1⟩ : Span).contains code = true := by simp [Span.contains]
        rw [himage, hcodes]
        exact .inr (.inr ⟨Char.ofNat code, others.map Char.ofNat, rfl,
          Span.isUppercase_of_contains hupper hself⟩)
    · obtain ⟨hfirst, hupper, -⟩ := of_mem_upperShifts shift hmem
      exact .inr (.inr ⟨_, [], himage,
        Span.isUppercase_of_contains hupper (shift.contains_target hfirst hcontains)⟩)
    · exact .inl hsame

/-! ### The letters of a capital -/

/-- The letters that go to one basic Latin capital are its small letter and, for two of the
capitals, one letter that is not basic Latin. -/
theorem eq_of_uppercase_eq_singleton {c d : Char} (hd : d.isUpper = true) (h : uppercase c = [d]) :
    c = d ∨ c = d.toLower ∨ (c, d) = ('ı', 'I') ∨ (c, d) = ('ſ', 'S') := by
  by_cases hascii : c.toNat < 0x80
  · have hletter : (c.toUpper == c || c.toUpper.toLower == c) = true :=
      of_ascii (p := fun c => c.toUpper == c || c.toUpper.toLower == c) rfl hascii
    rw [uppercase, if_pos hascii] at h
    obtain rfl := List.singleton_inj.1 h
    rw [Bool.or_eq_true, beq_iff_eq, beq_iff_eq] at hletter
    exact hletter.imp Eq.symm fun hlower => .inl hlower.symm
  · rw [uppercase, if_neg hascii] at h
    have hcapital := isUpper_iff.1 hd
    rcases mapCase_cases upperShifts upperExpansions c with
      ⟨expansion, hmem, -, himage⟩ | ⟨shift, hmem, hcontains, himage⟩ | hsame
    · obtain ⟨-, hlong, -⟩ := of_mem_upperExpansions expansion hmem
      have hlength := congrArg List.length (himage.symm.trans h)
      rw [List.length_map, List.length_singleton] at hlength
      omega
    · have hletter := List.singleton_inj.1 (himage.symm.trans h)
      have hcode : shift.image c.toNat = d.toNat := by
        by_contra hne
        exact toNat_ofNat_ne (by omega) hne (congrArg Char.toNat hletter)
      obtain ⟨hfirst, -, hreaches⟩ := of_mem_upperShifts shift hmem
      have htarget := shift.contains_target hfirst hcontains
      rw [hcode] at htarget
      simp only [Span.contains, Bool.and_eq_true, decide_eq_true_eq] at htarget hcontains
      rcases hreaches with hfar | rfl | rfl
      · omega
      · have hc : c = 'ı' := Char.toNat_inj.1 (le_antisymm hcontains.1.2 hcontains.1.1)
        subst hc
        exact .inr (.inr (.inl (congrArg _ (Char.toNat_inj.1 hcode.symm))))
      · have hc : c = 'ſ' := Char.toNat_inj.1 (le_antisymm hcontains.1.2 hcontains.1.1)
        subst hc
        exact .inr (.inr (.inr (congrArg _ (Char.toNat_inj.1 hcode.symm))))
    · exact .inl (List.singleton_inj.1 (hsame.symm.trans h))

/-- An uppercase form of several characters has no basic Latin small letter in its second place. -/
theorem uppercase_singleton_or_second (c : Char) :
    (∃ d, uppercase c = [d]) ∨ ∃ d e rest, uppercase c = d :: e :: rest ∧ e.isLower = false := by
  by_cases hascii : c.toNat < 0x80
  · exact .inl ⟨c.toUpper, by rw [uppercase, if_pos hascii]⟩
  · rw [uppercase, if_neg hascii]
    rcases mapCase_cases upperShifts upperExpansions c with
      ⟨⟨source, codes⟩, hmem, -, himage⟩ | ⟨shift, -, -, himage⟩ | hsame
    · obtain ⟨-, hlength, hlower⟩ := of_mem_upperExpansions _ hmem
      rcases codes with _ | ⟨first, _ | ⟨second, others⟩⟩
      · simp at hlength
      · simp at hlength
      · exact .inr ⟨_, _, _, himage, hlower second rfl⟩
    · exact .inl ⟨_, himage⟩
    · exact .inl ⟨_, hsame⟩

end Unicode

open Unicode (isAlphabetic isUppercase uppercase)

/-! ### Names that are not exported -/

/-- A name that starts with a letter which is not uppercase. -/
def IsUnexported (name : Text) : Prop :=
  ∃ c rest, name = c :: rest ∧ isAlphabetic c = true ∧ isUppercase c = false

def startsUppercase (name : Text) : Bool :=
  name.head?.any isUppercase

def startsAscii (name : Text) : Bool :=
  name.head?.any fun c => c.toNat < 128

variable {name other rest : Text}

@[simp] theorem startsUppercase_cons (c : Char) (rest : Text) : startsUppercase (c :: rest) = isUppercase c :=
  rfl

@[simp] theorem startsAscii_cons (c : Char) (rest : Text) : startsAscii (c :: rest) = decide (c.toNat < 128) :=
  rfl

theorem isUnexported_of_isPrivate (htrimmed : Text.IsTrimmed name) (h : isPrivate name = true) :
    IsUnexported name := by
  rw [isPrivate, Text.trim_of_isTrimmed htrimmed] at h
  cases name with
  | nil => cases h
  | cons c rest =>
    simp only [Bool.and_eq_true, Bool.not_eq_true'] at h
    exact ⟨c, rest, rfl, h⟩

theorem IsUnexported.startsUppercase_eq_false (h : IsUnexported name) : startsUppercase name = false := by
  obtain ⟨c, rest, rfl, -, hc⟩ := h
  rw [startsUppercase_cons, hc]

/-- Which names have a capital form that goes on with a basic Latin small letter. -/
theorem IsUnexported.eq_of_capitalize_eq (h : IsUnexported name) {d e : Char} (hd : d.isUpper = true)
    (he : e.isLower = true) (hcapital : capitalize name = d :: e :: rest) :
    name = d.toLower :: e :: rest ∨ (d = 'I' ∧ name = 'ı' :: e :: rest) ∨ (d = 'S' ∧ name = 'ſ' :: e :: rest) := by
  obtain ⟨c, tail, rfl, -, hc⟩ := h
  rw [capitalize] at hcapital
  rcases Unicode.uppercase_singleton_or_second c with ⟨f, hf⟩ | ⟨f, g, more, hf, hg⟩
  · rw [hf, List.singleton_append] at hcapital
    obtain ⟨rfl, rfl⟩ := List.cons.inj hcapital
    rcases Unicode.eq_of_uppercase_eq_singleton hd hf with rfl | rfl | hpair | hpair
    · rw [Unicode.isUppercase_of_isUpper hd] at hc
      cases hc
    · exact .inl rfl
    · obtain ⟨rfl, rfl⟩ := Prod.mk.inj hpair
      exact .inr (.inl ⟨rfl, rfl⟩)
    · obtain ⟨rfl, rfl⟩ := Prod.mk.inj hpair
      exact .inr (.inr ⟨rfl, rfl⟩)
  · -- the small letter would be the second character of the uppercase form
    rw [hf, List.cons_append, List.cons_append] at hcapital
    obtain ⟨rfl, -⟩ := List.cons.inj (List.cons.inj hcapital).2
    rw [he] at hg
    cases hg

theorem capitalize_eq_build_iff (h : IsUnexported name) : capitalize name = "Build" ↔ name = "build" := by
  constructor
  · intro hcapital
    rcases h.eq_of_capitalize_eq (by decide) (by decide) hcapital with hname | ⟨heq, -⟩ | ⟨heq, -⟩
    · exact hname
    · cases heq
    · cases heq
  · rintro rfl
    rfl

theorem capitalize_eq_set_append_iff (h : IsUnexported name) :
    capitalize name = "Set" ++ rest ↔ name = "set" ++ rest ∨ name = "ſet" ++ rest := by
  constructor
  · intro hcapital
    rcases h.eq_of_capitalize_eq (by decide) (by decide) hcapital with hname | ⟨heq, -⟩ | ⟨-, hname⟩
    · exact .inl hname
    · cases heq
    · exact .inr hname
  · rintro (rfl | rfl)
    · rfl
    · have hlong : uppercase 'ſ' = ['S'] := rfl
      exact congrArg (· ++ ("et" ++ rest)) hlong

/-- The capital form of a name is a name that is not exported only when one of the two is its
own capital form. -/
theorem capitalize_eq_self_or_of_capitalize_eq (hother : IsUnexported other)
    (hcapital : capitalize name = other) : capitalize name = name ∨ capitalize other = other := by
  cases name with
  | nil => exact .inl rfl
  | cons c tail =>
    rcases Unicode.uppercase_cases c with hsame | rfl | ⟨d, more, hupper, hd⟩
    · exact .inl (by rw [capitalize, hsame, List.singleton_append])
    · obtain ⟨hexception, hsign, -⟩ := Unicode.uppercase_apostropheN
      rw [capitalize, hexception] at hcapital
      subst hcapital
      exact .inr (congrArg (· ++ ('N' :: tail)) hsign)
    · rw [capitalize, hupper] at hcapital
      have hlower := hother.startsUppercase_eq_false
      rw [← hcapital, List.cons_append, startsUppercase_cons, hd] at hlower
      cases hlower

/-- The capital form starts uppercase unless it is the name itself or the name starts with `ŉ`. -/
theorem startsUppercase_capitalize_iff (h : IsUnexported name) :
    startsUppercase (capitalize name) = true ↔ capitalize name ≠ name ∧ name.head? ≠ some 'ŉ' := by
  constructor
  · intro hupper
    constructor
    · intro hsame
      rw [hsame, h.startsUppercase_eq_false] at hupper
      cases hupper
    · intro hhead
      obtain ⟨tail, rfl⟩ := List.head?_eq_some_iff.1 hhead
      obtain ⟨hexception, -, hsign⟩ := Unicode.uppercase_apostropheN
      rw [capitalize, hexception, List.cons_append, startsUppercase_cons, hsign] at hupper
      cases hupper
  · rintro ⟨hne, hhead⟩
    obtain ⟨c, tail, rfl, -, -⟩ := h
    rcases Unicode.uppercase_cases c with hsame | rfl | ⟨d, more, hupper, hd⟩
    · exact absurd (by rw [capitalize, hsame, List.singleton_append]) hne
    · exact absurd rfl hhead
    · rw [capitalize, hupper, List.cons_append, startsUppercase_cons, hd]

/-! ### Names that start with a basic Latin letter -/

theorem head?_ne_of_startsAscii {c : Char} (h : startsAscii name = true) (hc : 128 ≤ c.toNat) :
    name.head? ≠ some c := by
  intro hhead
  rw [startsAscii, hhead, Option.any_some, decide_eq_true_eq] at h
  omega

theorem capitalize_ne_of_startsAscii (h : IsUnexported name) (hascii : startsAscii name = true) :
    capitalize name ≠ name := by
  obtain ⟨c, tail, rfl, hletter, hc⟩ := h
  have hcode : c.toNat < 128 := by simpa using hascii
  have hchange : (!isAlphabetic c || isUppercase c || c.toUpper != c) = true :=
    Unicode.of_ascii (p := fun c => !isAlphabetic c || isUppercase c || c.toUpper != c) rfl hcode
  rw [capitalize, Unicode.uppercase_of_ascii hcode]
  intro hsame
  rw [hletter, hc, (List.cons.inj hsame).1] at hchange
  simp at hchange

theorem decapitalize_ne_of_startsUppercase (hname : Source.isAsciiIdentifier name = true)
    (h : startsUppercase name = true) : decapitalize name ≠ name := by
  cases name with
  | nil => cases hname
  | cons c tail =>
    obtain ⟨hcode, -⟩ := isAsciiIdentifier_cons hname
    have hchange : (!isUppercase c || c.toLower != c) = true :=
      Unicode.of_ascii (p := fun c => !isUppercase c || c.toLower != c) rfl hcode
    rw [startsUppercase_cons] at h
    rw [decapitalize_of_isAsciiIdentifier hname]
    intro hsame
    rw [h, (List.cons.inj hsame).1] at hchange
    simp at hchange

theorem toLower_toUpper {c : Char} (hc : isUppercase c = false) (hcode : c.toNat < 128) :
    c.toUpper.toLower = c := by
  have hround : (isUppercase c || c.toUpper.toLower == c) = true :=
    Unicode.of_ascii (p := fun c => isUppercase c || c.toUpper.toLower == c) rfl hcode
  simpa [hc] using hround

theorem eq_of_capitalize_eq_of_startsAscii (h : IsUnexported name) (hother : IsUnexported other)
    (hascii : startsAscii name = true) (hasciiOther : startsAscii other = true)
    (heq : capitalize name = capitalize other) : name = other := by
  obtain ⟨c, tail, rfl, -, hc⟩ := h
  obtain ⟨d, otherTail, rfl, -, hd⟩ := hother
  have hcode : c.toNat < 128 := by simpa using hascii
  have hcodeOther : d.toNat < 128 := by simpa using hasciiOther
  rw [capitalize, capitalize, Unicode.uppercase_of_ascii hcode, Unicode.uppercase_of_ascii hcodeOther] at heq
  obtain ⟨hletters, htails⟩ := List.cons.inj heq
  have hsame := congrArg Char.toLower hletters
  rw [toLower_toUpper hc hcode, toLower_toUpper hd hcodeOther] at hsame
  rw [hsame]
  exact congrArg (d :: ·) htails

end GoScaffold
