import Mathlib.Data.List.Nodup
import Mathlib.Data.List.Perm.Subperm
import Mathlib.Data.Nat.Find
import Mathlib.Tactic.ByContra
import GoScaffold.Identifier.Basic
import GoScaffold.Proofs.Identifier.Classes

/-!
# The searches for a free name end

Each search goes through candidates without repetitions, so it passes no more of them than
there are names to avoid, and its bound is never reached.  A numbered name is never one
that is in use, and a receiver is an identifier that nothing else in its scope is called.
The candidates for a receiver become longer and longer, so it is the shortest that is free.
-/

namespace GoScaffold

/-! ### Searching along candidates -/

/-- The search along `candidate 0`, `candidate 1`, … for a name that is not in use ends at
`candidate n`. -/
structure StopsAt (used : List Text) (candidate : Nat → Text) (n : Nat) : Prop where
  not_mem : candidate n ∉ used
  passed : ∀ m < n, candidate m ∈ used

section

variable {used : List Text} {candidate : Nat → Text} (hinjective : Function.Injective candidate)

include hinjective

/-- A search without repetitions passes no more candidates than there are names in use. -/
theorem le_length_of_passed {n : Nat} (h : ∀ m < n, candidate m ∈ used) : n ≤ used.length := by
  have hnodup : ((List.range n).map candidate).Nodup := List.nodup_range.map hinjective
  have hsubset : (List.range n).map candidate ⊆ used := by
    intro name hname
    obtain ⟨m, hm, rfl⟩ := List.mem_map.1 hname
    exact h m (List.mem_range.1 hm)
  simpa using (hnodup.subperm hsubset).length_le

theorem exists_stopsAt (used : List Text) : ∃ n ≤ used.length, StopsAt used candidate n := by
  have hfree : ∃ n, candidate n ∉ used := by
    by_contra hnone
    push Not at hnone
    have hle := le_length_of_passed hinjective (n := used.length + 1) fun m _ => hnone m
    omega
  have hpassed : ∀ m < Nat.find hfree, candidate m ∈ used := fun m hm => not_not.1 (Nat.find_min hfree hm)
  exact ⟨Nat.find hfree, le_length_of_passed hinjective hpassed, Nat.find_spec hfree, hpassed⟩

end

/-! ### Numbered names -/

theorem numbered_injective (base : Text) : Function.Injective (numbered base) := by
  intro m n h
  have hdigits : ∀ {k}, base ++ Nat.toDigits 10 k ≠ base := by
    intro k heq
    exact Nat.toDigits_ne_nil (List.append_right_eq_self.1 heq)
  by_cases hm : m = 0
  · by_cases hn : n = 0
    · rw [hm, hn]
    · simp only [numbered, hm, hn, if_true, if_false] at h
      exact absurd h.symm hdigits
  · by_cases hn : n = 0
    · simp only [numbered, hm, hn, if_true, if_false] at h
      exact absurd h hdigits
    · simp only [numbered, hm, hn, if_false] at h
      have hread := congrArg (Nat.ofDigitChars 10 · 0) (List.append_cancel_left h)
      simpa only [Nat.ofDigitChars_ten_toDigits] using hread

/-- The bound on the numbers is never reached: the name is that of the unbounded search. -/
theorem freshNumbered_eq_of_stopsAt {base : Text} {used : List Text} {n : Nat}
    (h : StopsAt used (numbered base) n) : freshNumbered base used = numbered base n := by
  have hle := le_length_of_passed (numbered_injective base) h.passed
  have hfind : (List.range (used.length + 1)).find? (fun n => !used.contains (numbered base n)) = some n := by
    rw [List.find?_range_eq_some]
    exact ⟨by simpa using h.not_mem, List.mem_range.2 (by omega), by simpa using h.passed⟩
  rw [freshNumbered, hfind, Option.getD_some]

/-! ### Receivers -/

theorem isFree_iff {taken : List Text} {name : Text} :
    isFree taken name = true ↔ isIdentifier name = true ∧ name ∉ taken := by
  simp [isFree]

theorem of_receiver?_eq_some {type name : Text} {taken : List Text} (h : receiver? type taken = some name) :
    receiver type taken = name ∧ isIdentifier name = true ∧ name ∉ taken :=
  ⟨by rw [receiver, h, Option.getD_some], isFree_iff.1 (List.find?_some h)⟩

/-- A name with a character that is in no keyword is none. -/
theorem isKeyword_eq_false_of_any {p : Char → Bool}
    (hnone : keywords.any (fun keyword => keyword.any p) = false) {name : Text} (h : name.any p = true) :
    isKeyword name = false := by
  rw [isKeyword, List.contains_eq_mem, decide_eq_false_iff_not]
  intro hmem
  exact List.any_eq_false.1 hnone name hmem h

theorem not_mem_keywords_of_underscore {name : Text} (h : '_' ∈ name) : isKeyword name = false :=
  isKeyword_eq_false_of_any (p := (· == '_')) rfl (by simpa using h)

theorem isIdentifier_cons_iff_of_underscore {c : Char} {rest : Text} (h : '_' ∈ c :: rest) :
    isIdentifier (c :: rest) = true ↔
      isIdentifierStart c = true ∧ ∀ d ∈ rest, isIdentifierPart d = true := by
  simp [isIdentifier, not_mem_keywords_of_underscore h]

theorem isIdentifier_append_underscores {name : Text} (h : isIdentifier name = true) (n : Nat) :
    isIdentifier (name ++ List.replicate n '_') = true := by
  cases n with
  | zero => simpa using h
  | succ n =>
    cases name with
    | nil => cases h
    | cons c rest =>
      simp only [isIdentifier, Bool.and_eq_true, List.all_eq_true] at h
      obtain ⟨⟨hstart, hrest⟩, -⟩ := h
      rw [List.cons_append, isIdentifier_cons_iff_of_underscore (by simp), List.forall_mem_append]
      refine ⟨hstart, hrest, ?_⟩
      intro d hd
      rw [List.eq_of_mem_replicate hd]
      rfl

theorem underscores_injective (stem : Text) :
    Function.Injective fun n => stem ++ List.replicate n '_' := by
  intro m n heq
  simpa using congrArg List.length (List.append_cancel_left heq)

/-- The search for a receiver ends when the stem that gets underscores is an identifier. -/
theorem receiver?_isSome {type : Text} (h : isIdentifier (receiverStem (decapitalize type)) = true)
    (taken : List Text) : (receiver? type taken).isSome = true := by
  obtain ⟨n, hle, hstops⟩ := exists_stopsAt (underscores_injective (receiverStem (decapitalize type))) taken
  have hmem : receiverStem (decapitalize type) ++ List.replicate n '_' ∈
      receiverCandidates (decapitalize type) taken.length :=
    List.mem_append_right _ (List.mem_map.2 ⟨n, List.mem_range.2 (by omega), rfl⟩)
  rw [receiver?, List.find?_isSome]
  exact ⟨_, hmem, isFree_iff.2 ⟨isIdentifier_append_underscores h n, hstops.not_mem⟩⟩

/-! ### The shortest candidate -/

/-- In a list that ascends along `size` the first element with a property is the least. -/
theorem find?_eq_some_iff_of_ascending {α : Type} {size : α → Nat} {p : α → Bool} {elements : List α}
    (h : elements.Pairwise fun a b => size a < size b) {a : α} :
    elements.find? p = some a ↔
      a ∈ elements ∧ p a = true ∧ ∀ b ∈ elements, size b < size a → p b = false := by
  induction elements with
  | nil => simp
  | cons first rest ih =>
    obtain ⟨hfirst, hrest⟩ := List.pairwise_cons.1 h
    rw [List.find?_cons]
    cases hp : p first with
    | true =>
      constructor
      · intro heq
        obtain rfl := Option.some.inj heq
        refine ⟨List.mem_cons_self, hp, ?_⟩
        intro b hb hlt
        rcases List.mem_cons.1 hb with rfl | hb
        · exact absurd hlt (lt_irrefl _)
        · exact absurd hlt (hfirst b hb).not_gt
      · rintro ⟨hmem, -, hleast⟩
        rcases List.mem_cons.1 hmem with rfl | hmem
        · rfl
        · rw [hleast first List.mem_cons_self (hfirst a hmem)] at hp
          cases hp
    | false =>
      refine (ih hrest).trans ⟨?_, ?_⟩
      · rintro ⟨hmem, ha, hleast⟩
        exact ⟨List.mem_cons_of_mem _ hmem, ha, List.forall_mem_cons.2 ⟨fun _ => hp, hleast⟩⟩
      · rintro ⟨hmem, ha, hleast⟩
        rcases List.mem_cons.1 hmem with rfl | hmem
        · rw [hp] at ha
          cases ha
        · exact ⟨hmem, ha, (List.forall_mem_cons.1 hleast).2⟩

theorem mem_initials_iff {name initial : Text} : initial ∈ initials name ↔ initial ≠ [] ∧ initial <+: name := by
  rw [initials, List.mem_map]
  constructor
  · rintro ⟨n, hn, rfl⟩
    have hlength : n < name.length := List.mem_range.1 hn
    refine ⟨?_, List.take_prefix _ _⟩
    intro hnil
    have hzero := congrArg List.length hnil
    rw [List.length_take, List.length_nil] at hzero
    omega
  · rintro ⟨hne, hprefix⟩
    have hpos := List.length_pos_iff.2 hne
    have hle := hprefix.length_le
    refine ⟨initial.length - 1, List.mem_range.2 (by omega), ?_⟩
    rw [Nat.sub_add_cancel hpos]
    exact (List.prefix_iff_eq_take.1 hprefix).symm

theorem length_lt_length_receiverStem (name : Text) : name.length < (receiverStem name).length := by
  cases name with
  | nil => decide
  | cons c rest => simp [receiverStem]

theorem mem_initials_or_longer {name candidate : Text} {bound : Nat}
    (h : candidate ∈ receiverCandidates name bound) :
    candidate ∈ initials name ∨ name.length < candidate.length := by
  rcases List.mem_append.1 h with hinitial | hstem
  · exact .inl hinitial
  · obtain ⟨n, -, rfl⟩ := List.mem_map.1 hstem
    have hlt := length_lt_length_receiverStem name
    rw [List.length_append]
    exact .inr (by omega)

theorem ascending_receiverCandidates (name : Text) (bound : Nat) :
    (receiverCandidates name bound).Pairwise fun a b => a.length < b.length := by
  rw [receiverCandidates, List.pairwise_append]
  refine ⟨?_, ?_, ?_⟩
  · rw [initials, List.pairwise_map]
    apply List.pairwise_lt_range.imp_of_mem
    intro m n hm hn hlt
    rw [List.mem_range] at hm hn
    rw [List.length_take, List.length_take]
    omega
  · rw [List.pairwise_map]
    apply List.pairwise_lt_range.imp
    intro m n hlt
    simpa using hlt
  · intro initial hinitial candidate hcandidate
    obtain ⟨n, -, rfl⟩ := List.mem_map.1 hcandidate
    have hle := (mem_initials_iff.1 hinitial).2.length_le
    have hlt := length_lt_length_receiverStem name
    rw [List.length_append]
    omega

theorem receiver?_eq_some_iff {type name : Text} {taken : List Text} :
    receiver? type taken = some name ↔
      name ∈ receiverCandidates (decapitalize type) taken.length ∧ isFree taken name = true ∧
        ∀ candidate ∈ receiverCandidates (decapitalize type) taken.length,
          candidate.length < name.length → isFree taken candidate = false :=
  find?_eq_some_iff_of_ascending (ascending_receiverCandidates _ _)

/-- The candidates that are shorter than one of the initials are the initials of that one. -/
theorem shorter_candidate_iff {name initial : Text} (h : initial ∈ initials name) (bound : Nat) (shorter : Text) :
    shorter ∈ receiverCandidates name bound ∧ shorter.length < initial.length ↔
      shorter ∈ initials initial ∧ shorter ≠ initial := by
  obtain ⟨-, hprefix⟩ := mem_initials_iff.1 h
  constructor
  · rintro ⟨hcandidate, hlt⟩
    rcases mem_initials_or_longer hcandidate with hinitial | hlonger
    · obtain ⟨hne, hinside⟩ := mem_initials_iff.1 hinitial
      refine ⟨mem_initials_iff.2 ⟨hne, List.prefix_of_prefix_length_le hinside hprefix hlt.le⟩, ?_⟩
      rintro rfl
      exact lt_irrefl _ hlt
    · exact absurd hprefix.length_le (by omega)
  · rintro ⟨hshorter, hdiffers⟩
    obtain ⟨hne, hinside⟩ := mem_initials_iff.1 hshorter
    refine ⟨List.mem_append_left _ (mem_initials_iff.2 ⟨hne, hinside.trans hprefix⟩), ?_⟩
    exact lt_of_le_of_ne hinside.length_le fun hlength => hdiffers (hinside.eq_of_length hlength)

/-- The receiver is one of the initials exactly when that one is free and no shorter one is. -/
theorem receiver_eq_initial_iff {type initial : Text} {taken : List Text}
    (h : initial ∈ initials (decapitalize type)) :
    receiver type taken = initial ↔
      isFree taken initial = true ∧
        ∀ shorter ∈ initials initial, shorter ≠ initial → isFree taken shorter = false := by
  have hfound : receiver type taken = initial ↔ receiver? type taken = some initial := by
    rw [receiver]
    cases receiver? type taken with
    | some name => simp
    | none =>
      have hle := (mem_initials_iff.1 h).2.length_le
      have hlt := length_lt_length_receiverStem (decapitalize type)
      have hstem : receiverStem (decapitalize type) ≠ initial := by
        rintro rfl
        omega
      simpa using hstem
  rw [hfound, receiver?_eq_some_iff]
  constructor
  · rintro ⟨-, hfree, hleast⟩
    refine ⟨hfree, ?_⟩
    intro shorter hinitial hdiffers
    obtain ⟨hcandidate, hlt⟩ := (shorter_candidate_iff h taken.length shorter).2 ⟨hinitial, hdiffers⟩
    exact hleast shorter hcandidate hlt
  · rintro ⟨hfree, hleast⟩
    refine ⟨List.mem_append_left _ h, hfree, ?_⟩
    intro candidate hcandidate hlt
    obtain ⟨hinitial, hdiffers⟩ := (shorter_candidate_iff h taken.length candidate).1 ⟨hcandidate, hlt⟩
    exact hleast candidate hinitial hdiffers

/-- A receiver starts with the letter that the decapitalized type starts with. -/
theorem head?_receiver {type : Text} {c : Char} (h : (decapitalize type).head? = some c) (taken : List Text) :
    (receiver type taken).head? = some c := by
  obtain ⟨rest, htype⟩ := List.head?_eq_some_iff.1 h
  have hstem : ∀ n, (receiverStem (decapitalize type) ++ List.replicate n '_').head? = some c := by
    intro n
    rw [htype]
    rfl
  rw [receiver]
  cases hreceiver : receiver? type taken with
  | none => simpa using hstem 0
  | some name =>
    obtain ⟨hmem, -⟩ := receiver?_eq_some_iff.1 hreceiver
    rcases List.mem_append.1 hmem with hinitial | hlonger
    · obtain ⟨hne, tail, hprefix⟩ := mem_initials_iff.1 hinitial
      cases name with
      | nil => exact absurd rfl hne
      | cons d others =>
        rw [htype] at hprefix
        exact congrArg some (List.cons.inj hprefix).1
    · obtain ⟨n, -, rfl⟩ := List.mem_map.1 hlonger
      exact hstem n

end GoScaffold
