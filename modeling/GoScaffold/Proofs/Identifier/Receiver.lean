import GoScaffold.Proofs.Identifier.Casing

/-!
# What the search for a receiver finds

A receiver is the shortest of the initials of the type that are free.  When there is none,
it is the stem with the fewest underscores that make it free, and the search ends exactly
when the stem is an identifier: underscores neither make nor unmake one, and at most as
many of them are added as there are names to avoid.
-/

namespace GoScaffold

/-- One of the initials of `name` that can be declared beside the names in `taken`. -/
def IsFreeInitial (taken : List Text) (name initial : Text) : Prop :=
  initial ≠ [] ∧ initial <+: name ∧ isIdentifier initial = true ∧ initial ∉ taken

/-- What a search without a bound finds for a type of the (decapitalized) name `name`. -/
inductive IsReceiver (taken : List Text) (name : Text) : Text → Prop
  /-- the shortest of the free initials -/
  | initial {initial : Text} (hfree : IsFreeInitial taken name initial)
    (hshortest : ∀ other, IsFreeInitial taken name other → initial.length ≤ other.length) :
    IsReceiver taken name initial
  /-- without free initials, the stem with the fewest underscores that make it free -/
  | stem {n : Nat} (hnone : ∀ initial, ¬ IsFreeInitial taken name initial)
    (hidentifier : isIdentifier (receiverStem name) = true)
    (hstops : StopsAt taken (fun m => receiverStem name ++ List.replicate m '_') n) :
    IsReceiver taken name (receiverStem name ++ List.replicate n '_')

/-! ### Candidates -/

theorem isFreeInitial_iff {taken : List Text} {name initial : Text} :
    IsFreeInitial taken name initial ↔ initial ∈ initials name ∧ isFree taken initial = true := by
  rw [IsFreeInitial, mem_initials_iff, isFree_iff, and_assoc]

theorem isIdentifier_receiverStem_of_append {name : Text} {n : Nat}
    (h : isIdentifier (receiverStem name ++ List.replicate n '_') = true) :
    isIdentifier (receiverStem name) = true := by
  cases name with
  | nil => decide
  | cons c rest =>
    have hstem : receiverStem (c :: rest) = c :: (rest ++ ['_']) := rfl
    rw [hstem, List.cons_append, isIdentifier_cons_iff_of_underscore (by simp)] at h
    rw [hstem, isIdentifier_cons_iff_of_underscore (by simp)]
    exact ⟨h.1, fun d hd => h.2 d (List.mem_append_left _ hd)⟩

theorem length_lt_of_mem_initials {name initial : Text} (h : initial ∈ initials name) (n : Nat) :
    initial.length < (receiverStem name ++ List.replicate n '_').length := by
  have hle := (mem_initials_iff.1 h).2.length_le
  have hlt := length_lt_length_receiverStem name
  rw [List.length_append]
  omega

theorem mem_receiverCandidates_iff {name candidate : Text} {bound : Nat} :
    candidate ∈ receiverCandidates name bound ↔
      candidate ∈ initials name ∨ ∃ n ≤ bound, candidate = receiverStem name ++ List.replicate n '_' := by
  simp only [receiverCandidates, List.mem_append, List.mem_map, List.mem_range, Nat.lt_succ_iff, eq_comm]

theorem le_of_append_mem_receiverCandidates {name : Text} {n bound : Nat}
    (h : receiverStem name ++ List.replicate n '_' ∈ receiverCandidates name bound) : n ≤ bound := by
  rcases mem_receiverCandidates_iff.1 h with hinitial | ⟨m, hm, heq⟩
  · exact absurd (length_lt_of_mem_initials hinitial n) (lt_irrefl _)
  · rwa [underscores_injective _ heq]

/-! ### The search -/

theorem isReceiver_of_receiver?_eq_some {type found : Text} {taken : List Text}
    (h : receiver? type taken = some found) : IsReceiver taken (decapitalize type) found := by
  obtain ⟨hmem, hfree, hleast⟩ := receiver?_eq_some_iff.1 h
  rcases mem_receiverCandidates_iff.1 hmem with hinitial | ⟨n, -, rfl⟩
  · refine .initial (isFreeInitial_iff.2 ⟨hinitial, hfree⟩) ?_
    intro other hother
    obtain ⟨hcandidate, hfreeOther⟩ := isFreeInitial_iff.1 hother
    by_contra hlonger
    have hpassed := hleast other (mem_receiverCandidates_iff.2 (.inl hcandidate)) (by omega)
    simp [hfreeOther] at hpassed
  · obtain ⟨hidentifier, hnotMem⟩ := isFree_iff.1 hfree
    have hstem := isIdentifier_receiverStem_of_append hidentifier
    refine .stem ?_ hstem ⟨hnotMem, ?_⟩
    · intro initial hinitial
      obtain ⟨hcandidate, hfreeInitial⟩ := isFreeInitial_iff.1 hinitial
      have hpassed := hleast initial (mem_receiverCandidates_iff.2 (.inl hcandidate))
        (length_lt_of_mem_initials hcandidate n)
      simp [hfreeInitial] at hpassed
    · intro m hm
      have hcandidate : receiverStem (decapitalize type) ++ List.replicate m '_' ∈
          receiverCandidates (decapitalize type) taken.length := by
        have hle := le_of_append_mem_receiverCandidates hmem
        exact mem_receiverCandidates_iff.2 (.inr ⟨m, by omega, rfl⟩)
      have hpassed := hleast _ hcandidate (by simpa using hm)
      simpa [isFree, isIdentifier_append_underscores hstem m] using hpassed

theorem receiver?_eq_some_of_isReceiver {type found : Text} {taken : List Text}
    (h : IsReceiver taken (decapitalize type) found) : receiver? type taken = some found := by
  rw [receiver?_eq_some_iff]
  cases h with
  | initial hfree hshortest =>
    obtain ⟨hinitial, hfound⟩ := isFreeInitial_iff.1 hfree
    refine ⟨mem_receiverCandidates_iff.2 (.inl hinitial), hfound, ?_⟩
    intro candidate hcandidate hlt
    rcases mem_receiverCandidates_iff.1 hcandidate with hother | ⟨n, -, rfl⟩
    · rw [Bool.eq_false_iff]
      intro hfreeOther
      exact absurd (hshortest candidate (isFreeInitial_iff.2 ⟨hother, hfreeOther⟩)) (by omega)
    · exact absurd (length_lt_of_mem_initials hinitial n) (by omega)
  | @stem n hnone hidentifier hstops =>
    have hle := le_length_of_passed (underscores_injective _) hstops.passed
    refine ⟨mem_receiverCandidates_iff.2 (.inr ⟨n, hle, rfl⟩),
      isFree_iff.2 ⟨isIdentifier_append_underscores hidentifier n, hstops.not_mem⟩, ?_⟩
    intro candidate hcandidate hlt
    rw [Bool.eq_false_iff]
    intro hfree
    rcases mem_receiverCandidates_iff.1 hcandidate with hinitial | ⟨m, -, rfl⟩
    · exact hnone candidate (isFreeInitial_iff.2 ⟨hinitial, hfree⟩)
    · exact (isFree_iff.1 hfree).2 (hstops.passed m (by simpa using hlt))

theorem receiver?_isSome_iff {type : Text} {taken : List Text} :
    (receiver? type taken).isSome = true ↔
      (∃ initial, IsFreeInitial taken (decapitalize type) initial) ∨
        isIdentifier (receiverStem (decapitalize type)) = true := by
  constructor
  · intro hsome
    obtain ⟨found, hfound⟩ := Option.isSome_iff_exists.1 hsome
    cases isReceiver_of_receiver?_eq_some hfound with
    | initial hfree _ => exact .inl ⟨_, hfree⟩
    | stem _ hidentifier _ => exact .inr hidentifier
  · rintro (⟨initial, hinitial⟩ | hidentifier)
    · obtain ⟨hcandidate, hfree⟩ := isFreeInitial_iff.1 hinitial
      rw [receiver?, List.find?_isSome]
      exact ⟨initial, mem_receiverCandidates_iff.2 (.inl hcandidate), hfree⟩
    · exact receiver?_isSome hidentifier taken

theorem isKeyword_eq_false_of_isIdentifier {name : Text} (h : isIdentifier name = true) :
    isKeyword name = false := by
  cases name with
  | nil => cases h
  | cons c rest =>
    simp only [isIdentifier, Bool.and_eq_true, Bool.not_eq_true'] at h
    exact h.2

/-- The search for a receiver finds the shortest of the initials of the type that are free or,
when none is, the stem with the fewest underscores that make it free, which are no more
than the names to avoid.  It ends exactly when some initials are free or the stem is an
identifier, as it is for a type without a name and for every type that a source can declare.
What it finds is an identifier, no keyword, and none of the names to avoid. -/
theorem receiver?_finds_least (type : Text) (taken : List Text) :
    (∀ found, receiver? type taken = some found ↔ IsReceiver taken (decapitalize type) found) ∧
    (∀ n, receiver? type taken = some (receiverStem (decapitalize type) ++ List.replicate n '_') →
      n ≤ taken.length) ∧
    ((receiver? type taken).isSome = true ↔
      (∃ initial, IsFreeInitial taken (decapitalize type) initial) ∨
        isIdentifier (receiverStem (decapitalize type)) = true) ∧
    (type = [] ∨ Source.isAsciiIdentifier type = true →
      isIdentifier (receiverStem (decapitalize type)) = true) ∧
    ∀ found, receiver? type taken = some found →
      receiver type taken = found ∧ isIdentifier found = true ∧ isKeyword found = false ∧ found ∉ taken := by
  refine ⟨?_, ?_, receiver?_isSome_iff, ?_, ?_⟩
  · intro found
    exact ⟨isReceiver_of_receiver?_eq_some, receiver?_eq_some_of_isReceiver⟩
  · intro n hfound
    obtain ⟨hmem, -⟩ := receiver?_eq_some_iff.1 hfound
    exact le_of_append_mem_receiverCandidates hmem
  · rintro (rfl | hname)
    · decide
    · exact isIdentifier_receiverStem hname
  · intro found hfound
    obtain ⟨hreceiver, hidentifier, hfree⟩ := of_receiver?_eq_some hfound
    exact ⟨hreceiver, hidentifier, isKeyword_eq_false_of_isIdentifier hidentifier, hfree⟩

/-- `go` is a keyword and `g` is taken. -/
example : receiver? "Go" [['g']] = some "go_" := by decide +kernel

end GoScaffold
