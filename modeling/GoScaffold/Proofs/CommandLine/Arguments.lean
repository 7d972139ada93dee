import GoScaffold.CommandLine.Arguments
import GoScaffold.Proofs.FirstFailure

/-!
# Arguments that give a command

Reading arguments only adds to what was given before.  So `-o` and a file in front of a command
line without an output file leave the command as it is, and send its result to the file.  The code
of any labels can be asked for.
-/

namespace GoScaffold.CommandLine

/-! ### What was given before -/

/-- What was given first, and what was given then. -/
instance : Append Given where
  append front given :=
    ⟨front.occurrences ++ given.occurrences, front.values ++ given.values, front.operands ++ given.operands⟩

namespace Given

variable (front given : Given)

theorem append_occur (switch : Switch) : (front ++ given).occur switch = front ++ given.occur switch :=
  congrArg (Given.mk · _ _) (List.append_assoc _ _ _)

theorem append_addValue (switch : Switch) (value : Text) :
    (front ++ given).addValue switch value = front ++ given.addValue switch value :=
  congrArg (Given.mk _ · _) (List.append_assoc _ _ _)

theorem append_addOperands (operands : List Text) :
    (front ++ given).addOperands operands = front ++ given.addOperands operands :=
  congrArg (Given.mk _ _ ·) (List.append_assoc _ _ _)

theorem append_nothing : front ++ Given.nothing = front := by
  change Given.mk _ _ _ = front
  simp only [nothing, List.append_nil]

end Given

variable {level : Level} {front : Given}

theorem readSwitch_append (given : Given) (switch : Switch) (value? : Option Text) :
    readSwitch level (front ++ given) switch value? =
      (readSwitch level given switch value?).map (Prod.map (front ++ ·) id) := by
  cases switch <;> cases value? <;>
    simp only [readSwitch, Switch.takesValue, if_true, Bool.false_eq_true, if_false,
      Given.append_occur, Given.append_addValue] <;> rfl

theorem readLong_append (given : Given) (spelling : Text) :
    readLong level (front ++ given) spelling =
      (readLong level given spelling).map (Prod.map (front ++ ·) id) := by
  simp only [readLong]
  split
  next => exact readSwitch_append ..
  next => rfl

theorem readCluster_append (given : Given) (spelling : Text) :
    readCluster level (front ++ given) spelling =
      (readCluster level given spelling).map (Prod.map (front ++ ·) id) := by
  induction spelling generalizing given with
  | nil => rfl
  | cons c spelling ih =>
    unfold readCluster
    split
    next => rfl
    next switch hswitch =>
      split
      next => exact readSwitch_append ..
      next =>
        rw [readSwitch_append]
        cases readSwitch level given switch none with
        | error stop => rfl
        | ok read => exact ih read.1

theorem readSwitches_append (given : Given) (argument : Text) :
    readSwitches level (front ++ given) argument =
      (readSwitches level given argument).map (Prod.map (front ++ ·) id) := by
  unfold readSwitches
  split
  next => exact readLong_append ..
  next => exact readCluster_append ..

/-- What was given before is kept in front, if no operands were. -/
theorem readLevel_append (hfront : front.operands = []) (given : Given) (waiting? : Option Switch)
    (arguments : List Text) :
    readLevel level (front ++ given) waiting? arguments =
      (readLevel level given waiting? arguments).map
        fun reading => { reading with given := front ++ reading.given } := by
  induction arguments generalizing given waiting? with
  | nil => rfl
  | cons argument arguments ih =>
    have hoperands : (front ++ given).operands = given.operands := congrArg (· ++ given.operands) hfront
    unfold readLevel
    split
    next =>
      rw [Given.append_addOperands]
      rfl
    split
    next =>
      rw [readSwitches_append]
      cases readSwitches level given argument with
      | error stop => rfl
      | ok read => exact ih read.1 read.2
    split
    next switch =>
      rw [Given.append_addValue]
      exact ih _ none
    split
    next =>
      -- a subcommand ends the reading of its level, with what was given so far
      split
      next => rfl
      split
      next => rfl
      next => rfl
    next =>
      -- whether there is room for an operand is told from the operands, which are the same
      rw [hoperands]
      split
      next => rfl
      next =>
        rw [Given.append_addOperands]
        exact ih _ none

/-! ### Complete arguments -/

theorem Level.mem_switches_of_mem_required {switch : Switch} (h : switch ∈ level.required) :
    switch ∈ level.switches ∧ switch.takesValue = true := by
  cases level with
  | top => cases h
  | within subcommand => cases subcommand <;> revert switch <;> decide

theorem Given.isComplete_iff {given : Given} :
    given.isComplete level = true ↔
      given.operands.length = level.operandCount ∧
        (∀ switch ∈ level.required, given.has switch = true) ∧
          ∀ switch ∈ level.switches,
            (switch.isRepeatable = true ∨ given.occurrences.count switch ≤ 1) ∧
              (given.has switch = true → switch.takesValue = true →
                (given.valueOf? switch).isSome = true) := by
  simp only [isComplete, Bool.and_eq_true, Bool.or_eq_true, Bool.not_eq_true', beq_iff_eq,
    List.all_eq_true, decide_eq_true_eq, and_assoc]
  refine and_congr_right fun _ => and_congr_right fun _ => forall₂_congr fun switch _ =>
    and_congr_right fun _ => ?_
  cases given.has switch <;> cases switch.takesValue <;> simp

/-- Nothing that is required is missing. -/
theorem Given.isSome_valueOf? {given : Given} {switch : Switch} (h : given.isComplete level = true)
    (hrequired : switch ∈ level.required) : (given.valueOf? switch).isSome = true := by
  obtain ⟨-, hhas, hswitches⟩ := isComplete_iff.1 h
  obtain ⟨hmem, hvalue⟩ := Level.mem_switches_of_mem_required hrequired
  exact (hswitches switch hmem).2 (hhas switch hrequired) hvalue

/-! ### The output file -/

namespace Given

/-- The output file, and nothing else. -/
def outputTo (path : Text) : Given := ⟨[.output], [(.output, path)], []⟩

variable {path : Text} {given : Given} {switch : Switch}

theorem valueOf?_outputTo : (outputTo path ++ given).valueOf? .output = some path := rfl

theorem valueOf?_outputTo_of_ne (h : switch ≠ .output) :
    (outputTo path ++ given).valueOf? switch = given.valueOf? switch := by
  have hvalues : (outputTo path ++ given).valuesOf switch = given.valuesOf switch :=
    List.filterMap_cons_none (if_neg (Ne.symm h))
  rw [valueOf?, hvalues]
  rfl

theorem count_outputTo : (outputTo path ++ given).occurrences.count .output =
    given.occurrences.count .output + 1 :=
  List.count_cons_self

theorem count_outputTo_of_ne (h : switch ≠ .output) :
    (outputTo path ++ given).occurrences.count switch = given.occurrences.count switch :=
  List.count_cons_of_ne (Ne.symm h)

theorem has_outputTo_of_ne (h : switch ≠ .output) :
    (outputTo path ++ given).has switch = given.has switch := by
  change List.contains (.output :: given.occurrences) switch = _
  rw [List.contains_cons, beq_eq_false_iff_ne.2 h, Bool.false_or]
  rfl

/-- An output file can be added to a level where none is named. -/
theorem isComplete_outputTo (h : given.isComplete .top = true) (hnone : given.valueOf? .output = none) :
    (outputTo path ++ given).isComplete .top = true := by
  obtain ⟨hoperands, -, hswitches⟩ := isComplete_iff.1 h
  refine isComplete_iff.2 ⟨hoperands, List.forall_mem_nil _, ?_⟩
  intro switch hswitch
  by_cases houtput : switch = .output
  · subst houtput
    have hfree : .output ∉ given.occurrences := by
      intro hmem
      have hvalue := (hswitches .output hswitch).2 (List.contains_iff_mem.2 hmem) rfl
      rw [hnone] at hvalue
      cases hvalue
    rw [count_outputTo, List.count_eq_zero.2 hfree]
    exact ⟨.inr Nat.le.refl, fun _ _ => rfl⟩
  · rw [valueOf?_outputTo_of_ne houtput, count_outputTo_of_ne houtput, has_outputTo_of_ne houtput]
    exact hswitches switch hswitch

end Given

theorem readLevel_output {path : Text} (hpath : isSwitches path = false) (arguments : List Text) :
    readLevel .top .nothing none ("-o" :: path :: arguments) =
      (readLevel .top .nothing none arguments).map
        fun reading => { reading with given := .outputTo path ++ reading.given } := by
  have hne : path ≠ ['-', '-'] := by
    rintro rfl
    cases hpath
  rw [← readLevel_append rfl, Given.append_nothing]
  -- `-o` waits for its value, which is the path
  change readLevel .top (Given.nothing.occur .output) (some .output) (path :: arguments) = _
  rw [readLevel, if_neg hne, hpath]
  rfl

theorem ofArguments_eq_ok_iff {arguments : List Text} {invocation : Invocation} :
    Invocation.ofArguments arguments = .ok invocation ↔
      ∃ outer subcommand rest inner next?,
        readLevel .top .nothing none arguments = .ok ⟨outer, some (subcommand, rest)⟩ ∧
          readLevel (.within subcommand) .nothing none rest = .ok ⟨inner, next?⟩ ∧
            inner.isComplete (.within subcommand) = true ∧ outer.isComplete .top = true ∧
              invocation = ⟨Command.ofGiven subcommand inner,
                (inner.valueOf? .output).or (outer.valueOf? .output)⟩ := by
  rw [Invocation.ofArguments, bind_eq_ok_iff]
  constructor
  · rintro ⟨⟨outer, next?⟩, houter, h⟩
    cases next? with
    | none => cases h
    | some next =>
      obtain ⟨⟨inner, behind⟩, hinner, h⟩ := bind_eq_ok_iff.1 h
      dsimp only at h
      split at h
      next hcomplete =>
        cases h
        rw [Bool.and_eq_true] at hcomplete
        exact ⟨outer, next.1, next.2, inner, behind, houter, hinner, hcomplete.1, hcomplete.2, rfl⟩
      next => cases h
  · rintro ⟨outer, subcommand, rest, inner, next?, houter, hinner, hcomplete, htop, rfl⟩
    refine ⟨_, houter, bind_eq_ok_iff.2 ⟨_, hinner, ?_⟩⟩
    dsimp only
    rw [hcomplete, htop]
    rfl

/-- `-o` and a file, in front of a command line that names none. -/
theorem ofArguments_output {path : Text} (hpath : isSwitches path = false) {arguments : List Text}
    {command : Command} (h : Invocation.ofArguments arguments = .ok ⟨command, none⟩) :
    Invocation.ofArguments ("-o" :: path :: arguments) = .ok ⟨command, some path⟩ := by
  obtain ⟨outer, subcommand, rest, inner, next?, houter, hinner, hcomplete, htop, heq⟩ :=
    ofArguments_eq_ok_iff.1 h
  obtain ⟨rfl, hnone⟩ := Invocation.mk.inj heq
  obtain ⟨hinnerNone, houterNone⟩ := Option.or_eq_none_iff.1 hnone.symm
  refine ofArguments_eq_ok_iff.2 ⟨.outputTo path ++ outer, subcommand, rest, inner, next?, ?_, hinner,
    hcomplete, Given.isComplete_outputTo htop houterNone, ?_⟩
  · rw [readLevel_output hpath, houter]
    rfl
  · rw [hinnerNone, Given.valueOf?_outputTo, Option.none_or]

/-! ### Arguments for labels -/

/-- A label as arguments; one that looks like a switch stands behind an equals sign. -/
def labelArguments (label : Text) : List Text :=
  if isSwitches label then ["--label=" ++ label] else ["-l", label]

def namingArguments : Naming → List Text
  | .exported => []
  | .verbatim => ["--verbatim"]

/-- Arguments that ask for the code of labels. -/
def generateArguments (input : Text) (labels : List Text) (naming : Naming) : List Text :=
  "generate" :: (labels.flatMap labelArguments ++ (namingArguments naming ++ [['-', '-'], input]))

theorem readLevel_labelArguments (given : Given) (label : Text) (rest : List Text) :
    readLevel (.within .generate) given none (labelArguments label ++ rest) =
      readLevel (.within .generate) ((given.occur .label).addValue .label label) none rest := by
  unfold labelArguments
  split
  next h =>
    obtain ⟨c, tail, rfl⟩ : ∃ c tail, label = '-' :: c :: tail := by
      unfold isSwitches at h
      split at h
      next c tail => exact ⟨c, tail, rfl⟩
      next => cases h
    rfl
  next h =>
    have hne : label ≠ ['-', '-'] := by
      rintro rfl
      exact h rfl
    change readLevel (.within .generate) (given.occur .label) (some .label) (label :: rest) = _
    rw [readLevel, if_neg hne, if_neg h]

theorem readLevel_labels (given : Given) (labels : List Text) (rest : List Text) :
    readLevel (.within .generate) given none (labels.flatMap labelArguments ++ rest) =
      readLevel (.within .generate)
        ⟨given.occurrences ++ labels.map fun _ => .label, given.values ++ labels.map (Prod.mk .label),
          given.operands⟩ none rest := by
  induction labels generalizing given with
  | nil => simp
  | cons label labels ih =>
    rw [List.flatMap_cons, List.append_assoc, readLevel_labelArguments, ih]
    simp [Given.occur, Given.addValue]

def namingSwitches : Naming → List Switch
  | .exported => []
  | .verbatim => [.verbatim]

/-- What the arguments for labels give to the subcommand. -/
def generateGiven (input : Text) (labels : List Text) (naming : Naming) : Given :=
  ⟨labels.map (fun _ => .label) ++ namingSwitches naming, labels.map (Prod.mk .label), [input]⟩

theorem readLevel_generateArguments (input : Text) (labels : List Text) (naming : Naming) :
    readLevel (.within .generate) .nothing none
        (labels.flatMap labelArguments ++ (namingArguments naming ++ [['-', '-'], input])) =
      .ok ⟨generateGiven input labels naming, none⟩ := by
  rw [readLevel_labels]
  cases naming with
  | exported =>
    rw [generateGiven, namingSwitches, List.append_nil]
    rfl
  | verbatim => rfl

theorem valuesOf_generateGiven (input : Text) (labels : List Text) (naming : Naming) (switch : Switch) :
    (generateGiven input labels naming).valuesOf switch = if switch = .label then labels else [] := by
  change List.filterMap _ (labels.map _) = _
  rw [List.filterMap_map]
  split
  next h =>
    subst h
    exact List.filterMap_some
  next h =>
    rw [List.filterMap_eq_nil_iff]
    intro label _
    exact if_neg (Ne.symm h)

theorem count_generateGiven_le (input : Text) (labels : List Text) (naming : Naming) {switch : Switch}
    (h : switch ≠ .label) : (generateGiven input labels naming).occurrences.count switch ≤ 1 := by
  have hlabel : (labels.map fun _ => Switch.label).count switch = 0 := by
    rw [List.count_eq_zero, List.mem_map]
    rintro ⟨label, -, rfl⟩
    exact h rfl
  have hnaming : (namingSwitches naming).length ≤ 1 := by cases naming <;> decide
  rw [generateGiven, List.count_append, hlabel, Nat.zero_add]
  exact Nat.le_trans List.count_le_length hnaming

theorem eq_label_of_has_generateGiven {input : Text} {labels : List Text} {naming : Naming}
    {switch : Switch} (h : (generateGiven input labels naming).has switch = true)
    (hvalue : switch.takesValue = true) : switch = .label := by
  rw [Given.has, List.contains_iff_mem, generateGiven, List.mem_append, List.mem_map] at h
  rcases h with ⟨label, -, rfl⟩ | h
  · rfl
  · cases naming with
    | exported => cases h
    | verbatim =>
      rw [List.mem_singleton.1 h] at hvalue
      cases hvalue

theorem isComplete_generateGiven (input : Text) {labels : List Text} (hlabels : labels ≠ [])
    (naming : Naming) : (generateGiven input labels naming).isComplete (.within .generate) = true := by
  obtain ⟨first, labels, rfl⟩ := List.exists_cons_of_ne_nil hlabels
  refine Given.isComplete_iff.2 ⟨rfl, ?_, ?_⟩
  · intro switch hswitch
    rw [List.mem_singleton.1 hswitch]
    rfl
  intro switch _
  constructor
  · by_cases hlabel : switch = .label
    · exact .inl (by rw [hlabel]; rfl)
    · exact .inr (count_generateGiven_le input _ naming hlabel)
  · intro hhas hvalue
    rw [eq_label_of_has_generateGiven hhas hvalue]
    rfl

theorem has_verbatim_generateGiven (input : Text) (labels : List Text) (naming : Naming) :
    (generateGiven input labels naming).has .verbatim = true ↔ naming = .verbatim := by
  cases naming <;> simp [generateGiven, namingSwitches, Given.has]

theorem ofGiven_generateGiven (input : Text) (labels : List Text) (naming : Naming) :
    Command.ofGiven .generate (generateGiven input labels naming) = .generate input labels naming := by
  have hlabels : (generateGiven input labels naming).valuesOf .label = labels :=
    valuesOf_generateGiven input labels naming .label
  rw [Command.ofGiven, hlabels]
  simp only [has_verbatim_generateGiven]
  cases naming <;> rfl

/-- Any labels of any file can be asked for, whatever their characters. -/
theorem ofArguments_generateArguments (input : Text) {labels : List Text} (hlabels : labels ≠ [])
    (naming : Naming) :
    Invocation.ofArguments (generateArguments input labels naming) =
      .ok ⟨.generate input labels naming, none⟩ := by
  have houtput : (generateGiven input labels naming).valueOf? .output = none := by
    rw [Given.valueOf?, valuesOf_generateGiven]
    rfl
  refine ofArguments_eq_ok_iff.2 ⟨.nothing, .generate, _, generateGiven input labels naming, none, rfl,
    readLevel_generateArguments input labels naming, isComplete_generateGiven input hlabels naming, rfl, ?_⟩
  rw [ofGiven_generateGiven, houtput]
  rfl

end GoScaffold.CommandLine
