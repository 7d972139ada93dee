import GoScaffold.Proofs.CommandLine.Delivery

/-!
# Many labels

The code of many labels is the code of each, one behind the other.  When one of them fails, the
run fails as it does for the first of those alone.
-/

namespace GoScaffold.CommandLine

section

variable {read : Reader} {input label fragment : Text} {labels : List Text} {naming : Naming}
  {catalog : Catalog} {failure : Failure}

theorem result_generate (hload : load read input = .ok catalog) :
    (Command.generate input labels naming).result read =
      (labels.mapM (codeOfLabel catalog naming)).map List.flatten := by
  rw [Command.result, hload]
  rfl

theorem result_generate_of_unreadable (hload : load read input = .error failure) :
    (Command.generate input labels naming).result read = .error failure := by
  rw [Command.result, hload]
  rfl

theorem result_generate_singleton (hload : load read input = .ok catalog) :
    (Command.generate input [label] naming).result read = codeOfLabel catalog naming label := by
  rw [result_generate hload, List.mapM_cons, List.mapM_nil]
  cases codeOfLabel catalog naming label with
  | ok fragment => exact congrArg Except.ok (List.append_nil fragment)
  | error failure => rfl

end

/-! ### One label alone -/

section

variable {folder : Folder} {input label : Text} {labels : List Text} {naming : Naming} {catalog : Catalog}

/-- The run for one label. -/
def runAlone (input : Text) (naming : Naming) (folder : Folder) (label : Text) : Reply × Folder :=
  run (generateArguments input [label] naming) folder

theorem ofArguments_alone (input label : Text) (naming : Naming) :
    Invocation.ofArguments (generateArguments input [label] naming) =
      .ok ⟨.generate input [label] naming, none⟩ :=
  ofArguments_generateArguments input (List.cons_ne_nil _ _) naming

theorem runAlone_of_ok (hload : load folder.read input = .ok catalog) {fragment : Text}
    (hcode : codeOfLabel catalog naming label = .ok fragment) :
    runAlone input naming folder label = (.done (fragment ++ ['\n']), folder) :=
  run_printed (ofArguments_alone input label naming) ((result_generate_singleton hload).trans hcode)

theorem runAlone_of_error (hload : load folder.read input = .ok catalog) {failure : Failure}
    (hcode : codeOfLabel catalog naming label = .error failure) :
    runAlone input naming folder label = (.failed failure, folder) :=
  run_failed (ofArguments_alone input label naming) ((result_generate_singleton hload).trans hcode)

theorem runAlone_of_unreadable {failure : Failure} (hload : load folder.read input = .error failure) :
    runAlone input naming folder label = (.failed failure, folder) :=
  run_failed (ofArguments_alone input label naming) (result_generate_of_unreadable hload)

/-- A label succeeds alone when it gives code. -/
theorem exitCode_runAlone_iff (hload : load folder.read input = .ok catalog) :
    (runAlone input naming folder label).1.exitCode = 0 ↔
      ∃ fragment, codeOfLabel catalog naming label = .ok fragment := by
  cases hcode : codeOfLabel catalog naming label with
  | ok fragment =>
    rw [runAlone_of_ok hload hcode]
    exact ⟨fun _ => ⟨fragment, rfl⟩, fun _ => rfl⟩
  | error failure =>
    rw [runAlone_of_error hload hcode]
    constructor
    · rintro ⟨⟩
    · rintro ⟨_, ⟨⟩⟩

end

/-! ### All labels -/

section

variable {arguments : List Text} {folder : Folder} {input : Text} {labels : List Text} {naming : Naming}
  {output? : Option Text}

theorem labels_ne_nil (h : Invocation.ofArguments arguments = .ok ⟨.generate input labels naming, output?⟩) :
    labels ≠ [] := by
  obtain ⟨outer, subcommand, rest, inner, next?, -, -, hcomplete, -, heq⟩ := ofArguments_eq_ok_iff.1 h
  obtain ⟨hcommand, -⟩ := Invocation.mk.inj heq
  cases subcommand with
  | generate =>
    obtain ⟨-, rfl, -⟩ := Command.generate.inj hcommand
    have hvalue := Given.isSome_valueOf? hcomplete (List.mem_singleton_self Switch.label)
    intro hnil
    rw [Given.valueOf?, hnil] at hvalue
    cases hvalue
  | _ => cases hcommand

theorem result_generate_of_alone
    (hlabels : labels ≠ []) (halone : ∀ label ∈ labels, (runAlone input naming folder label).1.exitCode = 0) :
    ∃ fragments, (Command.generate input labels naming).result folder.read = .ok fragments.flatten ∧
      List.Forall₂ (fun label fragment =>
        runAlone input naming folder label = (.done (fragment ++ ['\n']), folder)) labels fragments := by
  cases hload : load folder.read input with
  | ok catalog =>
    obtain ⟨fragments, hcodes⟩ :=
      exists_mapM_eq_ok fun label hlabel => (exitCode_runAlone_iff hload).1 (halone label hlabel)
    refine ⟨fragments, ?_, ?_⟩
    · rw [result_generate hload, hcodes]
      rfl
    · exact (mapM_eq_ok_iff.1 hcodes).imp fun _ _ hcode => runAlone_of_ok hload hcode
  | error failure =>
    obtain ⟨label, hlabel⟩ := List.exists_mem_of_ne_nil labels hlabels
    have hexit := halone label hlabel
    rw [runAlone_of_unreadable hload] at hexit
    cases hexit

theorem result_generate_of_first_failure {before after : List Text} {label : Text}
    (hbefore : ∀ earlier ∈ before, (runAlone input naming folder earlier).1.exitCode = 0)
    (hlabel : (runAlone input naming folder label).1.exitCode ≠ 0) :
    ∃ failure, runAlone input naming folder label = (.failed failure, folder) ∧
      (Command.generate input (before ++ label :: after) naming).result folder.read = .error failure := by
  cases hload : load folder.read input with
  | ok catalog =>
    cases hcode : codeOfLabel catalog naming label with
    | ok fragment => exact absurd ((exitCode_runAlone_iff hload).2 ⟨fragment, hcode⟩) hlabel
    | error failure =>
      refine ⟨failure, runAlone_of_error hload hcode, ?_⟩
      have hearlier := fun earlier hmem => (exitCode_runAlone_iff hload).1 (hbefore earlier hmem)
      rw [result_generate hload, mapM_eq_error_iff.2 ⟨before, label, after, rfl, hearlier, hcode⟩]
      rfl
  | error failure =>
    exact ⟨failure, runAlone_of_unreadable hload, result_generate_of_unreadable hload⟩

/-- Labels that all succeed alone give their fragments one behind the other, on the standard output
or in the output file.  Otherwise the run fails as the first label does that fails alone, whatever
comes behind it, and nothing is printed or written. -/
theorem run_generate (h : Invocation.ofArguments arguments = .ok ⟨.generate input labels naming, output?⟩)
    (folder : Folder) :
    ((∀ label ∈ labels, (runAlone input naming folder label).1.exitCode = 0) →
      ∃ fragments, List.Forall₂
          (fun label fragment => runAlone input naming folder label = (.done (fragment ++ ['\n']), folder))
          labels fragments ∧
        (output? = none → run arguments folder = (.done (fragments.flatten ++ ['\n']), folder)) ∧
        ∀ path, output? = some path →
          ((run arguments folder).1.exitCode = 0 ↔ folder.IsWritable path) ∧
          (folder.IsWritable path → (run arguments folder).1.stdout = [] ∧
            folder.Holds (run arguments folder).2 path (encode fragments.flatten))) ∧
    ∀ before label after, labels = before ++ label :: after →
      (∀ earlier ∈ before, (runAlone input naming folder earlier).1.exitCode = 0) →
        (runAlone input naming folder label).1.exitCode ≠ 0 →
          run arguments folder = runAlone input naming folder label ∧
            (run arguments folder).1.stdout = [] ∧ (run arguments folder).2 = folder := by
  refine ⟨?_, ?_⟩
  · intro halone
    obtain ⟨fragments, hresult, hfragments⟩ := result_generate_of_alone (labels_ne_nil h) halone
    refine ⟨fragments, hfragments, ?_, ?_⟩
    · rintro rfl
      exact run_printed h hresult
    · rintro path rfl
      exact run_redirected h hresult
  · rintro before label after rfl hbefore hlabel
    obtain ⟨failure, halone, hresult⟩ := result_generate_of_first_failure hbefore hlabel
    rw [halone, run_failed h hresult]
    exact ⟨rfl, rfl, rfl⟩

/-- The same label twice gives its code twice; a struct that is not there fails the run, although a
label behind it is not even a label. -/
theorem run_generate_constructor :
    ∃ folder : Folder, folder.read "t.go" = .ok (encode "type T struct \x7b\n\x7d\n") ∧
      (∃ fragment, runAlone "t.go" .exported folder "T Constructor" = (.done (fragment ++ ['\n']), folder) ∧
        run ["generate", "t.go", "-l", "T Constructor", "-l", "T Constructor"] folder =
          (.done (fragment ++ fragment ++ ['\n']), folder)) ∧
      run ["generate", "t.go", "-l", "T Constructor", "-l", "U Builder", "-l", ""] folder =
        (.failed (.unusableLabel (.builder ['U']) (.unknownStruct ['U'])), folder) := by
  let folder : Folder := ⟨[(["t.go"], encode "type T struct \x7b\n\x7d\n")]⟩
  have hload : load folder.read "t.go" = .ok (Catalog.ofSource "type T struct \x7b\n\x7d\n") :=
    load_of_read rfl
  have hgood : (runAlone "t.go" .exported folder "T Constructor").1.exitCode = 0 := by
    refine (exitCode_runAlone_iff hload).2 ⟨"\nfunc NewT() *T \x7b\n\tt := new(T)\n\treturn t\n\x7d", ?_⟩
    decide +kernel
  have hbad : runAlone "t.go" .exported folder "U Builder" =
      (.failed (.unusableLabel (.builder ['U']) (.unknownStruct ['U'])), folder) := by
    refine runAlone_of_error hload ?_
    decide +kernel
  have htwice : Invocation.ofArguments ["generate", "t.go", "-l", "T Constructor", "-l", "T Constructor"] =
      .ok ⟨.generate "t.go" ["T Constructor", "T Constructor"] .exported, none⟩ := by decide +kernel
  have hmixed : Invocation.ofArguments
      ["generate", "t.go", "-l", "T Constructor", "-l", "U Builder", "-l", ""] =
      .ok ⟨.generate "t.go" ["T Constructor", "U Builder", ""] .exported, none⟩ := by decide +kernel
  refine ⟨folder, rfl, ?_, ?_⟩
  · obtain ⟨fragments, hfragments, hprinted, -⟩ := (run_generate htwice folder).1
      (List.forall_mem_cons.2 ⟨hgood, List.forall_mem_singleton.2 hgood⟩)
    obtain ⟨first, others, hfirst, hothers, rfl⟩ := List.forall₂_cons_left_iff.1 hfragments
    obtain ⟨second, none, hsecond, hnone, rfl⟩ := List.forall₂_cons_left_iff.1 hothers
    obtain rfl := List.forall₂_nil_left_iff.1 hnone
    obtain rfl : first = second :=
      List.append_cancel_right (Reply.done.inj (congrArg Prod.fst (hfirst.symm.trans hsecond)))
    refine ⟨first, hfirst, ?_⟩
    rw [hprinted rfl]
    simp
  · have hfirst := (run_generate hmixed folder).2 ["T Constructor"] "U Builder" [""] rfl
      (List.forall_mem_singleton.2 hgood) (by rw [hbad]; decide)
    exact hfirst.1.trans hbad

end

end GoScaffold.CommandLine
