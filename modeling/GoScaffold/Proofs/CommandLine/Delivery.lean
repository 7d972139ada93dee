import GoScaffold.CommandLine.Run
import GoScaffold.Proofs.CommandLine.Arguments
import GoScaffold.Proofs.CommandLine.Folder

/-!
# Where the result of a run goes

A run ends in one of five ways.  Only the last of them changes a file, and it prints nothing; all
that can fail comes before it.
-/

namespace GoScaffold.CommandLine

theorem load_of_read {read : Reader} {input source : Text} (h : read input = .ok (encode source)) :
    load read input = .ok (Catalog.ofSource source) := by
  have hsource : (read input >>= decode) = .ok source := bind_eq_ok_iff.2 ⟨_, h, decode_encode source⟩
  rw [load, hsource]

/-! ### How a run ends -/

section

variable {folder after : Folder} {command : Command} {output? : Option Text} {path text : Text}

/-- What a command gives depends on the files only through the one that it reads. -/
theorem run_readInput (command : Command) (folder : Folder) :
    ∃ contents, (command.readInput Folder.access).run folder = (contents, folder) ∧
      command.result (fun _ => contents) = command.result folder.read := by
  cases command <;> exact ⟨_, rfl, rfl⟩

/-- The ways a run ends, with the files that it leaves. -/
inductive Outcome (folder : Folder) : Except Stop Invocation → Reply → Folder → Prop
  | stopped {stop : Stop} : Outcome folder (.error stop) stop.reply folder
  | failed {command : Command} {output? : Option Text} {failure : Failure}
      (hresult : command.result folder.read = .error failure) :
    Outcome folder (.ok ⟨command, output?⟩) (.failed failure) folder
  | printed {command : Command} {text : Text} (hresult : command.result folder.read = .ok text) :
    Outcome folder (.ok ⟨command, none⟩) (.done (text ++ ['\n'])) folder
  | refused {command : Command} {path text : Text} {cause : FileError}
      (hresult : command.result folder.read = .ok text)
      (hwrite : folder.write path (encode text) = .error cause) :
    Outcome folder (.ok ⟨command, some path⟩) (.failed (.unwritableOutput path cause)) folder
  | written {command : Command} {path text : Text} {after : Folder}
      (hresult : command.result folder.read = .ok text)
      (hwrite : folder.write path (encode text) = .ok after) :
    Outcome folder (.ok ⟨command, some path⟩) (.done []) after

theorem run_perform (command : Command) (output? : Option Text) (folder : Folder) :
    (Invocation.perform Folder.access ⟨command, output?⟩).run folder =
      match command.result folder.read with
      | .ok text => (deliverText Folder.access output? text).run folder
      | .error failure => (.failed failure, folder) := by
  obtain ⟨contents, hread, hresult⟩ := run_readInput command folder
  unfold Invocation.perform
  rw [StateT.run_bind, hread, ← hresult]
  change StateT.run (match command.result (fun _ => contents) with
    | .ok text => _
    | .error failure => _) folder = _
  cases command.result (fun _ => contents) with
  | ok text => rfl
  | error failure => rfl

theorem run_deliverText_written (h : folder.write path (encode text) = .ok after) :
    (deliverText Folder.access (some path) text).run folder = (.done [], after) := by
  have hwrite : (Folder.access.write path (encode text)).run folder = (.ok (), after) := by
    simp only [Folder.access, StateT.run, h]
  unfold deliverText
  rw [StateT.run_bind, hwrite]
  rfl

theorem run_deliverText_refused {cause : FileError} (h : folder.write path (encode text) = .error cause) :
    (deliverText Folder.access (some path) text).run folder =
      (.failed (.unwritableOutput path cause), folder) := by
  have hwrite : (Folder.access.write path (encode text)).run folder = (.error cause, folder) := by
    simp only [Folder.access, StateT.run, h]
  unfold deliverText
  rw [StateT.run_bind, hwrite]
  rfl

/-- These are all the ways, and what the arguments and the files are decides which it is. -/
theorem run_eq_iff {arguments : List Text} {reply : Reply} :
    run arguments folder = (reply, after) ↔
      Outcome folder (Invocation.ofArguments arguments) reply after := by
  unfold run perform
  cases Invocation.ofArguments arguments with
  | error stop =>
    constructor
    · intro h
      cases h
      exact .stopped
    · intro h
      cases h
      rfl
  | ok invocation =>
    obtain ⟨command, output?⟩ := invocation
    dsimp only
    rw [run_perform]
    constructor
    · intro h
      cases hresult : command.result folder.read with
      | error failure =>
        rw [hresult] at h
        cases h
        exact .failed hresult
      | ok text =>
        rw [hresult] at h
        cases output? with
        | none =>
          cases h
          exact .printed hresult
        | some path =>
          dsimp only at h
          cases hwrite : folder.write path (encode text) with
          | ok written =>
            rw [run_deliverText_written hwrite] at h
            cases h
            exact .written hresult hwrite
          | error cause =>
            rw [run_deliverText_refused hwrite] at h
            cases h
            exact .refused hresult hwrite
    · intro h
      cases h with
      | failed hresult => rw [hresult]
      | printed hresult =>
        rw [hresult]
        rfl
      | refused hresult hwrite =>
        rw [hresult]
        exact run_deliverText_refused hwrite
      | written hresult hwrite =>
        rw [hresult]
        exact run_deliverText_written hwrite

end

/-! ### One place -/

section

variable {folder after : Folder} {reply : Reply} {arguments : List Text} {command : Command}

theorem Reply.stdout_eq_nil (h : reply.exitCode ≠ 0) : reply.stdout = [] := by
  cases reply with
  | done text => exact absurd rfl h
  | misused => rfl
  | failed failure => rfl

theorem Outcome.eq_of_exitCode {read : Except Stop Invocation} (h : Outcome folder read reply after)
    (hexit : reply.exitCode ≠ 0) : after = folder := by
  cases h with
  | written => exact absurd rfl hexit
  | _ => rfl

theorem run_printed {text : Text} (h : Invocation.ofArguments arguments = .ok ⟨command, none⟩)
    (hresult : command.result folder.read = .ok text) :
    run arguments folder = (.done (text ++ ['\n']), folder) := by
  rw [run_eq_iff, h]
  exact .printed hresult

theorem run_failed {output? : Option Text} {failure : Failure}
    (h : Invocation.ofArguments arguments = .ok ⟨command, output?⟩)
    (hresult : command.result folder.read = .error failure) :
    run arguments folder = (.failed failure, folder) := by
  rw [run_eq_iff, h]
  exact .failed hresult

theorem run_written {path text : Text} (h : Invocation.ofArguments arguments = .ok ⟨command, some path⟩)
    (hresult : command.result folder.read = .ok text) (hwrite : folder.write path (encode text) = .ok after) :
    run arguments folder = (.done [], after) := by
  rw [run_eq_iff, h]
  exact .written hresult hwrite

theorem run_refused {path text : Text} {cause : FileError}
    (h : Invocation.ofArguments arguments = .ok ⟨command, some path⟩)
    (hresult : command.result folder.read = .ok text)
    (hwrite : folder.write path (encode text) = .error cause) :
    run arguments folder = (.failed (.unwritableOutput path cause), folder) := by
  rw [run_eq_iff, h]
  exact .refused hresult hwrite

/-- With an output file, what is left to fail is the writing. -/
theorem run_redirected {path text : Text} (h : Invocation.ofArguments arguments = .ok ⟨command, some path⟩)
    (hresult : command.result folder.read = .ok text) :
    ((run arguments folder).1.exitCode = 0 ↔ folder.IsWritable path) ∧
      (folder.IsWritable path → (run arguments folder).1.stdout = [] ∧
        folder.Holds (run arguments folder).2 path (encode text)) := by
  cases hwrite : folder.write path (encode text) with
  | ok written =>
    have hwritable : folder.IsWritable path := Folder.exists_write_eq_ok_iff.1 ⟨written, hwrite⟩
    rw [run_written h hresult hwrite]
    exact ⟨⟨fun _ => hwritable, fun _ => rfl⟩, fun _ => ⟨rfl, Folder.holds_of_write hwrite⟩⟩
  | error cause =>
    have hlocked : ¬folder.IsWritable path := by
      intro hwritable
      obtain ⟨written, hok⟩ := Folder.exists_write_eq_ok_iff.2 hwritable
      rw [hwrite] at hok
      cases hok
    rw [run_refused h hresult hwrite]
    refine ⟨⟨?_, fun hwritable => absurd hwritable hlocked⟩, fun hwritable => absurd hwritable hlocked⟩
    rintro ⟨⟩

/-- A failed run prints nothing and leaves the files as they are.  Without an output file the text
of the command and a line break go to the standard output, and no file changes.  With an output
file, which `-o` in front of the arguments names, the same command fails if it fails without one;
otherwise it succeeds exactly when the file can be written, the file then holds the same text,
nothing is printed, and no other file changes. -/
theorem run_delivers (arguments : List Text) (folder : Folder) :
    ((run arguments folder).1.exitCode ≠ 0 →
      (run arguments folder).1.stdout = [] ∧ (run arguments folder).2 = folder) ∧
    ∀ command, Invocation.ofArguments arguments = .ok ⟨command, none⟩ →
      ((run arguments folder).1.exitCode = 0 → ∃ text, command.result folder.read = .ok text ∧
        run arguments folder = (.done (text ++ ['\n']), folder)) ∧
      (∀ path, isSwitches path = false →
        Invocation.ofArguments ("-o" :: path :: arguments) = .ok ⟨command, some path⟩) ∧
      ∀ redirected path, Invocation.ofArguments redirected = .ok ⟨command, some path⟩ →
        ((run arguments folder).1.exitCode ≠ 0 → run redirected folder = run arguments folder) ∧
        ∀ text, (run arguments folder).1 = .done (text ++ ['\n']) →
          ((run redirected folder).1.exitCode = 0 ↔ folder.IsWritable path) ∧
          (folder.IsWritable path → (run redirected folder).1.stdout = [] ∧
            folder.Holds (run redirected folder).2 path (encode text)) := by
  refine ⟨?_, ?_⟩
  · intro hexit
    exact ⟨Reply.stdout_eq_nil hexit, (run_eq_iff.1 rfl).eq_of_exitCode hexit⟩
  intro command harguments
  refine ⟨?_, fun path hpath => ofArguments_output hpath harguments, ?_⟩
  · intro hexit
    cases hresult : command.result folder.read with
    | error failure =>
      rw [run_failed harguments hresult] at hexit
      cases hexit
    | ok text => exact ⟨text, rfl, run_printed harguments hresult⟩
  · intro redirected path hredirected
    cases hresult : command.result folder.read with
    | error failure =>
      rw [run_failed harguments hresult, run_failed hredirected hresult]
      exact ⟨fun _ => rfl, fun text heq => by cases heq⟩
    | ok text =>
      rw [run_printed harguments hresult]
      refine ⟨fun hexit => absurd rfl hexit, ?_⟩
      intro printed heq
      obtain rfl : text = printed := List.append_cancel_right (Reply.done.inj heq)
      exact run_redirected hredirected hresult

/-- A file is read before it is overwritten with the labels of its declarations. -/
theorem run_delivers_in_place :
    ∃ folder : Folder, folder.read "t.go" = .ok (encode "type T struct \x7b\n\x7d\n") ∧
      run ["list", "t.go"] folder = (.done "T Constructor\nT Builder\n", folder) ∧
      (run ["-o", "t.go", "list", "t.go"] folder).1.exitCode = 0 ∧
      (run ["-o", "t.go", "list", "t.go"] folder).2.read "t.go" =
        .ok (encode "T Constructor\nT Builder") := by
  let folder : Folder := ⟨[(["t.go"], encode "type T struct \x7b\n\x7d\n")]⟩
  have hread : folder.read "t.go" = .ok (encode "type T struct \x7b\n\x7d\n") := rfl
  have hresult : (Command.list "t.go").result folder.read = .ok "T Constructor\nT Builder" := by
    refine bind_eq_ok_iff.2 ⟨_, load_of_read hread, ?_⟩
    decide +kernel
  have harguments : Invocation.ofArguments ["list", "t.go"] = .ok ⟨.list "t.go", none⟩ := by
    decide +kernel
  have hwritable : folder.IsWritable "t.go" := ⟨["t.go"], rfl, rfl, rfl⟩
  obtain ⟨-, hdelivers⟩ := run_delivers ["list", "t.go"] folder
  obtain ⟨-, hredirect, hwritten⟩ := hdelivers _ harguments
  have hrun := run_printed harguments hresult
  obtain ⟨hexit, hholds⟩ :=
    (hwritten _ _ (hredirect "t.go" rfl)).2 "T Constructor\nT Builder" (congrArg Prod.fst hrun)
  exact ⟨folder, hread, hrun, hexit.2 hwritable, (hholds hwritable).2.read_eq⟩

end

end GoScaffold.CommandLine
