import GoScaffold.CommandLine.Folder
import GoScaffold.Proofs.FirstFailure
import GoScaffold.Proofs.Keyed

/-!
# One file is written

Writing what a text names changes one file of the folder.  The text still names that file
afterwards, and reading it gives what was written.
-/

namespace GoScaffold.CommandLine

theorem decode_encode (text : Text) : decode (encode text) = .ok text := by
  have hvalid : (encode text).IsValidUTF8 := (String.ofList text).isValidUTF8
  have hread : String.fromUTF8? (encode text) = some (String.ofList text) := by
    rw [String.fromUTF8?, dif_pos hvalid]
    rfl
  rw [decode, hread]
  simp only [String.toList_ofList]

namespace Folder

variable {folder after : Folder} {text : Text} {path : Path} {contents : ByteArray}

theorem read_eq_ok_iff :
    folder.read text = .ok contents ↔
      ∃ path, folder.locate text = .ok path ∧ folder.contents? path = some contents ∧
        endsInSlash text = false := by
  rw [read, bind_eq_ok_iff]
  apply exists_congr
  intro path
  apply and_congr_right
  intro _
  cases folder.contents? path with
  | none => simp
  | some found =>
    cases endsInSlash text with
    | true => simp
    | false => simp

/-- A text that names a file, or a place in a folder where there is none yet. -/
def IsWritable (folder : Folder) (text : Text) : Prop :=
  ∃ path, folder.locate text = .ok path ∧ folder.isFolder path = false ∧ endsInSlash text = false

theorem write_eq_ok_iff :
    folder.write text contents = .ok after ↔
      ∃ path, folder.locate text = .ok path ∧ folder.isFolder path = false ∧ endsInSlash text = false ∧
        after = ⟨Keyed.put Prod.fst (path, contents) folder.files⟩ := by
  rw [write, bind_eq_ok_iff]
  apply exists_congr
  intro path
  apply and_congr_right
  intro _
  cases folder.isFolder path with
  | true => simp
  | false =>
    cases endsInSlash text with
    | true => simp
    | false => simp [eq_comm]

theorem exists_write_eq_ok_iff :
    (∃ after, folder.write text contents = .ok after) ↔ folder.IsWritable text := by
  constructor
  · rintro ⟨after, h⟩
    obtain ⟨path, hpath, hfolder, hslash, -⟩ := write_eq_ok_iff.1 h
    exact ⟨path, hpath, hfolder, hslash⟩
  · rintro ⟨path, hpath, hfolder, hslash⟩
    exact ⟨_, write_eq_ok_iff.2 ⟨path, hpath, hfolder, hslash, rfl⟩⟩

/-! ### The names afterwards -/

theorem isFolder_iff :
    folder.isFolder path = true ↔
      path = [] ∨ ∃ file ∈ folder.files.map Prod.fst, path <+: file ∧ path ≠ file := by
  simp [isFolder]

theorem isFolder_put (h : folder.isFolder path = true) (file : Path × ByteArray) :
    isFolder ⟨Keyed.put Prod.fst file folder.files⟩ path = true := by
  rw [isFolder_iff] at h ⊢
  refine h.imp_right ?_
  rintro ⟨below, hmem, hpath⟩
  refine ⟨below, ?_, hpath⟩
  rw [Keyed.map_put]
  split
  next => exact hmem
  next => exact List.mem_append_left _ hmem

/-- Names lead to the same place where there are more folders.  They need not when they lead
nowhere: what is missing, and what is no folder, may change. -/
theorem follow_of_le (hle : ∀ path, folder.isFolder path = true → after.isFolder path = true)
    {names : List Text} {here : Path} (h : folder.follow here names = .ok path) :
    after.follow here names = .ok path := by
  induction names generalizing here with
  | nil => exact h
  | cons name names ih =>
    rw [follow] at h ⊢
    split at h
    next => cases h
    next hhere =>
      have hafter : after.isFolder here = true := hle here (by simpa using hhere)
      rw [hafter]
      split at h
      next hself =>
        simp only [hself, Bool.not_true, Bool.false_eq_true, if_false, if_true]
        exact ih h
      next hself =>
        simp only [hself, Bool.not_true, Bool.false_eq_true, if_false]
        split at h
        next hup =>
          rw [if_pos hup]
          split at h
          next htop => rwa [if_pos htop]
          next htop =>
            rw [if_neg htop]
            exact ih h
        next hup =>
          rw [if_neg hup]
          exact ih h

theorem locate_of_le (hle : ∀ path, folder.isFolder path = true → after.isFolder path = true)
    (h : folder.locate text = .ok path) : after.locate text = .ok path := by
  unfold locate at h ⊢
  split at h
  next => cases h
  next => exact h
  next => exact follow_of_le hle h

/-! ### The files afterwards -/

/-- The folder `after` has the contents under the text, and all other files as `folder` has them. -/
structure Holds (folder after : Folder) (text : Text) (contents : ByteArray) : Prop where
  read_eq : after.read text = .ok contents
  contents?_eq : ∀ path, folder.locate text ≠ .ok path → after.contents? path = folder.contents? path

theorem contents?_put (path other : Path) (contents : ByteArray) :
    contents? ⟨Keyed.put Prod.fst (path, contents) folder.files⟩ other =
      if path = other then some contents else folder.contents? other := by
  rw [contents?, Keyed.get?_put]
  split
  next => rfl
  next => rfl

theorem holds_of_write (h : folder.write text contents = .ok after) : folder.Holds after text contents := by
  obtain ⟨path, hpath, hfolder, hslash, rfl⟩ := write_eq_ok_iff.1 h
  constructor
  · refine read_eq_ok_iff.2 ⟨path, locate_of_le (fun _ hbelow => isFolder_put hbelow _) hpath, ?_, hslash⟩
    rw [contents?_put, if_pos rfl]
  · intro other hother
    rw [contents?_put, if_neg]
    rintro rfl
    exact hother hpath

end Folder

end GoScaffold.CommandLine
