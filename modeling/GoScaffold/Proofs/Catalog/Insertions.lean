import GoScaffold.Catalog.Basic
import GoScaffold.Proofs.Keyed

/-!
# Runs of insertions

A catalog is built by insertions of structs and of interfaces, in any order.  Each kind
takes its own insertions only and is a map ordered by them, so what a run leaves is told
by the run, and it does not matter whether a run is inserted or what it leaves.
-/

namespace GoScaffold

inductive Insertion where
  | struct (struct : Struct)
  | interface (interface : Interface)
  deriving DecidableEq, Repr

namespace Insertion

def struct? : Insertion → Option Struct
  | struct inserted => some inserted
  | interface _ => none

def interface? : Insertion → Option Interface
  | struct _ => none
  | interface inserted => some inserted

theorem eq_nil_of_filterMap {run : List Insertion} (hstructs : run.filterMap struct? = [])
    (hinterfaces : run.filterMap interface? = []) : run = [] := by
  cases run with
  | nil => rfl
  | cons insertion run =>
    cases insertion with
    | struct inserted => simp [struct?] at hstructs
    | interface inserted => simp [interface?] at hinterfaces

end Insertion

namespace Catalog

/-! ### Runs -/

def insert (catalog : Catalog) : Insertion → Catalog
  | .struct inserted => catalog.insertStruct inserted
  | .interface inserted => catalog.insertInterface inserted

def insertAll (catalog : Catalog) (run : List Insertion) : Catalog :=
  run.foldl insert catalog

/-- The catalog that a run leaves which starts with the empty one. -/
def ofInsertions (run : List Insertion) : Catalog :=
  empty.insertAll run

theorem ofInsertions_append (front rest : List Insertion) :
    ofInsertions (front ++ rest) = (ofInsertions front).insertAll rest :=
  List.foldl_append

/-- Structs and interfaces do not affect each other. -/
theorem ofInsertions_eq (run : List Insertion) :
    ofInsertions run =
      ⟨Keyed.putAll Struct.name (run.filterMap Insertion.struct?),
        Keyed.putAll Interface.name (run.filterMap Insertion.interface?)⟩ := by
  induction run using List.reverseRecOn with
  | nil => rfl
  | append_singleton run insertion ih =>
    have hstep : ofInsertions (run ++ [insertion]) = (ofInsertions run).insert insertion :=
      ofInsertions_append run [insertion]
    rw [hstep, ih]
    cases insertion with
    | struct inserted =>
      simp [List.filterMap_cons, Insertion.struct?, Insertion.interface?, Keyed.putAll_append_singleton,
        insert, insertStruct]
    | interface inserted =>
      simp [List.filterMap_cons, Insertion.struct?, Insertion.interface?, Keyed.putAll_append_singleton,
        insert, insertInterface]

/-- After any run of insertions into the empty catalog, each kind is a map ordered by the
insertions of this kind: names are different, they stand in the order in which they were first
inserted, a look-up gives the last insertion under the name, and none when there was none.
Each kind is as if the other had not been inserted, and the catalog is empty only if nothing
was. -/
theorem isMapOf_ofInsertions (run : List Insertion) :
    Keyed.IsMapOf Struct.name (run.filterMap Insertion.struct?) (ofInsertions run).structs
      (ofInsertions run).struct? ∧
    Keyed.IsMapOf Interface.name (run.filterMap Insertion.interface?) (ofInsertions run).interfaces
      (ofInsertions run).interface? ∧
    (ofInsertions run).structs =
      (ofInsertions ((run.filterMap Insertion.struct?).map Insertion.struct)).structs ∧
    (ofInsertions run).interfaces =
      (ofInsertions ((run.filterMap Insertion.interface?).map Insertion.interface)).interfaces ∧
    ((ofInsertions run).isEmpty = true ↔ run = []) := by
  have hstructs : ∀ inserted : List Struct,
      (inserted.map Insertion.struct).filterMap Insertion.struct? = inserted := by
    intro inserted
    simp [List.filterMap_map, Function.comp_def, Insertion.struct?]
  have hinterfaces : ∀ inserted : List Interface,
      (inserted.map Insertion.interface).filterMap Insertion.interface? = inserted := by
    intro inserted
    simp [List.filterMap_map, Function.comp_def, Insertion.interface?]
  refine ⟨?_, ?_, ?_, ?_, ?_⟩
  · rw [ofInsertions_eq]
    exact Keyed.isMapOf_putAll _
  · rw [ofInsertions_eq]
    exact Keyed.isMapOf_putAll _
  · rw [ofInsertions_eq, ofInsertions_eq, hstructs]
  · rw [ofInsertions_eq, ofInsertions_eq, hinterfaces]
  · rw [ofInsertions_eq, isEmpty, Bool.and_eq_true, List.isEmpty_iff, List.isEmpty_iff,
      Keyed.putAll_eq_nil_iff, Keyed.putAll_eq_nil_iff]
    constructor
    · rintro ⟨hnoStructs, hnoInterfaces⟩
      exact Insertion.eq_nil_of_filterMap hnoStructs hnoInterfaces
    · rintro rfl
      exact ⟨rfl, rfl⟩

/-! ### Catalogs as runs -/

/-- The run that inserts all structs of the catalog and then all its interfaces, in order. -/
def insertions (catalog : Catalog) : List Insertion :=
  catalog.structs.map Insertion.struct ++ catalog.interfaces.map Insertion.interface

/-- To insert all that a run left is to go on with the run. -/
theorem insertAll_insertions (front rest : List Insertion) :
    (ofInsertions front).insertAll (ofInsertions rest).insertions = ofInsertions (front ++ rest) := by
  have hstructs : ∀ catalog : Catalog, catalog.insertions.filterMap Insertion.struct? = catalog.structs := by
    intro catalog
    simp [insertions, List.filterMap_map, Function.comp_def, Insertion.struct?]
  have hinterfaces : ∀ catalog : Catalog,
      catalog.insertions.filterMap Insertion.interface? = catalog.interfaces := by
    intro catalog
    simp [insertions, List.filterMap_map, Function.comp_def, Insertion.interface?]
  rw [← ofInsertions_append, ofInsertions_eq, ofInsertions_eq (front ++ rest)]
  simp only [List.filterMap_append, hstructs, hinterfaces, ofInsertions_eq rest, Keyed.putAll_append_putAll]

end Catalog

end GoScaffold
