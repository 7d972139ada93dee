import GoScaffold.Catalog.OfSource
import GoScaffold.Proofs.Request
import GoScaffold.Proofs.Text.Words

/-!
# Code that can be inserted

A fragment goes to the end of a line, so it starts with a line break, and it leaves the next line
break to the text behind it.  Each declaration is printed that way, from a line break to a brace,
and so is every fragment that has one.  Only an interface without methods of its own gives a
fragment without declarations.
-/

namespace GoScaffold

/-- A text that starts with a line break and does not end with one. -/
def IsInsertable (text : Text) : Prop :=
  text.head? = some '\n' ∧ text.getLast? ≠ some '\n'

/-! ### From a line break to a brace -/

def IsFramed (text : Text) : Prop :=
  ∃ inner, text = '\n' :: (inner ++ ['}'])

theorem IsFramed.isInsertable {text : Text} (h : IsFramed text) : IsInsertable text := by
  obtain ⟨inner, rfl⟩ := h
  refine ⟨rfl, ?_⟩
  rw [← List.cons_append, List.getLast?_append_of_ne_nil _ (List.cons_ne_nil _ _)]
  decide

theorem IsFramed.append {front last : Text} (hfront : IsFramed front) (middle : Text) (hlast : IsFramed last) :
    IsFramed (front ++ middle ++ last) := by
  obtain ⟨inner, rfl⟩ := hfront
  obtain ⟨rest, rfl⟩ := hlast
  exact ⟨inner ++ ['}'] ++ middle ++ '\n' :: rest, by simp⟩

theorem isFramed_join (separator : Text) {pieces : List Text} (hne : pieces ≠ [])
    (h : ∀ piece ∈ pieces, IsFramed piece) : IsFramed (Text.join separator pieces) := by
  induction pieces with
  | nil => exact absurd rfl hne
  | cons first pieces ih =>
    obtain ⟨hfirst, hothers⟩ := List.forall_mem_cons.1 h
    cases pieces with
    | nil => simpa [Text.join_cons] using hfirst
    | cons second pieces =>
      rw [Text.join_cons_cons]
      exact hfirst.append separator (ih (List.cons_ne_nil _ _) hothers)

/-! ### Fragments -/

theorem Code.Func.isFramed_text (func : Func) : IsFramed func.text := by
  cases hcomment : func.comment? with
  | none =>
    refine ⟨func.head ++ "\n" ++ func.body.flatMap (Stmt.text ['\t']), ?_⟩
    unfold text
    rw [hcomment]
    rfl
  | some comment =>
    refine ⟨"// " ++ comment ++ "\n" ++ func.head ++ "\n" ++ func.body.flatMap (Stmt.text ['\t']), ?_⟩
    unfold text
    rw [hcomment]
    simp only [List.append_assoc]
    rfl

theorem Code.Decl.isFramed_text (decl : Decl) : IsFramed decl.text := by
  cases decl with
  | struct name fields => exact ⟨"type " ++ name ++ " struct \x7b\n" ++ fields.flatMap memberLine, rfl⟩
  | func function => exact function.isFramed_text

theorem Fragment.isFramed_text {fragment : Fragment} (hne : fragment ≠ []) : IsFramed fragment.text := by
  apply isFramed_join
  · simpa using hne
  · intro piece hpiece
    obtain ⟨decl, -, rfl⟩ := List.mem_map.1 hpiece
    exact decl.isFramed_text

/-! ### Requests without code -/

/-- A request for the stubs of an interface that has no methods of its own. -/
def Request.IsIdle (request : Request) (catalog : Catalog) : Prop :=
  ∃ name target interface, request = .stubs name target ∧
    catalog.interface? name = some interface ∧ interface.methods = []

theorem Struct.builder_ne_nil (struct : Struct) : struct.builder ≠ [] :=
  List.append_ne_nil_of_right_ne_nil _ (List.cons_ne_nil _ _)

theorem Request.Answer.eq_nil_iff {catalog : Catalog} {request : Request} {fragment : Fragment}
    (h : request.Answer catalog fragment) : fragment = [] ↔ request.IsIdle catalog := by
  constructor
  · intro hnil
    cases h with
    | builder => exact absurd hnil (Struct.builder_ne_nil _)
    | stubs hinterface => exact ⟨_, _, _, rfl, hinterface, List.map_eq_nil_iff.1 hnil⟩
    | _ => cases hnil
  · rintro ⟨name, target, interface, rfl, hinterface, hmethods⟩
    cases h with
    | stubs hfound =>
      obtain rfl := Option.some.inj (hfound.symm.trans hinterface)
      rw [Interface.stubs, hmethods, List.map_nil]

namespace Catalog

/-- What a request gives can be inserted, unless it is idle; then it gives no text at all. -/
theorem isInsertable_text_iff (catalog : Catalog) : ∀ request fragment,
    catalog.generate request = .ok fragment →
      (IsInsertable fragment.text ↔ ¬request.IsIdle catalog) ∧
        (request.IsIdle catalog → fragment.text = []) := by
  intro request fragment h
  rw [← (generate_eq_ok_iff.1 h).eq_nil_iff]
  refine ⟨⟨?_, fun hne => (Fragment.isFramed_text hne).isInsertable⟩, ?_⟩
  · rintro ⟨hstart, -⟩ rfl
    exact absurd hstart (by decide)
  · rintro rfl
    rfl

/-- The stub of an interface with one method can be inserted. -/
theorem isInsertable_text_closer :
    ∃ fragment, (ofSource "type Closer interface \x7b\n\tClose() error\n\x7d\n").generate
        (.stubs "Closer" "File") = .ok fragment ∧ IsInsertable fragment.text := by
  have hsource : ofSource "type Closer interface \x7b\n\tClose() error\n\x7d\n" =
      ⟨[], [⟨"Closer", [⟨"Close()", "error"⟩]⟩]⟩ := by decide +kernel
  have hgenerate : (⟨[], [⟨"Closer", [⟨"Close()", "error"⟩]⟩]⟩ : Catalog).generate
      (.stubs "Closer" "File") = .ok [.func (Method.stub "Closer" ⟨"Close()", "error"⟩ "File")] := rfl
  rw [hsource]
  refine ⟨_, hgenerate, (isInsertable_text_iff _ _ _ hgenerate).1.2 ?_⟩
  rintro ⟨name, target, interface, ⟨⟩, ⟨⟩, hmethods⟩
  cases hmethods

/-- An interface that only embeds another one is idle. -/
theorem stubs_of_embedding_not_isInsertable :
    ∃ fragment, (ofSource "type Stream interface \x7b\n\tio.Reader\n\x7d\n").generate
        (.stubs "Stream" "File") = .ok fragment ∧ ¬IsInsertable fragment.text :=
  ⟨[], by decide +kernel, fun h => absurd h.1 (by decide)⟩

end Catalog

end GoScaffold
