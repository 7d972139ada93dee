import Mathlib.Data.List.Induction
import Mathlib.Data.List.Nodup
import GoScaffold.Code.Printer
import GoScaffold.Proofs.Identifier.Fresh
import GoScaffold.Proofs.Keyed
import GoScaffold.Scaffold.Target

/-!
# Handlers tell their verbs

A handler has one case for each verb that it is given, in the order in which the verbs come
first, and one default.  No case is the beginning of another one or of the default, so the text
of a handler tells which verbs it answers and in which order.
-/

namespace GoScaffold

/-! ### First occurrences -/

/-- The elements of `listed` without repetitions, in the order in which they come first. -/
structure IsFirstOccurrences {α : Type} [DecidableEq α] (listed kept : List α) : Prop where
  nodup : kept.Nodup
  mem_iff : ∀ a, a ∈ kept ↔ a ∈ listed
  ordered : kept.Pairwise fun a b => listed.idxOf a < listed.idxOf b

theorem pairwise_idxOf_eraseDups {α : Type} [DecidableEq α] (listed : List α) :
    listed.eraseDups.Pairwise fun a b => listed.idxOf a < listed.idxOf b := by
  induction listed using List.reverseRecOn with
  | nil => exact .nil
  | append_singleton listed a ih =>
    have hbefore : listed.eraseDups.Pairwise
        fun b c => (listed ++ [a]).idxOf b < (listed ++ [a]).idxOf c := by
      apply ih.imp_of_mem
      intro b c hb hc hlt
      rwa [List.idxOf_append_of_mem (List.mem_eraseDups.1 hb),
        List.idxOf_append_of_mem (List.mem_eraseDups.1 hc)]
    rw [Keyed.eraseDups_append_singleton]
    split
    next => exact hbefore
    next hnew =>
      rw [List.pairwise_append]
      refine ⟨hbefore, List.pairwise_singleton _ _, ?_⟩
      intro b hb c hc
      obtain rfl := List.mem_singleton.1 hc
      have hmem := List.mem_eraseDups.1 hb
      have hlt := List.idxOf_lt_length_of_mem hmem
      rw [List.idxOf_append_of_mem hmem, List.idxOf_append_of_notMem hnew]
      omega

theorem isFirstOccurrences_eraseDups {α : Type} [DecidableEq α] (listed : List α) :
    IsFirstOccurrences listed listed.eraseDups where
  nodup := by
    apply (pairwise_idxOf_eraseDups listed).imp
    rintro a b hlt rfl
    exact Nat.lt_irrefl _ hlt
  mem_iff _ := List.mem_eraseDups
  ordered := pairwise_idxOf_eraseDups listed

/-! ### Texts that begin apart -/

/-- Texts of which no two begin alike, with whatever follows, are told by their concatenation
up to a text that begins like none of them. -/
theorem eq_of_flatMap_append_eq {α : Type} {text : α → Text} {closing : Text}
    (happart : ∀ a b behind after, text a ++ behind = text b ++ after → a = b)
    (hclosing : ∀ a behind, text a ++ behind ≠ closing) {one other : List α}
    (h : one.flatMap text ++ closing = other.flatMap text ++ closing) : one = other := by
  induction one generalizing other with
  | nil =>
    cases other with
    | nil => rfl
    | cons b other =>
      rw [List.flatMap_nil, List.nil_append, List.flatMap_cons, List.append_assoc] at h
      exact absurd h.symm (hclosing b _)
  | cons a one ih =>
    rw [List.flatMap_cons, List.append_assoc] at h
    cases other with
    | nil => exact absurd h (hclosing a _)
    | cons b other =>
      rw [List.flatMap_cons, List.append_assoc] at h
      obtain rfl := happart a b _ _ h
      rw [ih (List.append_cancel_left h)]

/-! ### Cases -/

namespace Verb

/-- The case of a verb: its constant, and its status as the answer. -/
def caseText (verb : Verb) : Text :=
  "\tcase " ++ verb.constant ++ ":\n\t\tw.WriteHeader(" ++ verb.successStatus ++ ")\n"

/-- What follows the cases, to the end of the handler. -/
def defaultText : Text :=
  "\tdefault:\n\t\tw.WriteHeader(http.StatusMethodNotAllowed)\n\t\x7d\n\x7d"

theorem mem_all (verb : Verb) : verb ∈ all := by
  cases verb <;> decide

theorem constant_injective : Function.Injective constant := by
  have hall : ∀ verb ∈ all, ∀ other ∈ all, verb.constant = other.constant → verb = other := by
    decide +kernel
  exact fun verb other => hall verb verb.mem_all other other.mem_all

theorem colon_not_mem_constant (verb : Verb) : ':' ∉ verb.constant := by
  have hall : ∀ verb ∈ all, ':' ∉ verb.constant := by decide +kernel
  exact hall verb verb.mem_all

theorem takeWhile_constant_append (verb : Verb) (rest : Text) :
    (verb.constant ++ ':' :: rest).takeWhile (fun c => c != ':') = verb.constant := by
  rw [List.takeWhile_append_of_pos]
  · simp
  · intro c hc
    rw [bne_iff_ne]
    rintro rfl
    exact verb.colon_not_mem_constant hc

theorem caseText_append (verb : Verb) (behind : Text) : ∃ rest,
    verb.caseText ++ behind = "\tcase " ++ (verb.constant ++ ':' :: rest) := by
  obtain ⟨rest, hcolon⟩ : ∃ rest, (":\n\t\tw.WriteHeader(" : Text) = ':' :: rest :=
    ⟨"\n\t\tw.WriteHeader(", by decide +kernel⟩
  refine ⟨rest ++ (verb.successStatus ++ (")\n" ++ behind)), ?_⟩
  unfold caseText
  rw [hcolon]
  simp only [List.append_assoc, List.cons_append]

/-- A case goes on to the colon behind its constant, which no constant contains. -/
theorem eq_of_caseText_append_eq {verb other : Verb} {behind after : Text}
    (h : verb.caseText ++ behind = other.caseText ++ after) : verb = other := by
  obtain ⟨rest, hrest⟩ := verb.caseText_append behind
  obtain ⟨others, hothers⟩ := other.caseText_append after
  rw [hrest, hothers] at h
  have hconstant := congrArg (List.takeWhile fun c => c != ':') (List.append_cancel_left h)
  rw [takeWhile_constant_append, takeWhile_constant_append] at hconstant
  exact constant_injective hconstant

theorem caseText_append_ne_defaultText (verb : Verb) (behind : Text) :
    verb.caseText ++ behind ≠ defaultText := by
  obtain ⟨rest, hrest⟩ := verb.caseText_append behind
  intro h
  have htwo := congrArg (List.take 2) (hrest.symm.trans h)
  rw [List.take_append_of_le_length (by decide)] at htwo
  exact absurd htwo (by decide +kernel)

end Verb

/-! ### The handler -/

theorem flatMap_caseLines (verbs : List Verb) :
    (verbs.map fun verb => (verb.constant, verb.successStatus)).flatMap (Code.caseLines ['\t'] ['w']) =
      verbs.flatMap Verb.caseText := by
  rw [List.flatMap_map]
  apply List.flatMap_congr
  intro verb _
  unfold Verb.caseText Code.caseLines Code.statusLine
  simp only [List.append_assoc]
  rfl

theorem head_handler (target : Text) (verbs : List Verb) :
    (handler target verbs).head =
      "func (" ++ handlerReceiver target ++ " *" ++ target ++
        ") ServeHTTP(w http.ResponseWriter, r *http.Request) \x7b" := by
  unfold Code.Func.head
  simp [handler, Code.paramsText, Code.pointerTo, Param.declaration, Text.join]

theorem text_handler (target : Text) (verbs : List Verb) :
    (handler target verbs).text =
      "\nfunc (" ++ handlerReceiver target ++ " *" ++ target ++
        ") ServeHTTP(w http.ResponseWriter, r *http.Request) \x7b\n\tswitch r.Method \x7b\n" ++
        (verbs.eraseDups.flatMap Verb.caseText ++ Verb.defaultText) := by
  have hbody : (handler target verbs).body.flatMap (Code.Stmt.text "\t") =
      "\tswitch r.Method \x7b\n" ++ verbs.eraseDups.flatMap Verb.caseText ++
        "\tdefault:\n\t\tw.WriteHeader(http.StatusMethodNotAllowed)\n\t\x7d\n" := by
    rw [← flatMap_caseLines]
    simp [handler, Code.Stmt.text, Code.Expr.text, Code.statusLine]
  unfold Code.Func.text Verb.defaultText
  rw [head_handler, hbody]
  simp [handler]

/-- The text of a handler, whose receiver is neither of its parameters: one case for each verb,
in the order in which the verbs come first, with the constant and the status of the verb, and
then the default.  Two handlers of a target have the same text exactly when their verbs are the
same up to repetitions. -/
theorem handler_dispatches (target : Text)
    (hreceiver : (receiver? target ["w", "r"]).isSome = true) :
    (∃ object, receiver? target ["w", "r"] = some object ∧ isIdentifier object = true ∧
      object ≠ "w" ∧ object ≠ "r" ∧
      ∀ verbs, ∃ cases, IsFirstOccurrences verbs cases ∧
        (handler target verbs).text =
          "\nfunc (" ++ object ++ " *" ++ target ++
            ") ServeHTTP(w http.ResponseWriter, r *http.Request) \x7b\n\tswitch r.Method \x7b\n" ++
            (cases.flatMap Verb.caseText ++ Verb.defaultText)) ∧
    ∀ verbs others, (handler target verbs).text = (handler target others).text ↔
      verbs.eraseDups = others.eraseDups := by
  refine ⟨?_, ?_⟩
  · obtain ⟨object, hobject⟩ := Option.isSome_iff_exists.1 hreceiver
    obtain ⟨hreceives, hidentifier, hfree⟩ := of_receiver?_eq_some hobject
    refine ⟨object, hobject, hidentifier, ?_, ?_, ?_⟩
    · rintro rfl
      exact hfree List.mem_cons_self
    · rintro rfl
      exact hfree (List.mem_cons_of_mem _ List.mem_cons_self)
    · intro verbs
      refine ⟨verbs.eraseDups, isFirstOccurrences_eraseDups verbs, ?_⟩
      rw [text_handler, handlerReceiver, hreceives]
  · intro verbs others
    rw [text_handler, text_handler, List.append_cancel_left_eq]
    constructor
    · exact eq_of_flatMap_append_eq (fun _ _ _ _ => Verb.eq_of_caseText_append_eq)
        Verb.caseText_append_ne_defaultText
    · intro heq
      rw [heq]

/-- A repeated verb does not change the text, and the order of the verbs does. -/
theorem handler_dispatches_api :
    (receiver? "Api" ["w", "r"]).isSome = true ∧
      (handler "Api" [.get, .post, .get]).text = (handler "Api" [.get, .post]).text ∧
      (handler "Api" [.get, .post]).text ≠ (handler "Api" [.post, .get]).text := by
  have hreceiver : (receiver? "Api" ["w", "r"]).isSome = true := by decide +kernel
  obtain ⟨-, htold⟩ := handler_dispatches "Api" hreceiver
  refine ⟨hreceiver, (htold _ _).2 (by decide), ?_⟩
  intro heq
  exact absurd ((htold _ _).1 heq) (by decide)

end GoScaffold
