import Mathlib.Data.List.Induction
import Mathlib.Data.List.Nodup
import GoScaffold.Catalog.Basic

/-!
# Insertion into keyed lists

A keyed list is told by its keys, in order, and by what it holds under each.
Insertion keeps the order in which the keys came first and holds the last element
inserted under each.
-/

namespace GoScaffold.Keyed

variable {α κ : Type} [DecidableEq κ] {key : α → κ}

/-! ### One insertion -/

theorem map_put (a : α) (elements : List α) :
    (put key a elements).map key =
      if key a ∈ elements.map key then elements.map key else elements.map key ++ [key a] := by
  induction elements with
  | nil => simp [put]
  | cons b rest ih =>
    by_cases h : key b = key a
    · simp [put, h]
    · have hne : key a ≠ key b := fun heq => h heq.symm
      rw [put, if_neg h, List.map_cons, ih]
      by_cases hmem : key a ∈ rest.map key
      · rw [if_pos hmem, if_pos (by simp [hmem]), List.map_cons]
      · rw [if_neg hmem, if_neg (by simp [hne, List.mem_map.not.1 hmem]), List.map_cons,
          List.cons_append]

theorem get?_put (a : α) (k : κ) (elements : List α) :
    get? key k (put key a elements) = if key a = k then some a else get? key k elements := by
  induction elements with
  | nil => by_cases h : key a = k <;> simp [put, get?, h]
  | cons b rest ih =>
    simp only [get?] at ih ⊢
    rw [put]
    by_cases hb : key b = key a
    · rw [if_pos hb, List.find?_cons, List.find?_cons, hb]
      by_cases ha : key a = k
      · simp [ha]
      · simp [ha]
    · rw [if_neg hb, List.find?_cons, List.find?_cons, ih]
      by_cases ha : key a = k
      · subst ha
        simp [hb]
      · simp [ha]

theorem get?_put_of_ne {a : α} {k : κ} (h : key a ≠ k) (elements : List α) :
    get? key k (put key a elements) = get? key k elements := by
  rw [get?_put, if_neg h]

theorem nodup_put {elements : List α} (h : (elements.map key).Nodup) (a : α) :
    ((put key a elements).map key).Nodup := by
  rw [map_put]
  split
  next => exact h
  next hnew =>
    rw [List.nodup_append]
    refine ⟨h, List.nodup_singleton _, ?_⟩
    rintro k hk l hl rfl
    rw [List.mem_singleton.1 hl] at hk
    exact hnew hk

/-! ### Looking up -/

/-- With different keys, each element is found under its own. -/
theorem get?_of_mem {elements : List α} (h : (elements.map key).Nodup) {a : α} (ha : a ∈ elements) :
    get? key (key a) elements = some a := by
  induction elements with
  | nil => cases ha
  | cons b rest ih =>
    obtain ⟨hb, hrest⟩ := List.nodup_cons.1 h
    rw [get?, List.find?_cons]
    rcases List.mem_cons.1 ha with rfl | ha
    · simp
    · have hne : key b ≠ key a := fun heq => hb (List.mem_map.2 ⟨a, ha, heq.symm⟩)
      simp only [hne, decide_false]
      exact ih hrest ha

theorem get?_eq_some {elements : List α} {k : κ} {a : α} (h : get? key k elements = some a) :
    a ∈ elements ∧ key a = k :=
  ⟨List.mem_of_find?_eq_some h, by simpa using List.find?_some h⟩

theorem get?_eq_none_iff {elements : List α} {k : κ} :
    get? key k elements = none ↔ ∀ a ∈ elements, key a ≠ k := by
  simp [get?]

theorem filterMap_get? {elements : List α} (h : (elements.map key).Nodup) :
    (elements.map key).filterMap (fun k => get? key k elements) = elements := by
  have hfound : ∀ a ∈ elements, get? key (key a) elements = some a := fun a => get?_of_mem h
  rw [List.filterMap_map]
  conv_rhs => rw [← List.filterMap_some (l := elements)]
  exact List.filterMap_congr hfound

/-! ### All insertions -/

def putAll (key : α → κ) (elements : List α) : List α :=
  elements.foldl (fun held a => put key a held) []

theorem putAll_append_singleton (elements : List α) (a : α) :
    putAll key (elements ++ [a]) = put key a (putAll key elements) := by
  rw [putAll, List.foldl_append]
  rfl

theorem nodup_putAll (elements : List α) : ((putAll key elements).map key).Nodup := by
  induction elements using List.reverseRecOn with
  | nil => exact List.nodup_nil
  | append_singleton elements a ih =>
    rw [putAll_append_singleton]
    exact nodup_put ih a

/-- A key at the end counts only if it is new. -/
theorem eraseDups_append_singleton (keys : List κ) (k : κ) :
    (keys ++ [k]).eraseDups = if k ∈ keys then keys.eraseDups else keys.eraseDups ++ [k] := by
  rw [List.eraseDups_append]
  by_cases h : k ∈ keys
  · have hnone : [k].removeAll keys = [] := by simp [List.removeAll, h]
    rw [if_pos h, hnone, List.eraseDups_nil, List.append_nil]
  · have hsome : [k].removeAll keys = [k] := by simp [List.removeAll, h]
    rw [if_neg h, hsome]
    rfl

theorem map_putAll (elements : List α) :
    (putAll key elements).map key = (elements.map key).eraseDups := by
  induction elements using List.reverseRecOn with
  | nil => rfl
  | append_singleton elements a ih =>
    simp only [putAll_append_singleton, map_put, ih, List.map_append, List.map_singleton,
      eraseDups_append_singleton, List.mem_eraseDups]

theorem get?_putAll (k : κ) (elements : List α) :
    get? key k (putAll key elements) = get? key k elements.reverse := by
  induction elements using List.reverseRecOn with
  | nil => rfl
  | append_singleton elements a ih =>
    rw [putAll_append_singleton, get?_put, ih, List.reverse_append]
    by_cases h : key a = k
    · simp [get?, h]
    · simp [get?, h]

theorem mem_putAll {a : α} {elements : List α} (h : a ∈ putAll key elements) : a ∈ elements := by
  have hfound := get?_of_mem (nodup_putAll elements) h
  rw [get?_putAll] at hfound
  exact List.mem_reverse.1 (get?_eq_some hfound).1

theorem putAll_of_nodup {elements : List α} (h : (elements.map key).Nodup) :
    putAll key elements = elements := by
  have hput : ∀ (a : α) (held : List α), key a ∉ held.map key → put key a held = held ++ [a] := by
    intro a held hnew
    induction held with
    | nil => rfl
    | cons b held ih =>
      rw [List.map_cons, List.mem_cons, not_or] at hnew
      rw [put, if_neg fun heq => hnew.1 heq.symm, ih hnew.2, List.cons_append]
  induction elements using List.reverseRecOn with
  | nil => rfl
  | append_singleton elements a ih =>
    rw [List.map_append, List.map_singleton, ← List.concat_eq_append, List.nodup_concat] at h
    rw [putAll_append_singleton, ih h.2, hput a elements h.1]

/-- Under each key, in the order of first appearance, the last element that has it. -/
def lastOfEach (key : α → κ) (elements : List α) : List α :=
  (elements.map key).eraseDups.filterMap fun k => get? key k elements.reverse

theorem putAll_eq_lastOfEach (elements : List α) : putAll key elements = lastOfEach key elements := by
  rw [lastOfEach, ← map_putAll]
  conv_lhs => rw [← filterMap_get? (nodup_putAll elements)]
  simp only [get?_putAll]

/-! ### Insertion of what was inserted before -/

theorem eraseDups_append_eraseDups (front rest : List κ) :
    (front ++ rest.eraseDups).eraseDups = (front ++ rest).eraseDups := by
  induction rest using List.reverseRecOn with
  | nil => rfl
  | append_singleton rest k ih =>
    rw [eraseDups_append_singleton, ← List.append_assoc, eraseDups_append_singleton, ← ih]
    by_cases h : k ∈ rest
    · simp [h]
    · simp only [h, if_false, ← List.append_assoc, eraseDups_append_singleton, List.mem_append,
        List.mem_eraseDups]

theorem get?_reverse {elements : List α} (h : (elements.map key).Nodup) (k : κ) :
    get? key k elements.reverse = get? key k elements := by
  rw [← get?_putAll, putAll_of_nodup h]

/-- To insert what a run of insertions leaves is to insert all that the run inserts: a key that
came again has its first place and its last element either way. -/
theorem putAll_append_putAll (front rest : List α) :
    putAll key (front ++ putAll key rest) = putAll key (front ++ rest) := by
  have hkeys : ((front ++ putAll key rest).map key).eraseDups = ((front ++ rest).map key).eraseDups := by
    rw [List.map_append, map_putAll, eraseDups_append_eraseDups, ← List.map_append]
  have hfound : ∀ k, get? key k (front ++ putAll key rest).reverse = get? key k (front ++ rest).reverse := by
    intro k
    have hrest : get? key k (putAll key rest).reverse = get? key k rest.reverse := by
      rw [get?_reverse (nodup_putAll rest), get?_putAll]
    simp only [get?, List.reverse_append, List.find?_append] at hrest ⊢
    rw [hrest]
  rw [putAll_eq_lastOfEach (front ++ putAll key rest), putAll_eq_lastOfEach (front ++ rest), lastOfEach,
    lastOfEach, hkeys]
  simp only [hfound]

/-! ### What a run of insertions leaves -/

/-- `held` is what the run that inserts `inserted` into the empty list leaves, and `lookup` looks
up a key in it: each key has one place, in the order in which the keys came first, and holds
the last element inserted under it. -/
structure IsMapOf (key : α → κ) (inserted held : List α) (lookup : κ → Option α) : Prop where
  nodup : (held.map key).Nodup
  keys_eq : held.map key = (inserted.map key).eraseDups
  lookup_eq_some_iff : ∀ k a, lookup k = some a ↔
    ∃ before after, inserted = before ++ a :: after ∧ key a = k ∧ ∀ b ∈ after, key b ≠ k
  lookup_eq_none_iff : ∀ k, lookup k = none ↔ ∀ a ∈ inserted, key a ≠ k

theorem get?_putAll_eq_some_iff {elements : List α} {k : κ} {a : α} :
    get? key k (putAll key elements) = some a ↔
      ∃ before after, elements = before ++ a :: after ∧ key a = k ∧ ∀ b ∈ after, key b ≠ k := by
  rw [get?_putAll, get?, List.find?_eq_some_iff_append]
  constructor
  · rintro ⟨hkey, after, before, helements, hafter⟩
    refine ⟨before.reverse, after.reverse, ?_, by simpa using hkey, ?_⟩
    · simpa using congrArg List.reverse helements
    · intro b hb
      simpa using hafter b (List.mem_reverse.1 hb)
  · rintro ⟨before, after, rfl, hkey, hafter⟩
    refine ⟨by simpa using hkey, after.reverse, before.reverse, by simp, ?_⟩
    intro b hb
    simpa using hafter b (List.mem_reverse.1 hb)

theorem isMapOf_putAll (elements : List α) :
    IsMapOf key elements (putAll key elements) fun k => get? key k (putAll key elements) where
  nodup := nodup_putAll elements
  keys_eq := map_putAll elements
  lookup_eq_some_iff _ _ := get?_putAll_eq_some_iff
  lookup_eq_none_iff k := by
    rw [get?_putAll, get?_eq_none_iff]
    simp

theorem putAll_eq_nil_iff {elements : List α} : putAll key elements = [] ↔ elements = [] := by
  rw [← List.map_eq_nil_iff (f := key), map_putAll]
  cases elements with
  | nil => simp
  | cons a rest => simp [List.eraseDups_cons]

end GoScaffold.Keyed
