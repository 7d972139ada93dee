import GoScaffold.Text.Basic

/-!
# Positions in bytes

A text is also a sequence of bytes, and an index into it counts them.  An index inside a
character cuts nothing.  Where the text in front of an index is known its size is that
index, so cutting there gives the text back.
-/

namespace GoScaffold.Text

/-! ### Cutting -/

/-- The texts before and behind a byte position; there are none when it lies inside a
character or behind the end. -/
def cutAt? : Nat → Text → Option (Text × Text)
  | 0, text => some ([], text)
  | _ + 1, [] => none
  | n + 1, c :: rest =>
    if c.utf8Size ≤ n + 1 then
      (cutAt? (n + 1 - c.utf8Size) rest).map fun cut => (c :: cut.1, cut.2)
    else none

/-- The text between two byte positions, the second not before the first. -/
def slice? (first last : Nat) (text : Text) : Option Text :=
  (cutAt? last text).bind fun cut => (cutAt? first cut.1).map Prod.snd

@[simp] theorem byteSize_append (front rest : Text) :
    byteSize (front ++ rest) = byteSize front + byteSize rest := by
  induction front with
  | nil => simp [byteSize]
  | cons c front ih => simp [byteSize, ih, Nat.add_assoc]

theorem cutAt?_append (front rest : Text) : cutAt? (byteSize front) (front ++ rest) = some (front, rest) := by
  induction front with
  | nil => rw [byteSize, cutAt?, List.nil_append]
  | cons c front ih =>
    obtain ⟨n, hn⟩ : ∃ n, c.utf8Size + byteSize front = n + 1 :=
      Nat.exists_eq_succ_of_ne_zero (by have := c.utf8Size_pos; omega)
    have hbehind : n + 1 - c.utf8Size = byteSize front := by omega
    rw [byteSize, hn, List.cons_append, cutAt?, if_pos (by omega), hbehind, ih]
    rfl

theorem cutAt?_eq_some_iff {n : Nat} {text front rest : Text} :
    cutAt? n text = some (front, rest) ↔ text = front ++ rest ∧ byteSize front = n := by
  constructor
  · intro h
    induction text generalizing n front with
    | nil =>
      cases n with
      | zero =>
        obtain ⟨rfl, rfl⟩ := Prod.mk.inj (Option.some.inj h)
        exact ⟨rfl, rfl⟩
      | succ n => cases h
    | cons c text ih =>
      cases n with
      | zero =>
        obtain ⟨rfl, rfl⟩ := Prod.mk.inj (Option.some.inj h)
        exact ⟨rfl, rfl⟩
      | succ n =>
        rw [cutAt?] at h
        split at h
        next hfits =>
          obtain ⟨⟨behind, after⟩, hcut, heq⟩ := Option.map_eq_some_iff.1 h
          obtain ⟨rfl, rfl⟩ := Prod.mk.inj heq
          obtain ⟨rfl, hsize⟩ := ih hcut
          exact ⟨rfl, by rw [byteSize, hsize]; omega⟩
        next => cases h
  · rintro ⟨rfl, rfl⟩
    exact cutAt?_append front rest

/-- A slice lies between whole characters. -/
theorem slice?_eq_some_iff {first last : Nat} {text middle : Text} :
    slice? first last text = some middle ↔
      ∃ front rest, text = front ++ (middle ++ rest) ∧ byteSize front = first ∧
        byteSize (front ++ middle) = last := by
  rw [slice?, Option.bind_eq_some_iff]
  constructor
  · rintro ⟨⟨before, rest⟩, hlast, hfirst⟩
    obtain ⟨⟨front, middle⟩, hcut, rfl⟩ := Option.map_eq_some_iff.1 hfirst
    obtain ⟨rfl, rfl⟩ := cutAt?_eq_some_iff.1 hlast
    obtain ⟨rfl, rfl⟩ := cutAt?_eq_some_iff.1 hcut
    exact ⟨front, rest, by simp, rfl, rfl⟩
  · rintro ⟨front, rest, rfl, rfl, rfl⟩
    refine ⟨(front ++ middle, rest), cutAt?_eq_some_iff.2 ⟨by simp, rfl⟩, ?_⟩
    rw [cutAt?_append]
    rfl

/-! ### Searching -/

/-- The byte position of the first `c`. -/
def position? (c : Char) : Text → Option Nat
  | [] => none
  | d :: rest => if d = c then some 0 else (position? c rest).map (d.utf8Size + ·)

/-- The byte position of the last `c`. -/
def lastPosition? (c : Char) : Text → Option Nat
  | [] => none
  | d :: rest =>
    match lastPosition? c rest with
    | some n => some (d.utf8Size + n)
    | none => if d = c then some 0 else none

variable {c : Char}

theorem position?_append {front : Text} (h : c ∉ front) (rest : Text) :
    position? c (front ++ c :: rest) = some (byteSize front) := by
  induction front with
  | nil => simp [position?, byteSize]
  | cons d front ih =>
    rw [List.mem_cons, not_or] at h
    rw [List.cons_append, position?, if_neg (Ne.symm h.1), ih h.2]
    rfl

theorem position?_eq_none {text : Text} (h : c ∉ text) : position? c text = none := by
  induction text with
  | nil => rfl
  | cons d text ih =>
    rw [List.mem_cons, not_or] at h
    rw [position?, if_neg (Ne.symm h.1), ih h.2]
    rfl

theorem position?_eq_some_iff {text : Text} {n : Nat} :
    position? c text = some n ↔ ∃ front rest, text = front ++ c :: rest ∧ c ∉ front ∧ byteSize front = n := by
  constructor
  · intro h
    by_cases hmem : c ∈ text
    · obtain ⟨front, rest, rfl, hfront⟩ := List.eq_append_cons_of_mem hmem
      rw [position?_append hfront, Option.some.injEq] at h
      exact ⟨front, rest, rfl, hfront, h⟩
    · rw [position?_eq_none hmem] at h
      cases h
  · rintro ⟨front, rest, rfl, hfront, rfl⟩
    exact position?_append hfront rest

theorem lastPosition?_append_singleton (front : Text) (c : Char) :
    lastPosition? c (front ++ [c]) = some (byteSize front) := by
  induction front with
  | nil => simp [lastPosition?, byteSize]
  | cons d front ih =>
    rw [List.cons_append, lastPosition?, ih]
    rfl

/-! ### Bytes -/

/-- The bytes of the UTF-8 encoding. -/
def bytes (text : Text) : List UInt8 :=
  text.flatMap String.utf8EncodeChar

theorem length_bytes (text : Text) : (bytes text).length = byteSize text := by
  induction text with
  | nil => rfl
  | cons c rest ih =>
    rw [bytes] at ih ⊢
    rw [List.flatMap_cons, List.length_append, ih, String.length_utf8EncodeChar, byteSize]

/-- An ASCII character is one byte, which is its code. -/
theorem bytes_getElem?_byteSize (front : Text) {c : Char} (hc : c.toNat < 128) (rest : Text) :
    (bytes (front ++ c :: rest))[byteSize front]? = some (UInt8.ofNat c.toNat) := by
  have hcode : c.val.toNat ≤ 127 := Nat.le_of_lt_succ hc
  have hbyte : String.utf8EncodeChar c = [UInt8.ofNat c.toNat] := by
    simp only [String.utf8EncodeChar, hcode, if_true, Char.toNat]
  rw [← length_bytes, bytes, List.flatMap_append, List.flatMap_cons, hbyte, bytes,
    List.getElem?_append_right (Nat.le_refl _), Nat.sub_self]
  rfl

end GoScaffold.Text
