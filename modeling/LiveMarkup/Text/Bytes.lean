/-! # Byte places

A text is kept as UTF-8, and a place in it is the number of bytes in front of it. A text can be cut only
where a character starts or the text ends; a cut anywhere else has no result.
-/
namespace LiveMarkup

def byteLength : List Char → Nat
  | [] => 0
  | c :: cs => c.utf8Size + byteLength cs

/-- The text behind its first bytes. -/
def dropBytes? : List Char → Nat → Option (List Char)
  | s, 0 => some s
  | [], _ + 1 => none
  | c :: cs, n + 1 => if c.utf8Size ≤ n + 1 then dropBytes? cs (n + 1 - c.utf8Size) else none

/-- The first bytes of a text. -/
def takeBytes? : List Char → Nat → Option (List Char)
  | _, 0 => some []
  | [], _ + 1 => none
  | c :: cs, n + 1 =>
    if c.utf8Size ≤ n + 1 then (takeBytes? cs (n + 1 - c.utf8Size)).map (c :: ·) else none

/-- The text from one place to another, which may not lie in front of the first. -/
def cutBytes? (s : List Char) (first last : Nat) : Option (List Char) :=
  if first ≤ last then (dropBytes? s first).bind (takeBytes? · (last - first)) else none

/-- Whether a character starts at a place, or the text ends there. -/
def IsBoundary (s : List Char) (n : Nat) : Prop := ∃ front, front <+: s ∧ byteLength front = n

/-- The place of the last line feed of a text. -/
def lastLineFeed? : List Char → Option Nat
  | [] => none
  | c :: cs => match lastLineFeed? cs with
    | some place => some (c.utf8Size + place)
    | none => if c = '\n' then some 0 else none

@[simp] theorem byteLength_nil : byteLength [] = 0 := rfl

@[simp] theorem byteLength_cons (c : Char) (cs : List Char) :
    byteLength (c :: cs) = c.utf8Size + byteLength cs := rfl

theorem byteLength_append (s t : List Char) : byteLength (s ++ t) = byteLength s + byteLength t := by
  induction s with
  | nil => simp
  | cons c s ih => simp [ih, Nat.add_assoc]

theorem dropBytes?_append (s t : List Char) : dropBytes? (s ++ t) (byteLength s) = some t := by
  induction s with
  | nil => cases t <;> rfl
  | cons c s ih =>
    obtain ⟨n, hn⟩ : ∃ n, c.utf8Size + byteLength s = n + 1 :=
      Nat.exists_eq_succ_of_ne_zero (by have := c.utf8Size_pos; omega)
    have hrest : n + 1 - c.utf8Size = byteLength s := by omega
    rw [byteLength_cons, hn, List.cons_append, dropBytes?, if_pos (by omega), hrest, ih]

theorem takeBytes?_append (s t : List Char) : takeBytes? (s ++ t) (byteLength s) = some s := by
  induction s with
  | nil => cases t <;> rfl
  | cons c s ih =>
    obtain ⟨n, hn⟩ : ∃ n, c.utf8Size + byteLength s = n + 1 :=
      Nat.exists_eq_succ_of_ne_zero (by have := c.utf8Size_pos; omega)
    have hrest : n + 1 - c.utf8Size = byteLength s := by omega
    rw [byteLength_cons, hn, List.cons_append, takeBytes?, if_pos (by omega), hrest, ih]
    rfl

theorem dropBytes?_eq_some_iff {s t : List Char} {n : Nat} :
    dropBytes? s n = some t ↔ ∃ front, s = front ++ t ∧ byteLength front = n := by
  constructor
  · intro h
    induction s generalizing n with
    | nil =>
      cases n with
      | zero => exact ⟨[], by simpa [dropBytes?] using h, rfl⟩
      | succ n => simp [dropBytes?] at h
    | cons c s ih =>
      cases n with
      | zero => exact ⟨[], by simpa [dropBytes?] using h, rfl⟩
      | succ n =>
        simp only [dropBytes?, Option.ite_none_right_eq_some] at h
        obtain ⟨hc, hs⟩ := h
        obtain ⟨front, rfl, hn⟩ := ih hs
        exact ⟨c :: front, rfl, by rw [byteLength_cons, hn]; omega⟩
  · rintro ⟨front, rfl, rfl⟩
    exact dropBytes?_append front t

theorem takeBytes?_eq_some_iff {s t : List Char} {n : Nat} :
    takeBytes? s n = some t ↔ ∃ back, s = t ++ back ∧ byteLength t = n := by
  constructor
  · intro h
    induction s generalizing n t with
    | nil =>
      cases n with
      | zero =>
        obtain rfl : [] = t := by simpa [takeBytes?] using h
        exact ⟨[], rfl, rfl⟩
      | succ n => simp [takeBytes?] at h
    | cons c s ih =>
      cases n with
      | zero =>
        obtain rfl : [] = t := by simpa [takeBytes?] using h
        exact ⟨c :: s, rfl, rfl⟩
      | succ n =>
        simp only [takeBytes?, Option.ite_none_right_eq_some, Option.map_eq_some_iff] at h
        obtain ⟨hc, t, hs, rfl⟩ := h
        obtain ⟨back, rfl, hn⟩ := ih hs
        exact ⟨back, rfl, by rw [byteLength_cons, hn]; omega⟩
  · rintro ⟨back, rfl, rfl⟩
    exact takeBytes?_append t back

/-- A cut has a result exactly when both its places are boundaries of the text, in this order. -/
theorem cutBytes?_eq_some_iff {s t : List Char} {first last : Nat} :
    cutBytes? s first last = some t ↔
      ∃ front back, s = front ++ t ++ back ∧ byteLength front = first ∧
        byteLength (front ++ t) = last := by
  simp only [cutBytes?, Option.ite_none_right_eq_some, Option.bind_eq_some_iff,
    dropBytes?_eq_some_iff, takeBytes?_eq_some_iff, byteLength_append]
  constructor
  · rintro ⟨hle, _, ⟨front, rfl, rfl⟩, back, rfl, ht⟩
    exact ⟨front, back, by simp, rfl, by omega⟩
  · rintro ⟨front, back, rfl, rfl, rfl⟩
    exact ⟨Nat.le_add_right _ _, t ++ back, ⟨front, by simp, rfl⟩, back, rfl, by omega⟩

end LiveMarkup
