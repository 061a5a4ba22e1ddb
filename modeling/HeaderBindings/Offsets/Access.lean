/-!
Taking parts of a text or of a list by their offsets. The offsets in a text count the bytes that its
characters are written with in UTF-8. Whatever cannot be taken is a fault: an element that is not
there, a part that ends before it starts, lies outside or cuts a character, a number below zero, and
a round of a loop that does not get any further.
-/

namespace HeaderBindings.Offsets

inductive Fault where
  | index
  | slice
  | underflow
  | stalled
  deriving DecidableEq

abbrev Checked (α : Type) := Except Fault α

/-! ### Lists -/

section
variable {α : Type}

def element (items : List α) (index : Nat) : Checked α :=
  match items[index]? with
  | some item => .ok item
  | none => .error .index

/-- The elements from `start` on, up to the one at `stop`, which is left out. -/
def part (items : List α) (start stop : Nat) : Checked (List α) :=
  if start ≤ stop ∧ stop ≤ items.length then .ok ((items.take stop).drop start)
  else .error .slice

theorem element_eq_ok_iff {items : List α} {index : Nat} {item : α} :
    element items index = .ok item ↔ ∃ h : index < items.length, items[index] = item := by
  rw [← List.getElem?_eq_some_iff, element]
  cases items[index]? <;> simp

theorem part_eq_ok_iff {items inner : List α} {start stop : Nat} :
    part items start stop = .ok inner ↔
      ∃ before after, items = before ++ inner ++ after ∧ before.length = start ∧
        (before ++ inner).length = stop := by
  rw [part]
  constructor
  · intro h
    split at h
    case isTrue hbounds =>
      obtain rfl := Except.ok.inj h
      refine ⟨(items.take stop).take start, items.drop stop, ?_, ?_, ?_⟩
      · rw [List.take_append_drop, List.take_append_drop]
      · rw [List.length_take, List.length_take]
        omega
      · rw [List.take_append_drop, List.length_take]
        omega
    case isFalse => cases h
  · rintro ⟨before, after, rfl, rfl, rfl⟩
    rw [if_pos ⟨by simp, by simp⟩, List.take_left, List.drop_left]

end

def minus (a b : Nat) : Checked Nat := if b ≤ a then .ok (a - b) else .error .underflow

/-! ### Texts -/

def bytesOf (text : List Char) : List UInt8 := text.flatMap String.utf8EncodeChar

def size (text : List Char) : Nat := (bytesOf text).length

/-- Cuts a text at an offset, which has to lie between two characters or at an end. -/
def cutAt? : Nat → List Char → Option (List Char × List Char)
  | 0, text => some ([], text)
  | _ + 1, [] => none
  | offset + 1, c :: rest =>
      if c.utf8Size ≤ offset + 1 then
        (cutAt? (offset + 1 - c.utf8Size) rest).map fun (front, behind) => (c :: front, behind)
      else none

/-- The text from one offset to another. -/
def slice (text : List Char) (start stop : Nat) : Checked (List Char) :=
  match cutAt? stop text with
  | none => .error .slice
  | some (front, _) =>
      match cutAt? start front with
      | none => .error .slice
      | some (_, inner) => .ok inner

/-- The offset at which a pattern is found first. -/
def offsetOf? (pattern : List Char) : List Char → Option Nat
  | [] => if pattern.isEmpty then some 0 else none
  | c :: rest =>
      if pattern.isPrefixOf (c :: rest) then some 0
      else (offsetOf? pattern rest).map (c.utf8Size + ·)

theorem bytesOf_cons (c : Char) (rest : List Char) :
    bytesOf (c :: rest) = String.utf8EncodeChar c ++ bytesOf rest := rfl

theorem bytesOf_append (first second : List Char) :
    bytesOf (first ++ second) = bytesOf first ++ bytesOf second := List.flatMap_append

@[simp] theorem length_bytesOf (text : List Char) : (bytesOf text).length = size text := rfl

@[simp] theorem size_nil : size [] = 0 := rfl

@[simp] theorem size_cons (c : Char) (rest : List Char) :
    size (c :: rest) = c.utf8Size + size rest := by
  rw [size, bytesOf_cons, List.length_append, String.length_utf8EncodeChar, length_bytesOf]

@[simp] theorem size_append (first second : List Char) :
    size (first ++ second) = size first + size second := by
  rw [size, bytesOf_append, List.length_append, length_bytesOf, length_bytesOf]

theorem cutAt?_append (front behind : List Char) :
    cutAt? (size front) (front ++ behind) = some (front, behind) := by
  induction front with
  | nil =>
      rw [size_nil, cutAt?]
      rfl
  | cons c front ih =>
      have hpos := c.utf8Size_pos
      obtain ⟨offset, hoffset⟩ : ∃ offset, size (c :: front) = offset + 1 := by
        rw [size_cons]
        exact Nat.exists_eq_add_one.mpr (by omega)
      have hrest : offset + 1 - c.utf8Size = size front := by
        rw [← hoffset, size_cons]
        omega
      rw [hoffset, List.cons_append, cutAt?, hrest, ih, if_pos]
      · rfl
      · rw [← hoffset, size_cons]
        omega

theorem eq_of_cutAt? {offset : Nat} {text front behind : List Char}
    (h : cutAt? offset text = some (front, behind)) :
    text = front ++ behind ∧ size front = offset := by
  fun_induction cutAt? offset text generalizing front with
  | case1 text =>
      cases h
      exact ⟨rfl, rfl⟩
  | case2 offset => cases h
  | case3 offset c rest hle ih =>
      obtain ⟨⟨inner, after⟩, hcut, heq⟩ := Option.map_eq_some_iff.mp h
      obtain ⟨rfl, rfl⟩ := Prod.mk.inj heq
      obtain ⟨rfl, hsize⟩ := ih hcut
      refine ⟨rfl, ?_⟩
      rw [size_cons]
      omega
  | case4 offset c rest hle => cases h

/-- A text can be taken from one offset to another when the first is not behind the second and both
stand between characters. -/
theorem slice_eq_ok_iff {text inner : List Char} {start stop : Nat} :
    slice text start stop = .ok inner ↔
      ∃ before after, text = before ++ inner ++ after ∧ size before = start ∧
        size (before ++ inner) = stop := by
  rw [slice]
  constructor
  · intro h
    split at h
    · cases h
    case h_2 front after hfront =>
      split at h
      · cases h
      case h_2 before other hbefore =>
        obtain rfl := Except.ok.inj h
        obtain ⟨rfl, hstop⟩ := eq_of_cutAt? hfront
        obtain ⟨rfl, hstart⟩ := eq_of_cutAt? hbefore
        exact ⟨before, after, rfl, hstart, hstop⟩
  · rintro ⟨before, after, rfl, rfl, rfl⟩
    rw [cutAt?_append]
    simp only
    rw [cutAt?_append]

example : slice ['a', 'é', 'b'] 1 3 = .ok ['é'] ∧ slice ['a', 'é', 'b'] 1 2 = .error .slice :=
  ⟨rfl, rfl⟩

/-! ### Loops -/

/-- What a round of a loop comes to: the offset and the state to go on with, or the result. -/
inductive Turn (σ ρ : Type) where
  | next (offset : Nat) (state : σ)
  | done (result : ρ)

section
variable {σ ρ : Type}

/-- Goes round while the offset lies below a bound. Each round has to raise it. -/
def loop (bound : Nat) (turn : Nat → σ → Checked (Turn σ ρ)) (ended : σ → Checked ρ)
    (offset : Nat) (state : σ) : Checked ρ :=
  if offset < bound then
    match turn offset state with
    | .error fault => .error fault
    | .ok (.done result) => .ok result
    | .ok (.next further next) =>
        if offset < further then loop bound turn ended further next else .error .stalled
  else ended state
termination_by bound - offset

variable {bound offset further : Nat} {turn : Nat → σ → Checked (Turn σ ρ)} {ended : σ → Checked ρ}
  {state next : σ}

theorem loop_of_le (h : bound ≤ offset) : loop bound turn ended offset state = ended state := by
  rw [loop, if_neg (by omega)]

theorem loop_of_next (hbound : offset < bound) (hturn : turn offset state = .ok (.next further next))
    (hfurther : offset < further) :
    loop bound turn ended offset state = loop bound turn ended further next := by
  rw [loop, if_pos hbound, hturn]
  exact if_pos hfurther

theorem loop_of_done {result : ρ} (hbound : offset < bound)
    (hturn : turn offset state = .ok (.done result)) :
    loop bound turn ended offset state = .ok result := by
  rw [loop, if_pos hbound, hturn]

/-- Rounds that only go on to the next offset. -/
theorem loop_add (count : Nat) (hbound : offset + count ≤ bound)
    (hturn : ∀ k < count, turn (offset + k) state = .ok (.next (offset + k + 1) state)) :
    loop bound turn ended offset state = loop bound turn ended (offset + count) state := by
  induction count generalizing offset with
  | zero => rfl
  | succ count ih =>
      have hfirst : turn offset state = .ok (.next (offset + 1) state) := hturn 0 (by omega)
      have hrest (k : Nat) (hk : k < count) :
          turn (offset + 1 + k) state = .ok (.next (offset + 1 + k + 1) state) := by
        rw [Nat.add_assoc offset, Nat.add_comm 1]
        exact hturn (k + 1) (by omega)
      rw [loop_of_next (by omega) hfirst (by omega), ih (by omega) hrest, Nat.add_assoc,
        Nat.add_comm 1]

end

end HeaderBindings.Offsets
