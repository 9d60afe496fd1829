import Mathlib.Data.List.Basic

/-!
# Object heaps

Objects are allocated one after the other and referred to by their index.
Nothing is ever freed, so a reference stays valid.
-/

namespace Coop

/-- Objects in order of allocation. -/
structure Heap (α : Type) where
  cells : List α

namespace Heap

variable {α : Type}

def empty : Heap α := ⟨[]⟩

/-- The reference the next allocation returns. -/
abbrev size (h : Heap α) : Nat := h.cells.length

def get? (h : Heap α) (i : Nat) : Option α := h.cells[i]?

def alloc (h : Heap α) (a : α) : Heap α := ⟨h.cells ++ [a]⟩

def modify (h : Heap α) (i : Nat) (f : α → α) : Heap α := ⟨h.cells.modify i f⟩

/-- Update every object a reference list names. -/
def modifyAll (h : Heap α) (is : List Nat) (f : α → α) : Heap α :=
  is.foldl (fun h i => h.modify i f) h

/-- Does every object satisfy `p`? -/
def all (h : Heap α) (p : α → Bool) : Bool := h.cells.all p

theorem lt_size_of_get? {h : Heap α} {i : Nat} {a : α} (hi : h.get? i = some a) :
    i < h.size :=
  (List.getElem?_eq_some_iff.mp hi).1

@[simp] theorem get?_alloc (h : Heap α) (a : α) (i : Nat) :
    (h.alloc a).get? i = if i = h.size then some a else h.get? i := by
  simp only [alloc, get?]
  by_cases hi : i = h.size
  · subst hi
    simp
  · rw [if_neg hi]
    by_cases hlt : i < h.cells.length
    · exact List.getElem?_append_left hlt
    · have hge : h.cells.length < i := by
        have : i ≠ h.cells.length := hi
        omega
      rw [List.getElem?_eq_none (by simp only [List.length_append, List.length_singleton]; omega),
        List.getElem?_eq_none (by omega)]

/-- An allocation leaves the objects already there as they are. -/
theorem get?_alloc_of_get? {h : Heap α} {a b : α} {i : Nat} (hi : h.get? i = some b) :
    (h.alloc a).get? i = some b := by
  rw [get?_alloc, if_neg (by have := lt_size_of_get? hi; omega), hi]

@[simp] theorem get?_modify (h : Heap α) (i j : Nat) (f : α → α) :
    (h.modify i f).get? j = if j = i then (h.get? j).map f else h.get? j := by
  simp only [modify, get?, List.getElem?_modify]
  by_cases hji : j = i
  · simp [hji]
  · simp [hji, Ne.symm hji]

/-- Updating several objects by an idempotent `f` updates each of them once. -/
theorem get?_modifyAll (is : List Nat) (f : α → α) (hf : ∀ a, f (f a) = f a)
    (h : Heap α) (j : Nat) :
    (h.modifyAll is f).get? j = if j ∈ is then (h.get? j).map f else h.get? j := by
  induction is generalizing h with
  | nil => simp [modifyAll]
  | cons i is ih =>
      have hstep : h.modifyAll (i :: is) f = (h.modify i f).modifyAll is f := rfl
      rw [hstep, ih, get?_modify]
      by_cases hi : j = i
      · by_cases his : j ∈ is
        · cases hj : h.get? j <;> simp [hi, hi ▸ his, hf]
        · simp [hi, hi ▸ his]
      · by_cases his : j ∈ is <;> simp [hi, his]

theorem all_iff (h : Heap α) (p : α → Bool) :
    h.all p = true ↔ ∀ i a, h.get? i = some a → p a = true := by
  simp only [all, List.all_eq_true, get?]
  constructor
  · intro hp i a hi
    exact hp a (List.mem_of_getElem? hi)
  · intro hp a ha
    obtain ⟨i, hi⟩ := List.getElem?_of_mem ha
    exact hp i a hi

end Heap
end Coop
