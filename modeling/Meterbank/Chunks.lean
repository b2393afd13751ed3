/-
  Meterbank.Chunks — long lists in pieces of a fixed size.

  Main results:
    * `flatten_chunksOf` — the pieces together are the list.
    * `length_le_of_mem_chunksOf` — no piece is longer than the size.
-/

namespace Meterbank

/-- The pieces of a list, all but the last of the given size.  As many
rounds as there are elements are enough. -/
def chunksFuel {α : Type} (size : Nat) : Nat → List α → List (List α)
  | 0, _ => []
  | _ + 1, [] => []
  | n + 1, x :: xs => (x :: xs).take size :: chunksFuel size n ((x :: xs).drop size)

/-- The pieces of a list, all but the last of the given size. -/
def chunksOf {α : Type} (size : Nat) (xs : List α) : List (List α) :=
  chunksFuel size xs.length xs

theorem flatten_chunksFuel {α : Type} (size n : Nat) (xs : List α) (hs : 0 < size)
    (hn : xs.length ≤ n) : (chunksFuel size n xs).flatten = xs := by
  induction n generalizing xs with
  | zero =>
    have : xs = [] := List.length_eq_zero_iff.1 (by omega)
    subst this
    rfl
  | succ n ih =>
    cases xs with
    | nil => rfl
    | cons x xs =>
      rw [chunksFuel, List.flatten_cons, ih _ (by simp at hn ⊢; omega), List.take_append_drop]

/-- **The pieces together are the list.** -/
theorem flatten_chunksOf {α : Type} (size : Nat) (xs : List α) (hs : 0 < size) :
    (chunksOf size xs).flatten = xs :=
  flatten_chunksFuel size xs.length xs hs (Nat.le_refl _)

/-- **No piece is longer than the size.** -/
theorem length_le_of_mem_chunksOf {α : Type} (size n : Nat) (xs c : List α)
    (h : c ∈ chunksFuel size n xs) : c.length ≤ size := by
  induction n generalizing xs with
  | zero => simp [chunksFuel] at h
  | succ n ih =>
    cases xs with
    | nil => simp [chunksFuel] at h
    | cons x xs =>
      rw [chunksFuel, List.mem_cons] at h
      rcases h with rfl | h
      · exact List.length_take_le _ _
      · exact ih _ h

end Meterbank
