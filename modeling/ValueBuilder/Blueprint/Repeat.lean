/-!
# Repeated keys

The first element of a list whose key an earlier element has.  A list without one has pairwise
distinct keys.
-/

namespace ValueBuilder

variable {α : Type}

/-- The first element of `xs` that shares its key with one of `seen` or of `xs` before it, together
with that earlier one. -/
def firstRepeat? (key : α → String) (seen : List α) : List α → Option (α × α)
  | [] => none
  | x :: xs =>
    match seen.find? (key · == key x) with
    | some earlier => some (earlier, x)
    | none => firstRepeat? key (x :: seen) xs

theorem firstRepeat?_eq_none {key : α → String} {seen xs : List α}
    (h : firstRepeat? key seen xs = none) :
    (xs.map key).Nodup ∧ ∀ x ∈ xs, ∀ s ∈ seen, key s ≠ key x := by
  induction xs generalizing seen with
  | nil => simp
  | cons x xs ih =>
    simp only [firstRepeat?] at h
    split at h
    · simp at h
    next hx =>
      obtain ⟨hnodup, hfresh⟩ := ih h
      simp only [List.find?_eq_none, beq_iff_eq] at hx
      refine ⟨?_, ?_⟩
      · simp only [List.map_cons, List.nodup_cons, List.mem_map, not_exists, not_and]
        exact ⟨fun y hy he => hfresh y hy x (by simp) he.symm, hnodup⟩
      · intro y hy s hs
        rcases List.mem_cons.1 hy with rfl | hy
        · exact hx s hs
        · exact hfresh y hy s (by simp [hs])

end ValueBuilder
