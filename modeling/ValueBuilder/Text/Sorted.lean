/-!
# Sorted texts

Texts in ascending order of their code points, each once.
-/

namespace ValueBuilder

/-- Inserts a text into an ascending list, unless it is there. -/
def insertSorted (s : String) : List String → List String
  | [] => [s]
  | t :: rest =>
    if s < t then s :: t :: rest
    else if s == t then t :: rest
    else t :: insertSorted s rest

/-- The texts of a list in ascending order, each once. -/
def sorted (texts : List String) : List String :=
  texts.foldr insertSorted []

theorem mem_insertSorted {s t : String} {texts : List String} :
    t ∈ insertSorted s texts ↔ t = s ∨ t ∈ texts := by
  induction texts with
  | nil => simp [insertSorted]
  | cons u texts ih =>
    simp only [insertSorted]
    split
    · simp
    · split
      next h => simp [beq_iff_eq.1 h]
      next => simp only [List.mem_cons, ih]; grind

theorem mem_sorted {t : String} {texts : List String} : t ∈ sorted texts ↔ t ∈ texts := by
  induction texts with
  | nil => simp [sorted]
  | cons s texts ih =>
    simp only [sorted, List.foldr_cons, mem_insertSorted, List.mem_cons]
    exact or_congr_right ih

theorem pairwise_insertSorted {s : String} {texts : List String}
    (h : texts.Pairwise (· < ·)) : (insertSorted s texts).Pairwise (· < ·) := by
  induction texts with
  | nil => simp [insertSorted]
  | cons t texts ih =>
    obtain ⟨hfirst, hrest⟩ := List.pairwise_cons.1 h
    rw [insertSorted]
    split
    · next hlt =>
      refine List.pairwise_cons.2 ⟨fun u hu => ?_, h⟩
      exact (List.mem_cons.1 hu).elim (· ▸ hlt) fun hu => String.lt_trans hlt (hfirst u hu)
    · next hlt =>
      split
      · exact h
      · next hne =>
        have hgt : t < s :=
          Std.lt_of_le_of_ne (String.not_lt.1 hlt) fun heq => hne (beq_iff_eq.2 heq.symm)
        refine List.pairwise_cons.2 ⟨fun u hu => ?_, ih hrest⟩
        exact (mem_insertSorted.1 hu).elim (· ▸ hgt) (hfirst u)

theorem pairwise_sorted (texts : List String) : (sorted texts).Pairwise (· < ·) := by
  induction texts with
  | nil => exact .nil
  | cons s texts ih => exact pairwise_insertSorted ih

end ValueBuilder
