/-!
# Readings

What a reader takes off the front of an input and what it leaves.  A reader that goes on with the
rest ends because every rest is shorter than the input before it.
-/

namespace ValueBuilder

/-- What a reader answers: a value, and a rest that is shorter than the bound. -/
structure Reading (τ α : Type) (bound : Nat) where
  value : α
  rest : List τ
  shorter : rest.length < bound

/-- The same rest under a changed value. -/
def Reading.map {τ α β : Type} {bound : Nat} (f : α → β) (reading : Reading τ α bound) :
    Reading τ β bound :=
  ⟨f reading.value, reading.rest, reading.shorter⟩

/-- The reading of a value that takes nothing. -/
def Reading.nothing {τ α : Type} (value : α) (input : List τ) :
    Reading τ α (input.length + 1) :=
  ⟨value, input, Nat.lt_succ_self input.length⟩

/-- The reading of a value that takes the first element. -/
def Reading.first {τ α : Type} (value : α) (x : τ) (rest : List τ) :
    Reading τ α (x :: rest).length :=
  ⟨value, rest, Nat.lt_succ_self rest.length⟩

/-- A reading under a larger bound. -/
def Reading.weaken {τ α : Type} {bound larger : Nat} (h : bound ≤ larger)
    (reading : Reading τ α bound) : Reading τ α larger :=
  ⟨reading.value, reading.rest, Nat.lt_of_lt_of_le reading.shorter h⟩

/-- A reading of what stands behind the first element. -/
def Reading.behind {τ α : Type} (x : τ) {rest : List τ} (reading : Reading τ α rest.length) :
    Reading τ α (x :: rest).length :=
  reading.weaken (Nat.le_succ rest.length)

/-- A reading where it would also do to take nothing. -/
def Reading.loosen {τ α : Type} {bound : Nat} (reading : Reading τ α bound) :
    Reading τ α (bound + 1) :=
  reading.weaken (Nat.le_succ bound)

/-- What is read next, if anything, as a reading of the whole input. -/
def Reading.after {τ α β : Type} {bound : Nat} (reading : Reading τ α bound)
    (next : Reading τ β (reading.rest.length + 1)) : Reading τ β bound :=
  next.weaken reading.shorter

/-- What is read next, behind a reading that may have taken nothing. -/
def Reading.afterAny {τ α β : Type} {bound : Nat} (reading : Reading τ α (bound + 1))
    (next : Reading τ β reading.rest.length) : Reading τ β bound :=
  next.weaken (Nat.le_of_lt_succ reading.shorter)

theorem length_dropWhile_le {α : Type} (p : α → Bool) (xs : List α) :
    (xs.dropWhile p).length ≤ xs.length :=
  (List.dropWhile_sublist p).length_le

end ValueBuilder
