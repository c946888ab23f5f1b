import ValueBuilder.Text.Split

/-!
# Parts and their text

Splitting a text and joining its parts are inverse to each other, as far as the parts hold no
separators.  The last part of a text is what stands behind the last separator
(`eq_lastPart_iff`), and a text that begins with a name and a dot has that name for its first
(`leadsWith_iff`).
-/

namespace ValueBuilder

variable {separator : Char}

/-- A separator ends the parts of what stands before it. -/
theorem splitBy_append (before behind : List Char) :
    splitBy separator (before ++ separator :: behind) =
      ((splitBy separator before).1,
        (splitBy separator before).2 ++
          (splitBy separator behind).1 :: (splitBy separator behind).2) := by
  induction before with
  | nil => simp [splitBy]
  | cons c before ih =>
    simp only [List.cons_append, splitBy, ih]
    split <;> rfl

theorem exists_parts (separator : Char) (s : String) :
    ∃ first rest, parts separator s = first :: rest :=
  ⟨_, _, List.map_cons⟩

/-- The parts of a text are its first part and those behind each separator. -/
theorem splitBy_of_parts {s first : String} {rest : List String}
    (h : parts separator s = first :: rest) :
    String.ofList (splitBy separator s.toList).1 = first ∧
      (splitBy separator s.toList).2.map String.ofList = rest :=
  List.cons.inj (List.map_cons.symm.trans h)

/-- Characters without a separator are one part. -/
theorem splitBy_of_notMem {cs : List Char} (h : separator ∉ cs) :
    splitBy separator cs = (cs, []) := by
  induction cs with
  | nil => rfl
  | cons c cs ih =>
    simp only [List.mem_cons, not_or] at h
    simp [splitBy, ih h.2, Ne.symm h.1]

theorem parts_of_notMem {s : String} (h : separator ∉ s.toList) : parts separator s = [s] := by
  simp [parts, splitBy_of_notMem h]

theorem parts_append (before behind : String) :
    parts separator (before ++ String.singleton separator ++ behind) =
      parts separator before ++ parts separator behind := by
  simp [parts, splitBy_append]

/-- Texts without separators are the parts of what they make when they are joined. -/
theorem parts_intercalate {segments : List String} (hne : segments ≠ [])
    (h : ∀ s ∈ segments, separator ∉ s.toList) :
    parts separator ((String.singleton separator).intercalate segments) = segments := by
  induction segments with
  | nil => exact absurd rfl hne
  | cons first rest ih =>
    obtain ⟨hfirst, hrest⟩ := List.forall_mem_cons.1 h
    cases rest with
    | nil => rw [String.intercalate_singleton, parts_of_notMem hfirst]
    | cons next rest =>
      rw [String.intercalate_cons_cons, parts_append, parts_of_notMem hfirst, ih (by simp) hrest]
      rfl

/-- The parts of a text make that text when they are joined. -/
theorem intercalate_parts (separator : Char) (s : String) :
    (String.singleton separator).intercalate (parts separator s) = s := by
  have hchars (cs : List Char) :
      (String.singleton separator).intercalate
          (((splitBy separator cs).1 :: (splitBy separator cs).2).map String.ofList) =
        String.ofList cs := by
    induction cs with
    | nil => rfl
    | cons c cs ih =>
      rw [splitBy]
      dsimp only
      split
      · next hc =>
        rw [List.map_cons, List.map_cons, String.intercalate_cons_cons, ← List.map_cons, ih,
          ← beq_iff_eq.1 hc]
        simp [String.ofList_cons]
      · cases hothers : (splitBy separator cs).2 with
        | nil =>
          rw [hothers] at ih
          simp only [List.map_cons, List.map_nil, String.intercalate_singleton] at ih ⊢
          rw [String.ofList_cons, ih, String.ofList_cons]
        | cons next others =>
          rw [hothers] at ih
          simp only [List.map_cons, String.intercalate_cons_cons, String.append_assoc] at ih ⊢
          rw [String.ofList_cons, String.append_assoc, ih, String.ofList_cons]
  rw [parts]
  exact (hchars s.toList).trans String.ofList_toList

/-! ## Last parts -/

theorem lastPart_append {before last : String} (h : separator ∉ last.toList) :
    lastPart separator (before ++ String.singleton separator ++ last) = last := by
  rw [lastPart, parts_append, parts_of_notMem h, List.getLastD_concat]

theorem notMem_of_mem_splitBy {cs part : List Char}
    (h : part ∈ (splitBy separator cs).1 :: (splitBy separator cs).2) : separator ∉ part := by
  induction cs generalizing part with
  | nil =>
    rw [List.mem_singleton.1 h]
    exact List.not_mem_nil
  | cons c cs ih =>
    rw [splitBy] at h
    dsimp only at h
    split at h
    · cases h with
      | head => exact List.not_mem_nil
      | tail _ h => exact ih h
    · next hc =>
      cases h with
      | head =>
        rw [List.mem_cons, not_or]
        exact ⟨fun hself => hc (beq_iff_eq.2 hself.symm), ih (.head _)⟩
      | tail _ h => exact ih (.tail _ h)

theorem notMem_of_mem_parts {s part : String} (h : part ∈ parts separator s) :
    separator ∉ part.toList := by
  obtain ⟨cs, hcs, rfl⟩ := List.mem_map.1 h
  rw [String.toList_ofList]
  exact notMem_of_mem_splitBy hcs

theorem intercalate_concat {segments : List String} (hne : segments ≠ []) (last : String) :
    (String.singleton separator).intercalate (segments ++ [last]) =
      (String.singleton separator).intercalate segments ++ String.singleton separator ++ last := by
  induction segments with
  | nil => exact absurd rfl hne
  | cons first rest ih =>
    cases rest with
    | nil => rfl
    | cons next rest =>
      have hrest := ih (List.cons_ne_nil next rest)
      rw [List.cons_append] at hrest
      rw [List.cons_append, List.cons_append, String.intercalate_cons_cons, hrest,
        String.intercalate_cons_cons]
      simp only [String.append_assoc]

/-- A text has a last part without separators, which is the whole text or stands behind one. -/
theorem eq_lastPart_iff {last s : String} :
    last = lastPart separator s ↔
      separator ∉ last.toList ∧
        (s = last ∨ ∃ before, s = before ++ String.singleton separator ++ last) := by
  constructor
  · rintro rfl
    obtain ⟨segments, last, hparts⟩ : ∃ segments last, parts separator s = segments ++ [last] :=
      ⟨_, _, (List.dropLast_concat_getLast (List.cons_ne_nil _ _)).symm⟩
    have hlast : lastPart separator s = last := by
      rw [lastPart, hparts, List.getLastD_concat]
    have htext := intercalate_parts separator s
    have hmem : last ∈ parts separator s := by simp [hparts]
    rw [hlast]
    refine ⟨notMem_of_mem_parts hmem, ?_⟩
    rw [hparts] at htext
    cases segments with
    | nil => exact .inl htext.symm
    | cons first rest =>
      rw [intercalate_concat (List.cons_ne_nil first rest)] at htext
      exact .inr ⟨_, htext.symm⟩
  · rintro ⟨hnot, rfl | ⟨before, rfl⟩⟩
    · rw [lastPart, parts_of_notMem hnot]
      rfl
    · rw [lastPart_append hnot]

/-! ## First parts -/

/-- Whether a text is a name, or a name that is followed by a dot and further names. -/
def LeadsWith (name text : String) : Prop :=
  text = name ∨ ∃ rest, text = name ++ "." ++ rest

/-- What stands behind a separator does not change the first part. -/
theorem head?_parts_append (before behind : String) :
    (parts separator (before ++ String.singleton separator ++ behind)).head? =
      (parts separator before).head? := by
  have hbefore : (parts separator before).head? =
      some (String.ofList (splitBy separator before.toList).1) := rfl
  rw [parts_append, List.head?_append, hbefore, Option.some_or]

/-- A text leads with a name exactly if that is its first part. -/
theorem leadsWith_iff {name text : String} (hname : '.' ∉ name.toList) :
    LeadsWith name text ↔ (parts '.' text).head? = some name := by
  constructor
  · rintro (rfl | ⟨rest, rfl⟩)
    · rw [parts_of_notMem hname, List.head?_cons]
    · exact (head?_parts_append name rest).trans (by rw [parts_of_notMem hname, List.head?_cons])
  · intro h
    obtain ⟨others, hparts⟩ := List.head?_eq_some_iff.1 h
    have htext := intercalate_parts '.' text
    rw [hparts] at htext
    cases others with
    | nil =>
      rw [String.intercalate_singleton] at htext
      exact .inl htext.symm
    | cons next others =>
      rw [String.intercalate_cons_cons] at htext
      exact .inr ⟨_, htext.symm⟩

end ValueBuilder
