import Mathlib.Data.List.Nodup
import ValueBuilder.Blueprint.Basic

/-!
# The checks of drafts

A draft is refused for the first repeated name, else for the first repeated constant of a required
property, else for a serializer without a factory.

* `firstRepeat?_eq_some_iff` says which pair a search for a repeated key finds.
* `Draft.check_cases` follows the checks in their order; `Draft.check_eq_error_iff` and
  `Draft.exists_check_eq_ok_iff` say from it which drafts fail, and with which fault.
-/

namespace ValueBuilder

open Java

/-! ## Repeated keys -/

section Repeats

variable {α : Type} {key : α → String} {xs : List α} {earlier later : α}

/-- The first element whose key stands before it already, and the one that has it there. -/
def IsFirstRepeat (key : α → String) (xs : List α) (earlier later : α) : Prop :=
  ∃ before behind, xs = before ++ later :: behind ∧ (before.map key).Nodup ∧
    earlier ∈ before ∧ key earlier = key later

/-- The search behind elements with distinct keys. -/
theorem firstRepeat?_reverse_eq_some_iff {before : List α} (hbefore : (before.map key).Nodup) :
    firstRepeat? key before.reverse xs = some (earlier, later) ↔
      ∃ passed behind, xs = passed ++ later :: behind ∧ ((before ++ passed).map key).Nodup ∧
        earlier ∈ before ++ passed ∧ key earlier = key later := by
  induction xs generalizing before with
  | nil => simp [firstRepeat?]
  | cons x xs ih =>
    rw [firstRepeat?]
    cases hfind : before.reverse.find? (key · == key x) with
    | some e =>
      have hmem : e ∈ before := List.mem_reverse.1 (List.mem_of_find?_eq_some hfind)
      have hkey : key e = key x := by simpa using List.find?_some hfind
      simp only [Option.some.injEq, Prod.mk.injEq]
      constructor
      · rintro ⟨rfl, rfl⟩
        exact ⟨[], xs, rfl, by simpa using hbefore, by simpa using hmem, hkey⟩
      · rintro ⟨passed, behind, hsplit, hnodup, hearlier, heq⟩
        cases passed with
        | nil =>
          obtain ⟨rfl, -⟩ := List.cons.inj hsplit
          rw [List.append_nil] at hearlier
          exact ⟨List.inj_on_of_nodup_map hbefore hmem hearlier (hkey.trans heq.symm), rfl⟩
        | cons y passed =>
          -- The key of the first element that was passed is there already.
          obtain ⟨rfl, -⟩ := List.cons.inj hsplit
          rw [List.map_append, List.map_cons, List.nodup_append] at hnodup
          exact absurd hkey (hnodup.2.2 _ (List.mem_map_of_mem hmem) _ List.mem_cons_self)
    | none =>
      have hfresh : ∀ s ∈ before, key s ≠ key x := by
        simpa [List.find?_eq_none] using hfind
      have hnodup : ((before ++ [x]).map key).Nodup := by
        rw [List.map_append, List.map_singleton, List.nodup_append]
        refine ⟨hbefore, List.nodup_singleton _, fun k hk k' hk' => ?_⟩
        obtain ⟨s, hs, rfl⟩ := List.mem_map.1 hk
        rw [List.mem_singleton.1 hk']
        exact hfresh s hs
      have hnext := ih hnodup
      rw [List.reverse_append, List.reverse_singleton, List.singleton_append] at hnext
      rw [hnext]
      constructor
      · rintro ⟨passed, behind, rfl, hpassed⟩
        rw [List.append_assoc] at hpassed
        exact ⟨x :: passed, behind, rfl, hpassed⟩
      · rintro ⟨passed, behind, hsplit, hpassed, hearlier, heq⟩
        cases passed with
        | nil =>
          obtain ⟨rfl, -⟩ := List.cons.inj hsplit
          rw [List.append_nil] at hearlier
          exact absurd heq (hfresh earlier hearlier)
        | cons y passed =>
          obtain ⟨rfl, rfl⟩ := List.cons.inj hsplit
          rw [← List.singleton_append, ← List.append_assoc] at hpassed hearlier
          exact ⟨passed, behind, rfl, hpassed, hearlier, heq⟩

theorem firstRepeat?_eq_some_iff :
    firstRepeat? key [] xs = some (earlier, later) ↔ IsFirstRepeat key xs earlier later := by
  have hnil : (([] : List α).map key).Nodup := List.nodup_nil
  exact firstRepeat?_reverse_eq_some_iff hnil

theorem IsFirstRepeat.not_nodup (h : IsFirstRepeat key xs earlier later) :
    ¬(xs.map key).Nodup := by
  obtain ⟨before, behind, rfl, -, hearlier, heq⟩ := h
  rw [List.map_append, List.map_cons, List.nodup_append]
  exact fun hnodup => hnodup.2.2 _ (List.mem_map_of_mem hearlier) _ List.mem_cons_self heq

theorem IsFirstRepeat.unique {earlier' later' : α} (h : IsFirstRepeat key xs earlier later)
    (h' : IsFirstRepeat key xs earlier' later') : earlier = earlier' ∧ later = later' := by
  rw [← firstRepeat?_eq_some_iff] at h h'
  rw [h] at h'
  cases h'
  exact ⟨rfl, rfl⟩

theorem firstRepeat?_eq_none_iff : firstRepeat? key [] xs = none ↔ (xs.map key).Nodup := by
  refine ⟨fun h => (firstRepeat?_eq_none h).1, fun h => ?_⟩
  rw [Option.eq_none_iff_forall_ne_some]
  exact fun _ hrepeat => (firstRepeat?_eq_some_iff.1 hrepeat).not_nodup h

end Repeats

/-! ## Drafts -/

namespace Draft

variable {draft : Draft}

/-- The first fault of a draft. -/
inductive HasFault (draft : Draft) : BlueprintError → Prop
  | name {earlier later : Property} (repeats : IsFirstRepeat (·.name) draft.properties earlier later) :
      HasFault draft (.duplicateProperty draft.target later.name)
  | constant {earlier later : Property} (names : (draft.properties.map (·.name)).Nodup)
      (repeats : IsFirstRepeat (·.constant) (requiredOf draft.properties) earlier later) :
      HasFault draft (.duplicateConstant draft.target later.constant earlier.name later.name)
  | factory (names : (draft.properties.map (·.name)).Nodup)
      (constants : ((requiredOf draft.properties).map (·.constant)).Nodup)
      (serializes : draft.gwtSerializable = true) (lacks : draft.factory = none) :
      HasFault draft (.missingFactory draft.target)

/-- A draft without faults. -/
structure IsSound (draft : Draft) : Prop where
  names : (draft.properties.map (·.name)).Nodup
  constants : ((requiredOf draft.properties).map (·.constant)).Nodup
  factory : draft.gwtSerializable = true → draft.factory ≠ none

/-- The blueprint holds what the draft asks for. -/
structure IsPlanOf (b : Blueprint) (draft : Draft) : Prop where
  target : b.target = draft.target
  isInterface : b.isInterface = draft.isInterface
  builder : b.builder = draft.builder.getD (defaultBuilder draft.target)
  factory : b.factory = draft.factory
  generated : b.generated = draft.generated.getD (defaultGenerated draft.target)
  properties : b.properties = draft.properties
  serializable : b.serializable = draft.serializable
  gwtCompatible : b.gwtCompatible = draft.gwtCompatible
  gwtSerializable : b.gwtSerializable = draft.gwtSerializable

theorem check_cases (draft : Draft) :
    (∃ e, draft.check = .error e ∧ draft.HasFault e) ∨
      (∃ b, draft.check = .ok b ∧ draft.IsSound ∧ IsPlanOf b draft) := by
  rw [check]
  split
  · next earlier later hnames =>
    exact .inl ⟨_, rfl, .name (firstRepeat?_eq_some_iff.1 hnames)⟩
  · next hnames =>
    have hnames := firstRepeat?_eq_none_iff.1 hnames
    split
    · next earlier later hconstants =>
      exact .inl ⟨_, rfl, .constant hnames (firstRepeat?_eq_some_iff.1 hconstants)⟩
    · next hconstants =>
      have hconstants := firstRepeat?_eq_none_iff.1 hconstants
      split
      · next hfactory =>
        rw [Bool.and_eq_true, Option.isNone_iff_eq_none] at hfactory
        exact .inl ⟨_, rfl, .factory hnames hconstants hfactory.1 hfactory.2⟩
      · next hfactory =>
        rw [Bool.and_eq_true, Option.isNone_iff_eq_none, not_and] at hfactory
        exact .inr ⟨_, rfl, ⟨hnames, hconstants, hfactory⟩,
          ⟨rfl, rfl, rfl, rfl, rfl, rfl, rfl, rfl, rfl⟩⟩

theorem HasFault.not_isSound {e : BlueprintError} (h : draft.HasFault e) : ¬draft.IsSound := by
  rintro ⟨hnames, hconstants, hfactory⟩
  cases h with
  | name hrepeat => exact hrepeat.not_nodup hnames
  | constant _ hrepeat => exact hrepeat.not_nodup hconstants
  | factory _ _ hserializes hlacks => exact hfactory hserializes hlacks

/-- A draft has one first fault. -/
theorem HasFault.unique {e e' : BlueprintError} (h : draft.HasFault e) (h' : draft.HasFault e') :
    e = e' := by
  cases h with
  | name hrepeat =>
    cases h' with
    | name hrepeat' => rw [(hrepeat.unique hrepeat').2]
    | constant hnames _ | factory hnames _ _ _ => exact absurd hnames hrepeat.not_nodup
  | constant hnames hrepeat =>
    cases h' with
    | name hrepeat' => exact absurd hnames hrepeat'.not_nodup
    | constant _ hrepeat' => rw [(hrepeat.unique hrepeat').1, (hrepeat.unique hrepeat').2]
    | factory _ hconstants _ _ => exact absurd hconstants hrepeat.not_nodup
  | factory hnames hconstants _ _ =>
    cases h' with
    | name hrepeat' => exact absurd hnames hrepeat'.not_nodup
    | constant _ hrepeat' => exact absurd hconstants hrepeat'.not_nodup
    | factory _ _ _ _ => rfl

/-- A check fails with the first fault. -/
theorem check_eq_error_iff {e : BlueprintError} : draft.check = .error e ↔ draft.HasFault e := by
  obtain ⟨e', hcheck, hfault⟩ | ⟨b, hcheck, hsound, -⟩ := draft.check_cases
  · rw [hcheck, Except.error.injEq]
    exact ⟨fun h => h ▸ hfault, fun h => hfault.unique h⟩
  · rw [hcheck]
    exact iff_of_false (fun h => nomatch h) fun h => h.not_isSound hsound

/-- A check succeeds if there is no fault. -/
theorem exists_check_eq_ok_iff : (∃ b, draft.check = .ok b) ↔ draft.IsSound := by
  obtain ⟨e, hcheck, hfault⟩ | ⟨b, hcheck, hsound, -⟩ := draft.check_cases
  · rw [hcheck]
    exact iff_of_false (fun ⟨_, h⟩ => nomatch h) hfault.not_isSound
  · exact iff_of_true ⟨b, hcheck⟩ hsound

theorem isPlanOf_of_check {b : Blueprint} (h : draft.check = .ok b) : IsPlanOf b draft := by
  obtain ⟨e, hcheck, -⟩ | ⟨b', hcheck, -, hplan⟩ := draft.check_cases
  · rw [hcheck] at h
    cases h
  · rw [hcheck] at h
    cases h
    exact hplan

end Draft

end ValueBuilder
