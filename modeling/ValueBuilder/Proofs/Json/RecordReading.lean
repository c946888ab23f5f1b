import ValueBuilder.Json.Record
import ValueBuilder.Proofs.Json.ValueReading

/-!
# Reading records

A record is read from an object with its members in any order.  `Awaits` is what holds between two
entries: each field's value is in its slot, or among the entries to come, or its entry was left out
for the fallback.  Reading an entry fills one slot and keeps the rest, and when no entries are left
the slots and the fallbacks make up the record.
-/

namespace ValueBuilder.Json

open Grammar

/-! ## Entries -/

theorem startsApart_brace {entry : String × Value} {text : List UInt8}
    (h : EntryText ValueText entry text) : StartsApart '\x7d' text := by
  cases h with
  | entry hname =>
    obtain ⟨hbody⟩ := hname
    exact ⟨byte '"', _, rfl, rfl, by decide⟩

/-- The key and the value of an entry, and what stands around the colon. -/
theorem exists_parts_of_entryText {key : String} {v : Value} {text : List UInt8}
    (h : EntryText ValueText (key, v) text) :
    ∃ name before behind value, QuotedText key name ∧ Blanks before ∧ Blanks behind ∧
      ValueText v value ∧
        ∀ rest, text ++ rest = name ++ (before ++ byte ':' :: (behind ++ (value ++ rest))) := by
  obtain ⟨hname, hbefore, hbehind, hvalue⟩ := h
  exact ⟨_, _, _, _, hname, hbefore, hbehind, hvalue, fun rest => by simp⟩

namespace Fields

/-! ## Members of records -/

/-- The members of an object that holds the values of a record, in the order of the fields. -/
inductive Members : {τ : Type} → Fields τ → τ → List (String × Value) → Prop
  | done : Members done () []
  | and {α β : Type} {field : Field α} {others : Fields β} {x : α} {xs : β}
      {member members : List (String × Value)}
      (hmember : Member field.key (Decodes field.decoder · x) (field.fallback = some x) member)
      (hmembers : Members others xs members) :
      Members (and field others) (x, xs) (member ++ members)

theorem Members.keys_sublist {τ : Type} {fields : Fields τ} {xs : τ}
    {members : List (String × Value)} (h : Members fields xs members) :
    (members.map (·.1)).Sublist fields.keys := by
  induction h with
  | done => exact .slnil
  | and hmember _ ih =>
    cases hmember with
    | written => exact ih.cons_cons _
    | omitted => exact ih.cons _

/-! ## Between two entries -/

/-- Where the value of a field comes from when these entries are still to be read. -/
inductive FieldAwaits (entries : List (String × Value)) {α : Type} (field : Field α) :
    Option α → α → Prop
  | filled {x : α} (hkey : field.key ∉ entries.map (·.1)) : FieldAwaits entries field (some x) x
  | entry {x : α} {v : Value} (hentry : (field.key, v) ∈ entries)
      (hvalue : Decodes field.decoder v x) : FieldAwaits entries field none x
  | fallback {x : α} (hkey : field.key ∉ entries.map (·.1)) (hfallback : field.fallback = some x) :
      FieldAwaits entries field none x

/-- Slots and entries still to be read make up the values of a record. -/
def Awaits (entries : List (String × Value)) : {τ : Type} → (fields : Fields τ) →
    Slots fields → τ → Prop
  | _, done, _, _ => True
  | _, and field others, slots, xs =>
    FieldAwaits entries field slots.1 xs.1 ∧ Awaits entries others slots.2 xs.2

variable {τ : Type} {fields : Fields τ} {xs : τ} {entries members : List (String × Value)}

/-- Before the first entry is read, the values are where the members are. -/
theorem awaits_noSlots (h : Members fields xs members) (hkeys : fields.keys.Nodup)
    (hentries : ∀ key ∈ fields.keys, ∀ v, (key, v) ∈ entries ↔ (key, v) ∈ members) :
    Awaits entries fields fields.noSlots xs := by
  induction h with
  | done => trivial
  | @and _ _ field others x xs member members hmember hmembers ih =>
    obtain ⟨hfresh, hkeys⟩ := List.nodup_cons.1 hkeys
    have hothers : field.key ∉ members.map (·.1) := fun h =>
      hfresh (hmembers.keys_sublist.subset h)
    refine ⟨?_, ih hkeys fun key hkey v => ?_⟩
    · cases hmember with
      | written hv => exact .entry ((hentries _ List.mem_cons_self _).2 List.mem_cons_self) hv
      | omitted hfallback =>
        refine .fallback (fun hkey => ?_) hfallback
        obtain ⟨⟨_, v⟩, hentry, rfl⟩ := List.mem_map.1 hkey
        exact hothers (List.mem_map.2 ⟨_, (hentries _ List.mem_cons_self v).1 hentry, rfl⟩)
    · have hne : key ≠ field.key := fun h => hfresh (h ▸ hkey)
      rw [hentries key (List.mem_cons_of_mem _ hkey) v]
      cases hmember with
      | written => simp [hne]
      | omitted => rfl

/-- An entry for another key does not matter to a field. -/
theorem FieldAwaits.of_ne {α : Type} {field : Field α} {slot : Option α} {x : α} {key : String}
    {v : Value} (h : FieldAwaits ((key, v) :: entries) field slot x) (hne : field.key ≠ key) :
    FieldAwaits entries field slot x := by
  cases h with
  | filled hkey => exact .filled fun h => hkey (List.mem_cons_of_mem _ h)
  | entry hentry hvalue =>
    refine .entry ((List.mem_cons.1 hentry).resolve_left fun h => hne ?_) hvalue
    exact congrArg Prod.fst h
  | fallback hkey hfallback => exact .fallback (fun h => hkey (List.mem_cons_of_mem _ h)) hfallback

theorem Awaits.of_notMem {slots : Slots fields} {key : String} {v : Value}
    (h : Awaits ((key, v) :: entries) fields slots xs) (hkey : key ∉ fields.keys) :
    Awaits entries fields slots xs := by
  induction fields with
  | done => trivial
  | and field others ih =>
    obtain ⟨hne, hkey⟩ := not_or.1 (mt List.mem_cons.2 hkey)
    exact ⟨h.1.of_ne (Ne.symm hne), ih h.2 hkey⟩

/-- The entry of a field is the one with its key. -/
theorem FieldAwaits.entry_of_key {α : Type} {field : Field α} {slot : Option α} {x : α} {v : Value}
    (h : FieldAwaits ((field.key, v) :: entries) field slot x)
    (hfresh : field.key ∉ entries.map (·.1)) : slot = none ∧ Decodes field.decoder v x := by
  cases h with
  | filled hkey => exact absurd List.mem_cons_self hkey
  | @entry _ w hentry hvalue =>
    rcases List.mem_cons.1 hentry with h | h
    · obtain rfl : w = v := congrArg Prod.snd h
      exact ⟨rfl, hvalue⟩
    · exact absurd (List.mem_map.2 ⟨_, h, rfl⟩) hfresh
  | fallback hkey => exact absurd List.mem_cons_self hkey

/-- Reading an entry fills the slot of its field. -/
theorem exists_reads_readEntry {key : String} {v : Value} {before behind text : List UInt8}
    {slots : Slots fields} (hkeys : fields.keys.Nodup) (hkey : key ∈ fields.keys)
    (hfresh : key ∉ entries.map (·.1)) (h : Awaits ((key, v) :: entries) fields slots xs)
    (hbefore : Blanks before) (hbehind : Blanks behind) (hv : ValueText v text)
    (known : List String) (rest : List UInt8) :
    ∃ filled, Reads (readEntry known key fields slots
        (before ++ byte ':' :: (behind ++ (text ++ rest)))) filled rest ∧
      Awaits entries fields filled xs := by
  -- Keys differ, so either this field takes the entry and the others have no use for it, or this
  -- field keeps what it has.
  induction fields with
  | done => cases hkey
  | and field others ih =>
    obtain ⟨hothers, hkeys⟩ := List.nodup_cons.1 hkeys
    rw [readEntry]
    beta_reduce
    by_cases hfield : key = field.key
    · subst hfield
      obtain ⟨hslot, hvalue⟩ := h.1.entry_of_key hfresh
      refine ⟨(some xs.1, slots.2), ?_, .filled hfresh, h.2.of_notMem hothers⟩
      rw [if_pos (beq_self_eq_true _), if_neg (by simp [hslot])]
      refine (reads_spacedSymbol hbefore rfl).bind fun _ => ?_
      exact (hvalue hbehind hv).bind fun _ => reads_pure rfl rfl
    · have hkey := (List.mem_cons.1 hkey).resolve_left hfield
      obtain ⟨filled, hread, hawaits⟩ := ih hkeys hkey h.2
      refine ⟨(slots.1, filled), ?_, h.1.of_ne (Ne.symm hfield), hawaits⟩
      rw [if_neg (by simp [hfield])]
      exact hread.bind fun _ => reads_pure rfl rfl

/-- Reading all entries leaves no value to come from an entry. -/
theorem exists_reads_readEntries {isFirst : Bool} {text : List UInt8} {slots : Slots fields}
    (hkeys : fields.keys.Nodup) (hentries : (entries.map (·.1)).Nodup)
    (hknown : ∀ key ∈ entries.map (·.1), key ∈ fields.keys)
    (h : Awaits entries fields slots xs)
    (ht : Items (EntryText ValueText) '\x7d' isFirst entries text) (rest : List UInt8) :
    ∃ filled, Reads (readEntries fields slots isFirst (text ++ rest)) filled rest ∧
      Awaits [] fields filled xs := by
  -- The induction is on the entries to come; `Awaits` is what each of them keeps.
  induction entries generalizing isFirst slots text with
  | nil =>
    obtain ⟨shorter, hnext⟩ := nextItem_nil ht rfl rest
    rw [readEntries]
    exact ⟨slots, reads_bind_of_ok hnext (reads_pure rfl rfl), h⟩
  | cons entry entries ih =>
    obtain ⟨key, v⟩ := entry
    obtain ⟨hfresh, hentries⟩ := List.nodup_cons.1 hentries
    obtain ⟨hkey, hknown⟩ := List.forall_mem_cons.1 hknown
    obtain ⟨item, others, notLonger, hitem, hothers, hnext⟩ :=
      nextItem_cons ht (by decide) (fun _ => startsApart_brace) rest
    obtain ⟨name, before, behind, value, hname, hbefore, hbehind, hvalue, hparts⟩ :=
      exists_parts_of_entryText hitem
    obtain ⟨filled, hread, hawaits⟩ :=
      exists_reads_readEntry hkeys hkey hfresh h hbefore hbehind hvalue fields.keys (others ++ rest)
    obtain ⟨all, hall, hdone⟩ := ih hentries hknown hawaits hothers
    refine ⟨all, ?_, hdone⟩
    simp only [hparts] at hnext
    rw [readEntries]
    refine reads_bind_of_ok hnext ?_
    exact (reads_key blanks_nil hname).bind fun _ => hread.bind fun _ => hall.bind fun _ =>
      reads_pure rfl rfl

theorem FieldAwaits.or_fallback {α : Type} {field : Field α} {slot : Option α} {x : α}
    (h : FieldAwaits [] field slot x) : slot.or field.fallback = some x := by
  cases h with
  | filled => rfl
  | entry hentry => cases hentry
  | fallback _ hfallback => exact hfallback

/-- When no entries are left, the slots and the fallbacks are the values. -/
theorem Awaits.complete_eq_ok {slots : Slots fields} (h : Awaits [] fields slots xs) :
    fields.complete slots = .ok xs := by
  induction fields with
  | done => rfl
  | and field others ih =>
    have hfirst : slots.1.or field.fallback = some xs.1 := h.1.or_fallback
    rw [complete]
    simp only [hfirst, ih h.2]
    rfl

end Fields

/-! ## Records -/

/-- A record is understood from an object with its members in any order. -/
theorem decodes_record {τ α : Type} {entries members : List (String × Value)} (name : String)
    (fields : Fields τ) (make : τ → α) (xs : τ) (hkeys : fields.keys.Nodup)
    (hmembers : fields.Members xs members) (hentries : entries.Perm members) :
    Decodes (record name fields make) (.object entries) (make xs) := by
  intro blanks t rest hblanks htext
  cases htext with
  | object ht => ?_
  have hawaits := Fields.awaits_noSlots hmembers hkeys fun _ _ _ => hentries.mem_iff
  have hsublist := hmembers.keys_sublist
  have hperm := hentries.map (·.1)
  obtain ⟨filled, hread, hdone⟩ := Fields.exists_reads_readEntries hkeys
    (hperm.nodup_iff.2 (hsublist.nodup hkeys))
    (fun key h => hsublist.subset (hperm.mem_iff.1 h)) hawaits ht rest
  refine reads_behindBlanks (skipBlanks_append_cons hblanks rfl) ?_
  split
  · next found h =>
    obtain rfl := eq_of_dropSymbol?_cons h
    refine hread.bind fun _ => ?_
    exact reads_bind_of_ok hdone.complete_eq_ok (reads_pure rfl rfl)
  · next h => simp at h

end ValueBuilder.Json
