import CssTheming.Entries
import CssTheming.Proofs.List
import Mathlib.Data.List.Nodup

/-!
# Looking up and adding entries

Of several entries with one name, the first one counts. Setting entries one by one keeps all names.
Adding entries one by one, where an entry counts only if its name is new, keeps the first entry of
every name.

## Key results

- `get?_eq_none_iff`, `get?_eq_head?_filter`, `get?_map`: what is found for a name
- `get?_eq_some_iff`, `get?_eq_of_perm`: the same for names that are set only once
- `mem_keys_merge`: the names after setting many entries
- `mem_keys_setIfNew`: the names after adding an entry
- `foldl_setIfNew`: adding many entries is removing those with repeated names
- `keys_foldl_setIfNew_nil`, `get?_foldl_setIfNew`: the names and the values after adding many
  entries
-/

namespace CssTheming.Entries

variable {α : Type}

theorem contains_iff_mem_keys {entries : Entries α} {name : Text} :
    entries.contains name = true ↔ name ∈ entries.keys := by
  simp [contains, keys]

/-- Nothing is found for a name just if it is not among the names. -/
theorem get?_eq_none_iff {entries : Entries α} {name : Text} :
    entries.get? name = none ↔ name ∉ entries.keys := by
  rw [get?, List.lookup_eq_none_iff, keys, List.mem_map]
  constructor
  · rintro h ⟨entry, hentry, rfl⟩
    simpa using h entry hentry
  · intro h entry hentry
    exact bne_iff_ne.2 fun heq => h ⟨entry, hentry, heq.symm⟩

/-- The first entry with a name counts. -/
theorem get?_eq_head?_filter (entries : Entries α) (name : Text) :
    entries.get? name = (entries.filter (·.1 == name)).head?.map (·.2) := by
  induction entries with
  | nil => rfl
  | cons entry entries ih =>
    rw [get?, List.lookup_cons, List.filter_cons]
    by_cases h : entry.1 = name
    · simp [h]
    · have hne : (name == entry.1) = false := beq_eq_false_iff_ne.2 (Ne.symm h)
      simpa [get?, h, hne] using ih

theorem keys_map {β : Type} (f : α → β) (entries : Entries α) :
    keys (entries.map fun entry => (entry.1, f entry.2)) = entries.keys := by
  simp [keys]

/-- What is found for a name among changed values is what was found before, changed in the same
    way. -/
theorem get?_map {β : Type} (f : α → β) (entries : Entries α) (name : Text) :
    get? (entries.map fun entry => (entry.1, f entry.2)) name = (entries.get? name).map f := by
  rw [get?_eq_head?_filter, get?_eq_head?_filter, List.filter_map, List.head?_map, Option.map_map,
    Option.map_map]
  rfl

theorem mem_of_get?_eq_some {entries : Entries α} {name : Text} {value : α}
    (h : entries.get? name = some value) : (name, value) ∈ entries := by
  obtain ⟨front, behind, rfl, -⟩ := List.lookup_eq_some_iff.1 h
  simp

/-- If no name is set twice, then what is found for a name is what stands with it. -/
theorem get?_eq_some_iff {entries : Entries α} (h : entries.keys.Nodup) {name : Text} {value : α} :
    entries.get? name = some value ↔ (name, value) ∈ entries := by
  refine ⟨mem_of_get?_eq_some, fun hmem => ?_⟩
  cases hget : entries.get? name with
  | none => exact absurd (List.mem_map_of_mem hmem) (get?_eq_none_iff.1 hget)
  | some found =>
    -- the two entries have the name in common, so they are the same
    have heq := List.inj_on_of_nodup_map h (mem_of_get?_eq_some hget) hmem rfl
    rw [(Prod.mk.inj heq).2]

/-- If no name is set twice, then the order of the entries does not matter. -/
theorem get?_eq_of_perm {entries entries' : Entries α} (h : entries.Perm entries')
    (hnames : entries.keys.Nodup) (name : Text) : entries.get? name = entries'.get? name := by
  have hnames' : entries'.keys.Nodup := (h.map _).nodup_iff.1 hnames
  refine Option.ext fun value => ?_
  rw [get?_eq_some_iff hnames, get?_eq_some_iff hnames', h.mem_iff]

/-- Entries that give every name the same value have the same names. -/
theorem mem_keys_iff_of_get?_eq {entries entries' : Entries α} {name : Text}
    (h : entries.get? name = entries'.get? name) : name ∈ entries.keys ↔ name ∈ entries'.keys := by
  rw [← not_iff_not, ← get?_eq_none_iff, ← get?_eq_none_iff, h]

/-- An entry is added at the end if its name is new, and otherwise not at all. -/
private theorem setIfNew_eq (entries : Entries α) (name : Text) (value : α) :
    entries.setIfNew name value =
      entries ++ if name ∈ entries.keys then [] else [(name, value)] := by
  unfold setIfNew
  by_cases h : name ∈ entries.keys
  · rw [if_pos (contains_iff_mem_keys.2 h), if_pos h, List.append_nil]
  · rw [if_neg fun hcontains => h (contains_iff_mem_keys.1 hcontains), if_neg h]

/-- Setting an entry adds its name. -/
private theorem mem_keys_set {entries : Entries α} {name other : Text} {value : α} :
    other ∈ (entries.set name value).keys ↔ other ∈ entries.keys ∨ other = name := by
  rw [keys_set]
  split
  · next h => exact ⟨.inl, fun hother => hother.elim id fun heq => heq ▸ h⟩
  · rw [List.mem_append, List.mem_singleton]

/-- A new name comes behind the others. -/
theorem set_of_notMem_keys {entries : Entries α} {name : Text} (h : name ∉ entries.keys)
    (value : α) : entries.set name value = entries ++ [(name, value)] := by
  induction entries with
  | nil => rfl
  | cons entry entries ih =>
    rw [keys, List.map_cons, List.mem_cons, not_or] at h
    -- the search passes over every entry
    rw [set, if_neg (Ne.symm h.1), ih h.2, List.cons_append]

/-- The names after setting many entries are those from before and those that were set. -/
theorem mem_keys_merge {entries later : Entries α} {name : Text} :
    name ∈ (entries.merge later).keys ↔ name ∈ entries.keys ∨ name ∈ later.keys := by
  induction later generalizing entries with
  | nil => simp [merge, keys]
  | cons entry later ih =>
    -- the first entry is set before the others are
    have hmerge : entries.merge (entry :: later) = (entries.set entry.1 entry.2).merge later := rfl
    have hkeys : keys (entry :: later) = entry.1 :: keys later := rfl
    rw [hmerge, ih, mem_keys_set, hkeys, List.mem_cons, or_assoc]

theorem mem_keys_setIfNew {entries : Entries α} {name other : Text} {value : α} :
    other ∈ (entries.setIfNew name value).keys ↔ other ∈ entries.keys ∨ other = name := by
  rw [setIfNew_eq, keys, List.map_append, List.mem_append]
  by_cases h : name ∈ entries.keys
  · rw [if_pos h]
    simp only [List.map_nil, List.not_mem_nil, or_false]
    exact ⟨.inl, fun hother => hother.elim id fun heq => heq ▸ h⟩
  · rw [if_neg h, List.map_singleton, List.mem_singleton]
    rfl

/-- Of several entries with one name, the first is added, unless the name was there before. -/
theorem foldl_setIfNew (later entries : Entries α) :
    later.foldl (fun entries entry => entries.setIfNew entry.1 entry.2) entries =
      entries ++
        (later.filter fun entry => !entries.contains entry.1).eraseDupsBy (·.1 == ·.1) := by
  induction later generalizing entries with
  | nil => simp
  | cons entry later ih =>
    rw [List.foldl_cons, ih, List.filter_cons]
    cases h : entries.contains entry.1 with
    | true => simp [setIfNew, h]
    | false =>
      have hnew : entries.setIfNew entry.1 entry.2 = entries ++ [entry] := by simp [setIfNew, h]
      -- from here on the name of the entry counts as taken
      have htaken (other : Text × α) : (!(entries ++ [entry]).contains other.1) =
          (decide ((other.1 == entry.1) = false) && !entries.contains other.1) := by
        have hcomm : (entry.1 == other.1) = (other.1 == entry.1) := BEq.comm
        rw [contains, List.any_append, List.any_cons, List.any_nil, hcomm, contains]
        cases other.1 == entry.1 <;> simp
      simp only [hnew, List.append_assoc, Bool.not_false, if_true, List.eraseDupsBy_cons,
        List.filter_filter, htaken, List.singleton_append]

/-- Adding entries to none keeps the first one of every name. -/
theorem foldl_setIfNew_nil (later : Entries α) :
    later.foldl (fun (entries : Entries α) entry => entries.setIfNew entry.1 entry.2) [] =
      later.eraseDupsBy (·.1 == ·.1) := by
  rw [foldl_setIfNew, List.nil_append]
  exact congrArg (List.eraseDupsBy _) (List.filter_eq_self.2 fun _ _ => rfl)

/-- Adding entries to none keeps the names in the order of their first entries. -/
theorem keys_foldl_setIfNew_nil (later : Entries α) :
    keys (later.foldl (fun (entries : Entries α) entry => entries.setIfNew entry.1 entry.2) []) =
      later.keys.eraseDups := by
  rw [foldl_setIfNew_nil]
  exact List.map_eraseDupsBy Prod.fst later

/-- An entry that is there after adding many was there before, or was added. -/
theorem mem_of_mem_foldl_setIfNew {later entries : Entries α} {entry : Text × α}
    (h : entry ∈ later.foldl (fun entries entry => entries.setIfNew entry.1 entry.2) entries) :
    entry ∈ entries ∨ entry ∈ later := by
  induction later generalizing entries with
  | nil => exact .inl h
  | cons first later ih =>
    rw [List.foldl_cons] at h
    -- after the first step, an entry was there before or is the first one
    rcases ih h with hentries | hlater
    · rw [setIfNew_eq, List.mem_append] at hentries
      refine hentries.imp_right fun hfirst => ?_
      split at hfirst
      · cases hfirst
      · exact List.mem_singleton.1 hfirst ▸ List.mem_cons_self
    · exact .inr (List.mem_cons_of_mem _ hlater)

/-- Of all entries with one name, those that were there and those that are added, the first one
    counts. -/
theorem get?_foldl_setIfNew (later entries : Entries α) (name : Text) :
    (later.foldl (fun entries entry => entries.setIfNew entry.1 entry.2) entries).get? name =
      (entries ++ later).get? name := by
  induction later generalizing entries with
  | nil => rw [List.foldl_nil, List.append_nil]
  | cons entry later ih =>
    rw [List.foldl_cons, ih, setIfNew_eq]
    split
    · next h =>
      rw [List.append_nil, get?, get?, List.lookup_append, List.lookup_append]
      by_cases hname : name = entry.1
      · -- the name is taken, so that nothing behind counts
        have htaken : (entries.lookup name).isSome := by
          obtain ⟨taken, hmem, heq⟩ := List.mem_map.1 h
          exact List.lookup_isSome_iff.2 ⟨taken, hmem, beq_iff_eq.2 (hname.trans heq.symm)⟩
        obtain ⟨value, hvalue⟩ := Option.isSome_iff_exists.1 htaken
        rw [hvalue, Option.some_or, Option.some_or]
      · have hne : (name == entry.1) = false := beq_eq_false_iff_ne.2 hname
        rw [List.lookup_cons, hne]
    · -- the entry comes right behind those that were there
      rw [List.append_assoc, List.singleton_append]

end CssTheming.Entries
