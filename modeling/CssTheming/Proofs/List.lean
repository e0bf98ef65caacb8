import Mathlib.Algebra.Order.BigOperators.Group.List
import Mathlib.Algebra.Order.Group.Nat
import Mathlib.Data.List.Forall2
import Mathlib.Data.List.Induction

/-!
# List lemmas

Generic lemmas about lists: induction on the length, mapping, removing repetitions, and
moving or modifying one element.
-/

namespace List

variable {α β : Type}

/-- What stands in front of the first `a` of a list, and what stands behind it. -/
theorem append_cons_inj_of_notMem_left {a : α} {l₁ l₂ l₁' l₂' : List α} (h : a ∉ l₁)
    (h' : a ∉ l₁') : l₁ ++ a :: l₂ = l₁' ++ a :: l₂' ↔ l₁ = l₁' ∧ l₂ = l₂' := by
  constructor
  · intro heq
    -- otherwise the longer one of the two would go on with `a`
    rcases append_eq_append_iff.1 heq with ⟨l, rfl, hl⟩ | ⟨l, rfl, hl⟩
    all_goals cases l with
      | nil => simp_all
      | cons b l => simp_all
  · rintro ⟨rfl, rfl⟩
    rfl

/-- Induction on lists, from all shorter lists. -/
theorem lengthInduction {motive : List α → Prop}
    (step : ∀ l, (∀ l' : List α, l'.length < l.length → motive l') → motive l) (l : List α) :
    motive l := by
  induction h : l.length using Nat.strongRecOn generalizing l with
  | ind n ih => exact step l fun l' hlt => ih l'.length (h ▸ hlt) l' rfl

/-! ## Mapping -/

/-- A mapping in which no element leads to an error. -/
theorem mapM_eq_ok {ε : Type} {f : α → Except ε β} {g : α → β} {l : List α}
    (h : ∀ a ∈ l, f a = .ok (g a)) : l.mapM f = .ok (l.map g) := by
  induction l with
  | nil => rfl
  | cons a l ih =>
    rw [mapM_cons, h a mem_cons_self, ih fun b hb => h b (mem_cons_of_mem _ hb)]
    rfl

/-- If no part is longer in the first list of parts and some part is shorter, the whole is
    shorter. -/
theorem length_flatMap_lt {f g : α → List β} {l : List α}
    (hle : ∀ a ∈ l, (f a).length ≤ (g a).length) (hlt : ∃ a ∈ l, (f a).length < (g a).length) :
    (l.flatMap f).length < (l.flatMap g).length := by
  rw [length_flatMap, length_flatMap]
  exact sum_lt_sum _ _ hle hlt

/-! ## Removing repetitions -/

/-- Induction on lists with all filters of the tail, in the way in which repetitions are removed. -/
theorem filterInduction {motive : List α → Prop} (nil : motive [])
    (cons : ∀ a l, (∀ p : α → Bool, motive (l.filter p)) → motive (a :: l)) (l : List α) :
    motive l := by
  induction l using lengthInduction with
  | step l ih =>
    cases l with
    | nil => exact nil
    | cons a l => exact cons a l fun p => ih _ (Nat.lt_succ_of_le (length_filter_le p l))

/-- No element is repeated once the repetitions are removed. -/
theorem nodup_eraseDups [BEq α] [LawfulBEq α] (l : List α) : l.eraseDups.Nodup := by
  induction l using filterInduction with
  | nil => simp
  | cons a l ih =>
    rw [eraseDups_cons, nodup_cons]
    refine ⟨?_, ih _⟩
    -- the first element is filtered out of the others
    rw [mem_eraseDups, mem_filter]
    simp

/-- A list without repetitions is left as it is. -/
theorem eraseDups_of_nodup [BEq α] [LawfulBEq α] {l : List α} (h : l.Nodup) :
    l.eraseDups = l := by
  induction l with
  | nil => rfl
  | cons a l ih =>
    rw [nodup_cons] at h
    -- nothing behind the first element is like it
    have hfilter : (l.filter fun b => !b == a) = l := by
      rw [filter_eq_self]
      intro b hb
      simpa using fun hba : b = a => h.1 (hba ▸ hb)
    rw [eraseDups_cons, hfilter, ih h.2]

/-- Removing repetitions twice is removing them once. -/
@[simp] theorem eraseDups_eraseDups [BEq α] [LawfulBEq α] (l : List α) :
    l.eraseDups.eraseDups = l.eraseDups :=
  eraseDups_of_nodup (nodup_eraseDups l)

/-- What is left without repetitions stands in the same order. -/
private theorem eraseDups_sublist [BEq α] [LawfulBEq α] (l : List α) : l.eraseDups.Sublist l := by
  induction l using filterInduction with
  | nil => exact .slnil
  | cons a l ih =>
    rw [eraseDups_cons]
    exact ((ih _).trans filter_sublist).cons_cons a

/-- Elements that are told apart by a function leave the values of the function without
    repetitions. -/
theorem map_eraseDupsBy [BEq β] (f : α → β) (l : List α) :
    (l.eraseDupsBy fun a b => f a == f b).map f = (l.map f).eraseDups := by
  induction l using filterInduction with
  | nil => rfl
  | cons a l ih =>
    rw [eraseDupsBy_cons, map_cons, map_cons, eraseDups_cons, ih, filter_map]
    simp only [Bool.decide_eq_false]
    rfl

/-- Removing repetitions and dropping elements can be done in either order. -/
theorem eraseDups_filter [BEq α] [LawfulBEq α] (p : α → Bool) (l : List α) :
    (l.filter p).eraseDups = l.eraseDups.filter p := by
  induction l using filterInduction with
  | nil => rfl
  | cons a l ih =>
    rw [eraseDups_cons]
    by_cases hp : p a = true
    · -- the element stays, and both filters are made on what is behind it
      rw [filter_cons_of_pos hp, filter_cons_of_pos hp, eraseDups_cons, ← ih, filter_filter,
        filter_filter]
      simp only [Bool.and_comm]
    · -- the element is dropped, and so is every other one that is like it
      rw [filter_cons_of_neg hp, filter_cons_of_neg hp, ← ih, filter_filter]
      congr 1
      refine filter_congr fun b _ => ?_
      by_cases hb : b = a
      · subst hb
        simp [hp]
      · simp [hb]

/-- Elements that have come before count as repetitions. -/
private theorem eraseDups_append_of_subset [BEq α] [LawfulBEq α] {l l' : List α} (h : l' ⊆ l) :
    (l ++ l').eraseDups = l.eraseDups := by
  -- all of the second list has come before
  have hnone : l'.removeAll l = [] := by
    rw [removeAll, filter_eq_nil_iff]
    intro a ha
    simpa using h ha
  rw [eraseDups_append, hnone, eraseDups_nil, append_nil]

/-- Lists that are the same up to repetitions are so behind one another, too. -/
theorem eraseDups_append_congr [BEq α] [LawfulBEq α] {l m l' m' : List α}
    (h : l.eraseDups = m.eraseDups) (h' : l'.eraseDups = m'.eraseDups) :
    (l ++ l').eraseDups = (m ++ m').eraseDups := by
  -- the same elements count as taken by the first list
  have helem (a : α) : l.elem a = m.elem a := by
    rw [Bool.eq_iff_iff, elem_iff, elem_iff, ← mem_eraseDups, h, mem_eraseDups]
  rw [eraseDups_append, eraseDups_append, removeAll, removeAll, eraseDups_filter, eraseDups_filter,
    h, h']
  simp only [helem]

/-- Parts that are the same up to repetitions make up lists that are the same up to repetitions. -/
theorem eraseDups_flatMap_congr [BEq β] [LawfulBEq β] {f g : α → List β} {l : List α}
    (h : ∀ a ∈ l, (f a).eraseDups = (g a).eraseDups) :
    (l.flatMap f).eraseDups = (l.flatMap g).eraseDups := by
  induction l with
  | nil => rfl
  | cons a l ih =>
    obtain ⟨ha, hl⟩ := forall_mem_cons.1 h
    rw [flatMap_cons, flatMap_cons]
    exact eraseDups_append_congr ha (ih hl)

/-- Repetitions may be left in until each element is replaced by others, since they are removed
    after that in any case. -/
theorem eraseDups_flatMap_eraseDups [BEq α] [LawfulBEq α] [BEq β] [LawfulBEq β] (f : α → List β)
    (l : List α) : (l.eraseDups.flatMap f).eraseDups = (l.flatMap f).eraseDups := by
  -- the last element is a repetition, or it stays last
  induction l using reverseRec with
  | nil => rfl
  | append_singleton l a ih =>
    rw [flatMap_append, flatMap_singleton]
    by_cases ha : a ∈ l
    · have hrepeated : f a ⊆ l.flatMap f := fun b hb => mem_flatMap.2 ⟨a, ha, hb⟩
      rw [eraseDups_append_of_subset (by simpa using ha), ih,
        eraseDups_append_of_subset hrepeated]
    · have hnew : ([a].removeAll l).eraseDups = [a] := by
        simp [removeAll, ha, eraseDups_cons]
      rw [eraseDups_append, hnew, flatMap_append, flatMap_singleton]
      exact eraseDups_append_congr ih rfl

/-- Repetitions may be left in until the elements are changed, since they are removed after that in
    any case. -/
theorem eraseDups_map_eraseDups [BEq α] [LawfulBEq α] [BEq β] [LawfulBEq β] (f : α → β)
    (l : List α) : (l.eraseDups.map f).eraseDups = (l.map f).eraseDups := by
  rw [map_eq_flatMap, map_eq_flatMap, eraseDups_flatMap_eraseDups]

/-- Changing the elements and removing repetitions gives a list without repetitions back only if no
    element is changed. -/
theorem eraseDups_map_eq_self_iff [BEq α] [LawfulBEq α] {l : List α} (hl : l.Nodup) {f : α → α} :
    (l.map f).eraseDups = l ↔ ∀ a ∈ l, f a = a := by
  constructor
  · intro h
    -- no element can have been removed, since none is missing
    have hlength : (l.map f).eraseDups.length = (l.map f).length := by rw [h, length_map]
    have hmap : l.map f = l.map id := by
      rw [map_id, ← (eraseDups_sublist _).eq_of_length hlength, h]
    exact map_inj_left.1 hmap
  · intro h
    rw [map_congr_left h, map_id', eraseDups_of_nodup hl]

/-! ## Moving one element -/

/-- An element can move from the end of a list to its front only past elements like it. -/
theorem append_singleton_eq_cons_iff {a : α} {l : List α} :
    l ++ [a] = a :: l ↔ ∀ b ∈ l, b = a := by
  induction l with
  | nil => simp
  | cons b l ih =>
    rw [cons_append, cons.injEq, forall_mem_cons]
    constructor
    · rintro ⟨rfl, h⟩
      exact ⟨rfl, ih.1 h⟩
    · rintro ⟨rfl, h⟩
      exact ⟨rfl, ih.2 h⟩

/-! ## Modifying one element -/

/-- Modifying an element of the first of two lists leaves the second one alone. -/
theorem modify_append_of_lt {l : List α} {i : Nat} (h : i < l.length) (f : α → α) (l' : List α) :
    (l ++ l').modify i f = l.modify i f ++ l' := by
  induction l generalizing i with
  | nil => simp at h
  | cons a l ih =>
    cases i with
    | zero => rfl
    | succ i =>
      rw [length_cons] at h
      rw [cons_append, modify_succ_cons, modify_succ_cons, ih (by omega), cons_append]

/-- The element that is modified stands behind as many others as its index says. -/
theorem modify_append_length (l : List α) (f : α → α) (a : α) (l' : List α) :
    (l ++ a :: l').modify l.length f = l ++ f a :: l' := by
  induction l with
  | nil => rfl
  | cons b l ih => rw [length_cons, cons_append, modify_succ_cons, ih, cons_append]

/-- What is in a list after a modification was there before, or is a modified element. -/
theorem mem_of_mem_modify {l : List α} {i : Nat} {f : α → α} {a : α} (h : a ∈ l.modify i f) :
    a ∈ l ∨ ∃ b ∈ l, a = f b := by
  induction l generalizing i with
  | nil =>
    rw [modify_nil] at h
    exact .inl h
  | cons b l ih =>
    cases i with
    | zero =>
      -- the first element is the modified one
      rcases mem_cons.1 h with rfl | h
      · exact .inr ⟨b, mem_cons_self, rfl⟩
      · exact .inl (mem_cons_of_mem _ h)
    | succ i =>
      rw [modify_succ_cons] at h
      rcases mem_cons.1 h with rfl | h
      · exact .inl mem_cons_self
      · exact (ih h).imp (mem_cons_of_mem _) fun ⟨c, hc, hac⟩ => ⟨c, mem_cons_of_mem _ hc, hac⟩

/-- What was in a list is there after a modification, unless it is the modified element. -/
theorem mem_modify_of_mem {l : List α} {a : α} (h : a ∈ l) (i : Nat) (f : α → α) :
    a ∈ l.modify i f ∨ f a ∈ l.modify i f := by
  induction l generalizing i with
  | nil => cases h
  | cons b l ih =>
    cases i with
    | zero =>
      rcases mem_cons.1 h with rfl | h
      · exact .inr mem_cons_self
      · exact .inl (mem_cons_of_mem _ h)
    | succ i =>
      rw [modify_succ_cons]
      rcases mem_cons.1 h with rfl | h
      · exact .inl mem_cons_self
      · exact (ih h i).imp (mem_cons_of_mem _) (mem_cons_of_mem _)

/-- A relation between lists is kept if elements at the same place are modified in a way that keeps
    it. -/
theorem Forall₂.modify {R : α → β → Prop} {l : List α} {l' : List β} (h : Forall₂ R l l') (i : Nat)
    {f : α → α} {g : β → β} (hR : ∀ a b, R a b → R (f a) (g b)) :
    Forall₂ R (l.modify i f) (l'.modify i g) := by
  induction h generalizing i with
  | nil =>
    rw [modify_nil, modify_nil]
    exact .nil
  | cons hab htail ih =>
    cases i with
    | zero => exact .cons (hR _ _ hab) htail
    | succ i => exact .cons hab (ih i)

end List
