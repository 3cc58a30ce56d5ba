import Mathlib.Data.List.Dedup
import Mathlib.Data.List.Perm.Lattice
import Outscan.Library.Unordered

/-! Maps that keep their entries in the order of insertion, and items grouped into maps
by two keys: one of the group, one of the item in it. -/
namespace Grouping

variable {κ ι α : Type} [DecidableEq κ] [DecidableEq ι]

def set (entries : List (κ × α)) (key : κ) (value : α) : List (κ × α) :=
  match entries with
  | [] => [(key, value)]
  | entry :: rest =>
    if entry.1 = key then (key, value) :: rest else entry :: set rest key value

theorem mem_keys_set {entries : List (κ × α)} {key k : κ} {value : α} :
    k ∈ (set entries key value).map Prod.fst ↔ k = key ∨ k ∈ entries.map Prod.fst := by
  induction entries with
  | nil => simp [set]
  | cons entry rest ih =>
    rw [set]
    split
    · next h => simp [h]
    · rw [List.map_cons, List.mem_cons, ih, List.map_cons, List.mem_cons]
      exact or_left_comm

theorem nodup_set {entries : List (κ × α)} (h : (entries.map Prod.fst).Nodup) (key : κ) (value : α) :
    ((set entries key value).map Prod.fst).Nodup := by
  induction entries with
  | nil => simp [set]
  | cons entry rest ih =>
    rw [List.map_cons, List.nodup_cons] at h
    rw [set]
    split
    · next hkey => exact hkey ▸ List.nodup_cons.mpr h
    · next hkey =>
      rw [List.map_cons, List.nodup_cons, mem_keys_set]
      exact ⟨not_or.mpr ⟨hkey, h.1⟩, ih h.2⟩

theorem mem_set {entries : List (κ × α)} (h : (entries.map Prod.fst).Nodup) {key : κ} {value : α}
    {entry : κ × α} :
    entry ∈ set entries key value ↔ entry = (key, value) ∨ entry ∈ entries ∧ entry.1 ≠ key := by
  induction entries with
  | nil => simp [set]
  | cons first rest ih =>
    rw [List.map_cons, List.nodup_cons] at h
    rw [set]
    split
    · next hkey =>
      have hother : ∀ other ∈ rest, other.1 ≠ key := fun other hmem hsame =>
        h.1 (hkey ▸ hsame ▸ List.mem_map_of_mem hmem)
      rw [List.mem_cons, List.mem_cons]
      constructor
      · exact Or.imp_right fun hmem => ⟨.inr hmem, hother _ hmem⟩
      · refine Or.imp_right fun hmem => hmem.1.resolve_left ?_
        rintro rfl
        exact hmem.2 hkey
    · next hkey =>
      rw [List.mem_cons, ih h.2, List.mem_cons]
      constructor
      · rintro (rfl | hnew | hmem)
        · exact .inr ⟨.inl rfl, hkey⟩
        · exact .inl hnew
        · exact .inr ⟨.inr hmem.1, hmem.2⟩
      · rintro (hnew | ⟨rfl | hmem, hne⟩)
        · exact .inr (.inl hnew)
        · exact .inl rfl
        · exact .inr (.inr ⟨hmem, hne⟩)

theorem mem_of_lookup {entries : List (κ × α)} {key : κ} {value : α}
    (h : entries.lookup key = some value) : (key, value) ∈ entries := by
  obtain ⟨before, after, rfl, -⟩ := List.lookup_eq_some_iff.mp h
  exact List.mem_append_right _ List.mem_cons_self

theorem lookup_eq_none {entries : List (κ × α)} {key : κ} (h : entries.lookup key = none) :
    key ∉ entries.map Prod.fst := by
  intro hmem
  obtain ⟨entry, hentry, rfl⟩ := List.mem_map.mp hmem
  simpa using List.lookup_eq_none_iff.mp h entry hentry

section Place

variable (outer : α → κ) (inner : α → ι)

def place (groups : List (κ × List (ι × α))) (item : α) : List (κ × List (ι × α)) :=
  set groups (outer item) (set ((groups.lookup (outer item)).getD []) (inner item) item)

structure Grouped (items : List α) (groups : List (κ × List (ι × α))) : Prop where
  keys_nodup : (groups.map Prod.fst).Nodup
  inner_nodup : ∀ group ∈ groups, (group.2.map Prod.fst).Nodup
  nonempty : ∀ group ∈ groups, group.2 ≠ []
  sound : ∀ group ∈ groups, ∀ entry ∈ group.2,
    entry.2 ∈ items ∧ outer entry.2 = group.1 ∧ inner entry.2 = entry.1
  complete : ∀ item ∈ items, ∃ group ∈ groups, group.1 = outer item ∧
    inner item ∈ group.2.map Prod.fst

variable {outer : α → κ} {inner : α → ι} {items : List α} {groups : List (κ × List (ι × α))}

omit [DecidableEq κ] [DecidableEq ι] in
theorem Grouped.nil : Grouped outer inner [] [] :=
  ⟨List.nodup_nil, by simp, by simp, by simp, by simp⟩

omit [DecidableEq ι] in
theorem Grouped.current (h : Grouped outer inner items groups) (item : α) :
    let entries := (groups.lookup (outer item)).getD []
    (entries.map Prod.fst).Nodup ∧
      ∀ entry ∈ entries, (outer item, entries) ∈ groups := by
  intro entries
  cases hlookup : groups.lookup (outer item) with
  | none => simp [entries, hlookup]
  | some found =>
    have hmem := mem_of_lookup hlookup
    have hentries : entries = found := by simp [entries, hlookup]
    rw [hentries]
    exact ⟨h.inner_nodup _ hmem, fun _ _ => hmem⟩

theorem Grouped.place (h : Grouped outer inner items groups) (item : α) :
    Grouped outer inner (items ++ [item]) (place outer inner groups item) := by
  obtain ⟨hnodup, hcurrent⟩ := h.current item
  refine ⟨nodup_set h.keys_nodup _ _, ?inner_nodup, ?nonempty, ?sound, ?complete⟩
  case inner_nodup =>
    intro group hgroup
    rcases (mem_set h.keys_nodup).mp hgroup with rfl | ⟨hold, -⟩
    · exact nodup_set hnodup _ _
    · exact h.inner_nodup group hold
  case nonempty =>
    intro group hgroup
    rcases (mem_set h.keys_nodup).mp hgroup with rfl | ⟨hold, -⟩
    · exact List.ne_nil_of_mem ((mem_set hnodup).mpr (.inl rfl))
    · exact h.nonempty group hold
  case sound =>
    intro group hgroup entry hentry
    rcases (mem_set h.keys_nodup).mp hgroup with rfl | ⟨hold, -⟩
    · rcases (mem_set hnodup).mp hentry with rfl | ⟨hentry, -⟩
      · exact ⟨List.mem_append_right _ (List.mem_singleton_self _), rfl, rfl⟩
      · have hfound := h.sound _ (hcurrent entry hentry) entry hentry
        exact ⟨List.mem_append_left _ hfound.1, hfound.2⟩
    · have hfound := h.sound group hold entry hentry
      exact ⟨List.mem_append_left _ hfound.1, hfound.2⟩
  case complete =>
    intro placed hplaced
    by_cases hsame : outer placed = outer item
    · refine ⟨_, (mem_set h.keys_nodup).mpr (.inl rfl), hsame.symm, mem_keys_set.mpr ?_⟩
      rcases List.mem_append.mp hplaced with hold | hnew
      · -- the group of an item placed before is the one found now
        obtain ⟨group, hgroup, hkey, hentry⟩ := h.complete placed hold
        obtain ⟨entries, hlookup⟩ : ∃ entries, groups.lookup (outer item) = some entries := by
          cases hlookup : groups.lookup (outer item) with
          | none =>
            have hmem := List.mem_map_of_mem (f := Prod.fst) hgroup
            rw [hkey, hsame] at hmem
            exact absurd hmem (lookup_eq_none hlookup)
          | some entries => exact ⟨entries, rfl⟩
        have hgroupEq := List.inj_on_of_nodup_map h.keys_nodup hgroup (mem_of_lookup hlookup)
          (hkey.trans hsame)
        rw [hlookup]
        rw [hgroupEq] at hentry
        exact .inr hentry
      · rw [List.mem_singleton.mp hnew]
        exact .inl rfl
    · rcases List.mem_append.mp hplaced with hold | hnew
      · obtain ⟨group, hgroup, hkey, hentry⟩ := h.complete placed hold
        exact ⟨group, (mem_set h.keys_nodup).mpr (.inr ⟨hgroup, hkey ▸ hsame⟩), hkey, hentry⟩
      · exact absurd (congrArg outer (List.mem_singleton.mp hnew)) hsame

theorem grouped_foldl (placed : List α) (h : Grouped outer inner items groups) :
    Grouped outer inner (items ++ placed) (placed.foldl (Grouping.place outer inner) groups) := by
  induction placed generalizing items groups with
  | nil => rwa [List.append_nil]
  | cons item rest ih =>
    have hrest := ih (h.place item)
    rwa [List.append_assoc] at hrest

omit [DecidableEq ι] in
theorem Grouped.keys (h : Grouped outer inner items groups) :
    (groups.map Prod.fst).Perm (items.map outer).dedup := by
  rw [List.perm_ext_iff_of_nodup h.keys_nodup (List.nodup_dedup _)]
  intro key
  rw [List.mem_dedup]
  constructor
  · intro hkey
    obtain ⟨group, hgroup, rfl⟩ := List.mem_map.mp hkey
    obtain ⟨entry, hentry⟩ := List.exists_mem_of_ne_nil _ (h.nonempty group hgroup)
    have hfound := h.sound group hgroup entry hentry
    exact hfound.2.1 ▸ List.mem_map_of_mem hfound.1
  · intro hkey
    obtain ⟨item, hitem, rfl⟩ := List.mem_map.mp hkey
    obtain ⟨group, hgroup, hkey, -⟩ := h.complete item hitem
    exact hkey ▸ List.mem_map_of_mem hgroup

omit [DecidableEq ι] in
theorem Grouped.values [DecidableEq α] (h : Grouped outer inner items groups)
    (hkeys : ∀ a ∈ items, ∀ b ∈ items, outer a = outer b → inner a = inner b → a = b)
    {group : κ × List (ι × α)} (hgroup : group ∈ groups) :
    (group.2.map Prod.snd).Perm (items.filter fun item => outer item = group.1).dedup := by
  have hnodup : (group.2.map Prod.snd).Nodup := by
    apply List.Nodup.of_map inner
    rw [List.map_map]
    have hsame : group.2.map (inner ∘ Prod.snd) = group.2.map Prod.fst :=
      List.map_congr_left fun entry hentry => (h.sound group hgroup entry hentry).2.2
    rw [hsame]
    exact h.inner_nodup group hgroup
  rw [List.perm_ext_iff_of_nodup hnodup (List.nodup_dedup _)]
  intro item
  rw [List.mem_dedup, List.mem_filter, decide_eq_true_iff]
  constructor
  · intro hitem
    obtain ⟨entry, hentry, rfl⟩ := List.mem_map.mp hitem
    have hfound := h.sound group hgroup entry hentry
    exact ⟨hfound.1, hfound.2.1⟩
  · rintro ⟨hitem, hkey⟩
    obtain ⟨other, hother, hotherKey, hentry⟩ := h.complete item hitem
    have hgroupEq := List.inj_on_of_nodup_map h.keys_nodup hother hgroup (hotherKey.trans hkey)
    subst hgroupEq
    obtain ⟨entry, hentry, hinner⟩ := List.mem_map.mp hentry
    have hfound := h.sound _ hgroup entry hentry
    have hitemEq := hkeys entry.2 hfound.1 item hitem (hfound.2.1.trans hotherKey)
      (hfound.2.2.trans hinner)
    exact hitemEq ▸ List.mem_map_of_mem hentry

omit [DecidableEq ι] in
/-- Groups in the order of their keys, each with its items in theirs, are computed from
the items alone. -/
theorem Grouped.arranged [DecidableEq α] {γ : Type} (h : Grouped outer inner items groups)
    (hkeys : ∀ a ∈ items, ∀ b ∈ items, outer a = outer b → inner a = inner b → a = b)
    {keyLe : κ → κ → Bool} (hkeyTrans : ∀ a b c, keyLe a b → keyLe b c → keyLe a c)
    (hkeyTotal : ∀ a b, keyLe a b || keyLe b a)
    (hkeyAnti : ∀ a ∈ items.map outer, ∀ b ∈ items.map outer, keyLe a b → keyLe b a → a = b)
    {le : α → α → Bool} (htrans : ∀ a b c, le a b → le b c → le a c)
    (htotal : ∀ a b, le a b || le b a)
    (hanti : ∀ a ∈ items, ∀ b ∈ items, outer a = outer b → le a b → le b a → a = b)
    (result : κ → List α → γ) :
    (groups.mergeSort fun a b => keyLe a.1 b.1).map
        (fun group => result group.1 ((group.2.map Prod.snd).mergeSort le)) =
      ((items.map outer).dedup.mergeSort keyLe).map fun key =>
        result key ((items.filter fun item => outer item = key).dedup.mergeSort le) := by
  have hgroup : ∀ group ∈ groups.mergeSort fun a b => keyLe a.1 b.1,
      result group.1 ((group.2.map Prod.snd).mergeSort le) =
        result group.1 ((items.filter fun item => outer item = group.1).dedup.mergeSort le) := by
    intro group hgroup
    have hperm := h.values hkeys (List.mem_mergeSort.mp hgroup)
    congr 1
    apply Unordered.mergeSort_eq_of_perm htrans htotal _ hperm
    intro a b ha hb
    have hfound : ∀ item ∈ group.2.map Prod.snd, item ∈ items ∧ outer item = group.1 := by
      intro item hitem
      simpa using hperm.mem_iff.mp hitem
    obtain ⟨ha, haKey⟩ := hfound a ha
    obtain ⟨hb, hbKey⟩ := hfound b hb
    exact hanti a ha b hb (haKey.trans hbKey.symm)
  have hsorted : (groups.mergeSort fun a b => keyLe a.1 b.1).map Prod.fst =
      (items.map outer).dedup.mergeSort keyLe := by
    rw [List.map_mergeSort (s := keyLe) (fun _ _ _ _ => rfl)]
    apply Unordered.mergeSort_eq_of_perm hkeyTrans hkeyTotal _ h.keys
    intro a b ha hb
    have hfound : ∀ key ∈ groups.map Prod.fst, key ∈ items.map outer := fun key hkey =>
      List.mem_dedup.mp (h.keys.mem_iff.mp hkey)
    exact hkeyAnti a (hfound a ha) b (hfound b hb)
  rw [List.map_congr_left hgroup, ← hsorted, List.map_map]
  rfl

end Place

end Grouping
