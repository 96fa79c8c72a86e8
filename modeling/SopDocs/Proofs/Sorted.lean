import Mathlib.Data.List.Nodup
import Mathlib.Data.List.Perm.Subperm
import SopDocs.Sorted

/-!
# Tables in ascending order are determined by their lookups

Putting changes the value of one key and keeps the order. Two tables in ascending
order with the same lookups are the same list, so that the table of some pairs
depends on what the pairs say of each key and not on how they are listed.
-/

namespace SopDocs.Sorted

variable {α : Type}

/-- The keys increase from each entry to all later ones. -/
def Ascending (table : List (String × α)) : Prop := table.Pairwise fun p q => p.1 < q.1

theorem lt_of_not_lt_of_ne {a b : String} (hlt : ¬ a < b) (hne : a ≠ b) : b < a := by
  rcases Std.lt_trichotomy a b with h | h | h
  · exact absurd h hlt
  · exact absurd h hne
  · exact h

/-! ### Lookups -/

@[simp] theorem get?_nil (key : String) : get? key ([] : List (String × α)) = none := rfl

theorem get?_cons (key : String) (p : String × α) (table : List (String × α)) :
    get? key (p :: table) = if p.1 = key then some p.2 else get? key table := by
  unfold get?
  by_cases h : p.1 = key <;> simp [h]

theorem get?_put (key k : String) (value : α) (table : List (String × α)) :
    get? k (put key value table) = if key = k then some value else get? k table := by
  induction table with
  | nil => simp [put, get?_cons]
  | cons p table ih =>
    unfold put
    split
    · exact get?_cons k (key, value) (p :: table)
    · split
      · next hkey =>
        subst hkey
        simp only [get?_cons]
        split <;> rfl
      · next hkey =>
        simp only [get?_cons, ih]
        by_cases hk : p.1 = k
        · simp [hk, show key ≠ k from fun h => hkey (h.trans hk.symm)]
        · simp [hk]

theorem mem_put {key : String} {value : α} {table : List (String × α)} {p : String × α}
    (h : p ∈ put key value table) : p = (key, value) ∨ p ∈ table := by
  induction table with
  | nil => exact Or.inl (List.mem_singleton.mp h)
  | cons q table ih =>
    unfold put at h
    split at h
    · exact List.mem_cons.mp h
    · split at h
      · rcases List.mem_cons.mp h with rfl | h
        · exact Or.inl rfl
        · exact Or.inr (List.mem_cons_of_mem _ h)
      · rcases List.mem_cons.mp h with rfl | h
        · exact Or.inr List.mem_cons_self
        · rcases ih h with h | h
          · exact Or.inl h
          · exact Or.inr (List.mem_cons_of_mem _ h)

/-! ### Order -/

theorem ascending_put (key : String) (value : α) {table : List (String × α)}
    (h : Ascending table) : Ascending (put key value table) := by
  induction table with
  | nil => simp [put, Ascending]
  | cons p table ih =>
    obtain ⟨hp, htable⟩ := List.pairwise_cons.mp h
    unfold put
    split
    · next hlt =>
      refine List.pairwise_cons.mpr ⟨?_, h⟩
      intro q hq
      rcases List.mem_cons.mp hq with rfl | hq
      · exact hlt
      · exact String.lt_trans hlt (hp q hq)
    · split
      · next hkey =>
        subst hkey
        exact List.pairwise_cons.mpr ⟨hp, htable⟩
      · next hlt hkey =>
        refine List.pairwise_cons.mpr ⟨?_, ih htable⟩
        intro q hq
        rcases mem_put hq with rfl | hq
        · exact lt_of_not_lt_of_ne hlt hkey
        · exact hp q hq

theorem ascending_foldl_put (pairs : List (String × α)) {table : List (String × α)}
    (h : Ascending table) : Ascending (pairs.foldl (fun t p => put p.1 p.2 t) table) := by
  induction pairs generalizing table with
  | nil => exact h
  | cons p pairs ih => exact ih (ascending_put p.1 p.2 h)

theorem ascending_ofList (pairs : List (String × α)) : Ascending (ofList pairs) :=
  ascending_foldl_put pairs List.Pairwise.nil

/-- In a table in ascending order each entry is the one that its key looks up. -/
theorem mem_iff_get? {table : List (String × α)} (h : Ascending table) {p : String × α} :
    p ∈ table ↔ get? p.1 table = some p.2 := by
  induction table with
  | nil => simp
  | cons q table ih =>
    obtain ⟨hq, htable⟩ := List.pairwise_cons.mp h
    rw [get?_cons, List.mem_cons, ih htable]
    by_cases hk : q.1 = p.1
    · rw [if_pos hk]
      constructor
      · rintro (rfl | hget)
        · rfl
        · have hlt := hq p ((ih htable).mpr hget)
          rw [hk] at hlt
          exact absurd hlt (String.lt_irrefl _)
      · intro hsome
        exact Or.inl (Prod.ext hk.symm (Option.some.inj hsome).symm)
    · rw [if_neg hk]
      refine ⟨?_, Or.inr⟩
      rintro (rfl | hget)
      · exact absurd rfl hk
      · exact hget

/-- Tables in ascending order with the same lookups are equal. -/
theorem eq_of_get? {s t : List (String × α)} (hs : Ascending s) (ht : Ascending t)
    (h : ∀ key, get? key s = get? key t) : s = t := by
  have hmem : ∀ p, p ∈ s ↔ p ∈ t := fun p => by rw [mem_iff_get? hs, mem_iff_get? ht, h]
  have hasymm : ∀ p q : String × α, p.1 < q.1 → q.1 < p.1 → p = q := fun p q hpq hqp =>
    absurd hqp (String.lt_asymm hpq)
  have hnodup : ∀ u : List (String × α), Ascending u → u.Nodup := fun u hu =>
    hu.imp fun hlt heq => by rw [heq] at hlt; exact String.lt_irrefl _ hlt
  exact List.Perm.eq_of_pairwise (fun p q _ _ => hasymm p q) hs ht
    ((List.perm_ext_iff_of_nodup (hnodup s hs) (hnodup t ht)).mpr hmem)

/-! ### Tables of pairs -/

/-- A key that a table of pairs looks up is one of theirs or was there before. -/
theorem get?_foldl_put_of_forall {pairs : List (String × α)} (value : String → α)
    (h : ∀ p ∈ pairs, p.2 = value p.1) (table : List (String × α)) (key : String) :
    get? key (pairs.foldl (fun t p => put p.1 p.2 t) table) =
      if key ∈ pairs.map (·.1) then some (value key) else get? key table := by
  induction pairs generalizing table with
  | nil => simp
  | cons p pairs ih =>
    rw [List.foldl_cons, ih (fun q hq => h q (List.mem_cons_of_mem _ hq)), get?_put]
    have hp := h p List.mem_cons_self
    by_cases hin : key ∈ pairs.map (·.1)
    · rw [if_pos hin, if_pos (by simp [List.map_cons, hin])]
    · by_cases hkey : p.1 = key
      · subst hkey
        simp [hin, hp]
      · rw [if_neg hin, if_neg hkey, if_neg]
        simp only [List.map_cons, List.mem_cons, not_or]
        exact ⟨fun heq => hkey heq.symm, hin⟩

/-- Of pairs with different keys each one is looked up. -/
theorem get?_foldl_put_of_nodup {pairs : List (String × α)} (hkeys : (pairs.map (·.1)).Nodup)
    (table : List (String × α)) (key : String) (value : α) :
    get? key (pairs.foldl (fun t p => put p.1 p.2 t) table) = some value ↔
      (key, value) ∈ pairs ∨ (key ∉ pairs.map (·.1) ∧ get? key table = some value) := by
  induction pairs generalizing table with
  | nil => simp
  | cons p pairs ih =>
    rw [List.map_cons] at hkeys ⊢
    obtain ⟨hp, hrest⟩ := List.nodup_cons.mp hkeys
    rw [List.foldl_cons, ih hrest, get?_put, List.mem_cons, List.mem_cons, not_or]
    by_cases hkey : p.1 = key
    · subst hkey
      have hnot : (p.1, value) ∉ pairs := fun hmem => hp (List.mem_map.mpr ⟨_, hmem, rfl⟩)
      simp [hp, hnot, Prod.ext_iff, eq_comm]
    · have hne : (key, value) ≠ p := fun heq => hkey (congrArg Prod.fst heq).symm
      simp [hkey, hne, Ne.symm hkey]

theorem get?_ofList_of_nodup {pairs : List (String × α)} (hkeys : (pairs.map (·.1)).Nodup)
    {key : String} {value : α} : get? key (ofList pairs) = some value ↔ (key, value) ∈ pairs := by
  unfold ofList
  rw [get?_foldl_put_of_nodup hkeys, get?_nil]
  simp

theorem mem_ofList_of_nodup {pairs : List (String × α)} (hkeys : (pairs.map (·.1)).Nodup)
    {p : String × α} : p ∈ ofList pairs ↔ p ∈ pairs := by
  rw [mem_iff_get? (ascending_ofList pairs), get?_ofList_of_nodup hkeys]

/-! ### Keys -/

theorem mem_keys_iff {table : List (String × α)} (h : Ascending table) {key : String} :
    key ∈ keys table ↔ contains key table = true := by
  unfold keys contains
  rw [List.mem_map, Option.isSome_iff_exists]
  constructor
  · rintro ⟨p, hp, rfl⟩
    exact ⟨p.2, (mem_iff_get? h).mp hp⟩
  · rintro ⟨value, hvalue⟩
    exact ⟨(key, value), (mem_iff_get? h).mpr hvalue, rfl⟩

theorem pairwise_keys {table : List (String × α)} (h : Ascending table) :
    (keys table).Pairwise (· < ·) := List.pairwise_map.mpr h

theorem mem_keys_foldl_put_iff {pairs : List (String × α)} {table : List (String × α)}
    (h : Ascending table) {key : String} :
    key ∈ keys (pairs.foldl (fun t p => put p.1 p.2 t) table) ↔
      key ∈ pairs.map (·.1) ∨ key ∈ keys table := by
  induction pairs generalizing table with
  | nil => simp
  | cons p pairs ih =>
    have hput : key ∈ keys (put p.1 p.2 table) ↔ key = p.1 ∨ key ∈ keys table := by
      rw [mem_keys_iff (ascending_put p.1 p.2 h), mem_keys_iff h, contains, contains, get?_put]
      by_cases hkey : p.1 = key
      · simp [hkey]
      · simp [hkey, Ne.symm hkey]
    rw [List.foldl_cons, ih (ascending_put p.1 p.2 h), hput, List.map_cons, List.mem_cons, or_assoc,
      or_left_comm]

theorem mem_keys_ofList_iff {pairs : List (String × α)} {key : String} :
    key ∈ keys (ofList pairs) ↔ key ∈ pairs.map (·.1) := by
  unfold ofList
  rw [mem_keys_foldl_put_iff List.Pairwise.nil]
  exact or_iff_left List.not_mem_nil

theorem nodup_of_pairwise_lt {keys : List String} (h : keys.Pairwise (· < ·)) : keys.Nodup :=
  h.imp fun {a b} (hlt : a < b) (heq : a = b) => by
    rw [heq] at hlt
    exact String.lt_irrefl b hlt

theorem nodup_keys {table : List (String × α)} (h : Ascending table) : (keys table).Nodup :=
  nodup_of_pairwise_lt (pairwise_keys h)

/-! ### Pairs that are kept -/

/-- A table of pairs has all of them exactly if they have different keys. -/
theorem length_ofList_eq_iff {pairs : List (String × α)} :
    (ofList pairs).length = pairs.length ↔ (pairs.map (·.1)).Nodup := by
  have hkeys : (keys (ofList pairs)).Nodup := nodup_keys (ascending_ofList pairs)
  have hmem : ∀ key, key ∈ keys (ofList pairs) ↔ key ∈ pairs.map (·.1) :=
    fun _ => mem_keys_ofList_iff
  have hlength : (keys (ofList pairs)).length = (ofList pairs).length := List.length_map _
  constructor
  · intro hall
    have hsub : (keys (ofList pairs)).Subperm (pairs.map (·.1)) :=
      List.subperm_of_subset hkeys fun key => (hmem key).mp
    have hperm := hsub.perm_of_length_le (Nat.le_of_eq (by rw [List.length_map, hlength, hall]))
    exact hperm.nodup_iff.mp hkeys
  · intro hnodup
    have hperm := (List.perm_ext_iff_of_nodup hkeys hnodup).mpr hmem
    rw [← hlength, hperm.length_eq, List.length_map]

theorem perm_ofList_of_nodup {pairs : List (String × α)} (h : (pairs.map (·.1)).Nodup) :
    (ofList pairs).Perm pairs := by
  have hofList : (ofList pairs).Nodup :=
    List.Nodup.of_map _ (nodup_keys (ascending_ofList pairs))
  exact (List.perm_ext_iff_of_nodup hofList (List.Nodup.of_map _ h)).mpr
    fun _ => mem_ofList_of_nodup h

end SopDocs.Sorted
