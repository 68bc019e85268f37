/-
  RenderChain/Proofs/Tables.lean
  ==============================
  **Tables are what they find.**

  A table that is made by puts stays in the order of its keys, so it has each key
  once, and two such tables that find the same are the same table
  (`Sorted.eq_of_find?`).  With this, what is known of a finished table is known
  from `find?` alone: it does not matter in which order its entries were put, nor
  whether entries were left out afterwards (`find?_filterMap`).  A union of tables
  is described by what it finds as well (`IsUnion`), and putting the entries of one
  into the other gives one (`isUnion_overlay`).
-/
import RenderChain.Keyed

namespace RenderChain.Keyed

variable {α β : Type} {t u : Keyed α} {key : String}

/-- The keys increase. -/
def Sorted (t : Keyed α) : Prop := t.Pairwise fun p q => p.1 < q.1

theorem find?_eq_none_iff : find? key t = none ↔ key ∉ keys t := by
  rw [← isSome_find?_iff, Option.not_isSome_iff_eq_none]

/-! ## Puts keep the order -/

theorem sorted_put (h : Sorted t) (key : String) (value : α) : Sorted (put key value t) := by
  induction t with
  | nil => exact List.pairwise_singleton _ _
  | cons p rest ih =>
    obtain ⟨k, v⟩ := p
    obtain ⟨hfirst, hrest⟩ := List.pairwise_cons.1 h
    unfold put
    split
    next hkey =>
      subst hkey
      exact List.pairwise_cons.2 ⟨hfirst, hrest⟩
    next hne =>
      split
      next hlt =>
        refine List.pairwise_cons.2 ⟨?_, h⟩
        intro q hq
        rcases List.mem_cons.1 hq with rfl | hq
        · exact hlt
        · exact String.lt_trans hlt (hfirst q hq)
      next hnlt =>
        have hlt : k < key := Std.lt_of_le_of_ne hnlt (Ne.symm hne)
        refine List.pairwise_cons.2 ⟨?_, ih hrest⟩
        intro q hq
        have hkeys : q.1 ∈ keys (put key value rest) := List.mem_map_of_mem hq
        rcases (mem_keys_put value rest).1 hkeys with hkey | hkey
        · rw [hkey]
          exact hlt
        · obtain ⟨q', hq', hsame⟩ := List.mem_map.1 hkey
          rw [← hsame]
          exact hfirst q' hq'

theorem sorted_overlay (h : Sorted t) (pairs : List (String × α)) : Sorted (overlay t pairs) := by
  induction pairs generalizing t with
  | nil => exact h
  | cons p rest ih => exact ih (sorted_put h p.1 p.2)

theorem sorted_ofList (pairs : List (String × α)) : Sorted (ofList pairs) :=
  sorted_overlay List.Pairwise.nil pairs

/-! ## Tables in order -/

namespace Sorted

/-- The first key of a table is not found in the rest. -/
theorem find?_rest {p : String × α} (h : Sorted (p :: t)) {key : String} (hkey : key ≤ p.1) :
    find? key t = none := by
  rw [find?_eq_none_iff]
  intro hmem
  obtain ⟨q, hq, rfl⟩ := List.mem_map.1 hmem
  exact hkey ((List.pairwise_cons.1 h).1 q hq)

theorem eq_of_find? (ht : Sorted t) (hu : Sorted u) (h : ∀ key, find? key t = find? key u) :
    t = u := by
  induction t generalizing u with
  | nil =>
    cases u with
    | nil => rfl
    | cons q others =>
      have hfound := h q.1
      rw [find?, find?, if_pos rfl] at hfound
      cases hfound
  | cons p rest ih =>
    obtain ⟨k, v⟩ := p
    cases u with
    | nil =>
      have hfound := h k
      rw [find?, find?, if_pos rfl] at hfound
      cases hfound
    | cons q others =>
      obtain ⟨k', v'⟩ := q
      -- neither first key is smaller than the other one, which would not find it
      have hk : k = k' := by
        have hfirst := h k
        have hfirst' := h k'
        by_cases hne : k = k'
        · exact hne
        · rw [find?, find?, if_pos rfl, if_neg hne] at hfirst
          rw [find?, find?, if_pos rfl, if_neg (Ne.symm hne)] at hfirst'
          rcases String.le_total k k' with hle | hle
          · rw [hu.find?_rest hle] at hfirst
            cases hfirst
          · rw [ht.find?_rest hle] at hfirst'
            cases hfirst'
      subst hk
      have hv : v = v' := by
        have hfirst := h k
        rw [find?, find?, if_pos rfl, if_pos rfl] at hfirst
        exact Option.some.inj hfirst
      rw [hv, ih (List.pairwise_cons.1 ht).2 (List.pairwise_cons.1 hu).2]
      intro key
      by_cases hkey : key = k
      · rw [hkey, ht.find?_rest (String.le_refl k), hu.find?_rest (String.le_refl k)]
      · have hlater := h key
        rwa [find?, find?, if_neg hkey, if_neg hkey] at hlater

theorem filterMap (h : Sorted t) (f : α → Option β) :
    Sorted (t.filterMap fun p => (f p.2).map fun b => (p.1, b)) := by
  refine List.Pairwise.filterMap _ ?_ h
  intro p q hlt p' hp' q' hq'
  obtain ⟨_, -, rfl⟩ := Option.map_eq_some_iff.1 hp'
  obtain ⟨_, -, rfl⟩ := Option.map_eq_some_iff.1 hq'
  exact hlt

theorem find?_filterMap (h : Sorted t) (f : α → Option β) (key : String) :
    find? key (t.filterMap fun p => (f p.2).map fun b => (p.1, b)) = (find? key t).bind f := by
  induction t with
  | nil => rfl
  | cons p rest ih =>
    obtain ⟨k, v⟩ := p
    have hrest := ih (List.pairwise_cons.1 h).2
    rw [List.filterMap_cons]
    by_cases hkey : key = k
    · have hnone : find? key rest = none := h.find?_rest (hkey ▸ String.le_refl k)
      rw [find?, if_pos hkey]
      cases hv : f v with
      | none =>
        rw [hnone] at hrest
        simpa [hv] using hrest
      | some b => simp [hv, find?, hkey]
    · rw [find?, if_neg hkey, ← hrest]
      cases hv : f v with
      | none => rfl
      | some b => simp [find?, hkey]

end Sorted

/-! ## Unions -/

/-- `s` finds what `t` and `u` find. -/
def IsUnion (s t u : Keyed α) : Prop := ∀ key, find? key s = (find? key t).or (find? key u)

theorem find?_ofList_of_nodup (h : (keys u).Nodup) (key : String) :
    find? key (ofList u) = find? key u := by
  cases hfound : find? key u with
  | some value => exact (find?_ofList_eq_some_iff h).2 (mem_of_find? hfound)
  | none =>
    rw [find?_eq_none_iff] at hfound
    rw [Option.eq_none_iff_forall_not_mem]
    intro value hvalue
    exact hfound (List.mem_map_of_mem ((find?_ofList_eq_some_iff h).1 hvalue))

/-- Without repeated keys a table finds its entries and nothing else. -/
theorem find?_eq_some_iff {value : α} (h : (keys t).Nodup) :
    find? key t = some value ↔ (key, value) ∈ t := by
  rw [← find?_ofList_of_nodup h, find?_ofList_eq_some_iff h]

/-- Tables with different keys are united by putting the entries of one into the other. -/
theorem isUnion_overlay (h : (keys u).Nodup) (hdisjoint : ∀ key ∈ keys t, key ∉ keys u) :
    IsUnion (overlay t u) t u := by
  intro key
  rw [find?_overlay, ← find?_ofList, find?_ofList_of_nodup h]
  cases hfound : find? key t with
  | none => rw [Option.or_none, Option.none_or]
  | some value =>
    have hkey : key ∈ keys t := List.mem_map_of_mem (mem_of_find? hfound)
    rw [find?_eq_none_iff.2 (hdisjoint key hkey), Option.none_or, Option.some_or]

end RenderChain.Keyed
