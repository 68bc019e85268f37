/-
  RenderChain/Keyed.lean
  ======================
  **Tables sorted by their keys.**

  Variables, in-memory templates and configured engines are finite maps whose
  order shows in what is printed, listed or hashed.  They are kept as lists of
  pairs in increasing order of the keys, the order being that of the code
  points, which for UTF-8 is also the order of the bytes.  `find?_put` is the
  law of a map and `find?_overlay` its form for many puts; `mem_keys_put` says
  that a put adds its key and no other, and `isSome_find?_iff` that the keys are
  what is found.
-/
namespace RenderChain

/-- Pairs of a key and a value, in increasing order of the keys. -/
abbrev Keyed (α : Type) := List (String × α)

namespace Keyed

variable {α : Type}

/-- Sets the value of `key`. -/
def put (key : String) (value : α) : Keyed α → Keyed α
  | [] => [(key, value)]
  | (k, v) :: rest =>
    if key = k then (key, value) :: rest
    else if key < k then (key, value) :: (k, v) :: rest
    else (k, v) :: put key value rest

def find? (key : String) : Keyed α → Option α
  | [] => none
  | (k, v) :: rest => if key = k then some v else find? key rest

def keys (t : Keyed α) : List String := t.map Prod.fst

/-- The table of the pairs; of two values for one key the last one stays. -/
def ofList (pairs : List (String × α)) : Keyed α :=
  pairs.foldl (fun t p => put p.1 p.2 t) []

/-- The table with further pairs put into it. -/
def overlay (t : Keyed α) (pairs : List (String × α)) : Keyed α :=
  pairs.foldl (fun t p => put p.1 p.2 t) t

@[simp] theorem find?_put_self (key : String) (value : α) (t : Keyed α) :
    find? key (put key value t) = some value := by
  induction t with
  | nil => simp [put, find?]
  | cons p rest ih =>
    obtain ⟨k, v⟩ := p
    unfold put
    split
    · simp [find?]
    · split
      · simp [find?]
      next h _ => simp [find?, h, ih]

theorem find?_put_of_ne {key other : String} (h : other ≠ key) (value : α) (t : Keyed α) :
    find? other (put key value t) = find? other t := by
  induction t with
  | nil => simp [put, find?, h]
  | cons p rest ih =>
    obtain ⟨k, v⟩ := p
    unfold put
    split
    next e => subst e; simp [find?, h]
    next =>
      split
      · simp [find?, h]
      · simp [find?, ih]

theorem find?_put (key other : String) (value : α) (t : Keyed α) :
    find? other (put key value t) = if other = key then some value else find? other t := by
  split
  next h => subst h; simp
  next h => exact find?_put_of_ne h value t

theorem mem_of_find? {key : String} {value : α} {t : Keyed α} (h : find? key t = some value) :
    (key, value) ∈ t := by
  induction t with
  | nil => cases h
  | cons p rest ih =>
    obtain ⟨k, v⟩ := p
    unfold find? at h
    split at h
    next hkey =>
      cases h
      rw [hkey]
      exact List.mem_cons_self
    next => exact List.mem_cons_of_mem _ (ih h)

/-- Of several values put for one key the last one counts. -/
theorem find?_overlay (name : String) (t : Keyed α) (pairs : List (String × α)) :
    find? name (overlay t pairs) = (pairs.reverse.lookup name).or (find? name t) := by
  induction pairs generalizing t with
  | nil => simp [overlay]
  | cons p rest ih =>
    obtain ⟨key, value⟩ := p
    have hstep : overlay t ((key, value) :: rest) = overlay (put key value t) rest := rfl
    rw [hstep, ih, find?_put, List.reverse_cons, List.lookup_append, Option.or_assoc]
    congr 1
    rw [List.lookup_cons, List.lookup_nil]
    by_cases h : name = key
    · simp [h]
    · simp [h, beq_false_of_ne h]

theorem find?_ofList (name : String) (pairs : List (String × α)) :
    find? name (ofList pairs) = pairs.reverse.lookup name := by
  have h := find?_overlay name [] pairs
  simpa [find?, overlay, ofList] using h

/-- Without repeated keys a table has the pairs that it is made of. -/
theorem find?_ofList_eq_some_iff {name : String} {value : α} {pairs : List (String × α)}
    (h : (pairs.map Prod.fst).Nodup) :
    find? name (ofList pairs) = some value ↔ (name, value) ∈ pairs := by
  rw [find?_ofList, List.lookup_eq_some_iff, ← List.mem_reverse]
  constructor
  · rintro ⟨front, back, hsplit, -⟩
    rw [hsplit]
    exact List.mem_append_right front List.mem_cons_self
  · intro hmem
    obtain ⟨front, back, hsplit⟩ := List.append_of_mem hmem
    refine ⟨front, back, hsplit, ?_⟩
    intro p hp
    have hnodup : ((front ++ (name, value) :: back).map Prod.fst).Nodup := by
      rw [← hsplit, List.map_reverse]
      exact List.pairwise_reverse.2 (h.imp Ne.symm)
    rw [List.map_append, List.nodup_append] at hnodup
    have hne := hnodup.2.2 p.1 (List.mem_map_of_mem hp) name (by simp)
    exact bne_iff_ne.2 hne.symm

theorem isSome_find?_iff {key : String} {t : Keyed α} :
    (find? key t).isSome = true ↔ key ∈ keys t := by
  induction t with
  | nil => simp [find?, keys]
  | cons p rest ih =>
    obtain ⟨k, v⟩ := p
    by_cases h : key = k
    · simp [find?, keys, h]
    · simpa [find?, keys, h] using ih

theorem mem_keys_put {key other : String} (value : α) (t : Keyed α) :
    other ∈ keys (put key value t) ↔ other = key ∨ other ∈ keys t := by
  induction t with
  | nil => simp [put, keys]
  | cons p rest ih =>
    obtain ⟨k, v⟩ := p
    simp only [keys] at ih
    unfold put
    split
    next e => subst e; simp [keys]
    next =>
      split
      · simp [keys]
      · simp only [keys, List.map_cons, List.mem_cons, ih]
        constructor
        · rintro (h | h | h) <;> simp [h]
        · rintro (h | h | h) <;> simp [h]

end Keyed

/-! ## Lists without repetition -/

/-- The list without what occurred earlier in it. -/
def distinct : List String → List String
  | [] => []
  | x :: rest => x :: (distinct rest).filter (· ≠ x)

theorem mem_distinct {x : String} {xs : List String} : x ∈ distinct xs ↔ x ∈ xs := by
  induction xs with
  | nil => rfl
  | cons y rest ih =>
    unfold distinct
    rw [List.mem_cons, List.mem_cons, List.mem_filter, ih]
    by_cases h : x = y <;> simp [h]

/-- The list in increasing order of code points. -/
def sorted (xs : List String) : List String := xs.mergeSort (fun a b => decide (a ≤ b))

theorem mem_sorted {x : String} {xs : List String} : x ∈ sorted xs ↔ x ∈ xs :=
  List.mem_mergeSort

end RenderChain
