/-
  RenderChain/Proofs/Suffixes.lean
  ================================
  **What matching keys from the right finds.**

  `longestKey` and `chain` walk down a list of segments.  Here their results are
  described without the walk: a key is compared with the *runs* at the end of
  the segments, and a chain with the segments that its keys spell.

    * `longestKey_eq_some_iff`: the match is the longest run that is a key;
    * `longestKey_eq_none_iff`: there is no match iff no run is a key;
    * `chain_cuts`: the matches of a chain stand for blocks that are cut off from
      the right, each the longest key where it is cut off, and no other list of
      matches does;
    * `decomposition_chain`: so the segments are what is left, followed by the
      keys of the chain from the last to the first.

  Keys are texts and runs are lists.  The two views agree on segments without a
  period (`Dotless`), which the segments of a path are.
-/
import Mathlib.Data.List.Basic
import RenderChain.Suffixes

namespace RenderChain

/-! ## Segments of paths -/

/-- No segment holds a period. -/
def Dotless (segments : List String) : Prop := ∀ s ∈ segments, '.' ∉ s.toList

theorem Dotless.of_suffix {run segments : List String} (h : Dotless segments)
    (hrun : run <:+ segments) : Dotless run :=
  fun s hs => h s (hrun.subset hs)

theorem Dotless.before {segments : List String} (h : Dotless segments) (consumed : Nat) :
    Dotless (before segments consumed) :=
  fun s hs => h s (List.mem_of_mem_take hs)

theorem Suffixes.dotless_parse (path : String) : Dotless (Suffixes.parse path).segments := by
  intro s hs
  unfold Suffixes.parse at hs
  dsimp only at hs
  split at hs
  · cases hs
  next first rest _ =>
    split at hs
    · cases hs
    next tail _ =>
      obtain ⟨cs, hcs, rfl⟩ := List.mem_map.1 hs
      simpa using Text.not_mem_of_mem_pieces hcs

theorem split_dotted {run : List String} (hne : run ≠ []) (h : Dotless run) :
    Text.split '.' (dotted run) = run :=
  Text.split_join hne h

/-! ## Runs at the end -/

/-- Some run at the end of the segments is a key. -/
def EndsInKey (known : String → Bool) (segments : List String) : Prop :=
  ∃ run, run ≠ [] ∧ run <:+ segments ∧ known (dotted run) = true

/-- `run` is the longest run at the end of the segments that is a key. -/
structure LongestRun (known : String → Bool) (segments run : List String) : Prop where
  ne_nil : run ≠ []
  atEnd : run <:+ segments
  isKey : known (dotted run) = true
  longest : ∀ other, other ≠ [] → other <:+ segments → known (dotted other) = true →
    other.length ≤ run.length

variable {known : String → Bool}

theorem LongestRun.endsInKey {segments run : List String} (h : LongestRun known segments run) :
    EndsInKey known segments :=
  ⟨run, h.ne_nil, h.atEnd, h.isKey⟩

/-- There is only one longest run. -/
theorem LongestRun.unique {segments run run' : List String} (h : LongestRun known segments run)
    (h' : LongestRun known segments run') : run = run' := by
  have hle : run.length ≤ run'.length := h'.longest run h.ne_nil h.atEnd h.isKey
  have hge : run'.length ≤ run.length := h.longest run' h'.ne_nil h'.atEnd h'.isKey
  have hsuffix : run <:+ run' := List.suffix_of_suffix_length_le h.atEnd h'.atEnd hle
  exact hsuffix.eq_of_length_le hge

theorem longestKey_eq_none_iff {segments : List String} :
    longestKey known segments = none ↔ ¬ EndsInKey known segments := by
  induction segments with
  | nil =>
    simp only [longestKey, true_iff]
    rintro ⟨run, hne, hrun, _⟩
    exact hne (List.suffix_nil.1 hrun)
  | cons s rest ih =>
    unfold longestKey
    by_cases hk : known (dotted (s :: rest)) = true
    · simp only [hk, if_true, reduceCtorEq, false_iff, not_not]
      exact ⟨s :: rest, by simp, List.suffix_rfl, hk⟩
    · rw [if_neg hk, ih, not_iff_not]
      constructor
      · rintro ⟨run, hne, hrun, hknown⟩
        exact ⟨run, hne, hrun.trans (List.suffix_cons s rest), hknown⟩
      · rintro ⟨run, hne, hrun, hknown⟩
        rcases List.suffix_cons_iff.1 hrun with rfl | hrun
        · exact absurd hknown hk
        · exact ⟨run, hne, hrun, hknown⟩

/-- A match is the longest run that is a key, and covers as many segments as the run has. -/
theorem exists_longestRun {segments : List String} {m : KeyMatch}
    (h : longestKey known segments = some m) :
    ∃ run, LongestRun known segments run ∧ m = ⟨dotted run, run.length⟩ := by
  induction segments with
  | nil => simp [longestKey] at h
  | cons s rest ih =>
    unfold longestKey at h
    by_cases hk : known (dotted (s :: rest)) = true
    · rw [if_pos hk, Option.some.injEq] at h
      refine ⟨s :: rest, ⟨by simp, List.suffix_rfl, hk, ?_⟩, h.symm⟩
      intro other _ hother _
      exact hother.length_le
    · rw [if_neg hk] at h
      obtain ⟨run, hrun, hm⟩ := ih h
      refine ⟨run, ⟨hrun.ne_nil, hrun.atEnd.trans (List.suffix_cons s rest), hrun.isKey, ?_⟩, hm⟩
      intro other hne hother hknown
      rcases List.suffix_cons_iff.1 hother with rfl | hother
      · exact absurd hknown hk
      · exact hrun.longest other hne hother hknown

theorem longestKey_eq_some_iff {segments : List String} {m : KeyMatch} :
    longestKey known segments = some m ↔
      ∃ run, LongestRun known segments run ∧ m = ⟨dotted run, run.length⟩ := by
  constructor
  · exact exists_longestRun
  · rintro ⟨run, hrun, rfl⟩
    cases hfound : longestKey known segments with
    | none => exact absurd hrun.endsInKey (longestKey_eq_none_iff.1 hfound)
    | some m =>
      obtain ⟨run', hrun', rfl⟩ := exists_longestRun hfound
      rw [hrun.unique hrun']

instance (segments : List String) : Decidable (EndsInKey known segments) :=
  decidable_of_iff (longestKey known segments ≠ none)
    (by rw [ne_eq, longestKey_eq_none_iff, not_not])

theorem longestRun_iff {segments run : List String} :
    LongestRun known segments run ↔
      run <:+ segments ∧ longestKey known segments = some ⟨dotted run, run.length⟩ := by
  constructor
  · intro h
    exact ⟨h.atEnd, longestKey_eq_some_iff.2 ⟨run, h, rfl⟩⟩
  · rintro ⟨hrun, hfound⟩
    obtain ⟨run', hrun', hsame⟩ := exists_longestRun hfound
    have hlength : run.length = run'.length := congrArg KeyMatch.consumed hsame
    have hsuffix := List.suffix_of_suffix_length_le hrun hrun'.atEnd (Nat.le_of_eq hlength)
    rw [hsuffix.eq_of_length hlength]
    exact hrun'

instance (segments run : List String) : Decidable (LongestRun known segments run) :=
  decidable_of_iff _ longestRun_iff.symm

/-! ## Cutting off -/

theorem before_zero (segments : List String) : before segments 0 = segments := by
  simp [before]

theorem before_append_of_suffix {run segments : List String} (h : run <:+ segments) :
    before segments run.length ++ run = segments :=
  List.suffix_iff_eq_append.1 h

/-! ## Chains -/

theorem chain_of_none {segments : List String} (h : longestKey known segments = none) :
    chain known segments = [] := by
  rw [chain]
  split
  next => rfl
  next m hm => rw [h] at hm; cases hm

theorem chain_of_some {segments : List String} {m : KeyMatch}
    (h : longestKey known segments = some m) :
    chain known segments = m :: chain known (before segments m.consumed) := by
  rw [chain]
  split
  next hnone => rw [h] at hnone; cases hnone
  next m' hm =>
    rw [h, Option.some.injEq] at hm
    rw [hm]

theorem chain_eq_nil_iff {segments : List String} :
    chain known segments = [] ↔ ¬ EndsInKey known segments := by
  rw [← longestKey_eq_none_iff]
  cases h : longestKey known segments with
  | none => simp [chain_of_none h]
  | some m => simp [chain_of_some h]

theorem chain_of_longestRun {segments run : List String} (h : LongestRun known segments run) :
    chain known segments =
      ⟨dotted run, run.length⟩ :: chain known (before segments run.length) :=
  chain_of_some (longestKey_eq_some_iff.2 ⟨run, h, rfl⟩)

/-- The keys of a chain are known. -/
theorem isKey_of_mem_chain {segments : List String} {m : KeyMatch}
    (h : m ∈ chain known segments) : known m.key = true := by
  fun_induction chain known segments with
  | case1 segments hnone => cases h
  | case2 segments found hfound ih =>
    rcases List.mem_cons.1 h with rfl | hrest
    · obtain ⟨run, hrun, rfl⟩ := exists_longestRun hfound
      exact hrun.isKey
    · exact ih hrest

/-! ## Blocks -/

/-- How matches cut segments from the right: each match stands for a block, the first one
    for the last block, and `left` is not cut off. -/
structure Blocks (known : String → Bool) (segments : List String) (found : List KeyMatch)
    (blocks : List (List String)) (left : List String) : Prop where
  whole : segments = left ++ blocks.reverse.flatten
  found_eq : found = blocks.map fun block => ⟨dotted block, block.length⟩
  /-- Each block is the longest key at the end of what the blocks before it have not cut off. -/
  longest : ∀ earlier block later, blocks = earlier ++ block :: later →
    LongestRun known (left ++ (block :: later).reverse.flatten) block
  exhausted : ¬ EndsInKey known left

namespace Blocks

variable {segments left block : List String} {blocks : List (List String)} {found : List KeyMatch}

theorem nil (h : ¬ EndsInKey known segments) : Blocks known segments [] [] segments where
  whole := (List.append_nil segments).symm
  found_eq := rfl
  longest earlier block later hblocks := by simp at hblocks
  exhausted := h

/-- One block more, behind segments that are cut already. -/
theorem cons (hlongest : LongestRun known (segments ++ block) block)
    (h : Blocks known segments found blocks left) :
    Blocks known (segments ++ block) (⟨dotted block, block.length⟩ :: found) (block :: blocks)
      left where
  whole := by
    rw [h.whole]
    simp
  found_eq := by rw [h.found_eq, List.map_cons]
  longest earlier other later hblocks := by
    cases earlier with
    | nil =>
      obtain ⟨rfl, rfl⟩ := List.cons.inj hblocks
      rw [List.reverse_cons, List.flatten_append, List.flatten_singleton, ← List.append_assoc,
        ← h.whole]
      exact hlongest
    | cons _ earlier => exact h.longest earlier other later (List.cons.inj hblocks).2
  exhausted := h.exhausted

/-- The first block is the longest key at the end, and the others cut what is before it. -/
theorem uncons (h : Blocks known segments found (block :: blocks) left) :
    LongestRun known segments block ∧
      ∃ rest, found = ⟨dotted block, block.length⟩ :: rest ∧
        Blocks known (before segments block.length) rest blocks left := by
  have hwhole : segments = left ++ blocks.reverse.flatten ++ block := by
    rw [h.whole]
    simp
  have hlongest := h.longest [] block blocks rfl
  rw [← h.whole] at hlongest
  have hbefore : before segments block.length = left ++ blocks.reverse.flatten :=
    List.append_cancel_right ((before_append_of_suffix hlongest.atEnd).trans hwhole)
  refine ⟨hlongest, _, h.found_eq, hbefore, rfl, ?_, h.exhausted⟩
  intro earlier other later hblocks
  refine h.longest (block :: earlier) other later ?_
  rw [hblocks, List.cons_append]

/-- No other list of matches cuts the segments into blocks. -/
theorem eq_chain (h : Blocks known segments found blocks left) :
    found = chain known segments := by
  induction blocks generalizing segments found with
  | nil =>
    have hwhole : segments = left := by simpa using h.whole
    rw [h.found_eq, List.map_nil, chain_eq_nil_iff.2 (hwhole ▸ h.exhausted)]
  | cons block blocks ih =>
    obtain ⟨hlongest, rest, rfl, hrest⟩ := h.uncons
    rw [chain_of_longestRun hlongest, ih hrest]

theorem longestRun_of_mem (h : Blocks known segments found blocks left) (hblock : block ∈ blocks) :
    ∃ front, LongestRun known front block := by
  obtain ⟨earlier, later, hblocks⟩ := List.append_of_mem hblock
  exact ⟨_, h.longest earlier block later hblocks⟩

theorem consumed_pos (h : Blocks known segments found blocks left) {m : KeyMatch}
    (hm : m ∈ found) : 0 < m.consumed := by
  rw [h.found_eq] at hm
  obtain ⟨block, hblock, rfl⟩ := List.mem_map.1 hm
  obtain ⟨front, hlongest⟩ := h.longestRun_of_mem hblock
  exact List.length_pos_iff.2 hlongest.ne_nil

/-- The matches cover the blocks, and nothing of what is left. -/
theorem length_eq (h : Blocks known segments found blocks left) :
    segments.length = left.length + consumedBy found := by
  have hcovered : ∀ blocks : List (List String),
      consumedBy (blocks.map fun block => ⟨dotted block, block.length⟩) =
        blocks.reverse.flatten.length := by
    intro blocks
    induction blocks with
    | nil => rfl
    | cons block blocks ih =>
      rw [List.map_cons, consumedBy, ih]
      simp [Nat.add_comm]
  rw [h.found_eq, hcovered, ← List.length_append, ← h.whole]

theorem left_eq (h : Blocks known segments found blocks left) :
    left = before segments (consumedBy found) := by
  have hlength := h.length_eq
  unfold before
  rw [hlength, Nat.add_sub_cancel, h.whole, List.take_left]

end Blocks

theorem exists_blocks (known : String → Bool) (segments : List String) :
    ∃ blocks left, Blocks known segments (chain known segments) blocks left := by
  fun_induction chain known segments with
  | case1 segments hnone => exact ⟨[], segments, .nil (longestKey_eq_none_iff.1 hnone)⟩
  | case2 segments m hm ih =>
    obtain ⟨run, hrun, rfl⟩ := exists_longestRun hm
    obtain ⟨blocks, left, hblocks⟩ := ih
    have hwhole := before_append_of_suffix hrun.atEnd
    have hlongest : LongestRun known (before segments run.length ++ run) run := by
      rw [hwhole]
      exact hrun
    have hcons := hblocks.cons hlongest
    rw [hwhole] at hcons
    exact ⟨run :: blocks, left, hcons⟩

theorem consumedBy_chain_le (known : String → Bool) (segments : List String) :
    consumedBy (chain known segments) ≤ segments.length := by
  obtain ⟨blocks, left, h⟩ := exists_blocks known segments
  rw [h.length_eq]
  exact Nat.le_add_left _ _

/-- **A chain cuts segments from the right, and nothing else does.**  Whatever the segments
    and the keys, there is a chain; its matches stand for blocks that are not empty and do
    not cover more segments than there are, each the longest key where it is cut off, until
    no key is at the end; and a list of matches that stands for such blocks is the chain. -/
theorem chain_cuts (known : String → Bool) (segments : List String) :
    (∃ blocks, Blocks known segments (chain known segments) blocks
      (before segments (consumedBy (chain known segments)))) ∧
    (∀ m ∈ chain known segments, 0 < m.consumed) ∧
    consumedBy (chain known segments) ≤ segments.length ∧
    ∀ found blocks left, Blocks known segments found blocks left →
      found = chain known segments := by
  obtain ⟨blocks, left, h⟩ := exists_blocks known segments
  exact ⟨⟨blocks, h.left_eq ▸ h⟩, fun m => h.consumed_pos, consumedBy_chain_le known segments,
    fun _ _ _ => Blocks.eq_chain⟩

/-- The longer of two keys is cut off, and the chain goes on in front of it. -/
theorem chain_cuts_css :
    chain ["css", "min.css", "tpl"].contains ["a", "min", "css", "tpl"] =
      [⟨"tpl", 1⟩, ⟨"min.css", 2⟩] := by
  have hnone : Blocks ["css", "min.css", "tpl"].contains ["a"] [] [] ["a"] := .nil (by decide)
  have hcss : LongestRun ["css", "min.css", "tpl"].contains (["a"] ++ ["min", "css"])
      ["min", "css"] := by decide
  have htpl : LongestRun ["css", "min.css", "tpl"].contains
      (["a"] ++ ["min", "css"] ++ ["tpl"]) ["tpl"] := by decide
  exact ((chain_cuts _ _).2.2.2 _ _ _ ((hnone.cons hcss).cons htpl)).symm

/-! ## Keys that spell segments -/

/-- What keys spell when the first of them stands last. -/
def spelled : List String → List String
  | [] => []
  | key :: rest => spelled rest ++ Text.split '.' key

/-- How keys take segments apart, the first key from the end. -/
structure Decomposition (known : String → Bool) (segments keys left : List String) : Prop where
  spells : segments = left ++ spelled keys
  /-- Each key is the longest at the end of what the keys before it have not taken. -/
  greedy : ∀ taken key rest, keys = taken ++ key :: rest →
    LongestRun known (left ++ spelled (key :: rest)) (Text.split '.' key)
  exhausted : ¬ EndsInKey known left

theorem spelled_map_dotted {blocks : List (List String)}
    (h : ∀ block ∈ blocks, Text.split '.' (dotted block) = block) :
    spelled (blocks.map dotted) = blocks.reverse.flatten := by
  induction blocks with
  | nil => rfl
  | cons block blocks ih =>
    obtain ⟨hblock, hblocks⟩ := List.forall_mem_cons.1 h
    rw [List.map_cons, spelled, hblock, ih hblocks]
    simp

/-- Blocks of segments without periods are spelled by the keys that they are. -/
theorem Blocks.decomposition {segments left : List String} {blocks : List (List String)}
    {found : List KeyMatch} (h : Blocks known segments found blocks left)
    (hdot : Dotless segments) : Decomposition known segments (found.map (·.key)) left := by
  have hsplit : ∀ block ∈ blocks, Text.split '.' (dotted block) = block := by
    intro block hblock
    obtain ⟨front, hlongest⟩ := h.longestRun_of_mem hblock
    refine split_dotted hlongest.ne_nil fun s hs => hdot s ?_
    rw [h.whole]
    exact List.mem_append_right _
      (List.mem_flatten.2 ⟨block, List.mem_reverse.2 hblock, hs⟩)
  have hkeys : found.map (·.key) = blocks.map dotted := by
    rw [h.found_eq, List.map_map]
    rfl
  rw [hkeys]
  refine ⟨by rw [spelled_map_dotted hsplit]; exact h.whole, ?_, h.exhausted⟩
  intro taken key rest hrest
  obtain ⟨earlier, others, rfl, -, hothers⟩ := List.map_eq_append_iff.1 hrest
  obtain ⟨block, later, rfl, rfl, rfl⟩ := List.map_eq_cons_iff.1 hothers
  have hlater : ∀ other ∈ block :: later, Text.split '.' (dotted other) = other :=
    fun other hother => hsplit other (List.mem_append_right _ hother)
  rw [← List.map_cons, spelled_map_dotted hlater, hlater block List.mem_cons_self]
  exact h.longest earlier block later rfl

/-- The matches cover no more segments than there are, and their keys take the
    segments apart. -/
theorem decomposition_chain (known : String → Bool) {segments : List String}
    (h : Dotless segments) :
    consumedBy (chain known segments) ≤ segments.length ∧
      Decomposition known segments ((chain known segments).map (·.key))
        (before segments (consumedBy (chain known segments))) := by
  obtain ⟨blocks, left, hblocks⟩ := exists_blocks known segments
  exact ⟨consumedBy_chain_le known segments, hblocks.left_eq ▸ hblocks.decomposition h⟩

end RenderChain
