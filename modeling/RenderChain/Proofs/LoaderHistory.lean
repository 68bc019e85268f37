/-
  RenderChain/Proofs/LoaderHistory.lean
  =====================================
  **What a finished registry of loaders owes to the calls before it.**

  Each extension has a history of its own: the calls that were accepted for it change its
  chain one after the other, from the files below the root folders or from nothing
  (`chainAfter`).  An extension without a history gets the files when the registry is
  finished, if it is the extension of a file type or an engine, and an extension whose chain
  has been emptied is no key at all; it does not get the files back.

  What a path is answered then depends on the history of one extension only: of the longest
  one that is a key and that the path ends in (`LongestExtension`).
-/
import RenderChain.Proofs.Answers
import RenderChain.Proofs.PathKeys
import RenderChain.Proofs.ReplacedChain

namespace RenderChain

variable {σ : Type}

/-! ## Calls -/

/-- A call on a registry of loaders that is not finished. -/
inductive RegistryCall (σ : Type)
  | add (extension : String) (loader : Loader σ)
  | edit (extension : String) (change : List (Loader σ) → List (Loader σ))
  | setDefault (loader : Loader σ)

namespace RegistryCall

/-- What a call does to the chain of an extension, if it is accepted and is about it. -/
def changeOf (extension : String) :
    RegistryCall σ → Option (List (Loader σ) → List (Loader σ))
  | .add other loader =>
    if other = extension ∧ Extension.fault? other = none then some (· ++ [loader]) else none
  | .edit other change =>
    if other = extension ∧ Extension.fault? other = none then some change else none
  | .setDefault _ => none

def default? : RegistryCall σ → Option (Loader σ)
  | .setDefault loader => some loader
  | _ => none

end RegistryCall

/-- The chain that calls leave an extension with: what is made of the files below the roots, or
    of nothing, by one change after the other.  There is none if nothing was changed. -/
def chainAfter (roots : List String) (calls : List (RegistryCall σ)) (extension : String) :
    Option (List (Loader σ)) :=
  match calls.filterMap (RegistryCall.changeOf extension) with
  | [] => none
  | change :: later =>
    some ((change :: later).foldl (fun members change => change members)
      (if roots = [] then [] else [.folders roots (some extension)]))

/-- The loader for paths without a key: the last one that was set, or the files. -/
def defaultAfter (roots : List String) (calls : List (RegistryCall σ)) : Option (Loader σ) :=
  (calls.filterMap RegistryCall.default?).getLast?.or
    (if roots = [] then none else some (.folders roots none))

namespace LoaderRegistry

/-- The registry after a call; a call that is refused leaves it as it is. -/
def after (r : LoaderRegistry σ) : RegistryCall σ → LoaderRegistry σ
  | .add extension loader => (r.add extension loader).toOption.getD r
  | .edit extension change => (r.edit extension change).toOption.getD r
  | .setDefault loader => r.setDefault loader

section After

variable (r : LoaderRegistry σ) (call : RegistryCall σ) (calls : List (RegistryCall σ))
  (extension : String)

theorem edit_getD (change : List (Loader σ) → List (Loader σ)) :
    (r.edit extension change).toOption.getD r =
      if Extension.fault? extension = none then
        { r with chains := Keyed.put extension (change (r.chainOf extension)) r.chains }
      else r := by
  rw [edit_eq, Extension.check]
  cases Extension.fault? extension <;> rfl

theorem after_eq : r.after call = r ∨ (∃ loader, r.after call = r.setDefault loader) ∨
    ∃ (other : String) (members : List (Loader σ)), r.after call =
      { r with chains := Keyed.put other members r.chains } := by
  cases call with
  | setDefault loader => exact .inr (.inl ⟨loader, rfl⟩)
  | add other loader =>
    rw [after, add, edit_getD]
    split
    · exact .inr (.inr ⟨other, _, rfl⟩)
    · exact .inl rfl
  | edit other change =>
    rw [after, edit_getD]
    split
    · exact .inr (.inr ⟨other, _, rfl⟩)
    · exact .inl rfl

theorem roots_after : (r.after call).roots = r.roots := by
  rcases r.after_eq call with hsame | ⟨loader, hset⟩ | ⟨other, members, hput⟩
  · rw [hsame]
  · rw [hset]
    rfl
  · rw [hput]

theorem sorted_after (h : r.chains.Sorted) : (r.after call).chains.Sorted := by
  rcases r.after_eq call with hsame | ⟨loader, hset⟩ | ⟨other, members, hput⟩
  · rwa [hsame]
  · rw [hset]
    exact h
  · rw [hput]
    exact Keyed.sorted_put h other _

theorem default_after : (r.after call).default = call.default?.or r.default := by
  cases call with
  | setDefault loader => rfl
  | add other loader =>
    rw [after, add, edit_getD]
    split <;> rfl
  | edit other change =>
    rw [after, edit_getD]
    split <;> rfl

theorem find?_put_chain (other : String) (change : List (Loader σ) → List (Loader σ)) :
    Keyed.find? extension ((r.edit other change).toOption.getD r).chains =
      match (if other = extension ∧ Extension.fault? other = none then some change else none) with
      | some change => some (change (r.chainOf extension))
      | none => Keyed.find? extension r.chains := by
  rw [edit_getD]
  by_cases hfault : Extension.fault? other = none
  · rw [if_pos hfault, Keyed.find?_put]
    by_cases hother : other = extension
    · subst hother
      simp [hfault]
    · simp [hother, Ne.symm hother]
  · simp [hfault]

theorem find?_after : Keyed.find? extension (r.after call).chains =
    match call.changeOf extension with
    | some change => some (change (r.chainOf extension))
    | none => Keyed.find? extension r.chains := by
  cases call with
  | setDefault loader => rfl
  | add other loader => exact r.find?_put_chain extension other _
  | edit other change => exact r.find?_put_chain extension other change

theorem chainOf_after : (r.after call).chainOf extension =
    match call.changeOf extension with
    | some change => change (r.chainOf extension)
    | none => r.chainOf extension := by
  rw [chainOf, find?_after, roots_after]
  cases call.changeOf extension <;> rfl

/-! ### One call after the other -/

theorem roots_foldl_after : (calls.foldl after r).roots = r.roots := by
  induction calls generalizing r with
  | nil => rfl
  | cons call rest ih => rw [List.foldl_cons, ih, roots_after]

theorem sorted_foldl_after (h : r.chains.Sorted) : (calls.foldl after r).chains.Sorted := by
  induction calls generalizing r with
  | nil => exact h
  | cons call rest ih => exact ih _ (r.sorted_after call h)

theorem default_foldl_after : (calls.foldl after r).default =
    (calls.filterMap RegistryCall.default?).getLast?.or r.default := by
  induction calls generalizing r with
  | nil => rfl
  | cons call rest ih =>
    rw [List.foldl_cons, ih, default_after, List.filterMap_cons]
    cases call.default? with
    | none => rfl
    | some loader =>
      dsimp only
      rw [List.getLast?_cons]
      cases (rest.filterMap RegistryCall.default?).getLast? <;> rfl

/-- The calls for an extension change its chain, the others do not count. -/
theorem find?_foldl_after : Keyed.find? extension (calls.foldl after r).chains =
    match calls.filterMap (RegistryCall.changeOf extension) with
    | [] => Keyed.find? extension r.chains
    | change :: later =>
      some ((change :: later).foldl (fun members change => change members)
        (r.chainOf extension)) := by
  induction calls generalizing r with
  | nil => rfl
  | cons call rest ih =>
    rw [List.foldl_cons, ih, find?_after, chainOf_after, List.filterMap_cons]
    cases call.changeOf extension with
    | none => rfl
    | some change => cases rest.filterMap (RegistryCall.changeOf extension) <;> rfl

end After

theorem find?_calls (roots : List String) (calls : List (RegistryCall σ)) (extension : String) :
    Keyed.find? extension (calls.foldl after (empty roots)).chains =
      chainAfter roots calls extension := by
  have hstart : (empty roots : LoaderRegistry σ).chainOf extension =
      if roots = [] then [] else [.folders roots (some extension)] := by
    rw [chainOf, seed]
    cases roots <;> rfl
  rw [find?_foldl_after, chainAfter, hstart]
  cases calls.filterMap (RegistryCall.changeOf extension) <;> rfl

end LoaderRegistry

/-! ## The longest key of a path -/

/-- The longest known key that the path has as an extension. -/
structure LongestExtension (known : String → Bool) (path key : String) : Prop where
  isKey : known key = true
  atEnd : Path.HasExtension path key
  longest : ∀ other, known other = true → Path.HasExtension path other →
    other.length ≤ key.length

section Longest

variable {known : String → Bool} {path key : String}

theorem length_dotted_lt {run run' : List String} (hne : run' ≠ []) (h : run' <:+ run)
    (hlonger : run'.length < run.length) : (dotted run').length < (dotted run).length := by
  obtain ⟨front, rfl⟩ := h
  have hfront : front ≠ [] := by
    rintro rfl
    exact absurd hlonger (Nat.lt_irrefl _)
  have hperiod : (".").length = 1 := rfl
  rw [dotted_append hfront hne, String.length_append, String.length_append, hperiod]
  omega

theorem longestExtension_iff :
    LongestExtension known path key ↔
      ∃ run, LongestRun known (Suffixes.parse path).segments run ∧ key = dotted run := by
  constructor
  · intro h
    obtain ⟨run, hne, hrun, rfl⟩ := mem_candidates_iff.1 (mem_candidates_parse_iff.2 h.atEnd)
    refine ⟨run, ⟨hne, hrun, h.isKey, ?_⟩, rfl⟩
    intro other hother hatEnd hknown
    -- a longer run would be a longer key
    by_contra hlonger
    have hsuffix := List.suffix_of_suffix_length_le hrun hatEnd (Nat.le_of_not_le hlonger)
    have hpath := mem_candidates_parse_iff.1 (mem_candidates_iff.2 ⟨other, hother, hatEnd, rfl⟩)
    have hlength := length_dotted_lt hne hsuffix (Nat.lt_of_not_le hlonger)
    exact absurd (h.longest _ hknown hpath) (Nat.not_le_of_lt hlength)
  · rintro ⟨run, hrun, rfl⟩
    refine ⟨hrun.isKey, mem_candidates_parse_iff.1
      (mem_candidates_iff.2 ⟨run, hrun.ne_nil, hrun.atEnd, rfl⟩), ?_⟩
    intro other hknown hpath
    obtain ⟨run', hne, hatEnd, rfl⟩ := mem_candidates_iff.1 (mem_candidates_parse_iff.2 hpath)
    exact length_dotted_le (List.suffix_of_suffix_length_le hatEnd hrun.atEnd
      (hrun.longest run' hne hatEnd hknown))

theorem exists_match_iff :
    (∃ m, (Suffixes.parse path).resolve known = some m ∧ m.key = key) ↔
      LongestExtension known path key := by
  rw [longestExtension_iff]
  simp only [Suffixes.resolve, longestKey_eq_some_iff]
  constructor
  · rintro ⟨m, ⟨run, hrun, rfl⟩, rfl⟩
    exact ⟨run, hrun, rfl⟩
  · rintro ⟨run, hrun, rfl⟩
    exact ⟨_, ⟨run, hrun, rfl⟩, rfl⟩

theorem no_match_iff :
    (Suffixes.parse path).resolve known = none ↔
      ∀ key, known key = true → ¬ Path.HasExtension path key := by
  rw [Suffixes.resolve, longestKey_eq_none_iff, endsInKey_iff]
  simp only [mem_candidates_parse_iff, not_exists, not_and]
  constructor
  · intro h key hknown hpath
    exact h key hpath hknown
  · intro h key hpath hknown
    exact h key hknown hpath

end Longest

namespace LoaderIndex

variable {index : LoaderIndex σ} {path key : String} {l : Loader σ}

/-- What is resolved is a match and the loader of its key, or no match and the default one. -/
theorem resolve_eq_some_iff {s : Suffixes} {m : Option KeyMatch} :
    index.resolve s = some (l, m) ↔ s.resolve index.containsExtension = m ∧
      (match m with
        | some found => Keyed.find? found.key index.byExtension
        | none => index.default) = some l := by
  have hpair : ∀ (choice : Option (Loader σ)) (m' : Option KeyMatch),
      (choice.map fun l => (l, m')) = some (l, m) ↔ m' = m ∧ choice = some l := by
    intro choice m'
    cases choice <;> simp [and_comm]
  unfold resolve
  cases s.resolve index.containsExtension with
  | some found =>
    rw [hpair]
    apply and_congr_right
    rintro rfl
    rfl
  | none =>
    rw [hpair]
    apply and_congr_right
    rintro rfl
    rfl

theorem exists_resolve_iff :
    (∃ m, index.resolve (Suffixes.parse path) = some (l, some m) ∧ m.key = key) ↔
      LongestExtension index.containsExtension path key ∧
        Keyed.find? key index.byExtension = some l := by
  rw [← exists_match_iff]
  simp only [resolve_eq_some_iff]
  constructor
  · rintro ⟨m, ⟨hmatch, hl⟩, rfl⟩
    exact ⟨⟨m, hmatch, rfl⟩, hl⟩
  · rintro ⟨⟨m, hmatch, rfl⟩, hl⟩
    exact ⟨m, ⟨hmatch, hl⟩, rfl⟩

theorem resolve_default_iff :
    index.resolve (Suffixes.parse path) = some (l, none) ↔
      (∀ key, index.containsExtension key = true → ¬ Path.HasExtension path key) ∧
        index.default = some l := by
  rw [resolve_eq_some_iff, no_match_iff]

theorem resolve_eq_none_iff :
    index.resolve (Suffixes.parse path) = none ↔
      (∀ key, index.containsExtension key = true → ¬ Path.HasExtension path key) ∧
        index.default = none := by
  rw [← no_match_iff]
  constructor
  · intro hresolve
    cases hmatch : (Suffixes.parse path).resolve index.containsExtension with
    | some m =>
      -- a key that is known has a loader
      obtain ⟨run, hrun, rfl⟩ := longestKey_eq_some_iff.1 hmatch
      obtain ⟨l, hl⟩ := Option.isSome_iff_exists.1 hrun.isKey
      rw [resolve_of_key hmatch hl] at hresolve
      cases hresolve
    | none =>
      rw [resolve_of_no_key hmatch] at hresolve
      exact ⟨rfl, Option.map_eq_none_iff.1 hresolve⟩
  · rintro ⟨hnone, hdefault⟩
    rw [resolve_of_no_key hnone, hdefault]
    rfl

end LoaderIndex

/-! ## Growing chains -/

/-- A loader that is put in front of a chain or behind it. -/
inductive Growth (σ : Type)
  | front (loader : Loader σ)
  | back (loader : Loader σ)

namespace Growth

def change : Growth σ → List (Loader σ) → List (Loader σ)
  | .front loader => (loader :: ·)
  | .back loader => (· ++ [loader])

def front? : Growth σ → Option (Loader σ)
  | .front loader => some loader
  | .back _ => none

def back? : Growth σ → Option (Loader σ)
  | .front _ => none
  | .back loader => some loader

/-- What was in a chain stays together, behind what is put in front, the latest first, and in
    front of what is added. -/
theorem foldl_change (growths : List (Growth σ)) (members : List (Loader σ)) :
    (growths.map change).foldl (fun members change => change members) members =
      (growths.filterMap front?).reverse ++ members ++ growths.filterMap back? := by
  induction growths generalizing members with
  | nil => simp
  | cons growth rest ih =>
    rw [List.map_cons, List.foldl_cons, ih]
    cases growth <;> simp [change, front?, back?, List.filterMap_cons]

end Growth

theorem chainAfter_of_growths {roots : List String} {calls : List (RegistryCall σ)}
    {extension : String} (hroots : roots ≠ []) {growths : List (Growth σ)} (hsome : growths ≠ [])
    (h : calls.filterMap (RegistryCall.changeOf extension) = growths.map Growth.change) :
    chainAfter roots calls extension = some ((growths.filterMap Growth.front?).reverse ++
      .folders roots (some extension) :: growths.filterMap Growth.back?) := by
  obtain ⟨first, rest, rfl⟩ := List.exists_cons_of_ne_nil hsome
  have hchanges := Growth.foldl_change (first :: rest) [.folders roots (some extension)]
  rw [chainAfter, h, List.map_cons, if_neg hroots]
  dsimp only
  rw [← List.map_cons, hchanges, List.append_assoc]
  rfl

namespace LoaderRegistry

/-- The index of a registry that started with these roots, after these calls. -/
def indexAfter (roots : List String) (calls : List (RegistryCall σ)) (extensions : List String) :
    LoaderIndex σ :=
  (calls.foldl after (empty roots)).finalize extensions

section Index

variable (roots : List String) (calls : List (RegistryCall σ)) (extensions : List String)

theorem find?_indexAfter (extension : String) :
    Keyed.find? extension (indexAfter roots calls extensions).byExtension =
      match chainAfter roots calls extension with
      | some members => link members
      | none =>
        if roots ≠ [] ∧ extension ∈ extensions then some (.folders roots (some extension))
        else none := by
  rw [indexAfter, find?_finalize (sorted_foldl_after (empty roots) calls .nil), find?_calls,
    roots_foldl_after]
  rfl

theorem default_indexAfter :
    (indexAfter roots calls extensions).default = defaultAfter roots calls := by
  rw [indexAfter, finalize, default_foldl_after, roots_foldl_after, defaultAfter]
  cases roots <;> simp [empty]

theorem link_eq_none_iff {members : List (Loader σ)} : link members = none ↔ members = [] := by
  cases members with
  | nil => simp [link]
  | cons l rest => cases rest <;> simp [link]

theorem containsExtension_indexAfter_iff (extension : String) :
    (indexAfter roots calls extensions).containsExtension extension = true ↔
      (∃ members, members ≠ [] ∧ chainAfter roots calls extension = some members) ∨
      (roots ≠ [] ∧ extension ∈ extensions ∧ chainAfter roots calls extension = none) := by
  rw [LoaderIndex.containsExtension, find?_indexAfter, Option.isSome_iff_ne_none]
  cases chainAfter roots calls extension with
  | some members =>
    dsimp only
    rw [ne_eq, link_eq_none_iff]
    simp
  | none => simp

/-- **The index and the calls.**  The index knows the extensions whose own chain is not empty,
    and with roots those of the list that have no chain of their own.  A path has the loader of
    its longest key, else the default one: the last that was set, or the files.  The loader of a
    chain gives the first answer of the members that is not that there is no such template, and
    otherwise this answer.  In a chain that only grew, the files stand between what was put in
    front and what was added. -/
theorem index_exact :
    (∀ extension, (indexAfter roots calls extensions).containsExtension extension = true ↔
      (∃ members, members ≠ [] ∧ chainAfter roots calls extension = some members) ∨
      (roots ≠ [] ∧ extension ∈ extensions ∧ chainAfter roots calls extension = none)) ∧
    (∀ path l,
      (∀ key, (∃ m, (indexAfter roots calls extensions).resolve (Suffixes.parse path) =
          some (l, some m) ∧ m.key = key) ↔
        LongestExtension (indexAfter roots calls extensions).containsExtension path key ∧
          Keyed.find? key (indexAfter roots calls extensions).byExtension = some l) ∧
      ((indexAfter roots calls extensions).resolve (Suffixes.parse path) = some (l, none) ↔
        (∀ key, (indexAfter roots calls extensions).containsExtension key = true →
          ¬ Path.HasExtension path key) ∧ defaultAfter roots calls = some l)) ∧
    (∀ path, (indexAfter roots calls extensions).resolve (Suffixes.parse path) = none ↔
      (∀ key, (indexAfter roots calls extensions).containsExtension key = true →
        ¬ Path.HasExtension path key) ∧ defaultAfter roots calls = none) ∧
    (∀ extension members, chainAfter roots calls extension = some members → members ≠ [] →
      ∃ l, Keyed.find? extension (indexAfter roots calls extensions).byExtension = some l ∧
        ∀ path w,
          (∀ answer, Loader.FirstAnswer path w members answer ↔
            l.load path w = answer ∧ ¬ Loader.IsMissing answer) ∧
          ∀ w', Loader.AllFail path Error.isNotFound w members w' ↔
            ∃ e, e.isNotFound = true ∧ l.load path w = .error e w') ∧
    (∀ extension, roots ≠ [] → extension ∈ extensions → chainAfter roots calls extension = none →
      Keyed.find? extension (indexAfter roots calls extensions).byExtension =
        some (.folders roots (some extension))) ∧
    ∀ extension growths, roots ≠ [] → growths ≠ [] →
      calls.filterMap (RegistryCall.changeOf extension) = growths.map Growth.change →
      chainAfter roots calls extension = some ((growths.filterMap Growth.front?).reverse ++
        .folders roots (some extension) :: growths.filterMap Growth.back?) := by
  refine ⟨containsExtension_indexAfter_iff roots calls extensions, ?_, ?_, ?_, ?_, ?_⟩
  · intro path l
    rw [← default_indexAfter roots calls extensions]
    exact ⟨fun key => LoaderIndex.exists_resolve_iff, LoaderIndex.resolve_default_iff⟩
  · intro path
    rw [← default_indexAfter roots calls extensions]
    exact LoaderIndex.resolve_eq_none_iff
  · intro extension members hchain hsome
    obtain ⟨l, hlink⟩ := Option.ne_none_iff_exists'.1 (mt link_eq_none_iff.1 hsome)
    refine ⟨l, ?_, ?_⟩
    · rw [find?_indexAfter, hchain]
      exact hlink
    · intro path w
      exact ⟨fun answer => Loader.firstAnswer_iff_of_link hlink,
        fun w' => Loader.allFail_iff_of_link hlink⟩
  · intro extension hroots hextension hnone
    rw [find?_indexAfter, hnone]
    exact if_pos ⟨hroots, hextension⟩
  · intro extension growths hroots hsome h
    exact chainAfter_of_growths hroots hsome h

end Index

/-- A table is added for one extension and another one put in front; the chain of a second
    extension is emptied; and a key that is none is refused. -/
def edits : List (RegistryCall Unit) :=
  [.add "tpl" (.inline [("a.tpl", "x")]), .edit "tpl" (.inline [("b.tpl", "y")] :: ·),
    .edit "css" fun _ => [], .add ".css" (.inline [("a.css", "z")])]

theorem load_edits {l : Loader Unit}
    (h : ∀ answer, Loader.FirstAnswer "a.tpl" Loader.bare
        [.inline [("b.tpl", "y")], .folders ["t"] (some "tpl"), .inline [("a.tpl", "x")]] answer ↔
      l.load "a.tpl" Loader.bare = answer ∧ ¬ Loader.IsMissing answer) :
    l.load "a.tpl" Loader.bare = .ok (.inline "x") Loader.bare := by
  have hnone : Loader.bare.files.find? ["t"] "a.tpl" = none := by
    have hpath : Path.below "t" "a.tpl" = some "t/a.tpl" := by decide
    have hpieces : Text.split '/' "t/a.tpl" = ["t", "a.tpl"] := by decide
    simp +decide [Files.find?, hpath, Loader.bare, Files.empty, Files.isFile, Files.at?,
      Files.locate, Files.locateWith, hpieces, Files.follow, Files.entry?, List.lookup_cons]
  have hfirst : (Loader.inline [("b.tpl", "y")]).load "a.tpl" Loader.bare =
      .error (.templateNotFound "a.tpl") Loader.bare :=
    (Loader.load_eq_error_iff rfl).2 ⟨rfl, rfl, rfl⟩
  have hfiles : (Loader.folders ["t"] (some "tpl")).load "a.tpl" Loader.bare =
      .error (.templateNotFound "a.tpl") Loader.bare :=
    (Loader.load_eq_error_iff rfl).2 ⟨by rw [Loader.found, hnone]; rfl, rfl, rfl⟩
  have hlast : (Loader.inline [("a.tpl", "x")]).load "a.tpl" Loader.bare =
      .ok (.inline "x") Loader.bare :=
    (Loader.load_eq_ok_iff rfl).2 ⟨rfl, rfl⟩
  exact ((h _).1 (.later hfirst rfl (.later hfiles rfl (.here hlast id)))).1

/-- What is put in front is asked before the files, and what is added after them. -/
theorem index_exact_edits :
    chainAfter ["t"] edits "tpl" = some [.inline [("b.tpl", "y")], .folders ["t"] (some "tpl"),
      .inline [("a.tpl", "x")]] ∧
    (indexAfter ["t"] edits ["css", "txt"]).containsExtension "txt" = true ∧
    (indexAfter ["t"] edits ["css", "txt"]).containsExtension "css" = false ∧
    ∃ l, Keyed.find? "tpl" (indexAfter ["t"] edits ["css", "txt"]).byExtension = some l ∧
      l.load "a.tpl" Loader.bare = .ok (.inline "x") Loader.bare := by
  obtain ⟨hknown, -, -, hloads, -, hgrown⟩ := index_exact ["t"] edits ["css", "txt"]
  have hchain := hgrown "tpl"
    [.back (.inline [("a.tpl", "x")]), .front (.inline [("b.tpl", "y")])] (by decide) (by simp) rfl
  refine ⟨hchain, (hknown "txt").2 (.inr ⟨by decide, by decide, rfl⟩), ?_, ?_⟩
  · rw [Bool.eq_false_iff, ne_eq, hknown]
    rintro (⟨members, hsome, hcss⟩ | ⟨-, -, hcss⟩)
    · exact hsome (Option.some.inj hcss).symm
    · cases hcss
  · obtain ⟨l, hl, hanswers⟩ := hloads "tpl" _ hchain (by simp)
    exact ⟨l, hl, load_edits (hanswers "a.tpl" Loader.bare).1⟩

end LoaderRegistry

end RenderChain
