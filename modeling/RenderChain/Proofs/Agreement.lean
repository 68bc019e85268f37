/-
  RenderChain/Proofs/Agreement.lean
  =================================
  **Runs that cannot be told apart.**

  Two computations agree if from related states they come to related results:
  both succeed or both fail with the same error, and the states are related
  again.  Agreement is proved along the monad, so a computation agrees with
  another one if its parts do.

  Mostly the related states are any two of which an invariant holds.  What agrees
  with itself there is *steady*: wherever it is run it gives the same result,
  although it may change the state, for instance to keep what it has found.

    * `Agree.bind`, `Agree.foldlM`: agreement of sequences;
    * `Agree.seen_eq`: what agrees cannot be told apart by its result;
    * `Loader.steady_load`, `Loader.steady_hash`, `Loader.steady_paths`: while the
      files stay as they are, a loader is as steady as the caller's own loaders
      in it.
-/
import RenderChain.Loader.Registry
import RenderChain.Proofs.Action

namespace RenderChain

/-! ## Agreement -/

section Agreement

variable {ε τ τ' α β : Type} {S : τ → τ' → Prop} {R : α → α → Prop} {Q : β → β → Prop}

/-- What a caller sees of a result: all but the state. -/
def seen : EStateM.Result ε τ α → Except ε α
  | .ok a _ => .ok a
  | .error e _ => .error e

def stateOf : EStateM.Result ε τ α → τ
  | .ok _ s => s
  | .error _ s => s

/-- Two successes, or two failures with one error. -/
inductive Agreed (S : τ → τ' → Prop) (R : α → α → Prop) :
    EStateM.Result ε τ α → EStateM.Result ε τ' α → Prop
  | ok {a b : α} {s : τ} {t : τ'} (hr : R a b) (hs : S s t) : Agreed S R (.ok a s) (.ok b t)
  | error {e : ε} {s : τ} {t : τ'} (hs : S s t) : Agreed S R (.error e s) (.error e t)

/-- From related states the computations come to results that agree. -/
def Agree (S : τ → τ' → Prop) (R : α → α → Prop) (x : EStateM ε τ α) (y : EStateM ε τ' α) :
    Prop :=
  ∀ s t, S s t → Agreed S R (x s) (y t)

theorem Agreed.seen_eq {x : EStateM.Result ε τ α} {y : EStateM.Result ε τ' α}
    (h : Agreed S Eq x y) : seen x = seen y ∧ S (stateOf x) (stateOf y) := by
  cases h with
  | ok hr hs => exact ⟨congrArg Except.ok hr, hs⟩
  | error hs => exact ⟨rfl, hs⟩

/-- Two results that agree with a third agree with each other. -/
theorem Agreed.join {x y : EStateM.Result ε τ α} {z : EStateM.Result ε τ' α}
    {S' : τ → τ → Prop} (hx : Agreed S R x z) (hy : Agreed S R y z)
    (hR : ∀ a b c, R a c → R b c → R a b) (hS : ∀ s t u, S s u → S t u → S' s t) :
    Agreed S' R x y := by
  cases hx with
  | ok hr hs =>
    cases hy with
    | ok hr' hs' => exact .ok (hR _ _ _ hr hr') (hS _ _ _ hs hs')
  | error hs =>
    cases hy with
    | error hs' => exact .error (hS _ _ _ hs hs')

namespace Agree

variable {x : EStateM ε τ α} {y : EStateM ε τ' α}

theorem seen_eq (h : Agree S Eq x y) {s : τ} {t : τ'} (hs : S s t) :
    seen (x s) = seen (y t) ∧ S (stateOf (x s)) (stateOf (y t)) :=
  (h s t hs).seen_eq

theorem pure {a b : α} (h : R a b) :
    Agree S R (Pure.pure a : EStateM ε τ α) (Pure.pure b : EStateM ε τ' α) :=
  fun _ _ hs => .ok h hs

theorem throw (e : ε) :
    Agree S R (MonadExcept.throw e : EStateM ε τ α) (MonadExcept.throw e : EStateM ε τ' α) :=
  fun _ _ hs => .error hs

theorem bind {f : α → EStateM ε τ β} {g : α → EStateM ε τ' β} (hx : Agree S R x y)
    (hf : ∀ a b, R a b → Agree S Q (f a) (g b)) : Agree S Q (x >>= f) (y >>= g) := by
  intro s t hs
  have hxy := hx s t hs
  show Agreed S Q (EStateM.bind x f s) (EStateM.bind y g t)
  unfold EStateM.bind
  generalize x s = r at hxy ⊢
  generalize y t = r' at hxy ⊢
  cases hxy with
  | ok hr hs₁ => exact hf _ _ hr _ _ hs₁
  | error hs₁ => exact .error hs₁

/-- Sequences whose first parts give the same value. -/
theorem bind_eq {f : α → EStateM ε τ β} {g : α → EStateM ε τ' β} (hx : Agree S Eq x y)
    (hf : ∀ a, Agree S Q (f a) (g a)) : Agree S Q (x >>= f) (y >>= g) := by
  refine hx.bind ?_
  rintro a _ rfl
  exact hf a

theorem foldlM {γ : Type} {f : β → γ → EStateM ε τ β} {g : β → γ → EStateM ε τ' β}
    {items : List γ} (h : ∀ b, ∀ item ∈ items, Agree S Eq (f b item) (g b item)) (b : β) :
    Agree S Eq (items.foldlM f b) (items.foldlM g b) := by
  induction items generalizing b with
  | nil => exact .pure rfl
  | cons item rest ih =>
    rw [List.foldlM_cons, List.foldlM_cons]
    refine (h b item List.mem_cons_self).bind_eq ?_
    intro b'
    exact ih (fun b later hlater => h b later (List.mem_cons_of_mem _ hlater)) b'

end Agree

/-! ### Steady computations -/

/-- Any two states of which the invariant holds. -/
def Both (inv : τ → Prop) (s t : τ) : Prop := inv s ∧ inv t

/-- A computation whose result is the same in all states of the invariant. -/
def Steady (inv : τ → Prop) (x : EStateM ε τ α) : Prop := Agree (Both inv) Eq x x

theorem Agreed.symm {inv : τ → Prop} {x y : EStateM.Result ε τ α}
    (h : Agreed (Both inv) Eq x y) : Agreed (Both inv) Eq y x := by
  cases h with
  | ok hr hs => exact .ok hr.symm hs.symm
  | error hs => exact .error hs.symm

theorem Agree.symm {inv : τ → Prop} {x y : EStateM ε τ α} (h : Agree (Both inv) Eq x y) :
    Agree (Both inv) Eq y x :=
  fun s t hs => (h t s hs.symm).symm

theorem Agree.trans {inv : τ → Prop} {x y z : EStateM ε τ α} (h : Agree (Both inv) Eq x y)
    (h' : Agree (Both inv) Eq y z) : Agree (Both inv) Eq x z := by
  rintro s t ⟨hs, ht⟩
  refine (h s t ⟨hs, ht⟩).join (h'.symm t t ⟨ht, ht⟩) ?_ ?_
  · rintro a b c rfl rfl
    rfl
  · rintro s t u ⟨hs, -⟩ ⟨ht, -⟩
    exact ⟨hs, ht⟩

end Agreement

/-! ## Files -/

variable {σ : Type} {inv : World σ → Prop}

theorem Steady.orIfNotFound {α : Type} {first second : Action σ α} (hfirst : Steady inv first)
    (hsecond : Steady inv second) : Steady inv (first.orIfNotFound second) := by
  intro w w' hw
  have h := hfirst w w' hw
  unfold Action.orIfNotFound
  generalize first w = r at h ⊢
  generalize first w' = r' at h ⊢
  cases h with
  | ok hr hs => exact .ok hr hs
  | @error e w₁ w₁' hs =>
    dsimp only
    split
    · exact hsecond w₁ w₁' hs
    · exact .error hs

theorem Steady.ofExcept {α : Type} (result : Except Error α) :
    Steady inv (Action.ofExcept result) := by
  cases result with
  | ok a => exact .pure rfl
  | error e => exact .throw e

/-- In all states of the invariant the files are the same. -/
def FixesFiles (inv : World σ → Prop) : Prop := ∀ w w', inv w → inv w' → w.files = w'.files

namespace FixesFiles

variable (h : FixesFiles inv)

include h

theorem files : Steady inv (Action.files : Action σ Files) :=
  fun w w' hw => .ok (h w w' hw.1 hw.2) hw

theorem readText (path : String) : Steady inv (Action.readText path) := by
  refine h.files.bind_eq ?_
  intro fs
  cases fs.readText path with
  | ok text => exact .pure rfl
  | error fault => exact .throw _

theorem readBytes (path : String) : Steady inv (Action.readBytes path) := by
  refine h.files.bind_eq ?_
  intro fs
  cases fs.readBytes path with
  | ok bytes => exact .pure rfl
  | error fault => exact .throw _

theorem read (loaded : Loaded) : Steady inv loaded.read := by
  cases loaded with
  | inline content => exact .pure rfl
  | file path => exact h.readText path

theorem bytes (loaded : Loaded) : Steady inv loaded.bytes := by
  cases loaded with
  | inline content => exact .pure rfl
  | file path => exact (h.readBytes path).bind_eq fun bytes => .pure rfl

theorem hashOf {load : String → Action σ Loaded} {path : String}
    (hload : Steady inv (load path)) : Steady inv (hashOf load path) := by
  refine hload.bind_eq ?_
  intro loaded
  exact (h.bytes loaded).bind_eq fun bytes => .pure rfl

end FixesFiles

/-! ## Loaders -/

/-- A loader of the caller's that loads, lists and hashes the same at any time. -/
structure CustomLoader.IsSteady (inv : World σ → Prop) (own : CustomLoader σ) : Prop where
  load : ∀ path, Steady inv (own.load path)
  paths : ∀ w w', inv w → inv w' → own.paths w = own.paths w'
  hash : ∀ path, Steady inv (own.hash path)

namespace Loader

mutual

/-- The caller's own loaders in a loader. -/
def customs : Loader σ → List (CustomLoader σ)
  | .inline _ => []
  | .folders _ _ => []
  | .chain members => customsOfAll members
  | .custom own => [own]

def customsOfAll : List (Loader σ) → List (CustomLoader σ)
  | [] => []
  | l :: rest => l.customs ++ customsOfAll rest

end

mutual

theorem steady_load (hfiles : FixesFiles inv) : (l : Loader σ) →
    (∀ own ∈ l.customs, own.IsSteady inv) → (path : String) → Steady inv (l.load path)
  | .inline templates, _, path => by
    unfold load
    cases Keyed.find? path templates with
    | some content => exact .pure rfl
    | none => exact .throw _
  | .folders roots extension, _, path => by
    unfold load
    refine hfiles.files.bind_eq ?_
    intro fs
    cases fs.find? roots path with
    | some full => exact .pure rfl
    | none => exact .throw _
  | .chain members, h, path => by
    unfold load
    exact steady_loadFirst hfiles members h path
  | .custom own, h, path => by
    unfold load
    exact (h own (List.mem_singleton.2 rfl)).load path

theorem steady_loadFirst (hfiles : FixesFiles inv) : (members : List (Loader σ)) →
    (∀ own ∈ customsOfAll members, own.IsSteady inv) → (path : String) →
    Steady inv (loadFirst path members)
  | [], _, path => by
    unfold loadFirst
    exact .throw _
  | l :: rest, h, path => by
    unfold loadFirst
    refine .orIfNotFound (steady_load hfiles l ?_ path) (steady_loadFirst hfiles rest ?_ path)
    · exact fun own hown => h own (List.mem_append_left _ hown)
    · exact fun own hown => h own (List.mem_append_right _ hown)

end

mutual

theorem steady_hash (hfiles : FixesFiles inv) : (l : Loader σ) →
    (∀ own ∈ l.customs, own.IsSteady inv) → (path : String) → Steady inv (l.hash path)
  | .inline templates, h, path => by
    unfold hash
    exact hfiles.hashOf (steady_load hfiles (.inline templates) h path)
  | .folders roots extension, h, path => by
    unfold hash
    exact hfiles.hashOf (steady_load hfiles (.folders roots extension) h path)
  | .chain members, h, path => by
    unfold hash
    exact steady_hashFirst hfiles members h path
  | .custom own, h, path => by
    unfold hash
    exact (h own (List.mem_singleton.2 rfl)).hash path

theorem steady_hashFirst (hfiles : FixesFiles inv) : (members : List (Loader σ)) →
    (∀ own ∈ customsOfAll members, own.IsSteady inv) → (path : String) →
    Steady inv (hashFirst path members)
  | [], _, path => by
    unfold hashFirst
    exact .throw _
  | l :: rest, h, path => by
    unfold hashFirst
    refine .orIfNotFound (steady_hash hfiles l ?_ path) (steady_hashFirst hfiles rest ?_ path)
    · exact fun own hown => h own (List.mem_append_left _ hown)
    · exact fun own hown => h own (List.mem_append_right _ hown)

end

mutual

theorem steady_paths (hfiles : FixesFiles inv) {w w' : World σ} (hw : inv w)
    (hw' : inv w') : (l : Loader σ) →
    (∀ own ∈ l.customs, own.IsSteady inv) → l.paths w = l.paths w'
  | .inline templates, _ => by
    unfold paths
    rfl
  | .folders roots extension, _ => by
    unfold paths
    rw [hfiles w w' hw hw']
  | .chain members, h => by
    unfold paths
    rw [steady_pathsOfAll hfiles hw hw' members h]
  | .custom own, h => by
    unfold paths
    exact (h own (List.mem_singleton.2 rfl)).paths w w' hw hw'

theorem steady_pathsOfAll (hfiles : FixesFiles inv) {w w' : World σ} (hw : inv w)
    (hw' : inv w') : (members : List (Loader σ)) →
    (∀ own ∈ customsOfAll members, own.IsSteady inv) →
    pathsOfAll w members = pathsOfAll w' members
  | [], _ => by
    unfold pathsOfAll
    rfl
  | l :: rest, h => by
    unfold pathsOfAll
    rw [steady_paths hfiles hw hw' l fun own hown => h own (List.mem_append_left _ hown),
      steady_pathsOfAll hfiles hw hw' rest fun own hown => h own (List.mem_append_right _ hown)]

end

end Loader

namespace LoaderIndex

/-- The loaders of an index. -/
def all (index : LoaderIndex σ) : List (Loader σ) :=
  index.byExtension.map Prod.snd ++ index.default.toList

theorem mem_all_of_resolve {index : LoaderIndex σ} {s : Suffixes} {l : Loader σ}
    {found : Option KeyMatch} (h : index.resolve s = some (l, found)) : l ∈ index.all := by
  unfold resolve at h
  unfold all
  split at h
  next m _ =>
    obtain ⟨l', hfind, hequal⟩ := Option.map_eq_some_iff.1 h
    obtain ⟨rfl, -⟩ := Prod.mk.inj hequal
    exact List.mem_append_left _ (List.mem_map.2 ⟨_, Keyed.mem_of_find? hfind, rfl⟩)
  next =>
    obtain ⟨l', hdefault, hequal⟩ := Option.map_eq_some_iff.1 h
    obtain ⟨rfl, -⟩ := Prod.mk.inj hequal
    rw [hdefault]
    exact List.mem_append_right _ (List.mem_singleton.2 rfl)

/-- The index lists the same paths at any time. -/
theorem steady_paths (hfiles : FixesFiles inv) {index : LoaderIndex σ}
    (h : ∀ l ∈ index.all, ∀ own ∈ l.customs, own.IsSteady inv) {w w' : World σ}
    (hw : inv w) (hw' : inv w') : index.paths w = index.paths w' := by
  have hall : index.all.map (Loader.paths w) = index.all.map (Loader.paths w') :=
    List.map_congr_left fun l hl => Loader.steady_paths hfiles hw hw' l (h l hl)
  show distinct (index.all.map (Loader.paths w)).flatten = distinct (index.all.map _).flatten
  rw [hall]

end LoaderIndex

end RenderChain
