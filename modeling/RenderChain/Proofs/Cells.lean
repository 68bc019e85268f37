/-
  RenderChain/Proofs/Cells.lean
  =============================
  **Each renderer is built once.**

  An engine index is asked for renderers in any order, and between two requests
  the world may change in any way, so that an engine may fail at one request and
  succeed at the next.  Requests that name the same engine and the same mime
  type, the engine under whichever of its extensions, are for the same renderer.

    * `cells_eq_iff`: extensions share their cells exactly if they share their
      engine;
    * `stored_cellsAfter_iff`: after any requests a cell holds what a request
      for it was answered with;
    * `renderer_built_once`: what the next request is answered with, and what
      that depends on.
-/
import Mathlib.Data.List.Forall2
import Mathlib.Data.List.Induction
import Mathlib.Data.List.Nodup
import RenderChain.Proofs.Resolution

namespace RenderChain

variable {σ : Type}

namespace EngineIndex

/-! ## Sets of cells -/

theorem slotsFrom_engines (known : List EngineId) (engines : List (String × Engine σ)) :
    (slotsFrom known engines).map (fun p => (p.1, p.2.engine)) = engines := by
  induction engines generalizing known with
  | nil => rfl
  | cons p rest ih =>
    obtain ⟨extension, engine⟩ := p
    unfold slotsFrom
    cases known.idxOf? engine.id with
    | some number => rw [List.map_cons, ih]
    | none => rw [List.map_cons, ih]

/-- All sets of cells have their numbers in one list of engines without repetition. -/
theorem exists_numbering {known : List EngineId} (hknown : known.Nodup)
    (engines : List (String × Engine σ)) :
    ∃ all : List EngineId, all.Nodup ∧ known <+: all ∧
      ∀ p ∈ slotsFrom known engines, all[p.2.cells]? = some p.2.engine.id := by
  induction engines generalizing known with
  | nil => exact ⟨known, hknown, List.prefix_rfl, fun p hp => absurd hp List.not_mem_nil⟩
  | cons p rest ih =>
    obtain ⟨extension, engine⟩ := p
    unfold slotsFrom
    cases hfound : known.idxOf? engine.id with
    | some number =>
      obtain ⟨all, hall, ⟨later, rfl⟩, hrest⟩ := ih hknown
      refine ⟨_, hall, List.prefix_append known later, ?_⟩
      intro p hp
      rcases List.mem_cons.1 hp with rfl | hp
      · obtain ⟨hlt, hget, -⟩ := List.idxOf?_eq_some_iff.1 hfound
        rw [List.getElem?_append_left hlt, List.getElem?_eq_getElem hlt, hget]
      · exact hrest p hp
    | none =>
      have hnew : (known ++ [engine.id]).Nodup := by
        rw [← List.concat_eq_append]
        exact hknown.concat (List.idxOf?_eq_none_iff.1 hfound)
      obtain ⟨all, hall, ⟨later, rfl⟩, hrest⟩ := ih hnew
      refine ⟨_, hall, ⟨[engine.id] ++ later, by rw [List.append_assoc]⟩, ?_⟩
      intro p hp
      rcases List.mem_cons.1 hp with rfl | hp
      · simp
      · exact hrest p hp

section Finalize

variable {r : EngineRegistry σ} {mimetypes : List String} {extension : String}

theorem nodup_slotsFrom (known : List EngineId) (r : EngineRegistry σ) :
    ((slotsFrom known r.engines).map Prod.fst).Nodup := by
  have h := r.nodup
  rw [← slotsFrom_engines known r.engines, List.map_map] at h
  exact h

theorem find?_slots_iff {slot : EngineSlot σ} :
    Keyed.find? extension (r.finalize mimetypes).slots = some slot ↔
      (extension, slot) ∈ slotsFrom [] r.engines :=
  Keyed.find?_ofList_eq_some_iff (nodup_slotsFrom [] r)

theorem mem_engines {slot : EngineSlot σ}
    (h : Keyed.find? extension (r.finalize mimetypes).slots = some slot) :
    (extension, slot.engine) ∈ r.engines := by
  rw [← slotsFrom_engines [] r.engines]
  exact List.mem_map.2 ⟨_, find?_slots_iff.1 h, rfl⟩

theorem exists_slot {engine : Engine σ} (h : (extension, engine) ∈ r.engines)
    (mimetypes : List String) :
    ∃ slot, Keyed.find? extension (r.finalize mimetypes).slots = some slot ∧
      slot.engine = engine := by
  rw [← slotsFrom_engines [] r.engines] at h
  obtain ⟨⟨_, slot⟩, hslot, hequal⟩ := List.mem_map.1 h
  obtain ⟨rfl, rfl⟩ := Prod.mk.inj hequal
  exact ⟨slot, find?_slots_iff.2 hslot, rfl⟩

/-- Extensions share their cells exactly if they share their engine. -/
theorem cells_eq_iff {other : String} {slot slot' : EngineSlot σ}
    (h : Keyed.find? extension (r.finalize mimetypes).slots = some slot)
    (h' : Keyed.find? other (r.finalize mimetypes).slots = some slot') :
    slot.cells = slot'.cells ↔ slot.engine.id = slot'.engine.id := by
  obtain ⟨all, hall, -, hnumbers⟩ := exists_numbering .nil r.engines
  have hslot := hnumbers _ (find?_slots_iff.1 h)
  have hslot' := hnumbers _ (find?_slots_iff.1 h')
  have hlt : slot.cells < all.length := (List.getElem?_eq_some_iff.1 hslot).1
  rw [← List.getElem?_inj hlt hall]
  dsimp only at hslot hslot'
  rw [hslot, hslot', Option.some.injEq]

end Finalize

end EngineIndex

/-! ## Requests -/

theorem Call.inCell_of_some {cell : Nat × String} {s : Session σ} {renderer : Renderer σ}
    (h : s.cells.lookup cell = some renderer) (create : Action σ (Renderer σ)) :
    inCell cell create s = .ok renderer s := by
  unfold inCell
  rw [h]

theorem Call.inCell_of_ok {cell : Nat × String} {s : Session σ} {renderer : Renderer σ}
    {w : World σ} {create : Action σ (Renderer σ)} (h : s.cells.lookup cell = none)
    (hcreate : create s.world = .ok renderer w) :
    inCell cell create s = .ok renderer ⟨(cell, renderer) :: s.cells, w⟩ := by
  unfold inCell
  rw [h, hcreate]

theorem Call.inCell_of_error {cell : Nat × String} {s : Session σ} {e : Error}
    {w : World σ} {create : Action σ (Renderer σ)} (h : s.cells.lookup cell = none)
    (hcreate : create s.world = .error e w) :
    inCell cell create s = .error e ⟨s.cells, w⟩ := by
  unfold inCell
  rw [h, hcreate]

/-- A call of `EngineIndex.renderer`, and the world in which it is made. -/
structure Request (σ : Type) where
  extension : String
  filetype : FileType σ
  context : EngineContext
  world : World σ

/-- The request is for the renderer of an engine and a mime type. -/
def Request.IsFor (q : Request σ) (r : EngineRegistry σ) (pair : EngineId × String) : Prop :=
  ∃ engine, (q.extension, engine) ∈ r.engines ∧ pair = (engine.id, q.filetype.mimetype)

namespace EngineIndex

/-- The cells after an answer. -/
def cellsOf : EStateM.Result Error (Session σ) (Renderer σ) → Cells σ
  | .ok _ s => s.cells
  | .error _ s => s.cells

/-- The answer to a request, the cells being filled as given. -/
def answer (index : EngineIndex σ) (cells : Cells σ) (q : Request σ) :
    EStateM.Result Error (Session σ) (Renderer σ) :=
  index.renderer q.extension q.filetype q.context ⟨cells, q.world⟩

/-- The cells after requests, the first one first; at the beginning all are empty. -/
def cellsAfter (index : EngineIndex σ) (requests : List (Request σ)) : Cells σ :=
  requests.foldl (fun cells q => cellsOf (index.answer cells q)) []

/-- The renderer in the cell of an extension's engine and a mime type. -/
def stored (index : EngineIndex σ) (cells : Cells σ) (extension mimetype : String) :
    Option (Renderer σ) :=
  (Keyed.find? extension index.slots).bind fun slot => cells.lookup (slot.cells, mimetype)

section Answer

variable {index : EngineIndex σ} {q : Request σ} {slot : EngineSlot σ}

theorem stored_of_slot {extension : String}
    (h : Keyed.find? extension index.slots = some slot) (cells : Cells σ) (mimetype : String) :
    index.stored cells extension mimetype = cells.lookup (slot.cells, mimetype) := by
  unfold stored
  rw [h, Option.bind_some]

theorem answer_of_unknown (h : Keyed.find? q.extension index.slots = none)
    (cells : Cells σ) :
    index.answer cells q = .error (.config (.noEngine q.extension)) ⟨cells, q.world⟩ := by
  unfold answer renderer
  rw [h]
  rfl

theorem answer_of_unregistered (h : Keyed.find? q.extension index.slots = some slot)
    (hmime : q.filetype.mimetype ∉ index.mimetypes) (cells : Cells σ) :
    index.answer cells q =
      .error (.config (.unregisteredFileType q.filetype.mimetype)) ⟨cells, q.world⟩ := by
  unfold answer renderer
  rw [h]
  simp only [if_neg hmime]
  rfl

theorem answer_of_slot (h : Keyed.find? q.extension index.slots = some slot)
    (hmime : q.filetype.mimetype ∈ index.mimetypes) (cells : Cells σ) :
    index.answer cells q =
      Call.inCell (slot.cells, q.filetype.mimetype)
        (slot.engine.createRenderer q.context q.filetype) ⟨cells, q.world⟩ := by
  unfold answer renderer
  rw [h]
  simp only [if_pos hmime]

/-- What a request can do: it fails and leaves the cells alone, or it finds its cell
    filled, or it fills it. -/
theorem answer_cases (index : EngineIndex σ) (cells : Cells σ) (q : Request σ) :
    (∃ e w, index.answer cells q = .error e ⟨cells, w⟩) ∨
    ∃ slot, Keyed.find? q.extension index.slots = some slot ∧
      q.filetype.mimetype ∈ index.mimetypes ∧ ∃ renderer,
        (cells.lookup (slot.cells, q.filetype.mimetype) = some renderer ∧
          index.answer cells q = .ok renderer ⟨cells, q.world⟩) ∨
        (cells.lookup (slot.cells, q.filetype.mimetype) = none ∧
          ∃ w, index.answer cells q =
            .ok renderer ⟨((slot.cells, q.filetype.mimetype), renderer) :: cells, w⟩) := by
  cases hslot : Keyed.find? q.extension index.slots with
  | none => exact .inl ⟨_, _, answer_of_unknown hslot cells⟩
  | some slot =>
    by_cases hmime : q.filetype.mimetype ∈ index.mimetypes
    · have hanswer := answer_of_slot hslot hmime cells
      cases hcell : cells.lookup (slot.cells, q.filetype.mimetype) with
      | some renderer =>
        rw [Call.inCell_of_some hcell] at hanswer
        exact .inr ⟨slot, rfl, hmime, renderer, .inl ⟨hcell, hanswer⟩⟩
      | none =>
        cases hcreate : slot.engine.createRenderer q.context q.filetype q.world with
        | ok renderer w =>
          rw [Call.inCell_of_ok hcell hcreate] at hanswer
          exact .inr ⟨slot, rfl, hmime, renderer, .inr ⟨hcell, w, hanswer⟩⟩
        | error e w =>
          rw [Call.inCell_of_error hcell hcreate] at hanswer
          exact .inl ⟨e, w, hanswer⟩
    · exact .inl ⟨_, _, answer_of_unregistered hslot hmime cells⟩

theorem cells_of_error {cells : Cells σ} {e : Error} {s : Session σ}
    (h : index.answer cells q = .error e s) : s.cells = cells := by
  rcases answer_cases index cells q with ⟨_, _, hans⟩ | ⟨_, _, _, _, ⟨_, hans⟩ | ⟨_, _, hans⟩⟩
  · rw [h] at hans
    cases hans
    rfl
  · rw [h] at hans
    cases hans
  · rw [h] at hans
    cases hans

/-- A renderer that was given is in the cell that it was asked from. -/
theorem stored_of_ok {cells : Cells σ} {renderer : Renderer σ} {s : Session σ}
    (h : index.answer cells q = .ok renderer s) :
    q.filetype.mimetype ∈ index.mimetypes ∧
      index.stored s.cells q.extension q.filetype.mimetype = some renderer := by
  rcases answer_cases index cells q with
    ⟨_, _, hans⟩ | ⟨slot, hslot, hmime, _, ⟨hcell, hans⟩ | ⟨_, _, hans⟩⟩
  · rw [h] at hans
    cases hans
  · rw [h] at hans
    cases hans
    rw [stored_of_slot hslot]
    exact ⟨hmime, hcell⟩
  · rw [h] at hans
    cases hans
    rw [stored_of_slot hslot]
    exact ⟨hmime, List.lookup_cons_self⟩

/-- A request whose cell is filled gets what is in it, and changes nothing. -/
theorem answer_of_stored {cells : Cells σ} {renderer : Renderer σ}
    (hmime : q.filetype.mimetype ∈ index.mimetypes)
    (h : index.stored cells q.extension q.filetype.mimetype = some renderer) :
    index.answer cells q = .ok renderer ⟨cells, q.world⟩ := by
  obtain ⟨slot, hslot, hcell⟩ := Option.bind_eq_some_iff.1 h
  rw [answer_of_slot hslot hmime]
  exact Call.inCell_of_some hcell _

/-- A request touches no cell but its own. -/
theorem lookup_answer_of_ne {cell : Nat × String}
    (h : ∀ slot, Keyed.find? q.extension index.slots = some slot →
      cell ≠ (slot.cells, q.filetype.mimetype)) (cells : Cells σ) :
    (cellsOf (index.answer cells q)).lookup cell = cells.lookup cell := by
  rcases answer_cases index cells q with
    ⟨_, _, hans⟩ | ⟨slot, hslot, _, _, ⟨_, hans⟩ | ⟨_, _, hans⟩⟩
  · rw [hans]
    rfl
  · rw [hans]
    rfl
  · rw [hans]
    unfold cellsOf
    rw [List.lookup_cons, beq_false_of_ne (h slot hslot)]

/-- What is in a cell stays in it. -/
theorem stored_answer_of_stored {cells : Cells σ} {extension mimetype : String}
    {renderer : Renderer σ} (h : index.stored cells extension mimetype = some renderer)
    (q : Request σ) :
    index.stored (cellsOf (index.answer cells q)) extension mimetype = some renderer := by
  obtain ⟨slot, hslot, hcell⟩ := Option.bind_eq_some_iff.1 h
  rcases answer_cases index cells q with
    ⟨_, _, hans⟩ | ⟨_, _, _, _, ⟨_, hans⟩ | ⟨hempty, _, hans⟩⟩
  · rw [hans]
    exact h
  · rw [hans]
    exact h
  · rw [hans, stored_of_slot hslot]
    unfold cellsOf
    rw [List.lookup_cons, beq_false_of_ne ?_]
    · exact hcell
    · rintro hsame
      rw [hsame, hempty] at hcell
      cases hcell

end Answer

theorem cellsAfter_concat (index : EngineIndex σ) (requests : List (Request σ))
    (q : Request σ) :
    index.cellsAfter (requests ++ [q]) =
      cellsOf (index.answer (index.cellsAfter requests) q) := by
  unfold cellsAfter
  rw [List.foldl_append]
  rfl

end EngineIndex

/-! ## Runs of requests -/

/-- Some of the requests was for the renderer of the pair and was answered with it. -/
def EngineRegistry.Built (r : EngineRegistry σ) (mimetypes : List String)
    (requests : List (Request σ)) (pair : EngineId × String) (renderer : Renderer σ) : Prop :=
  ∃ front q back s, requests = front ++ q :: back ∧ q.IsFor r pair ∧
    (r.finalize mimetypes).answer ((r.finalize mimetypes).cellsAfter front) q = .ok renderer s

section Run

variable {r : EngineRegistry σ} {mimetypes : List String} {pair : EngineId × String}
  {renderer : Renderer σ}

theorem EngineRegistry.not_built_nil : ¬ r.Built mimetypes [] pair renderer := by
  rintro ⟨front, q, back, _, hsplit, -, -⟩
  cases front <;> cases hsplit

theorem EngineRegistry.built_concat {requests : List (Request σ)} {q : Request σ} :
    r.Built mimetypes (requests ++ [q]) pair renderer ↔
      r.Built mimetypes requests pair renderer ∨
      q.IsFor r pair ∧ ∃ s, (r.finalize mimetypes).answer
        ((r.finalize mimetypes).cellsAfter requests) q = .ok renderer s := by
  constructor
  · rintro ⟨front, q', back, s, hsplit, hfor, hans⟩
    rcases List.eq_nil_or_concat back with rfl | ⟨back, last, rfl⟩
    · obtain ⟨rfl, hsame⟩ := List.append_inj' hsplit rfl
      cases hsame
      exact .inr ⟨hfor, s, hans⟩
    · rw [List.concat_eq_append, ← List.cons_append, ← List.append_assoc] at hsplit
      exact .inl ⟨front, q', back, s, (List.append_inj' hsplit rfl).1, hfor, hans⟩
  · rintro (⟨front, q', back, s, rfl, hfor, hans⟩ | ⟨hfor, s, hans⟩)
    · exact ⟨front, q', back ++ [q], s, by simp, hfor, hans⟩
    · exact ⟨requests, q, [], s, rfl, hfor, hans⟩

namespace EngineIndex

variable {extension mimetype : String} {engine : Engine σ} {q : Request σ}

/-- A pair has one cell, whichever extension of its engine is used. -/
theorem stored_of_isFor (hmem : (extension, engine) ∈ r.engines)
    (hfor : q.IsFor r (engine.id, mimetype)) (cells : Cells σ) :
    (r.finalize mimetypes).stored cells extension mimetype =
      (r.finalize mimetypes).stored cells q.extension q.filetype.mimetype := by
  obtain ⟨engine', hmem', hpair⟩ := hfor
  obtain ⟨hid, rfl⟩ := Prod.mk.inj hpair
  obtain ⟨slot, hslot, rfl⟩ := exists_slot hmem mimetypes
  obtain ⟨slot', hslot', rfl⟩ := exists_slot hmem' mimetypes
  rw [stored_of_slot hslot, stored_of_slot hslot', (cells_eq_iff hslot hslot').2 hid]

/-- A request leaves the renderers of other pairs alone. -/
theorem stored_of_not_isFor (hmem : (extension, engine) ∈ r.engines)
    (hfor : ¬ q.IsFor r (engine.id, mimetype)) (cells : Cells σ) :
    (r.finalize mimetypes).stored (cellsOf ((r.finalize mimetypes).answer cells q))
        extension mimetype =
      (r.finalize mimetypes).stored cells extension mimetype := by
  obtain ⟨slot, hslot, rfl⟩ := exists_slot hmem mimetypes
  rw [stored_of_slot hslot, stored_of_slot hslot]
  refine lookup_answer_of_ne ?_ cells
  intro slot' hslot' hcell
  obtain ⟨hcells, rfl⟩ := Prod.mk.inj hcell
  have hid : slot.engine.id = slot'.engine.id := (cells_eq_iff hslot hslot').1 hcells
  exact hfor ⟨slot'.engine, mem_engines hslot', by rw [hid]⟩

/-- After any requests a cell holds what a request for it was answered with. -/
theorem stored_cellsAfter_iff (hmem : (extension, engine) ∈ r.engines)
    (requests : List (Request σ)) :
    (r.finalize mimetypes).stored ((r.finalize mimetypes).cellsAfter requests)
        extension mimetype = some renderer ↔
      r.Built mimetypes requests (engine.id, mimetype) renderer := by
  induction requests using List.reverseRecOn with
  | nil =>
    obtain ⟨slot, hslot, -⟩ := exists_slot hmem mimetypes
    rw [stored_of_slot hslot]
    constructor
    · intro h
      cases h
    · intro h
      exact absurd h EngineRegistry.not_built_nil
  | append_singleton requests q ih =>
    rw [EngineRegistry.built_concat, cellsAfter_concat, ← ih]
    by_cases hfor : q.IsFor r (engine.id, mimetype)
    · rw [stored_of_isFor hmem hfor, stored_of_isFor hmem hfor]
      cases hans : (r.finalize mimetypes).answer
          ((r.finalize mimetypes).cellsAfter requests) q with
      | ok given s =>
        obtain ⟨hmime, hgiven⟩ := stored_of_ok hans
        rw [show cellsOf (.ok given s) = s.cells from rfl, hgiven]
        constructor
        · rintro ⟨⟩
          exact .inr ⟨hfor, s, rfl⟩
        · rintro (hold | ⟨-, _, hsame⟩)
          · rw [answer_of_stored hmime hold] at hans
            cases hans
            rfl
          · cases hsame
            rfl
      | error e s =>
        rw [show cellsOf (.error e s) = s.cells from rfl, cells_of_error hans]
        constructor
        · exact .inl
        · rintro (hold | ⟨-, _, hsame⟩)
          · exact hold
          · cases hsame
    · rw [stored_of_not_isFor hmem hfor]
      constructor
      · exact .inl
      · rintro (hold | ⟨h, -⟩)
        · exact hold
        · exact absurd h hfor

end EngineIndex

end Run

/-! ## What an answer depends on -/

/-- Engines of one identity under one extension, which build the same renderers where it
    counts. -/
structure Alike (counts : EngineId × String → Prop) (a b : String × Engine σ) : Prop where
  extension : b.1 = a.1
  id : b.2.id = a.2.id
  builds : ∀ context ft, counts (a.2.id, ft.mimetype) →
    b.2.createRenderer context ft = a.2.createRenderer context ft

/-- Registries that differ in no more than what their engines build, and not in what they
    build for certain pairs. -/
def EngineRegistry.AgreeOn (counts : EngineId × String → Prop) (r r' : EngineRegistry σ) : Prop :=
  List.Forall₂ (Alike counts) r.engines r'.engines

section Agree

variable {counts : EngineId × String → Prop}

theorem Call.inCell_congr {cell : Nat × String} {create create' : Action σ (Renderer σ)}
    {s : Session σ} (h : s.cells.lookup cell = none → create' = create) :
    inCell cell create' s = inCell cell create s := by
  cases hcell : s.cells.lookup cell with
  | some renderer => rw [inCell_of_some hcell, inCell_of_some hcell]
  | none => rw [h hcell]

namespace EngineIndex

/-- The sets of cells are given out without asking the engines. -/
theorem exists_mem_slotsFrom {engines engines' : List (String × Engine σ)}
    (h : List.Forall₂ (Alike counts) engines engines') (known : List EngineId) :
    ∀ p ∈ slotsFrom known engines, ∃ slot', (p.1, slot') ∈ slotsFrom known engines' ∧
      slot'.cells = p.2.cells ∧
      Alike counts (p.1, p.2.engine) (p.1, slot'.engine) := by
  induction h generalizing known with
  | nil =>
    intro p hp
    exact absurd hp List.not_mem_nil
  | @cons a b rest rest' hab _ ih =>
    obtain ⟨extension, engine⟩ := a
    obtain ⟨extension', engine'⟩ := b
    obtain rfl : extension' = extension := hab.extension
    have hid : engine'.id = engine.id := hab.id
    unfold slotsFrom
    rw [hid]
    intro p hp
    cases hfound : known.idxOf? engine.id with
    | some number =>
      rw [hfound] at hp
      rcases List.mem_cons.1 hp with rfl | hp
      · exact ⟨_, List.mem_cons_self, rfl, hab⟩
      · obtain ⟨slot', hslot', hsame⟩ := ih known p hp
        exact ⟨slot', List.mem_cons_of_mem _ hslot', hsame⟩
    | none =>
      rw [hfound] at hp
      rcases List.mem_cons.1 hp with rfl | hp
      · exact ⟨_, List.mem_cons_self, rfl, hab⟩
      · obtain ⟨slot', hslot', hsame⟩ := ih _ p hp
        exact ⟨slot', List.mem_cons_of_mem _ hslot', hsame⟩

/-- No engine is asked if the cell is filled, and else only the one that it belongs to,
    and for its mime type only. -/
theorem answer_of_agreeOn {r r' : EngineRegistry σ} {mimetypes : List String}
    {q : Request σ} {engine : Engine σ} {cells : Cells σ} (hagree : r.AgreeOn counts r')
    (hmem : (q.extension, engine) ∈ r.engines) (hmime : q.filetype.mimetype ∈ mimetypes)
    (hcounts : (r.finalize mimetypes).stored cells q.extension q.filetype.mimetype = none →
      counts (engine.id, q.filetype.mimetype)) :
    (r'.finalize mimetypes).answer cells q = (r.finalize mimetypes).answer cells q := by
  obtain ⟨slot, hslot, rfl⟩ := exists_slot hmem mimetypes
  obtain ⟨slot', hmem', hcells, halike⟩ :=
    exists_mem_slotsFrom hagree [] _ (find?_slots_iff.1 hslot)
  have hslot' : Keyed.find? q.extension (r'.finalize mimetypes).slots = some slot' :=
    find?_slots_iff.2 hmem'
  rw [stored_of_slot hslot] at hcounts
  rw [answer_of_slot hslot hmime, answer_of_slot hslot' hmime, hcells]
  refine Call.inCell_congr ?_
  intro hempty
  exact halike.builds q.context q.filetype (hcounts hempty)

end EngineIndex

end Agree

/-! ## The next request -/

/-- How an index that has answered earlier requests treats a further one, for an engine of
    the registry and a mime type that renderers may be asked for. -/
structure BuildsOnce (r : EngineRegistry σ) (mimetypes : List String)
    (earlier : List (Request σ)) (q : Request σ) (engine : Engine σ) : Prop where
  /-- Before the first success the engine is asked, and what it builds is kept. -/
  created : (∀ renderer, ¬ r.Built mimetypes earlier (engine.id, q.filetype.mimetype) renderer) →
    ∀ renderer w, engine.createRenderer q.context q.filetype q.world = .ok renderer w →
      ∃ cells, (r.finalize mimetypes).answer ((r.finalize mimetypes).cellsAfter earlier) q =
          .ok renderer ⟨cells, w⟩ ∧
        (r.finalize mimetypes).stored cells q.extension q.filetype.mimetype = some renderer
  /-- A failure of the engine is the answer, and nothing is kept. -/
  failed : (∀ renderer, ¬ r.Built mimetypes earlier (engine.id, q.filetype.mimetype) renderer) →
    ∀ e w, engine.createRenderer q.context q.filetype q.world = .error e w →
      (r.finalize mimetypes).answer ((r.finalize mimetypes).cellsAfter earlier) q =
        .error e ⟨(r.finalize mimetypes).cellsAfter earlier, w⟩
  /-- After a success the answer is the renderer of that success, and nothing happens. -/
  kept : ∀ renderer, r.Built mimetypes earlier (engine.id, q.filetype.mimetype) renderer →
    (r.finalize mimetypes).answer ((r.finalize mimetypes).cellsAfter earlier) q =
      .ok renderer ⟨(r.finalize mimetypes).cellsAfter earlier, q.world⟩
  /-- Engines that would build anything else for other pairs, and after a success for this
      pair too, make no difference: they are not asked. -/
  notAsked : ∀ r', r.AgreeOn (fun pair => pair = (engine.id, q.filetype.mimetype) ∧
      ∀ renderer, ¬ r.Built mimetypes earlier pair renderer) r' →
    (r'.finalize mimetypes).answer ((r.finalize mimetypes).cellsAfter earlier) q =
      (r.finalize mimetypes).answer ((r.finalize mimetypes).cellsAfter earlier) q
  /-- The renderers of other pairs stay as they are. -/
  apart : ∀ extension other mimetype, (extension, other) ∈ r.engines →
    (other.id, mimetype) ≠ (engine.id, q.filetype.mimetype) →
      (r.finalize mimetypes).stored (EngineIndex.cellsOf ((r.finalize mimetypes).answer
          ((r.finalize mimetypes).cellsAfter earlier) q)) extension mimetype =
        (r.finalize mimetypes).stored ((r.finalize mimetypes).cellsAfter earlier)
          extension mimetype

namespace EngineIndex

section Next

variable {r : EngineRegistry σ} {mimetypes : List String} {earlier : List (Request σ)}
  {q : Request σ} {engine : Engine σ}

/-- An engine is only reached by its own requests. -/
theorem isFor_iff (hmem : (q.extension, engine) ∈ r.engines) {pair : EngineId × String} :
    q.IsFor r pair ↔ pair = (engine.id, q.filetype.mimetype) := by
  constructor
  · rintro ⟨other, hother, rfl⟩
    obtain ⟨slot, hslot, rfl⟩ := exists_slot hmem []
    obtain ⟨slot', hslot', rfl⟩ := exists_slot hother []
    rw [hslot] at hslot'
    cases hslot'
    rfl
  · rintro rfl
    exact ⟨engine, hmem, rfl⟩

theorem stored_eq_none (hmem : (q.extension, engine) ∈ r.engines)
    (h : ∀ renderer, ¬ r.Built mimetypes earlier (engine.id, q.filetype.mimetype) renderer) :
    (r.finalize mimetypes).stored ((r.finalize mimetypes).cellsAfter earlier) q.extension
      q.filetype.mimetype = none := by
  rw [Option.eq_none_iff_forall_not_mem]
  intro renderer hstored
  exact h renderer ((stored_cellsAfter_iff hmem earlier).1 hstored)

theorem buildsOnce (hmem : (q.extension, engine) ∈ r.engines)
    (hmime : q.filetype.mimetype ∈ mimetypes) : BuildsOnce r mimetypes earlier q engine where
  created hnew renderer w hcreate := by
    have hempty := stored_eq_none hmem hnew
    obtain ⟨slot, hslot, rfl⟩ := exists_slot hmem mimetypes
    rw [stored_of_slot hslot] at hempty
    have hanswer := answer_of_slot hslot hmime ((r.finalize mimetypes).cellsAfter earlier)
    rw [Call.inCell_of_ok hempty hcreate] at hanswer
    exact ⟨_, hanswer, (stored_of_ok hanswer).2⟩
  failed hnew e w hcreate := by
    have hempty := stored_eq_none hmem hnew
    obtain ⟨slot, hslot, rfl⟩ := exists_slot hmem mimetypes
    rw [stored_of_slot hslot] at hempty
    rw [answer_of_slot hslot hmime]
    exact Call.inCell_of_error hempty hcreate
  kept renderer hbuilt :=
    answer_of_stored hmime ((stored_cellsAfter_iff hmem earlier).2 hbuilt)
  notAsked r' hagree := by
    refine answer_of_agreeOn hagree hmem hmime ?_
    intro hempty
    refine ⟨rfl, ?_⟩
    intro renderer hbuilt
    rw [(stored_cellsAfter_iff hmem earlier).2 hbuilt] at hempty
    cases hempty
  apart extension other mimetype hother hne := by
    refine stored_of_not_isFor hother ?_ _
    rw [isFor_iff hmem]
    exact hne

end Next

/-! What follows is tried on an engine with two extensions that can build its renderer only
while the world says so. -/

namespace Notes

def plain : Renderer Bool := .ofString (.numbered 0) fun content _ _ => pure content

def engine : Engine Bool where
  id := .numbered 0
  createRenderer := fun _ _ => do
    if (← get).own then return plain else throw (.config (.other "not yet"))

def registry : EngineRegistry Bool := ⟨[("tpl", engine), ("t", engine)], by decide⟩

def request (extension : String) (own : Bool) : Request Bool :=
  ⟨extension, .empty "text/plain", ⟨[], none⟩, ⟨Files.empty, [], 0, own⟩⟩

end Notes

/-- **Each renderer is built once.**  After any requests, in any worlds, the next one is
    refused if its extension has no engine or its mime type is not one of the index.
    Else its engine is asked until it has succeeded once for the mime type, under
    whichever extension, and from then on the renderer that it built is given. -/
theorem renderer_built_once (r : EngineRegistry σ) (mimetypes : List String)
    (earlier : List (Request σ)) (q : Request σ) :
    (q.extension ∉ r.extensions →
      (r.finalize mimetypes).answer ((r.finalize mimetypes).cellsAfter earlier) q =
        .error (.config (.noEngine q.extension))
          ⟨(r.finalize mimetypes).cellsAfter earlier, q.world⟩) ∧
    ∀ engine, (q.extension, engine) ∈ r.engines →
      (q.filetype.mimetype ∉ mimetypes →
        (r.finalize mimetypes).answer ((r.finalize mimetypes).cellsAfter earlier) q =
          .error (.config (.unregisteredFileType q.filetype.mimetype))
            ⟨(r.finalize mimetypes).cellsAfter earlier, q.world⟩) ∧
      (q.filetype.mimetype ∈ mimetypes → BuildsOnce r mimetypes earlier q engine) := by
  constructor
  · intro hunknown
    refine answer_of_unknown ?_ _
    rw [Option.eq_none_iff_forall_not_mem]
    intro slot hslot
    exact hunknown (List.mem_map.2 ⟨_, mem_engines hslot, rfl⟩)
  · intro engine hmem
    obtain ⟨slot, hslot, -⟩ := exists_slot hmem mimetypes
    exact ⟨fun hmime => answer_of_unregistered hslot hmime _, buildsOnce hmem⟩

/-- After a failure and a success, the other extension gives what was built. -/
theorem renderer_built_once_shared :
    ∃ cells e, cells = (Notes.registry.finalize ["text/plain"]).cellsAfter
        [Notes.request "tpl" false, Notes.request "tpl" true] ∧
      (Notes.registry.finalize ["text/plain"]).answer [] (Notes.request "tpl" false) =
        .error e ⟨[], (Notes.request "tpl" false).world⟩ ∧
      (Notes.registry.finalize ["text/plain"]).answer cells (Notes.request "t" false) =
        .ok Notes.plain ⟨cells, (Notes.request "t" false).world⟩ := by
  have hfirst := ((renderer_built_once Notes.registry ["text/plain"] []
    (Notes.request "tpl" false)).2 Notes.engine (.head _)).2 (.head _)
  have hthird := ((renderer_built_once Notes.registry ["text/plain"]
    [Notes.request "tpl" false, Notes.request "tpl" true]
    (Notes.request "t" false)).2 Notes.engine (.tail _ (.head _))).2 (.head _)
  refine ⟨_, _, rfl, hfirst.failed ?_ _ _ rfl, hthird.kept Notes.plain ?_⟩
  · intro renderer
    exact EngineRegistry.not_built_nil
  · exact ⟨[Notes.request "tpl" false], Notes.request "tpl" true, [], _, rfl,
      ⟨Notes.engine, .head _, rfl⟩, rfl⟩

end EngineIndex

end RenderChain
