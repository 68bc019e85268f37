/-
  RenderChain/Proofs/ListedPaths.lean
  ===================================
  **What a pipeline lists, in which order, and under which mime types.**

  A listing goes through all loaders, and they may repeat each other's paths.
  Each path is planned once more: it is listed if it has a file type, if this is
  the wanted one, and if it is not hidden.

    * `toUTF8_lt_iff`: the order of code points, in which texts are sorted here,
      is the order of their bytes;
    * `sorted_strict`: without repetitions, sorting makes a list that increases;
    * `paths_exact`: the paths that are listed, and how they fall apart by the
      mime types that are registered.
-/
import Mathlib.Tactic.SplitIfs
import RenderChain.Proofs.KeyBytes
import RenderChain.Proofs.Listing

namespace RenderChain

variable {σ : Type}

/-! ## Byte order -/

/-- The encoding of a smaller character comes first, whatever follows it: it is shorter, and
    then begins with a smaller byte, or it is smaller in the first byte that differs. -/
theorem utf8EncodeChar_append_lt {c d : Char} (h : c < d) (cs ds : List UInt8) :
    String.utf8EncodeChar c ++ cs < String.utf8EncodeChar d ++ ds := by
  have hlt : c.val.toNat < d.val.toNat := h
  have hmax : d.val.toNat < 0x110000 := by
    rcases d.valid with hlow | ⟨-, hhigh⟩
    · exact Nat.lt_trans hlow (by decide)
    · exact hhigh
  have hbyte : ∀ m n : Nat, UInt8.ofNat m < UInt8.ofNat n ↔ m % 256 < n % 256 := by
    intro m n
    rw [UInt8.lt_iff_toNat_lt, UInt8.toNat_ofNat', UInt8.toNat_ofNat']
  have hsame : ∀ m n : Nat, UInt8.ofNat m = UInt8.ofNat n ↔ m % 256 = n % 256 := by
    intro m n
    rw [← UInt8.toNat_inj, UInt8.toNat_ofNat', UInt8.toNat_ofNat']
  -- the bytes hold the digits to base 64
  have hdigits : ∀ v : Nat, v / 4096 = v / 64 / 64 ∧ v / 262144 = v / 64 / 64 / 64 := by
    intro v
    omega
  unfold String.utf8EncodeChar
  dsimp only
  split_ifs <;>
    simp only [List.cons_append, List.nil_append, List.cons_lt_cons_iff, hbyte, hsame, hdigits] <;>
    omega

theorem flatMap_utf8EncodeChar_lt {cs ds : List Char} (h : cs < ds) :
    cs.flatMap String.utf8EncodeChar < ds.flatMap String.utf8EncodeChar := by
  induction cs generalizing ds with
  | nil =>
    cases ds with
    | nil => exact absurd h (List.not_lt_nil [])
    | cons d ds =>
      obtain ⟨byte, bytes, hbytes⟩ :=
        List.exists_cons_of_ne_nil (String.utf8EncodeChar_ne_nil (c := d))
      rw [List.flatMap_cons, hbytes]
      exact List.nil_lt_cons _ _
  | cons c cs ih =>
    cases ds with
    | nil => exact absurd h (List.not_lt_nil _)
    | cons d ds =>
      rw [List.flatMap_cons, List.flatMap_cons]
      rcases List.cons_lt_cons_iff.1 h with hfirst | ⟨rfl, hrest⟩
      · exact utf8EncodeChar_append_lt hfirst _ _
      · exact List.append_left_lt (ih hrest)

theorem toUTF8_lt_iff {s t : String} : s.toUTF8.toList < t.toUTF8.toList ↔ s < t := by
  have hbytes : ∀ {s t : String}, s < t → s.toUTF8.toList < t.toUTF8.toList := by
    intro s t h
    rw [toList_toUTF8, toList_toUTF8]
    exact flatMap_utf8EncodeChar_lt h
  refine ⟨?_, hbytes⟩
  intro h
  by_contra hge
  have hle : t ≤ s := String.not_lt.1 hge
  by_cases heq : t = s
  · rw [heq] at h
    exact List.lt_irrefl _ h
  · exact List.lt_asymm h (hbytes (Std.lt_of_le_of_ne hle heq))

/-! ## Lists in order -/

theorem nodup_distinct (xs : List String) : (distinct xs).Nodup := by
  induction xs with
  | nil => exact .nil
  | cons x rest ih =>
    unfold distinct
    refine List.nodup_cons.2 ⟨?_, ih.filter _⟩
    simp

theorem sorted_strict {xs : List String} (h : xs.Nodup) : (sorted xs).Pairwise (· < ·) := by
  have hle : (sorted xs).Pairwise fun a b => decide (a ≤ b) = true := by
    refine List.pairwise_mergeSort ?_ ?_ xs
    · intro a b c hab hbc
      exact decide_eq_true (String.le_trans (of_decide_eq_true hab) (of_decide_eq_true hbc))
    · intro a b
      simpa using String.le_total a b
  have hnodup : (sorted xs).Nodup := (List.mergeSort_perm xs _).nodup_iff.2 h
  refine hle.imp₂ ?_ hnodup
  intro a b hab hne
  exact Std.lt_of_le_of_ne (of_decide_eq_true hab) hne

/-! ## Listings -/

/-- Some loader lists the path, one that has a key or the default one. -/
inductive LoaderIndex.Lists (index : LoaderIndex σ) (w : World σ) (path : String) : Prop
  | keyed {key : String} {l : Loader σ} (hkey : (key, l) ∈ index.byExtension)
      (h : path ∈ l.paths w)
  | default {l : Loader σ} (hdefault : index.default = some l) (h : path ∈ l.paths w)

theorem LoaderIndex.exists_mem_all_iff {index : LoaderIndex σ} {w : World σ} {path : String} :
    (∃ l ∈ index.all, path ∈ l.paths w) ↔ index.Lists w path := by
  unfold LoaderIndex.all
  constructor
  · rintro ⟨l, hl, hpath⟩
    rcases List.mem_append.1 hl with hkeyed | hdefault
    · obtain ⟨⟨key, l⟩, hkey, rfl⟩ := List.mem_map.1 hkeyed
      exact .keyed hkey hpath
    · exact .default (Option.mem_toList.1 hdefault) hpath
  · rintro (⟨hkey, hpath⟩ | ⟨hdefault, hpath⟩)
    · exact ⟨_, List.mem_append_left _ (List.mem_map_of_mem hkey), hpath⟩
    · exact ⟨_, List.mem_append_right _ (Option.mem_toList.2 hdefault), hpath⟩

namespace Pipeline

theorem isHidden_eq_false_iff {path : String} :
    isHidden path = false ↔ ∀ part ∈ Text.split '/' path, part.toList.head? ≠ some '_' := by
  simp [isHidden]

theorem mimetype_eq_ok_iff {p : Pipeline σ} {path mimetype : String} :
    p.mimetype path = .ok mimetype ↔
      ∃ plan, p.plan path true = .ok plan ∧ plan.filetype.mimetype = mimetype := by
  unfold Pipeline.mimetype
  cases p.plan path true with
  | error e => simp [Except.map]
  | ok plan => simp [Except.map]

/-- Which paths are listed, in terms of what can be asked about a path. -/
theorem mem_paths_iff_mimetype {p : Pipeline σ} {wanted : Option String} {includeHidden : Bool}
    {w : World σ} {path : String} :
    path ∈ p.paths wanted includeHidden w ↔
      p.loaders.Lists w path ∧
      (includeHidden = true ∨ ∀ part ∈ Text.split '/' path, part.toList.head? ≠ some '_') ∧
      ∃ mimetype, p.mimetype path = .ok mimetype ∧ ∀ m, wanted = some m → mimetype = m := by
  rw [mem_paths_iff, LoaderIndex.exists_mem_all_iff, isHidden_eq_false_iff]
  refine and_congr_right fun _ => and_congr_right fun _ => ?_
  constructor
  · rintro ⟨plan, hplan, hwanted⟩
    refine ⟨_, mimetype_eq_ok_iff.2 ⟨plan, hplan, rfl⟩, ?_⟩
    rintro m rfl
    exact (of_decide_eq_true hwanted).symm
  · rintro ⟨mimetype, hmimetype, hwanted⟩
    obtain ⟨plan, hplan, rfl⟩ := mimetype_eq_ok_iff.1 hmimetype
    refine ⟨plan, hplan, ?_⟩
    cases wanted with
    | none => rfl
    | some m => exact decide_eq_true (hwanted m rfl).symm

/-- What a path renders to is a registered mime type. -/
theorem mimetype_mem_of_mimetype {b : PipelineBuilder σ} {p : Pipeline σ} (h : b.Finalized p)
    {path mimetype : String} (hmimetype : p.mimetype path = .ok mimetype) :
    mimetype ∈ b.filetypes.mimetypes := by
  obtain ⟨plan, hplan, rfl⟩ := mimetype_eq_ok_iff.1 hmimetype
  exact List.mem_map_of_mem (mem_types_of_plan h hplan)

theorem mem_paths_none_iff {p : Pipeline σ} {includeHidden : Bool} {w : World σ}
    {path : String} :
    path ∈ p.paths none includeHidden w ↔
      ∃ mimetype, p.mimetype path = .ok mimetype ∧
        path ∈ p.paths (some mimetype) includeHidden w := by
  simp only [mem_paths_iff_mimetype, reduceCtorEq, false_imp_iff, implies_true, and_true]
  constructor
  · rintro ⟨hlisted, hshown, mimetype, hmimetype⟩
    refine ⟨mimetype, hmimetype, hlisted, hshown, mimetype, hmimetype, ?_⟩
    rintro m hm
    exact Option.some.inj hm
  · rintro ⟨mimetype, hmimetype, hlisted, hshown, -⟩
    exact ⟨hlisted, hshown, mimetype, hmimetype⟩

theorem mimetype_of_mem_paths {p : Pipeline σ} {m : String} {includeHidden : Bool} {w : World σ}
    {path : String} (h : path ∈ p.paths (some m) includeHidden w) : p.mimetype path = .ok m := by
  obtain ⟨-, -, mimetype, hmimetype, hwanted⟩ := mem_paths_iff_mimetype.1 h
  rw [hmimetype, hwanted m rfl]

/-- **The listing of a pipeline.**  It increases in the order of the bytes, so it has no path
    twice, and it has just the paths that some loader lists, that may be shown and that
    render to a mime type, the wanted one if one is wanted.  Without a wanted one it falls
    apart into the listings of the mime types that are registered, and where none is, it
    is empty. -/
theorem paths_exact {b : PipelineBuilder σ} {p : Pipeline σ} (h : b.finalize = .ok p)
    (wanted : Option String) (includeHidden : Bool) (w : World σ) :
    (p.paths wanted includeHidden w).Pairwise
      (fun path path' => path.toUTF8.toList < path'.toUTF8.toList) ∧
    (∀ path, path ∈ p.paths wanted includeHidden w ↔
      p.loaders.Lists w path ∧
      (includeHidden = true ∨ ∀ part ∈ Text.split '/' path, part.toList.head? ≠ some '_') ∧
      ∃ mimetype, p.mimetype path = .ok mimetype ∧ ∀ m, wanted = some m → mimetype = m) ∧
    (∀ path, path ∈ p.paths none includeHidden w ↔
      ∃ m ∈ b.filetypes.mimetypes, path ∈ p.paths (some m) includeHidden w) ∧
    (∀ m m', m ≠ m' →
      (p.paths (some m) includeHidden w).Disjoint (p.paths (some m') includeHidden w)) ∧
    (b.filetypes.types = [] → p.paths wanted includeHidden w = []) := by
  have hfinal : b.Finalized p := PipelineBuilder.finalized h
  refine ⟨?_, fun path => mem_paths_iff_mimetype, ?_, ?_, ?_⟩
  · have hnodup : (p.loaders.paths w).Nodup := nodup_distinct _
    exact (sorted_strict (hnodup.filter _)).imp toUTF8_lt_iff.2
  · intro path
    rw [mem_paths_none_iff]
    constructor
    · rintro ⟨m, hm, hpath⟩
      exact ⟨m, mimetype_mem_of_mimetype hfinal hm, hpath⟩
    · rintro ⟨m, -, hpath⟩
      exact ⟨m, mimetype_of_mem_paths hpath, hpath⟩
  · intro m m' hne path hm hm'
    have hsame := (mimetype_of_mem_paths hm).symm.trans (mimetype_of_mem_paths hm')
    exact hne (Except.ok.inj hsame)
  · intro htypes
    rw [List.eq_nil_iff_forall_not_mem]
    intro path hpath
    obtain ⟨-, -, m, hm, -⟩ := mem_paths_iff_mimetype.1 hpath
    have hregistered := mimetype_mem_of_mimetype hfinal hm
    unfold FileTypeRegistry.mimetypes at hregistered
    rw [htypes] at hregistered
    cases hregistered

/-- Of the two templates in memory one is a style sheet, and listed as nothing else. -/
theorem paths_exact_css :
    ∃ b : PipelineBuilder Unit, b.finalize = .ok Notes.pipeline ∧
      "a.css.txt" ∈ Notes.pipeline.paths (some "text/css") false Notes.session.world ∧
      "a.css.txt" ∉ Notes.pipeline.paths (some "text/plain") false Notes.session.world := by
  obtain ⟨b, -, hb⟩ := Notes.finalize_settings
  have hmimetype : Notes.pipeline.mimetype "a.css.txt" = .ok "text/css" := by
    obtain ⟨plan, chain, hplan, -, -, hr⟩ := resolve_eq_ok Notes.resolve_css
    have hft : Notes.styleSheet = plan.filetype := congrArg Resolution.filetype hr
    exact mimetype_eq_ok_iff.2 ⟨plan, hplan, by rw [← hft]; rfl⟩
  have hlisted : Notes.pipeline.loaders.Lists Notes.session.world "a.css.txt" :=
    .keyed (List.mem_cons_self) (List.mem_cons_self)
  obtain ⟨-, hmem, -, hdisjoint, -⟩ :=
    paths_exact hb (some "text/css") false Notes.session.world
  have hcss := (hmem "a.css.txt").2
    ⟨hlisted, .inr (by decide), "text/css", hmimetype, fun m hm => Option.some.inj hm⟩
  exact ⟨b, hb, hcss, fun hplain => hdisjoint "text/css" "text/plain" (by decide) hcss hplain⟩

end Pipeline

end RenderChain
