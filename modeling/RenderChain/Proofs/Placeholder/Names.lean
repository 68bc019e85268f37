/-
  RenderChain/Proofs/Placeholder/Names.lean
  =========================================
  **Where dotted names lead.**

  A name is cut at its dots, and every part is a step into a value.  What a part means
  depends on the value it is met in: `0` is a key of an object and an index of a list.
  So the parts are not sorted into keys and indices beforehand; `Leads` says where they
  lead, value by value, and `Stuck` in how many ways they can lead to nothing.

    * `index?_eq_some_iff`: an index is a numeral below the limit, and nothing else;
    * `lookup_eq_some_iff`, `lookup_eq_none_iff`: a name is looked up by going where its
      parts lead, and fails where they get stuck;
    * `stuck_iff`: there is no third case;
    * `render_of_leads`: what can be reached can be named;
    * `render_dotted_names`: all of this for placeholders in any template.
-/
import RenderChain.Proofs.Placeholder.Passes

namespace RenderChain.Placeholder

/-! ## Numerals -/

/-- The digits of a number, after any number of zeros. -/
def digitsOf (zeros n : Nat) : List Char := List.replicate zeros '0' ++ Nat.toDigits 10 n

/-- The text is a number in decimal; zeros and a plus sign may stand in front of it. -/
def Numeral (part : String) (n : Nat) : Prop :=
  ∃ zeros, part.toList = digitsOf zeros n ∨ part.toList = '+' :: digitsOf zeros n

section Digits

variable {zeros n : Nat} {c : Char} {digits : List Char}

theorem isDigit_of_mem_digitsOf (h : c ∈ digitsOf zeros n) : c.isDigit = true := by
  rcases List.mem_append.1 h with hzero | hdigit
  · rw [List.eq_of_mem_replicate hzero]
    rfl
  · exact Nat.isDigit_of_mem_toDigits (by decide) (by decide) hdigit

theorem digitsOf_ne_nil : digitsOf zeros n ≠ [] :=
  List.append_ne_nil_of_right_ne_nil _ Nat.toDigits_ne_nil

theorem ofDigitChars_digitsOf : Nat.ofDigitChars 10 (digitsOf zeros n) 0 = n := by
  unfold digitsOf
  rw [Nat.ofDigitChars_append, Nat.ofDigitChars_replicate_zero, Nat.mul_zero,
    Nat.ofDigitChars_ten_toDigits]

theorem toDigits_of_isDigit (h : c.isDigit = true) :
    c.toNat - '0'.toNat < 10 ∧ Nat.toDigits 10 (c.toNat - '0'.toNat) = [c] := by
  have hrange : 48 ≤ c.toNat ∧ c.toNat ≤ 57 := by
    simpa [Char.isDigit, UInt32.le_iff_toNat_le] using h
  have hlt : c.toNat - 48 < 10 := by omega
  have hchar : (c.toNat - 48).digitChar = c := by
    apply Char.toNat_inj.1
    rw [Nat.toNat_digitChar_of_lt_ten hlt]
    omega
  exact ⟨hlt, (Nat.toDigits_of_lt_base hlt).trans (congrArg (fun c => [c]) hchar)⟩

/-- Every run of digits is a number after some zeros. -/
theorem exists_digitsOf (hne : digits ≠ []) (h : ∀ c ∈ digits, c.isDigit = true) :
    ∃ zeros, digits = digitsOf zeros (Nat.ofDigitChars 10 digits 0) := by
  -- from the right, since one more digit multiplies by ten what stands in front of it
  induction digits using List.reverseRecOn with
  | nil => exact absurd rfl hne
  | append_singleton front c ih =>
    obtain ⟨hlt, hdigit⟩ := toDigits_of_isDigit (h c (List.mem_append_right _ (by simp)))
    rw [Nat.ofDigitChars_append, Nat.ofDigitChars_cons, Nat.ofDigitChars_nil]
    by_cases hfront : front = []
    · subst hfront
      exact ⟨0, by simpa [digitsOf] using hdigit.symm⟩
    · obtain ⟨zeros, hzeros⟩ := ih hfront fun c hc => h c (List.mem_append_left _ hc)
      generalize Nat.ofDigitChars 10 front 0 = value at hzeros ⊢
      rw [hzeros]
      rcases Nat.eq_zero_or_pos value with hnull | hpos
      · -- nothing but zeros so far: the last of them was the number, and is one more zero
        refine ⟨zeros + 1, ?_⟩
        rw [hnull, digitsOf, digitsOf, Nat.toDigits_zero, List.replicate_succ', Nat.mul_zero,
          Nat.zero_add, hdigit]
      · refine ⟨zeros, ?_⟩
        rw [digitsOf, digitsOf, List.append_assoc, ← hdigit,
          Nat.toDigits_append_toDigits (by decide) hpos hlt]

end Digits

section Numerals

variable {part : String} {n m : Nat}

/-- The text without a plus sign in front. -/
def unsigned : List Char → List Char
  | '+' :: rest => rest
  | cs => cs

theorem unsigned_cases (cs : List Char) : cs = unsigned cs ∨ cs = '+' :: unsigned cs := by
  fun_cases unsigned cs with
  | case1 rest => exact .inr rfl
  | case2 => exact .inl rfl

theorem Numeral.unsigned_eq (h : Numeral part n) :
    ∃ zeros, unsigned part.toList = digitsOf zeros n := by
  obtain ⟨zeros, hplain | hsigned⟩ := h
  · refine ⟨zeros, ?_⟩
    rw [hplain]
    generalize hdigits : digitsOf zeros n = digits
    fun_cases unsigned digits with
    | case1 rest =>
      have hplus : '+' ∈ digitsOf zeros n := hdigits ▸ List.mem_cons_self
      exact absurd (isDigit_of_mem_digitsOf hplus) (by decide)
    | case2 => rfl
  · exact ⟨zeros, hsigned ▸ rfl⟩

theorem Numeral.value_eq (h : Numeral part n) :
    Nat.ofDigitChars 10 (unsigned part.toList) 0 = n := by
  obtain ⟨zeros, hdigits⟩ := h.unsigned_eq
  rw [hdigits, ofDigitChars_digitsOf]

/-- A numeral is that of one number. -/
theorem Numeral.unique (h : Numeral part n) (h' : Numeral part m) : n = m :=
  h.value_eq.symm.trans h'.value_eq

theorem numeral_toString (n : Nat) : Numeral (toString n) n := by
  refine ⟨0, .inl ?_⟩
  rw [Nat.toString_eq_ofList_toDigits, String.toList_ofList]
  rfl

theorem index?_eq (part : String) :
    index? part =
      if unsigned part.toList = [] ∨ ¬ (unsigned part.toList).all Char.isDigit then none
      else if Nat.ofDigitChars 10 (unsigned part.toList) 0 < indexLimit then
        some (Nat.ofDigitChars 10 (unsigned part.toList) 0)
      else none := by
  have hvalue : ∀ digits : List Char, digits.foldl (fun n c => n * 10 + (c.toNat - 48)) 0 =
      Nat.ofDigitChars 10 digits 0 := by
    intro digits
    rw [Nat.ofDigitChars_eq_foldl]
    simp only [Nat.mul_comm]
    rfl
  rw [← hvalue]
  rfl

/-- An index is a numeral below the limit, and nothing else is one. -/
theorem index?_eq_some_iff : index? part = some n ↔ Numeral part n ∧ n < indexLimit := by
  rw [index?_eq]
  constructor
  · intro h
    split at h
    · cases h
    next hdigits =>
      obtain ⟨hne, hall⟩ := not_or.1 hdigits
      rw [not_not, List.all_eq_true] at hall
      split at h
      next hlimit =>
        cases h
        obtain ⟨zeros, hzeros⟩ := exists_digitsOf hne hall
        refine ⟨⟨zeros, ?_⟩, hlimit⟩
        rw [← hzeros]
        exact unsigned_cases part.toList
      · cases h
  · rintro ⟨hnumeral, hlimit⟩
    obtain ⟨zeros, hdigits⟩ := hnumeral.unsigned_eq
    have hall : (digitsOf zeros n).all Char.isDigit = true :=
      List.all_eq_true.2 fun _ => isDigit_of_mem_digitsOf
    rw [hnumeral.value_eq, hdigits, if_neg (not_or_intro digitsOf_ne_nil (not_not_intro hall)),
      if_pos hlimit]

end Numerals

/-! ## Steps -/

/-- A part leads from a value to one inside it: to the value under a key, or to the item at
    an index. -/
inductive Enters : Json → String → Json → Prop
  | key {fields : List (String × Json)} {part : String} {inner : Json} :
      Keyed.find? part fields = some inner → Enters (.object fields) part inner
  | index {items : List Json} {part : String} {n : Nat} {inner : Json} :
      Numeral part n → n < indexLimit → items[n]? = some inner → Enters (.array items) part inner

/-- Parts that lead from a value to another one, step by step. -/
inductive Leads : Json → List String → Json → Prop
  | here (value : Json) : Leads value [] value
  | into {value inner found : Json} {part : String} {rest : List String} :
      Enters value part inner → Leads inner rest found → Leads value (part :: rest) found

/-- A part that leads nowhere from a value. -/
inductive Blocked : Json → String → Prop
  | noKey {fields : List (String × Json)} {part : String} :
      Keyed.find? part fields = none → Blocked (.object fields) part
  | noNumeral {items : List Json} {part : String} :
      (∀ n, ¬ Numeral part n) → Blocked (.array items) part
  | tooLarge {items : List Json} {part : String} {n : Nat} :
      Numeral part n → indexLimit ≤ n → Blocked (.array items) part
  | outOfRange {items : List Json} {part : String} {n : Nat} :
      Numeral part n → items.length ≤ n → Blocked (.array items) part
  /-- There is nothing inside what is neither an object nor a list. -/
  | scalar {value : Json} (part : String) :
      (∀ fields, value ≠ .object fields) → (∀ items, value ≠ .array items) → Blocked value part

/-- Parts of which one leads nowhere from the value that those before it lead to. -/
inductive Stuck : Json → List String → Prop
  | now {value : Json} {part : String} (rest : List String) :
      Blocked value part → Stuck value (part :: rest)
  | later {value inner : Json} {part : String} {rest : List String} :
      Enters value part inner → Stuck inner rest → Stuck value (part :: rest)

section Lookup

variable {value inner found : Json} {part : String} {parts : List String}

theorem step_eq_some_iff : step value part = some inner ↔ Enters value part inner := by
  constructor
  · intro h
    cases value with
    | object fields => exact .key h
    | array items =>
      obtain ⟨n, hindex, hitem⟩ := Option.bind_eq_some_iff.1 h
      obtain ⟨hnumeral, hlimit⟩ := index?_eq_some_iff.1 hindex
      exact .index hnumeral hlimit hitem
    | null | bool | int | float | string => cases h
  · intro h
    cases h with
    | key hfound => exact hfound
    | index hnumeral hlimit hitem =>
      exact Option.bind_eq_some_iff.2 ⟨_, index?_eq_some_iff.2 ⟨hnumeral, hlimit⟩, hitem⟩

theorem blocked_of_step (h : step value part = none) : Blocked value part := by
  cases value with
  | object fields => exact .noKey h
  | array items =>
    by_cases hnumeral : ∃ n, Numeral part n
    · obtain ⟨n, hn⟩ := hnumeral
      by_cases hlimit : n < indexLimit
      · have hitem : items[n]? = none :=
          Option.bind_eq_none_iff.1 h n (index?_eq_some_iff.2 ⟨hn, hlimit⟩)
        exact .outOfRange hn (List.getElem?_eq_none_iff.1 hitem)
      · exact .tooLarge hn (Nat.le_of_not_lt hlimit)
    · exact .noNumeral (not_exists.1 hnumeral)
  | null | bool | int | float | string => exact .scalar part (by simp) (by simp)

theorem Blocked.not_enters (h : Blocked value part) : ¬ Enters value part inner := by
  intro henters
  cases henters with
  | key hfound =>
    cases h with
    | noKey hnone => rw [hnone] at hfound; cases hfound
    | scalar _ hobject => exact hobject _ rfl
  | index hnumeral hlimit hitem =>
    cases h with
    | noNumeral hnone => exact hnone _ hnumeral
    | tooLarge hnumeral' hlarge =>
      rw [hnumeral'.unique hnumeral] at hlarge
      exact Nat.not_lt_of_le hlarge hlimit
    | outOfRange hnumeral' hrange =>
      rw [hnumeral'.unique hnumeral] at hrange
      rw [List.getElem?_eq_none hrange] at hitem
      cases hitem
    | scalar _ _ harray => exact harray _ rfl

/-- A step is taken where a part leads somewhere, and only there. -/
theorem step_eq_none_iff : step value part = none ↔ Blocked value part := by
  refine ⟨blocked_of_step, fun h => Option.eq_none_iff_forall_ne_some.2 ?_⟩
  intro inner hstep
  exact h.not_enters (step_eq_some_iff.1 hstep)

theorem foldlM_step_eq_some_iff :
    parts.foldlM step value = some found ↔ Leads value parts found := by
  induction parts generalizing value with
  | nil =>
    constructor
    · intro h
      cases h
      exact .here _
    · intro h
      cases h
      rfl
  | cons part rest ih =>
    rw [List.foldlM_cons]
    constructor
    · intro h
      obtain ⟨inner, hstep, hrest⟩ := Option.bind_eq_some_iff.1 h
      exact .into (step_eq_some_iff.1 hstep) (ih.1 hrest)
    · intro h
      cases h with
      | into henters hleads =>
        exact Option.bind_eq_some_iff.2 ⟨_, step_eq_some_iff.2 henters, ih.2 hleads⟩

theorem foldlM_step_eq_none_iff : parts.foldlM step value = none ↔ Stuck value parts := by
  induction parts generalizing value with
  | nil =>
    constructor
    · intro h
      cases h
    · intro h
      cases h
  | cons part rest ih =>
    rw [List.foldlM_cons]
    constructor
    · intro h
      cases hstep : step value part with
      | none => exact .now rest (step_eq_none_iff.1 hstep)
      | some inner =>
        rw [hstep] at h
        exact .later (step_eq_some_iff.1 hstep) (ih.1 h)
    · intro h
      cases h with
      | now _ hblocked => rw [step_eq_none_iff.2 hblocked]; rfl
      | later henters hstuck =>
        rw [step_eq_some_iff.2 henters]
        exact ih.2 hstuck

/-- Parts lead to one value at most. -/
theorem Leads.unique {found' : Json} (h : Leads value parts found)
    (h' : Leads value parts found') : found = found' :=
  Option.some.inj ((foldlM_step_eq_some_iff.2 h).symm.trans (foldlM_step_eq_some_iff.2 h'))

/-- Parts that lead to no value get stuck, and those that get stuck lead to none. -/
theorem stuck_iff : Stuck value parts ↔ ¬ ∃ found, Leads value parts found := by
  rw [← foldlM_step_eq_none_iff, Option.eq_none_iff_forall_ne_some, not_exists]
  exact forall_congr' fun found => not_congr foldlM_step_eq_some_iff

end Lookup

/-! ## Names -/

section Names

variable {vars : Variables} {name : String} {found : Json}

/-- The variables are looked up as an object is. -/
theorem lookup_eq_foldlM (vars : Variables) (name : String) :
    lookup vars name = (Text.split '.' name).foldlM step (.object vars) := by
  unfold lookup
  cases hparts : Text.split '.' name with
  | nil => exact absurd hparts (Text.split_ne_nil '.' name)
  | cons first parts => rfl

theorem lookup_eq_some_iff :
    lookup vars name = some found ↔ Leads (.object vars) (Text.split '.' name) found := by
  rw [lookup_eq_foldlM, foldlM_step_eq_some_iff]

theorem lookup_eq_none_iff :
    lookup vars name = none ↔ Stuck (.object vars) (Text.split '.' name) := by
  rw [lookup_eq_foldlM, foldlM_step_eq_none_iff]

/-- What is shown for a name in braces: the text of the value that it leads to, or the name
    as it is, in its braces. -/
inductive Shows (vars : Variables) (name : String) : String → Prop
  | value {found : Json} :
      Leads (.object vars) (Text.split '.' name) found → Shows vars name (valueText found)
  | name : Stuck (.object vars) (Text.split '.' name) → Shows vars name ("\x7b" ++ name ++ "\x7d")

theorem Shows.unique {shown shown' : String} (h : Shows vars name shown)
    (h' : Shows vars name shown') : shown = shown' := by
  cases h with
  | value hleads =>
    cases h' with
    | value hleads' => rw [hleads.unique hleads']
    | name hstuck => exact absurd ⟨_, hleads⟩ (stuck_iff.1 hstuck)
  | name hstuck =>
    cases h' with
    | value hleads => exact absurd ⟨_, hleads⟩ (stuck_iff.1 hstuck)
    | name => rfl

/-- What stands for a placeholder is what is shown for its name. -/
theorem shows_value (vars : Variables) (inside : List Char) :
    Shows vars (String.ofList (Text.trim inside))
      (String.ofList (Token.value vars (.placeholder inside))) := by
  unfold Token.value
  dsimp only
  cases hlookup : lookup vars (String.ofList (Text.trim inside)) with
  | some found =>
    dsimp only
    rw [String.ofList_toList]
    exact .value (lookup_eq_some_iff.1 hlookup)
  | none =>
    have hleft := Shows.name (lookup_eq_none_iff.1 hlookup)
    have hbraces : String.ofList ('{' :: Text.trim inside ++ ['}']) =
        "\x7b" ++ String.ofList (Text.trim inside) ++ "\x7d" := by
      rw [String.ofList_append, String.ofList_cons]
      rfl
    dsimp only
    rw [hbraces]
    exact hleft

/-! ## Placeholders -/

/-- What can be reached can be named. -/
theorem render_of_leads {parts : List String} (hne : parts ≠ [])
    (h : Leads (.object vars) parts found)
    (hparts : ∀ part ∈ parts, '.' ∉ part.toList ∧ Braceless part.toList)
    (hsome : Text.join '.' parts ≠ "")
    (htrim : Text.trim (Text.join '.' parts).toList = (Text.join '.' parts).toList)
    (path : Option String) :
    render ("\x7b" ++ Text.join '.' parts ++ "\x7d") vars path = .ok (valueText found) := by
  have hsplit : Text.split '.' (Text.join '.' parts) = parts :=
    Text.split_join hne fun part hpart => (hparts part hpart).1
  have hbraceless : Braceless (Text.join '.' parts).toList := by
    constructor
    · intro hmem
      obtain ⟨part, hpart, hbrace⟩ := (Text.mem_join_iff (by decide)).1 hmem
      exact (hparts part hpart).2.1 hbrace
    · intro hmem
      obtain ⟨part, hpart, hbrace⟩ := (Text.mem_join_iff (by decide)).1 hmem
      exact (hparts part hpart).2.2 hbrace
  generalize Text.join '.' parts = name at *
  have hsimple : Token.Simple (.placeholder name.toList) := by
    refine ⟨hbraceless, ?_⟩
    rw [← Text.trim_eq_nil_iff, htrim]
    exact mt String.toList_eq_nil_iff.1 hsome
  have htemplate : "\x7b" ++ name ++ "\x7d" = template [.placeholder name.toList] := by
    apply String.toList_injective
    simp [template, Token.written]
  have hshown : Shows vars name (String.ofList (Token.value vars (.placeholder name.toList))) := by
    have hshows := shows_value vars name.toList
    rwa [htrim, String.ofList_toList] at hshows
  rw [htemplate, render_template (by simpa using hsimple), List.flatMap_singleton,
    hshown.unique (.value (hsplit ▸ h))]

/-- A placeholder with a name is never refused, and puts in what is shown for its name. -/
theorem render_placeholder {content : String} {before after : List Token} {inside : List Char}
    (h : Reads content.toList (before ++ .placeholder inside :: after))
    (hname : ¬ inside.all Text.isBlank) {shown : String}
    (hshown : Shows vars (String.ofList (Text.trim inside)) shown) (path : Option String)
    (text : String) :
    render content vars path = .ok text ↔
      (∀ token ∈ before ++ after, token.fault? = none) ∧
        text = String.ofList (before.flatMap (Token.value vars)) ++ shown ++
          String.ofList (after.flatMap (Token.value vars)) := by
  have hfaults : (before ++ .placeholder inside :: after).findSome? Token.fault? = none ↔
      ∀ token ∈ before ++ after, token.fault? = none := by
    have hsound : Token.fault? (.placeholder inside) = none := if_neg hname
    rw [List.findSome?_eq_none_iff]
    simp only [List.forall_mem_append, List.forall_mem_cons, hsound, true_and]
  have htext : String.ofList ((before ++ .placeholder inside :: after).flatMap (Token.value vars)) =
      String.ofList (before.flatMap (Token.value vars)) ++ shown ++
        String.ofList (after.flatMap (Token.value vars)) := by
    rw [hshown.unique (shows_value vars inside), List.flatMap_append, List.flatMap_cons,
      ← List.append_assoc, String.ofList_append, String.ofList_append]
  rw [render_of_reads h, ← hfaults, ← htext]
  cases (before ++ .placeholder inside :: after).findSome? Token.fault? <;> simp [eq_comm]

end Names

/-- **Dotted names.**  Whatever parts lead to a value, from a variable through keys and indices,
    the value is what a placeholder with the parts between dots renders to, if this can be
    a name at all: the parts have no dots or braces, and the name is not empty and has no
    white space around it.  Conversely, a placeholder anywhere in a template is replaced by
    the text of a value only if the parts of its name lead to this value.  In all other
    cases, and these are the ways to get stuck, its name is left in braces.  In no case is it
    the reason why a template is refused. -/
theorem render_dotted_names (vars : Variables) (path : Option String) :
    (∀ top parts found, Leads (.object vars) (top :: parts) found →
      (∀ part ∈ top :: parts, '.' ∉ part.toList ∧ Braceless part.toList) →
      Text.join '.' (top :: parts) ≠ "" →
      Text.trim (Text.join '.' (top :: parts)).toList = (Text.join '.' (top :: parts)).toList →
      render ("\x7b" ++ Text.join '.' (top :: parts) ++ "\x7d") vars path =
        .ok (valueText found)) ∧
    (∀ content before inside after,
      Reads content.toList (before ++ .placeholder inside :: after) → ¬ inside.all Text.isBlank →
      ∃ shown, (∀ other, Shows vars (String.ofList (Text.trim inside)) other ↔ other = shown) ∧
        ∀ text, render content vars path = .ok text ↔
          (∀ token ∈ before ++ after, token.fault? = none) ∧
            text = String.ofList (before.flatMap (Token.value vars)) ++ shown ++
              String.ofList (after.flatMap (Token.value vars))) ∧
    ∀ parts, Stuck (.object vars) parts ↔ ¬ ∃ found, Leads (.object vars) parts found := by
  refine ⟨?_, ?_, fun parts => stuck_iff⟩
  · intro top parts found hleads hparts hsome htrim
    exact render_of_leads (List.cons_ne_nil top parts) hleads hparts hsome htrim path
  · intro content before inside after hreads hname
    have hshown := shows_value vars inside
    refine ⟨_, fun other => ⟨fun h => h.unique hshown, fun h => h ▸ hshown⟩, ?_⟩
    exact render_placeholder hreads hname hshown path

/-- An item whose only key looks like an index. -/
def nested : Variables := [("a", .array [.object [("0", .string "x")]])]

/-- The same part is an index first and then a key; the index may have zeros in front, but must
    not be out of range. -/
theorem render_dotted_names_mixed :
    Leads (.object nested) ["a", "0", "0"] (.string "x") ∧
    render "{a.0.0}" nested none = .ok "x" ∧
    Stuck (.object nested) ["a", "1", "0"] ∧
    render "{a.00.0}, { a.1.0 }!" nested none = .ok "x, {a.1.0}!" := by
  obtain ⟨hreached, hplaceholders, -⟩ := render_dotted_names nested none
  have hitem : Enters (.array [.object [("0", .string "x")]]) "0" (.object [("0", .string "x")]) :=
    .index (numeral_toString 0) (by decide) rfl
  have hleads : Leads (.object nested) ["a", "0", "0"] (.string "x") :=
    .into (.key rfl) (.into hitem (.into (.key rfl) (.here _)))
  have hstuck : Stuck (.object nested) ["a", "1", "0"] :=
    .later (.key rfl) (.now ["0"] (.outOfRange (numeral_toString 1) (by decide)))
  have hname := hreached "a" ["0", "0"] _ hleads (by decide) (by decide) (by decide)
  refine ⟨hleads, hname, hstuck, ?_⟩
  have hsimple : ∀ token ∈ [.placeholder "a.00.0".toList, .plain ',', .plain ' ',
      .placeholder " a.1.0 ".toList, .plain '!'], Token.Simple token := by decide
  obtain ⟨shown, hshown, hrender⟩ := hplaceholders "{a.00.0}, { a.1.0 }!"
    [.placeholder "a.00.0".toList, .plain ',', .plain ' '] " a.1.0 ".toList [.plain '!']
    (reads_of_simple hsimple) (by decide)
  obtain rfl := (hshown _).1 (.name hstuck)
  exact (hrender _).2 ⟨by decide, by decide +kernel⟩

end RenderChain.Placeholder
