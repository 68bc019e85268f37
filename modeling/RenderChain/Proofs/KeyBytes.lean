/-
  RenderChain/Proofs/KeyBytes.lean
  ================================
  **Reading the fields of a cache key back from its bytes.**

  What a cache key is the digest of is a path, a count of eight bytes, a mime
  type, the engine keys and the hash of a template, with a zero byte after the
  path, after the mime type and after the engine keys.  Paths may hold zero
  bytes and the count mostly does, so the separators are not the only zero bytes
  there are.  The fields can be read back nevertheless:

    * from the right, if the mime type, the engine keys and the hash hold no zero
      byte: the last zero byte but one ends the mime type, and if the count is
      below `2 ^ 56`, its last byte is the one before the mime type
      (`keyBytes_inj`);
    * from the left, if the path is known: the count has a fixed length, and the
      fields after it end at the first zero byte (`keyBytes_eq_iff`).
-/
import Mathlib.Algebra.Group.Nat.Defs
import Mathlib.Data.List.Basic
import RenderChain.Pipeline

namespace RenderChain

/-! ## Bytes of texts -/

theorem toList_loop_eq (b : ByteArray) (i : Nat) (acc : List UInt8) :
    ByteArray.toList.loop b i acc = acc.reverse ++ b.data.toList.drop i := by
  fun_induction ByteArray.toList.loop b i acc with
  | case1 i acc hlt ih =>
    have hi : i < b.data.toList.length := by simpa using hlt
    have hget : b.get! i = b.data.toList.get ⟨i, hi⟩ := by
      rw [List.get_eq_getElem, Array.getElem_toList]
      exact getElem!_pos b.data i hlt
    rw [ih, List.reverse_cons, List.append_assoc, hget, List.singleton_append,
      List.get_eq_getElem, ← List.drop_eq_getElem_cons]
  | case2 i acc hge =>
    rw [List.drop_eq_nil_of_le (by simpa using hge), List.append_nil]

theorem toList_toUTF8 (s : String) :
    s.toUTF8.toList = s.toList.flatMap String.utf8EncodeChar := by
  have hbytes : s.toUTF8 = s.toList.utf8Encode := String.utf8Encode_toList.symm
  have hlist : s.toUTF8.toList = s.toUTF8.data.toList := toList_loop_eq s.toUTF8 0 []
  rw [hlist, hbytes, List.utf8Encode, List.toList_data_toByteArray]

theorem toUTF8_inj {s t : String} (h : s.toUTF8.toList = t.toUTF8.toList) : s = t := by
  have hs : s.toUTF8.toList = s.toUTF8.data.toList := toList_loop_eq s.toUTF8 0 []
  have ht : t.toUTF8.toList = t.toUTF8.data.toList := toList_loop_eq t.toUTF8 0 []
  rw [hs, ht] at h
  exact String.toByteArray_inj.1 (ByteArray.ext (Array.toList_inj.1 h))

/-- No character but NUL is encoded with a zero byte. -/
theorem zero_mem_utf8EncodeChar_iff (c : Char) :
    0 ∈ String.utf8EncodeChar c ↔ c = '\x00' := by
  have hval : c = '\x00' ↔ c.val.toNat = 0 := by
    rw [← Char.val_inj, ← UInt32.toNat_inj]
    rfl
  rw [hval]
  unfold String.utf8EncodeChar
  dsimp only
  have hbyte : ∀ n : Nat, (0 : UInt8) = UInt8.ofNat n ↔ n % 256 = 0 := by
    intro n
    rw [← UInt8.toNat_inj, UInt8.toNat_ofNat']
    exact eq_comm
  split
  · simp only [List.mem_singleton, hbyte]
    omega
  · split
    · simp only [List.mem_cons, List.not_mem_nil, or_false, hbyte]
      omega
    · split
      · simp only [List.mem_cons, List.not_mem_nil, or_false, hbyte]
        omega
      · simp only [List.mem_cons, List.not_mem_nil, or_false, hbyte]
        omega

theorem zero_mem_toUTF8_iff (s : String) : 0 ∈ s.toUTF8.toList ↔ '\x00' ∈ s.toList := by
  rw [toList_toUTF8, List.mem_flatMap]
  constructor
  · rintro ⟨c, hc, hzero⟩
    rwa [← (zero_mem_utf8EncodeChar_iff c).1 hzero]
  · intro h
    exact ⟨_, h, (zero_mem_utf8EncodeChar_iff _).2 rfl⟩

/-! ## Separators -/

section Separators

variable {α : Type} {a a' b b' : List α} {sep : α}

/-- A text that holds no separator is what stands in front of the first one. -/
theorem cut_first (ha : sep ∉ a) (ha' : sep ∉ a') (h : a ++ sep :: b = a' ++ sep :: b') :
    a = a' ∧ b = b' := by
  induction a generalizing a' with
  | nil =>
    cases a' with
    | nil => exact ⟨rfl, (List.cons.inj h).2⟩
    | cons x rest =>
      have hx : sep = x := (List.cons.inj h).1
      exact absurd (hx ▸ List.mem_cons_self) ha'
  | cons x rest ih =>
    cases a' with
    | nil =>
      have hx : x = sep := (List.cons.inj h).1
      exact absurd (hx ▸ List.mem_cons_self) ha
    | cons x' rest' =>
      obtain ⟨rfl, htail⟩ := List.cons.inj h
      obtain ⟨rfl, rfl⟩ := ih (fun hmem => ha (List.mem_cons_of_mem _ hmem))
        (fun hmem => ha' (List.mem_cons_of_mem _ hmem)) htail
      exact ⟨rfl, rfl⟩

/-- A text that holds no separator is what stands behind the last one. -/
theorem cut_last (hb : sep ∉ b) (hb' : sep ∉ b') (h : a ++ sep :: b = a' ++ sep :: b') :
    a = a' ∧ b = b' := by
  have hreverse : b.reverse ++ sep :: a.reverse = b'.reverse ++ sep :: a'.reverse := by
    simpa using congrArg List.reverse h
  obtain ⟨hback, hfront⟩ :=
    cut_first (by simpa using hb) (by simpa using hb') hreverse
  exact ⟨List.reverse_injective hfront, List.reverse_injective hback⟩

end Separators

/-! ## The count -/

namespace Pipeline

theorem length_littleEndian64 (n : Nat) : (littleEndian64 n).length = 8 := rfl

/-- Numbers agree below `a * b` if they agree below `a` and in the next digit. -/
theorem mod_mul_eq_iff {n m a b : Nat} :
    n % (a * b) = m % (a * b) ↔ n % a = m % a ∧ n / a % b = m / a % b := by
  constructor
  · intro h
    refine ⟨?_, ?_⟩
    · rw [← Nat.mod_mul_right_mod n a b, h, Nat.mod_mul_right_mod]
    · rw [← Nat.mod_mul_right_div_self n a b, h, Nat.mod_mul_right_div_self]
  · rintro ⟨hlow, hdigit⟩
    rw [Nat.mod_mul, Nat.mod_mul, hlow, hdigit]

/-- The eight bytes are those of the count below `2 ^ 64`. -/
theorem littleEndian64_eq_iff {n m : Nat} :
    littleEndian64 n = littleEndian64 m ↔ n % 2 ^ 64 = m % 2 ^ 64 := by
  have hbyte : ∀ i j : Nat, (i % 256).toUInt8 = (j % 256).toUInt8 ↔ i % 256 = j % 256 := by
    intro i j
    rw [← UInt8.toNat_inj, Nat.toUInt8_eq, Nat.toUInt8_eq, UInt8.toNat_ofNat',
      UInt8.toNat_ofNat', Nat.mod_mod, Nat.mod_mod]
  -- one digit after the other, from the most significant one
  have hdigits : (2 : Nat) ^ 64 =
      2 ^ 0 * 256 * 256 * 256 * 256 * 256 * 256 * 256 * 256 := by decide
  rw [hdigits]
  simp only [mod_mul_eq_iff]
  simp only [littleEndian64, Digest.bigEndian64, List.reverse_inj, List.map_cons, List.map_nil,
    List.cons.injEq, hbyte, Nat.pow_eq, Nat.reducePow, Nat.reduceMul, Nat.mod_one, and_true,
    true_and]
  tauto

/-- Of a count below `2 ^ 56` the last byte is zero. -/
theorem exists_littleEndian64 {n : Nat} (h : n < 2 ^ 56) :
    ∃ low, littleEndian64 n = low ++ [0] := by
  have hlast : n / 2 ^ 56 % 256 = 0 := by omega
  refine ⟨(littleEndian64 n).take 7, ?_⟩
  have hzero : (n / 2 ^ 56 % 256).toUInt8 = 0 := by
    rw [hlast]
    rfl
  rw [← hzero]
  rfl

/-! ## Keys -/

section Keys

variable {path path' mimetype mimetype' content content' : String} {generation generation' : Nat}
  {engines engines' : List String}

/-- Of one path, the bytes of a key tell the count below `2 ^ 64`, the mime type, the dotted
    engine keys and the hash of the template. -/
theorem keyBytes_eq_iff (hmime : '\x00' ∉ mimetype.toList) (hmime' : '\x00' ∉ mimetype'.toList)
    (hengines : '\x00' ∉ (dotted engines).toList)
    (hengines' : '\x00' ∉ (dotted engines').toList) :
    keyBytes path generation mimetype engines content =
        keyBytes path generation' mimetype' engines' content' ↔
      generation % 2 ^ 64 = generation' % 2 ^ 64 ∧ mimetype = mimetype' ∧
        dotted engines = dotted engines' ∧ content = content' := by
  rw [← zero_mem_toUTF8_iff] at hmime hmime' hengines hengines'
  constructor
  · intro h
    unfold keyBytes at h
    simp only [List.append_assoc, List.cons_append, List.append_cancel_left_eq,
      List.cons.injEq, true_and] at h
    obtain ⟨hcount, h⟩ :=
      List.append_inj h ((length_littleEndian64 _).trans (length_littleEndian64 _).symm)
    obtain ⟨hm, h⟩ := cut_first hmime hmime' h
    obtain ⟨he, hc⟩ := cut_first hengines hengines' h
    exact ⟨littleEndian64_eq_iff.1 hcount, toUTF8_inj hm, toUTF8_inj he, toUTF8_inj hc⟩
  · rintro ⟨hcount, rfl, he, rfl⟩
    unfold keyBytes
    rw [littleEndian64_eq_iff.2 hcount, show Text.join '.' engines = Text.join '.' engines' from he]

/-- Of one count below `2 ^ 56`, the bytes of a key tell the path as well, and with it all
    that belongs to the path. -/
theorem keyBytes_inj (hgeneration : generation < 2 ^ 56) (hmime : '\x00' ∉ mimetype.toList)
    (hmime' : '\x00' ∉ mimetype'.toList) (hengines : '\x00' ∉ (dotted engines).toList)
    (hengines' : '\x00' ∉ (dotted engines').toList) (hcontent : '\x00' ∉ content.toList)
    (hcontent' : '\x00' ∉ content'.toList)
    (h : keyBytes path generation mimetype engines content =
      keyBytes path' generation mimetype' engines' content') :
    path = path' ∧ mimetype = mimetype' ∧ dotted engines = dotted engines' ∧
      content = content' := by
  rw [← zero_mem_toUTF8_iff] at hmime hmime' hengines hengines' hcontent hcontent'
  obtain ⟨low, hlow⟩ := exists_littleEndian64 hgeneration
  unfold keyBytes at h
  rw [hlow] at h
  -- from the right: the hash, the engine keys, the mime type
  obtain ⟨h, hc⟩ := cut_last hcontent hcontent' h
  obtain ⟨h, he⟩ := cut_last hengines hengines' h
  have hsplit : ∀ (front : List UInt8) (mime : List UInt8),
      front ++ 0 :: (low ++ [0]) ++ mime = (front ++ 0 :: low) ++ 0 :: mime := by
    intro front mime
    simp
  rw [hsplit, hsplit] at h
  obtain ⟨h, hm⟩ := cut_last hmime hmime' h
  have hpath := List.append_cancel_right h
  exact ⟨toUTF8_inj hpath, toUTF8_inj hm, toUTF8_inj he, toUTF8_inj hc⟩

end Keys

end Pipeline

/-! ## Texts without NUL -/

theorem nul_not_mem_hexDigit {n : Nat} (h : n < 16) : Text.hexDigit n ≠ '\x00' := by
  have hall : ∀ n : Fin 16, Text.hexDigit n ≠ '\x00' := by decide
  exact hall ⟨n, h⟩

theorem nul_not_mem_hex (message : List UInt8) : '\x00' ∉ (Digest.hex message).toList := by
  unfold Digest.hex Text.hexBytes
  dsimp only
  rw [String.toList_ofList]
  intro hmem
  obtain ⟨b, -, hdigit⟩ := List.mem_flatMap.1 hmem
  have hb : b.toNat < 256 := b.toNat_lt
  rcases List.mem_cons.1 hdigit with hhigh | hlow
  · exact nul_not_mem_hexDigit (by omega) hhigh.symm
  · exact nul_not_mem_hexDigit (by omega) (List.mem_singleton.1 hlow).symm

/-- Joining texts at periods adds periods only. -/
theorem mem_dotted {c : Char} {segments : List String} (h : c ∈ (dotted segments).toList) :
    c = '.' ∨ ∃ s ∈ segments, c ∈ s.toList := by
  unfold dotted Text.join at h
  rw [String.toList_ofList] at h
  induction segments with
  | nil => cases h
  | cons s rest ih =>
    cases rest with
    | nil => exact .inr ⟨s, List.mem_cons_self, h⟩
    | cons t others =>
      rcases List.mem_append.1 h with hs | hrest
      · exact .inr ⟨s, List.mem_cons_self, hs⟩
      · rcases List.mem_cons.1 hrest with hdot | hrest
        · exact .inl hdot
        · rcases ih hrest with hdot | ⟨t, ht, hc⟩
          · exact .inl hdot
          · exact .inr ⟨t, List.mem_cons_of_mem _ ht, hc⟩

theorem nul_not_mem_dotted {segments : List String} (h : ∀ s ∈ segments, '\x00' ∉ s.toList) :
    '\x00' ∉ (dotted segments).toList := by
  intro hmem
  rcases mem_dotted hmem with hdot | ⟨s, hs, hnul⟩
  · exact absurd hdot (by decide)
  · exact h s hs hnul

/-- Keys without periods, none of them empty, can be read back from their dotted form. -/
theorem dotted_inj {keys keys' : List String} (h : ∀ key ∈ keys, key ≠ "" ∧ '.' ∉ key.toList)
    (h' : ∀ key ∈ keys', key ≠ "" ∧ '.' ∉ key.toList) (hdotted : dotted keys = dotted keys') :
    keys = keys' := by
  have hsplit : ∀ keys : List String, (∀ key ∈ keys, key ≠ "" ∧ '.' ∉ key.toList) →
      (Text.split '.' (dotted keys)).filter (· ≠ "") = keys := by
    intro keys h
    have hfilter : keys.filter (· ≠ "") = keys :=
      List.filter_eq_self.2 fun key hkey => by simpa using (h key hkey).1
    by_cases hnil : keys = []
    · subst hnil
      rfl
    · rw [show dotted keys = Text.join '.' keys from rfl,
        Text.split_join hnil fun key hkey => (h key hkey).2, hfilter]
  rw [← hsplit keys h, ← hsplit keys' h', hdotted]

end RenderChain
