import GuestHost.Text.Utf8
import Mathlib.Tactic.SplitIfs

/-! # Text is what characters are encoded to

The bytes of a text are the encodings of its characters, put one after the other
(`Utf8.encodings`).  Reading turns such bytes back into the characters, and no others.

* **One character.**  An encoding has one to four bytes, which one depends on the number of the
  character alone (`encode_one`, `encode_two`, `encode_three`, `encode_four`).  Reading a character
  from the front of some bytes succeeds exactly when they begin with its encoding
  (`scalar?_encode_append`, `eq_encode_append`).
* **All characters.**  What has been read and what is left make up the bytes
  (`encodings_append_scan`), and encodings are read to their end (`scan_encodings_append`).

`decode_eq_ok_iff` puts this together. -/

namespace GuestHost
namespace Utf8

/-- The encodings of characters, one after the other. -/
def encodings (cs : List Char) : List UInt8 := cs.flatMap String.utf8EncodeChar

/-- Bytes are well-formed if they are the encodings of some characters. -/
def WellFormed (bs : List UInt8) : Prop := ∃ cs, bs = encodings cs

theorem encodings_cons (c : Char) (cs : List Char) :
    encodings (c :: cs) = String.utf8EncodeChar c ++ encodings cs := rfl

theorem encode_ofList (cs : List Char) : encode (String.ofList cs) = (encodings cs).toArray := by
  simp [encode, List.utf8Encode, encodings]

/-! ### Bytes and numbers -/

theorem toNat_scalar (c : Char) :
    c.toNat < 0xD800 ∨ (0xDFFF < c.toNat ∧ c.toNat < 0x110000) := c.valid

theorem toNat_char {n : Nat} (h : n < 0xD800 ∨ (0xDFFF < n ∧ n < 0x110000)) :
    (Char.ofNat n).toNat = n := by
  have hvalid : n.isValidChar := h
  rw [Char.ofNat, dif_pos hvalid]
  rfl

theorem isContinuation_iff (b : UInt8) :
    isContinuation b = true ↔ 0x80 ≤ b.toNat ∧ b.toNat < 0xC0 := by
  simp [isContinuation, UInt8.le_iff_toNat_le, UInt8.lt_iff_toNat_lt]

theorem toNat_byte {n : Nat} (h : n < 256) : (UInt8.ofNat n).toNat = n := by
  rw [UInt8.toNat_ofNat']
  exact Nat.mod_eq_of_lt h

theorem byte_eq {n : Nat} {b : UInt8} (h : n = b.toNat) : UInt8.ofNat n = b := by
  rw [h, UInt8.ofNat_toNat]

/-! ### The encoding of a character -/

section encode
variable {c : Char}

theorem encode_one (h : c.toNat < 0x80) : String.utf8EncodeChar c = [UInt8.ofNat c.toNat] := by
  have hn : c.val.toNat = c.toNat := rfl
  simp only [String.utf8EncodeChar, hn]
  rw [if_pos (by omega)]

theorem encode_two (hlow : 0x80 ≤ c.toNat) (hhigh : c.toNat < 0x800) :
    String.utf8EncodeChar c
      = [UInt8.ofNat (c.toNat / 64 + 0xC0), UInt8.ofNat (c.toNat % 64 + 0x80)] := by
  have hn : c.val.toNat = c.toNat := rfl
  simp only [String.utf8EncodeChar, hn]
  rw [if_neg (by omega), if_pos (by omega), Nat.mod_eq_of_lt (b := 32) (by omega)]

theorem encode_three (hlow : 0x800 ≤ c.toNat) (hhigh : c.toNat < 0x10000) :
    String.utf8EncodeChar c = [UInt8.ofNat (c.toNat / 4096 + 0xE0),
      UInt8.ofNat (c.toNat / 64 % 64 + 0x80), UInt8.ofNat (c.toNat % 64 + 0x80)] := by
  have hn : c.val.toNat = c.toNat := rfl
  simp only [String.utf8EncodeChar, hn]
  rw [if_neg (by omega), if_neg (by omega), if_pos (by omega), Nat.mod_eq_of_lt (b := 16) (by omega)]

theorem encode_four (hlow : 0x10000 ≤ c.toNat) :
    String.utf8EncodeChar c = [UInt8.ofNat (c.toNat / 262144 + 0xF0),
      UInt8.ofNat (c.toNat / 4096 % 64 + 0x80), UInt8.ofNat (c.toNat / 64 % 64 + 0x80),
      UInt8.ofNat (c.toNat % 64 + 0x80)] := by
  have hn : c.val.toNat = c.toNat := rfl
  have hscalar := toNat_scalar c
  simp only [String.utf8EncodeChar, hn]
  rw [if_neg (by omega), if_neg (by omega), if_neg (by omega), Nat.mod_eq_of_lt (b := 8) (by omega)]

end encode

/-! ### Reading one character -/

section read
variable {b c d e : UInt8} {x : Char} {r : List UInt8}

theorem pair?_eq_some {n : Nat} (hb : b.toNat = n / 64 + 0xC0) (hc : c.toNat = n % 64 + 0x80) :
    pair? b c = some (Char.ofNat n) := by
  have hcont : isContinuation c = true := (isContinuation_iff c).mpr (by omega)
  have hn : (b.toNat - 0xC0) * 64 + low c = n := by
    unfold low
    omega
  rw [pair?, if_pos hcont, hn]

theorem triple?_eq_some {n : Nat} (hb : b.toNat = n / 4096 + 0xE0)
    (hc : c.toNat = n / 64 % 64 + 0x80) (hd : d.toNat = n % 64 + 0x80) (hlow : 0x800 ≤ n)
    (hscalar : n < 0xD800 ∨ 0xDFFF < n) : triple? b c d = some (Char.ofNat n) := by
  have hc' : isContinuation c = true := (isContinuation_iff c).mpr (by omega)
  have hd' : isContinuation d = true := (isContinuation_iff d).mpr (by omega)
  have hn : (b.toNat - 0xE0) * 4096 + low c * 64 + low d = n := by
    unfold low
    omega
  simp only [triple?, hc', hd', hn, Bool.true_and]
  rw [if_pos]
  simp only [Bool.and_eq_true, Bool.not_eq_true', Bool.and_eq_false_iff, decide_eq_true_eq,
    decide_eq_false_iff_not]
  omega

theorem quad?_eq_some {n : Nat} (hb : b.toNat = n / 262144 + 0xF0)
    (hc : c.toNat = n / 4096 % 64 + 0x80) (hd : d.toNat = n / 64 % 64 + 0x80)
    (he : e.toNat = n % 64 + 0x80) (hlow : 0x10000 ≤ n) (hhigh : n < 0x110000) :
    quad? b c d e = some (Char.ofNat n) := by
  have hc' : isContinuation c = true := (isContinuation_iff c).mpr (by omega)
  have hd' : isContinuation d = true := (isContinuation_iff d).mpr (by omega)
  have he' : isContinuation e = true := (isContinuation_iff e).mpr (by omega)
  have hn : (b.toNat - 0xF0) * 262144 + low c * 4096 + low d * 64 + low e = n := by
    unfold low
    omega
  simp only [quad?, hc', hd', he', hn, Bool.true_and]
  rw [if_pos]
  simp only [Bool.and_eq_true, decide_eq_true_eq]
  exact ⟨hlow, hhigh⟩

theorem encode_of_pair? (hlow : 0xC2 ≤ b.toNat) (hhigh : b.toNat < 0xE0) (h : pair? b c = some x) :
    String.utf8EncodeChar x = [b, c] := by
  unfold pair? at h
  split_ifs at h with hcont
  rw [isContinuation_iff] at hcont
  obtain rfl := Option.some.inj h
  have hx : (Char.ofNat ((b.toNat - 0xC0) * 64 + low c)).toNat = (b.toNat - 0xC0) * 64 + low c :=
    toNat_char (by unfold low; omega)
  unfold low at hx
  rw [encode_two (by unfold low; omega) (by unfold low; omega)]
  unfold low
  rw [byte_eq (b := b) (by omega), byte_eq (b := c) (by omega)]

theorem encode_of_triple? (hlow : 0xE0 ≤ b.toNat) (hhigh : b.toNat < 0xF0)
    (h : triple? b c d = some x) : String.utf8EncodeChar x = [b, c, d] := by
  simp only [triple?] at h
  split_ifs at h with hcond
  simp only [Bool.and_eq_true, isContinuation_iff, decide_eq_true_eq, Bool.not_eq_true',
    Bool.and_eq_false_iff, decide_eq_false_iff_not] at hcond
  unfold low at hcond h
  obtain rfl := Option.some.inj h
  have hx := toNat_char (n := (b.toNat - 0xE0) * 4096 + (c.toNat - 0x80) * 64 + (d.toNat - 0x80))
    (by omega)
  rw [encode_three (by omega) (by omega), byte_eq (b := b) (by omega), byte_eq (b := c) (by omega),
    byte_eq (b := d) (by omega)]

theorem encode_of_quad? (hlow : 0xF0 ≤ b.toNat) (h : quad? b c d e = some x) :
    String.utf8EncodeChar x = [b, c, d, e] := by
  simp only [quad?] at h
  split_ifs at h with hcond
  simp only [Bool.and_eq_true, isContinuation_iff, decide_eq_true_eq] at hcond
  unfold low at hcond h
  obtain rfl := Option.some.inj h
  have hx := toNat_char (n := (b.toNat - 0xF0) * 262144 + (c.toNat - 0x80) * 4096
    + (d.toNat - 0x80) * 64 + (e.toNat - 0x80)) (by omega)
  rw [encode_four (by omega), byte_eq (b := b) (by omega), byte_eq (b := c) (by omega),
    byte_eq (b := d) (by omega), byte_eq (b := e) (by omega)]

/-- The first byte tells how many bytes to read. -/
theorem scalar?_cons (b : UInt8) (r : List UInt8) :
    scalar? (b :: r) =
      if b.toNat < 0x80 then some (Char.ofNat b.toNat, r)
      else if b.toNat < 0xC2 then none
      else if b.toNat < 0xE0 then
        match r with
        | c :: r' => (pair? b c).map (·, r')
        | _ => none
      else if b.toNat < 0xF0 then
        match r with
        | c :: d :: r' => (triple? b c d).map (·, r')
        | _ => none
      else if b.toNat < 0xF5 then
        match r with
        | c :: d :: e :: r' => (quad? b c d e).map (·, r')
        | _ => none
      else none := by
  simp only [scalar?, UInt8.lt_iff_toNat_lt]
  rfl

theorem scalar?_encode_append (x : Char) (r : List UInt8) :
    scalar? (String.utf8EncodeChar x ++ r) = some (x, r) := by
  have hscalar := toNat_scalar x
  have hx : Char.ofNat x.toNat = x := Char.ofNat_toNat x
  by_cases h1 : x.toNat < 0x80
  · have hb := toNat_byte (n := x.toNat) (by omega)
    rw [encode_one h1, List.cons_append, scalar?_cons, if_pos (by omega), hb, hx]
    rfl
  by_cases h2 : x.toNat < 0x800
  · have hb := toNat_byte (n := x.toNat / 64 + 0xC0) (by omega)
    have hc := toNat_byte (n := x.toNat % 64 + 0x80) (by omega)
    rw [encode_two (by omega) h2, List.cons_append, scalar?_cons, if_neg (by omega),
      if_neg (by omega), if_pos (by omega)]
    simp only [List.cons_append, List.nil_append]
    rw [pair?_eq_some hb hc, hx]
    rfl
  by_cases h3 : x.toNat < 0x10000
  · have hb := toNat_byte (n := x.toNat / 4096 + 0xE0) (by omega)
    have hc := toNat_byte (n := x.toNat / 64 % 64 + 0x80) (by omega)
    have hd := toNat_byte (n := x.toNat % 64 + 0x80) (by omega)
    rw [encode_three (by omega) h3, List.cons_append, scalar?_cons, if_neg (by omega),
      if_neg (by omega), if_neg (by omega), if_pos (by omega)]
    simp only [List.cons_append, List.nil_append]
    rw [triple?_eq_some hb hc hd (by omega) (by omega), hx]
    rfl
  · have hb := toNat_byte (n := x.toNat / 262144 + 0xF0) (by omega)
    have hc := toNat_byte (n := x.toNat / 4096 % 64 + 0x80) (by omega)
    have hd := toNat_byte (n := x.toNat / 64 % 64 + 0x80) (by omega)
    have he := toNat_byte (n := x.toNat % 64 + 0x80) (by omega)
    rw [encode_four (by omega), List.cons_append, scalar?_cons, if_neg (by omega),
      if_neg (by omega), if_neg (by omega), if_neg (by omega), if_pos (by omega)]
    simp only [List.cons_append, List.nil_append]
    rw [quad?_eq_some hb hc hd he (by omega) (by omega), hx]
    rfl

theorem eq_encode_append {bs : List UInt8} (h : scalar? bs = some (x, r)) :
    bs = String.utf8EncodeChar x ++ r := by
  cases bs with
  | nil => cases h
  | cons b bs =>
      rw [scalar?_cons] at h
      split_ifs at h with h1 h2 h3 h4 h5
      · obtain ⟨rfl, rfl⟩ := Prod.mk.inj (Option.some.inj h)
        have hx := toNat_char (n := b.toNat) (by omega)
        rw [encode_one (by omega), hx, byte_eq rfl]
        rfl
      · split at h
        · obtain ⟨y, hy, hr⟩ := Option.map_eq_some_iff.mp h
          obtain ⟨rfl, rfl⟩ := Prod.mk.inj hr
          rw [encode_of_pair? (by omega) h3 hy]
          rfl
        · cases h
      · split at h
        · obtain ⟨y, hy, hr⟩ := Option.map_eq_some_iff.mp h
          obtain ⟨rfl, rfl⟩ := Prod.mk.inj hr
          rw [encode_of_triple? (by omega) h4 hy]
          rfl
        · cases h
      · split at h
        · obtain ⟨y, hy, hr⟩ := Option.map_eq_some_iff.mp h
          obtain ⟨rfl, rfl⟩ := Prod.mk.inj hr
          rw [encode_of_quad? (by omega) hy]
          rfl
        · cases h

end read

/-! ### Reading all characters -/

theorem encodings_append_scan (acc : List Char) (bs : List UInt8) :
    ∃ cs, (scan acc bs).1 = acc.reverse ++ cs ∧ bs = encodings cs ++ (scan acc bs).2 := by
  fun_induction scan acc bs with
  | case1 acc bs h => exact ⟨[], by simp, rfl⟩
  | case2 acc bs c r h ih =>
      obtain ⟨cs, hcs, hr⟩ := ih
      refine ⟨c :: cs, ?_, ?_⟩
      · rw [hcs, List.reverse_cons, List.append_assoc]
        rfl
      · rw [encodings_cons, List.append_assoc, ← hr]
        exact eq_encode_append h

theorem scan_of_some {acc : List Char} {bs r : List UInt8} {c : Char}
    (h : scalar? bs = some (c, r)) : scan acc bs = scan (c :: acc) r := by
  rw [scan]
  split
  · rename_i hnone
    rw [hnone] at h
    cases h
  · rename_i c' r' hsome
    rw [hsome] at h
    obtain ⟨rfl, rfl⟩ := Prod.mk.inj (Option.some.inj h)
    rfl

theorem scan_encodings_append (acc cs : List Char) (rest : List UInt8) :
    scan acc (encodings cs ++ rest) = scan (cs.reverse ++ acc) rest := by
  induction cs generalizing acc with
  | nil => rfl
  | cons c cs ih =>
      rw [encodings_cons, List.append_assoc,
        scan_of_some (scalar?_encode_append c (encodings cs ++ rest)), ih, List.reverse_cons,
        List.append_assoc]
      rfl

theorem scan_nil (acc : List Char) : scan acc [] = (acc.reverse, []) := by
  rw [scan]
  rfl

/-- **Reading a text** gives the characters whose encodings are its bytes. -/
theorem decode_eq_ok_iff {bs : List UInt8} {cs : List Char} :
    decode bs = .ok cs ↔ bs = encodings cs := by
  constructor
  · intro h
    obtain ⟨ds, hds, hbs⟩ := encodings_append_scan [] bs
    unfold decode at h
    split at h
    · rename_i ds' hscan
      rw [hscan] at hds hbs
      cases h
      rw [hbs, List.append_nil]
      exact congrArg encodings hds.symm
    · cases h
  · rintro rfl
    have hscan := scan_encodings_append [] cs []
    rw [List.append_nil, List.append_nil, scan_nil, List.reverse_reverse] at hscan
    simp only [decode, hscan]

theorem wellFormed_iff {bs : List UInt8} : WellFormed bs ↔ ∃ cs, decode bs = .ok cs :=
  exists_congr fun _ => decode_eq_ok_iff.symm

theorem encode_of_decode {b : Bytes} {cs : List Char} (h : decode b.toList = .ok cs) :
    encode (String.ofList cs) = b := by
  rw [encode_ofList, ← decode_eq_ok_iff.mp h]

theorem toList_encode (s : String) : (encode s).toList = encodings s.toList := by
  conv => lhs; rw [← String.ofList_toList (s := s), encode_ofList]

theorem text?_encode (s : String) : text? (encode s) = some s := by
  have hdecode : decode (encode s).toList = .ok s.toList :=
    decode_eq_ok_iff.mpr (toList_encode s)
  rw [text?, hdecode]
  exact congrArg some String.ofList_toList

theorem encode_of_text? {b : Bytes} {s : String} (h : text? b = some s) : encode s = b := by
  unfold text? at h
  split at h
  · rename_i cs hcs
    obtain rfl := Option.some.inj h
    exact encode_of_decode hcs
  · cases h

theorem encode_inj {s s' : String} (h : encode s = encode s') : s = s' := by
  have htext := text?_encode s
  rw [h, text?_encode] at htext
  exact (Option.some.inj htext).symm

theorem encode_append (s s' : String) : encode (s ++ s') = encode s ++ encode s' := by
  apply Array.toList_inj.mp
  rw [Array.toList_append, toList_encode, toList_encode, toList_encode, String.toList_append]
  exact List.flatMap_append

/-! ### Reading with replacements -/

theorem lossyGo_of_some {acc : List Char} {bs r : List UInt8} {c : Char}
    (h : scalar? bs = some (c, r)) : lossyGo acc bs = lossyGo (c :: acc) r := by
  rw [lossyGo]
  split
  · rename_i c' r' hsome
    rw [hsome] at h
    obtain ⟨rfl, rfl⟩ := Prod.mk.inj (Option.some.inj h)
    rfl
  · rename_i hnone
    rw [hnone] at h
    cases h

theorem lossy_encode (s : String) : lossy (encode s).toList = s := by
  have hgo : ∀ cs acc, lossyGo acc (encodings cs) = acc.reverse ++ cs := by
    intro cs
    induction cs with
    | nil =>
        intro acc
        rw [lossyGo]
        exact (List.append_nil _).symm
    | cons c cs ih =>
        intro acc
        rw [encodings_cons, lossyGo_of_some (scalar?_encode_append c (encodings cs)), ih,
          List.reverse_cons, List.append_assoc]
        rfl
  rw [lossy, toList_encode, hgo]
  exact String.ofList_toList

theorem encode_of_lossy {b : Bytes} {s : String} (h : lossy b.toList = s) (hs : '\uFFFD' ∉ s.toList) :
    encode s = b := by
  have hgo : ∀ bs acc, '\uFFFD' ∉ lossyGo acc bs →
      ∃ cs, lossyGo acc bs = acc.reverse ++ cs ∧ bs = encodings cs := by
    intro bs acc
    fun_induction lossyGo acc bs with
    | case1 acc bs c r hsome ih =>
        intro hnot
        obtain ⟨cs, hcs, hr⟩ := ih hnot
        refine ⟨c :: cs, ?_, ?_⟩
        · rw [hcs, List.reverse_cons, List.append_assoc]
          rfl
        · rw [encodings_cons, ← hr]
          exact eq_encode_append hsome
    | case2 acc hnone => exact fun _ => ⟨[], (List.append_nil _).symm, rfl⟩
    | case3 acc b r hnone ih =>
        intro hnot
        obtain ⟨cs, hcs, -⟩ := ih hnot
        rw [hcs] at hnot
        simp at hnot
  subst h
  rw [lossy, String.toList_ofList] at hs
  obtain ⟨cs, hcs, hb⟩ := hgo b.toList [] hs
  rw [lossy, hcs, encode_ofList]
  exact Array.toList_inj.mp hb.symm

/-! ### Bytes of single characters -/

theorem high_of_mem_encode {c : Char} (hc : 0x80 ≤ c.toNat) {b : UInt8}
    (hb : b ∈ String.utf8EncodeChar c) : 0x80 ≤ b.toNat := by
  have hscalar := toNat_scalar c
  by_cases h2 : c.toNat < 0x800
  · rw [encode_two hc h2] at hb
    simp only [List.mem_cons, List.not_mem_nil, or_false] at hb
    rcases hb with rfl | rfl <;> rw [toNat_byte (by omega)] <;> omega
  by_cases h3 : c.toNat < 0x10000
  · rw [encode_three (by omega) h3] at hb
    simp only [List.mem_cons, List.not_mem_nil, or_false] at hb
    rcases hb with rfl | rfl | rfl <;> rw [toNat_byte (by omega)] <;> omega
  · rw [encode_four (by omega)] at hb
    simp only [List.mem_cons, List.not_mem_nil, or_false] at hb
    rcases hb with rfl | rfl | rfl | rfl <;> rw [toNat_byte (by omega)] <;> omega

/-- A byte of ASCII is in the encodings of characters just when its character is one of them. -/
theorem mem_encodings_ascii {b : UInt8} (hb : b.toNat < 0x80) (cs : List Char) :
    b ∈ encodings cs ↔ Char.ofNat b.toNat ∈ cs := by
  have hchar : (Char.ofNat b.toNat).toNat = b.toNat := toNat_char (by omega)
  rw [encodings, List.mem_flatMap]
  constructor
  · rintro ⟨c, hc, hmem⟩
    by_cases hascii : c.toNat < 0x80
    · rw [encode_one hascii, List.mem_singleton] at hmem
      rw [hmem, toNat_byte (by omega), Char.ofNat_toNat]
      exact hc
    · have := high_of_mem_encode (by omega) hmem
      omega
  · intro hc
    refine ⟨_, hc, ?_⟩
    rw [encode_one (by omega), hchar, UInt8.ofNat_toNat]
    exact List.mem_singleton_self b

end Utf8
end GuestHost
