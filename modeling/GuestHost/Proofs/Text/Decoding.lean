import GuestHost.Proofs.Memory.Spans
import GuestHost.Proofs.Text.Utf8
import Mathlib.Order.Bounds.Basic

/-! # Where reading a text stops

A guest's bytes are taken as a text or refused.  Nothing is replaced.

* **Ways to be no character** (`Utf8.Malformed`).  A continuation byte may stand alone, a sequence may
  be cut off or longer than it needs to be, and the number may be a surrogate or too large.  No
  character is read from the front of some bytes exactly when there are none or it is one of these
  (`scalar?_eq_none_iff`).
* **The longest text at the front** (`Utf8.textLengths`, `isGreatest_textLengths`).  Bytes that begin
  with characters, followed by something that is none, begin with no longer text: every other text at
  their front is made of the first of these characters (`prefix_of_encodings_append`).
* Reading fails at the end of that text (`decode_eq_error_iff`).

`text_read_iff_wellFormed` shows this for every span of a memory. -/

namespace GuestHost
namespace Utf8

/-! ### Ways to be no character -/

/-- The number of continuation bytes that a first byte asks for. -/
def followers (b : UInt8) : Nat := if b.toNat < 0xE0 then 1 else if b.toNat < 0xF0 then 2 else 3

/-- What can be wrong with bytes at whose front no character stands. -/
inductive Malformed : List UInt8 → Prop
  /-- A continuation byte that continues nothing. -/
  | stray {b : UInt8} {r : List UInt8} (low : 0x80 ≤ b.toNat) (high : b.toNat < 0xC0) :
      Malformed (b :: r)
  /-- The end, or another first byte, comes too early. -/
  | truncated {b : UInt8} {r : List UInt8} (low : 0xC2 ≤ b.toNat) (high : b.toNat < 0xF5)
      (short : (r.takeWhile isContinuation).length < followers b) : Malformed (b :: r)
  /-- Two bytes for a number below `U+0080`. -/
  | overlongPair {b : UInt8} {r : List UInt8} (low : 0xC0 ≤ b.toNat) (high : b.toNat < 0xC2) :
      Malformed (b :: r)
  /-- Three bytes for a number below `U+0800`. -/
  | overlongTriple {b c : UInt8} {r : List UInt8} (first : b.toNat = 0xE0) (second : c.toNat < 0xA0) :
      Malformed (b :: c :: r)
  /-- Four bytes for a number below `U+10000`. -/
  | overlongQuad {b c : UInt8} {r : List UInt8} (first : b.toNat = 0xF0) (second : c.toNat < 0x90) :
      Malformed (b :: c :: r)
  /-- A number from `U+D800` to `U+DFFF`. -/
  | surrogate {b c : UInt8} {r : List UInt8} (first : b.toNat = 0xED) (second : 0xA0 ≤ c.toNat) :
      Malformed (b :: c :: r)
  /-- A number above `U+10FFFF` whose first byte could begin a smaller one. -/
  | excess {b c : UInt8} {r : List UInt8} (first : b.toNat = 0xF4) (second : 0x90 ≤ c.toNat) :
      Malformed (b :: c :: r)
  /-- A byte that begins no number up to `U+10FFFF`. -/
  | alien {b : UInt8} {r : List UInt8} (low : 0xF5 ≤ b.toNat) : Malformed (b :: r)

section malformed
variable {b c d e : UInt8} {r : List UInt8}

theorem isContinuation_eq_false_iff :
    isContinuation c = false ↔ c.toNat < 0x80 ∨ 0xC0 ≤ c.toNat := by
  rw [← Bool.not_eq_true, isContinuation_iff]
  omega

theorem pair?_eq_none_iff : pair? b c = none ↔ isContinuation c = false := by
  unfold pair?
  split_ifs with hc <;> simp [hc]

theorem triple?_eq_none_iff (hlow : 0xE0 ≤ b.toNat) (hhigh : b.toNat < 0xF0) :
    triple? b c d = none ↔ isContinuation c = false ∨ isContinuation d = false ∨
      (b.toNat = 0xE0 ∧ c.toNat < 0xA0) ∨ (b.toNat = 0xED ∧ 0xA0 ≤ c.toNat) := by
  simp only [isContinuation_eq_false_iff, triple?]
  split_ifs with hok
  all_goals
    simp only [Bool.and_eq_true, isContinuation_iff, decide_eq_true_eq, Bool.not_eq_true',
      Bool.and_eq_false_iff, decide_eq_false_iff_not] at hok
    unfold low at hok
  · simp only [false_iff]
    omega
  · simp only [true_iff]
    omega

theorem quad?_eq_none_iff (hlow : 0xF0 ≤ b.toNat) (hhigh : b.toNat < 0xF5) :
    quad? b c d e = none ↔
      isContinuation c = false ∨ isContinuation d = false ∨ isContinuation e = false ∨
      (b.toNat = 0xF0 ∧ c.toNat < 0x90) ∨ (b.toNat = 0xF4 ∧ 0x90 ≤ c.toNat) := by
  simp only [isContinuation_eq_false_iff, quad?]
  split_ifs with hok
  all_goals
    simp only [Bool.and_eq_true, isContinuation_iff, decide_eq_true_eq] at hok
    unfold low at hok
  · simp only [false_iff]
    omega
  · simp only [true_iff]
    omega

theorem scalar?_pair_eq_none_iff (hlow : 0xC2 ≤ b.toNat) (hhigh : b.toNat < 0xE0) :
    scalar? (b :: r) = none ↔ (r.takeWhile isContinuation).length < 1 := by
  rw [scalar?_cons, if_neg (by omega), if_neg (by omega), if_pos hhigh]
  cases r with
  | nil => simp
  | cons c r =>
      rw [Option.map_eq_none_iff, pair?_eq_none_iff]
      cases hc : isContinuation c <;> simp [hc]

theorem scalar?_triple_eq_none_iff (hlow : 0xE0 ≤ b.toNat) (hhigh : b.toNat < 0xF0) :
    scalar? (b :: r) = none ↔ (r.takeWhile isContinuation).length < 2 ∨
      ∃ c t, r = c :: t ∧
        ((b.toNat = 0xE0 ∧ c.toNat < 0xA0) ∨ (b.toNat = 0xED ∧ 0xA0 ≤ c.toNat)) := by
  rw [scalar?_cons, if_neg (by omega), if_neg (by omega), if_neg (by omega), if_pos hhigh]
  match r with
  | [] => simp
  | [c] => cases hc : isContinuation c <;> simp [hc]
  | c :: d :: r =>
      rw [Option.map_eq_none_iff, triple?_eq_none_iff hlow hhigh]
      cases hc : isContinuation c <;> cases hd : isContinuation d <;> simp [hc, hd]

theorem scalar?_quad_eq_none_iff (hlow : 0xF0 ≤ b.toNat) (hhigh : b.toNat < 0xF5) :
    scalar? (b :: r) = none ↔ (r.takeWhile isContinuation).length < 3 ∨
      ∃ c t, r = c :: t ∧
        ((b.toNat = 0xF0 ∧ c.toNat < 0x90) ∨ (b.toNat = 0xF4 ∧ 0x90 ≤ c.toNat)) := by
  rw [scalar?_cons, if_neg (by omega), if_neg (by omega), if_neg (by omega), if_neg (by omega),
    if_pos hhigh]
  match r with
  | [] => simp
  | [c] => cases hc : isContinuation c <;> simp [hc]
  | [c, d] => cases hc : isContinuation c <;> cases hd : isContinuation d <;> simp [hc, hd]
  | c :: d :: e :: r =>
      rw [Option.map_eq_none_iff, quad?_eq_none_iff hlow hhigh]
      cases hc : isContinuation c <;> cases hd : isContinuation d <;>
        cases he : isContinuation e <;> simp [hc, hd, he]

theorem scalar?_of_malformed {bs : List UInt8} (h : Malformed bs) : scalar? bs = none := by
  cases h with
  | stray low high =>
      rw [scalar?_cons, if_neg (by omega), if_pos (by omega)]
  | overlongPair low high =>
      rw [scalar?_cons, if_neg (by omega), if_pos (by omega)]
  | alien low =>
      rw [scalar?_cons, if_neg (by omega), if_neg (by omega), if_neg (by omega), if_neg (by omega),
        if_neg (by omega)]
  | @truncated b r low high short =>
      unfold followers at short
      split_ifs at short with h2 h3
      · exact (scalar?_pair_eq_none_iff low h2).mpr short
      · exact (scalar?_triple_eq_none_iff (by omega) h3).mpr (.inl short)
      · exact (scalar?_quad_eq_none_iff (by omega) high).mpr (.inl short)
  | overlongTriple first second =>
      exact (scalar?_triple_eq_none_iff (by omega) (by omega)).mpr
        (.inr ⟨_, _, rfl, .inl ⟨first, second⟩⟩)
  | surrogate first second =>
      exact (scalar?_triple_eq_none_iff (by omega) (by omega)).mpr
        (.inr ⟨_, _, rfl, .inr ⟨first, second⟩⟩)
  | overlongQuad first second =>
      exact (scalar?_quad_eq_none_iff (by omega) (by omega)).mpr
        (.inr ⟨_, _, rfl, .inl ⟨first, second⟩⟩)
  | excess first second =>
      exact (scalar?_quad_eq_none_iff (by omega) (by omega)).mpr
        (.inr ⟨_, _, rfl, .inr ⟨first, second⟩⟩)

theorem malformed_of_scalar? (h : scalar? (b :: r) = none) : Malformed (b :: r) := by
  by_cases h1 : b.toNat < 0x80
  · rw [scalar?_cons, if_pos h1] at h
    cases h
  by_cases h2 : b.toNat < 0xC0
  · exact .stray (by omega) h2
  by_cases h3 : b.toNat < 0xC2
  · exact .overlongPair (by omega) h3
  by_cases h4 : b.toNat < 0xE0
  · rw [scalar?_pair_eq_none_iff (by omega) h4] at h
    exact .truncated (by omega) (by omega) (by rwa [followers, if_pos h4])
  by_cases h5 : b.toNat < 0xF0
  · rw [scalar?_triple_eq_none_iff (by omega) h5] at h
    rcases h with short | ⟨c, t, rfl, ⟨first, second⟩ | ⟨first, second⟩⟩
    · exact .truncated (by omega) (by omega) (by rwa [followers, if_neg h4, if_pos h5])
    · exact .overlongTriple first second
    · exact .surrogate first second
  by_cases h6 : b.toNat < 0xF5
  · rw [scalar?_quad_eq_none_iff (by omega) h6] at h
    rcases h with short | ⟨c, t, rfl, ⟨first, second⟩ | ⟨first, second⟩⟩
    · exact .truncated (by omega) h6 (by rwa [followers, if_neg h4, if_neg h5])
    · exact .overlongQuad first second
    · exact .excess first second
  · exact .alien (by omega)

/-- **No character** is read from the front of bytes exactly when there are none or something is
wrong with them. -/
theorem scalar?_eq_none_iff {bs : List UInt8} : scalar? bs = none ↔ bs = [] ∨ Malformed bs := by
  constructor
  · intro h
    cases bs with
    | nil => exact .inl rfl
    | cons b r => exact .inr (malformed_of_scalar? h)
  · rintro (rfl | h)
    · rfl
    · exact scalar?_of_malformed h

end malformed

/-! ### The longest well-formed beginning -/

/-- The lengths of the beginnings of bytes that are well-formed. -/
def textLengths (bs : List UInt8) : Set Nat := {k | k ≤ bs.length ∧ WellFormed (bs.take k)}

theorem scalar?_scan (acc : List Char) (bs : List UInt8) : scalar? (scan acc bs).2 = none := by
  fun_induction scan acc bs with
  | case1 acc bs h => exact h
  | case2 acc bs c r h ih => exact ih

theorem scan_of_none {acc : List Char} {bs : List UInt8} (h : scalar? bs = none) :
    scan acc bs = (acc.reverse, bs) := by
  rw [scan]
  split
  · rfl
  · rename_i hsome
    rw [h] at hsome
    cases hsome

theorem scan_eq_of_none (cs : List Char) {rest : List UInt8} (hrest : scalar? rest = none) :
    scan [] (encodings cs ++ rest) = (cs, rest) := by
  rw [scan_encodings_append, List.append_nil, scan_of_none hrest, List.reverse_reverse]

theorem exists_encodings_append (bs : List UInt8) :
    ∃ cs rest, bs = encodings cs ++ rest ∧ scalar? rest = none := by
  obtain ⟨cs, -, hbs⟩ := encodings_append_scan [] bs
  exact ⟨cs, (scan [] bs).2, hbs, scalar?_scan [] bs⟩

/-- Characters before something that is none are the most that can be read: every text at the front
is made of the first of them. -/
theorem prefix_of_encodings_append {cs ds : List Char} {rest more : List UInt8}
    (hrest : scalar? rest = none) (heq : encodings ds ++ more = encodings cs ++ rest) : ds <+: cs := by
  obtain ⟨es, last, rfl, hlast⟩ := exists_encodings_append more
  have hmore : encodings (ds ++ es) ++ last = encodings cs ++ rest := by
    rw [← heq, encodings, List.flatMap_append, List.append_assoc]
    rfl
  have hread := scan_eq_of_none (ds ++ es) hlast
  rw [hmore, scan_eq_of_none cs hrest] at hread
  exact ⟨es, (congrArg Prod.fst hread).symm⟩

theorem length_encodings_le {cs ds : List Char} (h : ds <+: cs) :
    (encodings ds).length ≤ (encodings cs).length := by
  obtain ⟨tail, rfl⟩ := h
  simp [encodings]

theorem isGreatest_textLengths {cs : List Char} {rest : List UInt8} (hrest : scalar? rest = none) :
    IsGreatest (textLengths (encodings cs ++ rest)) (encodings cs).length := by
  constructor
  · exact ⟨by simp, cs, by simp⟩
  · rintro k ⟨hk, ds, hds⟩
    have heq : encodings ds ++ (encodings cs ++ rest).drop k = encodings cs ++ rest := by
      rw [← hds, List.take_append_drop]
    have hlength : k = (encodings ds).length := by
      rw [← hds, List.length_take, Nat.min_eq_left hk]
    rw [hlength]
    exact length_encodings_le (prefix_of_encodings_append hrest heq)

/-- Reading fails behind the characters if something is left. -/
theorem decode_encodings_append_eq_error_iff {cs : List Char} {rest : List UInt8} {n : Nat}
    (hrest : scalar? rest = none) :
    decode (encodings cs ++ rest) = .error n ↔ rest ≠ [] ∧ n = (encodings cs).length := by
  unfold decode
  rw [scan_eq_of_none cs hrest]
  cases rest with
  | nil => simp
  | cons b r =>
      simp only [List.length_append, Nat.add_sub_cancel, Except.error.injEq, ne_eq, reduceCtorEq,
        not_false_eq_true, true_and]
      exact eq_comm

/-- **Reading a text fails** at the end of the longest beginning that is one, where something is wrong. -/
theorem decode_eq_error_iff {bs : List UInt8} {n : Nat} :
    decode bs = .error n ↔ IsGreatest (textLengths bs) n ∧ Malformed (bs.drop n) := by
  obtain ⟨cs, rest, rfl, hrest⟩ := exists_encodings_append bs
  have hgreatest : IsGreatest (textLengths (encodings cs ++ rest)) (encodings cs).length :=
    isGreatest_textLengths hrest
  rw [decode_encodings_append_eq_error_iff hrest]
  constructor
  · rintro ⟨hne, rfl⟩
    refine ⟨hgreatest, ?_⟩
    rw [List.drop_left]
    exact (scalar?_eq_none_iff.mp hrest).resolve_left hne
  · rintro ⟨hn, hmalformed⟩
    obtain rfl := hn.unique hgreatest
    rw [List.drop_left] at hmalformed
    refine ⟨?_, rfl⟩
    rintro rfl
    cases hmalformed

end Utf8

namespace View

/-! ### Reading a span -/

theorem readText_eq (v : View) (h : Heap) (address length : UInt32) :
    (v.readText h address length).2 = (v.read h address length).2.bind (textOf address) := by
  unfold readText
  rcases v.read h address length with ⟨w, f | b⟩ <;> rfl

theorem textOf_eq_ok_iff {address : UInt32} {b : Bytes} {text : String} :
    textOf address b = .ok text ↔ Utf8.encode text = b := by
  unfold textOf
  constructor
  · intro h
    split at h
    · rename_i cs hcs
      cases h
      exact Utf8.encode_of_decode hcs
    · cases h
  · rintro rfl
    rw [Utf8.decode_eq_ok_iff.mpr (Utf8.toList_encode text)]
    simp

theorem textOf_eq_error_iff {address : UInt32} {b : Bytes} {f : Fault} :
    textOf address b = .error f ↔ ∃ n, f = .malformedText address.toNat b.size n ∧
      IsGreatest (Utf8.textLengths b.toList) n ∧ Utf8.Malformed (b.toList.drop n) := by
  simp only [← Utf8.decode_eq_error_iff]
  unfold textOf
  cases Utf8.decode b.toList with
  | ok cs => simp
  | error n => simp [eq_comm]

/-- **A text is read from a span exactly when its bytes are well-formed**, for every span inside a
memory that can be read.  The text is encoded to these bytes.  Otherwise the fault tells the length of
the span and of the longest text at its front, after which something is malformed. -/
theorem text_read_iff_wellFormed {v : View} {h : Heap} {i : Nat} {m : Memory} (hv : v.Faces h i m)
    {address length : UInt32} (hin : address.toNat + length.toNat ≤ (m.window h).length) :
    let span := (h.bytes m.buffer).slice address.toNat length.toNat
    let answer := (v.readText h address length).2
    ((∃ text, answer = .ok text) ↔ ∃ cs, span.toList = Utf8.encodings cs) ∧
    (∀ text, answer = .ok text ↔ Utf8.encode text = span) ∧
    (∀ f, answer = .error f ↔ ∃ n, f = .malformedText address.toNat length.toNat n ∧
      IsGreatest (Utf8.textLengths span.toList) n ∧ Utf8.Malformed (span.toList.drop n)) := by
  intro span answer
  have hsize : span.size = length.toNat := Bytes.size_slice (Nat.le_trans hin (Nat.mod_le _ _))
  have hanswer : answer = textOf address span := by
    show (v.readText h address length).2 = _
    rw [readText_eq, hv.read, if_pos hin]
    rfl
  rw [hanswer]
  refine ⟨?_, ?_, ?_⟩
  · simp only [textOf_eq_ok_iff]
    constructor
    · rintro ⟨text, htext⟩
      exact ⟨text.toList, by rw [← htext, Utf8.toList_encode]⟩
    · rintro ⟨cs, hcs⟩
      refine ⟨String.ofList cs, ?_⟩
      rw [Utf8.encode_ofList, ← hcs]
  · intro text
    exact textOf_eq_ok_iff
  · intro f
    rw [textOf_eq_error_iff, hsize]

/-- A byte-order mark is part of the text.  Of three bytes for one character the last is missing, so
the text ends before them. -/
theorem mark_kept_and_cut_character_refused :
    let h : Heap := { buffers := #[#[0xEF, 0xBB, 0xBF, 0x61, 0xE2, 0x82, 0x62]]
                      memories := #[{ buffer := 0 }] }
    let v : View := { binding := .memory 0 }
    v.Faces h 0 { buffer := 0 } ∧ (v.readText h 0 4).2 = .ok "\uFEFFa" ∧
      (v.readText h 3 4).2 = .error (.malformedText 3 4 1) ∧
      IsGreatest (Utf8.textLengths [0x61, 0xE2, 0x82, 0x62]) 1 := by
  intro h v
  have hv : v.Faces h 0 { buffer := 0 } := by
    refine ⟨?_, rfl, rfl, rfl⟩
    rintro w ⟨⟩
  have hcut : (v.readText h 3 4).2 = .error (.malformedText 3 4 1) := by
    with_unfolding_all rfl
  refine ⟨hv, ?_, hcut, ?_⟩
  · exact ((text_read_iff_wellFormed hv (by decide)).2.1 _).mpr (by decide)
  · obtain ⟨n, hn, hgreatest, -⟩ := ((text_read_iff_wellFormed hv (by decide)).2.2 _).mp hcut
    cases hn
    exact hgreatest

end View
end GuestHost
