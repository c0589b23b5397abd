import GuestHost.Json
import GuestHost.Proofs.Shelf.Stock

/-! # What the list of downloads says

The list is a JSON text with an entry for each artifact on the shelf.

* **Texts** in the list are read back by a reader of JSON texts (`Json.Reads`), whatever characters
  are in them (`reads_quotedText`).
* **Entries** (`Shelf.Tells`).  An entry tells the name, the media type, the number of bytes and the
  date of an artifact.
* **The list** has one entry for each artifact (`Shelf.listText_of_writable`), unless a date cannot be
  written (`Shelf.listText_of_unwritable`). -/

namespace GuestHost

/-! ### Texts -/

namespace Json

/-- A reader of JSON texts that comes to the written form reads the text, and goes on behind it. -/
def Reads (written text : String) : Prop :=
  ∀ depth fuel rest,
    value? depth (fuel + 1) (written.toList ++ rest) = some (.text text, rest)

theorem hexWord?_append {cs : List Char} {w : Nat} (h : hexWord? cs = some (w, []))
    (rest : List Char) : hexWord? (cs ++ rest) = some (w, rest) := by
  rcases cs with _ | ⟨a, _ | ⟨b, _ | ⟨c, _ | ⟨d, r⟩⟩⟩⟩
  case cons.cons.cons.cons =>
    simp only [hexWord?, Option.bind_eq_bind, Option.bind_eq_some_iff, Option.some.injEq,
      Prod.mk.injEq] at h
    obtain ⟨w', hw, x, hx, y, hy, z, hz, rfl, rfl⟩ := h
    simp [hexWord?, hw, hx, hy, hz]
  all_goals cases h

end Json

namespace Shelf

/-- The characters that are written by number. -/
theorem hexWord?_hex {n : Nat}
    (h : n < 0x20 ∨ n = 0x3C ∨ n = 0x3E ∨ n = 0x26 ∨ n = 0x2028 ∨ n = 0x2029) :
    Json.hexWord? (Quoted.hex 4 n) = some (n, []) := by
  have hcontrol : ∀ k < 0x20, Json.hexWord? (Quoted.hex 4 k) = some (k, []) := by decide
  rcases h with h | rfl | rfl | rfl | rfl | rfl
  · exact hcontrol n h
  all_goals decide

/-- **One character** is read back. -/
theorem textRest_escaped (c : Char) (fuel : Nat) (acc rest : List Char) :
    Json.textRest (fuel + 1) acc (escaped c ++ rest) = Json.textRest fuel (c :: acc) rest := by
  have hcode : ∀ {k : Nat}, c.toNat = k → c = Char.ofNat k := by
    rintro k rfl
    exact (Char.ofNat_toNat c).symm
  simp only [escaped]
  split_ifs with hquote hback h8 h9 h10 h12 h13 hnumber
  · rw [hquote]
    rfl
  · rw [hback]
    rfl
  · rw [hcode h8]
    rfl
  · rw [hcode h9]
    rfl
  · rw [hcode h10]
    rfl
  · rw [hcode h12]
    rfl
  · rw [hcode h13]
    rfl
  · have hnumber' : c.toNat < 0x20 ∨ c.toNat = 0x3C ∨ c.toNat = 0x3E ∨ c.toNat = 0x26 ∨
        c.toNat = 0x2028 ∨ c.toNat = 0x2029 := by
      simp only [Bool.or_eq_true, decide_eq_true_eq] at hnumber
      rcases hnumber with ((((h | rfl) | rfl) | rfl) | h) | h
      · exact .inl h
      · decide
      · decide
      · decide
      · simp [h]
      · simp [h]
    have hword := Json.hexWord?_append (hexWord?_hex hnumber') rest
    have hwhole : ¬ (0xD800 ≤ c.toNat ∧ c.toNat < 0xE000) := by omega
    simp only [List.cons_append, Json.textRest, hword, Json.escapedChar]
    simp [hwhole, Char.ofNat_toNat]
  · simp only [Bool.or_eq_true, decide_eq_true_eq, not_or, Nat.not_lt] at hnumber
    simp [Json.textRest, hquote, hback, Nat.not_lt.mpr hnumber.1.1.1.1.1]

theorem length_le_escaped (cs : List Char) : cs.length ≤ (cs.flatMap escaped).length := by
  induction cs with
  | nil => exact Nat.le_refl 0
  | cons c cs ih =>
    have hone : 1 ≤ (escaped c).length := by
      simp only [escaped]
      split_ifs <;> simp
    rw [List.flatMap_cons, List.length_append, List.length_cons]
    omega

/-- **All characters** up to the closing quote are read back. -/
theorem textRest_flatMap_escaped (cs rest : List Char) {fuel : Nat} (hfuel : cs.length < fuel)
    (acc : List Char) :
    Json.textRest fuel acc (cs.flatMap escaped ++ '"' :: rest)
      = some (String.ofList (acc.reverse ++ cs), rest) := by
  induction cs generalizing fuel acc with
  | nil =>
    obtain ⟨fuel, rfl⟩ := Nat.exists_eq_add_one.mpr hfuel
    simp [Json.textRest]
  | cons c cs ih =>
    rw [List.length_cons] at hfuel
    obtain ⟨fuel, rfl⟩ := Nat.exists_eq_add_one.mpr (Nat.zero_lt_of_lt hfuel)
    rw [List.flatMap_cons, List.append_assoc, textRest_escaped, ih (by omega)]
    simp

/-- **Texts** in the list are read back. -/
theorem reads_quotedText (s : String) : Json.Reads (quotedText s) s := by
  intro depth fuel rest
  have hwritten : (quotedText s).toList ++ rest
      = '"' :: (s.toList.flatMap escaped ++ '"' :: rest) := by
    simp [quotedText]
  have hfuel : s.toList.length < (s.toList.flatMap escaped ++ '"' :: rest).length + 1 := by
    have := length_le_escaped s.toList
    rw [List.length_append]
    omega
  have hread := textRest_flatMap_escaped s.toList rest hfuel []
  rw [hwritten, Json.value?, Json.trim, List.dropWhile_cons_of_neg (by decide)]
  simp only [hread]
  simp

/-! ### Entries -/

/-- An entry of the list tells the name, the media type, the number of bytes and the date of an
artifact. -/
def Tells (entry : String) (a : Artifact) : Prop :=
  ∃ name media date,
    entry = "\x7b\"name\":" ++ name ++ ",\"mime\":" ++ media ++ ",\"size\":"
      ++ toString a.content.size ++ ",\"created_at\":\"" ++ date ++ "\"\x7d" ∧
    Json.Reads name a.name ∧ Json.Reads media a.mediaType ∧ a.createdAt.text? = some date

theorem tells_entryText? {a : Artifact} {entry : String} (h : entryText? a = some entry) :
    Tells entry a := by
  obtain ⟨date, hdate, rfl⟩ := Option.map_eq_some_iff.mp h
  exact ⟨_, _, date, rfl, reads_quotedText a.name, reads_quotedText a.mediaType, hdate⟩

theorem mapM_entryText? {as : List Artifact} (h : ∀ a ∈ as, a.createdAt.text? ≠ none) :
    ∃ es, List.Forall₂ Tells es as ∧ as.mapM entryText? = some es := by
  induction as with
  | nil => exact ⟨[], .nil, rfl⟩
  | cons a as ih =>
    obtain ⟨hdate, hdates⟩ := List.forall_mem_cons.mp h
    obtain ⟨es, htells, hes⟩ := ih hdates
    obtain ⟨date, hdate⟩ := Option.ne_none_iff_exists'.mp hdate
    obtain ⟨e, he⟩ : ∃ e, entryText? a = some e := ⟨_, congrArg (Option.map _) hdate⟩
    exact ⟨e :: es, .cons (tells_entryText? he) htells, by simp [List.mapM_cons, he, hes]⟩

theorem mapM_entryText?_eq_none {as : List Artifact} (h : ∃ a ∈ as, a.createdAt.text? = none) :
    as.mapM entryText? = none := by
  induction as with
  | nil => simp at h
  | cons a as ih =>
    rw [List.mapM_cons]
    cases he : entryText? a with
    | none => rfl
    | some e =>
      obtain ⟨b, hb, hnone⟩ := h
      rcases List.mem_cons.mp hb with rfl | hb
      · rw [entryText?, hnone] at he
        cases he
      · simp [ih ⟨b, hb, hnone⟩]

/-- **The list of artifacts** has their entries one after the other, if every date can be written. -/
theorem listText_of_writable {s : Shelf} (h : ∀ a ∈ s.sorted, a.createdAt.text? ≠ none) :
    ∃ es, List.Forall₂ Tells es s.sorted ∧
      s.listText = "[" ++ String.intercalate "," es ++ "]\n" := by
  obtain ⟨es, htells, hes⟩ := mapM_entryText? h
  exact ⟨es, htells, by simp only [listText, hes]⟩

theorem listText_of_unwritable {s : Shelf} (h : ∃ a ∈ s.sorted, a.createdAt.text? = none) :
    s.listText = "" := by
  simp only [listText, mapM_entryText?_eq_none h]

end Shelf
end GuestHost
