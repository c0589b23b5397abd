import GuestHost.Proofs.Path.Lexical
import GuestHost.Proofs.Text.Utf8
import GuestHost.Shelf.Service
import Mathlib.Data.List.Basic
import Mathlib.Data.List.TakeWhile

/-! # Where requests lead

A request names a path, and the path is what is read from a spelling of its bytes.

* **Spellings** (`Spelled`).  A byte is spelled by a plain character or by a percent sign and two
  digits.  Whatever the spelling of a path from the root, it is read as the path
  (`parse?_of_spelled`), and every path has one (`spelled_percentEncode`).
* **Canonical paths.**  A path of proper names is clean already (`cleaned_of_proper`), and so is one
  whose characters are taken for their bytes (`proper_lettered`).
* **Answers.**  The two kinds of path are answered as they should be (`respond_list`,
  `respond_artifact`), and whatever is handed out was asked for by one of them
  (`asked_of_status`). -/

namespace GuestHost

namespace Shelf

/-! ### Spellings -/

/-- A character that stands for itself in a target. -/
structure Plain (c : Char) : Prop where
  visible : 0x20 < c.toNat
  ascii : c.toNat < 0x7F
  not_percent : c ≠ '%'
  not_query : c ≠ '?'

instance (c : Char) : Decidable (Plain c) :=
  decidable_of_iff (0x20 < c.toNat ∧ c.toNat < 0x7F ∧ c ≠ '%' ∧ c ≠ '?')
    ⟨fun ⟨hvisible, hascii, hpercent, hquery⟩ => ⟨hvisible, hascii, hpercent, hquery⟩,
      fun h => ⟨h.visible, h.ascii, h.not_percent, h.not_query⟩⟩

/-- Bytes and characters that spell them. -/
inductive Spelled : List UInt8 → List Char → Prop
  | nil : Spelled [] []
  | plain {c bs cs} (hc : Plain c) (h : Spelled bs cs) : Spelled (UInt8.ofNat c.toNat :: bs) (c :: cs)
  | coded {x y m n bs cs} (hx : hexValue? x = some m) (hy : hexValue? y = some n)
      (h : Spelled bs cs) : Spelled (UInt8.ofNat (m * 16 + n) :: bs) ('%' :: x :: y :: cs)

theorem Spelled.append {bs bs' : List UInt8} {cs cs' : List Char} (h : Spelled bs cs)
    (h' : Spelled bs' cs') : Spelled (bs ++ bs') (cs ++ cs') := by
  induction h with
  | nil => exact h'
  | plain hc _ ih => exact .plain hc ih
  | coded hx hy _ ih => exact .coded hx hy ih

/-- A digit is a visible character, and no question mark. -/
theorem bounds_of_hexValue? {c : Char} {n : Nat} (h : hexValue? c = some n) :
    0x20 < c.toNat ∧ c.toNat < 0x7F ∧ c ≠ '?' := by
  have hrange : (0x30 ≤ c.toNat ∧ c.toNat ≤ 0x39) ∨ (0x61 ≤ c.toNat ∧ c.toNat ≤ 0x66) ∨
      (0x41 ≤ c.toNat ∧ c.toNat ≤ 0x46) := by
    unfold hexValue? at h
    split_ifs at h with hdigit hlower hupper
    · simp only [Char.isDigit, Bool.and_eq_true, decide_eq_true_eq] at hdigit
      exact .inl hdigit
    · exact .inr (.inl hlower)
    · exact .inr (.inr hupper)
  refine ⟨by omega, by omega, ?_⟩
  rintro rfl
  have hquery : '?'.toNat = 0x3F := rfl
  omega

theorem Spelled.bounds {bs : List UInt8} {cs : List Char} (h : Spelled bs cs) :
    ∀ c ∈ cs, 0x20 < c.toNat ∧ c.toNat < 0x7F ∧ c ≠ '?' := by
  induction h with
  | nil => simp
  | plain hc _ ih =>
      intro d hd
      rcases List.mem_cons.mp hd with rfl | hd
      · exact ⟨hc.visible, hc.ascii, hc.not_query⟩
      · exact ih d hd
  | coded hx hy _ ih =>
      intro d hd
      simp only [List.mem_cons] at hd
      rcases hd with rfl | rfl | rfl | hd
      · decide
      · exact bounds_of_hexValue? hx
      · exact bounds_of_hexValue? hy
      · exact ih d hd

theorem percentDecode?_of_spelled {bs : List UInt8} {cs : List Char} (h : Spelled bs cs) :
    percentDecode? cs = some bs := by
  induction h with
  | nil => rfl
  | @plain c bs cs hc _ ih =>
      have hbyte : (Utf8.encode (String.singleton c)).toList = [UInt8.ofNat c.toNat] := by
        rw [Utf8.toList_encode, String.toList_singleton, Utf8.encodings_cons,
          Utf8.encode_one (Nat.lt_succ_of_lt hc.ascii)]
        rfl
      rw [percentDecode?, if_neg hc.not_percent, ih, hbyte]
      · rfl
      · exact fun _ _ _ hpercent => absurd hpercent hc.not_percent
  | coded hx hy _ ih => simp [percentDecode?, hx, hy, ih]

/-- **Reading a target.**  A spelling of a path from the root is read as the path. -/
theorem parse?_of_spelled {bs : List UInt8} {cs : List Char} (h : Spelled bs cs)
    (hroot : cs.head? = some '/') (method : String) :
    Target.parse? method (String.ofList cs) = some { path := bs.toArray } := by
  have hquery : ∀ c ∈ cs, (c ≠ '?' : Bool) = true := fun c hc => by simpa using (h.bounds c hc).2.2
  have hvisible : (cs.any fun c => c.toNat ≤ 0x20 || c.toNat = 0x7F) = false := by
    rw [List.any_eq_false]
    intro c hc
    have := h.bounds c hc
    simp
    omega
  have hstar : cs ≠ ['*'] := by
    rintro rfl
    cases hroot
  unfold Target.parse?
  simp only [String.toList_ofList, List.takeWhile_eq_self_iff.mpr hquery,
    List.dropWhile_eq_nil_iff.mpr hquery, hvisible, hstar, hroot, if_true, if_false, Bool.false_eq_true,
    Target.ofPath?, percentDecode?_of_spelled h]
  rfl

theorem spelled_of_plain {cs : List Char} (h : cs.all (fun c => Plain c) = true) :
    Spelled (Utf8.encodings cs) cs := by
  induction cs with
  | nil => exact .nil
  | cons c cs ih =>
      obtain ⟨hc, hcs⟩ : Plain c ∧ cs.all (fun c => Plain c) = true := by simpa using h
      rw [Utf8.encodings_cons, Utf8.encode_one (Nat.lt_succ_of_lt hc.ascii)]
      exact .plain hc (ih hcs)

theorem parse?_list (method : String) :
    Target.parse? method "/artifacts" = some { path := Utf8.encode "/artifacts" } := by
  have hspelled : Spelled (Utf8.encodings "/artifacts".toList) "/artifacts".toList :=
    spelled_of_plain (by decide)
  have h := parse?_of_spelled hspelled rfl method
  rwa [String.ofList_toList, ← Utf8.encode_ofList, String.ofList_toList] at h

theorem plain_of_isPathByte {b : UInt8} (h : isPathByte b = true) : Plain (Char.ofNat b.toNat) := by
  have hall : ∀ n < 0x80, ((Char.ofNat n).isAlphanum ||
      "-_.~$&+,/:;=@".toList.contains (Char.ofNat n)) = true → Plain (Char.ofNat n) := by
    decide +kernel
  simp only [isPathByte, isPlain, Bool.and_eq_true, decide_eq_true_eq] at h
  exact hall b.toNat h.1 h.2

theorem hexValue?_digit {n : Nat} (h : n < 16) : hexValue? (Nat.digitChar n).toUpper = some n := by
  have hall : ∀ n < 16, hexValue? (Nat.digitChar n).toUpper = some n := by decide
  exact hall n h

theorem spelled_percentEncode (bs : List UInt8) : Spelled bs (percentEncode bs).toList := by
  rw [percentEncode, percentEncodeBut, String.toList_ofList]
  induction bs with
  | nil => exact .nil
  | cons b bs ih =>
      have hb : b.toNat < 256 := b.toNat_lt
      rw [List.flatMap_cons]
      split_ifs with hkeep
      · have hchar : UInt8.ofNat (Char.ofNat b.toNat).toNat = b := by
          rw [Utf8.toNat_char (by omega), UInt8.ofNat_toNat]
        have h := Spelled.plain (plain_of_isPathByte hkeep) ih
        rwa [hchar] at h
      · have h := Spelled.coded (hexValue?_digit (show b.toNat / 16 < 16 by omega))
          (hexValue?_digit (show b.toNat % 16 < 16 by omega)) ih
        rwa [Nat.div_add_mod', UInt8.ofNat_toNat] at h

/-! ### Canonical paths -/

/-- **A path of proper names** from the root is clean already. -/
theorem cleaned_of_proper {ns : List String} (hne : ns ≠ [])
    (h : ∀ n ∈ ns, Path.Proper n ∧ '/' ∉ n.toList) :
    cleaned (Path.text true ns) = Path.text true ns := by
  have hrooted : Path.isRooted (Path.text true ns) = true := Path.isRooted_slash_append _
  have hclean : Path.clean (Path.text true ns) = Path.text true ns := by
    have hstay : Path.step [] "" = [] := rfl
    rw [Path.clean, hrooted, Path.components_eq_walk hrooted,
      Path.names_text hne fun n hn => (h n hn).2, if_pos rfl, Path.walk_cons, hstay,
      Path.walk_of_proper fun n hn => (h n hn).1, List.nil_append]
  have hlast : (Path.text true ns).toList.getLast? ≠ some '/' := by
    obtain ⟨ms, n, rfl⟩ := (List.eq_nil_or_concat ns).resolve_left hne
    rw [List.concat_eq_append] at h ⊢
    obtain ⟨hproper, hslash⟩ := h n (by simp)
    obtain ⟨q, hq⟩ := Path.text_concat ms n
    have hn : n.toList ≠ [] := mt String.toList_eq_nil_iff.mp hproper.not_empty
    rw [hq, String.toList_append, List.getLast?_append, List.getLast?_eq_some_getLast hn,
      Option.some_or]
    exact fun hend => hslash (Option.some.inj hend ▸ List.getLast_mem hn)
  simp only [cleaned, hrooted, if_true, hclean, decide_eq_false hlast, Bool.false_and,
    Bool.false_eq_true, if_false]

theorem lettered_encode_append (s s' : String) :
    lettered (Utf8.encode (s ++ s')) = lettered (Utf8.encode s) ++ lettered (Utf8.encode s') := by
  simp [lettered, Utf8.encode_append]

/-- Slashes stay what they are when characters are taken for their bytes. -/
theorem lettered_text (ns : List String) : lettered (Utf8.encode (Path.text true ns))
    = Path.text true (ns.map fun n => lettered (Utf8.encode n)) := by
  have hslash : lettered (Utf8.encode "/") = "/" := by decide
  have hnames : lettered (Utf8.encode (String.intercalate "/" ns))
      = String.intercalate "/" (ns.map fun n => lettered (Utf8.encode n)) := by
    induction ns with
    | nil => decide
    | cons n ns ih =>
        cases ns with
        | nil => simp
        | cons m ms =>
            rw [String.intercalate_cons_cons, lettered_encode_append, lettered_encode_append, hslash,
              ih, List.map_cons, List.map_cons, List.map_cons, String.intercalate_cons_cons]
  rw [Path.text, Path.text, if_pos rfl, if_pos rfl, lettered_encode_append, hslash, hnames]

theorem lettered_inj {bs bs' : Bytes} (h : lettered bs = lettered bs') : bs = bs' := by
  have hbyte : Function.Injective fun b : UInt8 => Char.ofNat b.toNat := by
    intro b b' hchar
    have hb := b.toNat_lt
    have hb' := b'.toNat_lt
    have hnat := congrArg Char.toNat hchar
    rw [Utf8.toNat_char (by omega), Utf8.toNat_char (by omega)] at hnat
    exact UInt8.toNat_inj.mp hnat
  exact Array.toList_inj.mp (List.map_injective_iff.mpr hbyte (String.ofList_inj.mp h))

theorem proper_lettered {n : String} (h : Path.Proper n ∧ '/' ∉ n.toList) :
    Path.Proper (lettered (Utf8.encode n)) ∧ '/' ∉ (lettered (Utf8.encode n)).toList := by
  have hne : ∀ m, lettered (Utf8.encode m) = m → n ≠ m → lettered (Utf8.encode n) ≠ m := by
    intro m hm hnm heq
    exact hnm (Utf8.encode_inj (lettered_inj (heq.trans hm.symm)))
  refine ⟨⟨hne "" (by decide) h.1.not_empty, hne "." (by decide) h.1.not_here,
    hne ".." (by decide) h.1.not_up⟩, ?_⟩
  rw [lettered, String.toList_ofList, List.mem_map]
  rintro ⟨b, hb, hslash⟩
  have hbyte := b.toNat_lt
  have hnat := congrArg Char.toNat hslash
  rw [Utf8.toNat_char (by omega)] at hnat
  have hascii : b.toNat < 0x80 := hnat ▸ by decide
  rw [Utf8.toList_encode, Utf8.mem_encodings_ascii hascii, hslash] at hb
  exact h.2 hb

/-! ### Answers -/

/-- **The answer to a path of proper names** is that of its route. -/
theorem respond_of_proper {ns : List String} (hne : ns ≠ [])
    (h : ∀ n ∈ ns, Path.Proper n ∧ '/' ∉ n.toList) (s : Shelf) (method : String) :
    s.respond method { path := Utf8.encode (Path.text true ns) } =
      match Route.ofPath (Path.text true ns) with
      | .nowhere => .notFound
      | .list =>
        if method = "GET" then
          { status := 200, headers := [("Content-Type", "application/json")]
            body := Utf8.encode s.listText }
        else .refused
      | .artifact name =>
        if method ≠ "GET" ∧ method ≠ "HEAD" then .refused
        else s.handOut name (method = "HEAD") := by
  have hclean : cleaned (lettered (Utf8.encode (Path.text true ns)))
      = lettered (Utf8.encode (Path.text true ns)) := by
    rw [lettered_text]
    refine cleaned_of_proper (by simpa using hne) ?_
    rw [List.forall_mem_map]
    exact fun n hn => proper_lettered (h n hn)
  unfold respond
  cases hroute : Route.ofPath (Path.text true ns) with
  | _ =>
      simp only [hclean, ne_eq, not_true_eq_false, if_false, Utf8.lossy_encode, Utf8.text?_encode,
        Option.isNone_some, Bool.false_eq_true, hroute]

theorem proper_artifacts : Path.Proper "artifacts" ∧ '/' ∉ "artifacts".toList :=
  ⟨⟨by decide, by decide, by decide⟩, by decide⟩

/-- **The list** is at its path. -/
theorem respond_list (s : Shelf) :
    s.respond "GET" { path := Utf8.encode "/artifacts" } =
      { status := 200, headers := [("Content-Type", "application/json")]
        body := Utf8.encode s.listText } := by
  have htext : "/artifacts" = Path.text true ["artifacts"] := by decide
  have hroute : Route.ofPath "/artifacts" = .list := by decide
  rw [htext, respond_of_proper (by simp) (by simpa using proper_artifacts), ← htext, hroute]
  rfl

/-- **An artifact** is at the path of its name. -/
theorem respond_artifact {name : String} (h : Path.Proper name ∧ '/' ∉ name.toList) (s : Shelf)
    {method : String} (hmethod : method = "GET" ∨ method = "HEAD") :
    s.respond method { path := Utf8.encode ("/artifacts/" ++ name) }
      = s.handOut name (method = "HEAD") := by
  have htext : "/artifacts/" ++ name = Path.text true ["artifacts", name] := by
    simp [Path.text, ← String.append_assoc]
  have hnames : ∀ n ∈ ["artifacts", name], Path.Proper n ∧ '/' ∉ n.toList :=
    List.forall_mem_cons.mpr ⟨proper_artifacts, List.forall_mem_singleton.mpr h⟩
  have hroute : Route.ofPath (Path.text true ["artifacts", name]) = .artifact name := by
    rw [Route.ofPath, Path.names_text (by simp) fun n hn => (hnames n hn).2]
    exact if_neg h.1.not_empty
  rw [htext, respond_of_proper (by simp) hnames, hroute]
  refine if_neg ?_
  rintro ⟨hget, hhead⟩
  exact hmethod.elim hget hhead

theorem eq_of_route_list {p : String} (h : Route.ofPath p = .list) : p = "/artifacts" := by
  unfold Route.ofPath at h
  split at h
  · rename_i hnames
    rw [← Path.intercalate_names p, hnames]
    rfl
  · split_ifs at h
  · cases h

theorem eq_of_route_artifact {p name : String} (h : Route.ofPath p = .artifact name) :
    p = "/artifacts/" ++ name ∧ name ≠ "" ∧ '/' ∉ name.toList := by
  unfold Route.ofPath at h
  split at h
  · cases h
  · rename_i n hnames
    split_ifs at h with hempty
    cases h
    refine ⟨?_, hempty, Path.not_slash_of_mem_names (p := p) (by simp [hnames])⟩
    rw [← Path.intercalate_names p, hnames]
    simp [← String.append_assoc]
  · cases h

/-- **What is handed out** was asked for by the path of the list or by the path of an artifact. -/
theorem asked_of_status {s : Shelf} {t : Target} (h : (s.respond "GET" t).status = 200) :
    t.path = Utf8.encode "/artifacts" ∨
    ∃ name a, t.path = Utf8.encode ("/artifacts/" ++ name) ∧ name ≠ "" ∧ '/' ∉ name.toList ∧
      s.get? name = some a ∧ s.respond "GET" t = s.handOut name false := by
  have hget : ¬("GET" ≠ "GET" ∧ "GET" ≠ "HEAD") := fun hne => hne.1 rfl
  by_cases hmoved : cleaned (lettered t.path) ≠ lettered t.path
  · rw [respond, if_pos hmoved] at h
    cases h
  · rw [respond, if_neg hmoved] at h ⊢
    cases hroute : Route.ofPath (Utf8.lossy t.path.toList) with
    | nowhere =>
        rw [hroute] at h
        cases h
    | list => exact .inl (Utf8.encode_of_lossy (eq_of_route_list hroute) (by decide)).symm
    | artifact name =>
        obtain ⟨hpath, hempty, hslash⟩ := eq_of_route_artifact hroute
        simp only [hroute, if_neg hget] at h ⊢
        cases htext : Utf8.text? t.path with
        | none =>
            rw [htext] at h
            cases h
        | some p =>
            have hp : Utf8.encode p = t.path := Utf8.encode_of_text? htext
            rw [← hp, Utf8.lossy_encode] at hpath
            rw [htext] at h
            have hfound : (s.handOut name false).status = 200 := h
            obtain ⟨a, ha⟩ : ∃ a, s.get? name = some a := by
              cases ha : s.get? name with
              | none =>
                  rw [handOut, ha] at hfound
                  cases hfound
              | some a => exact ⟨a, rfl⟩
            exact .inr ⟨name, a, hpath ▸ hp.symm, hempty, hslash, ha, rfl⟩

end Shelf
end GuestHost
