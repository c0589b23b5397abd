import GuestHost.Path
import Mathlib.Tactic.SplitIfs

/-! # Paths as walks

A path leads somewhere name by name.  If nothing is looked up on the way, an empty name and `.` stay
where they are, `..` goes up, and any other name goes down (`Path.walk`).

* **Names.**  Slashes come between the names and in none of them (`names_append_slash`,
  `names_of_not_mem`, `names_intercalate`).
* **Resolving.**  The components of a path lead to where its names lead (`walk_resolve`).  From the
  root the components are the place itself (`components_eq_walk`), and each of them is a proper name.
* **Cleaned paths.**  What is written out is read again as the same components
  (`names_clean`), and the last name of a cleaned path from the root is the last component
  (`base_clean`).
* **Local paths.**  What goes up comes first among the components, so a local path leads straight
  down (`proper_of_isLocal`). -/

namespace GuestHost

namespace Fields

theorem split_of_not_mem {sep : Char} {cs : List Char} (h : sep ∉ cs) : split sep cs = [cs] := by
  induction cs with
  | nil => rfl
  | cons c r ih =>
      obtain ⟨hc, hr⟩ := not_or.mp (mt List.mem_cons.mpr h)
      simp [split, ih hr, Ne.symm hc]

theorem split_append_sep (sep : Char) (a b : List Char) :
    split sep (a ++ sep :: b) = split sep a ++ split sep b := by
  induction a with
  | nil => simp [split]
  | cons c a ih =>
      by_cases hc : c = sep
      · simp [split, hc, ih]
      · cases hs : split sep a with
        | nil => exact absurd hs (split_ne_nil sep a)
        | cons f fs => simp [split, hc, ih, hs]

theorem mem_of_mem_split {sep c : Char} {cs f : List Char} (hf : f ∈ split sep cs) (hc : c ∈ f) :
    c ∈ cs := by
  induction cs generalizing f with
  | nil => simp_all [split]
  | cons d r ih =>
      by_cases hd : d = sep
      · simp only [split, hd, if_true, List.mem_cons] at hf
        rcases hf with rfl | hf
        · cases hc
        · exact List.mem_cons_of_mem d (ih hf hc)
      · cases hs : split sep r with
        | nil => exact absurd hs (split_ne_nil sep r)
        | cons g gs =>
            simp only [split, hd, if_false, hs, List.mem_cons] at hf
            rcases hf with rfl | hf
            · rcases List.mem_cons.mp hc with rfl | hc
              · exact List.mem_cons_self
              · exact List.mem_cons_of_mem d (ih (hs ▸ List.mem_cons_self) hc)
            · exact List.mem_cons_of_mem d (ih (hs ▸ List.mem_cons_of_mem g hf) hc)

end Fields

namespace Path

/-! ### Names -/

theorem names_append_slash (a b : String) : names (a ++ "/" ++ b) = names a ++ names b := by
  have hslash : "/".toList = ['/'] := rfl
  simp only [names, Fields.ofString, String.toList_append, hslash, List.append_assoc,
    List.singleton_append, Fields.split_append_sep, List.map_append]

theorem names_of_not_mem {n : String} (h : '/' ∉ n.toList) : names n = [n] := by
  simp [names, Fields.ofString, Fields.split_of_not_mem h]

theorem names_slash_append (p : String) : names ("/" ++ p) = "" :: names p :=
  names_append_slash "" p

theorem names_intercalate {ns : List String} (hne : ns ≠ []) (h : ∀ n ∈ ns, '/' ∉ n.toList) :
    names (String.intercalate "/" ns) = ns := by
  induction ns with
  | nil => exact absurd rfl hne
  | cons n ns ih =>
      have hn := names_of_not_mem (h n List.mem_cons_self)
      cases ns with
      | nil => simpa using hn
      | cons m ns =>
          rw [String.intercalate_cons_cons, names_append_slash, hn,
            ih (List.cons_ne_nil m ns) fun k hk => h k (List.mem_cons_of_mem n hk)]
          rfl

theorem intercalate_names (p : String) : String.intercalate "/" (names p) = p := by
  have hjoin : ∀ fs : List (List Char),
      (String.intercalate "/" (fs.map String.ofList)).toList = Fields.join '/' fs := by
    intro fs
    induction fs with
    | nil => rfl
    | cons f fs ih =>
        cases fs with
        | nil => simp [Fields.join]
        | cons g gs =>
            have hslash : "/".toList = ['/'] := rfl
            rw [List.map_cons, List.map_cons, String.intercalate_cons_cons, String.toList_append,
              String.toList_append, String.toList_ofList, ← List.map_cons, ih, hslash,
              List.append_assoc]
            rfl
  apply String.toList_inj.mp
  rw [names, Fields.ofString, hjoin, Fields.join_split]

theorem not_slash_of_mem_names {p n : String} (h : n ∈ names p) : '/' ∉ n.toList := by
  obtain ⟨f, hf, rfl⟩ := List.mem_map.mp h
  rw [String.toList_ofList]
  exact Fields.not_mem_of_mem_split hf

theorem mem_of_mem_names {p n : String} (h : n ∈ names p) {c : Char} (hc : c ∈ n.toList) :
    c ∈ p.toList := by
  obtain ⟨f, hf, rfl⟩ := List.mem_map.mp h
  rw [String.toList_ofList] at hc
  exact Fields.mem_of_mem_split hf hc

/-- A name that leads down. -/
structure Proper (n : String) : Prop where
  not_empty : n ≠ ""
  not_here : n ≠ "."
  not_up : n ≠ ".."

/-! ### Walks -/

/-- Where one name leads to, if nothing is looked up. -/
def step (here : List String) (name : String) : List String :=
  if name = "" ∨ name = "." then here else if name = ".." then here.dropLast else here ++ [name]

/-- Where names lead to, one after the other. -/
def walk (here : List String) (names : List String) : List String := names.foldl step here

theorem walk_cons (here : List String) (n : String) (ns : List String) :
    walk here (n :: ns) = walk (step here n) ns := rfl

theorem walk_append (here : List String) (ns ms : List String) :
    walk here (ns ++ ms) = walk (walk here ns) ms := List.foldl_append

theorem step_of_proper {n : String} (h : Proper n) (here : List String) :
    step here n = here ++ [n] := by
  simp [step, h.not_empty, h.not_here, h.not_up]

theorem walk_of_proper {ns : List String} (h : ∀ n ∈ ns, Proper n) (here : List String) :
    walk here ns = here ++ ns := by
  induction ns generalizing here with
  | nil => simp [walk]
  | cons n ns ih =>
      rw [walk_cons, step_of_proper (h n List.mem_cons_self),
        ih fun m hm => h m (List.mem_cons_of_mem n hm), List.append_assoc]
      rfl

theorem proper_of_mem_walk {here ns : List String} (hhere : ∀ n ∈ here, Proper n) :
    ∀ n ∈ walk here ns, Proper n := by
  induction ns generalizing here with
  | nil => exact hhere
  | cons m ns ih =>
      apply ih
      unfold step
      split_ifs with hstay hup
      · exact hhere
      · exact fun n hn => hhere n (List.dropLast_subset _ hn)
      · rw [not_or] at hstay
        intro n hn
        rcases List.mem_append.mp hn with hn | hn
        · exact hhere n hn
        · obtain rfl := List.mem_singleton.mp hn
          exact ⟨hstay.1, hstay.2, hup⟩

theorem mem_of_mem_walk {here ns : List String} {n : String} (h : n ∈ walk here ns) :
    n ∈ here ∨ n ∈ ns := by
  induction ns generalizing here with
  | nil => exact .inl h
  | cons m ns ih =>
      rcases ih h with hn | hn
      · unfold step at hn
        split_ifs at hn
        · exact .inl hn
        · exact .inl (List.dropLast_subset _ hn)
        · rcases List.mem_append.mp hn with hn | hn
          · exact .inl hn
          · exact .inr (List.mem_singleton.mp hn ▸ List.mem_cons_self)
      · exact .inr (List.mem_cons_of_mem m hn)

/-! ### Resolving -/

/-- What adding a name to names held in reverse comes to. -/
theorem push_cases (rooted : Bool) (stack : List String) (n : String) :
    ((n = "" ∨ n = ".") ∧ push rooted stack n = stack) ∨
    (n = ".." ∧ rooted = true ∧ stack = [] ∧ push rooted stack n = []) ∨
    (n = ".." ∧ ∃ top, top ≠ ".." ∧ stack = top :: push rooted stack n) ∨
    (n = ".." ∧ (rooted = false ∨ ".." ∈ stack) ∧ push rooted stack n = n :: stack) ∨
    (Proper n ∧ push rooted stack n = n :: stack) := by
  unfold push
  by_cases hstay : n = "" ∨ n = "."
  · exact .inl ⟨hstay, if_pos hstay⟩
  rw [if_neg hstay]
  by_cases hup : n = ".."
  · rw [if_pos hup]
    cases stack with
    | nil => cases rooted <;> simp [hup]
    | cons top rest =>
        by_cases htop : top = ".."
        · simp [hup, htop]
        · simp [hup, htop]
  · rw [if_neg hup]
    rw [not_or] at hstay
    exact .inr (.inr (.inr (.inr ⟨⟨hstay.1, hstay.2, hup⟩, rfl⟩)))

/-- Names held in reverse can be written out: none of them stays, and none from the root goes up. -/
def Held (rooted : Bool) (stack : List String) : Prop :=
  ∀ n ∈ stack, n ≠ "" ∧ n ≠ "." ∧ (rooted = true → n ≠ "..")

theorem Held.cons {rooted : Bool} {stack : List String} (hheld : Held rooted stack) {n : String}
    (hn : n ≠ "" ∧ n ≠ "." ∧ (rooted = true → n ≠ "..")) : Held rooted (n :: stack) := by
  intro m hm
  rcases List.mem_cons.mp hm with rfl | hm
  · exact hn
  · exact hheld m hm

theorem Held.push {rooted : Bool} {stack : List String} (hheld : Held rooted stack) (n : String) :
    Held rooted (push rooted stack n) := by
  obtain ⟨-, h⟩ | ⟨-, -, -, h⟩ | ⟨-, top, -, h⟩ | ⟨rfl, hup, h⟩ | ⟨hproper, h⟩ :=
    push_cases rooted stack n
  · rwa [h]
  · rw [h]
    exact fun m hm => absurd hm List.not_mem_nil
  · rw [h] at hheld
    exact fun m hm => hheld m (List.mem_cons_of_mem top hm)
  · rw [h]
    refine hheld.cons ⟨by decide, by decide, fun hrooted => ?_⟩
    rcases hup with hfalse | hup
    · rw [hfalse] at hrooted
      cases hrooted
    · exact (hheld _ hup).2.2 hrooted
  · rw [h]
    exact hheld.cons ⟨hproper.not_empty, hproper.not_here, fun _ => hproper.not_up⟩

/-- **One name.**  A name added to those held leads to where it leads from where they lead. -/
theorem walk_push {rooted : Bool} {start stack : List String} (hroot : rooted = true → start = [])
    (hheld : Held rooted stack) (n : String) :
    walk start (push rooted stack n).reverse = step (walk start stack.reverse) n := by
  have hadd : push rooted stack n = n :: stack →
      walk start (push rooted stack n).reverse = step (walk start stack.reverse) n := by
    intro h
    rw [h, List.reverse_cons, walk_append]
    rfl
  obtain ⟨hstay, h⟩ | ⟨rfl, hrooted, hstack, h⟩ | ⟨rfl, top, htop, h⟩ | ⟨-, -, h⟩ | ⟨-, h⟩ :=
    push_cases rooted stack n
  · rw [h, step, if_pos hstay]
  · rw [h, hstack, hroot hrooted]
    rfl
  · -- The name that was held last is taken back.
    have hheld' := hheld
    rw [h] at hheld'
    obtain ⟨hempty, hhere, -⟩ := hheld' top List.mem_cons_self
    have hlast : walk start stack.reverse
        = walk start (push rooted stack "..").reverse ++ [top] := by
      conv => lhs; rw [h, List.reverse_cons, walk_append, walk_cons,
        step_of_proper ⟨hempty, hhere, htop⟩]
      rfl
    rw [hlast]
    simp [step]
  · exact hadd h
  · exact hadd h

/-- **All names.**  Resolved names can be written out and lead to where the names lead. -/
theorem held_and_walk_foldl {rooted : Bool} {start : List String}
    (hroot : rooted = true → start = []) (ns : List String) {stack : List String}
    (hheld : Held rooted stack) :
    Held rooted (ns.foldl (push rooted) stack) ∧
      walk start (ns.foldl (push rooted) stack).reverse = walk (walk start stack.reverse) ns := by
  induction ns generalizing stack with
  | nil => exact ⟨hheld, rfl⟩
  | cons n ns ih =>
      rw [List.foldl_cons, walk_cons, ← walk_push hroot hheld n]
      exact ih (hheld.push n)

theorem held_nil (rooted : Bool) : Held rooted [] := fun _ hn => absurd hn List.not_mem_nil

theorem walk_resolve {rooted : Bool} {start : List String} (hroot : rooted = true → start = [])
    (ns : List String) : walk start (resolve rooted ns) = walk start ns :=
  (held_and_walk_foldl hroot ns (held_nil rooted)).2

theorem held_resolve (rooted : Bool) (ns : List String) : Held rooted (resolve rooted ns) := by
  have hroot : rooted = true → ([] : List String) = [] := fun _ => rfl
  intro n hn
  exact (held_and_walk_foldl hroot ns (held_nil rooted)).1 n (List.mem_reverse.mp hn)

theorem sublist_resolve (rooted : Bool) (ns : List String) : (resolve rooted ns).Sublist ns := by
  have hstack : ∀ (ns stack : List String),
      (ns.foldl (push rooted) stack).reverse.Sublist (stack.reverse ++ ns) := by
    intro ns
    induction ns with
    | nil => exact fun stack => by rw [List.append_nil]; exact List.Sublist.refl _
    | cons n ns ih =>
      intro stack
      have hpush : (push rooted stack n).reverse.Sublist (stack.reverse ++ [n]) := by
        have hreverse : stack.reverse ++ [n] = (n :: stack).reverse := by rw [List.reverse_cons]
        rw [hreverse, List.reverse_sublist]
        obtain ⟨-, h⟩ | ⟨-, -, -, h⟩ | ⟨-, top, -, h⟩ | ⟨-, -, h⟩ | ⟨-, h⟩ := push_cases rooted stack n
        · rw [h]
          exact List.sublist_cons_self n stack
        · rw [h]
          exact List.nil_sublist _
        · conv => rhs; rw [h]
          exact (List.sublist_cons_self _ _).trans (List.sublist_cons_self _ _)
        · simp only [h, List.Sublist.refl]
        · simp only [h, List.Sublist.refl]
      have hrest := (ih (push rooted stack n)).trans (hpush.append_right ns)
      rwa [List.append_assoc] at hrest
  simpa [resolve] using hstack ns []

theorem mem_of_mem_resolve {rooted : Bool} {ns : List String} {n : String}
    (h : n ∈ resolve rooted ns) : n ∈ ns := (sublist_resolve rooted ns).subset h

theorem resolve_concat {n : String} (h : Proper n) (rooted : Bool) (ns : List String) :
    resolve rooted (ns ++ [n]) = resolve rooted ns ++ [n] := by
  simp [resolve, push, h.not_empty, h.not_here, h.not_up]

theorem resolve_append {ms : List String} (h : ∀ n ∈ ms, Proper n) (rooted : Bool)
    (ns : List String) : resolve rooted (ns ++ ms) = resolve rooted ns ++ ms := by
  induction ms generalizing ns with
  | nil => simp
  | cons m ms ih =>
      have hms := ih (fun n hn => h n (List.mem_cons_of_mem m hn)) (ns ++ [m])
      rwa [resolve_concat (h m List.mem_cons_self), List.append_assoc, List.append_assoc,
        List.singleton_append] at hms

theorem proper_of_mem_resolve (ns : List String) : ∀ n ∈ resolve true ns, Proper n := by
  intro n hn
  obtain ⟨hempty, hhere, hup⟩ := held_resolve true ns n hn
  exact ⟨hempty, hhere, hup rfl⟩

/-- **From the root** the components of a path are the place to which its names lead. -/
theorem components_eq_walk {p : String} (h : isRooted p = true) :
    components p = walk [] (names p) := by
  have hproper : ∀ n ∈ components p, Proper n := by
    rw [components, h]
    exact proper_of_mem_resolve (names p)
  calc
    components p = walk [] (components p) := by rw [walk_of_proper hproper, List.nil_append]
    _ = walk [] (names p) := walk_resolve (fun _ => rfl) (names p)

theorem not_slash_of_mem_components {p n : String} (h : n ∈ components p) : '/' ∉ n.toList :=
  not_slash_of_mem_names (mem_of_mem_resolve h)

/-! ### Cleaned paths -/

theorem isRooted_slash_append (p : String) : isRooted ("/" ++ p) = true := by
  simp [isRooted]

theorem names_text {cs : List String} (hne : cs ≠ []) (h : ∀ c ∈ cs, '/' ∉ c.toList)
    (rooted : Bool) : names (text rooted cs) = if rooted then "" :: cs else cs := by
  cases rooted with
  | true => simp [text, names_slash_append, names_intercalate hne h]
  | false => simp [text, hne, names_intercalate hne h]

/-- **A cleaned path** has the components of the path for its names. -/
theorem names_clean {p : String} (hne : components p ≠ []) :
    names (clean p) = if isRooted p then "" :: components p else components p :=
  names_text hne (fun _ => not_slash_of_mem_components) (isRooted p)

theorem isRooted_append {p : String} (h : p ≠ "") (q : String) :
    isRooted (p ++ q) = isRooted p := by
  obtain ⟨c, cs, hcs⟩ := List.exists_cons_of_ne_nil (mt String.toList_eq_nil_iff.mp h)
  simp [isRooted, String.toList_append, hcs]

theorem isRooted_clean (p : String) : isRooted (clean p) = isRooted p := by
  by_cases hne : components p = []
  · rw [clean, hne]
    cases isRooted p <;> rfl
  cases hrooted : isRooted p with
  | true => simp [clean, text, hrooted, isRooted_slash_append]
  | false =>
      obtain ⟨c, cs, hcs⟩ := List.exists_cons_of_ne_nil hne
      have hc : c ∈ components p := hcs ▸ List.mem_cons_self
      have hempty : c ≠ "" := (held_resolve _ _ c hc).1
      have hslash := not_slash_of_mem_components hc
      have hplain : isRooted c = false := by
        simp only [isRooted, beq_eq_false_iff_ne]
        intro hhead
        exact hslash (List.mem_of_head? hhead)
      rw [clean, hrooted, hcs, text]
      cases cs with
      | nil => simpa using hplain
      | cons d ds =>
          simpa [String.append_assoc, isRooted_append hempty] using hplain

theorem clean_ne_empty (p : String) : clean p ≠ "" := by
  by_cases hne : components p = []
  · rw [clean, hne]
    cases isRooted p <;> decide
  · intro hempty
    have hnames := names_clean hne
    have hheld := held_resolve (isRooted p) (names p)
    rw [hempty] at hnames
    have hblank : "" ∈ components p := by
      split_ifs at hnames with hrooted
      · have hcomponents : components p = [] := (List.cons.inj hnames).2.symm
        exact absurd hcomponents hne
      · rw [← hnames]
        decide
    exact (hheld "" hblank).1 rfl

theorem base_append {front n : String} (hne : n ≠ "") (h : '/' ∉ n.toList)
    (hfront : front = "" ∨ ∃ above, front = above ++ "/") : base (front ++ n) = n := by
  have hkeep : ∀ c ∈ n.toList.reverse, decide (c ≠ '/') = true := by
    intro c hc
    rw [decide_eq_true_eq]
    rintro rfl
    exact h (List.mem_reverse.mp hc)
  obtain ⟨c, r, hcr⟩ : ∃ c r, n.toList.reverse = c :: r :=
    List.exists_cons_of_ne_nil fun hnil =>
      hne (String.toList_eq_nil_iff.mp (List.reverse_eq_nil_iff.mp hnil))
  have hc : c ≠ '/' := of_decide_eq_true (hkeep c (hcr ▸ List.mem_cons_self))
  have htrim : trimSlashes (front ++ n).toList = (front ++ n).toList := by
    rw [trimSlashes, String.toList_append, List.reverse_append, hcr, List.cons_append,
      List.dropWhile_cons_of_neg (by simpa using hc), ← List.cons_append, ← hcr,
      ← List.reverse_append, List.reverse_reverse]
  have hback : (front ++ n).toList.reverse.takeWhile (· ≠ '/') = n.toList.reverse := by
    rw [String.toList_append, List.reverse_append, List.takeWhile_append_of_pos hkeep]
    obtain rfl | ⟨above, rfl⟩ := hfront <;> simp
  have hsome : front ++ n ≠ "" := by
    rw [Ne, ← String.toList_eq_nil_iff, String.toList_append, List.append_eq_nil_iff]
    exact fun hnil => hne (String.toList_eq_nil_iff.mp hnil.2)
  unfold base
  rw [if_neg hsome, htrim]
  split
  · rename_i hnil
    exact absurd (String.toList_eq_nil_iff.mp hnil) hsome
  · rw [hback, List.reverse_reverse, String.ofList_toList]

theorem text_concat (cs : List String) (n : String) :
    ∃ q, text true (cs ++ [n]) = q ++ "/" ++ n := by
  rcases List.eq_nil_or_concat cs with rfl | ⟨ds, m, rfl⟩
  · exact ⟨"", by simp [text]⟩
  · refine ⟨"/" ++ String.intercalate "/" (ds ++ [m]), ?_⟩
    rw [List.concat_eq_append, text, if_pos rfl,
      String.intercalate_append_of_ne_nil (by simp) (by simp)]
    simp [String.append_assoc]

/-- **The last name** of a cleaned path from the root is its last component, if there is one. -/
theorem base_clean {p : String} (h : isRooted p = true) :
    base (clean p) = ((components p).getLast?).getD "/" := by
  rcases List.eq_nil_or_concat (components p) with hnil | ⟨cs, n, hcs⟩
  · rw [clean, hnil, h]
    rfl
  · have hn : n ∈ components p := by simp [hcs]
    have hne : n ≠ "" := (held_resolve _ _ n hn).1
    obtain ⟨q, hq⟩ := text_concat cs n
    rw [clean, h, hcs, List.concat_eq_append, hq,
      base_append hne (not_slash_of_mem_components hn) (.inr ⟨q, rfl⟩)]
    simp

/-! ### Local paths -/

/-- Among names held in reverse, below one that goes up there are only such. -/
def UpFirst (stack : List String) : Prop := stack.Pairwise fun n below => n = ".." → below = ".."

theorem UpFirst.push {stack : List String} (h : UpFirst stack) (rooted : Bool) (n : String) :
    UpFirst (push rooted stack n) := by
  unfold Path.push
  by_cases hstay : n = "" ∨ n = "."
  · rwa [if_pos hstay]
  rw [if_neg hstay]
  by_cases hup : n = ".."
  · rw [if_pos hup]
    cases stack with
    | nil => cases rooted <;> simp [UpFirst]
    | cons top rest =>
        obtain ⟨hbelow, hrest⟩ := List.pairwise_cons.mp h
        by_cases htop : top = ".."
        · -- What goes up is put upon what goes up.
          subst htop
          have hup' : ∀ m ∈ ".." :: rest, m = ".." := by
            intro m hm
            rcases List.mem_cons.mp hm with rfl | hm
            · rfl
            · exact hbelow m hm rfl
          exact List.pairwise_cons.mpr ⟨fun m hm _ => hup' m hm, h⟩
        · simp only [htop, if_false]
          exact hrest
  · rw [if_neg hup]
    exact List.pairwise_cons.mpr ⟨fun m _ hn => absurd hn hup, h⟩

theorem upFirst_foldl (rooted : Bool) (ns : List String) {stack : List String}
    (h : UpFirst stack) : UpFirst (ns.foldl (Path.push rooted) stack) := by
  induction ns generalizing stack with
  | nil => exact h
  | cons n ns ih => exact ih (h.push rooted n)

/-- **A local path** leads straight down. -/
theorem proper_of_isLocal {p : String} (h : isLocal p = true) : ∀ n ∈ components p, Proper n := by
  simp only [isLocal, Bool.and_eq_true, decide_eq_true_eq, bne_iff_ne, Bool.not_eq_true'] at h
  obtain ⟨⟨-, hrooted⟩, hhead⟩ := h
  have horder : (components p).Pairwise fun above n => n = ".." → above = ".." :=
    List.pairwise_reverse.mpr (upFirst_foldl (isRooted p) (names p) List.Pairwise.nil)
  intro n hn
  obtain ⟨hempty, hhere, -⟩ := held_resolve _ _ n hn
  refine ⟨hempty, hhere, ?_⟩
  rintro rfl
  obtain ⟨c, cs, hcs⟩ := List.exists_cons_of_ne_nil (List.ne_nil_of_mem hn)
  rw [hcs] at hn horder hhead
  rcases List.mem_cons.mp hn with rfl | hn
  · exact hhead rfl
  · obtain rfl := (List.pairwise_cons.mp horder).1 ".." hn rfl
    exact hhead rfl

end Path
end GuestHost
