import GuestHost.Proofs.Path.Lexical
import Mathlib.Algebra.Order.BigOperators.Group.List
import Mathlib.Algebra.Order.Ring.Nat
import Mathlib.Data.List.TakeWhile

/-! # Cleaning step by step

A path may be cleaned as a whole, or in pieces that are put together and cleaned again.

* **Pieces.**  Names that are followed by others may be resolved first, and so may those that follow
  others (`resolve_resolve`, `foldl_push_resolve`).  So a cleaned path has the components of the path
  (`components_clean`), and a local path that is joined to a directory adds its components to those of
  the directory (`components_join`).
* **Local paths** are those whose cleaned text does not start by going up (`isLocal_eq_false_iff`).
* **Taken apart.**  A path is cut behind its last slash (`Apart`).  If a name comes behind it, directory
  and base name are joined to the cleaned path (`Apart.join_eq`), and the base name is the stem with the
  extension (`Apart.stem_append_ext`).
* **Size.**  Cleaning makes no path longer (`utf8ByteSize_clean_le`). -/

namespace GuestHost
namespace Path

/-! ### Pieces -/

theorem push_of_stay {n : String} (h : n = "" ∨ n = ".") (rooted : Bool) (stack : List String) :
    push rooted stack n = stack := if_pos h

theorem push_of_proper {n : String} (h : Proper n) (rooted : Bool) (stack : List String) :
    push rooted stack n = n :: stack := by
  simp [push, h.not_empty, h.not_here, h.not_up]

theorem push_up_cons {top : String} (h : top ≠ "..") (rooted : Bool) (stack : List String) :
    push rooted (top :: stack) ".." = stack := by
  simp [push, h]

/-- **One name** may be resolved against those behind others before all are resolved. -/
theorem foldl_push_push (rooted : Bool) (base : List String) {stack : List String}
    (hheld : Held false stack) (n : String) :
    (push false stack n).reverse.foldl (push rooted) base =
      push rooted (stack.reverse.foldl (push rooted) base) n := by
  have hadd : push false stack n = n :: stack →
      (push false stack n).reverse.foldl (push rooted) base =
        push rooted (stack.reverse.foldl (push rooted) base) n := by
    intro h
    rw [h, List.reverse_cons, List.foldl_append]
    rfl
  obtain ⟨hstay, h⟩ | ⟨-, hrooted, -⟩ | ⟨rfl, top, htop, h⟩ | ⟨-, -, h⟩ | ⟨-, h⟩ :=
    push_cases false stack n
  · rw [h, push_of_stay hstay]
  · cases hrooted
  · -- The name that was held last is taken back, be it now or later.
    generalize push false stack ".." = rest at h
    subst h
    obtain ⟨hempty, hhere, -⟩ := hheld top List.mem_cons_self
    rw [List.reverse_cons, List.foldl_append, List.foldl_cons, List.foldl_nil,
      push_of_proper ⟨hempty, hhere, htop⟩, push_up_cons htop]
  · exact hadd h
  · exact hadd h

/-- **Names behind others** may be resolved first. -/
theorem foldl_push_resolve (rooted : Bool) (base ns : List String) :
    (resolve false ns).foldl (push rooted) base = ns.foldl (push rooted) base := by
  have hstack : ∀ (ns stack : List String), Held false stack →
      (ns.foldl (push false) stack).reverse.foldl (push rooted) base =
        ns.foldl (push rooted) (stack.reverse.foldl (push rooted) base) := by
    intro ns
    induction ns with
    | nil => exact fun stack _ => rfl
    | cons n ns ih =>
      intro stack hheld
      rw [List.foldl_cons, List.foldl_cons, ih _ (hheld.push n), foldl_push_push rooted base hheld]
  exact hstack ns [] (held_nil false)

theorem resolve_resolve (rooted : Bool) (ns : List String) :
    resolve rooted (resolve rooted ns) = resolve rooted ns := by
  cases rooted with
  | false => exact congrArg List.reverse (foldl_push_resolve false [] ns)
  | true =>
    have hnil := resolve_append (proper_of_mem_resolve ns) true []
    rwa [List.nil_append] at hnil

/-- **A cleaned path** has the components of the path. -/
theorem components_clean (p : String) : components (clean p) = components p := by
  by_cases hne : components p = []
  · rw [hne, clean, hne]
    cases isRooted p <;> decide
  · rw [components, isRooted_clean, names_clean hne]
    split_ifs
    · exact resolve_resolve _ _
    · exact resolve_resolve _ _

theorem clean_clean (p : String) : clean (clean p) = clean p := by
  rw [clean, isRooted_clean, components_clean, ← clean]

theorem not_rooted_of_isLocal {p : String} (h : isLocal p = true) : p ≠ "" ∧ isRooted p = false := by
  simp only [isLocal, Bool.and_eq_true, decide_eq_true_eq, Bool.not_eq_true'] at h
  exact h.1

/-- **Below a directory.**  A local path that is joined to a directory adds its components to those of
the directory, and starts where the directory starts. -/
theorem components_join (dir : String) {file : String} (h : isLocal file = true) :
    components (join dir file) = components dir ++ components file ∧
      isRooted (join dir file) = isRooted dir := by
  obtain ⟨hfile, hrelative⟩ := not_rooted_of_isLocal h
  by_cases hdir : dir = ""
  · have hclean : join dir file = clean file := by rw [join, if_pos hdir, if_neg hfile]
    rw [hclean, components_clean, isRooted_clean, hrelative, hdir]
    exact ⟨rfl, rfl⟩
  · have hrooted : isRooted (dir ++ "/" ++ file) = isRooted dir := by
      rw [String.append_assoc]
      exact isRooted_append hdir _
    have hresolved : resolve (isRooted dir) (names dir ++ names file)
        = resolve (isRooted dir) (names dir ++ components file) := by
      rw [resolve, resolve, List.foldl_append, List.foldl_append, components, hrelative,
        foldl_push_resolve]
    rw [join, if_neg hdir, if_neg hfile, components_clean, isRooted_clean, hrooted]
    refine ⟨?_, rfl⟩
    rw [components, hrooted, names_append_slash, hresolved, resolve_append (proper_of_isLocal h)]
    rfl

/-- A local path that is joined to a directory is written out behind it. -/
theorem join_of_isLocal {dir file : String} (h : isLocal file = true) :
    join dir file = text (isRooted dir) (components dir ++ components file) := by
  have hfile := (not_rooted_of_isLocal h).1
  have hclean : clean (join dir file) = join dir file := by
    rw [join, if_neg hfile, if_neg hfile]
    split_ifs <;> exact clean_clean _
  obtain ⟨hcomponents, hrooted⟩ := components_join dir h
  rw [← hclean, clean, hcomponents, hrooted]

/-! ### Local paths -/

/-- A relative path starts by going up just if its cleaned text does. -/
theorem head?_components_eq_up_iff {p : String} (hrelative : isRooted p = false) :
    (components p).head? = some ".." ↔ clean p = ".." ∨ ∃ rest, clean p = "../" ++ rest := by
  constructor
  · intro h
    obtain ⟨cs, hcs⟩ := List.head?_eq_some_iff.mp h
    rw [clean, hrelative, hcs]
    cases cs with
    | nil => exact .inl rfl
    | cons c cs =>
      refine .inr ⟨String.intercalate "/" (c :: cs), ?_⟩
      exact String.intercalate_cons_cons
  · intro h
    by_cases hne : components p = []
    · -- A path of which nothing is left is a dot.
      have hdot : clean p = "." := by rw [clean, hrelative, hne]; rfl
      rw [hdot] at h
      rcases h with h | ⟨rest, h⟩
      · exact absurd h (by decide)
      · have hchars := congrArg String.toList h
        rw [String.toList_append] at hchars
        simp at hchars
    · have hnames : names (clean p) = components p := by
        rw [names_clean hne, hrelative]
        rfl
      rw [← hnames]
      rcases h with h | ⟨rest, h⟩
      · rw [h]
        decide
      · have hslash : "../" ++ rest = ".." ++ "/" ++ rest := rfl
        rw [h, hslash, names_append_slash]
        rfl

/-- **What is not local** is empty, starts at the root, or starts by going up when it is cleaned. -/
theorem isLocal_eq_false_iff {p : String} : isLocal p = false ↔
    p = "" ∨ isRooted p = true ∨ clean p = ".." ∨ ∃ rest, clean p = "../" ++ rest := by
  by_cases hempty : p = ""
  · simp [isLocal, hempty]
  cases hrooted : isRooted p with
  | true => simp [isLocal, hrooted]
  | false =>
    rw [← head?_components_eq_up_iff hrooted]
    simp [isLocal, hempty, hrooted]

/-! ### Taken apart -/

/-- Characters cut behind the last separator, if there is one. -/
theorem exists_cut (sep : Char) (cs : List Char) : ∃ front last, cs = front ++ last ∧ sep ∉ last ∧
    (front = [] ∨ ∃ above, front = above ++ [sep]) ∧
    last = (cs.reverse.takeWhile (· ≠ sep)).reverse ∧
    front = (cs.reverse.dropWhile (· ≠ sep)).reverse := by
  refine ⟨_, _, ?_, ?_, ?_, rfl, rfl⟩
  · rw [← List.reverse_append, List.takeWhile_append_dropWhile, List.reverse_reverse]
  · rw [List.mem_reverse]
    intro h
    simpa using List.mem_takeWhile_imp h
  · cases hfront : cs.reverse.dropWhile (· ≠ sep) with
    | nil => exact .inl rfl
    | cons c above =>
      have hne : cs.reverse.dropWhile (· ≠ sep) ≠ [] := by
        rw [hfront]
        exact List.cons_ne_nil c above
      have hhead := List.head_dropWhile_not (· ≠ sep) hne
      simp only [hfront, List.head_cons, decide_eq_false_iff_not, not_not] at hhead
      exact .inr ⟨above.reverse, by rw [List.reverse_cons, hhead]⟩

theorem takeWhile_reverse_of_not_mem {sep : Char} {cs : List Char} (h : sep ∉ cs) :
    cs.reverse.takeWhile (· ≠ sep) = cs.reverse := by
  rw [List.takeWhile_eq_self_iff]
  intro c hc
  rw [decide_eq_true_eq]
  rintro rfl
  exact h (List.mem_reverse.mp hc)

/-- A path taken apart behind its last slash. -/
structure Apart (p front name : String) : Prop where
  whole : p = front ++ name
  plain : '/' ∉ name.toList
  closed : front = "" ∨ ∃ above, front = above ++ "/"
  dir : Path.dir p = clean front
  base : name ≠ "" → Path.base p = name
  ext : Path.ext p = Path.ext name

theorem exists_apart (p : String) : ∃ front name, Apart p front name := by
  obtain ⟨front, name, hwhole, hplain, hclosed, hname, hfront⟩ := exists_cut '/' p.toList
  have hback : p.toList.reverse.takeWhile (· ≠ '/') = name.reverse := by
    rw [hname, List.reverse_reverse]
  have hp : p = String.ofList front ++ String.ofList name := by
    rw [← String.toList_inj, String.toList_append, String.toList_ofList, String.toList_ofList, hwhole]
  have hplain' : '/' ∉ (String.ofList name).toList := by rwa [String.toList_ofList]
  have hclosed' : String.ofList front = "" ∨ ∃ above, String.ofList front = above ++ "/" := by
    rcases hclosed with rfl | ⟨above, rfl⟩
    · exact .inl rfl
    · exact .inr ⟨String.ofList above, by simp⟩
  refine ⟨_, _, hp, hplain', hclosed', ?_, ?_, ?_⟩
  · rw [Path.dir, ← hfront]
  · intro hsome
    rw [hp]
    exact base_append hsome hplain' hclosed'
  · simp only [Path.ext, String.toList_ofList, hback, takeWhile_reverse_of_not_mem hplain]

variable {p front name : String}

theorem Apart.names_eq (h : Apart p front name) :
    ∃ ns, names p = ns ++ [name] ∧ names front = ns ++ [""] := by
  obtain ⟨rfl, hplain, rfl | ⟨above, rfl⟩, -⟩ := h
  · refine ⟨[], ?_, by decide⟩
    rw [String.empty_append]
    exact names_of_not_mem hplain
  · refine ⟨names above, ?_, ?_⟩
    · rw [names_append_slash, names_of_not_mem hplain]
    · have hempty := names_append_slash above ""
      rwa [String.append_empty] at hempty

theorem Apart.isRooted_eq (h : Apart p front name) : isRooted p = isRooted front := by
  obtain ⟨rfl, hplain, hclosed, -⟩ := h
  by_cases hfront : front = ""
  · rw [hfront, String.empty_append]
    have hhead : name.toList.head? ≠ some '/' := fun hhead => hplain (List.mem_of_head? hhead)
    simpa [isRooted] using hhead
  · exact isRooted_append hfront name

theorem Apart.components_eq (h : Apart p front name) :
    components p = (push (isRooted p) (components front).reverse name).reverse := by
  obtain ⟨ns, hp, hfront⟩ := h.names_eq
  rw [components, components, ← h.isRooted_eq, hp, hfront, resolve, resolve, List.foldl_append,
    List.foldl_append, List.reverse_reverse]
  rfl

/-- **Put together again**, directory and base name are the cleaned path. -/
theorem Apart.join_eq (h : Apart p front name) (hname : name ≠ "") :
    join (Path.dir p) (Path.base p) = clean p := by
  have hdir := clean_ne_empty front
  have hrooted : isRooted (clean front ++ "/" ++ name) = isRooted p := by
    rw [String.append_assoc, isRooted_append hdir, isRooted_clean, h.isRooted_eq]
  have hcomponents : components (clean front ++ "/" ++ name) = components p := by
    rw [h.components_eq, ← components_clean front, components, components, hrooted, isRooted_clean,
      ← h.isRooted_eq, names_append_slash, names_of_not_mem h.plain, resolve, resolve,
      List.foldl_append, List.reverse_reverse]
    rfl
  rw [h.dir, h.base hname, join, if_neg hdir, if_neg hname, clean, hrooted, hcomponents, ← clean]

theorem exists_append_ext {name : String} (hplain : '/' ∉ name.toList) :
    ∃ before, name = before ++ ext name := by
  simp only [ext, takeWhile_reverse_of_not_mem hplain]
  split_ifs with hdot
  · obtain ⟨front, last, hwhole, hlast, hfront, hname, -⟩ := exists_cut '.' name.toList
    have hmem : '.' ∈ front := by
      have hname : '.' ∈ front ++ last := by simpa [← hwhole] using hdot
      exact (List.mem_append.mp hname).resolve_right hlast
    obtain rfl | ⟨above, rfl⟩ := hfront
    · cases hmem
    · refine ⟨String.ofList above, ?_⟩
      rw [← hname, ← String.toList_inj, String.toList_append, String.toList_ofList,
        String.toList_ofList, hwhole, List.append_assoc]
      rfl
  · exact ⟨name, String.append_empty.symm⟩

theorem Apart.stem_append_ext (h : Apart p front name) (hname : name ≠ "") :
    stem p ++ Path.ext p = name := by
  obtain ⟨before, hbefore⟩ := exists_append_ext h.plain
  have hstem : stem p = before := by
    have hchars : name.toList = before.toList ++ (Path.ext name).toList := by
      rw [← String.toList_append, ← hbefore]
    simp only [stem, h.base hname, String.length, hchars]
    simp
  rw [hstem, h.ext, ← hbefore]

/-- A path with an extension that is more than a dot ends in a name that leads down. -/
theorem Apart.proper (h : Apart p front name) (hext : Path.ext p ≠ "") (hdot : Path.ext p ≠ ".") :
    Proper name := by
  rw [h.ext] at hext hdot
  refine ⟨?_, ?_, ?_⟩
  · rintro rfl
    exact hext rfl
  · rintro rfl
    exact hdot rfl
  · rintro rfl
    exact hdot rfl

theorem Apart.getLast?_components (h : Apart p front name) (hproper : Proper name) :
    (components p).getLast? = some name := by
  rw [h.components_eq, push_of_proper hproper, List.reverse_cons, List.getLast?_concat]

/-! ### Size -/

theorem utf8ByteSize_intercalate (ns : List String) :
    (String.intercalate "/" ns).utf8ByteSize = (ns.map String.utf8ByteSize).sum + (ns.length - 1) := by
  induction ns with
  | nil => rfl
  | cons n ns ih =>
    cases ns with
    | nil => simp
    | cons m ns =>
      have hslash : "/".utf8ByteSize = 1 := rfl
      rw [String.intercalate_cons_cons, String.utf8ByteSize_append, String.utf8ByteSize_append, ih,
        hslash]
      simp only [List.map_cons, List.sum_cons, List.length_cons]
      omega

theorem utf8ByteSize_intercalate_le {ns ms : List String} (h : ns.Sublist ms) :
    (String.intercalate "/" ns).utf8ByteSize ≤ (String.intercalate "/" ms).utf8ByteSize := by
  have hsum : (ns.map String.utf8ByteSize).sum ≤ (ms.map String.utf8ByteSize).sum :=
    (h.map _).sum_le_sum fun _ _ => Nat.zero_le _
  have hlength := h.length_le
  rw [utf8ByteSize_intercalate, utf8ByteSize_intercalate]
  omega

/-- **Cleaning** makes no path longer. -/
theorem utf8ByteSize_clean_le {p : String} (hp : p ≠ "") :
    (clean p).utf8ByteSize ≤ p.utf8ByteSize := by
  have hpos : 1 ≤ p.utf8ByteSize := by
    rw [Nat.one_le_iff_ne_zero, Ne, String.utf8ByteSize_eq_zero_iff]
    exact hp
  have hsub : (components p).Sublist (names p) := sublist_resolve _ _
  cases hrooted : isRooted p with
  | false =>
    rw [clean, hrooted, text]
    cases hnil : (components p).isEmpty with
    | true => exact hpos
    | false =>
      have hle := utf8ByteSize_intercalate_le hsub
      rwa [intercalate_names] at hle
  | true =>
    obtain ⟨cs, hcs⟩ := List.head?_eq_some_iff.mp (beq_iff_eq.mp hrooted)
    have hslash : p = "/" ++ String.ofList cs := by
      rw [← String.toList_inj, hcs]
      simp
    have hrest : (components p).Sublist (names (String.ofList cs)) := by
      have hnames : components p = resolve true (names (String.ofList cs)) := by
        rw [components, hrooted, hslash, names_slash_append, resolve, List.foldl_cons,
          push_of_stay (.inl rfl), ← resolve]
      rw [hnames]
      exact sublist_resolve true _
    have hle := utf8ByteSize_intercalate_le hrest
    rw [intercalate_names] at hle
    rw [clean, hrooted, text, if_pos rfl, String.utf8ByteSize_append]
    conv => rhs; rw [hslash, String.utf8ByteSize_append]
    exact Nat.add_le_add_left hle _

end Path
end GuestHost
