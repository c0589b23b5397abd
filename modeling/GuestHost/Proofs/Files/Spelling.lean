import GuestHost.Proofs.Files.Frame
import GuestHost.Source
import Mathlib.Data.List.Induction

/-! # Spellings of a path

A file below a directory can be asked for in two ways: by the cleaned path of both, or by writing one
behind the other as they are.  Without links both lead to the same place, if they lead anywhere
(`placeOf_join_eq_placeOf_below`).  But what is on the way is not the same: names that cleaning drops
are looked up when a path is followed as it is written.

* **Following** goes name by name (`follow_append`), and what a path leads to is there only if every
  directory on the way is (`locate_eq_ok_iff`).
* A file that the cleaned path leads to is found behind the directory as it is written just when that
  directory is found (`stat_below_iff`).
* Whatever a path leads to, the cleaned path leads to it as well (`stat_clean`). -/

namespace GuestHost

theorem Fields.exists_mem_split {sep c : Char} {cs : List Char} (hc : c ∈ cs) (hne : c ≠ sep) :
    ∃ f ∈ split sep cs, c ∈ f := by
  induction cs with
  | nil => cases hc
  | cons d r ih =>
      by_cases hd : d = sep
      · obtain ⟨f, hf, hcf⟩ := ih ((List.mem_cons.mp hc).resolve_left fun h => hne (h.trans hd))
        exact ⟨f, by simp [split, hd, hf], hcf⟩
      · cases hs : split sep r with
        | nil => exact absurd hs (split_ne_nil sep r)
        | cons g gs =>
            simp only [split, hd, if_false, hs]
            rcases List.mem_cons.mp hc with rfl | hc
            · exact ⟨c :: g, List.mem_cons_self, List.mem_cons_self⟩
            · obtain ⟨f, hf, hcf⟩ := ih hc
              rw [hs] at hf
              rcases List.mem_cons.mp hf with rfl | hf
              · exact ⟨d :: f, List.mem_cons_self, List.mem_cons_of_mem d hcf⟩
              · exact ⟨f, List.mem_cons_of_mem _ hf, hcf⟩

namespace Path

theorem names_ne_nil (p : String) : names p ≠ [] := by
  rw [names, Fields.ofString, Ne, List.map_eq_nil_iff]
  exact Fields.split_ne_nil '/' p.toList

theorem exists_mem_names {p : String} {c : Char} (hc : c ∈ p.toList) (hne : c ≠ '/') :
    ∃ n ∈ names p, c ∈ n.toList := by
  obtain ⟨f, hf, hcf⟩ := Fields.exists_mem_split hc hne
  refine ⟨String.ofList f, List.mem_map_of_mem hf, ?_⟩
  rwa [String.toList_ofList]

theorem proper_of_isCanonical {p : String} (h : isCanonical p = true) :
    p = "." ∨ ∀ n ∈ names p, Proper n := by
  simp only [isCanonical, Bool.or_eq_true, decide_eq_true_eq, List.all_eq_true, Bool.and_eq_true]
    at h
  exact h.imp_right fun hall n hn => ⟨(hall n hn).1.1, (hall n hn).1.2, (hall n hn).2⟩

theorem below_eq_append (dir file : String) :
    ∃ between, (between = "" ∨ between = "/") ∧ Source.below dir file = dir ++ between ++ file := by
  unfold Source.below
  split_ifs
  · exact ⟨"", .inl rfl, by rw [String.append_empty]⟩
  · exact ⟨"/", .inr rfl, rfl⟩

theorem nul_mem_below_iff {dir file : String} :
    '\x00' ∈ (Source.below dir file).toList ↔ '\x00' ∈ dir.toList ∨ '\x00' ∈ file.toList := by
  obtain ⟨between, hbetween, hbelow⟩ := below_eq_append dir file
  have hslash : '\x00' ∉ between.toList := by rcases hbetween with rfl | rfl <;> decide
  simp [hbelow, String.toList_append, hslash]

theorem utf8ByteSize_le_below (dir file : String) :
    dir.utf8ByteSize ≤ (Source.below dir file).utf8ByteSize := by
  obtain ⟨between, -, hbelow⟩ := below_eq_append dir file
  rw [hbelow, String.utf8ByteSize_append, String.utf8ByteSize_append]
  omega

/-- What is written behind a directory: the names of the one and of the other, but for an empty
name where the directory ends in a slash. -/
theorem names_below (dir file : String) :
    names (Source.below dir file) = names dir ++ names file ∨
    ∃ ns, names dir = ns ++ [""] ∧ names (Source.below dir file) = ns ++ names file := by
  unfold Source.below
  split_ifs with hlast
  · obtain ⟨cs, hcs⟩ := List.getLast?_eq_some_iff.mp hlast
    have hdir : dir = String.ofList cs ++ "/" := by
      rw [← String.toList_inj, hcs, String.toList_append, String.toList_ofList]
      rfl
    refine .inr ⟨names (String.ofList cs), ?_, ?_⟩
    · have hnames := names_append_slash (String.ofList cs) ""
      rwa [String.append_empty, ← hdir] at hnames
    · rw [hdir]
      exact names_append_slash _ file
  · exact .inl (names_append_slash dir file)

theorem isRooted_below {dir : String} (hdir : dir ≠ "") (file : String) :
    isRooted (Source.below dir file) = isRooted dir := by
  obtain ⟨between, -, hbelow⟩ := below_eq_append dir file
  rw [hbelow, String.append_assoc]
  exact isRooted_append hdir _

end Path

namespace FileTree

/-! ### Following names -/

theorem follow_append (t : FileTree) (here : Place) (ns ms : List String) :
    t.follow here (ns ++ ms) =
      match t.follow here ns with
      | .ok p => t.follow p ms
      | .error e => .error e := by
  induction ns generalizing here with
  | nil => rfl
  | cons n ns ih =>
      simp only [List.cons_append, follow]
      cases t.find? here with
      | none => rfl
      | some e =>
          cases e with
          | directory =>
              simp only
              split_ifs
              · exact ih here
              · exact ih here.dropLast
              · rfl
              · exact ih (here ++ [n])
          | _ => rfl

theorem follow_append_eq_ok_iff {t : FileTree} {here q : Place} {ns ms : List String} :
    t.follow here (ns ++ ms) = .ok q ↔ ∃ p, t.follow here ns = .ok p ∧ t.follow p ms = .ok q := by
  rw [follow_append]
  cases t.follow here ns with
  | error e => simp
  | ok p => simp

/-- Names are followed from directories only. -/
theorem directory_of_follow {t : FileTree} {here q : Place} {ns : List String} (hne : ns ≠ [])
    (h : t.follow here ns = .ok q) : t.find? here = some .directory := by
  cases ns with
  | nil => exact absurd rfl hne
  | cons n ns =>
      rw [follow] at h
      split at h
      · cases h
      · assumption
      · cases h

/-- An empty name asks for a directory and stays there. -/
theorem follow_empty_name {t : FileTree} {here : Place} (h : t.find? here = some .directory)
    (ns : List String) : t.follow here ("" :: ns) = t.follow here ns := by
  simp [follow, h]

/-- Where a path starts. -/
def origin (t : FileTree) (path : String) : Place := if Path.isRooted path then [] else t.home

/-- What it takes to find the place of a path. -/
theorem locate_eq_ok_iff {t : FileTree} {path : String} {p : Place} :
    t.locate path = .ok p ↔ '\x00' ∉ path.toList ∧ path ≠ "" ∧ path.utf8ByteSize ≤ maxPath ∧
      t.follow (t.origin path) (Path.names path) = .ok p := by
  unfold locate followFrom
  split_ifs with hnul hempty hlong hrooted
  · simp only [List.contains_eq_mem, decide_eq_true_eq] at hnul
    simp [hnul]
  · simp [hempty]
  · simp [Nat.not_le.mpr hlong]
  all_goals
    simp only [List.contains_eq_mem, decide_eq_true_eq] at hnul
    simp [hnul, hempty, Nat.le_of_not_lt hlong, origin, hrooted]

theorem stat_eq_ok_iff {t : FileTree} {path : String} {e : Entry} :
    t.stat path = .ok e ↔ ∃ p, t.locate path = .ok p ∧ t.find? p = some e := by
  unfold stat
  cases t.locate path with
  | error why => simp
  | ok p =>
      cases hfind : t.find? p with
      | none => simp [hfind]
      | some e' => simp [hfind]

theorem find?_of_stat {t : FileTree} {path : String} {e : Entry} (h : t.stat path = .ok e) :
    t.find? (t.placeOf path) = some e := by
  obtain ⟨p, hp, hfind⟩ := stat_eq_ok_iff.mp h
  rwa [← locate_eq_placeOf hp]

/-! ### Behind a directory -/

theorem placeOf_below (t : FileTree) {dir : String} (hdir : dir ≠ "") (file : String) :
    t.placeOf (Source.below dir file) = Path.walk (t.placeOf dir) (Path.names file) := by
  rw [placeOf, placeOf, Path.isRooted_below hdir]
  obtain hnames | ⟨ns, hns, hnames⟩ := Path.names_below dir file
  · rw [hnames, Path.walk_append]
  · rw [hnames, hns, Path.walk_append, Path.walk_append]
    rfl

/-- **One place.**  The cleaned path and the path as it is written name the same place. -/
theorem placeOf_join_eq_placeOf_below (t : FileTree) {dir file : String} (hdir : dir ≠ "")
    (hfile : file ≠ "") : t.placeOf (Path.join dir file) = t.placeOf (Source.below dir file) := by
  rw [Path.join, if_neg hdir, if_neg hfile, placeOf_clean, placeOf_below t hdir, placeOf, placeOf,
    Path.names_append_slash, String.append_assoc, Path.isRooted_append hdir, Path.walk_append]

/-- A path behind a directory is followed from where the directory is. -/
theorem follow_below_eq_ok_iff {t : FileTree} {start q : Place} {dir file : String} :
    t.follow start (Path.names (Source.below dir file)) = .ok q ↔
      ∃ p, t.follow start (Path.names dir) = .ok p ∧ t.find? p = some .directory ∧
        t.follow p (Path.names file) = .ok q := by
  have hne := Path.names_ne_nil file
  obtain hnames | ⟨ns, hns, hnames⟩ := Path.names_below dir file
  · rw [hnames, follow_append_eq_ok_iff]
    constructor
    · rintro ⟨p, hp, hq⟩
      exact ⟨p, hp, directory_of_follow hne hq, hq⟩
    · rintro ⟨p, hp, -, hq⟩
      exact ⟨p, hp, hq⟩
  · rw [hnames, follow_append_eq_ok_iff, hns]
    constructor
    · rintro ⟨p, hp, hq⟩
      have hdirectory := directory_of_follow hne hq
      have hstay : t.follow p [""] = .ok p := follow_empty_name hdirectory []
      exact ⟨p, follow_append_eq_ok_iff.mpr ⟨p, hp, hstay⟩, hdirectory, hq⟩
    · rintro ⟨p, hp, -, hq⟩
      obtain ⟨p', hp', hstay⟩ := follow_append_eq_ok_iff.mp hp
      rw [follow_empty_name (directory_of_follow (by simp) hstay)] at hstay
      cases hstay
      exact ⟨p, hp', hq⟩

/-- A cleaned path is followed component by component. -/
theorem follow_clean (t : FileTree) {p : String} (hne : Path.components p ≠ []) :
    t.follow (t.origin (Path.clean p)) (Path.names (Path.clean p))
      = t.follow (t.origin p) (Path.components p) := by
  rw [origin, origin, Path.isRooted_clean, Path.names_clean hne]
  split_ifs
  · exact follow_empty_name rfl _
  · rfl

/-- Where the cleaned path leads somewhere, the rest of the way is there from the directory on. -/
theorem follow_of_locate_join {t : FileTree} {dir file : String} {q : Place} (hdir : dir ≠ "")
    (hproper : ∀ n ∈ Path.names file, Path.Proper n) (h : t.locate (Path.join dir file) = .ok q) :
    t.follow (t.placeOf dir) (Path.names file) = .ok q ∧ '\x00' ∉ file.toList := by
  have hfile : file ≠ "" := by
    rintro rfl
    exact (hproper "" (by decide)).not_empty rfl
  have hrooted : Path.isRooted (dir ++ "/" ++ file) = Path.isRooted dir := by
    rw [String.append_assoc]
    exact Path.isRooted_append hdir _
  have hcomponents : Path.components (dir ++ "/" ++ file)
      = Path.resolve (Path.isRooted dir) (Path.names dir) ++ Path.names file := by
    rw [Path.components, hrooted, Path.names_append_slash, Path.resolve_append hproper]
  have hne : Path.components (dir ++ "/" ++ file) ≠ [] := by
    rw [hcomponents]
    exact List.append_ne_nil_of_right_ne_nil _ (Path.names_ne_nil file)
  rw [Path.join, if_neg hdir, if_neg hfile, locate_eq_ok_iff] at h
  obtain ⟨hnul, -, -, hfollow⟩ := h
  constructor
  · rw [follow_clean t hne, hcomponents, follow_append_eq_ok_iff, origin, hrooted] at hfollow
    obtain ⟨p, hp, hq⟩ := hfollow
    have hplace : p = t.placeOf dir := by
      rw [follow_eq_walk hp, placeOf]
      exact Path.walk_resolve (fun h => if_pos h) (Path.names dir)
    rwa [← hplace]
  · intro hmem
    -- The character stands in a name of the file, and that name in the cleaned path.
    obtain ⟨n, hn, hc⟩ := Path.exists_mem_names hmem (by decide)
    have hclean : n ∈ Path.names (Path.clean (dir ++ "/" ++ file)) := by
      rw [Path.names_clean hne, hcomponents]
      split_ifs <;> simp [hn]
    exact hnul (Path.mem_of_mem_names hclean hc)

/-- **Behind a directory as it is written.**  A file that the cleaned path leads to is found just when
the directory itself is, and when the path is not too long. -/
theorem stat_below_iff {t : FileTree} {dir file : String} {c : Content}
    (hcanonical : Path.isCanonical file = true) (hdir : dir ≠ "")
    (h : t.stat (Path.join dir file) = .ok (.file c)) :
    t.stat (Source.below dir file) = .ok (.file c) ↔
      t.stat dir = .ok .directory ∧ (Source.below dir file).utf8ByteSize ≤ maxPath := by
  have horigin : t.origin (Source.below dir file) = t.origin dir := by
    rw [origin, origin, Path.isRooted_below hdir]
  constructor
  · intro hbelow
    obtain ⟨q, hq, -⟩ := stat_eq_ok_iff.mp hbelow
    obtain ⟨hnul, -, hlength, hfollow⟩ := locate_eq_ok_iff.mp hq
    rw [horigin, follow_below_eq_ok_iff] at hfollow
    obtain ⟨p, hp, hdirectory, -⟩ := hfollow
    rw [Path.nul_mem_below_iff, not_or] at hnul
    have hshort := Nat.le_trans (Path.utf8ByteSize_le_below dir file) hlength
    have hlocate := locate_eq_ok_iff.mpr ⟨hnul.1, hdir, hshort, hp⟩
    exact ⟨stat_eq_ok_iff.mpr ⟨p, hlocate, hdirectory⟩, hlength⟩
  · rintro ⟨hfound, hlength⟩
    obtain ⟨p, hp, hdirectory⟩ := stat_eq_ok_iff.mp hfound
    obtain ⟨q, hq, hfile⟩ := stat_eq_ok_iff.mp h
    obtain rfl | hproper := Path.proper_of_isCanonical hcanonical
    · -- A dot stands for the directory, which is not a file.
      have hplace := find?_of_stat h
      rw [placeOf_join_eq_placeOf_below t hdir (by decide), placeOf_below t hdir] at hplace
      have hhere := (find?_of_stat hfound).symm.trans hplace
      cases hhere
    · obtain ⟨hrest, hnul⟩ := follow_of_locate_join hdir hproper hq
      obtain ⟨hnul', -, -, hway⟩ := locate_eq_ok_iff.mp hp
      obtain rfl := locate_eq_placeOf hp
      refine stat_eq_ok_iff.mpr ⟨q, locate_eq_ok_iff.mpr ⟨?_, ?_, hlength, ?_⟩, hfile⟩
      · rw [Path.nul_mem_below_iff]
        exact not_or.mpr ⟨hnul', hnul⟩
      · intro hempty
        have hsize := Path.utf8ByteSize_le_below dir file
        rw [hempty] at hsize
        exact hdir (String.utf8ByteSize_eq_zero_iff.mp (Nat.le_zero.mp hsize))
      · rw [horigin, follow_below_eq_ok_iff]
        exact ⟨_, hway, hdirectory, hrest⟩

/-! ### Cleaned paths -/

/-- **One name** may be resolved before names are followed, if it can be followed at all. -/
theorem follow_push {t : FileTree} {rooted : Bool} {start p q : Place} {stack : List String} {n : String}
    (hroot : rooted = true → start = []) (hheld : Path.Held rooted stack)
    (hp : t.follow start stack.reverse = .ok p) (hq : t.follow p [n] = .ok q) :
    t.follow start (Path.push rooted stack n).reverse = .ok q := by
  have hplace : q = Path.step p n := follow_eq_walk hq
  have hadd : Path.push rooted stack n = n :: stack →
      t.follow start (Path.push rooted stack n).reverse = .ok q := by
    intro h
    rw [h, List.reverse_cons]
    exact follow_append_eq_ok_iff.mpr ⟨p, hp, hq⟩
  obtain ⟨hstay, h⟩ | ⟨rfl, hrooted, hstack, h⟩ | ⟨rfl, top, htop, h⟩ | ⟨-, -, h⟩ | ⟨-, h⟩ :=
    Path.push_cases rooted stack n
  · rw [h, hplace, Path.step, if_pos hstay]
    exact hp
  · -- At the root there is nothing above.
    rw [hstack] at hp
    obtain rfl : start = p := Except.ok.inj hp
    rw [h, hplace, hroot hrooted]
    rfl
  · -- The directory above was come through before.
    generalize Path.push rooted stack ".." = rest at h
    subst h
    obtain ⟨hempty, hhere, -⟩ := hheld top List.mem_cons_self
    rw [List.reverse_cons] at hp
    obtain ⟨above, habove, htop'⟩ := follow_append_eq_ok_iff.mp hp
    obtain rfl : p = above ++ [top] := by
      rw [follow_eq_walk htop', Path.walk_of_proper (by simpa using ⟨hempty, hhere, htop⟩)]
    rw [hplace, habove]
    simp [Path.step]
  · exact hadd h
  · exact hadd h

/-- **Resolved names** lead to where the names lead, if these can be followed. -/
theorem follow_resolve {t : FileTree} {rooted : Bool} {start q : Place}
    (hroot : rooted = true → start = []) {ns : List String} (h : t.follow start ns = .ok q) :
    t.follow start (Path.resolve rooted ns) = .ok q := by
  induction ns using List.reverseRecOn generalizing q with
  | nil => exact h
  | append_singleton ns n ih =>
    obtain ⟨p, hp, hq⟩ := follow_append_eq_ok_iff.mp h
    have hheld : Path.Held rooted (ns.foldl (Path.push rooted) []) := by
      intro m hm
      exact Path.held_resolve rooted ns m (List.mem_reverse.mpr hm)
    rw [Path.resolve, List.foldl_append]
    exact follow_push hroot hheld (ih hp) hq

theorem nul_not_mem_clean {path : String} (h : '\x00' ∉ path.toList) :
    '\x00' ∉ (Path.clean path).toList := by
  intro hmem
  obtain ⟨n, hn, hc⟩ := Path.exists_mem_names hmem (by decide)
  by_cases hne : Path.components path = []
  · -- Nothing is left but the root or a dot.
    rw [Path.clean, hne] at hmem
    generalize Path.isRooted path = rooted at hmem
    revert hmem
    cases rooted <;> decide
  · have hcomponent : n ∈ Path.components path := by
      rw [Path.names_clean hne] at hn
      split_ifs at hn
      · refine (List.mem_cons.mp hn).resolve_left ?_
        rintro rfl
        cases hc
      · exact hn
    exact h (Path.mem_of_mem_names (Path.mem_of_mem_resolve hcomponent) hc)

/-- **Wherever a path leads**, the cleaned path leads there as well. -/
theorem locate_clean {t : FileTree} {path : String} {p : Place} (h : t.locate path = .ok p) :
    t.locate (Path.clean path) = .ok p := by
  obtain ⟨hnul, hne, hsize, hfollow⟩ := locate_eq_ok_iff.mp h
  have hresolved : t.follow (t.origin path) (Path.components path) = .ok p :=
    follow_resolve (fun hrooted => if_pos hrooted) hfollow
  refine locate_eq_ok_iff.mpr ⟨nul_not_mem_clean hnul, Path.clean_ne_empty path,
    (Path.utf8ByteSize_clean_le hne).trans hsize, ?_⟩
  by_cases hnil : Path.components path = []
  · -- Nothing is left but the root or a dot, which ask for the directory to start from.
    have hdirectory := directory_of_follow (Path.names_ne_nil path) hfollow
    rw [hnil] at hresolved
    obtain rfl : t.origin path = p := Except.ok.inj hresolved
    have horigin : t.origin (Path.clean path) = t.origin path := by
      rw [origin, origin, Path.isRooted_clean]
    have hnames : Path.names (Path.clean path) = ["", ""] ∨ Path.names (Path.clean path) = ["."] := by
      rw [Path.clean, hnil]
      cases Path.isRooted path <;> decide
    rw [horigin]
    rcases hnames with hnames | hnames <;> simp [hnames, follow, hdirectory]
  · rwa [follow_clean t hnil]

theorem stat_clean {t : FileTree} {path : String} {e : Entry} (h : t.stat path = .ok e) :
    t.stat (Path.clean path) = .ok e := by
  obtain ⟨p, hp, hfind⟩ := stat_eq_ok_iff.mp h
  exact stat_eq_ok_iff.mpr ⟨p, locate_clean hp, hfind⟩

end FileTree
end GuestHost
