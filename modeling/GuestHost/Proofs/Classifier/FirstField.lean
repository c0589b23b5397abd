import GuestHost.Proofs.Classifier.Extensions

/-! # The field that tells a file

A name is taken apart at its dots: what stands before the first dot, the field between the first dot and
the second, and what comes from the second dot on (`Classifier.Parted`).  A name is taken apart in one way
at most (`Classifier.Parted.unique`), and its extension is the field, if it can be taken apart at all
(`Classifier.extension?_eq_some_iff`).  So the tag of a file depends on the field alone
(`Classifier.tag_follows_field`). -/

namespace GuestHost

theorem Fields.append_sep_inj {sep : Char} {a a' b b' : List Char} (ha : sep ∉ a) (ha' : sep ∉ a')
    (h : a ++ sep :: b = a' ++ sep :: b') : a = a' ∧ b = b' := by
  have hfields : [a] ++ split sep b = [a'] ++ split sep b' := by
    rw [← split_of_not_mem ha, ← split_of_not_mem ha', ← split_append_sep, ← split_append_sep, h]
  obtain rfl : a = a' := (List.cons.inj hfields).1
  exact ⟨rfl, (List.cons.inj (List.append_cancel_left h)).2⟩

theorem Fields.exists_join_cons (sep : Char) (f : List Char) (fs : List (List Char)) :
    ∃ rest, join sep (f :: fs) = f ++ rest ∧ (rest = [] ∨ ∃ more, rest = sep :: more) := by
  cases fs with
  | nil => exact ⟨[], by simp [join], .inl rfl⟩
  | cons g gs => exact ⟨sep :: join sep (g :: gs), rfl, .inr ⟨_, rfl⟩⟩

namespace Classifier

/-- A name taken apart at its dots: what stands before the first of them, a field that is not empty, and
what comes from the second dot on, if there is one. -/
structure Parted (name before field rest : String) : Prop where
  whole : name = before ++ "." ++ field ++ rest
  before_plain : '.' ∉ before.toList
  field_plain : '.' ∉ field.toList
  field_some : field ≠ ""
  rest_dotted : rest = "" ∨ ∃ more, rest = "." ++ more

section
variable {name before field rest : String}

theorem Parted.extension?_eq (h : Parted name before field rest) : extension? name = some field := by
  obtain ⟨rfl, hbefore, hfield, hsome, rfl | ⟨more, rfl⟩⟩ := h
  · rw [String.append_empty]
    exact extension?_append hbefore hsome hfield
  · have hdotted : before ++ "." ++ field ++ ("." ++ more) = before ++ "." ++ (field ++ "." ++ more) := by
      simp only [String.append_assoc]
    rw [hdotted, extension?_dotted]
    exact extension?_append hbefore hsome hfield

theorem exists_parted (h : extension? name = some field) :
    ∃ before rest, Parted name before field rest := by
  obtain ⟨hsome, hfield⟩ := not_mem_of_extension? h
  unfold extension? at h
  split at h
  · rename_i f c r fs hsplit
    obtain rfl := Option.some.inj h
    have hf : '.' ∉ f := Fields.not_mem_of_mem_split (hsplit ▸ List.mem_cons_self)
    obtain ⟨rest, hrest, hdotted⟩ := Fields.exists_join_cons '.' (c :: r) fs
    have hjoin : name.toList = f ++ '.' :: (c :: r ++ rest) := by
      rw [← Fields.join_split '.' name.toList, hsplit, ← hrest]
      rfl
    refine ⟨String.ofList f, String.ofList rest, ?_, by rwa [String.toList_ofList], hfield, hsome, ?_⟩
    · rw [← String.toList_inj, String.append_assoc, toList_dotted, hjoin, String.toList_append,
        String.toList_ofList, String.toList_ofList, String.toList_ofList]
    · rcases hdotted with rfl | ⟨more, rfl⟩
      · exact .inl rfl
      · exact .inr ⟨String.ofList more, by simp⟩
  · cases h

/-- **The extension** of a name is the field that it is taken apart at. -/
theorem extension?_eq_some_iff :
    extension? name = some field ↔ ∃ before rest, Parted name before field rest :=
  ⟨exists_parted, fun ⟨_, _, h⟩ => h.extension?_eq⟩

theorem Parted.unique {before' field' rest' : String} (h : Parted name before field rest)
    (h' : Parted name before' field' rest') : before = before' ∧ field = field' ∧ rest = rest' := by
  obtain rfl : field = field' := Option.some.inj (h.extension?_eq.symm.trans h'.extension?_eq)
  have hwhole : before.toList ++ '.' :: (field ++ rest).toList
      = before'.toList ++ '.' :: (field ++ rest').toList := by
    rw [← toList_dotted, ← toList_dotted, ← String.append_assoc, ← String.append_assoc, ← h.whole,
      ← h'.whole]
  obtain ⟨hbefore, hrest⟩ := Fields.append_sep_inj h.before_plain h'.before_plain hwhole
  rw [String.toList_append, String.toList_append] at hrest
  exact ⟨String.toList_inj.mp hbefore, rfl, String.toList_inj.mp (List.append_cancel_left hrest)⟩

end

theorem classify_eq_unknown_iff {c : Classifier} {name : String} : c.classify name = .unknown ↔
    extension? name ≠ some c.primary ∧ extension? name ≠ some c.secondary := by
  unfold classify
  cases extension? name with
  | none => simp
  | some e => simp only [ne_eq, Option.some.injEq]; split_ifs <;> simp_all

/-- **The tag follows the field.**  A file is primary just if its name can be taken apart with the primary
extension for its field; it is secondary just if it can be with the secondary extension, when that is not
the primary one as well; otherwise it is unknown.  A name is taken apart in one way at most, and names with
the same field have the same tag, whatever stands before and behind it.  An extension that is empty or has
a dot in it is the tag of no file. -/
theorem tag_follows_field (c : Classifier) (name : String) :
    (c.classify name = .primary ↔
      ∃ before field rest, Parted name before field rest ∧ field = c.primary) ∧
    (c.classify name = .secondary ↔
      ∃ before field rest, Parted name before field rest ∧ field = c.secondary ∧ field ≠ c.primary) ∧
    (c.classify name = .unknown ↔
      ∀ before field rest, Parted name before field rest → field ≠ c.primary ∧ field ≠ c.secondary) ∧
    (∀ before field rest before' field' rest', Parted name before field rest →
      Parted name before' field' rest' → before = before' ∧ field = field' ∧ rest = rest') ∧
    (∀ name' before field rest before' rest', Parted name before field rest →
      Parted name' before' field rest' → c.classify name' = c.classify name) ∧
    (c.primary = "" ∨ '.' ∈ c.primary.toList → c.classify name ≠ .primary) ∧
    (c.secondary = "" ∨ '.' ∈ c.secondary.toList → c.classify name ≠ .secondary) := by
  have hparted : ∀ e, (∃ before field rest, Parted name before field rest ∧ field = e) ↔
      extension? name = some e := by
    intro e
    rw [extension?_eq_some_iff]
    constructor
    · rintro ⟨before, _, rest, h, rfl⟩
      exact ⟨before, rest, h⟩
    · rintro ⟨before, rest, h⟩
      exact ⟨before, e, rest, h, rfl⟩
  have hbare : ∀ e, e = "" ∨ '.' ∈ e.toList → extension? name ≠ some e := by
    intro e he h
    obtain ⟨hsome, hplain⟩ := not_mem_of_extension? h
    exact he.elim hsome hplain
  refine ⟨?_, ?_, ?_, fun _ _ _ _ _ _ h h' => h.unique h', ?_, ?_, ?_⟩
  · rw [classify_eq_primary_iff, hparted]
  · rw [classify_eq_secondary_iff_and, ← hparted]
    constructor
    · rintro ⟨⟨before, _, rest, h, rfl⟩, hdiffer⟩
      exact ⟨before, _, rest, h, rfl, hdiffer⟩
    · rintro ⟨before, _, rest, h, rfl, hdiffer⟩
      exact ⟨⟨before, _, rest, h, rfl⟩, hdiffer⟩
  · rw [classify_eq_unknown_iff, Ne, Ne, ← hparted, ← hparted]
    constructor
    · rintro ⟨hprimary, hsecondary⟩ before field rest h
      exact ⟨fun heq => hprimary ⟨before, field, rest, h, heq⟩,
        fun heq => hsecondary ⟨before, field, rest, h, heq⟩⟩
    · intro h
      exact ⟨fun ⟨before, field, rest, hp, heq⟩ => (h before field rest hp).1 heq,
        fun ⟨before, field, rest, hp, heq⟩ => (h before field rest hp).2 heq⟩
  · intro name' before field rest before' rest' h h'
    rw [classify, classify, h.extension?_eq, h'.extension?_eq]
  · exact fun he h => hbare c.primary he (classify_eq_primary_iff.mp h)
  · exact fun he h => hbare c.secondary he (classify_eq_secondary_iff_and.mp h).1

/-- A copy of a secondary file is secondary too, since its second extension does not count. -/
theorem copy_of_secondary_is_secondary :
    Parted "data.l3x.bak" "data" "l3x" ".bak" ∧ standard.classify "data.l3x.bak" = .secondary := by
  have hparted : Parted "data.l3x.bak" "data" "l3x" ".bak" :=
    ⟨by decide, by decide, by decide, by decide, .inr ⟨"bak", by decide⟩⟩
  obtain ⟨-, hsecondary, -⟩ := tag_follows_field standard "data.l3x.bak"
  exact ⟨hparted, hsecondary.mpr ⟨_, _, _, hparted, rfl, by decide⟩⟩

end Classifier
end GuestHost
