import GuestHost.Proofs.Path.Lexical
import GuestHost.Proofs.Settings.Check
import GuestHost.Session

/-! # Extensions that files can have

A file is told by the text between the first and the second dot of its name, and so an extension with a
dot in it is told by no name (`Classifier.not_mem_of_extension?`).  Settings may ask for such an
extension: then its files are told by what stands before the dot (`Classifier.classify_dotted`), and of
the two extensions that settings ask for, those without a dot are the ones that files can have
(`Session.extension_matches_iff`). -/

namespace GuestHost

namespace Classifier

theorem toList_dotted (base ext : String) :
    (base ++ "." ++ ext).toList = base.toList ++ '.' :: ext.toList := by
  rw [String.toList_append, String.toList_append, List.append_assoc]
  rfl

theorem not_mem_of_extension? {name e : String} (h : extension? name = some e) :
    e ≠ "" ∧ '.' ∉ e.toList := by
  unfold extension? at h
  split at h
  · rename_i f c r rest hsplit
    obtain rfl := Option.some.inj h
    have hfield : '.' ∉ c :: r :=
      Fields.not_mem_of_mem_split (hsplit ▸ List.mem_cons_of_mem f List.mem_cons_self)
    refine ⟨?_, by rwa [String.toList_ofList]⟩
    rw [Ne, ← String.toList_inj, String.toList_ofList]
    exact List.cons_ne_nil c r
  · cases h

/-- What comes after a second dot does not matter. -/
theorem extension?_dotted (base e rest : String) :
    extension? (base ++ "." ++ (e ++ "." ++ rest)) = extension? (base ++ "." ++ e) := by
  unfold extension?
  rw [toList_dotted, toList_dotted, toList_dotted, Fields.split_append_sep, Fields.split_append_sep,
    Fields.split_append_sep]
  obtain ⟨f, fs, hf⟩ := List.exists_cons_of_ne_nil (Fields.split_ne_nil '.' base.toList)
  obtain ⟨g, gs, hg⟩ := List.exists_cons_of_ne_nil (Fields.split_ne_nil '.' e.toList)
  rw [hf, hg]
  cases fs with
  | nil => cases g <;> rfl
  | cons f' fs => cases f' <;> rfl

/-- **What stands before a dot in an extension** is what files are told by. -/
theorem classify_dotted (c : Classifier) (base e rest : String) :
    c.classify (base ++ "." ++ (e ++ "." ++ rest)) = c.classify (base ++ "." ++ e) := by
  rw [classify, classify, extension?_dotted]

theorem extension?_append {base e : String} (hbase : '.' ∉ base.toList) (hne : e ≠ "")
    (hdot : '.' ∉ e.toList) : extension? (base ++ "." ++ e) = some e := by
  have hcons : e.toList ≠ [] := by
    rw [Ne, ← String.toList_empty, String.toList_inj]
    exact hne
  obtain ⟨c, r, hc⟩ := List.exists_cons_of_ne_nil hcons
  unfold extension?
  rw [toList_dotted, Fields.split_append_sep, Fields.split_of_not_mem hbase,
    Fields.split_of_not_mem hdot, hc]
  simp only [List.singleton_append]
  rw [← hc, String.ofList_toList]

section
variable {c : Classifier} {name : String}

theorem classify_eq_primary_iff : c.classify name = .primary ↔ extension? name = some c.primary := by
  unfold classify
  cases extension? name with
  | none => simp
  | some e => simp only [Option.some.injEq]; split_ifs <;> simp_all

theorem classify_eq_secondary_iff_and : c.classify name = .secondary ↔
    extension? name = some c.secondary ∧ c.secondary ≠ c.primary := by
  unfold classify
  cases extension? name with
  | none => simp
  | some e => simp only [Option.some.injEq]; split_ifs <;> simp_all

theorem classify_eq_secondary_iff (h : c.primary ≠ c.secondary) :
    c.classify name = .secondary ↔ extension? name = some c.secondary := by
  rw [classify_eq_secondary_iff_and, and_iff_left h.symm]

end

/-- An extension that is not empty is the extension of some name just if there is no dot in it, and then it
is that of any base name without one. -/
theorem exists_extension?_iff {e : String} (hne : e ≠ "") :
    (∃ name, extension? name = some e) ↔ '.' ∉ e.toList := by
  constructor
  · rintro ⟨name, hname⟩
    exact (not_mem_of_extension? hname).2
  · exact fun hdot => ⟨"a" ++ "." ++ e, extension?_append (by decide) hne hdot⟩

theorem extension?_append_iff {base e : String} (hbase : '.' ∉ base.toList) (hne : e ≠ "") :
    extension? (base ++ "." ++ e) = some e ↔ '.' ∉ e.toList :=
  ⟨fun h => (not_mem_of_extension? h).2, extension?_append hbase hne⟩

end Classifier

namespace Session

/-- The files of a run are told by the extensions that the settings ask for, if they were accepted. -/
theorem classifier_bridge {s : Session} (h : s.settings.Sound) :
    s.bridge.exchange.classifier = ⟨s.settings.files.primaryExt, s.settings.files.secondaryExt⟩ := by
  refine if_neg fun hstandard => h.extensions.primary ?_
  exact congrArg Classifier.primary hstandard

/-- **An extension is matched just if there is no dot in it.**  With settings that were accepted, a file
with a base name without a dot and one of the two extensions is tagged accordingly just if there is no dot
in the extension.  With a dot in it no file at all gets the tag; of such an extension only what stands
before the dot counts. -/
theorem extension_matches_iff (s : Session) (haccepted : s.settings.check = .ok s.settings) :
    let c := s.bridge.exchange.classifier
    let primary := s.settings.files.primaryExt
    let secondary := s.settings.files.secondaryExt
    (∀ base : String, '.' ∉ base.toList →
      (c.classify (base ++ "." ++ primary) = .primary ↔ '.' ∉ primary.toList) ∧
      (c.classify (base ++ "." ++ secondary) = .secondary ↔ '.' ∉ secondary.toList)) ∧
    ((∃ name, c.classify name = .primary) ↔ '.' ∉ primary.toList) ∧
    ((∃ name, c.classify name = .secondary) ↔ '.' ∉ secondary.toList) ∧
    ∀ base e rest, c.classify (base ++ "." ++ (e ++ "." ++ rest)) = c.classify (base ++ "." ++ e) := by
  obtain ⟨-, hsound⟩ := Settings.check_eq_ok_iff.mp haccepted
  intro c primary secondary
  have hc : c = ⟨primary, secondary⟩ := classifier_bridge hsound
  obtain ⟨hprimary, hsecondary, hdiffer⟩ := hsound.extensions
  rw [hc]
  refine ⟨fun base hbase => ⟨?_, ?_⟩, ?_, ?_, Classifier.classify_dotted _⟩
  · rw [Classifier.classify_eq_primary_iff]
    exact Classifier.extension?_append_iff hbase hprimary
  · rw [Classifier.classify_eq_secondary_iff hdiffer]
    exact Classifier.extension?_append_iff hbase hsecondary
  · simp only [Classifier.classify_eq_primary_iff]
    exact Classifier.exists_extension?_iff hprimary
  · simp only [Classifier.classify_eq_secondary_iff (c := ⟨primary, secondary⟩) hdiffer]
    exact Classifier.exists_extension?_iff hsecondary

/-- With the settings that hold when nothing is said, the files of both extensions are told apart. -/
theorem standard_extensions_match :
    ∃ s t log, start .standard {} {} = (t, .ok s, log) ∧
      s.bridge.exchange.classifier.classify ("a" ++ "." ++ "l3") = .primary ∧
      s.bridge.exchange.classifier.classify ("a" ++ "." ++ "l3x") = .secondary := by
  obtain ⟨s, t, log, hstart, haccepted, hfiles⟩ :
      ∃ s t log, start .standard {} {} = (t, .ok s, log) ∧ s.settings.check = .ok s.settings ∧
        s.settings.files = {} :=
    ⟨_, _, _, rfl, Settings.check_eq_ok_iff.mpr ⟨rfl, Settings.sound_standard⟩, rfl⟩
  obtain ⟨hnames, -⟩ := extension_matches_iff s haccepted
  obtain ⟨hprimary, hsecondary⟩ := hnames "a" (by decide)
  rw [hfiles] at hprimary hsecondary
  exact ⟨s, t, log, hstart, hprimary.mpr (by decide), hsecondary.mpr (by decide)⟩

/-- Settings with an extension that has a dot in it are accepted, and no file is told by it. -/
theorem extension_with_dot_accepted :
    let settings : Settings := { files := { primaryExt := "tar.gz" } }
    settings.check = .ok settings ∧
    ∃ s t log, start settings {} {} = (t, .ok s, log) ∧
      s.bridge.exchange.classifier.classify "a.tar.gz" = .unknown ∧
      ∀ name, s.bridge.exchange.classifier.classify name ≠ .primary := by
  intro settings
  refine ⟨Settings.check_eq_ok_iff.mpr ⟨rfl, { Settings.sound_standard with
    extensions := ⟨by decide, by decide, by decide⟩
    rate := ⟨by decide, by decide, by decide⟩ }⟩, _, _, _, rfl, by decide +kernel, ?_⟩
  intro name hname
  obtain ⟨-, hdot⟩ := Classifier.not_mem_of_extension? (Classifier.classify_eq_primary_iff.mp hname)
  exact hdot (by decide +kernel)

end Session
end GuestHost
