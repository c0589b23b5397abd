import GuestHost.Proofs.Shelf.Listing
import GuestHost.Proofs.Shelf.Routing

/-! # The folder and the shelf hold the same

Artifacts go to a folder and to the shelf of downloads side by side.  As long as nothing is wrong with
the files, the two agree: they refuse the same names, and what one holds under a file name the other
holds too (`Agrees`).  One artifact keeps this (`Agrees.receive`), and so do all (`Agrees.receiveAll`).

What is listed is what is on the shelf (`Shelf.listText_of_writable`).  A date that cannot be written
leaves the whole list unwritten (`unwritable_date_empties_list`). -/

namespace GuestHost

/-- A folder and the shelf, side by side. -/
def Outlet.folderAndShelf (dir : String) : Outlet Recipient :=
  .fan [.single (.folder dir), .single .downloads]

namespace Deliveries

/-- Hands artifacts to an outlet, one after the other; the failures are told for each of them. -/
def receiveAll (o : Outlet Recipient) : List Artifact → Deliveries → Deliveries × List (List Fault)
  | [], d => (d, [])
  | a :: as, d =>
    let (d, fs) := d.receive o a
    let (d, rest) := receiveAll o as d
    (d, fs :: rest)

/-- What a folder and the shelf say when all that can be wrong is the name. -/
def refusals (a : Artifact) : List Fault :=
  if Artifact.fileName? a.name = none then [.artifactName a.name, .artifactName a.name] else []

theorem receive_folderAndShelf (d : Deliveries) (dir : String) (a : Artifact) :
    d.receive (.folderAndShelf dir) a =
      ({ d with files := (Recipient.writeInto dir d.files a).1, shelf := (d.shelf.put a).1 },
        (Recipient.writeInto dir d.files a).2.toList ++ (d.shelf.put a).2.toList) := by
  simp [Deliveries.receive, Outlet.folderAndShelf, Outlet.deliver, Outlet.deliverAll, Recipient.receive]

/-- The files below a place are what is on the shelf, and none of them is a device. -/
structure Agrees (dir : String) (place : Place) (d : Deliveries) : Prop where
  placeOf : d.files.placeOf dir = place
  device : ∀ name, d.files.find? (place ++ [name]) ≠ some .fullDevice
  content : ∀ name, d.files.fileAt? (place ++ [name]) = (d.shelf.get? name).map (·.content)

variable {dir : String} {place : Place} {d : Deliveries}

/-- **One artifact.**  If all that is wrong is the name, both refuse it; otherwise both hold the content
under the file name.  Either way they agree. -/
theorem Agrees.receive (h : Agrees dir place d) {a : Artifact}
    (hfiles : ∀ f ∈ (d.receive (.folderAndShelf dir) a).2, ∃ n, f = .artifactName n) :
    Agrees dir place (d.receive (.folderAndShelf dir) a).1 ∧
      (d.receive (.folderAndShelf dir) a).2 = refusals a := by
  rw [receive_folderAndShelf] at hfiles ⊢
  obtain ⟨hname, hfolder⟩ | ⟨base, t₁, hname, hmade, hcases⟩ := Recipient.writeInto_cases dir d.files a
  · simp only [hfolder, Shelf.put_of_none hname, refusals, hname]
    exact ⟨h, rfl⟩
  rw [h.placeOf] at hcases
  have hdevice : ∀ name, t₁.find? (place ++ [name]) ≠ some .fullDevice := by
    intro name hfull
    rcases hmade.kept (place ++ [name]) with hkept | ⟨-, hdirectory⟩
    · exact h.device name (hkept ▸ hfull)
    · rw [hdirectory] at hfull
      cases hfull
  obtain ⟨f, hfolder, hf⟩ | ⟨hfull, -⟩ | ⟨t', hfolder, hhome, -, hfind⟩ := hcases
  · obtain ⟨n, rfl⟩ := hfiles f (by simp [hfolder])
    exact absurd rfl (hf n)
  · exact absurd hfull (hdevice base)
  · have hput : (d.shelf.put a).2 = none := by rw [Shelf.put_of_some hname]
    have hchild : ∀ name, t'.find? (place ++ [name])
        = if name = base then some (.file (.bytes a.content)) else t₁.find? (place ++ [name]) := by
      intro name
      simp [hfind]
    simp only [hfolder, hput, refusals, hname]
    refine ⟨⟨?_, ?_, ?_⟩, by simp⟩
    · rw [← h.placeOf]
      exact FileTree.placeOf_congr hhome dir
    · intro name
      rw [hchild]
      split_ifs
      · simp
      · exact hdevice name
    · intro name
      have hbefore := h.content name
      rw [← hmade.fileAt?, FileTree.fileAt?] at hbefore
      rw [FileTree.fileAt?, hchild, Shelf.get?_put, Artifact.filed?, hname]
      by_cases hbase : name = base
      · simp [hbase, Option.filter, Content.data]
      · simp only [if_neg hbase, hbefore]
        simp [Option.filter, Ne.symm hbase]

/-- **All artifacts.** -/
theorem Agrees.receiveAll (h : Agrees dir place d) {as : List Artifact}
    (hfiles : ∀ fs ∈ (receiveAll (.folderAndShelf dir) as d).2, ∀ f ∈ fs, ∃ n, f = .artifactName n) :
    Agrees dir place (receiveAll (.folderAndShelf dir) as d).1 ∧
      (receiveAll (.folderAndShelf dir) as d).2 = as.map refusals ∧
      (receiveAll (.folderAndShelf dir) as d).1.shelf = d.shelf.putAll as := by
  induction as generalizing d with
  | nil => exact ⟨h, rfl, rfl⟩
  | cons a as ih =>
      simp only [Deliveries.receiveAll, List.forall_mem_cons] at hfiles ⊢
      obtain ⟨hagrees, hrefusals⟩ := h.receive hfiles.1
      obtain ⟨hall, hrest, hshelf⟩ := ih hagrees hfiles.2
      refine ⟨hall, ?_, ?_⟩
      · rw [hrefusals, hrest, List.map_cons]
      · rw [hshelf, receive_folderAndShelf, Shelf.putAll_cons]

end Deliveries

open Deliveries in
/-- **The folder and the shelf hold the same.**  Artifacts go to a folder in which nothing is and to
the empty shelf, and all that is ever wrong is a name.  Then both have refused the same artifacts,
those that have no file name.  Under each file name the folder has the bytes of what the shelf has,
and that is the last artifact of that file name.

The list has an entry for each artifact of the shelf, in the order of the bytes of the names, however
the artifacts were gathered, and each entry tells the name, the media type and the number of bytes of
its artifact.  So it is when every date on the shelf can be written; otherwise nothing is listed. -/
theorem folder_and_shelf_agree (dir : String) (t : FileTree) (as : List Artifact)
    (hempty : ∀ name, t.find? (t.placeOf dir ++ [name]) = none)
    (hfiles : ∀ fs ∈ (receiveAll (.folderAndShelf dir) as { files := t }).2, ∀ f ∈ fs,
      ∃ n, f = .artifactName n) :
    let d := (receiveAll (.folderAndShelf dir) as { files := t }).1
    (receiveAll (.folderAndShelf dir) as { files := t }).2 = as.map refusals ∧
    (∀ name, d.files.fileAt? (t.placeOf dir ++ [name]) = (d.shelf.get? name).map (·.content)) ∧
    (∀ name, d.shelf.get? name
      = ((as.filterMap Artifact.filed?).filter (·.name = name)).getLast?) ∧
    ∃ (target : Shelf.Target) (listed : List Artifact),
      Shelf.Target.parse? "GET" "/artifacts" = some target ∧
      (∀ a, a ∈ listed ↔ d.shelf.get? a.name = some a) ∧
      (listed.Pairwise fun a b => (Utf8.encode a.name).toList < (Utf8.encode b.name).toList) ∧
      (∀ l : List Artifact, l.Perm d.shelf.artifacts → (l.Pairwise fun a b => a.name ≤ b.name) →
        l = listed) ∧
      ((∀ a ∈ listed, a.createdAt.text? ≠ none) →
        ∃ entries, List.Forall₂ Shelf.Tells entries listed ∧
          d.shelf.respond "GET" target =
            { status := 200, headers := [("Content-Type", "application/json")]
              body := Utf8.encode ("[" ++ String.intercalate "," entries ++ "]\n") }) ∧
      ((∃ a ∈ listed, a.createdAt.text? = none) →
        d.shelf.respond "GET" target =
          { status := 200, headers := [("Content-Type", "application/json")], body := #[] }) := by
  intro d
  have hstart : Agrees dir (t.placeOf dir) { files := t } :=
    ⟨rfl, fun name => by simp [hempty], fun name => by simp [FileTree.fileAt?, hempty, Shelf.get?]⟩
  obtain ⟨hagrees, hrefusals, hshelf⟩ := hstart.receiveAll hfiles
  have hstocked : d.shelf.Stocked := by
    rw [hshelf]
    exact Shelf.stocked_putAll Shelf.stocked_empty as
  refine ⟨hrefusals, hagrees.content, fun name => ?_, { path := Utf8.encode "/artifacts" },
    d.shelf.sorted, Shelf.parse?_list "GET", fun a => ?_, hstocked.sorted_increasing,
    fun l hperm hl => hstocked.eq_sorted_of_perm hperm hl, fun hdates => ?_, fun hdate => ?_⟩
  · rw [hshelf]
    exact Shelf.get?_putAll as name
  · rw [d.shelf.sorted_perm.mem_iff, hstocked.mem_iff_get?]
  · obtain ⟨es, hes, htext⟩ := Shelf.listText_of_writable hdates
    refine ⟨es, hes, ?_⟩
    rw [Shelf.respond_list, htext]
  · rw [Shelf.respond_list, Shelf.listText_of_unwritable hdate]
    rfl

/-- Two artifacts of one file name, between them one without a file name, and one of another. -/
def reports : List Artifact := [{ name := "a/report.csv", content := #[49] },
  { name := "..", content := #[] }, { name := "b\\report.csv", content := #[50] },
  { name := "log", content := #[111, 107], mediaType := "text/plain" }]

/-- What becomes of them on their way to a new folder and to the shelf. -/
def reported : Deliveries × List (List Fault) :=
  Deliveries.receiveAll (.folderAndShelf "out") reports { files := .start }

/-- Whether a failure is about a name. -/
def Fault.isOfName : Fault → Bool
  | .artifactName _ => true
  | _ => false

theorem Fault.eq_artifactName {f : Fault} (h : f.isOfName = true) : ∃ n, f = .artifactName n := by
  cases f with
  | artifactName n => exact ⟨n, rfl⟩
  | _ => cases h

/-- Of the two reports the last is in the folder and on the shelf, and the list has one entry for it,
behind that of the other file. -/
theorem last_report_in_folder_and_on_shelf :
    reported.2 = reports.map Deliveries.refusals ∧
    reported.1.files.fileAt? ["work", "out", "report.csv"] = some #[50] ∧
    (reported.1.shelf.get? "report.csv").map (·.content) = some #[50] ∧
    ∃ target log report, Shelf.Target.parse? "GET" "/artifacts" = some target ∧
      Shelf.Tells log { name := "log", content := #[111, 107], mediaType := "text/plain" } ∧
      Shelf.Tells report { name := "report.csv", content := #[50] } ∧
      (reported.1.shelf.respond "GET" target).body
        = Utf8.encode ("[" ++ String.intercalate "," [log, report] ++ "]\n") := by
  have hplace : FileTree.start.placeOf "out" = ["work", "out"] := by decide +kernel
  have hempty : ∀ name, FileTree.start.find? (FileTree.start.placeOf "out" ++ [name]) = none := by
    intro name
    rw [hplace]
    simp [FileTree.start, FileTree.find?, List.lookup_cons]
  have hchecked : (reported.2.all (·.all Fault.isOfName)) = true := by decide +kernel
  have hfiles : ∀ fs ∈ reported.2, ∀ f ∈ fs, ∃ n, f = .artifactName n := by
    intro fs hfs f hf
    exact Fault.eq_artifactName (List.all_eq_true.mp (List.all_eq_true.mp hchecked fs hfs) f hf)
  rw [reported] at hfiles
  obtain ⟨hrefused, hsame, -, target, listed, htarget, -, -, hlisted, htold, -⟩ :=
    folder_and_shelf_agree "out" .start reports hempty hfiles
  have hshelf : reported.1.shelf.artifacts
      = [{ name := "log", content := #[111, 107], mediaType := "text/plain" },
        { name := "report.csv", content := #[50] }] := by
    decide +kernel
  have hstored : (reported.1.shelf.get? "report.csv").map (·.content) = some #[50] := by decide +kernel
  rw [reported] at hshelf hstored ⊢
  -- The shelf is in the order of the names already.
  obtain rfl := hlisted _ (List.Perm.of_eq hshelf.symm) (by decide +kernel)
  obtain ⟨entries, htells, hbody⟩ := htold (by decide +kernel)
  obtain _ | ⟨hlog, _ | ⟨hreport, _ | _⟩⟩ := htells
  exact ⟨hrefused, (hplace ▸ hsame "report.csv").trans hstored, hstored, target, _, _, htarget, hlog,
    hreport, congrArg Shelf.Response.body hbody⟩

/-- An artifact from the start of the year 10000. -/
def farReport : Artifact := { name := "a", content := #[120], createdAt := 253402300800 }

/-- What becomes of it on its way to a new folder and to the shelf. -/
def farReported : Deliveries × List (List Fault) :=
  Deliveries.receiveAll (.folderAndShelf "out") [farReport] { files := .start }

/-- **A date that cannot be written.**  Nothing goes wrong on the way, the folder and the shelf hold
the artifact, and still nothing is listed. -/
theorem unwritable_date_empties_list :
    farReported.2.all List.isEmpty = true ∧
    farReported.1.files.fileAt? ["work", "out", "a"] = some #[120] ∧
    farReported.1.shelf.get? "a" = some farReport ∧
    ∃ target, Shelf.Target.parse? "GET" "/artifacts" = some target ∧
      (farReported.1.shelf.respond "GET" target).status = 200 ∧
      (farReported.1.shelf.respond "GET" target).body = #[] := by
  have hshelf : farReported.1.shelf = ⟨[farReport]⟩ := by decide +kernel
  have hdate : farReport.createdAt.text? = none := by decide +kernel
  have hsorted : farReport ∈ farReported.1.shelf.sorted := by
    rw [farReported.1.shelf.sorted_perm.mem_iff, hshelf]
    exact List.mem_singleton_self farReport
  have hlist := Shelf.listText_of_unwritable ⟨farReport, hsorted, hdate⟩
  refine ⟨by decide +kernel, by decide +kernel, by decide +kernel, _, Shelf.parse?_list "GET", ?_, ?_⟩
  · rw [Shelf.respond_list]
  · rw [Shelf.respond_list, hlist]
    decide

end GuestHost
