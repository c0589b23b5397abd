import GuestHost.Proofs.Shelf.Routing
import GuestHost.Proofs.Shelf.Stock

/-! # Downloads are what is on the shelf

Every artifact on the shelf can be asked for, however its name is spelled in the request, and what is
handed out is on the shelf under the name that was asked for.  The names of artifacts are such that
no path to one is sent elsewhere: they are proper names without slashes (`Stocked.kept_of_get?`). -/

namespace GuestHost
namespace Shelf

/-- A spelling of a name is read as the path of the artifact. -/
theorem parse?_artifact {name : String} {cs : List Char}
    (h : Spelled (Utf8.encode name).toList cs) (method : String) :
    Target.parse? method ("/artifacts/" ++ String.ofList cs)
      = some { path := Utf8.encode ("/artifacts/" ++ name) } := by
  have hfront : Spelled (Utf8.encode "/artifacts/").toList "/artifacts/".toList := by
    rw [Utf8.toList_encode]
    exact spelled_of_plain (by decide)
  have htext : "/artifacts/" ++ String.ofList cs = String.ofList ("/artifacts/".toList ++ cs) := by
    rw [String.ofList_append, String.ofList_toList]
  have hbytes : ((Utf8.encode "/artifacts/").toList ++ (Utf8.encode name).toList).toArray
      = Utf8.encode ("/artifacts/" ++ name) := by
    rw [Utf8.encode_append, ← Array.toList_append, Array.toArray_toList]
  rw [htext, parse?_of_spelled (hfront.append h) rfl method, hbytes]

/-- **Downloads are what is on the shelf.**  Whatever was put on the shelf: each artifact on it is
handed out, with its media type and its size, to whoever asks for its name, however the bytes of the
name are spelled; for its headers alone they are given alone.  Each name can be spelled.

Whatever the target of a request, if it is answered with something other than the list, then that is
the content of the artifact on the shelf whose name is the one part of the path after
`/artifacts/`. -/
theorem downloads_are_the_stock (as : List Artifact) :
    let s := putAll {} as
    (∀ name a, s.get? name = some a →
      let headers := [("Content-Type", a.mediaType), ("Content-Disposition", disposition name),
        ("Content-Length", toString a.content.size)]
      (∃ cs, Spelled (Utf8.encode name).toList cs) ∧
      ∀ cs, Spelled (Utf8.encode name).toList cs →
        (∃ t, Target.parse? "GET" ("/artifacts/" ++ String.ofList cs) = some t ∧
          s.respond "GET" t = { status := 200, headers, body := a.content }) ∧
        ∃ t, Target.parse? "HEAD" ("/artifacts/" ++ String.ofList cs) = some t ∧
          s.respond "HEAD" t = { status := 200, headers, body := #[] }) ∧
    ∀ w t, Target.parse? "GET" w = some t → (s.respond "GET" t).status = 200 →
      t.path ≠ Utf8.encode "/artifacts" →
      ∃ name a, t.path = Utf8.encode ("/artifacts/" ++ name) ∧ name ≠ "" ∧ '/' ∉ name.toList ∧
        s.get? name = some a ∧ (s.respond "GET" t).body = a.content := by
  intro s
  have hstocked : s.Stocked := stocked_putAll stocked_empty as
  refine ⟨?_, ?_⟩
  · intro name a ha headers
    have hkept := hstocked.kept_of_get? ha
    have hname : a.name = name := name_of_get? ha
    refine ⟨⟨_, spelled_percentEncode _⟩, fun cs hcs => ⟨?_, ?_⟩⟩
    · refine ⟨_, parse?_artifact hcs "GET", ?_⟩
      rw [respond_artifact ⟨hkept.proper, hkept.slash⟩ s (.inl rfl), handOut, ha]
      simp [headers, hname]
    · refine ⟨_, parse?_artifact hcs "HEAD", ?_⟩
      rw [respond_artifact ⟨hkept.proper, hkept.slash⟩ s (.inr rfl), handOut, ha]
      simp [headers, hname]
  · intro w t _ hstatus hother
    obtain ⟨name, a, hpath, hempty, hslash, ha, hanswer⟩ :=
      (asked_of_status hstatus).resolve_left hother
    refine ⟨name, a, hpath, hempty, hslash, ha, ?_⟩
    rw [hanswer, handOut, ha]
    rfl

/-- The name `1/2 50%?` comes to the shelf as `2 50%?` and is asked for as `2%2050%25%3F`. -/
theorem download_of_spaced_name :
    let a : Artifact := { name := "1/2 50%?", content := #[104, 105] }
    ∃ t, Target.parse? "GET" "/artifacts/2%2050%25%3F" = some t ∧
      ((putAll {} [a]).respond "GET" t).status = 200 ∧
      ((putAll {} [a]).respond "GET" t).body = a.content := by
  intro a
  have hfiled : Artifact.fileName? "1/2 50%?" = some "2 50%?" := by
    rw [Artifact.fileName?_eq_getLast?]
    decide
  have hstored : (putAll {} [a]).get? "2 50%?" = some { a with name := "2 50%?" } := by
    simp [putAll, get?_put, Artifact.filed?, a, hfiled, Option.filter]
  have hspelled := spelled_percentEncode (Utf8.encode "2 50%?").toList
  have htarget : "/artifacts/" ++ String.ofList (percentEncode (Utf8.encode "2 50%?").toList).toList
      = "/artifacts/2%2050%25%3F" := by decide
  obtain ⟨⟨t, ht, hanswer⟩, -⟩ :=
    ((downloads_are_the_stock [a]).1 "2 50%?" _ hstored).2 _ hspelled
  refine ⟨t, htarget ▸ ht, ?_, ?_⟩
  · rw [hanswer]
  · rw [hanswer]

end Shelf
end GuestHost
