/-! # Fields between separators

`split` cuts a text at every occurrence of one character.  It always has at least one field, and
putting the separator back between the fields gives the text again. -/

namespace GuestHost.Fields

/-- The fields of a text between occurrences of a separator. -/
def split (sep : Char) : List Char → List (List Char)
  | [] => [[]]
  | c :: r =>
    if c = sep then [] :: split sep r
    else
      match split sep r with
      | [] => [[c]]
      | f :: fs => (c :: f) :: fs

/-- Fields with a separator between each two. -/
def join (sep : Char) : List (List Char) → List Char
  | [] => []
  | [f] => f
  | f :: fs => f ++ sep :: join sep fs

theorem split_ne_nil (sep : Char) (cs : List Char) : split sep cs ≠ [] := by
  cases cs with
  | nil => simp [split]
  | cons c r =>
    simp only [split]
    split
    · simp
    · split <;> simp

/-- Cutting loses nothing. -/
theorem join_split (sep : Char) (cs : List Char) : join sep (split sep cs) = cs := by
  induction cs with
  | nil => rfl
  | cons c r ih =>
    by_cases h : c = sep
    · subst h
      cases hs : split c r with
      | nil => exact absurd hs (split_ne_nil c r)
      | cons f fs =>
        rw [hs] at ih
        simp [split, hs, join, ih]
    · cases hs : split sep r with
      | nil => exact absurd hs (split_ne_nil sep r)
      | cons f fs =>
        rw [hs] at ih
        cases fs <;> simp_all [split, join]

/-- No field holds the separator. -/
theorem not_mem_of_mem_split {sep : Char} {cs f : List Char} (h : f ∈ split sep cs) :
    sep ∉ f := by
  induction cs generalizing f with
  | nil => simp_all [split]
  | cons c r ih =>
    by_cases hc : c = sep
    · simp only [split, hc, if_true, List.mem_cons] at h
      rcases h with rfl | h
      · simp
      · exact ih h
    · cases hs : split sep r with
      | nil => exact absurd hs (split_ne_nil sep r)
      | cons g gs =>
        simp only [split, hc, if_false, hs, List.mem_cons] at h
        rcases h with rfl | h
        · have := ih (hs ▸ List.mem_cons_self)
          simp [this, Ne.symm hc]
        · exact ih (hs ▸ List.mem_cons_of_mem _ h)

/-- The fields of a string. -/
def ofString (sep : Char) (s : String) : List String :=
  (split sep s.toList).map String.ofList

end GuestHost.Fields
