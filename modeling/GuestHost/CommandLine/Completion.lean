import GuestHost.CommandLine.Help

/-! # Completion

What a shell is told when it asks how a call of the program may go on.  The last word is still
being written; the words before it decide what it can become.

* **Commands.**  Where a command has commands below it and no other word was given, their names.
* **Flags.**  After a dash, the flags that were not given yet.
* **Values.**  Nothing is known of the values of flags, so the shell offers files. -/

namespace GuestHost

/-- What a shell may offer: words, each with what it stands for, and whether files come beside
them. -/
structure Offer where
  words : List (String × String) := []
  files : Bool := true
deriving Repr

namespace Offer

/-- An offer as shells read it: a word a line, what it stands for after a tab, and at the end a
number that tells whether files are offered. -/
def written (o : Offer) (described : Bool) : String :=
  String.join (o.words.map fun (word, what) =>
      (if described then word ++ "\t" ++ what else word) ++ "\n")
    ++ (if o.files then ":0\n" else ":4\n")

/-- The words of an offer that go on from what is written. -/
def matching (part : String) (words : List (String × String)) : List (String × String) :=
  words.filter fun (word, _) => part.toList.isPrefixOf word.toList

end Offer

/-- The word that is being written, seen in its place. -/
structure Unfinished where
  /-- What is there of the word or, after a flag, of the flag's value. -/
  part : String
  /-- The words before it, without the flag whose value it is. -/
  before : List String
  isValue : Bool := false
  /-- Whether it would be the value of a flag that there is not. -/
  isStray : Bool := false

namespace Command

def isFlag (s : String) : Bool :=
  match s.toList with
  | '-' :: '-' :: name => !name.isEmpty
  | '-' :: _ :: _ => true
  | _ => false

/-- The name in a flag, which for letters that stand together is the last of them. -/
def flagName (cs : List Char) : String :=
  match cs with
  | '-' :: '-' :: name => String.ofList name
  | _ => String.ofList (cs.getLast?.toList)

/-- Whether the flag with a name or a letter has to have a value, if there is such a flag. -/
def needsValue? (c : Command) (name : String) : Option Bool :=
  if name = "h" ∨ name = "help" then some false
  else (c.flags.find? (·.name = name)).map (·.kind ≠ .truth)

/-- Finds out what the last word is to the words before it. -/
def unfinished (c : Command) (before : List String) (last : String) : Unfinished :=
  let settle (name : String) (rest : List String) (part : String) (joined : Bool) : Unfinished :=
    match c.needsValue? name with
    | none => { part := last, before, isStray := true }
    | some needed =>
      if joined || needed then { part, before := rest, isValue := true } else { part, before }
  let afterFlag (part : String) (joined : Bool) : Unfinished :=
    match before.getLast? with
    | some s =>
      if isFlag s && !s.toList.contains '=' then
        settle (flagName s.toList) before.dropLast part joined
      else { part, before }
    | none => { part, before }
  match last.toList with
  | '-' :: cs =>
    if cs.contains '=' then
      let name := flagName ('-' :: cs.takeWhile (· ≠ '='))
      let part := String.ofList ((cs.dropWhile (· ≠ '=')).drop 1)
      if name = "" then afterFlag part true else settle name before part true
    else { part := last, before }
  | _ => afterFlag last false

/-- The flags that were not given yet, in order of their names, those of every command first. -/
def flagsLeft (c : Command) (a : Arguments) : List (String × String) :=
  let entry (f : Flag) : List (String × String) :=
    if (a.value? f.name).isSome then [] else [("--" ++ f.name, f.usage)]
  let usage := "help for " ++ c.name
  let ordered (l : List (String × String)) := l.mergeSort (·.1 ≤ ·.1)
  let shared := Flag.shared.flatMap entry
  let own := c.ownFlags.flatMap entry ++ [("--help", usage)]
  let listed := if c = root then ordered (shared ++ own) else ordered shared ++ ordered own
  listed.flatMap fun w => if w.1 = "--help" then [w, ("-h", usage)] else [w]

/-- How the last word may go on, for a command with the words before it. -/
def offerOf (c : Command) (before : List String) (last : String) : Offer :=
  let w : Unfinished := match c with
    | complete _ => { part := last, before }
    | _ => c.unfinished before last
  match c.given w.before with
  | .error _ => {}
  | .ok a =>
    if w.isStray && !a.ended then {}
    else if a.help.isSome then { files := false }
    else if !w.isValue && !a.ended && w.part.toList.head? = some '-' && !w.part.toList.contains '=' then
      { words := Offer.matching w.part (c.flagsLeft a), files := false }
    else if w.isValue && !a.ended then {}
    else
      let below := if w.isValue || !a.others.isEmpty then [] else c.below
      match c with
      | help =>
        match find a.others with
        | .ok (topic, _) => { words := Offer.matching w.part topic.below, files := false }
        | .error _ => { files := false }
      | completion => { words := Offer.matching w.part below, files := false }
      | script _ => { files := false }
      | _ => { words := Offer.matching w.part below, files := below.isEmpty }

/-- How a call with these words, the last of them unfinished, may go on. -/
def offer (words : List String) : Offer :=
  match words.getLast?, find words.dropLast with
  | some last, .ok (c, before) => c.offerOf before last
  | _, _ => {}

end Command
end GuestHost
