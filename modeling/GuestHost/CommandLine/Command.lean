import GuestHost.Settings.Flags
import GuestHost.Text.Distance

/-! # Commands

The commands of the program and how the one that is meant is found.  A command may stand after
flags, so the values of flags have to be told from the words between them: a flag is taken to have
its value in the next argument unless it has one of its own. -/

namespace GuestHost

/-- The shells for which there is a script that completes commands. -/
inductive Shell
  | bash
  | fish
  | powershell
  | zsh
deriving DecidableEq, Repr

namespace Shell

def all : List Shell := [bash, fish, powershell, zsh]

def name : Shell → String
  | bash => "bash"
  | fish => "fish"
  | powershell => "powershell"
  | zsh => "zsh"

def ofName? (s : String) : Option Shell := all.find? (·.name = s)

end Shell

/-- The commands. -/
inductive Command
  /-- The program without a command. -/
  | root
  | run
  | list
  | version
  | help
  | completion
  /-- The command below `completion` that writes the script for a shell. -/
  | script (shell : Shell)
  /-- The command by which shells ask how a call may go on, with what each word stands for or
  without.  It is nowhere shown. -/
  | complete (described : Bool)
deriving DecidableEq, Repr

namespace Command

def program : String := "l3x-host"

def name : Command → String
  | root => program
  | run => "run"
  | list => "list"
  | version => "version"
  | help => "help"
  | completion => "completion"
  | script shell => shell.name
  | complete _ => "__complete"

/-- The commands right below the program, in the order in which they are tried. -/
def all : List Command := [run, list, version, help, completion]

def ofName? (s : String) : Option Command := all.find? (·.name = s)

/-- The command that is nowhere shown with a name. -/
def hidden? (s : String) : Option Command :=
  if s = "__complete" then some (complete true)
  else if s = "__completeNoDesc" then some (complete false)
  else none

/-- The program and the command, as messages call them. -/
def path : Command → String
  | root => program
  | script shell => program ++ " " ++ completion.name ++ " " ++ shell.name
  | c => program ++ " " ++ c.name

/-- The flags of a command that other commands do not have. -/
def ownFlags : Command → List Flag
  | run => Flag.ofRun
  | script _ => Flag.ofScript
  | _ => []

def flags (c : Command) : List Flag := Flag.shared ++ c.ownFlags

/-- Whether an argument is a flag whose value is the next argument. -/
def takesNext (s : String) : Bool :=
  match s.toList with
  | '-' :: '-' :: name => !name.contains '='
  | ['-', c] => c ≠ '=' && c.utf8Size = 1
  | _ => false

/-- The words between flags.  A flag at the end whose value would be the last argument ends
them. -/
def words : List String → List String
  | [] => []
  | s :: r =>
    if s = "--" then []
    else if takesNext s then
      match r with
      | _ :: v :: r => words (v :: r)
      | _ => []
    else if s = "" || s.toList.head? = some '-' then words r
    else s :: words r

/-- The arguments without the first word that is `x`. -/
def without (x : String) : List String → List String
  | [] => []
  | s :: r =>
    if s = "--" then s :: r
    else if takesNext s then
      match r with
      | v :: r => s :: v :: without x r
      | [] => [s]
    else if s = x then r
    else s :: without x r

/-- Commands that may be meant by a word: those that begin with it and those that are close to
it. -/
def suggestions (word : String) : List Command :=
  let lower (s : String) : List UInt8 := (Case.lowerText s).toUTF8.toList
  (all.filter (· ≠ help)).filter fun c =>
    Distance.distance (lower word) (lower c.name) ≤ 2 || (lower word).isPrefixOf (lower c.name)

/-- What is said of a word that is no command, with what may be meant. -/
def unknown (word : String) (c : Command) : Fault :=
  let hint := match c with
    | root =>
      match suggestions word with
      | [] => ""
      | cs => "\n\nDid you mean this?\n" ++ String.join (cs.map fun c => "\t" ++ c.name ++ "\n")
    | _ => ""
  .plain ("unknown command " ++ Quoted.quote word ++ " for " ++ Quoted.quote c.path ++ hint)

/-- The command that arguments ask for, and the arguments that are left.  Commands that are shown
are found in any case, others only if that is `allowed`. -/
def find (arguments : List String) (allowed : Bool := true) : Except Fault (Command × List String) :=
  match words arguments with
  | [] => .ok (root, arguments)
  | word :: _ =>
    let rest := without word arguments
    match ofName? word with
    | some completion =>
      match (words rest).head?.bind Shell.ofName? with
      | some shell => .ok (script shell, without shell.name rest)
      | none => .ok (completion, rest)
    | some c => .ok (c, rest)
    | none =>
      match hidden? word with
      | some c => if allowed then .ok (c, rest) else .error (unknown word root)
      | none => .error (unknown word root)

/-- The arguments that a command is given.  What shells ask about is not looked into. -/
def given (c : Command) (arguments : List String) : Except Fault Arguments :=
  match c with
  | complete _ => .ok { others := arguments }
  | _ => Flag.parse c.flags true {} arguments

/-- What is wrong with the words that a command is given. -/
def wordsFault? (c : Command) (words : List String) : Option Fault :=
  match c with
  | run =>
    if words.length = 1 then none
    else some (.plain ("accepts 1 arg(s), received " ++ toString words.length))
  | list => words.head?.map (unknown · c)
  | version => words.head?.map (unknown · c)
  | script _ => words.head?.map (unknown · c)
  | complete _ =>
    if words.isEmpty then some (.plain "requires at least 1 arg(s), only received 0") else none
  | _ => none

end Command
end GuestHost
