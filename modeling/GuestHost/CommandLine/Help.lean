import GuestHost.CommandLine.Command

/-! # Help

The text that describes a command: what it does, how it is called, the commands below it and the
flags it takes. -/

namespace GuestHost.Command

/-- What a command does, in a line. -/
def summary : Command → String
  | root => "Runs l3x Wasm guests with logging, tone output and file exchange"
  | run => "Runs a guest until it is interrupted or its frame fails"
  | list => "Lists the guests installed in the guests directory"
  | version => "Prints the version"
  | help => "Help about any command"
  | completion => "Generate the autocompletion script for the specified shell"
  | script shell => "Generate the autocompletion script for " ++ shell.name
  | complete _ => "Request shell completion choices for the specified command-line"

/-- How the script for a shell is put to use.  The `call` writes it. -/
def scriptUse (call : String) : Shell → String
  | .bash => "Generate the autocompletion script for the bash shell.\n\n"
      ++ "This script depends on the 'bash-completion' package.\n"
      ++ "If it is not installed already, you can install it via your OS's package manager.\n\n"
      ++ "To load completions in your current shell session:\n\n\tsource <(" ++ call ++ ")\n\n"
      ++ "To load completions for every new session, execute once:\n\n#### Linux:\n\n\t" ++ call
      ++ " > /etc/bash_completion.d/" ++ program ++ "\n\n#### macOS:\n\n\t" ++ call
      ++ " > $(brew --prefix)/etc/bash_completion.d/" ++ program ++ "\n\n"
      ++ "You will need to start a new shell for this setup to take effect."
  | .fish => "Generate the autocompletion script for the fish shell.\n\n"
      ++ "To load completions in your current shell session:\n\n\t" ++ call ++ " | source\n\n"
      ++ "To load completions for every new session, execute once:\n\n\t" ++ call
      ++ " > ~/.config/fish/completions/" ++ program ++ ".fish\n\n"
      ++ "You will need to start a new shell for this setup to take effect."
  | .powershell => "Generate the autocompletion script for powershell.\n\n"
      ++ "To load completions in your current shell session:\n\n\t" ++ call
      ++ " | Out-String | Invoke-Expression\n\n"
      ++ "To load completions for every new session, add the output of the above command\n"
      ++ "to your powershell profile."
  | .zsh => "Generate the autocompletion script for the zsh shell.\n\n"
      ++ "If shell completion is not already enabled in your environment you will need\n"
      ++ "to enable it.  You can execute the following once:\n\n"
      ++ "\techo \"autoload -U compinit; compinit\" >> ~/.zshrc\n\n"
      ++ "To load completions in your current shell session:\n\n\tsource <(" ++ call ++ ")\n\n"
      ++ "To load completions for every new session, execute once:\n\n#### Linux:\n\n\t" ++ call
      ++ " > \"$\x7bfpath[1]\x7d/_" ++ program ++ "\"\n\n#### macOS:\n\n\t" ++ call
      ++ " > $(brew --prefix)/share/zsh/site-functions/_" ++ program ++ "\n\n"
      ++ "You will need to start a new shell for this setup to take effect."

/-- What a command does, at more length where there is more to say. -/
def description : Command → String
  | help => "Help provides help for any command in the application.\nSimply type " ++ program
      ++ " help [path to command] for full details."
  | completion => "Generate the autocompletion script for " ++ program
      ++ " for the specified shell.\nSee each sub-command's help for details on how to use the "
      ++ "generated script."
  | script shell => scriptUse (script shell).path shell
  | c => c.summary

def operands : Command → String
  | run => " <guest-dir|guest.wasm|name>"
  | help => " [command]"
  | _ => ""

/-- The commands below a command with their summaries, in order of their names. -/
def below : Command → List (String × String)
  | root => (all.mergeSort (·.name ≤ ·.name)).map fun c => (c.name, c.summary)
  | completion => Shell.all.map fun shell => (shell.name, (script shell).summary)
  | _ => []

/-- Whether the line on how a command is called tells that it takes flags. -/
def showsFlags : Command → Bool
  | script .bash => false
  | _ => true

def usageLine (c : Command) : String :=
  match c.below with
  | [] => c.path ++ c.operands ++ (if c.showsFlags then " [flags]" else "")
  | _ => c.path ++ " [command]"

/-- A text with blanks up to a width. -/
def filled (width : Nat) (s : String) : String :=
  s ++ String.ofList (List.replicate (width - s.length) ' ')

/-- The flag that asks for help, as it is listed. -/
def helpEntry (c : Command) : String × String × String :=
  ("help", "  -h, --help", "help for " ++ c.name)

/-- A flag as it is listed: its name, how it is given, and what it is for. -/
def flagEntry (f : Flag) : String × String × String :=
  let kind := match f.kind with
    | .text => " string"
    | .whole => " int"
    | .truth => ""
  let standard := if f.standard = "" then "" else " (default " ++ f.standard ++ ")"
  (f.name, "      --" ++ f.name ++ kind, f.usage ++ standard)

/-- Flags in order of their names, with what they are for in one column. -/
def flagLines (entries : List (String × String × String)) : String :=
  let width := (entries.map fun (_, form, _) => form.length).foldl max 0 + 3
  String.join ((entries.mergeSort (·.1 ≤ ·.1)).map fun (_, form, usage) =>
    "\n" ++ filled width form ++ usage)

/-- How a command is used.  The flag for help is listed only if the command is the one in
question (`asked`). -/
def usage (c : Command) (asked : Bool := true) : String :=
  let shared := Flag.shared.map flagEntry
  let own := (if asked then [c.helpEntry] else []) ++ c.ownFlags.map flagEntry
  "Usage:\n  " ++ c.usageLine
    ++ (if c.below = [] then ""
      else "\n\nAvailable Commands:"
        ++ String.join (c.below.map fun (n, what) => "\n  " ++ filled 11 n ++ " " ++ what))
    ++ "\n\nFlags:" ++ flagLines (if c = root then shared ++ own else own)
    ++ (if c = root then "" else "\n\nGlobal Flags:" ++ flagLines shared)
    ++ (if c.below = [] then ""
      else "\n\nUse \"" ++ c.path ++ " [command] --help\" for more information about a command.")
    ++ "\n"

def helpText (c : Command) : String := c.description ++ "\n\n" ++ c.usage

end GuestHost.Command
