import GuestHost.Settings.Layers

/-! # Flags on the command line

A command takes flags of the form `--name value` or `--name=value`, anywhere between its other
arguments; `--` ends them.  Flags that stand for settings give the first layer in which settings
are looked up. -/

namespace GuestHost

/-- What a flag takes. -/
inductive FlagKind
  | text
  | whole
  /-- Nothing, or a truth value of its own. -/
  | truth
deriving DecidableEq, Repr

/-- A flag that a command knows. -/
structure Flag where
  name : String
  kind : FlagKind
  /-- The key of the setting that it sets; empty when it sets none. -/
  key : String
  usage : String
  /-- The value shown as the one that holds without the flag. -/
  standard : String := ""
deriving Repr

/-- What was given on the command line. -/
structure Arguments where
  values : List (String × Datum) := []
  others : List String := []
  /-- Whether help was asked for, if anything was said on it. -/
  help : Option Bool := none
  /-- Whether a mark ended the flags. -/
  ended : Bool := false

namespace Flag

/-- The flags of every command. -/
def shared : List Flag :=
  [{ name := "config", kind := .text, key := "", usage := "path to the configuration file" },
   { name := "log-level", kind := .text, key := "log_level"
     usage := "log level (debug, info, warn, error)", standard := "\"info\"" },
   { name := "guests", kind := .text, key := "guests_dir"
     usage := "directory searched for guests given by name", standard := "\"./guests\"" }]

/-- The flags of the command that runs a guest. -/
def ofRun : List Flag :=
  [{ name := "fps", kind := .whole, key := "frame.fps", usage := "guest frames per second"
     standard := "60" },
   { name := "frames", kind := .whole, key := "frame.limit"
     usage := "stop after this many frames (0 runs until interrupted)" },
   { name := "picker", kind := .text, key := "files.picker"
     usage := "file picker: inbox, prompt or none", standard := "\"inbox\"" },
   { name := "inbox", kind := .text, key := "files.inbox_dir"
     usage := "directory watched by the inbox picker", standard := "\"./inbox\"" },
   { name := "downloads", kind := .text, key := "files.download_dir"
     usage := "directory exported files are written to", standard := "\"./downloads\"" },
   { name := "http", kind := .text, key := "files.http_addr"
     usage := "address serving exported files, e.g. 127.0.0.1:8089" },
   { name := "record", kind := .text, key := "audio.record_path"
     usage := "WAV file the tone output is recorded to" }]

/-- The flags of the commands that write a script. -/
def ofScript : List Flag :=
  [{ name := "no-descriptions", kind := .truth, key := ""
     usage := "disable completion descriptions" }]

/-- The truth value given to a flag that is called so. -/
def truthValue (called s : String) : Except Fault Bool :=
  match Numeral.truth? s with
  | some b => .ok b
  | none =>
    .error (.plain ("invalid argument " ++ Quoted.quote s ++ " for " ++ Quoted.quote called
      ++ " flag: strconv.ParseBool: parsing " ++ Quoted.quote s ++ ": invalid syntax"))

/-- The value of a flag, or why it is none. -/
def value (f : Flag) (s : String) : Except Fault Datum :=
  match f.kind with
  | .text => .ok (.text s)
  | .truth => (truthValue ("--" ++ f.name) s).map Datum.truth
  | .whole =>
    match Numeral.whole? s with
    | .ok n => .ok (.whole n)
    | .error why =>
      .error (.plain ("invalid argument " ++ Quoted.quote s ++ " for " ++ Quoted.quote ("--" ++ f.name)
        ++ " flag: strconv.ParseInt: parsing " ++ Quoted.quote s ++ ": "
        ++ (match why with
            | .grammar => "invalid syntax"
            | .range => "value out of range")))

/-- The first letter of a short flag between single quotes.  Flags are letters of ASCII; anything
beyond is shown as one and the same letter. -/
def letter (c : Char) : String :=
  if c = '\'' then "'\\''"
  else if c = '"' then "'\"'"
  else if 0x80 ≤ c.toNat then "'\u00C3'"
  else "'" ++ String.ofList (Quoted.escape c) ++ "'"

/-- One-letter flags that start so are passed over. -/
def reserved : List Char := "test.".toList

def helpValue (s : String) : Except Fault Bool := truthValue "-h, --help" s

/-- What is said where help is asked for and none is kept. -/
def helpRequested : Fault := .plain "pflag: help requested"

/-- Reads one-letter flags that stand together.  The only one there is asks for help; some words
are passed over. -/
def letters (helpful : Bool) : Option Bool → List Char → Except Fault (Option Bool)
  | help, [] => .ok help
  | help, c :: cs =>
    if reserved.isPrefixOf (c :: cs) then .ok help
    else if c = 'h' then
      if helpful then
        match cs with
        | '=' :: v :: vs => (helpValue (String.ofList (v :: vs))).map some
        | _ => letters helpful (some true) cs
      else .error helpRequested
    else
      .error (.plain ("unknown shorthand flag: " ++ letter c ++ " in -"
        ++ String.ofList (c :: cs)))

/-- Reads arguments one after the other.  With `helpful`, asking for help is no fault. -/
def parse (known : List Flag) (helpful : Bool) : Arguments → List String → Except Fault Arguments
  | a, [] => .ok a
  | a, s :: r =>
    match s.toList with
    | '-' :: '-' :: [] => .ok { a with others := a.others ++ r, ended := true }
    | '-' :: '-' :: name =>
      if name.head? = some '-' ∨ name.head? = some '=' then
        .error (.plain ("bad flag syntax: " ++ s))
      else
        let word := String.ofList (name.takeWhile (· ≠ '='))
        let given := String.ofList ((name.dropWhile (· ≠ '=')).drop 1)
        match known.find? (·.name = word) with
        | none =>
          if word ≠ "help" then .error (.plain ("unknown flag: --" ++ word))
          else if !helpful then .error helpRequested
          else
            match helpValue (if name.contains '=' then given else "true") with
            | .error e => .error e
            | .ok help => parse known helpful { a with help := some help } r
        | some f =>
          if name.contains '=' || f.kind = .truth then
            match f.value (if name.contains '=' then given else "true") with
            | .error e => .error e
            | .ok d => parse known helpful { a with values := a.values ++ [(word, d)] } r
          else
            match r with
            | [] => .error (.plain ("flag needs an argument: " ++ s))
            | v :: r' =>
              match f.value v with
              | .error e => .error e
              | .ok d => parse known helpful { a with values := a.values ++ [(word, d)] } r'
    | '-' :: c :: cs =>
      match letters helpful a.help (c :: cs) with
      | .error e => .error e
      | .ok help => parse known helpful { a with help } r
    | _ => parse known helpful { a with others := a.others ++ [s] } r

end Flag

namespace Arguments

def value? (a : Arguments) (name : String) : Option Datum := a.values.reverse.lookup name

/-- The text of a flag, empty when it was not given. -/
def text (a : Arguments) (name : String) : String :=
  match a.value? name with
  | some (.text s) => s
  | _ => ""

/-- The layer of settings that the command line gives. -/
def layer (a : Arguments) (known : List Flag) : List (String × Option Datum) :=
  (known.filter (·.key ≠ "")).map fun f => (f.key, a.value? f.name)

end Arguments
end GuestHost
