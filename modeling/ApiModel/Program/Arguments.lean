import ApiModel.Program.Screen
import ApiModel.Program.Settings

/-! The words of the command line. Options of the program stand before the command. Options of a
command stand anywhere behind it, until a double dash. -/
namespace ApiModel.Arguments

/-- What an option brings: a setting, or one that is made from a value. -/
inductive Switch (σ : Type) where
  | flag (setting : σ)
  | value (make : Text → σ)

structure Grammar (σ : Type) where
  long : List (Text × Switch σ)
  short : List (CodePoint × Switch σ)
  /-- Whether options may follow the first plain word. -/
  mixed : Bool

namespace Grammar

variable {σ : Type}

/-- Short options in one word. The rest of the word is the value of one that takes a value; if
nothing is left, the next word is. -/
def cluster (g : Grammar σ) : Text → Option (List σ × Option (Text → σ))
  | [] => some ([], none)
  | c :: cs =>
    match g.short.lookup c with
    | none => none
    | some (.flag setting) =>
      (g.cluster cs).map fun (settings, waiting) => (setting :: settings, waiting)
    | some (.value make) =>
      if cs = [] then some ([], some make) else some ([make cs], none)

def cut (word : Text) : Text × Option Text :=
  let name : Text := word.takeWhile (· ≠ .char '=')
  (name, if name.length = word.length then none else some (word.drop (name.length + 1)))

def settingsOf (g : Grammar σ) (word : Text) : Option (List σ × Option (Text → σ)) :=
  let (name, given) := cut word
  match g.long.lookup name, given with
  | some (.flag setting), none => some ([setting], none)
  | some (.flag _), some _ => none
  | some (.value make), some v => some ([make v], none)
  | some (.value make), none => some ([], some make)
  | none, _ => if Text.startsWith word "--" then none else g.cluster (word.drop 1)

/-- A lone dash is a plain word. -/
def isOption (word : Text) : Bool :=
  Text.startsWith word "-" && word != "-"

/-- Settings in their order, and the plain words. Fails on an unknown option, a value that is
missing, and a value for an option that takes none. -/
def scan (g : Grammar σ) : Option (Text → σ) → List Text → Option (List σ × List Text)
  | none, [] => some ([], [])
  | some _, [] => none
  | some make, word :: rest =>
    (g.scan none rest).map fun (settings, words) => (make word :: settings, words)
  | none, word :: rest =>
    if word = "--" then some ([], rest)
    else if isOption word then
      match g.settingsOf word with
      | none => none
      | some (settings, waiting) =>
        (g.scan waiting rest).map fun (more, words) => (settings ++ more, words)
    else if g.mixed then
      (g.scan none rest).map fun (settings, words) => (settings, word :: words)
    else some ([], word :: rest)

end Grammar

inductive Common where
  | version
  | help
  | json
  | plain
  | noColor
  | quiet
  | verbose
  deriving DecidableEq, Repr

inductive Detail where
  | help
  | override (path : Text)
  | output (path : Text)
  | checkReferences
  deriving DecidableEq, Repr

def common : Grammar Common where
  long := [("--version", .flag .version), ("--help", .flag .help), ("--json", .flag .json),
    ("--plain", .flag .plain), ("--no-color", .flag .noColor), ("--quiet", .flag .quiet),
    ("--verbose", .flag .verbose)]
  short := [('q', .flag .quiet), ('v', .flag .verbose)]
  mixed := false

def group : Grammar Detail where
  long := [("--help", .flag .help)]
  short := []
  mixed := false

def inspection : Grammar Detail where
  long := [("--help", .flag .help), ("--override", .value .override)]
  short := [('m', .value .override)]
  mixed := true

def building : Grammar Detail where
  long := ("--output", .value .output) :: ("--check-references", .flag .checkReferences)
    :: inspection.long
  short := ('o', .value .output) :: inspection.short
  mixed := true

inductive Command where
  | build (settings : Settings) (checkReferences : Bool)
  | operations (settings : Settings)
  | types (settings : Settings)
  deriving DecidableEq, Repr

inductive Request where
  | help
  | version
  /-- No word at all where a command is needed. -/
  | nothing
  | misuse
  | run (wishes : Screen.Wishes) (command : Command)
  deriving DecidableEq, Repr

/-- Help and version are answered before all else; the first of them counts. -/
def urgent? : List Common → Option Request
  | [] => none
  | .help :: _ => some .help
  | .version :: _ => some .version
  | _ :: rest => urgent? rest

def wishes (settings : List Common) : Screen.Wishes where
  format := if settings.contains .json then .json
    else if settings.contains .plain then .plain else .auto
  noColor := settings.contains .noColor
  quiet := settings.contains .quiet
  verbose := settings.contains .verbose

/-- Of a repeated option the last value counts. -/
def lastOverride? (settings : List Detail) : Option Text :=
  settings.foldl (fun last setting =>
    match setting with
    | .override path => some path
    | _ => last) none

def lastOutput? (settings : List Detail) : Option Text :=
  settings.foldl (fun last setting =>
    match setting with
    | .output path => some path
    | _ => last) none

def command (grammar : Grammar Detail) (wishes : Screen.Wishes)
    (make : Settings → List Detail → Command) (words : List Text) : Request :=
  match grammar.scan none words with
  | none => .misuse
  | some (settings, documents) =>
    if settings.contains .help then .help
    else
      match documents with
      | _ :: _ :: _ => .misuse
      | documents =>
        .run wishes
          (make ⟨documents.head?, lastOverride? settings, lastOutput? settings⟩ settings)

def inspect (wishes : Screen.Wishes) (words : List Text) : Request :=
  if words = [] then .nothing
  else
    match group.scan none words with
    | none => .misuse
    | some (settings, rest) =>
      if settings.contains .help then .help
      else
        match rest with
        | [] => .misuse
        | word :: words =>
          if word = "operations" then command inspection wishes (fun s _ => .operations s) words
          else if word = "types" then command inspection wishes (fun s _ => .types s) words
          else
            match group.scan none rest with
            | some (.help :: _, _) => .help
            | _ => .misuse

/-- The request that the words of a command line make. Where no command is named, options behind a
double dash may still ask for help or the version. -/
def parse (words : List Text) : Request :=
  if words = [] then .nothing
  else
    match common.scan none words with
    | none => .misuse
    | some (settings, rest) =>
      (urgent? settings).getD <|
        match rest with
        | [] => .misuse
        | word :: words =>
          if word = "build" then
            command building (wishes settings)
              (fun s details => .build s (details.contains .checkReferences)) words
          else if word = "inspect" then inspect (wishes settings) words
          else ((common.scan none rest).bind fun found => urgent? found.1).getD .misuse

end ApiModel.Arguments
