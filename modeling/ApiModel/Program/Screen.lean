import ApiModel.Json.Writer
import ApiModel.Notice

/-! What a run shows. Data goes to standard output; everything said about the run goes to standard
error. -/
namespace ApiModel

namespace Screen

inductive Format where
  | auto
  | json
  | plain
  | rich
  deriving DecidableEq, Repr

def Format.word : Format → Text
  | auto => "auto"
  | json => "json"
  | plain => "plain"
  | rich => "rich"

def Format.ofWord? (word : Text) : Option Format :=
  [auto, json, plain, rich].find? fun format => format.word = word

structure Wishes where
  format : Format
  noColor : Bool
  quiet : Bool
  verbose : Bool
  deriving DecidableEq, Repr

def Wishes.none : Wishes := ⟨.auto, false, false, false⟩

/-- What the terminal is like: whether a person reads it, and what the environment says. -/
structure Terminal where
  interactive : Bool
  noColor : Option Text
  kind : Option Text

def withoutColor (wishes : Wishes) (terminal : Terminal) : Bool :=
  wishes.noColor || terminal.noColor.isSome || terminal.kind == some "dumb"

end Screen

structure Screen where
  format : Screen.Format
  colored : Bool
  quiet : Bool
  verbose : Bool
  deriving DecidableEq, Repr

namespace Screen

/-- Settles the format: a person with colours gets the rich one. -/
def settle (wishes : Wishes) (terminal : Terminal) : Screen :=
  let colored := !withoutColor wishes terminal
  let format := match wishes.format with
    | .auto => if terminal.interactive && colored then .rich else .plain
    | format => format
  ⟨format, colored, wishes.quiet, wishes.verbose⟩

def line (text : Text) : Text := text ++ "\n"

def json (v : Value) : Text := line (Json.write (.blanks 2) v)

/-- A row as a record. Of a repeated header the last cell counts. -/
def record (headers : List Text) (row : List Value) : Value :=
  .map ((headers.zip row).foldl (fun entries cell => Value.putKey (.str cell.1) cell.2 entries) [])

def table (s : Screen) (headers : List Text) (rows : List (List Text)) : Text :=
  match s.format with
  | .json => json (.list (rows.map fun row => record headers (row.map .str)))
  | _ => List.flatten ((headers :: rows).map fun (row : List Text) => line (Text.join "\t" row))

/-- The rows up to the first with a cell that is no text: such a cell cannot stand in a line. -/
def textRows : List (List Value) → List (List Text)
  | [] => []
  | row :: rest =>
    match row.mapM Value.text? with
    | some texts => texts :: textRows rest
    | none => []

/-- A table of any data, as far as it can be shown, and whether that was all of it. Only records
hold cells that are no texts. -/
def dataTable (s : Screen) (headers : List Text) (rows : List (List Value)) : Text × Bool :=
  match s.format with
  | .json => (json (.list (rows.map (record headers))), true)
  | _ =>
    let fit := textRows rows
    (s.table headers fit, fit.length == rows.length)

/-- What is said about a run. A console that has colours gets it with marks, and reads these also in
the words of the user. -/
inductive Remark where
  | plain (text : Text)
  | marked (text : Text)
  deriving DecidableEq, Repr

def remark (s : Screen) (plain marked : Text) : Remark :=
  if s.colored then .marked marked else .plain plain

def info (s : Screen) (message : Text) : Option Remark :=
  if s.quiet then none else some (s.remark message message)

def success (s : Screen) (message : Text) : Option Remark :=
  if s.quiet then none else some (s.remark message ("[green]" ++ message ++ "[/green]"))

def warning (s : Screen) (message : Text) : Remark :=
  s.remark ("Warning: " ++ message) ("[yellow]Warning:[/yellow] " ++ message)

def error (s : Screen) (message : Text) : Remark :=
  s.remark ("Error: " ++ message) ("[bold red]Error:[/bold red] " ++ message)

def debug (s : Screen) (message : Text) : Option Remark :=
  if s.verbose then
    some (s.remark ("[debug] " ++ message) ("[dim]\\[debug] " ++ message ++ "[/dim]"))
  else none

/-- Notices appear in full when asked for; else only warnings do, and bare. -/
def notice (s : Screen) (n : Notice) : Text :=
  if s.verbose then line n.line
  else if n.level = .warning then line n.message
  else ""

end Screen

end ApiModel
