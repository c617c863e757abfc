import ApiModel.Host.Access
import ApiModel.Host.Path
import ApiModel.Text.Encoding

/-! A file system as a value: what stands at each place. Paths are walked part by part, so two dots
lead up only from a directory that is there. Links do not occur. -/
namespace ApiModel

abbrev Place := List Text

inductive Node where
  | file (content : ByteArray)
  | directory

/-- What stands where. The root is a directory and not listed. -/
structure Disk where
  nodes : List (Place × Node)

namespace Disk

def empty : Disk := ⟨[]⟩

def find? (d : Disk) (place : Place) : Option Node :=
  if place = [] then some .directory else d.nodes.lookup place

def erase (d : Disk) (place : Place) : Disk :=
  ⟨d.nodes.filter fun entry => entry.1 != place⟩

def put (d : Disk) (place : Place) (node : Node) : Disk :=
  ⟨(place, node) :: (d.erase place).nodes⟩

theorem lookup_filter_place (test : Place → Bool) (place : Place) (nodes : List (Place × Node)) :
    (nodes.filter fun entry => test entry.1).lookup place
      = if test place then nodes.lookup place else none := by
  induction nodes with
  | nil => simp
  | cons entry rest ih =>
    obtain ⟨key, node⟩ := entry
    by_cases hk : place = key
    · subst hk
      cases ht : test place
      · rw [ht] at ih
        simpa [ht] using ih
      · simp [ht]
    · have hb : (place == key) = false := by simpa using hk
      cases ht : test key <;> simp [ht, List.lookup_cons, hb, ih]

theorem find?_erase_of_ne (d : Disk) {place other : Place} (h : other ≠ place) :
    (d.erase place).find? other = d.find? other := by
  simp [find?, erase, lookup_filter_place (· != place), h]

theorem find?_erase_self (d : Disk) {place : Place} (h : place ≠ []) :
    (d.erase place).find? place = none := by
  simp [find?, erase, lookup_filter_place (· != place), h]

theorem find?_put_self (d : Disk) {place : Place} (h : place ≠ []) (node : Node) :
    (d.put place node).find? place = some node := by
  simp [find?, put, h]

theorem find?_put_of_ne (d : Disk) {place other : Place} (h : other ≠ place) (node : Node) :
    (d.put place node).find? other = d.find? other := by
  have hb : (other == place) = false := by simpa using h
  simp only [find?, put, List.lookup_cons, hb]
  simp [erase, lookup_filter_place (· != place), h]

def nameLimit : Nat := 255

def pathLimit : Nat := 4095

/-- One part further. Only a directory can be entered or left. -/
def enter (d : Disk) (place : Place) (part : Text) : Except AccessError Place :=
  match d.find? place with
  | none => .error .notFound
  | some (.file _) => .error .notDirectory
  | some .directory =>
    if part = ".." then .ok place.dropLast
    else if nameLimit < (Text.nameSize? part).getD 0 then .error .nameTooLong
    else .ok (place ++ [part])

def walk (d : Disk) : Place → List Text → Except AccessError Place
  | place, [] => .ok place
  | place, part :: rest =>
    match d.enter place part with
    | .ok next => d.walk next rest
    | .error e => .error e

/-- The place that a path leads to, seen from a directory. Nothing need stand there. -/
def locate (d : Disk) (here : Place) (path : Path) : Except AccessError Place :=
  match Text.nameSize? path.text with
  | none => .error .unencodable
  | some size =>
    if .char '\x00' ∈ path.text then .error .nullCharacter
    else if pathLimit < size then .error .nameTooLong
    else d.walk (if path.start = .here then here else []) path.parts

/-- Whether a path ends in a name, and not in dots or at the root. -/
def endsInName (path : Path) : Bool := path.name != "" && path.name != ".."

/-- Whether a file stands there. A path that leads nowhere is no error, one that no file can have
is. -/
def isFile (d : Disk) (here : Place) (path : Path) : Except AccessError Bool :=
  match d.locate here path with
  | .ok place =>
    match d.find? place with
    | some (.file _) => .ok true
    | _ => .ok false
  | .error .notFound => .ok false
  | .error .notDirectory => .ok false
  | .error .nullCharacter => .ok false
  | .error .unencodable => .ok false
  | .error e => .error e

def isDirectory (d : Disk) (here : Place) (path : Path) : Bool :=
  match d.locate here path with
  | .ok place => (d.find? place matches some .directory)
  | .error _ => false

def isPresent (d : Disk) (here : Place) (path : Path) : Bool :=
  match d.locate here path with
  | .ok place => (d.find? place).isSome
  | .error _ => false

def read (d : Disk) (here : Place) (path : Path) : Except AccessError ByteArray :=
  match d.locate here path with
  | .error e => .error e
  | .ok place =>
    match d.find? place with
    | some (.file content) => .ok content
    | some .directory => .error .isDirectory
    | none => .error .notFound

def makeDirectory (d : Disk) (here : Place) (path : Path) : Except AccessError Disk :=
  match d.locate here path with
  | .error e => .error e
  | .ok place =>
    match d.find? place with
    | some _ => .error .alreadyExists
    | none => .ok (d.put place .directory)

def write (d : Disk) (here : Place) (path : Path) (content : ByteArray) :
    Except AccessError Disk :=
  match d.locate here path with
  | .error e => .error e
  | .ok place =>
    match d.find? place with
    | some .directory => .error .isDirectory
    | _ => .ok (d.put place (.file content))

/-- Gives a file a new name, in place of the file that had it. -/
def replace (d : Disk) (here : Place) (path target : Path) : Except AccessError Disk :=
  match d.locate here path, d.locate here target with
  | .error e, _ => .error e
  | .ok _, .error e => .error e
  | .ok source, .ok place =>
    if !endsInName target then .error .busy
    else
      match d.find? source, d.find? place with
      | none, _ => .error .notFound
      | some _, some .directory => .error .isDirectory
      | some node, _ => .ok ((d.erase source).put place node)

def remove (d : Disk) (here : Place) (path : Path) : Disk :=
  match d.locate here path with
  | .ok place => d.erase place
  | .error _ => d

def files (d : Disk) : List (Place × ByteArray) :=
  d.nodes.filterMap fun
    | (place, .file content) => some (place, content)
    | (_, .directory) => none

def directories (d : Disk) : List Place :=
  d.nodes.filterMap fun
    | (place, .directory) => some place
    | (_, .file _) => none

def plant (d : Disk) (place : Place) (node : Node) : Disk :=
  let above := (List.range place.length).map fun n => place.take n
  (above.foldl (fun (d : Disk) p => if (d.find? p).isSome then d else d.put p .directory) d).put
    place node

def changesSince (d before : Disk) : List (Place × ByteArray) :=
  d.files.filter fun (place, content) =>
    match before.find? place with
    | some (.file old) => old.data != content.data
    | _ => true

end Disk

def Place.from? (top place : Place) : Option Text :=
  if place.take top.length = top ∧ top.length < place.length then
    some (Text.join "/" (place.drop top.length))
  else none

end ApiModel
