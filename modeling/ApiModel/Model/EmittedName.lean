import ApiModel.Container.OrderedMap
import ApiModel.Text.Case

/-! Emitted names of types. Names are emitted with a capital first letter; where that makes two
names the same, each of them gets a word for its kind and a number, as far as needed. -/
namespace ApiModel.EmittedName

structure Entry where
  name : Text
  word : Text
  deriving DecidableEq, Repr

def Entry.form (e : Entry) : Text := Text.upperFirst e.name

def firstSeen (texts : List Text) : List Text :=
  texts.foldl (fun seen t => if seen.contains t then seen else seen ++ [t]) []

/-- Names from a place on, each with its number, or without one if there is only one name. -/
def numbered (names : List Text) : List (Text × Text) :=
  match names with
  | [name] => [(name, "")]
  | names => names.zipIdx.map fun (name, i) => (name, .ofNat (i + 1))

/-- The emitted names of entries that share a form. The word is added where the kinds differ. -/
def mapClass (form : Text) (entries : List Entry) : List (Text × Text) :=
  let words := firstSeen (entries.map Entry.word)
  words.flatMap fun (word : Text) =>
    let names := (entries.filter fun e => e.word == word).map Entry.name
    let shown : Text := if words.length > 1 then word else ""
    (numbered names).map fun (name, number) =>
      if word = "String" ∧ form = "String" ∧ shown.isEmpty then (name, "String")
      else (name, form ++ shown ++ number)

def mappings (entries : List Entry) : OrderedMap Text :=
  let formed := entries.map fun e => (e.form, e)
  OrderedMap.ofList ((firstSeen (formed.map Prod.fst)).flatMap fun form =>
    let same := (formed.filter fun p => p.1 == form).map Prod.snd
    if same.length < 2 then [] else mapClass form same)

end ApiModel.EmittedName
