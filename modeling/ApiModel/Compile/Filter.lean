import ApiModel.Text.Case

/-! Ignore lists. A pattern has one segment for each axis, divided by dots, and a segment that is a
lone star stands for any value of its axis. -/
namespace ApiModel.Filter

def star : Text := "*"

/-- Every way to put a star in place of some of the segments, the segments themselves first. -/
def spellings : List Text → List (List Text)
  | [] => [[]]
  | segment :: rest =>
    (spellings rest).map (segment :: ·) ++ (spellings rest).map (star :: ·)

/-- A value matches if one of its spellings, joined by dots, is in the list. -/
def matchesAny (patterns : List Text) (segments : List Text) : Bool :=
  !patterns.isEmpty && (spellings segments).any fun s => patterns.contains (Text.join "." s)

def ignoresOperation (patterns : List Text) (operation method : Text) : Bool :=
  matchesAny patterns [operation, Text.lower method]

def ignoresRequestHeader (patterns : List Text) (operation header : Text) : Bool :=
  matchesAny patterns [operation, header]

def ignoresResponseHeader (patterns : List Text) (operation : Text) (code : Int)
    (header : Text) : Bool :=
  matchesAny patterns [operation, .ofInt code, header]

end ApiModel.Filter
