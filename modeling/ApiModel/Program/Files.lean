import ApiModel.Host.Basic
import ApiModel.Program.Failure
import ApiModel.Text.Encoding

/-! Files: reading text, making directories, and writing so that a reader sees the old content or
the new one and never a part. -/
namespace ApiModel.Files

variable {m : Type → Type} [Monad m] [Host m] {α : Type}

def ask (request : m (Except AccessError α)) : ExceptT Failure m α := do
  match ← request with
  | .ok a => return a
  | .error e => throw (.access e)

/-- All line ends become one character. -/
def unifyBreaks : Text → Text
  | .char '\r' :: .char '\n' :: rest => '\n' :: unifyBreaks rest
  | .char '\r' :: rest => '\n' :: unifyBreaks rest
  | c :: rest => c :: unifyBreaks rest
  | [] => []

def decode (content : ByteArray) : Except Failure Text :=
  match Text.ofUtf8? content.data.toList with
  | some text => .ok (unifyBreaks text)
  | none => .error .undecodable

def encode (text : Text) : Except Failure ByteArray :=
  match Text.toUtf8? text with
  | some data => .ok ⟨data.toArray⟩
  | none => .error .unencodable

/-- Bytes for a text, whatever it holds. -/
def encodeLossy (text : Text) : ByteArray :=
  ⟨((Text.toUtf8? (Text.lossy text)).getD []).toArray⟩

/-- Makes the directory that is named by its parts in reverse, and those above it where they are
missing. One that is there is fine. -/
def ensureParts (start : Path.Start) : List Text → m (Except AccessError Unit)
  | [] => return .ok ()
  | part :: above => do
    let path : Path := ⟨start, (part :: above).reverse⟩
    match ← Host.makeDirectory path with
    | .ok () => return .ok ()
    | .error .notFound =>
      match ← ensureParts start above with
      | .error e => return .error e
      | .ok () =>
        match ← Host.makeDirectory path with
        | .ok () => return .ok ()
        | .error e => return if ← Host.isDirectory path then .ok () else .error e
    | .error e => return if ← Host.isDirectory path then .ok () else .error e

def ensureDirectory (path : Path) : m (Except AccessError Unit) :=
  ensureParts path.start path.parts.reverse

/-- Fills a temporary file and gives it the name of the target. -/
def fillAndReplace (temporary target : Path) (text : Text) : ExceptT Failure m Unit := do
  let content ← ExceptT.mk (pure (encode text))
  ask (Host.writeFile temporary content)
  ask (Host.syncFile temporary)
  ask (Host.replaceFile temporary target)

def discard (temporary : Path) : m Unit := do
  if ← Host.isPresent temporary then Host.removeFile temporary

/-- Writes a file beside its target and then renames it. On any failure the temporary file goes. -/
def writeOutput (target : Path) (text : Text) : ExceptT Failure m Unit := do
  ask (ensureDirectory target.parent)
  let temporary ← ask (Host.createTemporary target.parent target.name)
  try
    fillAndReplace temporary target text
  catch e =>
    discard (m := m) temporary
    throw e

end ApiModel.Files
