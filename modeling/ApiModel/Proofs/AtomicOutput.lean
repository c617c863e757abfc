import ApiModel.Proofs.FileSteps
import ApiModel.Proofs.SchemaPointers

/-! All or nothing. A run that fails before a new file takes its name leaves every file as it was,
but for a log, and a build that ends well changes the one file it was asked for. In between stands
the line that tells of the new file: where the console cannot read it, the run fails with the file
in place. -/
namespace ApiModel

namespace Memory

variable {m m' m'' : Memory}

end Memory

section Failing

variable {screen : Screen} {failure : Failure} {m m' : Memory} {r : Except Failure Nat}

end Failing

section Building

variable {screen : Screen} {m m' : Memory} {r : Except Failure Unit}

end Building

section Running

variable (words : List Text) (before : Memory)

variable {words before}

end Running

theorem lift_run {α : Type} (x : StateM Memory α) (m : Memory) :
    (liftM x : ExceptT Failure (StateM Memory) α).run.run m = (.ok (x.run m).1, (x.run m).2) :=
  rfl

theorem replay_run {α : Type} (screen : Screen) (work : Traced Notice Failure α) (m : Memory) :
    ∃ err, (Program.replay (m := StateM Memory) screen work).run.run m =
      (work.result, { m with err }) :=
  ⟨_, rfl⟩

theorem compile_result {screen : Screen} (silent : screen.verbose = false) {source : Text}
    (named : source ≠ []) {m : Memory} {entries : Document.Entries}
    (loaded : ((Source.load (m := StateM Memory) source).run m).1.result = .ok entries) :
    ((Program.compile (m := StateM Memory) screen (some source) none).run.run m).1 =
      (Source.compile .empty entries).result := by
  have given : (some source).filter (· ≠ []) = some source := by simp [named]
  have unsaid : screen.debug ("Loading " ++ source) = none := by simp [Screen.debug, silent]
  have looked : (liftM (Settings.loadOverride (m := StateM Memory) none) :
      ExceptT Failure (StateM Memory) _).run.run m = (.ok (pure .empty), m) := rfl
  have overridden : (Program.replay (m := StateM Memory) screen
      (pure .empty : Traced Notice Failure ModelOverride)).run.run m = (.ok .empty, m) := by
    change (Except.ok ModelOverride.empty, { m with err := m.err ++ [] }) = _
    rw [List.append_nil]
  have quiet : (Program.say (m := StateM Memory) none).run.run m = (.ok (), m) := rfl
  unfold Program.compile
  rw [given]
  dsimp only
  obtain ⟨err, replayed⟩ := replay_run screen ((Source.load (m := StateM Memory) source).run m).1
    ((Source.load (m := StateM Memory) source).run m).2
  rw [loaded] at replayed
  rw [unsaid, attempt_of_ok looked, attempt_of_ok overridden, attempt_of_ok quiet,
    attempt_of_ok (lift_run _ m), attempt_of_ok replayed]
  rfl

def bracketed : Text := "out[/x].json"

def desk : Memory where
  disk := ⟨[([("spec.json" : Text)],
    .file (Files.encodeLossy "\x7b\"openapi\": \"3.0.0\"\x7d"))]⟩
  here := []
  bindings := [("HOME", "/")]
  system := "Linux"
  terminal := false
  homes := []
  time := "now"
  input := ""
  response := .badAddress
  labels := ["0"]
  refuses _ := none
  out := ""
  err := ""

namespace Desk

def settings : Settings := ⟨some "spec.json", none, some bracketed⟩

def screen : Screen := ⟨.plain, true, false, false⟩

def resolved : Memory := ((Settings.resolve (m := StateM Memory) settings).run.run desk).2

def entries : Document.Entries :=
  ((Source.load (m := StateM Memory) "spec.json").run resolved).1.result.toOption.getD []

def page : Text := "\x7b\n  \"serviceInformation\": \x7b\n    \"title\": \"Untitled API\",\n"
  ++ "    \"version\": \"0.0.0\",\n    \"description\": null\n  \x7d,\n"
  ++ "  \"fieldDescriptions\": \x7b\x7d,\n  \"structureDescriptions\": \x7b\x7d,\n"
  ++ "  \"operationDescriptions\": \x7b\x7d,\n  \"errorTypes\": [],\n"
  ++ "  \"typeMappings\": \x7b\x7d\n\x7d\n"

def line : Text := "Wrote 0 structures, 0 fields and 0 operations to out[/x].json"

theorem loaded :
    ((Source.load (m := StateM Memory) "spec.json").run resolved).1.result = .ok entries := by
  have good :
      ((Source.load (m := StateM Memory) "spec.json").run resolved).1.result.isOk = true := by
    decide +kernel
  unfold entries
  generalize ((Source.load (m := StateM Memory) "spec.json").run resolved).1.result = result at *
  cases result with
  | ok a => rfl
  | error e => cases good

theorem sourceCompiled : ∃ model, (Source.compile .empty entries).result = .ok model ∧
    Program.written model = .ok page ∧ Program.wroteLine model bracketed = line := by
  have resolved : Pointer.resolve (.map entries) = .ok (.map entries) :=
    Pointer.resolve_eq_self (by decide +kernel) (by decide +kernel)
  have told : (Source.compile .empty entries).result.map (fun model =>
      (Program.written model, Program.wroteLine model bracketed)) = .ok (.ok page, line) := by
    unfold Source.compile Api.read Api.readIn
    simp only [Traced.result_bind, resolved, Traced.ofExcept, Traced.mapError]
    decide +kernel
  cases result : (Source.compile .empty entries).result with
  | error e =>
    rw [result] at told
    cases told
  | ok model =>
    rw [result] at told
    obtain ⟨written, wrote⟩ := Prod.mk.inj (Except.ok.inj told)
    exact ⟨model, rfl, written, wrote⟩

def compiled : Memory :=
  ((Program.compile (m := StateM Memory) screen settings.document settings.override).run.run
    resolved).2

/-- The last steps of the build: the page is written, and the line about it is said. -/
def ending : Except Failure Unit × Memory :=
  (do
    Files.writeOutput (Path.ofText bracketed) page
    Program.say (screen.success line) : ExceptT Failure (StateM Memory) Unit).run.run compiled

theorem built : (Program.build (m := StateM Memory) screen settings false).run.run desk =
    (.error .unreadableMarks, ending.2) := by
  obtain ⟨model, made, written, wrote⟩ := sourceCompiled
  have settled : (Settings.resolve (m := StateM Memory) settings).run.run desk =
      (.ok settings, resolved) := Prod.ext (by decide +kernel) rfl
  have done : (Program.compile (m := StateM Memory) screen settings.document
      settings.override).run.run resolved = (.ok model, compiled) :=
    Prod.ext ((compile_result rfl (by decide) loaded).trans made) rfl
  have paged : (ExceptT.mk (pure (Program.written model)) :
      ExceptT Failure (StateM Memory) Text).run.run compiled = (.ok page, compiled) := by
    rw [written]
    rfl
  have ended : ending = (.error .unreadableMarks, ending.2) := Prod.ext (by decide +kernel) rfl
  unfold Program.build
  rw [attempt_of_ok settled, attempt_of_ok done]
  change (Program.deliver (m := StateM Memory) screen (some bracketed) model).run.run compiled = _
  unfold Program.deliver
  rw [attempt_of_ok paged]
  refine Eq.trans ?_ ended
  unfold ending
  rw [← wrote]
  rfl

end Desk

end ApiModel
