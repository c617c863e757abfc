import ApiModel.Host.Memory
import ApiModel.Program.Commands
import ApiModel.Proofs.DiskChanges

/-! Steps of a run and what they do to the files. Reading and printing leave all files alone; a file
that is written appears whole, or nothing of it does. -/
namespace ApiModel

variable {α β : Type}

/-! Steps that leave all files alone. -/

namespace Memory

/-- The same host: a run changes its disk and what it printed, and nothing else. -/
def SameHost (m m' : Memory) : Prop := ∃ disk out err, m' = { m with disk, out, err }

structure SameFiles (m m' : Memory) : Prop where
  disk : m.disk.SameFiles m'.disk
  host : m.SameHost m'

variable {m m' m'' : Memory}

namespace SameHost

theorem refl (m : Memory) : m.SameHost m := ⟨_, _, _, rfl⟩

theorem trans (h : m.SameHost m') (h' : m'.SameHost m'') : m.SameHost m'' := by
  obtain ⟨_, _, _, rfl⟩ := h
  obtain ⟨_, _, _, rfl⟩ := h'
  exact ⟨_, _, _, rfl⟩

theorem onDisk (h : m.SameHost m') (disk : Disk) : m.SameHost { m' with disk } :=
  h.trans ⟨_, _, _, rfl⟩

theorem here (h : m.SameHost m') : m'.here = m.here := by
  obtain ⟨_, _, _, rfl⟩ := h
  rfl

theorem time (h : m.SameHost m') : m'.time = m.time := by
  obtain ⟨_, _, _, rfl⟩ := h
  rfl

theorem console (h : m.SameHost m') : m'.console = m.console := by
  obtain ⟨_, _, _, rfl⟩ := h
  rfl

end SameHost

theorem SameFiles.refl (m : Memory) : m.SameFiles m := ⟨.refl _, .refl _⟩

theorem SameFiles.trans (h : m.SameFiles m') (h' : m'.SameFiles m'') : m.SameFiles m'' :=
  ⟨h.disk.trans h'.disk, h.host.trans h'.host⟩

end Memory

/-- A step after which all files are what they were, whatever its result. -/
def Tidy (x : StateM Memory α) : Prop := ∀ m : Memory, m.SameFiles (x.run m).2

namespace Tidy

theorem of_printed {x : StateM Memory α}
    (printed : ∀ m : Memory, ∃ out err, (x.run m).2 = { m with out, err }) : Tidy x := by
  intro m
  obtain ⟨out, err, same⟩ := printed m
  rw [same]
  exact ⟨.refl _, _, _, _, rfl⟩

theorem of_pure (a : α) : Tidy (pure a) := of_printed fun _ => ⟨_, _, rfl⟩

theorem of_bind {x : StateM Memory α} {f : α → StateM Memory β} (first : Tidy x)
    (next : ∀ a, Tidy (f a)) : Tidy (x >>= f) := by
  intro m
  exact (first m).trans (next _ _)

theorem of_except (x : Except Failure α) :
    Tidy (ExceptT.mk (pure x) : ExceptT Failure (StateM Memory) α).run :=
  .of_pure x

end Tidy

theorem attempt_of_ok {x : ExceptT Failure (StateM Memory) α}
    {f : α → ExceptT Failure (StateM Memory) β} {m q : Memory} {a : α}
    (done : x.run.run m = (.ok a, q)) : (x >>= f).run.run m = (f a).run.run q := by
  rw [ExceptT.run_bind, StateT.run_bind, done]
  rfl

namespace Memory

variable {b m m' : Memory} {temporary target : Path} {content old : ByteArray}

/-- A memory with a temporary file in addition. -/
structure Staged (b : Memory) (temporary : Path) (content : ByteArray) (m : Memory) : Prop where
  host : b.SameHost m
  adds : ∃ place, b.disk.locate b.here temporary = .ok place ∧ b.disk.Adds place content m.disk

theorem settled_cases {step : WriteStep} {made : Except AccessError Disk}
    {r : Except AccessError Unit} (run : m.unlessRefused step (m.settle made) = (r, m')) :
    (∃ e, r = .error e ∧ m' = m) ∨ ∃ disk, made = .ok disk ∧ r = .ok () ∧ m' = { m with disk } := by
  unfold unlessRefused at run
  split at run
  · cases run
    exact .inl ⟨_, rfl, rfl⟩
  · cases made with
    | error e =>
      cases run
      exact .inl ⟨e, rfl, rfl⟩
    | ok disk =>
      cases run
      exact .inr ⟨disk, rfl, rfl, rfl⟩

theorem Staged.write (h : b.Staged temporary old m) {r : Except AccessError Unit}
    (run : (Host.writeFile (m := StateM Memory) temporary content).run m = (r, m')) :
    (∃ e, r = .error e ∧ b.Staged temporary old m') ∨
      r = .ok () ∧ b.Staged temporary content m' := by
  rcases settled_cases run with ⟨e, rfl, rfl⟩ | ⟨disk, written, rfl, rfl⟩
  · exact .inl ⟨e, rfl, h⟩
  · obtain ⟨place, located, adds⟩ := h.adds
    rw [h.host.here] at written
    exact .inr ⟨rfl, h.host.onDisk _, place, located, adds.write located written⟩

theorem Staged.sync (h : b.Staged temporary content m) {r : Except AccessError Unit}
    (run : (Host.syncFile (m := StateM Memory) temporary).run m = (r, m')) :
    b.Staged temporary content m' := by
  change m.unlessRefused .sync (.ok (), m) = (r, m') at run
  unfold unlessRefused at run
  split at run <;> cases run <;> exact h

theorem Staged.replace (h : b.Staged temporary content m) {r : Except AccessError Unit}
    (run : (Host.replaceFile (m := StateM Memory) temporary target).run m = (r, m')) :
    (∃ e, r = .error e ∧ b.Staged temporary content m') ∨
      r = .ok () ∧ b.SameHost m' ∧ b.disk.Rewrites b.here target content m'.disk := by
  rcases settled_cases run with ⟨e, rfl, rfl⟩ | ⟨disk, replaced, rfl, rfl⟩
  · exact .inl ⟨e, rfl, h⟩
  · obtain ⟨place, located, adds⟩ := h.adds
    rw [h.host.here] at replaced
    exact .inr ⟨rfl, h.host.onDisk _, adds.replace located replaced⟩

theorem Staged.discard (h : b.Staged temporary content m) :
    b.SameFiles ((Files.discard (m := StateM Memory) temporary).run m).2 := by
  obtain ⟨place, located, adds⟩ := h.adds
  have there : m.disk.isPresent m.here temporary = true := by
    rw [h.host.here]
    exact adds.isPresent located
  have removed : ((Files.discard (m := StateM Memory) temporary).run m).2 =
      { m with disk := m.disk.remove m.here temporary } := by
    change ((if m.disk.isPresent m.here temporary then Host.removeFile temporary else pure () :
      StateM Memory Unit).run m).2 = _
    rw [if_pos there]
    rfl
  rw [removed]
  refine ⟨?_, h.host.onDisk _⟩
  rw [h.host.here]
  exact adds.remove located

end Memory

section Output

variable {b m m' : Memory} {temporary target : Path} {text : Text} {old : ByteArray}
  {r : Except Failure Unit}

end Output

end ApiModel
