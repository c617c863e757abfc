import ApiModel.Host.Disk

/-! Disks before and after a request. A directory that is there stays there, so a path that leads
somewhere leads to the same place later; a file that was added and is removed again leaves no
trace. -/
namespace ApiModel.Disk

variable {d d' d'' : Disk} {here place source : Place} {path target : Path}
  {content old : ByteArray}

def content? (d : Disk) (place : Place) : Option ByteArray :=
  match d.find? place with
  | some (.file content) => some content
  | _ => none

def KeepsDirectories (d d' : Disk) : Prop :=
  ∀ place, d.find? place = some .directory → d'.find? place = some .directory

/-- Directories may come in addition; files are what they were. -/
structure SameFiles (d d' : Disk) : Prop where
  directories : d.KeepsDirectories d'
  files : ∀ place, d'.content? place = d.content? place

/-- One path leads to new content, and all other files are what they were. -/
def Rewrites (d : Disk) (here : Place) (target : Path) (content : ByteArray) (d' : Disk) : Prop :=
  ∃ place, d'.locate here target = .ok place ∧ d'.content? place = some content ∧
    ∀ other, other ≠ place → d'.content? other = d.content? other

theorem SameFiles.refl (d : Disk) : d.SameFiles d := ⟨fun _ found => found, fun _ => rfl⟩

theorem SameFiles.trans (h : d.SameFiles d') (h' : d'.SameFiles d'') : d.SameFiles d'' :=
  ⟨fun place found => h'.directories place (h.directories place found),
    fun place => (h'.files place).trans (h.files place)⟩

theorem content?_eq_of_find? (same : d'.find? place = d.find? place) :
    d'.content? place = d.content? place := by
  simp [content?, same]

theorem ne_nil_of_free (free : d.find? place = none) : place ≠ [] := by
  rintro rfl
  cases free

/-! Paths lead to the same place. -/

theorem enter_of_keeps (keeps : d.KeepsDirectories d') {part : Text}
    (entered : d.enter place part = .ok source) : d'.enter place part = .ok source := by
  unfold enter at *
  split at entered
  · cases entered
  · cases entered
  · rename_i found
    rw [keeps place found]
    exact entered

theorem walk_of_keeps (keeps : d.KeepsDirectories d') {parts : List Text}
    (walked : d.walk place parts = .ok source) : d'.walk place parts = .ok source := by
  induction parts generalizing place with
  | nil => exact walked
  | cons part rest ih =>
    rw [walk] at walked ⊢
    split at walked
    · rename_i next entered
      rw [enter_of_keeps keeps entered]
      exact ih walked
    · cases walked

theorem locate_of_keeps (keeps : d.KeepsDirectories d')
    (located : d.locate here path = .ok place) : d'.locate here path = .ok place := by
  unfold locate at *
  split at located
  · cases located
  · split at located
    · cases located
    · split at located
      · cases located
      · rename_i plain short
        rw [if_neg plain, if_neg short]
        exact walk_of_keeps keeps located

/-- A disk with a file where nothing was. -/
structure Adds (d : Disk) (place : Place) (content : ByteArray) (d' : Disk) : Prop where
  free : d.find? place = none
  added : d'.find? place = some (.file content)
  others : ∀ other, other ≠ place → d'.find? other = d.find? other

theorem Adds.keeps (h : d.Adds place content d') : d.KeepsDirectories d' := by
  intro other found
  rw [h.others other, found]
  rintro rfl
  simp [h.free] at found

theorem Adds.erase (h : d.Adds place content d') : d.SameFiles (d'.erase place) := by
  have absent : (d'.erase place).find? place = none :=
    find?_erase_self _ (ne_nil_of_free h.free)
  have same (other : Place) : (d'.erase place).find? other = d.find? other := by
    by_cases own : other = place
    · rw [own, absent, h.free]
    · rw [find?_erase_of_ne _ own, h.others other own]
  exact ⟨fun other found => (same other).trans found,
    fun other => content?_eq_of_find? (same other)⟩

theorem Adds.put (h : d.Adds place old d') :
    d.Adds place content (d'.put place (.file content)) where
  free := h.free
  added := find?_put_self _ (ne_nil_of_free h.free) _
  others other different := by rw [find?_put_of_ne _ different, h.others other different]

/-! Requests. -/

theorem Adds.write (h : d.Adds place old d') (located : d.locate here path = .ok place)
    (written : d'.write here path content = .ok d'') : d.Adds place content d'' := by
  simp only [Disk.write, locate_of_keeps h.keeps located, h.added] at written
  cases written
  exact h.put

theorem Adds.isPresent (h : d.Adds place content d') (located : d.locate here path = .ok place) :
    d'.isPresent here path = true := by
  simp [Disk.isPresent, locate_of_keeps h.keeps located, h.added]

theorem Adds.remove (h : d.Adds place content d') (located : d.locate here path = .ok place) :
    d.SameFiles (d'.remove here path) := by
  simp only [Disk.remove, locate_of_keeps h.keeps located]
  exact h.erase

theorem Adds.replace (h : d.Adds source content d') (located : d.locate here path = .ok source)
    (replaced : d'.replace here path target = .ok d'') : d.Rewrites here target content d'' := by
  simp only [Disk.replace, locate_of_keeps h.keeps located] at replaced
  split at replaced
  · cases replaced
  · cases replaced
  · rename_i place found goal
    cases found
    split at replaced
    · cases replaced
    · simp only [h.added] at replaced
      split at replaced
      · cases replaced
      · cases replaced
      · rename_i node same notDirectory
        cases same
        cases replaced
        have own : place ≠ [] := by
          rintro rfl
          exact notDirectory rfl
        refine ⟨place, locate_of_keeps ?_ goal, ?_, ?_⟩
        · intro other found
          rw [find?_put_of_ne _ (by rintro rfl; exact notDirectory found),
            find?_erase_of_ne _ (by rintro rfl; simp [h.added] at found), found]
        · simp [content?, find?_put_self _ own]
        · -- the place of the source is free again, as it was before
          intro other different
          rw [content?_eq_of_find? (find?_put_of_ne _ different _), h.erase.files]

end ApiModel.Disk
