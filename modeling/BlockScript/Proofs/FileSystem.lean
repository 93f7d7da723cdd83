import BlockScript.CommandLine.Run

/-!
Files in the abstract. A path is opaque: the file system tells to which place it leads, and a place
holds a file or none. Nothing else is known of directories, links or the working directory. A disk
reads and writes such files by the laws of `Disk.Lawful`. They leave open what a write that fails
makes of its own file; that it makes nothing of it is `Disk.WritesWhole`, a law of its own.
-/
namespace BlockScript

/-- The place of a path is where its file is or could be made. -/
structure FileSystem (σ Place : Type) where
  place : σ → Text → Option Place
  content : σ → Place → Option Content

variable {σ Place : Type}

namespace FileSystem

def contentAt (fs : FileSystem σ Place) (s : σ) (path : Text) : Option Content :=
  (fs.place s path).bind (fs.content s)

def Same (fs : FileSystem σ Place) (s : σ) (path other : Text) : Prop :=
  ∃ place, fs.place s path = some place ∧ fs.place s other = some place

/-- That file alone is set, and every path that led somewhere leads there still. -/
structure Sets (fs : FileSystem σ Place) (before : σ) (path text : Text) (after : σ) : Prop where
  stored : fs.contentAt after path = some (.text text)
  others : ∀ place, fs.place before path ≠ some place →
    fs.content after place = fs.content before place
  places : ∀ other place, fs.place before other = some place → fs.place after other = some place

end FileSystem

/-- What reading and writing a whole file are documented to do. A write makes the file where there
    is none, and otherwise puts the text in the place of all that it held. -/
structure Disk.Lawful (disk : Disk (StateM σ)) (fs : FileSystem σ Place) : Prop where
  read_keeps : ∀ s path, (disk.read path s).2 = s
  read_content : ∀ s path text, (disk.read path s).1 = .ok text →
    fs.contentAt s path = some (.text text)
  /-- Done or not, a write changes no file but its own. -/
  write_others : ∀ s path text place, fs.place s path ≠ some place →
    fs.content (disk.write path text s).2 place = fs.content s place
  write_places : ∀ s path text other place, fs.place s other = some place →
    fs.place (disk.write path text s).2 other = some place
  written : ∀ s path text, (disk.write path text s).1 = .ok () → ∃ place,
    fs.place s path = some place ∧
      fs.content (disk.write path text s).2 place = some (.text text)

/-- No write fails half done. -/
def Disk.WritesWhole (disk : Disk (StateM σ)) : Prop :=
  ∀ s path text error, (disk.write path text s).1 = .error error →
    (disk.write path text s).2 = s

namespace Disk.Lawful

variable {disk : Disk (StateM σ)} {fs : FileSystem σ Place} {s : σ} {path other text : Text}

theorem sets_of_write (lawful : disk.Lawful fs) (done : (disk.write path text s).1 = .ok ()) :
    fs.Sets s path text (disk.write path text s).2 where
  stored := by
    obtain ⟨place, leads, content⟩ := lawful.written s path text done
    rw [FileSystem.contentAt, lawful.write_places s path text path place leads]
    exact content
  others := lawful.write_others s path text
  places := lawful.write_places s path text

theorem contentAt_of_not_same (lawful : disk.Lawful fs) {place : Place}
    (leads : fs.place s other = some place) (apart : ¬ fs.Same s other path) :
    fs.contentAt (disk.write path text s).2 other = fs.contentAt s other := by
  have elsewhere : fs.place s path ≠ some place := fun same => apart ⟨place, leads, same⟩
  rw [FileSystem.contentAt, FileSystem.contentAt, leads,
    lawful.write_places s path text other place leads]
  exact lawful.write_others s path text place elsewhere

theorem contentAt_of_same (lawful : disk.Lawful fs) (same : fs.Same s other path)
    (done : (disk.write path text s).1 = .ok ()) :
    fs.contentAt (disk.write path text s).2 other = some (.text text) := by
  obtain ⟨place, leads, leads_path⟩ := same
  obtain ⟨place', leads_path', content⟩ := lawful.written s path text done
  cases leads_path.symm.trans leads_path'
  rw [FileSystem.contentAt, lawful.write_places s path text other place leads]
  exact content

theorem place_of_read (lawful : disk.Lawful fs) (read : (disk.read path s).1 = .ok text) :
    ∃ place, fs.place s path = some place := by
  have content := lawful.read_content s path text read
  cases leads : fs.place s path with
  | none => simp [FileSystem.contentAt, leads] at content
  | some place => exact ⟨place, rfl⟩

end Disk.Lawful
end BlockScript
