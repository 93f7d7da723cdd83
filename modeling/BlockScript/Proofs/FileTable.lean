import BlockScript.Proofs.FileSystem
import BlockScript.Proofs.Outcome

/-!
A table of files is a file system, and the disk over it is lawful. A write sets the one file that
its path leads to; a path that led to a file, or to where one can be, leads there afterwards.
-/
namespace BlockScript
namespace Files

variable {files after : Files} {path place q : Path} {content : Content}

/-! Entries and directories -/

theorem lookup_replaced (entries : List (Path × Content)) (place : Path) (content : Content)
    (q : Path) :
    List.lookup q (entries.map fun e => if e.1 = place then (place, content) else e) =
      if q = place then (entries.lookup place).map fun _ => content else entries.lookup q := by
  induction entries with
  | nil => simp
  | cons e rest ih =>
    obtain ⟨key, old⟩ := e
    rw [List.map_cons]
    by_cases asked : q = key
    · subst asked
      by_cases here : q = place
      · subst here
        simp
      · simp [here]
    · have passed : (q == key) = false := by simpa using asked
      by_cases here : key = place
      · subst here
        simp [List.lookup_cons, passed, asked, ih]
      · have kept : (place == key) = false := by simpa using Ne.symm here
        simp [List.lookup_cons, passed, kept, here, ih]

theorem get?_put (files : Files) (place : Path) (content : Content) (q : Path) :
    (files.put place content).get? q = if q = place then some content else files.get? q := by
  unfold put get?
  dsimp only
  split
  · rename_i present
    obtain ⟨old, found⟩ := Option.isSome_iff_exists.mp present
    rw [lookup_replaced, found, Option.map_some]
  · rename_i absent
    rw [List.lookup_append]
    by_cases asked : q = place
    · subst asked
      simp [Option.not_isSome_iff_eq_none.mp absent]
    · have passed : (q == place) = false := by simpa using asked
      simp [List.lookup_cons, passed, asked]

theorem isSome_get?_iff : (files.get? q).isSome = true ↔ ∃ e ∈ files.entries, e.1 = q := by
  rw [get?, ← Option.ne_none_iff_isSome, ne_eq, List.lookup_eq_none_iff]
  simp [@eq_comm _ q]

theorem isDirectory_iff : files.isDirectory path = true ↔
    path <+: files.working ∨ ∃ q, (files.get? q).isSome = true ∧ path <+: q ∧ path ≠ q := by
  simp only [isDirectory, Bool.or_eq_true, decide_eq_true_eq, List.any_eq_true, Bool.and_eq_true,
    List.isPrefixOf_iff_prefix, isSome_get?_iff]
  refine or_congr_right ⟨?_, ?_⟩
  · rintro ⟨e, member, below⟩
    exact ⟨e.1, ⟨e, member, rfl⟩, below⟩
  · rintro ⟨q, ⟨e, member, rfl⟩, below⟩
    exact ⟨e, member, below⟩

theorem isDirectory_above (directory : files.isDirectory path = true) (above : q <+: path) :
    files.isDirectory q = true := by
  rcases isDirectory_iff.mp directory with working | ⟨file, present, below, other⟩
  · exact isDirectory_iff.mpr (.inl (above.trans working))
  · refine isDirectory_iff.mpr (.inr ⟨file, present, above.trans below, ?_⟩)
    rintro rfl
    exact other (below.eq_of_length (Nat.le_antisymm below.length_le above.length_le))

theorem isDirectory_start (files : Files) (path : Text) :
    files.isDirectory (files.start path) = true := by
  refine isDirectory_iff.mpr (.inl ?_)
  unfold start
  split
  · exact List.nil_prefix
  · exact List.prefix_rfl

theorem isDirectory_put (parent : files.isDirectory place.dropLast = true) (q : Path) :
    (files.put place content).isDirectory q = files.isDirectory q := by
  rw [Bool.eq_iff_iff]
  constructor
  · intro directory
    rcases isDirectory_iff.mp directory with working | ⟨file, present, below, other⟩
    · exact isDirectory_iff.mpr (.inl working)
    · rw [get?_put] at present
      split at present
      · -- what lies above the new file lies above its directory or is that directory
        rename_i new
        subst new
        obtain ⟨more, rfl⟩ := below
        have more_ne : more ≠ [] := by simpa using other
        rw [List.dropLast_append_of_ne_nil more_ne] at parent
        exact isDirectory_above parent (List.prefix_append q more.dropLast)
      · exact isDirectory_iff.mpr (.inr ⟨file, present, below, other⟩)
  · intro directory
    rcases isDirectory_iff.mp directory with working | ⟨file, present, below, other⟩
    · exact isDirectory_iff.mpr (.inl working)
    · refine isDirectory_iff.mpr (.inr ⟨file, ?_, below, other⟩)
      rw [get?_put]
      split <;> simp [present]

/-! Following a path -/

def Location.Stands (files : Files) : Location → Prop
  | .directory path => files.isDirectory path = true
  | .file path => files.locate path = .file path ∧ files.isDirectory path.dropLast = true
  | .free path => files.locate path = .free path ∧ files.isDirectory path.dropLast = true

theorem stands_locate (parent : files.isDirectory path.dropLast = true) :
    (files.locate path).Stands files := by
  unfold locate
  split
  · assumption
  · rename_i no_directory
    split
    · rename_i present
      exact ⟨by simp [locate, no_directory, present], parent⟩
    · rename_i absent
      exact ⟨by simp [locate, no_directory, absent], parent⟩

theorem stands_enter {part : Text} {l l' : Location} (stands : l.Stands files)
    (entered : files.enter part l = .ok l') : l'.Stands files := by
  cases l with
  | file path => cases entered
  | free path => cases entered
  | directory path =>
    simp only [enter] at entered
    split at entered
    · cases entered
    · split at entered
      · cases entered
        exact stands
      · split at entered
        · cases entered
          exact stands_locate (isDirectory_above stands
            ((List.dropLast_prefix _).trans (List.dropLast_prefix path)))
        · cases entered
          exact stands_locate (by simpa [Location.Stands] using stands)

theorem stands_foldlM (parts : List Text) {start l : Location} (stands : start.Stands files)
    (followed : parts.foldlM (fun l part => files.enter part l) start = .ok l) :
    l.Stands files := by
  induction parts generalizing start with
  | nil =>
    cases followed
    exact stands
  | cons part rest ih =>
    rw [List.foldlM_cons] at followed
    obtain ⟨next, entered, followed⟩ := bind_eq_ok_iff.mp followed
    exact ih (stands_enter stands entered) followed

theorem stands_follow {path : Text} {l : Location} (followed : files.follow path = .ok l) :
    l.Stands files := by
  unfold follow at followed
  split at followed
  · cases followed
  · split at followed
    · cases followed
    · have standing : (Location.directory (files.start path)).Stands files :=
        isDirectory_start files path
      exact stands_foldlM _ standing followed

/-! Following a path after a write -/

/-- The location once there is a file at `place`. -/
def Location.settled (place : Path) : Location → Location
  | .free path => if path = place then .file path else .free path
  | l => l

def Vacant (files : Files) (place : Path) : Prop :=
  files.isDirectory place = false ∧ files.isDirectory place.dropLast = true

theorem vacant_of_follow {path : Text}
    (followed : files.follow path = .ok (.file place) ∨ files.follow path = .ok (.free place)) :
    files.Vacant place := by
  have stands : (files.locate place = .file place ∨ files.locate place = .free place) ∧
      files.isDirectory place.dropLast = true := by
    rcases followed with file | free
    · exact ⟨.inl (stands_follow file).1, (stands_follow file).2⟩
    · exact ⟨.inr (stands_follow free).1, (stands_follow free).2⟩
  refine ⟨?_, stands.2⟩
  rw [Bool.eq_false_iff]
  intro directory
  simp [locate, directory] at stands

theorem locate_put (vacant : files.Vacant place) (content : Content) (q : Path) :
    (files.put place content).locate q = (files.locate q).settled place := by
  unfold locate
  rw [isDirectory_put vacant.2, get?_put]
  by_cases here : q = place
  · subst here
    rw [vacant.1]
    cases (files.get? q).isSome <;> simp [Location.settled]
  · rw [if_neg here]
    split
    · rfl
    · split
      · rfl
      · simp [Location.settled, here]

theorem enter_put (vacant : files.Vacant place) (content : Content) {part : Text} {l l' : Location}
    (entered : files.enter part l = .ok l') :
    (files.put place content).enter part (l.settled place) = .ok (l'.settled place) := by
  have kept : (files.put place content).enter part (l.settled place) =
      (files.enter part l).map (·.settled place) := by
    cases l with
    | file path => cases entered
    | free path => cases entered
    | directory path =>
      simp only [Location.settled, enter, locate_put vacant]
      split
      · rfl
      · split
        · rfl
        · split <;> rfl
  rw [kept, entered]
  rfl

theorem foldlM_enter_put (vacant : files.Vacant place) (content : Content) (parts : List Text)
    {start l : Location}
    (followed : parts.foldlM (fun l part => files.enter part l) start = .ok l) :
    parts.foldlM (fun l part => (files.put place content).enter part l) (start.settled place) =
      .ok (l.settled place) := by
  induction parts generalizing start with
  | nil =>
    cases followed
    rfl
  | cons part rest ih =>
    rw [List.foldlM_cons] at followed ⊢
    obtain ⟨next, entered, followed⟩ := bind_eq_ok_iff.mp followed
    rw [enter_put vacant content entered]
    exact ih followed

theorem follow_put (vacant : files.Vacant place) (content : Content) {path : Text} {l : Location}
    (followed : files.follow path = .ok l) :
    (files.put place content).follow path = .ok (l.settled place) := by
  unfold follow at followed ⊢
  split at followed
  · cases followed
  · rename_i nonempty
    rw [if_neg nonempty]
    split at followed
    · cases followed
    · rename_i short
      rw [if_neg short]
      exact foldlM_enter_put vacant content _ followed

/-! The table as a file system -/

def placeOf (files : Files) (path : Text) : Option Path :=
  if isSlashed path then none
  else
    match files.follow path with
    | .ok (.file p) | .ok (.free p) => some p
    | _ => none

theorem placeOf_eq_some_iff {path : Text} {p : Path} : files.placeOf path = some p ↔
    isSlashed path = false ∧
      (files.follow path = .ok (.file p) ∨ files.follow path = .ok (.free p)) := by
  unfold placeOf
  split
  · rename_i slashed
    simp [slashed]
  · rename_i plain
    rw [Bool.not_eq_true] at plain
    cases files.follow path with
    | error error => simp
    | ok l => cases l <;> simp [plain]

theorem placeOf_put {path other : Text} {p q : Path} (leads : files.placeOf path = some p)
    (leads_other : files.placeOf other = some q) :
    (files.put p content).placeOf other = some q := by
  obtain ⟨-, followed⟩ := placeOf_eq_some_iff.mp leads
  obtain ⟨plain, followed_other⟩ := placeOf_eq_some_iff.mp leads_other
  refine placeOf_eq_some_iff.mpr ⟨plain, ?_⟩
  have vacant := vacant_of_follow followed
  rcases followed_other with file | free
  · exact .inl (follow_put vacant content file)
  · have settled := follow_put vacant content free
    simp only [Location.settled] at settled
    split at settled
    · exact .inl settled
    · exact .inr settled

theorem write_eq_ok_iff {path text : Text} : files.write path text = .ok after ↔
    ∃ p, files.placeOf path = some p ∧ after = files.put p (.text text) := by
  have stored : ∀ p, (if isSlashed path then throw .isDirectory
      else return files.put p (.text text) : Except FileError Files) = .ok after ↔
        isSlashed path = false ∧ after = files.put p (.text text) := by
    intro p
    cases isSlashed path
    · simpa [pure, Except.pure] using eq_comm
    · simp [throw, throwThe, MonadExceptOf.throw]
  simp only [placeOf_eq_some_iff]
  unfold write
  rw [bind_eq_ok_iff]
  constructor
  · rintro ⟨l, followed, written⟩
    cases l with
    | directory directory => cases written
    | file p =>
      obtain ⟨plain, put⟩ := (stored p).mp written
      exact ⟨p, ⟨plain, .inl followed⟩, put⟩
    | free p =>
      obtain ⟨plain, put⟩ := (stored p).mp written
      exact ⟨p, ⟨plain, .inr followed⟩, put⟩
  · rintro ⟨p, ⟨plain, followed | followed⟩, put⟩
    · exact ⟨_, followed, (stored p).mpr ⟨plain, put⟩⟩
    · exact ⟨_, followed, (stored p).mpr ⟨plain, put⟩⟩

theorem get?_of_read {path text : Text} (read : files.read path = .ok text) :
    ∃ p, files.placeOf path = some p ∧ files.get? p = some (.text text) := by
  obtain ⟨l, followed, found⟩ := bind_eq_ok_iff.mp read
  cases l with
  | directory directory => cases found
  | free p => cases found
  | file p =>
    dsimp only at found
    split at found
    · cases found
    · rename_i plain
      refine ⟨p, placeOf_eq_some_iff.mpr ⟨Bool.eq_false_iff.mpr plain, .inl followed⟩, ?_⟩
      split at found
      · rename_i content
        cases found
        exact content
      · cases found

def fileSystem : FileSystem Files Path where
  place := Files.placeOf
  content := Files.get?

end Files

namespace Disk

theorem ofFiles_write (files : Files) (path text : Text) :
    Disk.ofFiles.write path text files = match files.write path text with
      | .ok after => (.ok (), after)
      | .error error => (.error error, files) := by
  simp only [Disk.ofFiles, bind, StateT.bind, get, getThe, MonadStateOf.get, StateT.get, pure]
  cases files.write path text <;> rfl

theorem ofFiles_write_cases (files : Files) (path text : Text) :
    (∃ p, files.placeOf path = some p ∧
      Disk.ofFiles.write path text files = (.ok (), files.put p (.text text))) ∨
    ∃ error, Disk.ofFiles.write path text files = (.error error, files) := by
  rw [ofFiles_write]
  cases result : files.write path text with
  | ok after =>
    obtain ⟨p, leads, rfl⟩ := Files.write_eq_ok_iff.mp result
    exact .inl ⟨p, leads, rfl⟩
  | error error => exact .inr ⟨error, rfl⟩

theorem lawful_ofFiles : Disk.ofFiles.Lawful Files.fileSystem where
  read_keeps _ _ := rfl
  read_content files path text read := by
    obtain ⟨p, leads, content⟩ := Files.get?_of_read read
    change (files.placeOf path).bind files.get? = some (.text text)
    rw [leads]
    exact content
  write_others files path text place apart := by
    rcases ofFiles_write_cases files path text with ⟨p, leads, wrote⟩ | ⟨error, refused⟩
    · rw [wrote]
      have other : place ≠ p := by
        rintro rfl
        exact apart leads
      exact (Files.get?_put files p _ place).trans (if_neg other)
    · rw [refused]
  write_places files path text other place leads_other := by
    rcases ofFiles_write_cases files path text with ⟨p, leads, wrote⟩ | ⟨error, refused⟩
    · rw [wrote]
      exact Files.placeOf_put leads leads_other
    · rw [refused]
      exact leads_other
  written files path text done := by
    rcases ofFiles_write_cases files path text with ⟨p, leads, wrote⟩ | ⟨error, refused⟩
    · refine ⟨p, leads, ?_⟩
      rw [wrote]
      exact (Files.get?_put files p _ p).trans (if_pos rfl)
    · rw [refused] at done
      cases done

theorem writesWhole_ofFiles : Disk.ofFiles.WritesWhole := by
  intro files path text error failed
  rcases ofFiles_write_cases files path text with ⟨p, leads, wrote⟩ | ⟨error, refused⟩
  · rw [wrote] at failed
    cases failed
  · rw [refused]

end Disk
end BlockScript
