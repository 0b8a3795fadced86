import CloudOps.Js.PosixPath
import CloudOps.Runs
import Mathlib.Logic.Function.Basic

namespace CloudOps.Ticketing.ObjectStorage

open CloudOps.Js.PosixPath

variable {Buffer : Type}

section Disk

inductive Entry (Buffer : Type) where
  | directory
  | file (content : Buffer)

abbrev Disk (Buffer : Type) := Location → Option (Entry Buffer)

def Disk.isFile (disk : Disk Buffer) (place : Location) : Bool :=
  match disk place with
  | some (.file _) => true
  | some .directory | none => false

-- fs.mkdir, recursive: the places the path comes to, up to one that is a file
def Disk.mkdir (disk : Disk Buffer) (places : List Location) : Disk Buffer :=
  let free := places.takeWhile fun place => !disk.isFile place
  fun place => if place ∈ free then (disk place).or (some .directory) else disk place

def Disk.writeFile (disk : Disk Buffer) (place : Location) (content : Buffer) : Option (Disk Buffer) :=
  match disk place.tail, disk place with
  | some .directory, none | some .directory, some (.file _) =>
      if place = [] then none else some (Function.update disk place (some (.file content)))
  | _, _ => none

def Disk.readFile (disk : Disk Buffer) (place : Location) : Option Buffer :=
  match disk place with
  | some (.file content) => some content
  | _ => none

-- fs.rm with `force`: a directory is not removed, and nothing is no error unless a file is
-- where a directory should lead to it
def Disk.rm (disk : Disk Buffer) (place : Location) : Option (Disk Buffer) :=
  match disk place with
  | some .directory => none
  | some (.file _) => some (Function.update disk place none)
  | none => if place.tails.any disk.isFile then none else some disk

end Disk

section Storage

inductive StorageError where
  | unsafePath (storagePath : List Char)
  | fileSystem
  deriving DecidableEq

def StorageError.message : StorageError → String
  | .unsafePath storagePath => "Unsafe storage path: " ++ String.ofList storagePath
  | .fileSystem => "the file system's own"

-- randomUUID: 36 characters, none of which means anything in a path
structure RandomUUID where
  text : List Char
  length_eq : text.length = 36
  plain : ∀ c ∈ text, c = '-' ∨ c.isAlphanum = true

-- LocalDiskStorage: its root, the directory the process runs in, and the paths the system
-- takes on no disk (one with a NUL in it, one that is too long). The disk has no links.
structure LocalDiskStorage where
  root : List Char
  cwd : Location
  refuses : List Char → Bool

variable (storage : LocalDiskStorage)

def LocalDiskStorage.directory : Location := locate storage.cwd storage.root

-- What a recursive mkdir of the root makes.
def LocalDiskStorage.ways : List Location :=
  waypoints (if isAbsolute storage.root then [] else storage.cwd) (segments storage.root)

def LocalDiskStorage.path (key : List Char) : List Char := join [storage.root, key]

def LocalDiskStorage.place (key : List Char) : Location := locate storage.cwd (storage.path key)

-- A path that ends in a slash does not lead to a file.
def LocalDiskStorage.reaches (disk : Disk Buffer) (key : List Char) : Bool :=
  !storage.refuses (storage.path key) &&
    !((storage.path key).getLast? = some '/' && disk.isFile (storage.place key))

def assertSafeKey (storagePath : List Char) : Except StorageError (List Char) :=
  let normalized := normalize storagePath
  if dotdot.isPrefixOf normalized || isAbsolute normalized then .error (.unsafePath storagePath) else .ok normalized

def keyOf (uuid : RandomUUID) (originalName : List Char) : List Char := uuid.text ++ extname originalName

-- The key, with the disk as it is left also where the write fails.
def save (disk : Disk Buffer) (buffer : Buffer) (originalName : List Char) (uuid : RandomUUID) :
    Except StorageError (List Char) × Disk Buffer :=
  if storage.refuses storage.root then (.error .fileSystem, disk)
  else
    let made := disk.mkdir storage.ways
    let key := keyOf uuid originalName
    if storage.ways.any disk.isFile || !storage.reaches made key then (.error .fileSystem, made)
    else
      match made.writeFile (storage.place key) buffer with
      | none => (.error .fileSystem, made)
      | some written => (.ok key, written)

-- fs.access fails where there is nothing; what it throws is caught.
def «exists» (disk : Disk Buffer) (storagePath : List Char) : Bool :=
  match assertSafeKey storagePath with
  | .error _ => false
  | .ok key => storage.reaches disk key && (disk (storage.place key)).isSome

-- What the stream gives, an error of its own being one of the file system's.
def readStream (disk : Disk Buffer) (storagePath : List Char) : Except StorageError Buffer := do
  let key ← assertSafeKey storagePath
  match if storage.reaches disk key then disk.readFile (storage.place key) else none with
  | some content => .ok content
  | none => .error .fileSystem

def delete (disk : Disk Buffer) (storagePath : List Char) : Except StorageError (Disk Buffer) := do
  let key ← assertSafeKey storagePath
  match if storage.reaches disk key then disk.rm (storage.place key) else none with
  | some after => .ok after
  | none => .error .fileSystem

end Storage

end CloudOps.Ticketing.ObjectStorage

namespace CloudOps.Ticketing.ObjectStorage

open CloudOps.Js.PosixPath

variable {Buffer : Type}

section Keys

variable {storage : LocalDiskStorage} {key normalized : List Char}

theorem isName_keyOf (uuid : RandomUUID) (originalName : List Char) : IsName (keyOf uuid originalName) := by
  obtain ⟨c, rest, hcons⟩ : ∃ c rest, uuid.text = c :: rest :=
    List.exists_cons_of_length_eq_add_one (by rw [uuid.length_eq])
  have hfirst : c ≠ '.' := by
    rintro rfl
    rcases uuid.plain '.' (by rw [hcons]; exact List.mem_cons_self) with h | h <;> exact absurd h (by decide)
  refine ⟨?_, ?_, ?_, ?_⟩
  · simp [keyOf, hcons]
  · simp [keyOf, hcons, dot, hfirst]
  · simp [keyOf, hcons, dotdot, hfirst]
  · rw [keyOf, List.mem_append]
    rintro (huuid | hext)
    · rcases uuid.plain '/' huuid with h | h <;> exact absurd h (by decide)
    · exact no_slash_extname _ hext

theorem place_keyOf (storage : LocalDiskStorage) (uuid : RandomUUID) (originalName : List Char) :
    storage.place (keyOf uuid originalName) = keyOf uuid originalName :: storage.directory := by
  have hname := isName_keyOf uuid originalName
  rw [LocalDiskStorage.place, LocalDiskStorage.path, locate_join _ _ (isAbsolute_name hname), locate_name _ hname,
    LocalDiskStorage.directory]

theorem assertSafeKey_ok (h : assertSafeKey key = .ok normalized) :
    isAbsolute normalized = false ∧ ¬ dotdot <+: normalized ∧ normalized = normalize key := by
  unfold assertSafeKey at h
  dsimp only at h
  split at h
  · cases h
  · rename_i hsafe
    obtain rfl := Except.ok.inj h
    rw [Bool.or_eq_true, not_or, List.isPrefixOf_iff_prefix] at hsafe
    exact ⟨Bool.eq_false_iff.mpr hsafe.2, hsafe.1, rfl⟩

-- A key that is let through leads into the storage's own directory.
theorem inside_of_safe (h : assertSafeKey key = .ok normalized) : Inside storage.directory (storage.place normalized) := by
  obtain ⟨habsolute, hup, rfl⟩ := assertSafeKey_ok h
  rw [LocalDiskStorage.place, LocalDiskStorage.path, locate_join _ _ habsolute, locate_normalize]
  exact inside_of_normal habsolute hup _

theorem assertSafeKey_keyOf (uuid : RandomUUID) (originalName : List Char) :
    assertSafeKey (keyOf uuid originalName) = .ok (keyOf uuid originalName) := by
  have hname := isName_keyOf uuid originalName
  obtain ⟨c, rest, hcons⟩ : ∃ c rest, uuid.text = c :: rest :=
    List.exists_cons_of_length_eq_add_one (by rw [uuid.length_eq])
  have hfirst : c ≠ '.' := by
    rintro rfl
    rcases uuid.plain '.' (by rw [hcons]; exact List.mem_cons_self) with h | h <;> exact absurd h (by decide)
  have hup : dotdot.isPrefixOf (keyOf uuid originalName) = false := by
    simp [keyOf, hcons, dotdot, List.isPrefixOf, Ne.symm hfirst]
  rw [assertSafeKey, normalize_name hname, hup, isAbsolute_name hname]
  rfl

end Keys

section Calls

inductive StorageCall (Buffer : Type) where
  | save (buffer : Buffer) (originalName : List Char) (uuid : RandomUUID)
  | exists (storagePath : List Char)
  | readStream (storagePath : List Char)
  | delete (storagePath : List Char)

inductive Answer (Buffer : Type) where
  | saved (result : Except StorageError (List Char))
  | found (result : Bool)
  | read (result : Except StorageError Buffer)
  | deleted (error : Option StorageError)

variable (storage : LocalDiskStorage)

def perform (disk : Disk Buffer) : StorageCall Buffer → Answer Buffer × Disk Buffer
  | .save buffer originalName uuid =>
      let (result, after) := save storage disk buffer originalName uuid
      (.saved result, after)
  | .exists storagePath => (.found («exists» storage disk storagePath), disk)
  | .readStream storagePath => (.read (readStream storage disk storagePath), disk)
  | .delete storagePath =>
      match delete storage disk storagePath with
      | .ok after => (.deleted none, after)
      | .error error => (.deleted (some error), disk)

def performAll (disk : Disk Buffer) : List (StorageCall Buffer) → List (Answer Buffer) × Disk Buffer
  | [] => ([], disk)
  | call :: calls =>
      let (answer, after) := perform storage disk call
      let (answers, last) := performAll after calls
      (answer :: answers, last)

-- The storage's directory with what is in it, and the directories above it.
def Concerned (place : Location) : Prop := Inside storage.directory place ∨ place <:+ storage.directory

def Agree (disk other : Disk Buffer) : Prop := ∀ place, Concerned storage place → disk place = other place

-- Nothing outside the directory changes, but that a directory above it is made.
def Confined (disk after : Disk Buffer) : Prop :=
  ∀ place, ¬ Inside storage.directory place →
    after place = disk place ∨ place <:+ storage.directory ∧ disk place = none ∧ after place = some .directory

variable {storage} {disk other after : Disk Buffer}

theorem Confined.refl : Confined storage disk disk := fun _ _ => .inl rfl

theorem Confined.trans {last : Disk Buffer} (hfirst : Confined storage disk after) (hsecond : Confined storage after last) :
    Confined storage disk last := by
  intro place hout
  rcases hsecond place hout with hsame | ⟨habove, hnone, hmade⟩
  · rw [hsame]
    exact hfirst place hout
  · rcases hfirst place hout with hsame | ⟨_, _, hdirectory⟩
    · exact .inr ⟨habove, hsame ▸ hnone, hmade⟩
    · rw [hdirectory] at hnone
      cases hnone

theorem confined_update {place : Location} {entry : Option (Entry Buffer)} (hin : Inside storage.directory place) :
    Confined storage disk (Function.update disk place entry) := by
  intro other hout
  exact .inl (Function.update_of_ne (fun he => hout (by rw [he]; exact hin)) _ _)

theorem Agree.update (h : Agree storage disk other) (place : Location) (entry : Option (Entry Buffer)) :
    Agree storage (Function.update disk place entry) (Function.update other place entry) := by
  intro found hfound
  by_cases hsame : found = place
  · rw [hsame, Function.update_self, Function.update_self]
  · rw [Function.update_of_ne hsame, Function.update_of_ne hsame, h found hfound]

-- Two outcomes of one operation, on disks that agree: both fail, or both leave the disk
-- changed in the directory only and still agreeing.
inductive Alike (storage : LocalDiskStorage) (disk : Disk Buffer) : Option (Disk Buffer) → Option (Disk Buffer) → Prop where
  | failed : Alike storage disk none none
  | done {after otherAfter : Disk Buffer} : Confined storage disk after → Agree storage after otherAfter →
      Alike storage disk (some after) (some otherAfter)

theorem Alike.eq_none_or_some {result otherResult : Option (Disk Buffer)} (h : Alike storage disk result otherResult) :
    result = none ∧ otherResult = none ∨ ∃ after otherAfter, result = some after ∧ otherResult = some otherAfter ∧
      Confined storage disk after ∧ Agree storage after otherAfter := by
  cases h with
  | failed => exact .inl ⟨rfl, rfl⟩
  | done hconfined hagree => exact .inr ⟨_, _, rfl, rfl, hconfined, hagree⟩

theorem Agree.isFile (h : Agree storage disk other) {place : Location} (hplace : Concerned storage place) :
    disk.isFile place = other.isFile place := by
  rw [Disk.isFile, Disk.isFile, h place hplace]

theorem Agree.any_isFile (h : Agree storage disk other) {places : List Location}
    (hplaces : ∀ place ∈ places, Concerned storage place) : places.any disk.isFile = places.any other.isFile := by
  rw [Bool.eq_iff_iff, List.any_eq_true, List.any_eq_true]
  refine exists_congr fun place => and_congr_right fun hplace => ?_
  rw [h.isFile (hplaces place hplace)]

-- The root comes to no place but those above the directory.
theorem ways_above (hroot : normalize storage.root = storage.root) {place : Location} (h : place ∈ storage.ways) :
    place <:+ storage.directory :=
  suffix_of_normal hroot h

theorem Agree.mkdir (h : Agree storage disk other) {places : List Location}
    (hplaces : ∀ place ∈ places, Concerned storage place) :
    Agree storage (disk.mkdir places) (other.mkdir places) := by
  have hfree : places.takeWhile (fun place => !disk.isFile place) =
      places.takeWhile (fun place => !other.isFile place) := by
    induction places with
    | nil => rfl
    | cons place rest ih =>
        obtain ⟨hfirst, hrest⟩ := List.forall_mem_cons.mp hplaces
        rw [List.takeWhile_cons, List.takeWhile_cons, h.isFile hfirst, ih hrest]
  intro place hplace
  unfold Disk.mkdir
  rw [hfree, h place hplace]

theorem confined_mkdir {places : List Location} (hplaces : ∀ place ∈ places, place <:+ storage.directory) :
    Confined storage disk (disk.mkdir places) := by
  intro place _
  unfold Disk.mkdir
  split
  · rename_i hfree
    cases hentry : disk place with
    | none => exact .inr ⟨hplaces place ((List.takeWhile_prefix _).subset hfree), rfl, rfl⟩
    | some entry => exact .inl rfl
  · exact .inl rfl

theorem Agree.reaches (h : Agree storage disk other) {key : List Char}
    (hin : Inside storage.directory (storage.place key)) : storage.reaches disk key = storage.reaches other key := by
  rw [LocalDiskStorage.reaches, LocalDiskStorage.reaches, h.isFile (.inl hin)]

theorem alike_writeFile (h : Agree storage disk other) {place : Location} (hin : Inside storage.directory place)
    (hparent : Concerned storage place.tail) (content : Buffer) :
    Alike storage disk (disk.writeFile place content) (other.writeFile place content) := by
  unfold Disk.writeFile
  rw [h place (.inl hin), h place.tail hparent]
  split
  · split
    · exact .failed
    · exact .done (confined_update hin) (h.update _ _)
  · split
    · exact .failed
    · exact .done (confined_update hin) (h.update _ _)
  · exact .failed

-- What is above a place in the directory is in it or above it.
theorem concerned_above {place above : Location} (hin : Inside storage.directory place) (h : above ∈ place.tails) :
    Concerned storage above :=
  List.suffix_or_suffix_of_suffix hin ((List.mem_tails _ _).mp h)

theorem alike_rm (h : Agree storage disk other) {place : Location} (hin : Inside storage.directory place) :
    Alike storage disk (disk.rm place) (other.rm place) := by
  unfold Disk.rm
  rw [h place (.inl hin), h.any_isFile fun above => concerned_above hin]
  split
  · exact .failed
  · exact .done (confined_update hin) (h.update _ _)
  · split
    · exact .failed
    · exact .done .refl h

theorem readFile_congr (h : Agree storage disk other) {place : Location} (hin : Inside storage.directory place) :
    disk.readFile place = other.readFile place := by
  rw [Disk.readFile, Disk.readFile, h place (.inl hin)]

theorem perform_save (hroot : normalize storage.root = storage.root) (h : Agree storage disk other) (buffer : Buffer)
    (originalName : List Char) (uuid : RandomUUID) :
    (save storage disk buffer originalName uuid).1 = (save storage other buffer originalName uuid).1 ∧
      Confined storage disk (save storage disk buffer originalName uuid).2 ∧
      Agree storage (save storage disk buffer originalName uuid).2 (save storage other buffer originalName uuid).2 := by
  have hplace := place_keyOf storage uuid originalName
  have hin : Inside storage.directory (storage.place (keyOf uuid originalName)) := by
    rw [hplace]
    exact List.suffix_cons _ _
  have hparent : Concerned storage (storage.place (keyOf uuid originalName)).tail := by
    rw [hplace]
    exact .inl (List.suffix_refl _)
  have hways : ∀ place ∈ storage.ways, place <:+ storage.directory := fun _ => ways_above hroot
  have hconcerned : ∀ place ∈ storage.ways, Concerned storage place := fun place hmem => .inr (hways place hmem)
  have hagree := h.mkdir hconcerned
  have hconfined : Confined storage disk (disk.mkdir storage.ways) := confined_mkdir hways
  unfold save
  dsimp only
  rw [h.any_isFile hconcerned, hagree.reaches hin]
  split
  · exact ⟨rfl, .refl, h⟩
  · split
    · exact ⟨rfl, hconfined, hagree⟩
    · obtain ⟨hwrite, hotherWrite⟩ | ⟨written, otherWritten, hwrite, hotherWrite, hwritten, hagree'⟩ :=
        (alike_writeFile hagree hin hparent buffer).eq_none_or_some
      · simp only [hwrite, hotherWrite]
        exact ⟨trivial, hconfined, hagree⟩
      · simp only [hwrite, hotherWrite]
        exact ⟨trivial, hconfined.trans hwritten, hagree'⟩

-- One call gives the same answer on disks that agree.
theorem perform_alike (hroot : normalize storage.root = storage.root) (h : Agree storage disk other)
    (call : StorageCall Buffer) :
    (perform storage disk call).1 = (perform storage other call).1 ∧
      Confined storage disk (perform storage disk call).2 ∧
      Agree storage (perform storage disk call).2 (perform storage other call).2 := by
  cases call with
  | save buffer originalName uuid =>
      obtain ⟨hresult, hconfined, hagree⟩ := perform_save hroot h buffer originalName uuid
      exact ⟨congrArg Answer.saved hresult, hconfined, hagree⟩
  | «exists» storagePath =>
      refine ⟨congrArg Answer.found ?_, .refl, h⟩
      unfold «exists»
      split
      · rfl
      · rename_i key hsafe
        rw [h _ (.inl (inside_of_safe hsafe)), h.reaches (inside_of_safe hsafe)]
  | readStream storagePath =>
      refine ⟨congrArg Answer.read ?_, .refl, h⟩
      unfold readStream
      cases hsafe : assertSafeKey storagePath with
      | error _ => rfl
      | ok key => simp only [bind, Except.bind, readFile_congr h (inside_of_safe hsafe), h.reaches (inside_of_safe hsafe)]
  | delete storagePath =>
      simp only [perform, delete]
      cases hsafe : assertSafeKey storagePath with
      | error _ => exact ⟨rfl, .refl, h⟩
      | ok key =>
          simp only [bind, Except.bind, h.reaches (inside_of_safe hsafe)]
          cases storage.reaches other key with
          | false => exact ⟨rfl, .refl, h⟩
          | true =>
              obtain ⟨hrm, hother⟩ | ⟨removed, otherRemoved, hrm, hother, hconfined, hagree⟩ :=
                (alike_rm h (inside_of_safe hsafe)).eq_none_or_some
              · simp only [if_true, hrm, hother]
                exact ⟨trivial, .refl, h⟩
              · simp only [if_true, hrm, hother]
                exact ⟨trivial, hconfined, hagree⟩

-- Whatever keys it is given, the storage changes nothing outside its directory, and what
-- it answers does not depend on anything there.
theorem storage_confined (storage : LocalDiskStorage) (hroot : normalize storage.root = storage.root)
    (start other : Disk Buffer) (hagree : Agree storage start other) (calls : List (StorageCall Buffer)) :
    (performAll storage start calls).1 = (performAll storage other calls).1 ∧
      Confined storage start (performAll storage start calls).2 := by
  induction calls generalizing start other with
  | nil => exact ⟨rfl, .refl⟩
  | cons call calls ih =>
      obtain ⟨hanswer, hconfined, hagree'⟩ := perform_alike hroot hagree call
      obtain ⟨hanswers, hlater⟩ := ih _ _ hagree'
      exact ⟨congrArg₂ List.cons hanswer hanswers, hconfined.trans hlater⟩

section Examples

def srvStorage : LocalDiskStorage where
  root := "/srv".toList
  cwd := []
  refuses path := path.contains '\x00'

-- A disk with one file beside the storage's directory.
def besideDisk (content : Nat) : Disk Nat :=
  Function.update (Function.update (fun _ => none) [] (some .directory)) ["secret".toList] (some (.file content))

theorem besideDisk_agree : Agree srvStorage (besideDisk 1) (besideDisk 2) := by
  intro place hconcerned
  have hne : place ≠ ["secret".toList] := by
    rintro rfl
    exact absurd hconcerned (by unfold Concerned Inside; decide)
  rw [besideDisk, besideDisk, Function.update_of_ne hne, Function.update_of_ne hne]

theorem besideDisk_unread :
    (performAll srvStorage (besideDisk 1) [.readStream "a/../../secret".toList, .exists "secret".toList]).1 =
      (performAll srvStorage (besideDisk 2) [.readStream "a/../../secret".toList, .exists "secret".toList]).1 :=
  (storage_confined srvStorage (by decide) _ _ besideDisk_agree _).1

end Examples

end Calls

end CloudOps.Ticketing.ObjectStorage
