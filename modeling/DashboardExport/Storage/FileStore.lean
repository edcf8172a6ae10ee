import DashboardExport.Storage.Path
import DashboardExport.Text.Literal
import DashboardExport.Text.Surrogate

/-!
# The file store

What a run reads and writes: files and directories under absolute locations, and
the location that relative paths start from.  A path is resolved part by part; a
part can only be entered from a directory that exists, so a wrong path fails in
the way the first wrong part fails.

A file is written in two steps.  Opening it makes it, or empties it; then its contents
are put into it, unless the device breaks that off.  What the device does is part of the
store (`Hindrance`), and so are the home directories that the system knows.

Each step changes the store at one location only (`find?_put`).
-/

set_option autoImplicit false

namespace DashboardExport.Storage

/-- An absolute location: the parts from the root on. -/
abbrev Location := List String

inductive Stored where
  | file (contents : List UInt8)
  | directory
  deriving DecidableEq

/-- A fault of the device that files are on, or of the rights to it. -/
inductive DeviceFault where
  | notPermitted
  | readOnly
  | noSpace
  | quotaExceeded
  | inputOutput
  deriving DecidableEq

/-- The number of a fault. -/
def DeviceFault.number : DeviceFault → Nat
  | .notPermitted => 13
  | .readOnly => 30
  | .noSpace => 28
  | .quotaExceeded => 122
  | .inputOutput => 5

def DeviceFault.text : DeviceFault → String
  | .notPermitted => "Permission denied"
  | .readOnly => "Read-only file system"
  | .noSpace => "No space left on device"
  | .quotaExceeded => "Disk quota exceeded"
  | .inputOutput => "Input/output error"

/-- The words of the system for a fault of the device. -/
def DeviceFault.message (fault : DeviceFault) : String :=
  "[Errno " ++ toString fault.number ++ "] " ++ fault.text

/-- Why the system refuses an operation. -/
inductive SystemFault where
  | notFound
  | exists
  | notDirectory
  | isDirectory
  | nameTooLong
  | device (fault : DeviceFault)
  /-- A path holds the character that ends texts in the system, so it is no path. -/
  | nulInPath
  /-- A path holds a lone surrogate that no name of the system has. -/
  | unencodable (fault : Text.Unencodable)
  deriving DecidableEq

/-- A refused operation with the path it was asked for. -/
structure SystemError where
  fault : SystemFault
  path : Path
  deriving DecidableEq

/-- The number of a fault. -/
def SystemFault.number : SystemFault → Nat
  | .notFound => 2
  | .exists => 17
  | .notDirectory => 20
  | .isDirectory => 21
  | .nameTooLong => 36
  | .device fault => fault.number
  | .nulInPath => 22
  | .unencodable _ => 22

def SystemFault.text : SystemFault → String
  | .notFound => "No such file or directory"
  | .exists => "File exists"
  | .notDirectory => "Not a directory"
  | .isDirectory => "Is a directory"
  | .nameTooLong => "File name too long"
  | .device fault => fault.text
  | .nulInPath => "embedded null byte"
  | .unencodable fault => fault.message

/-- Whether the system itself reports a fault. -/
def SystemFault.fromSystem : SystemFault → Bool
  | .nulInPath => false
  | .unencodable _ => false
  | _ => true

/-- The words of the system for a refused operation. -/
def SystemError.message (error : SystemError) : String :=
  if error.fault.fromSystem then
    "[Errno " ++ toString error.fault.number ++ "] " ++ error.fault.text ++ ": " ++
      Text.literal error.path.text
  else error.fault.text

/-- What the device does to the writing at a location, whatever stands there. -/
inductive Hindrance where
  /-- No directory can be made, and no file can be opened to be written. -/
  | refused (fault : DeviceFault)
  /-- A file can be opened, but its writing is broken off, and so many bytes are kept. -/
  | brokenOff (fault : DeviceFault) (kept : Nat)
  deriving DecidableEq

/-- The home directories that the system knows. -/
structure Homes where
  /-- The one of the user that the program runs for. -/
  own? : Option String := none
  /-- Those of users by their names. -/
  byName : List (String × String) := []
  deriving DecidableEq

/-- Files and directories by their locations, what the device does to writing, and the home
directories that the system knows. -/
structure FileStore where
  entries : List (Location × Stored)
  workingDirectory : Location
  hindrances : List (Location × Hindrance) := []
  homes : Homes := {}
  deriving DecidableEq

namespace FileStore

/-- What stands at a location.  The root is always a directory. -/
def find? (store : FileStore) : Location → Option Stored
  | [] => some .directory
  | location => store.entries.lookup location

/-- Puts an entry into an association list, in place of the one at the same location. -/
def putEntry (location : Location) (entry : Stored) :
    List (Location × Stored) → List (Location × Stored)
  | [] => [(location, entry)]
  | (other, old) :: rest =>
    if other == location then (location, entry) :: rest
    else (other, old) :: putEntry location entry rest

/-- The store with another entry at one location. -/
def put (store : FileStore) (location : Location) (entry : Stored) : FileStore :=
  { store with entries := putEntry location entry store.entries }

theorem lookup_putEntry (location other : Location) (entry : Stored)
    (entries : List (Location × Stored)) :
    (putEntry location entry entries).lookup other =
      if other = location then some entry else entries.lookup other := by
  induction entries with
  | nil =>
    by_cases h : other = location
    · simp [putEntry, h]
    · have h' : (other == location) = false := by simp [h]
      simp [putEntry, h, List.lookup_cons, h']
  | cons head rest ih =>
    obtain ⟨here, old⟩ := head
    by_cases hereEq : here = location
    · subst hereEq
      by_cases h : other = here
      · simp [putEntry, h]
      · have h' : (other == here) = false := by simp [h]
        simp [putEntry, List.lookup_cons, h, h']
    · by_cases h : other = here
      · subst h
        simp [putEntry, hereEq]
      · have h' : (other == here) = false := by simp [h]
        simp [putEntry, hereEq, List.lookup_cons, h', ih]

/-- **Putting an entry changes the store at its own location only.** -/
theorem find?_put (store : FileStore) {location : Location} (h : location ≠ [])
    (other : Location) (entry : Stored) :
    (store.put location entry).find? other =
      if other = location then some entry else store.find? other := by
  cases other with
  | nil => simp [find?, Ne.symm h]
  | cons part rest => simp [find?, put, lookup_putEntry]

/-! ## Resolving paths -/

/-- The longest name a directory entry can have, in bytes. -/
def nameLimit : Nat := 255

/-- The longest path the system takes, in bytes. -/
def pathLimit : Nat := 4095

/-- Whether a location is a directory that can be entered. -/
def enter (store : FileStore) (location : Location) : Except SystemFault Unit :=
  match store.find? location with
  | some .directory => .ok ()
  | some (.file _) => .error .notDirectory
  | none => .error .notFound

/-- The location that parts lead to from another one. -/
def walk (store : FileStore) : Location → List String → Except SystemFault Location
  | location, [] => .ok location
  | location, part :: rest =>
    match store.enter location with
    | .error fault => .error fault
    | .ok () =>
      if part == ".." then walk store location.dropLast rest
      else if nameLimit < part.utf8ByteSize then .error .nameTooLong
      else walk store (location ++ [part]) rest

/-- The location of a path. -/
def resolve (store : FileStore) (path : Path) : Except SystemFault Location :=
  match Text.unencodable? Text.isUnnameable path.text.toList with
  | some fault => .error (.unencodable fault)
  | none =>
    if path.parts.any fun part => part.toList.contains (Char.ofNat 0) then .error .nulInPath
    else if pathLimit < path.text.utf8ByteSize then .error .nameTooLong
    else
      match path.anchor with
      | .workingDirectory => store.walk store.workingDirectory path.parts
      | _ => store.walk [] path.parts

/-- What a path leads to. -/
def at? (store : FileStore) (path : Path) : Option Stored :=
  match store.resolve path with
  | .ok location => store.find? location
  | .error _ => none

def isFile (store : FileStore) (path : Path) : Bool :=
  match store.at? path with
  | some (.file _) => true
  | _ => false

/-- Whether there is a file at a path, or the fault of a path that is too long to be looked up. -/
def checkFile (store : FileStore) (path : Path) : Except SystemError Bool :=
  match store.resolve path with
  | .error .nameTooLong => .error ⟨.nameTooLong, path⟩
  | _ => .ok (store.isFile path)

def isDirectory (store : FileStore) (path : Path) : Bool :=
  match store.at? path with
  | some .directory => true
  | _ => false

/-! ## Operations -/

/-- The contents of a file. -/
def read (store : FileStore) (path : Path) : Except SystemError (List UInt8) :=
  match store.resolve path with
  | .error fault => .error ⟨fault, path⟩
  | .ok location =>
    match store.find? location with
    | some (.file contents) => .ok contents
    | some .directory => .error ⟨.isDirectory, path⟩
    | none => .error ⟨.notFound, path⟩

/-- Whether the device lets a directory be made or a file be opened at a location. -/
def permitted (store : FileStore) (location : Location) : Except SystemFault Unit :=
  match store.hindrances.lookup location with
  | some (.refused fault) => .error (.device fault)
  | _ => .ok ()

/-- Whether a file can be opened to be written at a location.  If it is not there, its directory has
to exist. -/
def writable (store : FileStore) (location : Location) : Except SystemFault Unit :=
  match store.find? location with
  | some .directory => .error .isDirectory
  | some (.file _) => store.permitted location
  | none =>
    match store.enter location.dropLast with
    | .error fault => .error fault
    | .ok () => store.permitted location

/-- The store after opening a file to write it, with its location: the file is there, and it is
empty. -/
def openFile (store : FileStore) (path : Path) : Except SystemError (FileStore × Location) :=
  match store.resolve path with
  | .error fault => .error ⟨fault, path⟩
  | .ok location =>
    match store.writable location with
    | .error fault => .error ⟨fault, path⟩
    | .ok () => .ok (store.put location (.file []), location)

/-- The fault that breaks off the writing at a location, with the number of bytes that are kept. -/
def breakOff? (store : FileStore) (location : Location) : Option (DeviceFault × Nat) :=
  match store.hindrances.lookup location with
  | some (.brokenOff fault kept) => some (fault, kept)
  | _ => none

/-- The store after contents are put into a file that is open, with the fault if this is broken
off. -/
def fill (store : FileStore) (location : Location) (contents : List UInt8) :
    FileStore × Option DeviceFault :=
  match store.breakOff? location with
  | some (fault, kept) => (store.put location (.file (contents.take kept)), some fault)
  | none => (store.put location (.file contents), none)

/-- The store after making one directory, where nothing may stand yet. -/
def makeDirectory (store : FileStore) (path : Path) : Except SystemError FileStore :=
  match store.resolve path with
  | .error fault => .error ⟨fault, path⟩
  | .ok location =>
    match store.find? location with
    | some _ => .error ⟨.exists, path⟩
    | none =>
      match store.enter location.dropLast, store.permitted location with
      | .error fault, _ => .error ⟨fault, path⟩
      | .ok (), .error fault => .error ⟨fault, path⟩
      | .ok (), .ok () => .ok (store.put location .directory)

/-- Makes one directory, where a directory may stand already. -/
def ensureDirectory (store : FileStore) (path : Path) : FileStore × Option SystemError :=
  match store.makeDirectory path with
  | .ok made => (made, none)
  | .error error => if store.isDirectory path then (store, none) else (store, some error)

/-- Makes a directory and, from the outside in, the directories above it that are missing.  The
parts are given in reverse. -/
def ensureAll (store : FileStore) (anchor : Anchor) :
    List String → FileStore × Option SystemError
  | [] => store.ensureDirectory ⟨anchor, []⟩
  | part :: above =>
    let path : Path := ⟨anchor, (part :: above).reverse⟩
    match store.makeDirectory path with
    | .ok made => (made, none)
    | .error error =>
      if error.fault = .notFound then
        match store.ensureAll anchor above with
        | (made, none) => made.ensureDirectory path
        | (made, some error) => (made, some error)
      else if store.isDirectory path then (store, none)
      else (store, some error)

/-- Makes a directory with the directories above it, unless it is there. -/
def ensureDirectories (store : FileStore) (path : Path) : FileStore × Option SystemError :=
  store.ensureAll path.anchor path.parts.reverse

end FileStore

end DashboardExport.Storage
