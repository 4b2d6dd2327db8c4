import RequestCredentials.Declaration.Acceptance
import RequestCredentials.Encoding.Utf8
import RequestCredentials.Json.Reader
/-
  Declaration files

  Files and directories lie at places: a place is the list of names that lead to
  it from the topmost directory. A path is given in its shortest form, without
  empty parts and without parts that name the directory they stand in. It is
  followed part by part, from the working directory or, if it starts with a
  slash, from the topmost one; two dots lead out of a directory.

  A path may start with a tilde and the name of a user, or with a tilde alone.
  Before the file is looked for, the home directory of that user, or of the
  reader, takes their place. A home that is not known ends the load.

  A declaration file is UTF-8 text with any of the usual line ends. What keeps
  it from being loaded is a refusal of the declaration, except where the home is
  not known, its path or its bytes are not text, or it holds a number with too
  many digits.
-/

namespace RequestCredentials

/-! ## Paths -/

/-- The parts of a path that name something. -/
def pathParts (path : Text) : List Text :=
  (path.splitOn '/').filter fun part => part ≠ [] ∧ part ≠ "."

/-- The slashes that make a path absolute; exactly two are kept apart from one. -/
def pathRoot (path : Text) : Text :=
  match (path.takeWhile (· = CodePoint.ofChar '/')).length with
  | 0 => []
  | 2 => "//"
  | _ => "/"

/-- The shortest path with these parts. -/
def shortPath (root : Text) (parts : List Text) : Text :=
  let short := root ++ Text.join "/" parts
  if short = [] then "." else short

/-- The shortest form of a path. -/
def normalizePath (path : Text) : Text := shortPath (pathRoot path) (pathParts path)

/-- The last part of a path. -/
def pathName (path : Text) : Text := (pathParts path).getLast?.getD []

/-- The user in whose home directory a path starts; the reader has the empty name. -/
def homeOwner? (path : Text) : Option Text :=
  match pathRoot path, pathParts path with
  | [], (c :: owner) :: _ => if c = '~' then some owner else none
  | _, _ => none

/-! ## Texts for the system -/

/-- Why a text cannot be handed to the system. -/
inductive SystemTextFault where
  | unencodable (fault : EncodeFault)
  | nul
  deriving DecidableEq

def SystemTextFault.message : SystemTextFault → Text
  | unencodable fault => fault.message
  | nul => "embedded null byte"

/-- The bytes that the system is given for a text; a NUL would end them. -/
def systemText (s : Text) : Except SystemTextFault Bytes := do
  let bytes ← (Utf8.encodeEscaped s).mapError .unencodable
  if bytes.contains 0 then throw .nul
  return bytes

/-! ## Files -/

/-- The names that lead to a place from the topmost directory. -/
abbrev Place := List Bytes

/-- The directories on the way to a place. -/
def Place.ancestors (place : Place) : List Place :=
  (List.range place.length).map fun n => place.take n

/-- The place to which a part of a path leads. -/
def Place.next (place : Place) (part : Text) : Place :=
  if part = ".." then place.dropLast else place ++ [Utf8.unescape part]

/-- What is at a place. -/
inductive FileEntry where
  | directory
  | file (content : Bytes)
  deriving DecidableEq

/-- Files and directories, and where the paths to them start. -/
structure Files where
  /-- The working directory. -/
  current : Place
  /-- The path of a user's home directory; the reader has the empty name. -/
  home? : Text → Option Text
  entries : List (Place × FileEntry)

/-- The number of bytes that the name of a file may have. -/
def nameLimit : Nat := 255

/-- The number of bytes that a path may not reach. -/
def pathLimit : Nat := 4096

namespace Files

/-- The topmost directory, nothing in it, and no homes. -/
def empty : Files := ⟨[], fun _ => none, []⟩

/-- What is at a place. -/
def entryAt? (files : Files) (place : Place) : Option FileEntry :=
  if place = [] then some .directory else (files.entries.find? (·.1 = place)).map (·.2)

/-- The place at which a path starts. -/
def origin (files : Files) (path : Text) : Place := if pathRoot path = [] then files.current else []

/-- The place to which a path leads. -/
def placeOf (files : Files) (path : Text) : Place :=
  (pathParts path).foldl Place.next (files.origin path)

/-- No file can be put at a place where a directory is, nor below a file. -/
def isBlocked (files : Files) (place : Place) : Bool :=
  files.entryAt? place = some .directory || place.ancestors.any fun above =>
    match files.entryAt? above with
    | some (.file _) => true
    | _ => false

/-- The files with one written, and the directories on the way to it, or with one removed when
there is no content. Where no file can be, nothing changes. -/
def write (files : Files) (path : Text) (content : Option Bytes) : Files :=
  let place := files.placeOf path
  let others := files.entries.filter (·.1 ≠ place)
  if files.isBlocked place then files
  else match content with
    | some bytes =>
      let above := place.ancestors.map fun directory => (directory, FileEntry.directory)
      { files with entries := (place, .file bytes) :: above ++ others }
    | none => { files with entries := others }

/-- Follows the parts of a path from a directory. -/
def follow (files : Files) (directory : Place) : List Text → Except FileFault Bytes
  | [] => .error .isDirectory
  | part :: rest =>
    if part = ".." then files.follow directory.dropLast rest
    else
      let name := Utf8.unescape part
      if nameLimit < name.length then .error .nameTooLong
      else match files.entryAt? (directory ++ [name]) with
        | none => .error .notFound
        | some .directory => files.follow (directory ++ [name]) rest
        | some (.file content) => if rest = [] then .ok content else .error .notDirectory

end Files

/-! ## Loading -/

/-- Why a file is not loaded. -/
inductive LoadFault where
  | refused (refusal : Refusal)
  /-- The home directory in which the path starts is not known. -/
  | noHome
  | badPath (fault : SystemTextFault)
  | notText (fault : DecodeFault)
  | tooManyDigits (count : Nat)

def LoadFault.message : LoadFault → Text
  | refused refusal => refusal.message
  | noHome => "Could not determine home directory."
  | badPath fault => fault.message
  | notText fault => fault.message
  | tooManyDigits count => digitLimitMessage count

namespace Files

/-- The path of a user's home directory. A path that starts with a tilde again is none. -/
def homePath? (files : Files) (owner : Text) : Option Text :=
  (files.home? owner).bind fun home =>
    if home.head? = some (CodePoint.ofChar '~') then none
    else if home.all (· = CodePoint.ofChar '/') then some "/"
    else some home

/-- The shortest form of a path, with the home directory in which it starts if it starts in one. -/
def expandHome (files : Files) (path : Text) : Except LoadFault Text :=
  match homeOwner? path with
  | none => .ok (normalizePath path)
  | some owner => do
    let _ ← (systemText owner).mapError .badPath
    match files.homePath? owner with
    | none => throw .noHome
    | some home => return shortPath (pathRoot home) (pathParts home ++ (pathParts path).tail)

/-- The content of a file, by the shortest form of its path. -/
def read (files : Files) (path : Text) : Except LoadFault Bytes := do
  let bytes ← (systemText path).mapError .badPath
  let found : Except FileFault Bytes :=
    if pathLimit ≤ bytes.length then .error .nameTooLong
    else files.follow (files.origin path) (pathParts path)
  found.mapError fun fault => .refused (.unreadable path fault)

end Files

/-- The text with a line feed for every line end. -/
def unifyLineEnds : Text → Text
  | [] => []
  | c :: rest =>
    if c ≠ '\r' then c :: unifyLineEnds rest
    else if rest.head? = some (CodePoint.ofChar '\n') then unifyLineEnds rest
    else CodePoint.ofChar '\n' :: unifyLineEnds rest

/-- The document in a file with that content; the path names the file in refusals. -/
def documentIn (path : Text) (content : Bytes) : Except LoadFault Json := do
  let text ← (Utf8.decode content).mapError LoadFault.notText
  match Json.readFile (unifyLineEnds text) with
  | .ok document => return document.merged
  | .error (.malformed cause place) => throw (.refused (.notJson path cause place))
  | .error (.tooManyDigits count) => throw (.tooManyDigits count)

/-- The credentials that a file with that content declares. -/
def declaredIn (path : Text) (content : Bytes) : Except LoadFault (List Credential) := do
  let document ← documentIn path content
  (acceptCredentials (pathName path) document).mapError LoadFault.refused

/-- The credentials that a file declares. -/
def Files.load (files : Files) (path : Text) : Except LoadFault (List Credential) := do
  let path ← files.expandHome path
  declaredIn path (← files.read path)

end RequestCredentials
