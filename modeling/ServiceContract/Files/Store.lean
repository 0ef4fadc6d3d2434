import ServiceContract.Files.Path

/-!
# File stores

A store holds files and folders, each under the names that lead to it from the root, and the
current folder, from which a path without a leading slash starts. A file holds bytes, which are
text or not.

* `Store.read`, `Store.has`: what a path leads to.
* `Store.createFolders`, `Store.write`: the store with folders or a file more.
* `Store.changes`: what became of a store.
-/

namespace ServiceContract.Files

/-- Why a path cannot be used. -/
inductive StoreError where
  | notFound
  | notADirectory
  | isADirectory
  | alreadyExists
  | invalidInput
  | invalidFilename
  | invalidData
  deriving DecidableEq, Repr, Inhabited

/-- The name of an error. -/
def StoreError.label : StoreError → String
  | .notFound => "NotFound"
  | .notADirectory => "NotADirectory"
  | .isADirectory => "IsADirectory"
  | .alreadyExists => "AlreadyExists"
  | .invalidInput => "InvalidInput"
  | .invalidFilename => "InvalidFilename"
  | .invalidData => "InvalidData"

/-- Files with their contents, folders, and the folder where relative paths start. -/
structure Store where
  files : List (List String × ByteArray) := []
  folders : List (List String) := []
  current : List String := []
  deriving Inhabited

/-- What names lead to. -/
inductive Spot where
  | folder (names : List String)
  | file (names : List String) (content : ByteArray)
  | vacant (names : List String)
  deriving Inhabited

namespace Store

/-- The content of a file. -/
def content? (s : Store) (names : List String) : Option ByteArray :=
  (s.files.find? (·.1 == names)).map (·.2)

/-- Whether a folder is there. The root always is. -/
def hasFolder (s : Store) (names : List String) : Bool :=
  names.isEmpty || s.folders.contains names

/-- What names lead to. -/
def spotOf (s : Store) (names : List String) : Spot :=
  match s.content? names with
  | some content => .file names content
  | none => if s.hasFolder names then .folder names else .vacant names

/-- The most bytes of a name. -/
def maxNameSize : Nat := 255

/-- The bytes from which on a path is too long. -/
def pathSizeLimit : Nat := 4096

/-- Goes on by a name. Only a folder leads on, and above the root is the root. -/
def step (s : Store) (spot : Spot) (name : String) : Except StoreError Spot :=
  match spot with
  | .file _ _ => .error .notADirectory
  | .vacant _ => .error .notFound
  | .folder names =>
    if name.isEmpty || name == "." then .ok spot
    else if name == ".." then .ok (.folder names.dropLast)
    else if name.utf8ByteSize > maxNameSize then .error .invalidFilename
    else .ok (s.spotOf (names ++ [name]))

/-- What a path leads to. -/
def locate (s : Store) (path : String) : Except StoreError Spot :=
  if path.isEmpty then .error .notFound
  else if path.contains '\x00' then .error .invalidInput
  else if path.utf8ByteSize ≥ pathSizeLimit then .error .invalidFilename
  else (Path.names path).foldlM s.step (.folder (if path.startsWith "/" then [] else s.current))

/-- The text of a file. -/
def read (s : Store) (path : String) : Except StoreError String := do
  match ← s.locate path with
  | .file _ content =>
    match String.fromUTF8? content with
    | some text => .ok text
    | none => .error .invalidData
  | .folder _ => .error .isADirectory
  | .vacant _ => .error .notFound

/-- Whether a path leads to a file or folder. -/
def has (s : Store) (path : String) : Bool :=
  match s.locate path with
  | .ok (.file _ _) | .ok (.folder _) => true
  | _ => false

/-- Whether a path leads to a folder. -/
def isFolder (s : Store) (path : String) : Bool :=
  match s.locate path with
  | .ok (.folder _) => true
  | _ => false

/-- The store with a folder more, at a path that may end in slashes. -/
def createFolder (s : Store) (path : String) : Except StoreError Store := do
  let bare := String.ofList (path.toList.reverse.dropWhile (· == '/')).reverse
  match ← s.locate (if bare.isEmpty then path else bare) with
  | .vacant names => .ok { s with folders := s.folders ++ [names] }
  | _ => .error .alreadyExists

/-- The store with a folder and those above it, at most `fuel` of them. -/
def createFoldersWithin : (fuel : Nat) → Store → String → Except StoreError Store
  | 0, _, _ => .error .notFound
  | fuel + 1, s, path =>
    if path.isEmpty then .ok s
    else match s.createFolder path with
      | .ok s => .ok s
      | .error .notFound =>
        match Path.parent? path with
        | none => .error .notFound
        | some parent => do
          let s ← createFoldersWithin fuel s parent
          match s.createFolder path with
          | .ok s => .ok s
          | .error e => if s.isFolder path then .ok s else .error e
      | .error e => if s.isFolder path then .ok s else .error e

/-- The store with a folder and those above it. The path above another is shorter. -/
def createFolders (s : Store) (path : String) : Except StoreError Store :=
  createFoldersWithin (path.length + 1) s path

/-- The store with a file of some text, in place of an older one. -/
def write (s : Store) (path text : String) : Except StoreError Store := do
  match ← s.locate path with
  | .file names _ =>
    .ok { s with files := s.files.map fun f => if f.1 == names then (names, text.toUTF8) else f }
  | .vacant names => .ok { s with files := s.files ++ [(names, text.toUTF8)] }
  | .folder _ => .error .isADirectory

/-- The folders that names lead through. -/
def foldersOf (names : List String) : List (List String) :=
  (List.range names.length).map names.take

/-- The store of some texts under the current folder, with their folders. -/
def ofFiles (current : List String) (files : List (String × String)) : Store :=
  let named := files.map fun (path, text) => (current ++ Path.names path, text.toUTF8)
  ⟨named, (foldersOf current ++ [current] ++ named.flatMap fun f => foldersOf f.1).eraseDups,
    current⟩

/-- The texts of a store that an older one lacks or has with other contents, by their names. -/
def changes (old new : Store) : List (List String × String) :=
  (new.files.filter fun f => old.content? f.1 != some f.2).filterMap fun (names, content) =>
    (String.fromUTF8? content).map (names, ·)

/-- The path of names that lead through the current folder, from there. -/
def relative? (s : Store) (names : List String) : Option String :=
  if s.current.isPrefixOf names then
    some ("/".intercalate (names.drop s.current.length))
  else none

end Store

end ServiceContract.Files
