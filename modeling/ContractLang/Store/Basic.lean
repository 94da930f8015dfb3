import ContractLang.Store.Path

namespace ContractLang

inductive FileError where
  | notFound
  | notDirectory
  | isDirectory
  | nameTooLong
  | zeroCharacter
  deriving DecidableEq, Repr

namespace FileError

/-- The number of the error in the system. A path with a zero character never gets that far. -/
def number? : FileError → Option Nat
  | notFound => some 2
  | notDirectory => some 20
  | isDirectory => some 21
  | nameTooLong => some 36
  | zeroCharacter => none

def reason : FileError → String
  | notFound => "No such file or directory"
  | notDirectory => "Not a directory"
  | isDirectory => "Is a directory"
  | nameTooLong => "File name too long"
  | zeroCharacter => "embedded null byte"

end FileError

/-- A directory from which names lead on: the working directory, one a number of levels above it,
    or the root of all directories. -/
inductive Anchor where
  | here
  | above (levels : Nat)
  | root
  deriving DecidableEq, Repr

structure Location where
  anchor : Anchor
  names : List String
  deriving DecidableEq, Repr

namespace Location

def parent (l : Location) : Location :=
  match l.names, l.anchor with
  | [], .here => ⟨.above 1, []⟩
  | [], .above levels => ⟨.above (levels + 1), []⟩
  | [], .root => l
  | names, _ => ⟨l.anchor, names.dropLast⟩

def step (l : Location) (name : String) : Location :=
  if name = ".." then l.parent else ⟨l.anchor, l.names ++ [name]⟩

def origin (p : Path) : Location := ⟨if p.isAbsolute then .root else .here, []⟩

end Location

inductive Item where
  | file (bytes : List UInt8)
  | directory
  deriving DecidableEq, Repr

/-- The files and directories that are known, each at one location. The anchors, and the
    locations on the way to a known one, are directories too. -/
structure Store where
  items : List (Location × Item)
  deriving DecidableEq, Repr

namespace Store

def empty : Store := ⟨[]⟩

def isOnTheWay (s : Store) (l : Location) : Bool :=
  s.items.any fun (other, _) => other.anchor == l.anchor && l.names.isPrefixOf other.names

def item? (s : Store) (l : Location) : Option Item :=
  match s.items.find? (·.1 == l) with
  | some (_, item) => some item
  | none => if l.names.isEmpty || s.isOnTheWay l then some .directory else none

/-- Follows names from a location. Only a directory leads on, and a name has at most 255 bytes. -/
def follow (s : Store) (l : Location) : List String → Except FileError Location
  | [] => .ok l
  | name :: rest =>
    match s.item? l with
    | some .directory =>
      if name.utf8ByteSize ≤ 255 then s.follow (l.step name) rest else .error .nameTooLong
    | some (.file _) => .error .notDirectory
    | none => .error .notFound

/-- A path has no zero character and at most 4095 bytes. -/
def locate (s : Store) (p : Path) : Except FileError Location :=
  if '\x00' ∈ p.text.toList then .error .zeroCharacter
  else if p.text.utf8ByteSize ≤ 4095 then s.follow (.origin p) p.names
  else .error .nameTooLong

def read (s : Store) (p : Path) : Except FileError (List UInt8) :=
  match s.locate p with
  | .error e => .error e
  | .ok l =>
    match s.item? l with
    | some (.file bytes) => .ok bytes
    | some .directory => .error .isDirectory
    | none => .error .notFound

def put (s : Store) (l : Location) (item : Item) : Store :=
  ⟨(l, item) :: s.items.filter (·.1 != l)⟩

def write (s : Store) (p : Path) (bytes : List UInt8) : Except FileError Store :=
  match s.locate p with
  | .error e => .error e
  | .ok l =>
    match s.item? l with
    | some .directory => .error .isDirectory
    | _ => .ok (s.put l (.file bytes))

/-- The files in and below the working directory that differ from what they were before. -/
def changesSince (s before : Store) : List (Path × List UInt8) :=
  s.items.filterMap fun (l, item) =>
    match item with
    | .file bytes =>
      if l.anchor = .here ∧ before.item? l ≠ some (.file bytes) then some (⟨0, l.names⟩, bytes)
      else none
    | .directory => none

theorem item?_put_self (s : Store) (l : Location) (item : Item) :
    (s.put l item).item? l = some item := by
  simp [put, item?]

end Store
end ContractLang
