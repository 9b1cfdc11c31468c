import RoutingProcessor.Text.Utf8

namespace RoutingProcessor.Files

open Text

inductive Entry where
  | file (content : Octets)
  | directory
  | socket
deriving DecidableEq

-- What lies in a working directory, by the names that lead to it.
structure Directory where
  entries : List (List String × Entry)

-- Why a path leads nowhere. The numbers are those of the system.
def notFound : Int := 2
def noDevice : Int := 6
def alreadyThere : Int := 17
def notDirectory : Int := 20
def isDirectory : Int := 21
def nameTooLong : Int := 36

namespace Directory

-- What a list of names leads to. Whatever holds something is a directory.
def entry? (d : Directory) (names : List String) : Option Entry :=
  if names.isEmpty then some .directory
  else
    match d.entries.lookup names with
    | some entry => some entry
    | none =>
      if d.entries.any fun e => names.isPrefixOf e.1 then some .directory else none

-- Follows names from a place that was reached. A last name may be missing if it is to
-- be created.
def walk (d : Directory) (here : List String) : List String → Except Int (List String)
  | [] => .ok here
  | name :: rest =>
    match d.entry? here with
    | none => .error notFound
    | some .directory =>
      if 255 < name.utf8ByteSize then .error nameTooLong
      else if name = "" || name = "." then walk d here rest
      else if name = ".." then walk d here.dropLast rest
      else walk d (here ++ [name]) rest
    | some _ => .error notDirectory

-- The names that a path stands for. Nothing is known outside the working directory.
def place (d : Directory) (path : String) : Except Int (List String) :=
  if 4096 ≤ path.utf8ByteSize then .error nameTooLong
  else if path.isEmpty || path.startsWith "/" then .error notFound
  else d.walk [] (path.splitOn "/")

-- What a path leads to.
def find (d : Directory) (path : String) : Except Int Entry := do
  match d.entry? (← d.place path) with
  | some entry => return entry
  | none => throw notFound

-- Removes a file or a socket. What held it stays.
def remove (d : Directory) (path : String) : Except Int Directory := do
  let names ← d.place path
  match d.entry? names with
  | none => throw notFound
  | some .directory => throw isDirectory
  | some _ =>
    return ⟨d.entries.filter (!names.isPrefixOf ·.1) ++ [(names.dropLast, .directory)]⟩

-- Puts something where nothing is yet, into a directory that is there.
def create (d : Directory) (path : String) (entry : Entry) : Except Int Directory := do
  let names ← d.place path
  match d.entry? names, d.entry? names.dropLast with
  | some _, _ => throw alreadyThere
  | none, some .directory => return ⟨d.entries ++ [(names, entry)]⟩
  | none, some _ => throw notDirectory
  | none, none => throw notFound

end Directory

end RoutingProcessor.Files
