/-!
# Obstacles

Why a host cannot open a path as a serial port. A host walks a path step by step from the root or
from the working directory, and the first step that it cannot take decides.
-/

namespace MeterPoll

/-- Why a host cannot open a path as a serial port. -/
inductive Obstacle where
  | missing
  | notDirectory
  | directory
  | forbidden
  | nameTooLong
  | invalid
  | noDevice
  | notTerminal
  deriving DecidableEq, Repr

/-- What a host has at a place. -/
inductive Place where
  | nothing
  | directory
  /-- A file or a device that is not a terminal. -/
  | file
  /-- The terminal of a process that has none. -/
  | terminal
  deriving DecidableEq, Repr

namespace Obstacle

/-- The host's wording of an obstacle. -/
def reason : Obstacle → String
  | missing => "No such file or directory"
  | notDirectory => "Not a directory"
  | directory => "Is a directory"
  | forbidden => "Permission denied"
  | nameTooLong => "File name too long"
  | invalid => "Invalid argument"
  | noDevice => "No such device or address"
  | notTerminal => "Not a typewriter"

/-- What keeps a place from being opened as a serial port. -/
def ofPlace : Place → Obstacle
  | .nothing => missing
  | .directory => directory
  | .file => notTerminal
  | .terminal => noDevice

/-- The most bytes that the name of a file has. -/
def maxName : Nat := 255

/-- The most bytes that a path has. -/
def maxPath : Nat := 4095

/-- The directory around one. The root is in itself, and a list of nothing but two points leads out
of the working directory. -/
def parent (here : List String) : List String :=
  if here = ["/"] then here
  else if here.all (· = "..") then here ++ [".."]
  else here.dropLast

/-- Walks the steps of a path from a place. -/
def walk (place : List String → Place) (here : List String) : List String → Obstacle
  | [] => ofPlace (place here)
  | step :: rest =>
    match place here with
    | .nothing => missing
    | .directory =>
      if step = "" ∨ step = "." then walk place here rest
      else if step = ".." then walk place (parent here) rest
      else if maxName < step.utf8ByteSize then nameTooLong
      else walk place (here ++ [step]) rest
    | _ => notDirectory

/-- What stands in the way of opening a path, where `place` says what the host has at the end of a
list of steps. The first step of a path from the root is a slash. -/
def ofPath (place : List String → Place) (path : String) : Obstacle :=
  if path.contains '\x00' then invalid
  else if path.isEmpty then missing
  else if maxPath < path.utf8ByteSize then nameTooLong
  else walk place (if path.startsWith "/" then ["/"] else []) (path.splitOn "/")

end Obstacle

end MeterPoll
