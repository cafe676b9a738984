import Chip8.Memory.Program

set_option autoImplicit false

namespace Chip8.CommandLine

inductive FileNode where
  | directory
  | file (deliveries : List Memory.Delivery)
deriving DecidableEq, Repr

-- What the reads of an opened node deliver. A directory opens, but no read of it succeeds.
def FileNode.deliveries : FileNode → List Memory.Delivery
  | directory => [.failed (.system .isADirectory)]
  | file deliveries => deliveries

structure FileTree where
  nodes : List (List String × FileNode)
  home : List String
deriving DecidableEq, Repr

namespace FileTree

def nameLimit : Nat := 255

def pathLimit : Nat := 4095

def node? (tree : FileTree) (names : List String) : Option FileNode :=
  if names = [] then some .directory else tree.nodes.lookup names

-- Follow names from the node that other names have led to. The root is above itself.
def follow (tree : FileTree) (place : List String) : List String → Except SystemError FileNode
  | [] =>
      match tree.node? place with
      | some node => .ok node
      | none => .error .notFound
  | name :: rest =>
      match tree.node? place with
      | none => .error .notFound
      | some (.file _) => .error .notADirectory
      | some .directory =>
          match name with
          | "" | "." => follow tree place rest
          | ".." => follow tree place.dropLast rest
          | name =>
              if nameLimit < name.utf8ByteSize then .error .nameTooLong
              else follow tree (place ++ [name]) rest

def openFile (tree : FileTree) (path : String) : Except SystemError (List Memory.Delivery) :=
  if path.isEmpty then .error .notFound
  else if pathLimit < path.utf8ByteSize then .error .nameTooLong
  else
    let place := if path.toList.head? = some '/' then [] else tree.home
    (tree.follow place ((path.toList.splitOn '/').map String.ofList)).map FileNode.deliveries

end FileTree

end Chip8.CommandLine
