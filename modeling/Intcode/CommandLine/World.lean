import Intcode.CommandLine.Arguments
import Intcode.CommandLine.Execution
import Intcode.Console.Terminal
import Intcode.FileSystem.Tree

/-!
# Worlds

A world is a tree of files and a terminal, as a value.  Executing a command in a world shows all
that the command does: what it prints, what it changes, and how it ends.
-/

namespace Intcode

structure World where
  tree : Tree
  terminal : Terminal

namespace World

def onTree {α : Type} (action : StateM Tree α) : StateM World α :=
  modifyGet fun world =>
    let (answer, tree) := action.run world.tree
    (answer, { world with tree })

def onTerminal {α : Type} (action : StateM Terminal α) : StateM World α :=
  modifyGet fun world =>
    let (answer, terminal) := action.run world.terminal
    (answer, { world with terminal })

def host : Host (StateM World) where
  files :=
    { read := fun path => onTree (Tree.fileSystem.read path)
      write := fun path bytes => onTree (Tree.fileSystem.write path bytes)
      makeDirectory := fun path => onTree (Tree.fileSystem.makeDirectory path)
      isDirectory := fun path => onTree (Tree.fileSystem.isDirectory path) }
  console :=
    { readLine := onTerminal Terminal.console.readLine
      write := fun text => onTerminal (Terminal.console.write text) }

end World

end Intcode
