import Intcode.Console.Basic
import Intcode.Host.Bytes
import Intcode.Text.Trim

/-!
# Terminals

A terminal reads lines from a stream of bytes.  A line reaches up to and including the next line
feed, or to the end of the stream.  Each line is decoded by itself, so one that is no text is
skipped whole and does not disturb those behind it.
-/

namespace Intcode

/-- The bytes still to be read, and the text written so far. -/
structure Terminal where
  input : List UInt8
  written : String

namespace Terminal

def lineFeed : UInt8 :=
  10

/-- A stream cut behind its first line feed. -/
def cutLine : List UInt8 → List UInt8 × List UInt8
  | [] => ([], [])
  | byte :: rest =>
      if byte = lineFeed then
        ([byte], rest)
      else
        let (line, behind) := cutLine rest
        (byte :: line, behind)

def isLineEnd (char : Char) : Bool :=
  char == '\r' || char == '\n'

def lineText (line : List UInt8) : Except HostError String :=
  (readText ⟨line.toArray⟩).map fun text => String.ofList (Text.trimEnd isLineEnd text.toList)

/-- Read a line.  At the end of the stream there is none. -/
def readLine (terminal : Terminal) : Except HostError (Option String) × Terminal :=
  match terminal.input with
  | [] => (.ok none, terminal)
  | input =>
      let (line, behind) := cutLine input
      ((lineText line).map some, { terminal with input := behind })

def write (terminal : Terminal) (text : String) : Terminal :=
  { terminal with written := terminal.written ++ text }

def console : Console (StateM Terminal) where
  readLine := modifyGet readLine
  write text := modifyGet fun terminal => (.ok (), terminal.write text)

end Terminal

end Intcode
