import TextDesk.Grammar
import TextDesk.Words

/-! # Commands

The commands as typed values: how a command is written as a line, and how it is made from the
captures of a line.
-/

namespace TextDesk

/-- A command on the texts of the desk. -/
inductive Command where
  /-- Create or replace a text; without data, the data is asked for. -/
  | input (name : String) (data : Option String)
  /-- Break a text into lines behind separators. -/
  | format (name : String) (separators : Option (List String))
  /-- Place a cursor in the text that `target` refers to. -/
  | cursor (name target : String) (start : Destination) (ahead : Bool) (stop : Destination)
  /-- Append the text `source` to the text `target`. -/
  | send (source target : String)
  /-- Print one text, those that fit a name pattern, or all. -/
  | print (name : Option String)
  deriving DecidableEq, Repr

namespace Command

/-- The kind of a command. -/
def kind : Command → Kind
  | input .. => .input
  | format .. => .format
  | cursor .. => .cursor
  | send .. => .send
  | print .. => .print

/-- The mark of a direction. -/
def directionMark (ahead : Bool) : String := if ahead then forwardMark else backwardMark

/-- The command as a line. -/
def render : Command → String
  | input name none => "input " ++ name
  | input name (some data) => "input " ++ name ++ " " ++ data
  | format name none => "format " ++ name
  | format name (some separators) => "format " ++ name ++ " " ++ String.join separators
  | cursor name target start ahead stop =>
    "cursor " ++ name ++ " " ++ target ++ " " ++ start.render ++ " " ++ directionMark ahead ++ " "
      ++ stop.render
  | send source target => "send " ++ source ++ " " ++ target
  | print none => "print"
  | print (some name) => "print " ++ name

/-- The command of a kind with the given captures, unless a required one is missing. -/
def ofCaptures? (kind : Kind) (captures : List (Option String)) : Option Command :=
  let capture? (i : Nat) : Option String := captures[i]?.join
  match kind with
  | .input => do
    let name ← capture? 0
    return .input name (capture? 1)
  | .format => do
    let name ← capture? 0
    return .format name ((capture? 1).map fun run => run.toList.map String.singleton)
  | .cursor => do
    let name ← capture? 0
    let target ← capture? 1
    let start ← capture? 2
    let mark ← capture? 3
    let stop ← capture? 4
    return .cursor name target (.ofToken start) (mark == forwardMark) (.ofToken stop)
  | .send => do
    let source ← capture? 0
    let target ← capture? 1
    return .send source target
  | .print => some (.print (capture? 0))
  | .quit => none

end Command

namespace CommandSet

/-- Whether a line ends the session: it has the form of the first grammar of that kind. -/
def isQuit (set : CommandSet) (line : String) : Bool :=
  (set.get? .quit).any (·.recognizes (normalize line))

/-- The command that a line gives: that of the first grammar whose form the line has and whose
required captures are there. -/
def command? (set : CommandSet) (line : String) : Option Command :=
  set.grammars.findSome? fun g =>
    (g.captures? (normalize line)).bind (Command.ofCaptures? g.kind)

end CommandSet

end TextDesk
