import DocRunner.Tree.Listing

/-!
# What a run does that can be seen

A run is a row of events: the lines and texts that it prints, those of the tools, and the calls of the tools.
Standard output and standard error are two readings of that row (`stdoutOf`, `stderrOf`), the tools' calls a
third (`callsOf`), and what the tasks themselves report is a fourth (`outOf`).
-/

namespace DocRunner

/-- The variables of an environment. Of two values of one variable the first counts. -/
abbrev Variables := List (String × String)

namespace Variables

/-- The value of a variable. -/
def get? (vars : Variables) (name : String) : Option String :=
  vars.lookup name

/-- Gives a variable a value. -/
def set (vars : Variables) (name value : String) : Variables :=
  (name, value) :: vars.filter (·.1 ≠ name)

/-- Gives variables the values of others, which come later. -/
def setAll (vars news : Variables) : Variables :=
  news.foldl (fun vars v => vars.set v.1 v.2) vars

end Variables

/-- One start of a tool. -/
structure Call where
  tool : String
  directory : Location
  vars : Variables
  arguments : List String

/-- One thing that a run does. -/
inductive Event
  /-- An informational line on standard output. -/
  | note (line : String)
  /-- The echo of a command on standard error. -/
  | echo (command : String)
  /-- A text on standard output. -/
  | print (text : String)
  /-- A text about an error, on standard error. -/
  | complain (text : String)
  /-- A tool starts. -/
  | call (c : Call)
  /-- A tool prints to standard output. -/
  | toolPrint (text : String)
  /-- A tool prints to standard error. -/
  | toolComplain (text : String)

namespace Event

/-- What an event puts on standard output. -/
def stdout : Event → String
  | note line => line ++ "\n"
  | print text => text
  | toolPrint text => text
  | _ => ""

/-- What an event puts on standard error. -/
def stderr : Event → String
  | echo command => "$ " ++ command ++ "\n"
  | complain text => text
  | toolComplain text => text
  | _ => ""

/-- What an event adds to the report of a task: what is said on the side and what a tool
prints is no part of it. -/
def reported : Event → String
  | print text => text
  | _ => ""

/-- The call that an event is. -/
def call? : Event → Option Call
  | call c => some c
  | _ => none

/-- Whether an event is left out in quiet mode. -/
def isInformational : Event → Bool
  | note _ => true
  | echo _ => true
  | _ => false

end Event

/-- What events put on standard output. -/
def stdoutOf (events : List Event) : String :=
  String.join (events.map Event.stdout)

/-- What events put on standard error. -/
def stderrOf (events : List Event) : String :=
  String.join (events.map Event.stderr)

/-- What tasks report on standard output. -/
def outOf (events : List Event) : String :=
  String.join (events.map Event.reported)

/-- The calls among events. -/
def callsOf (events : List Event) : List Call :=
  events.filterMap Event.call?

theorem stderrOf_append (xs ys : List Event) : stderrOf (xs ++ ys) = stderrOf xs ++ stderrOf ys := by
  rw [stderrOf, List.map_append, String.join_append]
  rfl

theorem outOf_append (xs ys : List Event) : outOf (xs ++ ys) = outOf xs ++ outOf ys := by
  rw [outOf, List.map_append, String.join_append]
  rfl

theorem callsOf_append (xs ys : List Event) : callsOf (xs ++ ys) = callsOf xs ++ callsOf ys :=
  List.filterMap_append

end DocRunner
