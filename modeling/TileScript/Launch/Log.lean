namespace TileScript

inductive LogLevel where
  | error
  | warn
  | info
  | debug
  | trace
  deriving DecidableEq

namespace LogLevel

def all : List LogLevel := [error, warn, info, debug, trace]

def name : LogLevel → String
  | error => "ERROR"
  | warn => "WARN"
  | info => "INFO"
  | debug => "DEBUG"
  | trace => "TRACE"

def rank : LogLevel → Nat
  | error => 1
  | warn => 2
  | info => 3
  | debug => 4
  | trace => 5

end LogLevel

inductive LogSource where
  | program
  | settings
  | session
  deriving DecidableEq

def LogSource.path : LogSource → String
  | program => "reactor"
  | settings => "reactor::app::bootstrap"
  | session => "reactor::app::loop_runner"

structure LogLine where
  level : LogLevel
  source : LogSource
  message : String
  fields : List (String × String) := []

namespace LogLine

def names (line : LogLine) : List String := "message" :: line.fields.map (·.1)

/-- The first line of a text that ends in a line break: a line feed, or a carriage return and a line
feed. -/
def firstLine (text : List Char) : List Char :=
  let line := text.takeWhile (· != '\n')
  if line.getLast? = some '\r' then line.dropLast else line

def text (line : LogLine) : String :=
  let fields := line.fields.map (fun (name, value) => " " ++ name ++ "=" ++ value)
  let full := line.level.name ++ " " ++ line.message ++ String.join fields
  String.ofList (firstLine full.toList)

end LogLine

end TileScript
