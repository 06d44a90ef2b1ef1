/-!
# Journal records

What the filters report while they work: a level, the name of the reporting logger, and a message.
The filters use five levels. To loggers and handlers a level is any integer, compared by its weight;
zero is no level.
-/
namespace ContentFilters.Journal

inductive Level where
  | debug | info | warning | error | critical
  deriving DecidableEq, Repr

namespace Level

def all : List Level := [debug, info, warning, error, critical]

def name : Level → String
  | debug => "DEBUG"
  | info => "INFO"
  | warning => "WARNING"
  | error => "ERROR"
  | critical => "CRITICAL"

def weight : Level → Int
  | debug => 10
  | info => 20
  | warning => 30
  | error => 40
  | critical => 50

def ofName? (s : String) : Option Level := all.find? (·.name == s)

theorem ofName?_name (l : Level) : ofName? l.name = some l := by
  cases l <;> decide

def shown (level : Int) : String :=
  if level = 0 then "NOTSET"
  else match all.find? (·.weight == level) with
    | some l => l.name
    | none => "Level " ++ toString level

end Level

structure Record where
  level : Level
  logger : String
  message : String
  deriving DecidableEq, Repr

end ContentFilters.Journal
