namespace WebAcl.Log

inductive Level where
  | notset
  | debug
  | info
  | warning
  | error
  | critical
  deriving DecidableEq, Repr

namespace Level

def severity : Level → Nat
  | notset => 0
  | debug => 10
  | info => 20
  | warning => 30
  | error => 40
  | critical => 50

def name : Level → String
  | notset => "NOTSET"
  | debug => "DEBUG"
  | info => "INFO"
  | warning => "WARNING"
  | error => "ERROR"
  | critical => "CRITICAL"

def all : List Level := [notset, debug, info, warning, error, critical]

/-- The level of a name. Two levels have a second name. -/
def named? (s : String) : Option Level :=
  if s = "WARN" then some warning
  else if s = "FATAL" then some critical
  else all.find? (·.name == s)

end Level

structure Record where
  level : Level
  logger : String
  message : String
  deriving DecidableEq, Repr

end WebAcl.Log
