import RunWatch.Json.Printer
set_option autoImplicit false

namespace RunWatch

structure Fault where
  account : String
  causes : List String := []
  /-- The command has already told of it in its own output. -/
  reported : Bool := false
  deriving DecidableEq, Repr

namespace Fault

def line (f : Fault) : String := ": ".intercalate (f.account :: f.causes)

def document? (f : Fault) : Option String :=
  if f.reported then none else some (Json.object [("error", .string f.line)]).compact

def indented (first margin cause : String) : String :=
  first ++ ("\n" ++ margin).intercalate (cause.splitOn "\n")

/-- Causes one below the other; when there are several each has its number. -/
def causeLines : List String → List String
  | [] => []
  | [cause] => [indented "    " "    " cause]
  | causes => (causes.zipIdx).map fun (cause, n) =>
      indented ("    " ++ toString n ++ ": ") "       " cause

def report (f : Fault) : String :=
  "Error: " ++ f.account ++
    (if f.causes.isEmpty then "" else "\n\nCaused by:\n" ++ "\n".intercalate (causeLines f.causes))

end Fault

/-- Why a command is not carried out: a fault, of which the program tells, or a value that it does
not survive. -/
inductive Stop where
  | fault (f : Fault)
  | crash
  deriving DecidableEq, Repr

end RunWatch
