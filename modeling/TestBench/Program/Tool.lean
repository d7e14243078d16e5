/-
# Standard tools

The small programs that every system has.
-/

namespace TestBench
namespace Program

/-- A standard tool. -/
inductive Tool where
  /-- The command interpreter. -/
  | shell
  /-- Ends well and does nothing. -/
  | succeed
  /-- Ends badly and does nothing. -/
  | fail
  /-- Writes its arguments. -/
  | echo
  /-- Writes its arguments in a given form. -/
  | printf
  /-- Tells whether a condition holds. -/
  | test
  /-- Sleeps for a number of seconds. -/
  | sleep
  /-- Makes directories. -/
  | makeDirectory
  /-- Changes the permissions of files. -/
  | changeMode
  deriving DecidableEq, Repr

end Program
end TestBench
