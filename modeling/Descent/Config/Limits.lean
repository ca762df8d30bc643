/-
  The limits that are built in.
-/

namespace Descent.Limits

/-- How many tokens one text may be cut into. -/
def tokenCount : Nat := 1000000

/-- How many rules a table may hold. -/
def ruleCount : Nat := 1024

/-- How many tokens recovery may skip in one go. -/
def recoveryScan : Nat := 1000

/-- How many events a memory keeps. -/
def logBuffer : Nat := 10000

/-- How many characters of a message are kept. -/
def messageLength : Nat := 4096

end Descent.Limits
