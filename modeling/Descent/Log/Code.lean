/-
  The codes of events and what is known about them.

  Every error code is registered with a category, a severity, whether one can go on after it and whether
  one has to stop, and a description.  Codes that are not registered are harmless, and their first letter
  tells their category.
-/

namespace Descent

/-- The code of an event. -/
structure Code where
  text : String
deriving DecidableEq, Repr

/-- How bad an error is. -/
inductive Severity where
  | critical
  | high
  | medium
  | low
deriving DecidableEq, Repr

namespace Severity

/-- The word for a severity. -/
def name : Severity → String
  | critical => "Critical"
  | high => "High"
  | medium => "Medium"
  | low => "Low"

/-- The place of a severity, the worst first. -/
def rank : Severity → Nat
  | critical => 0
  | high => 1
  | medium => 2
  | low => 3

end Severity

/-- What is known about an error code. -/
structure CodeInfo where
  code : Code
  category : String
  severity : Severity
  recoverable : Bool
  requiresHalt : Bool
  description : String
deriving DecidableEq, Repr

namespace Code

/-! ## Events without a code of their own -/

def genericWarning : Code := ⟨"W000"⟩
def genericInfo : Code := ⟨"I000"⟩
def genericDebug : Code := ⟨"D000"⟩

/-! ## Errors of the system -/

def internalError : Code := ⟨"ERR001"⟩
def initializationFailure : Code := ⟨"ERR002"⟩
def configurationError : Code := ⟨"ERR003"⟩

/-! ## Errors of tokenizers -/

def unexpectedCharacter : Code := ⟨"E020"⟩
def invalidPattern : Code := ⟨"E021"⟩
def zeroWidthMatch : Code := ⟨"E022"⟩
def tooManyTokens : Code := ⟨"E023"⟩
def tooManyRules : Code := ⟨"E024"⟩

/-! ## Errors of cursors and parsers -/

def grammarViolation : Code := ⟨"E043"⟩
def reportedErrors : Code := ⟨"E044"⟩
def recoveryScanExhausted : Code := ⟨"E045"⟩
def unexpectedToken : Code := ⟨"E050"⟩

/-! ## Successes -/

def initializationCompleted : Code := ⟨"I004"⟩
def ruleRegistered : Code := ⟨"I019"⟩
def tokenizationComplete : Code := ⟨"I020"⟩
def parseComplete : Code := ⟨"I040"⟩
def recoveryComplete : Code := ⟨"I041"⟩

/-! ## Groups and the registry -/

def generic : List Code := [genericWarning, genericInfo, genericDebug]
def system : List Code := [internalError, initializationFailure, configurationError]
def lexical : List Code :=
  [unexpectedCharacter, invalidPattern, zeroWidthMatch, tooManyTokens, tooManyRules]
def parsing : List Code := [grammarViolation, reportedErrors, recoveryScanExhausted, unexpectedToken]
def success : List Code :=
  [initializationCompleted, ruleRegistered, tokenizationComplete, parseComplete, recoveryComplete]

/-- Every error code with what is known about it. -/
def registry : List CodeInfo := [
  ⟨internalError, "System", .critical, false, true, "Critical internal error"⟩,
  ⟨initializationFailure, "System", .critical, false, true, "Logging or runtime initialization failed"⟩,
  ⟨configurationError, "System", .high, false, true, "Runtime configuration could not be loaded"⟩,
  ⟨unexpectedCharacter, "Lexical", .high, false, false, "No rule matches the input at the current position"⟩,
  ⟨invalidPattern, "Lexical", .high, false, true, "Rule pattern is not a valid regular expression"⟩,
  ⟨zeroWidthMatch, "Lexical", .high, false, true, "Selected rule matched an empty lexeme"⟩,
  ⟨tooManyTokens, "Lexical", .critical, false, true, "Token count exceeds the configured limit"⟩,
  ⟨tooManyRules, "Lexical", .high, false, true, "Rule count exceeds the configured limit"⟩,
  ⟨grammarViolation, "Syntax", .high, true, false, "Grammar rule violated"⟩,
  ⟨reportedErrors, "Syntax", .high, false, true, "Parse finished with accumulated errors"⟩,
  ⟨recoveryScanExhausted, "Syntax", .medium, true, false, "Error recovery reached its scan limit"⟩,
  ⟨unexpectedToken, "Syntax", .high, true, false, "Expected token category not found"⟩]

/-- What is known about a code. -/
def info? (code : Code) : Option CodeInfo := registry.find? fun info => info.code == code

/-- How bad an event with this code is. -/
def severity (code : Code) : Severity := (code.info?.map (·.severity)).getD .low

/-- Whether one can go on after an event with this code. -/
def recoverable (code : Code) : Bool := (code.info?.map (·.recoverable)).getD true

/-- Whether one has to stop after an event with this code. -/
def requiresHalt (code : Code) : Bool := (code.info?.map (·.requiresHalt)).getD false

/-- What a code means. -/
def description (code : Code) : String := (code.info?.map (·.description)).getD "Unknown error"

/-- The category of a code that is not registered, by its first letter. -/
def categoryOfLetter : Option Char → String
  | some 'I' => "Info"
  | some 'W' => "Warning"
  | some 'D' => "Debug"
  | _ => "Unknown"

/-- The category of a code. -/
def category (code : Code) : String :=
  (code.info?.map (·.category)).getD (categoryOfLetter code.text.toList.head?)

end Code

end Descent
