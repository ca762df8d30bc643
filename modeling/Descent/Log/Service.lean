/-
  Services: a least level in front of a sink.

  A service hands events on that its least level lets through.  Sinks that write lines have a least level
  of their own, which the service's does not change; a memory takes whatever comes.

  * `Service.wants` says whether a service hands on events of a level.
  * `Service.deliver` is what becomes of an event: it is kept, written, or dropped.
  * Errors are written to the one stream and all else to the other: `Event.stream`.
-/
import Descent.Config.Preferences
import Descent.Log.Event

namespace Descent

/-- The streams of a process. -/
inductive Stream where
  | output
  | error
deriving DecidableEq, Repr

/-- How a line shows an event. -/
inductive LineFormat where
  /-- Text for people. -/
  | plain
  /-- A JSON object. -/
  | structured
deriving DecidableEq, Repr

/-- Where a service sends events. -/
inductive Sink where
  /-- Events are kept. -/
  | memory
  /-- Events up to a level are written as lines. -/
  | lines (format : LineFormat) (least : Level)
deriving DecidableEq, Repr

/-- What becomes of an event. -/
inductive Delivery where
  /-- It is kept. -/
  | kept (event : Event)
  /-- It is written as a line. -/
  | written (stream : Stream) (line : String)
deriving DecidableEq, Repr

/-- The stream that an event is written to. -/
def Event.stream (e : Event) : Stream := if e.level = .error then .error else .output

/-- The line that shows an event at a time. -/
def Event.line (e : Event) (time : String) : LineFormat → String
  | .plain => e.render
  | .structured => (e.json time).render

/-- What a sink makes of an event at a time. -/
def Sink.deliver (sink : Sink) (e : Event) (time : String) : Option Delivery :=
  match sink with
  | .memory => some (.kept e)
  | .lines format least => if e.level.passes least then some (.written e.stream (e.line time format)) else none

/-- A sink, if there is one, and the least level that it is given. -/
structure Service where
  sink : Option Sink
  least : Level
deriving DecidableEq, Repr

namespace Service

/-- A service for a sink. -/
def new (sink : Sink) (least : Level) : Service := ⟨some sink, least⟩

/-- A service that drops everything. -/
def disabled : Service := ⟨none, .error⟩

/-- The service that settings ask for. -/
def ofPreferences (p : LoggingPreferences) : Service :=
  if p.enableConsole then
    new (.lines (if p.useStructured then .structured else .plain) p.minLevel) p.minLevel
  else disabled

/-- Whether there is a sink. -/
def isEnabled (s : Service) : Bool := s.sink.isSome

/-- Change the least level; that of the sink stays. -/
def setLeast (s : Service) (least : Level) : Service := { s with least }

/-- Whether events of a level are handed on. -/
def wants (s : Service) (level : Level) : Bool := s.isEnabled && level.passes s.least

/-- What becomes of an event at a time. -/
def deliver (s : Service) (e : Event) (time : String) : Option Delivery :=
  match s.sink with
  | some sink => if e.level.passes s.least then sink.deliver e time else none
  | none => none

end Service

end Descent
