import ProfiledBuild.Event
import ProfiledBuild.Json.Printer
import ProfiledBuild.Log.Record

/-! Notices and event sinks. A run gives notice of what happens, in order, by log entries and by
events. The sink decides what becomes of the events: they are dropped, collected, or written to
the log. -/

namespace ProfiledBuild

inductive Notice where
  | log (entry : Log.Entry)
  | event (event : Event)

def Notice.event? : Notice → Option Event
  | .event e => some e
  | .log _ => none

def Notice.log? : Notice → Option Log.Entry
  | .log e => some e
  | .event _ => none

inductive Sink where
  | discarding
  | collecting
  | logging (level : Log.Level)
  deriving DecidableEq, Repr

namespace Sink

def target : String := "aprs_pgo::events::sink"

/-- Events are logged for information unless debugging is asked for. -/
def recordLevel (level : Log.Level) : Log.Level :=
  if level = .debug then .debug else .info

def record (level : Log.Level) (e : Event) : Log.Record :=
  .ofMessage (recordLevel level) target ("Event: " ++ e.type)
    [("event_type", .shown e.type), ("event_data", .shown e.payload.text)]

def entries : Sink → Notice → List Log.Entry
  | _, .log e => [e]
  | .logging level, .event e => [.record (record level e)]
  | _, .event _ => []

def kept : Sink → Notice → List Event
  | .collecting, .event e => [e]
  | _, _ => []

end Sink

end ProfiledBuild
