import AgentTool.Event

/-!
# Where events go

A sink drops events, keeps them in a bounded memory, writes them to a log, or
hands them on to several sinks in turn.  Memories are numbered, and one memory
may be reached on several ways.

| event | level of the log | message |
| --- | --- | --- |
| an invocation is completed | info | `invocation completed` |
| a webhook failed | warning | `webhook failed` |
| any other | debug | `invocation event` |
-/

namespace AgentTool

/-- A memory for the latest events; it holds at least one. -/
structure Memory where
  capacity : Nat
  events : List Event := []
  deriving Inhabited

namespace Memory

/-- The number of events that a memory keeps. -/
def size (m : Memory) : Nat := max m.capacity 1

/-- The memory with one more event; the first goes if there is no room. -/
def add (m : Memory) (e : Event) : Memory :=
  { m with events := if m.events.length = m.size then m.events.drop 1 ++ [e] else m.events ++ [e] }

/-- The events of an invocation. -/
def eventsFor (m : Memory) (invocation : String) : List Event :=
  m.events.filter fun e => e.invocation == invocation

/-- The memory without its events. -/
def clear (m : Memory) : Memory := { m with events := [] }

/-- A memory of the usual size. -/
def standard : Memory := { capacity := 1024 }

end Memory

/-- The level of a line in a log. -/
inductive LogLevel where
  | debug | info | warning
  deriving DecidableEq, Repr

/-- The name of a level. -/
def LogLevel.name : LogLevel → String
  | debug => "DEBUG"
  | info => "INFO"
  | warning => "WARN"

/-- A line in a log. -/
structure LogLine where
  level : LogLevel
  message : String
  fields : List (String × String)
  deriving DecidableEq, Repr

/-- The line that an event is logged as. -/
def Event.logLine (e : Event) : LogLine :=
  let owner := ("invocation_id", e.invocation)
  match e.fact with
  | .completed tool outcome millis =>
    ⟨.info, "invocation completed", [owner, ("tool", tool),
      ("success", if outcome.isSuccess then "true" else "false"), ("duration_ms", toString millis)]⟩
  | .webhookFailed webhook failure =>
    ⟨.warning, "webhook failed",
      [owner, ("webhook_index", toString webhook), ("failure", failure.message)]⟩
  | _ => ⟨.debug, "invocation event", [owner]⟩

/-- A place for events. -/
inductive Sink where
  | nowhere
  | memory (number : Nat)
  | log
  | all (sinks : List Sink)

/-- What the sinks hold. -/
structure SinkState where
  memories : List Memory := []
  log : List LogLine := []
  deriving Inhabited

mutual

/-- The state after an event reached a sink. -/
def Sink.emit (s : SinkState) (e : Event) : Sink → SinkState
  | .nowhere => s
  | .memory n => { s with memories := s.memories.modify n fun m => m.add e }
  | .log => { s with log := s.log ++ [e.logLine] }
  | .all sinks => emitAll s e sinks

/-- The state after an event reached several sinks in turn. -/
def Sink.emitAll (s : SinkState) (e : Event) : List Sink → SinkState
  | [] => s
  | k :: ks => emitAll (k.emit s e) e ks

end

end AgentTool
