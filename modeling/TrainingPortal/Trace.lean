import TrainingPortal.Http.Call
import TrainingPortal.Log

/-!
# Traces

What a computation lets the outside see, in the order in which it happens: log entries, calls to
the network, requests sent, lines printed and addresses opened in a browser. `Traced` computations
produce such a trace beside their value, and a sequence of them the traces one after the other.
-/

namespace TrainingPortal

/-- Something that the outside can see. -/
inductive Event
  | logged (entry : LogEntry)
  /-- A call was handed to the network, which may refuse it. -/
  | called (call : Http.Call)
  /-- A request left. -/
  | sent (request : Http.Request)
  /-- A line was printed. -/
  | printed (line : String)
  /-- The browser was asked to open an address. -/
  | opened (address : String)

namespace Event

/-- The log entry of an event. -/
def entry? : Event → Option LogEntry
  | logged entry => some entry
  | _ => none

/-- The call of an event. -/
def call? : Event → Option Http.Call
  | called call => some call
  | _ => none

/-- The request of an event. -/
def request? : Event → Option Http.Request
  | sent request => some request
  | _ => none

/-- The line of an event. -/
def line? : Event → Option String
  | printed line => some line
  | _ => none

/-- The address of an event. -/
def address? : Event → Option String
  | opened address => some address
  | _ => none

end Event

/-- A value with the trace that producing it left. -/
structure Traced (α : Type) where
  value : α
  trace : List Event

namespace Traced

instance : Monad Traced where
  pure a := ⟨a, []⟩
  bind x f := ⟨(f x.value).value, x.trace ++ (f x.value).trace⟩

/-- Leaves an event in the trace. -/
def emit (event : Event) : Traced Unit := ⟨(), [event]⟩

/-- Logs an entry. -/
def log (level : LogLevel) (area : LogArea) (text : String) : Traced Unit :=
  emit (.logged ⟨level, area, text⟩)

/-- Prints a line. -/
def print (line : String) : Traced Unit := emit (.printed line)

/-- The log entries of a trace. -/
def entries (trace : List Event) : List LogEntry := trace.filterMap Event.entry?

/-- The calls of a trace. -/
def calls (trace : List Event) : List Http.Call := trace.filterMap Event.call?

/-- The requests of a trace. -/
def requests (trace : List Event) : List Http.Request := trace.filterMap Event.request?

/-- The text printed in a trace. -/
def output (trace : List Event) : String :=
  String.join ((trace.filterMap Event.line?).map (· ++ "\n"))

/-- The addresses opened in a trace. -/
def openings (trace : List Event) : List String := trace.filterMap Event.address?

/-! ## Traces one after the other -/

instance : LawfulMonad Traced := LawfulMonad.mk' Traced
  (fun x => congrArg (Traced.mk x.value) (List.append_nil _))
  (fun _ _ => rfl)
  (fun _ _ _ => congrArg (Traced.mk _) (List.append_assoc _ _ _))

@[simp] theorem calls_append (s t : List Event) : calls (s ++ t) = calls s ++ calls t :=
  List.filterMap_append

@[simp] theorem requests_append (s t : List Event) : requests (s ++ t) = requests s ++ requests t :=
  List.filterMap_append

@[simp] theorem calls_logged (log : List LogEntry) : calls (log.map .logged) = [] := by
  simp [calls, Event.call?]

@[simp] theorem requests_logged (log : List LogEntry) : requests (log.map .logged) = [] := by
  simp [requests, Event.request?]

end Traced

end TrainingPortal
