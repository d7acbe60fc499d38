import JobDesk.Desk.Clock
import JobDesk.Http.Service

/-!
# Exchanges — a request to a desk, and what happens until it is answered

The wait that a request asks for goes on at the desk under the name of the request.  While it does,
others act on the desk and time passes; a caller who goes away drops the wait.
-/

namespace JobDesk.Http

/-- A request under way: its response, if there is one yet, the reports made since it came, the
waits that have ended since then, and the desk. -/
structure Exchange where
  name : String
  sentAt : String
  response : Option Response := none
  report : Clock.Report := {}
  clock : Clock

namespace Exchange

def ending? (name now : String) (ended : List EndedWait) : Option Response :=
  (ended.find? (·.name == name)).map fun wait => waitResponse now wait.id wait.result

def follow (exchange : Exchange) (report : Clock.Report) (clock : Clock) : Exchange :=
  { exchange with
    response := exchange.response.or (ending? exchange.name exchange.sentAt report.ended)
    report := exchange.report.append report
    clock := clock }

/-- An exchange begins: the request comes to the desk, at the time `now`. -/
def begin (clock : Clock) (name now : String) (request : Request) : Exchange :=
  let desk := clock.desk
  match serve desk.coordinator desk.store now request with
  | .answered handled =>
    { name := name, sentAt := now, response := some handled.response
      report := { notices := handled.notices }
      clock := { clock with desk := { desk with store := handled.store } } }
  | .waits id =>
    -- The wait may be over with its first read.
    let (_, report, after) := clock.apply (.wait name id none)
    { name := name, sentAt := now, clock := clock : Exchange }.follow report after

def advance (exchange : Exchange) (span : Span) : Exchange :=
  if exchange.response.isSome then exchange
  else
    let (report, clock) := exchange.clock.advance span
    exchange.follow report clock

def apply (exchange : Exchange) (event : Event) : Exchange :=
  if exchange.response.isSome then exchange
  else
    let (_, report, clock) := exchange.clock.apply event
    exchange.follow report clock

def during (exchange : Exchange) (events : List (Span × Event)) : Exchange :=
  events.foldl (fun exchange (span, event) => (exchange.advance span).apply event) exchange

def finish (exchange : Exchange) (limit : Span) : Exchange :=
  (exchange.advance limit).apply (.drop exchange.name)

end Exchange

end JobDesk.Http
