import JobDesk.Coordinator.Basic

/-!
# Wait — waiting for the end of a job

A wait reads the status of its job, and reads it again after each interval as long as the code is in
the waiting set.  It ends with the verdict on the first code outside the set, on the first failed
read or on a missing job; with `abandoned` when its own token fires, and with `shutDown` when the
coordinator stops.  Both are looked at before each read, the token first, and while sleeping, in no
fixed order.
-/

namespace JobDesk

abbrev StatusAnswer := Except StoreError (Option Int16)

namespace Coordinator

inductive WaitState where
  /-- A status read has been asked for and not been answered. -/
  | reading (lastSeen : Option Int16)
  /-- The time to the next read is running. -/
  | sleeping (lastSeen : Option Int16)
  | ended (result : Except JobError Unit)
  deriving Inhabited

/-- What can fire while a wait goes on: its own token, and the shutdown of the coordinator. -/
inductive Signal where
  | token
  | shutDown
  deriving DecidableEq, Inhabited

def Signal.cause (id : Int64) : Signal → JobError
  | token => .abandoned id
  | shutDown => .shutDown

/-- What has fired while a wait goes on, and which of the two it hears if it finds both in its
sleep.  A wait hears one signal at most, so one choice, made when it begins, is all that it needs.
-/
structure Signals where
  token : Bool
  shutDown : Bool
  pick : Signal
  deriving DecidableEq

def Signals.heard? (signals : Signals) : Option Signal :=
  match signals.token, signals.shutDown with
  | true, true => some signals.pick
  | true, false => some .token
  | false, true => some .shutDown
  | false, false => none

/-- A wait about to read: it looks at its token first, whatever it would pick in its sleep. -/
def beginRead (id : Int64) (signals : Signals) (lastSeen : Option Int16) : WaitState :=
  if signals.token then .ended (.error (.abandoned id))
  else if signals.shutDown then .ended (.error .shutDown)
  else .reading lastSeen

def beginSleep (id : Int64) (signals : Signals) (lastSeen : Option Int16) : WaitState :=
  match signals.heard? with
  | some signal => .ended (.error (signal.cause id))
  | none => .sleeping lastSeen

def verdict (id : Int64) (code : Int16) : Except JobError Unit × List Notice :=
  match Status.ofCode? code with
  | some .succeeded => (.ok (), [])
  | some .cancelled => (.error (.cancelled id), [.wasCancelled id])
  | _ => (.error (.unexpectedStatus id code), [.ended id code])

/-- What is reported of a code: it itself, unless it is the one seen last. -/
def seenNotice (id : Int64) (lastSeen : Option Int16) (code : Int16) : List Notice :=
  if lastSeen = some code then [] else [.seen id code]

def takeAnswer (waiting : WaitingSet) (id : Int64) (signals : Signals) (lastSeen : Option Int16) :
    StatusAnswer → WaitState × List Notice
  | .error error => (.ended (.error (.statusQuery id error)), [])
  | .ok none => (.ended (.error (.notFound id)), [.disappeared id])
  | .ok (some code) =>
    let seen := seenNotice id lastSeen code
    -- The waiting set is asked before the meaning of the code: any code can be waited on.
    if waiting.contains code then (beginSleep id signals (some code), seen)
    else
      let (result, notices) := verdict id code
      (.ended result, seen ++ notices)

/-- What a wait does that looks at its signals: one that sleeps ends if it hears any. -/
def WaitState.onSignal (id : Int64) (signals : Signals) : WaitState → WaitState
  | .sleeping lastSeen => beginSleep id signals lastSeen
  | state => state

def WaitState.onTimer (id : Int64) (signals : Signals) : WaitState → WaitState
  | .sleeping lastSeen => beginRead id signals lastSeen
  | state => state

def WaitState.read {σ : Type} [JobStore σ] (waiting : WaitingSet) (id : Int64) (signals : Signals)
    (store : σ) : WaitState → WaitState × σ × List Notice
  | .reading lastSeen =>
    let (answer, store) := JobStore.fetchStatus store id
    let (state, notices) := takeAnswer waiting id signals lastSeen answer
    (state, store, notices)
  | state => (state, store, [])

def waitFor {σ : Type} [JobStore σ] (waiting : WaitingSet) (id : Int64) :
    (reads : Nat) → WaitState → σ → WaitState × σ × List Notice
  | 0, state, store => (state, store, [])
  | reads + 1, state, store =>
    let quiet : Signals := ⟨false, false, default⟩
    let (state, store, notices) := (state.onTimer id quiet).read waiting id quiet store
    match state with
    | .sleeping _ =>
      let (state, store, more) := waitFor waiting id reads state store
      (state, store, notices ++ more)
    | state => (state, store, notices)

end Coordinator

end JobDesk
