/-
  LinkLayer.Manager.Links
  ───────────────────────
  **MAKING AND RUNNING LINKS.**

  Links are made on request (`accept`, `connect`, `call`) and by listeners.
  Each runs as a task; `stepTask` is one move of one task, `stepInlet` lets a
  listener take one connection.  A stopped node dials no more; a handler
  that starts on a stopped node ends at once.
-/
import LinkLayer.Manager.Basic

namespace LinkLayer.Manager

variable {σ : Type}

/-! ## §1. Requests for links. -/

/-- Run the handler of a link in the background. -/
def run (m : Manager σ) (n : Nat) (h : Handler) : Manager σ := m.spawn n .caller (.handling h)

/-- Make a link of an accepted connection. -/
def accept (m : Manager σ) (c : Connection) (forced : Bool) : Manager σ :=
  m.run c.wire (handlerFor c true forced {})

/-- Dial a target and make a link of the connection. -/
def connect (m : Manager σ) (n : Nat) (target : CallTarget) : Manager σ :=
  m.spawn n .caller (.calling target)

/-- Call a peer in the background.  Only a bad URI and a stopped node are
refused; what becomes of the call goes to the log. -/
def call (m : Manager σ) (n : Nat) (uri : String) (source : Option String) :
    Except LinkError Unit × Manager σ :=
  match CallTarget.parse uri source with
  | .error e => (.error e, m)
  | .ok target =>
      if m.isStopped then (.error .stopped, m)
      else (.ok (), m.spawn n (.call uri) (.calling target))

/-! ## §2. Moves of tasks. -/

/-- End a task. -/
def conclude (m : Manager σ) (n : Nat) (origin : Origin) (outcome : Outcome) : Manager σ :=
  (m.spawn n origin (.done outcome)).report (origin.report outcome)

/-- Carry out a handler's move. -/
def applyMove (m : Manager σ) (n : Nat) (origin : Origin) (wire : Nat) (move : Handler.Move) :
    Manager σ :=
  { m.spawn n origin (.handling move.handler) with
    wires := m.wires.put wire move.wire
    registry := move.registry
    events := m.events ++ move.events }

/-- The target of a call, with the deadline of the settings if it has none of
its own. -/
def withDeadline (settings : Settings) (target : DialTarget) : DialTarget :=
  { target with timeout := some (target.timeout.getD settings.dialTimeout) }

/-- Start a call: a stopped node makes none. -/
def startCall (m : Manager σ) (n : Nat) (origin : Origin) (target : CallTarget) : Manager σ :=
  if m.isStopped then m.conclude n origin (.failed .stopped)
  else m.spawn n origin (.dialling (withDeadline m.settings target.dial) target.options)

/-- Let the transport dial, and make a link of what it returns. -/
def dial (T : Transport σ) (m : Manager σ) (n : Nat) (origin : Origin) (target : DialTarget)
    (options : LinkOptions) : Manager σ :=
  let reply := T.dial target m.transport
  let m := m.asked (.dial target) reply
  match reply.result with
  | .error e => m.conclude n origin (.failed (.transport e))
  | .ok c => m.spawn n origin (.handling (handlerFor c false false options))

/-- The next move of a handler's task. -/
def stepHandler (m : Manager σ) (n : Nat) (origin : Origin) (h : Handler) :
    Option (Manager σ) :=
  match h.outcome? with
  | some outcome => some (m.conclude n origin outcome)
  | none =>
      match m.wires.find? h.number with
      | none => none
      | some wire => (h.step m.toNode wire).map (m.applyMove n origin h.number)

/-- The next move of a task; none while it has to wait or is done. -/
def stepTask (T : Transport σ) (m : Manager σ) (n : Nat) : Option (Manager σ) :=
  match m.tasks.find? n with
  | none => none
  | some task =>
      match task.activity with
      | .calling target => some (m.startCall n task.origin target)
      | .dialling target options => some (m.dial T n task.origin target options)
      | .handling h => m.stepHandler n task.origin h
      | .done _ => none

/-- Cancel a task. -/
def cancel (m : Manager σ) (n : Nat) : Manager σ :=
  match m.tasks.find? n with
  | none => m
  | some task =>
      match task.activity with
      | .done _ => m
      | .handling h =>
          match m.wires.find? h.number with
          | none => m.conclude n task.origin .cancelled
          | some wire =>
              let move := h.cancel m.toNode wire
              (m.applyMove n task.origin h.number move).conclude n task.origin
                (move.handler.outcome?.getD .cancelled)
      | _ => m.conclude n task.origin .cancelled

/-! ## §3. Moves of listeners. -/

/-- Stop serving an inlet; what waits in it is dropped. -/
def closeInlet (m : Manager σ) (j : Nat) : Manager σ :=
  match m.inlets.find? j with
  | none => m
  | some inlet =>
      inlet.queue.foldl (fun m c => m.onWire c.wire Wire.drop)
        { m with inlets := m.inlets.put j { inlet with queue := [], isServed := false } }

/-- Stop serving an inlet because there is nothing more to come. -/
def finishInlet (m : Manager σ) (j : Nat) (spec : ListenSpec) : Manager σ :=
  (m.closeInlet j).report [.listenerFinished spec]

/-- Let a listener take its next connection; it is run as incoming, not
forced, and without options of its own.  A listener finishes when the node
is stopped or nothing more can come. -/
def stepInlet (m : Manager σ) (j : Nat) : Option (Manager σ) :=
  match m.inlets.find? j with
  | none => none
  | some inlet =>
      if !inlet.isServed then none
      else if m.isStopped then some (m.finishInlet j inlet.spec)
      else
        match inlet.queue with
        | c :: queue =>
            some ({ m with inlets := m.inlets.put j { inlet with queue } }.spawn c.wire
              (.inbound c.name) (.handling (handlerFor c true false {})))
        | [] => if inlet.isFed then none else some (m.finishInlet j inlet.spec)

/-- What becomes of a connection that a transport delivers. -/
inductive Delivery where
  | taken
  | refused
  | noListener
  deriving Repr, DecidableEq

/-- Deliver a connection to the inlet that was opened last for a place.  How
many connections a transport buffers is its own affair: whoever finds the
buffer full waits for room, so the queue is the buffer and all that wait, in
the order in which they came.  Refused is who finds that nobody serves the
inlet any more. -/
def deliver (m : Manager σ) (spec : String) (c : Connection) : Delivery × Manager σ :=
  match m.inlets.rows.reverse.find? (·.2.spec.text = spec) with
  | none => (.noListener, m)
  | some (j, inlet) =>
      if !inlet.isFed then (.noListener, m)
      else if !inlet.isServed then (.refused, m.onWire c.wire Wire.drop)
      else
        (.taken, { m with inlets := m.inlets.put j { inlet with queue := inlet.queue ++ [c] } })

/-- Let the transport end the inlet that was opened last for a place; whether
there was one to end. -/
def endInlet (m : Manager σ) (spec : String) : Bool × Manager σ :=
  match m.inlets.rows.reverse.find? (·.2.spec.text = spec) with
  | none => (false, m)
  | some (j, inlet) =>
      (inlet.isFed, { m with inlets := m.inlets.put j { inlet with isFed := false } })

end LinkLayer.Manager
