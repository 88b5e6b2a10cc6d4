import ControlOfc.Lib.Machine
import ControlOfc.Lib.OneShot
import Mathlib.Logic.Function.Basic
/-! # Lending the poll loop's port (serial/port_loan.rs, polling.rs)

The loop swaps the port in its slot for a placeholder, answers the borrower and waits for the hand-back.
Any number of borrowers may ask, each with its own three one-shot channels; the queue holds one request, and
the loop serves one at a time. A move is one step of the loop or of a borrower, or the stop signal, so a run
is any interleaving.

* Every `Box<dyn SerialTransport>` has a `tag` of its own: two boxes of one kind are not the same port.
* `Stage` is how far the loop is with a request, and what was in the slot when `lend` was called.
* `letGo` and `unread` say how a port can leave: the borrower dropped or replaced it, or the loop stopped
  with its hand-back unread.
-/
namespace ControlOfc.PortLoan

inductive Kind where
  | port
  | maintenance
  | disconnected
  deriving DecidableEq, Repr

/-- A `Box<dyn SerialTransport>`. -/
structure Transport where
  kind : Kind
  tag : Nat
  deriving DecidableEq, Repr

/-- `LoanRefusal` (port_loan.rs:77). -/
inductive LoanRefusal where
  | notConnected
  | noPollLoop
  | timeout
  deriving DecidableEq, Repr

/-- `LoanReturn` (port_loan.rs:66). -/
inductive LoanReturn where
  | port (transport : Transport) (path : String)
  | nothing
  deriving DecidableEq, Repr

/-- A hand-back with no path, or with no port left, gives nothing back. -/
def LoanReturn.of : Option Transport → Option String → LoanReturn
  | some t, some path => .port t path
  | _, _ => .nothing

/-- `LoanEnd` (port_loan.rs:166) but `Shutdown`, on which the loop stops and the request is left as it is. -/
inductive LoanEnd where
  | refused
  | abandoned
  | returned (transport : Transport) (path : String)
  | lost
  deriving DecidableEq, Repr

/-- Where a borrower is in `request` and `give_back` (port_loan.rs:122-163). -/
inductive Asker where
  | absent
  /-- Waiting for room in the queue. -/
  | sending
  | waiting
  /-- Its wait ran out; the answer's channel is still open. -/
  | late
  | closed
  | refused (e : LoanRefusal)
  /-- It has the loan: the port, another it opened, or none. -/
  | holding (transport : Option Transport)
  | returning (ret : LoanReturn)
  | gaveBack (ret : LoanReturn) (settled : Bool)
  | gone
  deriving DecidableEq, Repr

/-- How far the loop is with a request. -/
inductive Stage where
  | unserved
  | called (slot : Transport)
  | taken (port : Transport)
  | ended (slot : Transport) (e : LoanEnd)
  deriving DecidableEq, Repr

/-- One request, its channels and its borrower. -/
structure Exchange where
  acceptDisconnected : Bool
  asker : Asker
  reply : OneShot (Except LoanRefusal Transport)
  back : OneShot LoanReturn
  settled : OneShot Unit
  stage : Stage
  letGo : Bool
  unread : Bool

def Exchange.absent : Exchange := ⟨false, .absent, .new, .new, .new, .unserved, false, false⟩

/-- Where the loop is. -/
inductive LoopState where
  | idle
  /-- `lend` was called and has not swapped the slot. -/
  | lending (b : Nat)
  /-- The port is out of the slot, for the answer. -/
  | handing (b : Nat) (port : Transport)
  | waiting (b : Nat)
  /-- What came back is installed and not yet signalled. -/
  | settling (b : Nat)
  | stopped
  deriving DecidableEq, Repr

structure World where
  slot : Transport
  connected : Bool
  stop : Bool
  queue : Option Nat
  loop : LoopState
  exchanges : Nat → Exchange
  next : Nat

inductive Move where
  | stop
  /-- The loop, between two requests. -/
  | poll (ok : Bool)
  | release
  | adopt
  | exit
  /-- The loop, with a request. -/
  | recv
  | refuse
  | swap
  | swapFails
  | answer
  | wake
  | finish
  /-- A borrower. -/
  | ask (b : Nat) (acceptDisconnected : Bool)
  | send (b : Nat)
  | sendTimeout (b : Nat)
  | look (b : Nat)
  | timeUp (b : Nat)
  | close (b : Nat)
  | lateLook (b : Nat)
  | dropPort (b : Nat)
  | openPort (b : Nat)
  | giveBack (b : Nat) (path : Option String)
  | settled (b : Nat)
  | settleTimeout (b : Nat)
  | drop (b : Nat)
  deriving DecidableEq, Repr

namespace Exchange

/-! ## Where a port of this exchange can be -/

def replyPort (x : Exchange) : Option Transport := x.reply.value.bind (·.toOption)

def held (x : Exchange) : Option Transport :=
  match x.asker with
  | .holding t => t
  | _ => none

def backPort (x : Exchange) : Option Transport :=
  match x.back.value with
  | some (.port t _) => some t
  | _ => none

/-! ## A borrower's steps -/

/-- `match answer` (port_loan.rs:138-141), where there is one. -/
def look (x : Exchange) : Exchange :=
  match x.reply.value with
  | some (.ok port) => { x with asker := .holding (some port), reply := x.reply.take.dropReceiver }
  | some (.error e) => { x with asker := .refused e, reply := x.reply.take.dropReceiver }
  | none => if x.reply.sender then x else { x with asker := .refused .noPollLoop, reply := x.reply.dropReceiver }

/-- A timeout polls what it waits for once more. -/
def timeUp (x : Exchange) : Exchange :=
  if x.reply.value.isNone && x.reply.sender then { x with asker := .late } else x.look

/-- `try_recv().unwrap_or(Err(Timeout))` (port_loan.rs:153). -/
def lateLook (x : Exchange) : Exchange :=
  match x.reply.value with
  | some (.ok port) => { x with asker := .holding (some port), reply := x.reply.take.dropReceiver }
  | some (.error e) => { x with asker := .refused e, reply := x.reply.take.dropReceiver }
  | none => { x with asker := .refused .timeout, reply := x.reply.dropReceiver }

/-- `give_back` up to its wait (port_loan.rs:158-161): a failed send drops what it carried. -/
def giveBack (x : Exchange) (transport : Option Transport) (path : Option String) : Exchange :=
  let ret := LoanReturn.of transport path
  let dropped := transport.isSome && (path.isNone || !x.back.receiver)
  { x with
    asker := if x.back.receiver then .returning ret else .gaveBack ret false
    back := x.back.send ret
    letGo := x.letGo || dropped }

/-- The end of `give_back` (port_loan.rs:162), where there is one. -/
def settle (x : Exchange) (ret : LoanReturn) : Exchange :=
  if x.settled.value.isSome then { x with asker := .gaveBack ret true }
  else if x.settled.sender then x
  else { x with asker := .gaveBack ret false }

def settleTimeout (x : Exchange) (ret : LoanReturn) : Exchange :=
  { x with asker := .gaveBack ret x.settled.value.isSome }

/-- The borrower is dropped, wherever it was, and with it what it held. -/
def drop (x : Exchange) : Exchange :=
  { x with
    asker := .gone
    reply := x.reply.dropReceiver
    back := x.back.dropSender
    letGo := x.letGo || x.reply.value.any (·.isOk) || x.held.isSome }

end Exchange

/-- Where a transport can be. `hand` and `reply` are the answer in flight, before its send and after. -/
inductive Place where
  | slot
  | hand
  | reply (b : Nat)
  | borrower (b : Nat)
  | back (b : Nat)
  deriving DecidableEq, Repr

namespace World

def ex (w : World) (b : Nat) : Exchange := w.exchanges b

def update (w : World) (b : Nat) (x : Exchange) : World := { w with exchanges := Function.update w.exchanges b x }

/-- What is there. -/
def holds (w : World) : Place → Option Transport
  | .slot => some w.slot
  | .hand => match w.loop with
    | .handing _ port => some port
    | _ => none
  | .reply b => (w.ex b).replyPort
  | .borrower b => (w.ex b).held
  | .back b => (w.ex b).backPort

def start (slot : Transport) : World :=
  ⟨slot, true, false, none, .idle, fun _ => .absent, slot.tag + 1⟩

/-! ## The loop's steps -/

/-- A box made now. -/
def fresh (w : World) (kind : Kind) : Transport := ⟨kind, w.next⟩

/-- The loop's end of the queue goes, and a request in it with its answer's channel. -/
def closeQueue (w : World) : World :=
  match w.queue with
  | some b => { w with queue := none }.update b { w.ex b with reply := (w.ex b).reply.dropSender }
  | none => w

/-- The loop returns. -/
def exit (w : World) : World := { w with loop := .stopped }.closeQueue

/-- `lend` refuses (port_loan.rs:201-203, 217-222). -/
def refuse (w : World) (b : Nat) (e : LoanRefusal) : World :=
  { w with loop := .idle }.update b { w.ex b with
    reply := (w.ex b).reply.send (.error e), stage := .ended w.slot .refused }

/-- `mem::replace` (port_loan.rs:206-215). -/
def swap (w : World) (b : Nat) : World :=
  { w with slot := w.fresh .maintenance, next := w.next + 1, loop := .handing b w.slot }.update b
    { w.ex b with stage := .taken w.slot }

/-- The answer (port_loan.rs:225-234): one that cannot be sent puts the port back. -/
def answer (w : World) (b : Nat) (port : Transport) : World :=
  if (w.ex b).reply.receiver then
    { w with loop := .waiting b }.update b { w.ex b with reply := (w.ex b).reply.send (.ok port) }
  else
    { w with slot := port, loop := .idle }.update b { w.ex b with
      reply := (w.ex b).reply.dropSender, stage := .ended port .abandoned }

/-- The wait for the hand-back (port_loan.rs:236-259). -/
def wake (w : World) (b : Nat) (port : Transport) : World :=
  let x := w.ex b
  if w.stop then
    ({ w with loop := .stopped }.update b { x with
      back := x.back.dropReceiver, settled := x.settled.dropSender
      unread := x.unread || x.back.value.isSome }).closeQueue
  else
    match x.back.value with
    | some (.port t path) =>
      { w with slot := t, loop := .settling b }.update b { x with
        back := x.back.take.dropReceiver, stage := .ended port (.returned t path) }
    | some .nothing =>
      { w with slot := w.fresh .disconnected, next := w.next + 1, loop := .settling b }.update b { x with
        back := x.back.take.dropReceiver, stage := .ended port .lost }
    | none =>
      if x.back.sender then w
      else
        { w with slot := w.fresh .disconnected, next := w.next + 1, loop := .settling b }.update b { x with
          back := x.back.dropReceiver, stage := .ended port .lost }

/-- The loop's share of a hand-back (polling.rs:1104-1131). -/
def finish (w : World) (b : Nat) : World :=
  let connected := match (w.ex b).stage with
    | .ended _ (.returned ..) => true
    | _ => false
  { w with loop := .idle, connected := connected }.update b { w.ex b with settled := (w.ex b).settled.send () }

/-- The select of the poll loop takes a request (polling.rs:1069-1085). -/
def recv (w : World) : World :=
  match w.queue with
  | some b => { w with queue := none, loop := .lending b }.update b { w.ex b with stage := .called w.slot }
  | none => w

/-- `lender.send` (port_loan.rs:132-136). -/
def send (w : World) (b : Nat) : World :=
  if w.loop = .stopped then
    w.update b { w.ex b with asker := .refused .noPollLoop, reply := (w.ex b).reply.dropReceiver }
  else if w.queue.isNone then { w with queue := some b }.update b { w.ex b with asker := .waiting }
  else w

/-- One move. A move its party cannot make changes nothing. -/
def step (w : World) : Move → World
  | .stop => { w with stop := true }
  | .poll ok => if w.loop = .idle then { w with connected := ok } else w
  | .release =>
    if w.loop = .idle ∧ w.connected = false then
      { w with slot := w.fresh .disconnected, next := w.next + 1 }
    else w
  | .adopt =>
    if w.loop = .idle ∧ w.connected = false then
      { w with slot := w.fresh .port, next := w.next + 1, connected := true }
    else w
  | .exit => if w.loop = .idle ∧ w.stop = true then w.exit else w
  | .recv => if w.loop = .idle ∧ w.stop = false then w.recv else w
  | .refuse =>
    match w.loop with
    | .lending b => if !w.connected && !(w.ex b).acceptDisconnected then w.refuse b .notConnected else w
    | _ => w
  | .swap =>
    match w.loop with
    | .lending b => if w.connected || (w.ex b).acceptDisconnected then w.swap b else w
    | _ => w
  | .swapFails =>
    match w.loop with
    | .lending b => if w.connected || (w.ex b).acceptDisconnected then w.refuse b .noPollLoop else w
    | _ => w
  | .answer => match w.loop with
    | .handing b port => w.answer b port
    | _ => w
  | .wake => match w.loop with
    | .waiting b => match (w.ex b).stage with
      | .taken port => w.wake b port
      | _ => w
    | _ => w
  | .finish => match w.loop with
    | .settling b => w.finish b
    | _ => w
  | .ask b accept =>
    if (w.ex b).asker = .absent then w.update b { w.ex b with acceptDisconnected := accept, asker := .sending } else w
  | .send b => if (w.ex b).asker = .sending then w.send b else w
  | .sendTimeout b =>
    if (w.ex b).asker = .sending then
      w.update b { w.ex b with asker := .refused .timeout, reply := (w.ex b).reply.dropReceiver }
    else w
  | .look b => if (w.ex b).asker = .waiting then w.update b (w.ex b).look else w
  | .timeUp b => if (w.ex b).asker = .waiting then w.update b (w.ex b).timeUp else w
  | .close b =>
    if (w.ex b).asker = .late then w.update b { w.ex b with asker := .closed, reply := (w.ex b).reply.close } else w
  | .lateLook b => if (w.ex b).asker = .closed then w.update b (w.ex b).lateLook else w
  | .dropPort b => match (w.ex b).asker with
    | .holding (some _) => w.update b { w.ex b with asker := .holding none, letGo := true }
    | _ => w
  | .openPort b => match (w.ex b).asker with
    | .holding t =>
      { w with next := w.next + 1 }.update b { w.ex b with
        asker := .holding (some (w.fresh .port)), letGo := (w.ex b).letGo || t.isSome }
    | _ => w
  | .giveBack b path => match (w.ex b).asker with
    | .holding t => w.update b ((w.ex b).giveBack t path)
    | _ => w
  | .settled b => match (w.ex b).asker with
    | .returning ret => w.update b ((w.ex b).settle ret)
    | _ => w
  | .settleTimeout b => match (w.ex b).asker with
    | .returning ret => w.update b ((w.ex b).settleTimeout ret)
    | _ => w
  | .drop b => w.update b (w.ex b).drop

end World
end ControlOfc.PortLoan
