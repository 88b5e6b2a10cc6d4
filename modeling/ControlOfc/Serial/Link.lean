import ControlOfc.Serial.Transport
/-! # The port, the link and the device behind it

Any number of callers share the port one exchange at a time: the poll loop reads tachometers, and
`FanController::set_pwm` writes duties, its controller locked from the call to the answer. The device takes
the frames in the order they were written and drops or applies each; a reply leaves it at some later point
and waits on the link until an exchange reads it, its own or a later one.

Frames are numbered in the order they were written and a line carries the frame it answers; neither is on
the wire.
-/
namespace ControlOfc.Serial
open OpenFan (Ch SerialError FanController FanControlError WriteCache)

/-- One frame the host wrote. -/
structure Frame where
  id : Nat
  command : Command
  deriving DecidableEq, Repr

/-- One line from the device: a reply, or debug output. -/
structure Line where
  text : List Char
  answers : Option Frame
  deriving DecidableEq, Repr

/-- The device and the two directions of the link. -/
structure Link where
  /-- How many frames were written so far. -/
  written : Nat
  inbox : List Frame
  /-- Replies the device has yet to emit. -/
  owed : List Line
  lines : List Line
  duty : Ch → U8

namespace Link

/-- A frame reaches the link. -/
def write (l : Link) (command : Command) : Link :=
  { l with written := l.written + 1, inbox := l.inbox ++ [⟨l.written, command⟩] }

/-- The device applies a command. -/
def apply (duty : Ch → U8) : Command → Ch → U8
  | .setPwm ch pwm => Function.update duty ch pwm
  | _ => duty

/-- The device takes its oldest frame. -/
def take (l : Link) (drop : Bool) (payload : List Char) : Link :=
  match l.inbox with
  | [] => l
  | f :: inbox =>
    if drop then { l with inbox := inbox }
    else
      { l with
        inbox := inbox
        owed := l.owed ++ [⟨replyLine f.command payload, some f⟩]
        duty := apply l.duty f.command }

/-- One of the replies owed goes out. -/
def emit (l : Link) (n : Nat) : Link :=
  match l.owed[n]? with
  | none => l
  | some line => { l with owed := l.owed.eraseIdx n, lines := l.lines ++ [line] }

/-- A debug line goes out. -/
def debugLine (l : Link) (text : List Char) : Link :=
  if text.head? = some '<' then l else { l with lines := l.lines ++ [⟨text, none⟩] }

/-- Every line that has not been read. -/
def unread (l : Link) : List Line := l.owed ++ l.lines

/-- No earlier write of `ch` can still be answered. -/
def Settled (l : Link) (ch : Ch) : Prop :=
  (∀ f ∈ l.inbox, ¬f.command.writes ch) ∧ ∀ line ∈ l.unread, ∀ f ∈ line.answers, ¬f.command.writes ch

instance (l : Link) (ch : Ch) : Decidable (l.Settled ch) := by
  unfold Settled
  infer_instance

end Link

/-! ## The callers -/

/-- Who holds the port, and for a write the duty it carries. -/
inductive Owner where
  | poll
  | setPwm (i : Ch) (effective : Nat)
  deriving DecidableEq, Repr

/-- The exchange under way, and the frame it wrote. -/
structure Exchange where
  owner : Owner
  await : Await
  frame : Frame
  deriving DecidableEq, Repr

/-- `percent_to_raw`, as the byte it returns. -/
def rawOf (pct : Nat) : U8 := Fin.ofNat 256 (Pwm.percentToRaw pct)

def Owner.command : Owner → Command
  | .poll => .readAllRpm
  | .setPwm i effective => .setPwm i (rawOf effective)

structure Host where
  now : Nat
  timeoutMs : Nat
  ctrl : FanController
  cache : WriteCache
  /-- A `set_pwm` that has locked the controller and waits for the port. -/
  waiting : Option (Ch × Nat)
  port : Option Exchange
  link : Link

/-- How `write_line` ends: the frame may be out even where it fails. -/
inductive Written where
  | ok
  | failed (e : SerialError) (landed : Bool)
  deriving DecidableEq

inductive HostEvent where
  | elapse (d : Nat)
  /-- A reconnect or a resume. -/
  | bump
  | setPwm (channel pwmPercent : Nat)
  /-- The `set_pwm` that waits gets the port. -/
  | sendFrame (w : Written)
  /-- The poll loop gets the port. -/
  | pollRpm (w : Written)
  /-- A round of the exchange: on the oldest line, or on an error of `read_line`. -/
  | round (err : Option SerialError)
  | take (drop : Bool) (payload : List Char)
  | emit (n : Nat)
  | debugLine (text : List Char)

namespace Host

/-- The controller is locked. -/
def ctrlLocked (s : Host) : Bool :=
  s.waiting.isSome || match s.port with
    | some ⟨.setPwm _ _, _, _⟩ => true
    | _ => false

/-- An exchange ends: a write tells the controller. -/
def finish (s : Host) (owner : Owner) (sent : Option SerialError) : Host :=
  match owner with
  | .poll => { s with port := none }
  | .setPwm i effective =>
    let (ctrl, cache, _) := s.ctrl.finishSetPwm s.cache s.now i effective sent
    { s with port := none, ctrl := ctrl, cache := cache }

/-- `transport.write_line` and the deadline after it. -/
def write (s : Host) (owner : Owner) (w : Written) : Host :=
  let frame : Frame := ⟨s.link.written, owner.command⟩
  match w with
  | .ok =>
    { s with port := some ⟨owner, .start owner.command s.timeoutMs s.now, frame⟩, link := s.link.write owner.command }
  | .failed e landed => { s with link := if landed then s.link.write owner.command else s.link }.finish owner (some e)

/-- One round of the loop: the guards, then a line. With none there, `read_line` does not return. -/
def round (s : Host) (x : Exchange) (err : Option SerialError) : Host :=
  match x.await.guards s.now with
  | some e => s.finish x.owner (some e)
  | none =>
    match err, s.link.lines with
    | some e, _ => s.finish x.owner (some e)
    | none, [] => s
    | none, line :: lines =>
      let s := { s with link := { s.link with lines := lines } }
      match x.await.onLine line.text with
      | .again a => { s with port := some { x with await := a } }
      | .done (.error e) => s.finish x.owner (some e)
      | .done (.ok _) => s.finish x.owner none

def step (s : Host) : HostEvent → Host
  | .elapse d => { s with now := s.now + d }
  | .bump => { s with cache := s.cache.invalidate }
  | .setPwm channel pwmPercent =>
    if s.ctrlLocked then s
    else
      match s.ctrl.beginSetPwm s.cache.generation s.now channel pwmPercent with
      | (ctrl, .answered _) => { s with ctrl := ctrl }
      | (ctrl, .frame i effective) => { s with ctrl := ctrl, waiting := some (i, effective) }
  | .sendFrame w =>
    match s.waiting, s.port with
    | some (i, effective), none => { s with waiting := none }.write (.setPwm i effective) w
    | _, _ => s
  | .pollRpm w => if s.port.isNone then s.write .poll w else s
  | .round err =>
    match s.port with
    | some x => s.round x err
    | none => s
  | .take drop payload => { s with link := s.link.take drop payload }
  | .emit n => { s with link := s.link.emit n }
  | .debugLine text => { s with link := s.link.debugLine text }

/-- A fresh controller on an empty link; the device may hold any duties. -/
def start (timeoutMs : Nat) (cache : WriteCache) (duty : Ch → U8) : Host where
  now := 0
  timeoutMs := timeoutMs
  ctrl := .new
  cache := cache
  waiting := none
  port := none
  link := ⟨0, [], [], [], duty⟩

/-- The line this step takes off the link, and the exchange that reads it. -/
def reads (s : Host) : HostEvent → Option (Exchange × Line)
  | .round none =>
    match s.port, s.link.lines with
    | some x, line :: _ => if x.await.guards s.now = none then some (x, line) else none
    | _, _ => none
  | _ => none

/-- The line this step takes for the reply, so that its `send_command` returns `Ok`. -/
def accepts (s : Host) (e : HostEvent) : Option (Exchange × Line) :=
  (s.reads e).filter fun (x, line) =>
    match x.await.onLine line.text with
    | .done (.ok _) => true
    | _ => false

end Host

end ControlOfc.Serial
