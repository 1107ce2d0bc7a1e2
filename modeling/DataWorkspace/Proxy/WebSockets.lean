import DataWorkspace.Async.Machine
import DataWorkspace.Py.Utf8

/-!
# Web sockets through the proxy

`handle_websocket` runs two tasks.  One prepares the socket of the browser and reads from it, the
other connects to the application and reads from there, and each writes what it reads to the
socket of the other.  A future hands each socket over, and whichever task ends first brings the
other one down: the handler cancels the task, and the task closes the browser's socket.

Between any two steps messages come in, peers hang up and requests are cancelled.  `Flow` is what
all steps keep of the messages: one that was read is written, or held in between.
-/

namespace Proxy.WebSockets

open Py Async

/-! ## Sockets -/

/-- A message that the loop over a socket yields. -/
inductive Msg where
  | text (data : Str)
  | binary (data : Bytes)
  | error
deriving DecidableEq

def Msg.isData : Msg → Bool
  | .error => false
  | _ => true

/-- The messages of a list that are sent on. -/
def data (msgs : List Msg) : List Msg := msgs.filter Msg.isData

structure Socket where
  opened : Bool
  closed : Bool
  /-- The peer has closed its side: no more comes in. -/
  hung_up : Bool
  /-- What the loop over the socket has yielded. -/
  received : List Msg
  /-- What has come in since. -/
  inbox : List Msg
  /-- What was written to it. -/
  sent : List Msg
deriving DecidableEq

namespace Socket

def unopened : Socket := ⟨false, false, false, [], [], []⟩

def live (ws : Socket) : Bool := ws.opened && !ws.closed && !ws.hung_up

def arrive (ws : Socket) (msg : Msg) : Option Socket :=
  if ws.live then some { ws with inbox := ws.inbox ++ [msg] } else none

def hang_up (ws : Socket) : Option Socket :=
  if ws.live then some { ws with hung_up := true } else none

/-- A message for the loop over the socket. -/
def receive (ws : Socket) : Option (Msg × Socket) :=
  if ws.closed then none
  else
    match ws.inbox with
    | [] => none
    | msg :: inbox => some (msg, { ws with inbox := inbox, received := ws.received ++ [msg] })

/-- The loop over the socket ends: it is closed, or the peer hung up and all is read. -/
def stops (ws : Socket) : Bool := ws.closed || ws.hung_up && ws.inbox.isEmpty

def close (ws : Socket) : Socket := { ws with closed := true }

end Socket

/-- `proxy_msg`.  It raises where the socket is closed. -/
def proxy_msg (msg : Msg) (to_ws : Socket) : Option Socket :=
  match msg with
  | .error => some to_ws.close
  | msg => if to_ws.closed then none else some { to_ws with sent := to_ws.sent ++ [msg] }

/-! ## The two tasks -/

/-- Where the handler is. -/
inductive Main where
  | awaiting_upstream
  | preparing
  | reading
  | holding (msg : Msg)
  | returned
  | raised
deriving DecidableEq

namespace Main

@[grind =]
def ended : Main → Bool
  | returned => true
  | raised => true
  | _ => false

def held : Main → List Msg
  | holding msg => [msg]
  | _ => []

end Main

/-- Where the task of `upstream` is. -/
inductive Up where
  | connecting
  | awaiting_downstream
  | reading
  | holding (msg : Msg)
  /-- At the end of `async with`, and whether `downstream_ws` is bound. -/
  | leaving (bound : Bool)
  /-- In `finally`. -/
  | closing
  | ended
deriving DecidableEq

def Up.held : Up → List Msg
  | holding msg => [msg]
  | _ => []

/-- The future of the connection to the application. -/
inductive Connection where
  | pending
  | result
  | exception
deriving DecidableEq

structure Relay where
  main : Main
  up : Up
  upstream_connection : Connection
  downstream_connection : Bool
  /-- `upstream_task.cancel()` was called, and the task has not seen it yet. -/
  cancelled : Bool
  upstream_ws : Socket
  downstream_ws : Socket
deriving DecidableEq

def start : Relay where
  main := .awaiting_upstream
  up := .connecting
  upstream_connection := .pending
  downstream_connection := false
  cancelled := false
  upstream_ws := .unopened
  downstream_ws := .unopened

inductive Action where
  | arrive_upstream (msg : Msg)
  | arrive_downstream (msg : Msg)
  | hang_up_upstream
  | hang_up_downstream
  | connect
  | connect_fails
  | take_downstream
  | up_receive
  | up_send
  | up_stop
  /-- The task raises in its loop. -/
  | up_raise
  /-- The task sees that it was cancelled. -/
  | up_cancel
  | leave
  | close_downstream
  | take_upstream
  | prepare
  | main_receive
  | main_send
  | main_stop
  /-- The handler raises, or it is cancelled. -/
  | main_raise
deriving DecidableEq

namespace Relay

/-- The handler ends, and `finally` cancels the other task. -/
def finish (r : Relay) (main : Main) : Relay :=
  { r with main := main, cancelled := r.up ≠ .ended }

/-- The end of `async with` closes the connection, and `finally` comes next. -/
def left (r : Relay) (bound : Bool) : Relay :=
  { r with up := if bound then .closing else .ended, upstream_ws := r.upstream_ws.close }

/-- The end of the task. -/
def done (r : Relay) : Relay := { r with up := .ended, downstream_ws := r.downstream_ws.close }

def step_up (r : Relay) : Action → Option Relay
  | .connect =>
      match r.up with
      | .connecting => some { r with
          up := .awaiting_downstream
          upstream_connection := .result
          upstream_ws := { r.upstream_ws with opened := true } }
      | _ => none
  | .connect_fails =>
      match r.up with
      | .connecting => some { r with up := .ended, upstream_connection := .exception }
      | _ => none
  | .take_downstream =>
      match r.up with
      | .awaiting_downstream =>
          if r.downstream_connection then some { r with up := .reading } else none
      | _ => none
  | .up_receive =>
      match r.up with
      | .reading =>
          match r.upstream_ws.receive with
          | some (msg, upstream_ws) =>
              some { r with up := .holding msg, upstream_ws := upstream_ws }
          | none => none
      | _ => none
  | .up_send =>
      match r.up with
      | .holding msg =>
          match proxy_msg msg r.downstream_ws with
          | some downstream_ws => some { r with up := .reading, downstream_ws := downstream_ws }
          | none => some { r with up := .leaving true }
      | _ => none
  | .up_stop =>
      match r.up with
      | .reading => if r.upstream_ws.stops then some { r with up := .leaving true } else none
      | _ => none
  | .up_raise =>
      match r.up with
      | .reading => some { r with up := .leaving true }
      | .holding _ => some { r with up := .leaving true }
      | _ => none
  | .leave =>
      match r.up with
      | .leaving bound => some (r.left bound)
      | _ => none
  | .close_downstream =>
      match r.up with
      | .closing => some r.done
      | _ => none
  | _ => none

def step_cancel (r : Relay) : Option Relay :=
  let r := { r with cancelled := false }
  match r.up with
  | .connecting => some { r with up := .ended, upstream_connection := .exception }
  | .awaiting_downstream => some { r with up := .leaving false }
  | .reading => some { r with up := .leaving true }
  | .holding _ => some { r with up := .leaving true }
  | .leaving bound => some (r.left bound)
  | .closing => some r.done
  | .ended => none

def step_main (r : Relay) : Action → Option Relay
  | .take_upstream =>
      match r.main, r.upstream_connection with
      | .awaiting_upstream, .result => some { r with main := .preparing }
      | .awaiting_upstream, .exception => some (r.finish .raised)
      | _, _ => none
  | .prepare =>
      match r.main with
      | .preparing => some { r with
          main := .reading
          downstream_connection := true
          downstream_ws := { r.downstream_ws with opened := true } }
      | _ => none
  | .main_receive =>
      match r.main with
      | .reading =>
          match r.downstream_ws.receive with
          | some (msg, downstream_ws) =>
              some { r with main := .holding msg, downstream_ws := downstream_ws }
          | none => none
      | _ => none
  | .main_send =>
      match r.main with
      | .holding msg =>
          match proxy_msg msg r.upstream_ws with
          | some upstream_ws => some { r with main := .reading, upstream_ws := upstream_ws }
          | none => some (r.finish .raised)
      | _ => none
  | .main_stop =>
      match r.main with
      | .reading =>
          if r.downstream_ws.stops then
            some ({ r with downstream_ws := r.downstream_ws.close }.finish .returned)
          else none
      | _ => none
  | .main_raise => if r.main.ended then none else some (r.finish .raised)
  | _ => none

/-- A step of a peer, of the task or of the handler.  A task that was cancelled sees that
first. -/
def step (r : Relay) : Action → Option Relay
  | .arrive_upstream msg =>
      (r.upstream_ws.arrive msg).map fun ws => { r with upstream_ws := ws }
  | .arrive_downstream msg =>
      (r.downstream_ws.arrive msg).map fun ws => { r with downstream_ws := ws }
  | .hang_up_upstream => r.upstream_ws.hang_up.map fun ws => { r with upstream_ws := ws }
  | .hang_up_downstream => r.downstream_ws.hang_up.map fun ws => { r with downstream_ws := ws }
  | .up_cancel => if r.cancelled then r.step_cancel else none
  | a =>
      match r.step_main a with
      | some r' => some r'
      | none => if r.cancelled then none else r.step_up a

end Relay

/-- `handle_websocket`. -/
def handle_websocket : Machine Relay Action := ⟨Relay.step⟩

/-! ## Messages -/

theorem data_append (msgs msgs' : List Msg) : data (msgs ++ msgs') = data msgs ++ data msgs' :=
  List.filter_append ..

theorem receive_eq_some {ws ws' : Socket} {msg : Msg} (h : ws.receive = some (msg, ws')) :
    ws.inbox = msg :: ws'.inbox ∧
      ws' = { ws with inbox := ws'.inbox, received := ws.received ++ [msg] } := by
  rw [Socket.receive] at h
  split at h
  next => cases h
  next =>
    split at h
    next => cases h
    next inbox hinbox =>
      obtain ⟨rfl, rfl⟩ := Prod.mk.inj (Option.some.inj h)
      exact ⟨hinbox, rfl⟩

theorem proxy_msg_eq_some {to_ws to_ws' : Socket} {msg : Msg}
    (h : proxy_msg msg to_ws = some to_ws') :
    to_ws' = { to_ws with sent := to_ws.sent ++ data [msg], closed := to_ws'.closed } ∧
      (to_ws.closed → to_ws'.closed) := by
  cases msg with
  | error =>
      obtain rfl := Option.some.inj h
      simp [Socket.close, data, Msg.isData]
  | text s =>
      simp only [proxy_msg] at h
      split at h
      next => cases h
      next =>
        obtain rfl := Option.some.inj h
        exact ⟨rfl, id⟩
  | binary s =>
      simp only [proxy_msg] at h
      split at h
      next => cases h
      next =>
        obtain rfl := Option.some.inj h
        exact ⟨rfl, id⟩

/-- What has been read of one side and written to the other, with what is held in between. -/
structure Carried (from_ws to_ws : Socket) (held : List Msg) (running : Bool) : Prop where
  kept : running → to_ws.sent ++ data held = data from_ws.received
  ordered : to_ws.sent <+: data from_ws.received

namespace Carried

variable {from_ws from_ws' to_ws to_ws' : Socket} {held : List Msg} {running running' : Bool}
  {msg : Msg}

theorem receive (h : Carried from_ws to_ws [] running)
    (hreceive : from_ws.receive = some (msg, from_ws')) :
    Carried from_ws' to_ws [msg] running := by
  obtain ⟨-, hws⟩ := receive_eq_some hreceive
  have hdata : data from_ws'.received = data from_ws.received ++ data [msg] := by
    rw [hws, data_append]
  constructor
  · intro hr
    have hkept := h.kept hr
    rw [hdata, ← hkept]
    simp [data]
  · rw [hdata]
    exact h.ordered.trans (List.prefix_append _ _)

theorem send (h : Carried from_ws to_ws [msg] true) (hsend : proxy_msg msg to_ws = some to_ws') :
    Carried from_ws to_ws' [] true := by
  have hkept := h.kept rfl
  have hsent : to_ws'.sent = data from_ws.received := by
    rw [(proxy_msg_eq_some hsend).1, ← hkept]
  exact ⟨fun _ => by simp [hsent, data], hsent ▸ List.prefix_rfl⟩

theorem congr (h : Carried from_ws to_ws held running)
    (hreceived : from_ws'.received = from_ws.received) (hsent : to_ws'.sent = to_ws.sent) :
    Carried from_ws' to_ws' held running :=
  ⟨fun hr => by rw [hsent, hreceived, h.kept hr], by rw [hsent, hreceived]; exact h.ordered⟩

end Carried

/-- The task has not left its loop. -/
@[grind =]
def Up.running : Up → Bool
  | .connecting => true
  | .awaiting_downstream => true
  | .reading => true
  | .holding _ => true
  | _ => false

structure Flow (r : Relay) : Prop where
  up : Carried r.downstream_ws r.upstream_ws r.main.held (!r.main.ended)
  down : Carried r.upstream_ws r.downstream_ws r.up.held r.up.running

namespace Flow

variable {r r' : Relay} {a : Action}

theorem start : Flow start := by
  constructor <;> constructor <;> simp [WebSockets.start, Socket.unopened, data, Main.held, Up.held]

theorem of_same (h : Flow r)
    (hmain : r'.main.ended = false → r.main.ended = false ∧ r'.main.held = r.main.held)
    (hup : r'.up.running → r.up.running ∧ r'.up.held = r.up.held)
    (hreceived : r'.downstream_ws.received = r.downstream_ws.received ∧
      r'.upstream_ws.received = r.upstream_ws.received)
    (hsent : r'.downstream_ws.sent = r.downstream_ws.sent ∧
      r'.upstream_ws.sent = r.upstream_ws.sent) : Flow r' := by
  constructor
  · constructor
    · intro hr
      obtain ⟨hrunning, hheld⟩ := hmain (by simpa using hr)
      rw [hheld, hreceived.1, hsent.2]
      exact h.up.kept (by simp [hrunning])
    · rw [hreceived.1, hsent.2]
      exact h.up.ordered
  · constructor
    · intro hr
      obtain ⟨hrunning, hheld⟩ := hup hr
      rw [hheld, hreceived.2, hsent.1]
      exact h.down.kept hrunning
    · rw [hreceived.2, hsent.1]
      exact h.down.ordered

theorem finish (h : Flow r) {main : Main} (hmain : main.ended = true) : Flow (r.finish main) :=
  h.of_same (fun hr => by simp [Relay.finish, hmain] at hr) (fun hr => ⟨hr, rfl⟩) ⟨rfl, rfl⟩
    ⟨rfl, rfl⟩

theorem left (h : Flow r) (bound : Bool) : Flow (r.left bound) :=
  h.of_same (fun hr => ⟨hr, rfl⟩) (fun hr => by cases bound <;> cases hr) ⟨rfl, rfl⟩ ⟨rfl, rfl⟩

theorem done (h : Flow r) : Flow r.done :=
  h.of_same (fun hr => ⟨hr, rfl⟩) (fun hr => by cases hr) ⟨rfl, rfl⟩ ⟨rfl, rfl⟩

theorem leave (h : Flow r) {up : Up} (hup : up.running = false) (connection : Connection) :
    Flow { r with up := up, upstream_connection := connection } :=
  h.of_same (fun hr => ⟨hr, rfl⟩) (fun hr => by rw [hup] at hr; cases hr) ⟨rfl, rfl⟩ ⟨rfl, rfl⟩

theorem step_up (h : Flow r) (hs : r.step_up a = some r') : Flow r' := by
  cases a with
  | connect =>
      simp only [Relay.step_up] at hs
      split at hs
      next hup =>
        obtain rfl := Option.some.inj hs
        exact h.of_same (fun hr => ⟨hr, rfl⟩) (fun _ => by simp [hup, Up.running, Up.held])
          ⟨rfl, rfl⟩ ⟨rfl, rfl⟩
      next => cases hs
  | connect_fails =>
      simp only [Relay.step_up] at hs
      split at hs
      next =>
        obtain rfl := Option.some.inj hs
        exact h.leave rfl _
      next => cases hs
  | take_downstream =>
      simp only [Relay.step_up] at hs
      split at hs
      next hup =>
        split at hs
        next =>
          obtain rfl := Option.some.inj hs
          exact h.of_same (fun hr => ⟨hr, rfl⟩) (fun _ => by simp [hup, Up.running, Up.held])
            ⟨rfl, rfl⟩ ⟨rfl, rfl⟩
        next => cases hs
      next => cases hs
  | up_receive =>
      simp only [Relay.step_up] at hs
      split at hs
      next hup =>
        split at hs
        next msg ws hreceive =>
          obtain rfl := Option.some.inj hs
          have hdown := h.down
          rw [hup] at hdown
          exact ⟨h.up.congr rfl (by rw [(receive_eq_some hreceive).2]), hdown.receive hreceive⟩
        next => cases hs
      next => cases hs
  | up_send =>
      simp only [Relay.step_up] at hs
      split at hs
      next msg hup =>
        have hdown := h.down
        rw [hup] at hdown
        split at hs
        next ws hsend =>
          obtain rfl := Option.some.inj hs
          exact ⟨h.up.congr (by rw [(proxy_msg_eq_some hsend).1]) rfl, hdown.send hsend⟩
        next =>
          obtain rfl := Option.some.inj hs
          exact h.leave rfl _
      next => cases hs
  | up_stop =>
      simp only [Relay.step_up] at hs
      split at hs
      next =>
        split at hs
        next =>
          obtain rfl := Option.some.inj hs
          exact h.leave rfl _
        next => cases hs
      next => cases hs
  | up_raise =>
      simp only [Relay.step_up] at hs
      split at hs
      next =>
        obtain rfl := Option.some.inj hs
        exact h.leave rfl _
      next =>
        obtain rfl := Option.some.inj hs
        exact h.leave rfl _
      next => cases hs
  | leave =>
      simp only [Relay.step_up] at hs
      split at hs
      next bound hup =>
        obtain rfl := Option.some.inj hs
        exact h.left bound
      next => cases hs
  | close_downstream =>
      simp only [Relay.step_up] at hs
      split at hs
      next =>
        obtain rfl := Option.some.inj hs
        exact h.done
      next => cases hs
  | _ => cases hs

theorem step_cancel (h : Flow r) (hs : r.step_cancel = some r') : Flow r' := by
  have h' : Flow { r with cancelled := false } := ⟨h.up, h.down⟩
  simp only [Relay.step_cancel] at hs
  split at hs
  next =>
    obtain rfl := Option.some.inj hs
    exact h'.leave rfl _
  next =>
    obtain rfl := Option.some.inj hs
    exact h'.leave rfl _
  next =>
    obtain rfl := Option.some.inj hs
    exact h'.leave rfl _
  next =>
    obtain rfl := Option.some.inj hs
    exact h'.leave rfl _
  next bound _ =>
    obtain rfl := Option.some.inj hs
    exact h'.left bound
  next =>
    obtain rfl := Option.some.inj hs
    exact h'.done
  next => cases hs

theorem step_main (h : Flow r) (hs : r.step_main a = some r') : Flow r' := by
  cases a with
  | take_upstream =>
      simp only [Relay.step_main] at hs
      split at hs
      next hmain _ =>
        obtain rfl := Option.some.inj hs
        exact h.of_same (fun _ => by simp [hmain, Main.ended, Main.held]) (fun hr => ⟨hr, rfl⟩)
          ⟨rfl, rfl⟩ ⟨rfl, rfl⟩
      next =>
        obtain rfl := Option.some.inj hs
        exact h.finish rfl
      next => cases hs
  | prepare =>
      simp only [Relay.step_main] at hs
      split at hs
      next hmain =>
        obtain rfl := Option.some.inj hs
        exact h.of_same (fun _ => by simp [hmain, Main.ended, Main.held]) (fun hr => ⟨hr, rfl⟩)
          ⟨rfl, rfl⟩ ⟨rfl, rfl⟩
      next => cases hs
  | main_receive =>
      simp only [Relay.step_main] at hs
      split at hs
      next hmain =>
        split at hs
        next msg ws hreceive =>
          obtain rfl := Option.some.inj hs
          have hup := h.up
          rw [hmain] at hup
          exact ⟨hup.receive hreceive, h.down.congr rfl (by rw [(receive_eq_some hreceive).2])⟩
        next => cases hs
      next => cases hs
  | main_send =>
      simp only [Relay.step_main] at hs
      split at hs
      next msg hmain =>
        have hup := h.up
        rw [hmain] at hup
        split at hs
        next ws hsend =>
          obtain rfl := Option.some.inj hs
          exact ⟨hup.send hsend, h.down.congr (by rw [(proxy_msg_eq_some hsend).1]) rfl⟩
        next =>
          obtain rfl := Option.some.inj hs
          exact h.finish rfl
      next => cases hs
  | main_stop =>
      simp only [Relay.step_main] at hs
      split at hs
      next =>
        split at hs
        next =>
          obtain rfl := Option.some.inj hs
          have h' : Flow { r with downstream_ws := r.downstream_ws.close } :=
            h.of_same (fun hr => ⟨hr, rfl⟩) (fun hr => ⟨hr, rfl⟩) ⟨rfl, rfl⟩ ⟨rfl, rfl⟩
          exact h'.finish rfl
        next => cases hs
      next => cases hs
  | main_raise =>
      simp only [Relay.step_main] at hs
      split at hs
      next => cases hs
      next =>
        obtain rfl := Option.some.inj hs
        exact h.finish rfl
  | _ => cases hs

theorem peers (h : Flow r) {upstream_ws downstream_ws : Socket}
    (hup : upstream_ws.received = r.upstream_ws.received ∧ upstream_ws.sent = r.upstream_ws.sent)
    (hdown : downstream_ws.received = r.downstream_ws.received ∧
      downstream_ws.sent = r.downstream_ws.sent) :
    Flow { r with upstream_ws := upstream_ws, downstream_ws := downstream_ws } :=
  h.of_same (fun hr => ⟨hr, rfl⟩) (fun hr => ⟨hr, rfl⟩) ⟨hdown.1, hup.1⟩ ⟨hdown.2, hup.2⟩

end Flow

end Proxy.WebSockets
