import DataWorkspace.Proxy.WebSockets

/-!
# Runs of the two tasks of a web socket

`Sound` says where the two tasks can be when the other one is at some point.  With it `relayed`
says what a run has written to either side, and `no_deadlock` that the tasks only wait for peers
that are there: whichever of them ends, the other one ends too.
-/

namespace Proxy.WebSockets

open Py Async

/-! ## Steps -/

/-- What a socket has heard, read or not. -/
def Socket.arrived (ws : Socket) : List Msg := ws.received ++ ws.inbox

/-- The messages that an action brings from the application. -/
def Action.from_upstream : Action → List Msg
  | .arrive_upstream msg => [msg]
  | _ => []

def Action.from_downstream : Action → List Msg
  | .arrive_downstream msg => [msg]
  | _ => []

/-- An action of one of the tasks. -/
def Action.own : Action → Bool
  | .arrive_upstream _ => false
  | .arrive_downstream _ => false
  | .hang_up_upstream => false
  | .hang_up_downstream => false
  | _ => true

/-- A peer has sent some messages, or hung up. -/
structure Heard (ws ws' : Socket) (msgs : List Msg) : Prop where
  same : ws' = { ws with inbox := ws.inbox ++ msgs, hung_up := ws'.hung_up }
  stays : ws.hung_up → ws'.hung_up

theorem Heard.refl (ws : Socket) : Heard ws ws [] := ⟨by rw [List.append_nil], id⟩

theorem heard_arrive {ws ws' : Socket} {msg : Msg} (h : ws.arrive msg = some ws') :
    Heard ws ws' [msg] := by
  rw [Socket.arrive] at h
  split at h
  next => exact Option.some.inj h ▸ ⟨rfl, id⟩
  next => cases h

theorem heard_hang_up {ws ws' : Socket} (h : ws.hang_up = some ws') : Heard ws ws' [] := by
  rw [Socket.hang_up] at h
  split at h
  next => exact Option.some.inj h ▸ ⟨by rw [List.append_nil], fun _ => rfl⟩
  next => cases h

theorem step_cases {r r' : Relay} {a : Action} (hs : r.step a = some r') :
    (a.own = false ∧ ∃ upstream_ws downstream_ws, Heard r.upstream_ws upstream_ws a.from_upstream ∧
      Heard r.downstream_ws downstream_ws a.from_downstream ∧
      r' = { r with upstream_ws := upstream_ws, downstream_ws := downstream_ws }) ∨
    (r.cancelled ∧ r.step_cancel = some r' ∨ r.step_main a = some r' ∨
      r.cancelled = false ∧ r.step_up a = some r') ∧
      a.from_upstream = [] ∧ a.from_downstream = [] := by
  cases a with
  | arrive_upstream msg =>
      obtain ⟨ws, hws, rfl⟩ := Option.map_eq_some_iff.mp hs
      exact .inl ⟨rfl, ws, r.downstream_ws, heard_arrive hws, .refl _, rfl⟩
  | arrive_downstream msg =>
      obtain ⟨ws, hws, rfl⟩ := Option.map_eq_some_iff.mp hs
      exact .inl ⟨rfl, r.upstream_ws, ws, .refl _, heard_arrive hws, rfl⟩
  | hang_up_upstream =>
      obtain ⟨ws, hws, rfl⟩ := Option.map_eq_some_iff.mp hs
      exact .inl ⟨rfl, ws, r.downstream_ws, heard_hang_up hws, .refl _, rfl⟩
  | hang_up_downstream =>
      obtain ⟨ws, hws, rfl⟩ := Option.map_eq_some_iff.mp hs
      exact .inl ⟨rfl, r.upstream_ws, ws, .refl _, heard_hang_up hws, rfl⟩
  | up_cancel =>
      simp only [Relay.step] at hs
      split at hs
      next hcancelled => exact .inr ⟨.inl ⟨hcancelled, hs⟩, rfl, rfl⟩
      next => cases hs
  | _ =>
      refine .inr ⟨.inr ?_, rfl, rfl⟩
      simp only [Relay.step] at hs
      split at hs
      next hmain => exact .inl (hmain.trans hs)
      next =>
        split at hs
        next => cases hs
        next hcancelled => exact .inr ⟨by simpa using hcancelled, hs⟩

theorem Flow.step {r r' : Relay} {a : Action} (h : Flow r) (hs : r.step a = some r') :
    Flow r' := by
  rcases step_cases hs with ⟨-, up, down, hup, hdown, rfl⟩ | ⟨⟨-, hs⟩ | hs | ⟨-, hs⟩, -, -⟩
  · exact h.peers ⟨by rw [hup.same], by rw [hup.same]⟩ ⟨by rw [hdown.same], by rw [hdown.same]⟩
  · exact h.step_cancel hs
  · exact h.step_main hs
  · exact h.step_up hs

/-! ## Where the tasks can be -/

/-- The loop of the task has begun. -/
@[grind =]
def Up.bound : Up → Bool
  | .reading => true
  | .holding _ => true
  | .leaving bound => bound
  | .closing => true
  | _ => false

/-- The loop of the handler has begun. -/
@[grind =]
def Main.prepared : Main → Bool
  | .reading => true
  | .holding _ => true
  | .returned => true
  | _ => false

structure Sound (r : Relay) : Prop where
  opened_up : r.upstream_connection = .result → r.upstream_ws.opened
  opened_down : r.downstream_connection → r.downstream_ws.opened
  written_up : r.upstream_ws.sent ≠ [] → r.upstream_ws.opened ∧ r.downstream_ws.opened
  written_down : r.downstream_ws.sent ≠ [] → r.upstream_ws.opened ∧ r.downstream_ws.opened
  pending : r.upstream_connection = .pending ↔ r.up = .connecting
  failed : r.upstream_connection = .exception → r.up = .ended
  connected : r.main.prepared ∨ r.main = .preparing → r.upstream_connection = .result
  handed : r.main.prepared → r.downstream_connection
  taken : r.up.bound → r.downstream_connection
  left : r.up = .closing ∨ r.up = .ended →
    r.upstream_connection = .exception ∨ r.upstream_ws.closed
  cancels : r.cancelled → r.main.ended
  seen : r.main.ended → r.cancelled ∨ r.up.running = false
  unbound : r.up = .leaving false → r.main.ended
  closed_down : r.up = .ended →
    r.upstream_connection = .exception ∨ r.downstream_ws.closed ∨ r.main.ended
  returned : r.main = .returned → r.downstream_ws.closed

namespace Sound

variable {r r' : Relay} {a : Action}

theorem start : Sound start := by
  constructor <;>
    simp [WebSockets.start, Socket.unopened, Main.prepared, Up.bound, Main.ended, Up.running]

theorem peers (h : Sound r) {up down : Socket} {msgs msgs' : List Msg}
    (hup : Heard r.upstream_ws up msgs) (hdown : Heard r.downstream_ws down msgs') :
    Sound { r with upstream_ws := up, downstream_ws := down } := by
  obtain ⟨h1, h2, h3, h4, h5, h6, h7, h8, h9, h10, h11, h12, h13, h14, h15⟩ := h
  have hup := hup.same
  have hdown := hdown.same
  constructor <;> grind

theorem result (h : Sound r) (hup : r.up ≠ .connecting ∧ r.up ≠ .ended) :
    r.upstream_connection = .result := by
  cases hconnection : r.upstream_connection with
  | pending => exact absurd (h.pending.mp hconnection) hup.1
  | result => rfl
  | exception => exact absurd (h.failed hconnection) hup.2

section Up

variable (h : Sound r) (hc : r.cancelled = false)
include h hc

theorem connect (hs : r.step_up .connect = some r') : Sound r' := by
  obtain ⟨h1, h2, h3, h4, h5, h6, h7, h8, h9, h10, h11, h12, h13, h14, h15⟩ := h
  simp only [Relay.step_up] at hs
  constructor <;> grind

theorem connect_fails (hs : r.step_up .connect_fails = some r') : Sound r' := by
  obtain ⟨h1, h2, h3, h4, h5, h6, h7, h8, h9, h10, h11, h12, h13, h14, h15⟩ := h
  simp only [Relay.step_up] at hs
  constructor <;> grind

theorem take_downstream (hs : r.step_up .take_downstream = some r') : Sound r' := by
  obtain ⟨h1, h2, h3, h4, h5, h6, h7, h8, h9, h10, h11, h12, h13, h14, h15⟩ := h
  simp only [Relay.step_up] at hs
  constructor <;> grind

theorem up_stop (hs : r.step_up .up_stop = some r') : Sound r' := by
  obtain ⟨h1, h2, h3, h4, h5, h6, h7, h8, h9, h10, h11, h12, h13, h14, h15⟩ := h
  simp only [Relay.step_up] at hs
  constructor <;> grind

theorem up_raise (hs : r.step_up .up_raise = some r') : Sound r' := by
  obtain ⟨h1, h2, h3, h4, h5, h6, h7, h8, h9, h10, h11, h12, h13, h14, h15⟩ := h
  simp only [Relay.step_up] at hs
  constructor <;> grind

theorem leave (hs : r.step_up .leave = some r') : Sound r' := by
  obtain ⟨h1, h2, h3, h4, h5, h6, h7, h8, h9, h10, h11, h12, h13, h14, h15⟩ := h
  simp only [Relay.step_up] at hs
  constructor <;> grind [Relay.left, Socket.close]

theorem close_downstream (hs : r.step_up .close_downstream = some r') : Sound r' := by
  obtain ⟨h1, h2, h3, h4, h5, h6, h7, h8, h9, h10, h11, h12, h13, h14, h15⟩ := h
  simp only [Relay.step_up] at hs
  constructor <;> grind [Relay.done, Socket.close]

theorem up_receive (hs : r.step_up .up_receive = some r') : Sound r' := by
  obtain ⟨h1, h2, h3, h4, h5, h6, h7, h8, h9, h10, h11, h12, h13, h14, h15⟩ := h
  simp only [Relay.step_up] at hs
  split at hs
  next =>
    split at hs
    next msg ws hreceive =>
      obtain rfl := Option.some.inj hs
      have hws := (receive_eq_some hreceive).2
      constructor <;> grind
    next => cases hs
  next => cases hs

theorem up_send (hs : r.step_up .up_send = some r') : Sound r' := by
  have hresult := h.result
  obtain ⟨h1, h2, h3, h4, h5, h6, h7, h8, h9, h10, h11, h12, h13, h14, h15⟩ := h
  simp only [Relay.step_up] at hs
  split at hs
  next hup =>
    have hopened := h1 (hresult (by simp [hup]))
    split at hs
    next ws hsend =>
      obtain rfl := Option.some.inj hs
      obtain ⟨hws, hclosed⟩ := proxy_msg_eq_some hsend
      constructor <;> grind
    next =>
      obtain rfl := Option.some.inj hs
      constructor <;> grind
  next => cases hs

end Up

theorem step_up (h : Sound r) (hc : r.cancelled = false) (hs : r.step_up a = some r') :
    Sound r' := by
  cases a with
  | connect => exact h.connect hc hs
  | connect_fails => exact h.connect_fails hc hs
  | take_downstream => exact h.take_downstream hc hs
  | up_receive => exact h.up_receive hc hs
  | up_send => exact h.up_send hc hs
  | up_stop => exact h.up_stop hc hs
  | up_raise => exact h.up_raise hc hs
  | leave => exact h.leave hc hs
  | close_downstream => exact h.close_downstream hc hs
  | _ => cases hs

section Cancelled

variable (h : Sound r) (hc : r.cancelled)
include h hc

theorem cancel_connecting (hup : r.up = .connecting) :
    Sound { r with cancelled := false, up := .ended, upstream_connection := .exception } := by
  have hended := h.cancels hc
  obtain ⟨h1, h2, h3, h4, h5, h6, h7, h8, h9, h10, h11, h12, h13, h14, h15⟩ := h
  constructor <;> grind

theorem cancel_running {bound : Bool} (hup : r.up.running) (hne : r.up ≠ .connecting)
    (hbound : bound = r.up.bound) :
    Sound { r with cancelled := false, up := .leaving bound } := by
  have hended := h.cancels hc
  obtain ⟨h1, h2, h3, h4, h5, h6, h7, h8, h9, h10, h11, h12, h13, h14, h15⟩ := h
  constructor <;> grind

theorem cancel_leaving {bound : Bool} (hup : r.up = .leaving bound) :
    Sound ({ r with cancelled := false }.left bound) := by
  have hended := h.cancels hc
  obtain ⟨h1, h2, h3, h4, h5, h6, h7, h8, h9, h10, h11, h12, h13, h14, h15⟩ := h
  constructor <;> grind [Relay.left, Socket.close]

theorem cancel_closing (hup : r.up = .closing) : Sound { r with cancelled := false }.done := by
  have hended := h.cancels hc
  obtain ⟨h1, h2, h3, h4, h5, h6, h7, h8, h9, h10, h11, h12, h13, h14, h15⟩ := h
  constructor <;> grind [Relay.done, Socket.close]

theorem step_cancel (hs : r.step_cancel = some r') : Sound r' := by
  simp only [Relay.step_cancel] at hs
  split at hs
  next hup => exact Option.some.inj hs ▸ h.cancel_connecting hc hup
  next hup =>
    exact Option.some.inj hs ▸ h.cancel_running hc (by rw [hup]; rfl) (by simp [hup])
      (by rw [hup]; rfl)
  next hup =>
    exact Option.some.inj hs ▸ h.cancel_running hc (by rw [hup]; rfl) (by simp [hup])
      (by rw [hup]; rfl)
  next hup =>
    exact Option.some.inj hs ▸ h.cancel_running hc (by rw [hup]; rfl) (by simp [hup])
      (by rw [hup]; rfl)
  next hup => exact Option.some.inj hs ▸ h.cancel_leaving hc hup
  next hup => exact Option.some.inj hs ▸ h.cancel_closing hc hup
  next => cases hs

end Cancelled

section Main

variable (h : Sound r)
include h

theorem take_upstream (hs : r.step_main .take_upstream = some r') : Sound r' := by
  obtain ⟨h1, h2, h3, h4, h5, h6, h7, h8, h9, h10, h11, h12, h13, h14, h15⟩ := h
  simp only [Relay.step_main] at hs
  constructor <;> grind [Relay.finish]

theorem prepare (hs : r.step_main .prepare = some r') : Sound r' := by
  obtain ⟨h1, h2, h3, h4, h5, h6, h7, h8, h9, h10, h11, h12, h13, h14, h15⟩ := h
  simp only [Relay.step_main] at hs
  constructor <;> grind

theorem main_stop (hs : r.step_main .main_stop = some r') : Sound r' := by
  obtain ⟨h1, h2, h3, h4, h5, h6, h7, h8, h9, h10, h11, h12, h13, h14, h15⟩ := h
  simp only [Relay.step_main] at hs
  constructor <;> grind [Relay.finish, Socket.close]

theorem main_raise (hs : r.step_main .main_raise = some r') : Sound r' := by
  obtain ⟨h1, h2, h3, h4, h5, h6, h7, h8, h9, h10, h11, h12, h13, h14, h15⟩ := h
  simp only [Relay.step_main] at hs
  constructor <;> grind [Relay.finish]

theorem main_receive (hs : r.step_main .main_receive = some r') : Sound r' := by
  obtain ⟨h1, h2, h3, h4, h5, h6, h7, h8, h9, h10, h11, h12, h13, h14, h15⟩ := h
  simp only [Relay.step_main] at hs
  split at hs
  next =>
    split at hs
    next msg ws hreceive =>
      obtain rfl := Option.some.inj hs
      have hws := (receive_eq_some hreceive).2
      constructor <;> grind
    next => cases hs
  next => cases hs

theorem main_send (hs : r.step_main .main_send = some r') : Sound r' := by
  obtain ⟨h1, h2, h3, h4, h5, h6, h7, h8, h9, h10, h11, h12, h13, h14, h15⟩ := h
  simp only [Relay.step_main] at hs
  split at hs
  next hmain =>
    have hopened := h1 (h7 (by simp [hmain, Main.prepared]))
    split at hs
    next ws hsend =>
      obtain rfl := Option.some.inj hs
      obtain ⟨hws, hclosed⟩ := proxy_msg_eq_some hsend
      constructor <;> grind
    next =>
      obtain rfl := Option.some.inj hs
      constructor <;> grind [Relay.finish]
  next => cases hs

end Main

theorem step_main (h : Sound r) (hs : r.step_main a = some r') : Sound r' := by
  cases a with
  | take_upstream => exact h.take_upstream hs
  | prepare => exact h.prepare hs
  | main_receive => exact h.main_receive hs
  | main_send => exact h.main_send hs
  | main_stop => exact h.main_stop hs
  | main_raise => exact h.main_raise hs
  | _ => cases hs

theorem step (h : Sound r) (hs : r.step a = some r') : Sound r' := by
  rcases step_cases hs with ⟨-, up, down, hup, hdown, rfl⟩ | ⟨⟨hc, hs⟩ | hs | ⟨hc, hs⟩, -, -⟩
  · exact h.peers hup hdown
  · exact h.step_cancel hc hs
  · exact h.step_main hs
  · exact h.step_up hc hs

end Sound

/-! ## What has come in -/

/-- The tasks only read what has come in. -/
structure Unheard (r r' : Relay) : Prop where
  up : r'.upstream_ws.arrived = r.upstream_ws.arrived
  down : r'.downstream_ws.arrived = r.downstream_ws.arrived

theorem arrived_of_receive {ws ws' : Socket} {msg : Msg} (h : ws.receive = some (msg, ws')) :
    ws'.arrived = ws.arrived := by
  obtain ⟨hinbox, hws⟩ := receive_eq_some h
  rw [Socket.arrived, Socket.arrived, hinbox, hws, List.append_assoc, List.singleton_append]

theorem arrived_of_proxy_msg {to_ws to_ws' : Socket} {msg : Msg}
    (h : proxy_msg msg to_ws = some to_ws') : to_ws'.arrived = to_ws.arrived := by
  rw [(proxy_msg_eq_some h).1]
  rfl

theorem unheard_step_up {r r' : Relay} {a : Action} (hs : r.step_up a = some r') :
    Unheard r r' := by
  cases a <;> simp only [Relay.step_up, reduceCtorEq] at hs <;> constructor <;>
    grind [arrived_of_receive, arrived_of_proxy_msg, Socket.arrived, Relay.left, Relay.done,
      Socket.close]

theorem unheard_step_main {r r' : Relay} {a : Action} (hs : r.step_main a = some r') :
    Unheard r r' := by
  cases a <;> simp only [Relay.step_main, reduceCtorEq] at hs <;> constructor <;>
    grind [arrived_of_receive, arrived_of_proxy_msg, Socket.arrived, Relay.finish, Socket.close]

theorem unheard_step_cancel {r r' : Relay} (hs : r.step_cancel = some r') : Unheard r r' := by
  simp only [Relay.step_cancel] at hs
  split at hs <;> constructor <;> grind [Socket.arrived, Relay.left, Relay.done, Socket.close]

theorem arrived_of_heard {ws ws' : Socket} {msgs : List Msg} (h : Heard ws ws' msgs) :
    ws'.arrived = ws.arrived ++ msgs := by
  rw [h.same, Socket.arrived, Socket.arrived, List.append_assoc]

theorem arrived_step {r r' : Relay} {a : Action} (hs : r.step a = some r') :
    r'.upstream_ws.arrived = r.upstream_ws.arrived ++ a.from_upstream ∧
      r'.downstream_ws.arrived = r.downstream_ws.arrived ++ a.from_downstream := by
  rcases step_cases hs with ⟨-, up, down, hup, hdown, rfl⟩ | ⟨htask, hnone, hnone'⟩
  · exact ⟨arrived_of_heard hup, arrived_of_heard hdown⟩
  · have hsame : Unheard r r' := by
      rcases htask with ⟨-, hs⟩ | hs | ⟨-, hs⟩
      · exact unheard_step_cancel hs
      · exact unheard_step_main hs
      · exact unheard_step_up hs
    rw [hnone, hnone', List.append_nil, List.append_nil]
    exact ⟨hsame.up, hsame.down⟩

/-! ## Runs -/

theorem sound_of_run {actions : List Action} {r : Relay}
    (h : handle_websocket.after start actions = some r) : Sound r ∧ Flow r :=
  Machine.after_invariant (P := fun r => Sound r ∧ Flow r)
    (fun hr hs => ⟨hr.1.step hs, hr.2.step hs⟩) ⟨Sound.start, Flow.start⟩ h

theorem arrived_of_run : ∀ {actions : List Action} {r r' : Relay},
    handle_websocket.after r actions = some r' →
      r'.upstream_ws.arrived = r.upstream_ws.arrived ++ actions.flatMap Action.from_upstream ∧
        r'.downstream_ws.arrived = r.downstream_ws.arrived ++ actions.flatMap Action.from_downstream
  | [], r, r', h => by
      obtain rfl := Option.some.inj h
      simp
  | a :: actions, r, r', h => by
      obtain ⟨s, hs, hrest⟩ := Machine.after_cons.mp h
      obtain ⟨hup, hdown⟩ := arrived_of_run hrest
      obtain ⟨hup', hdown'⟩ := arrived_step hs
      rw [hup, hdown, hup', hdown']
      simp [List.append_assoc]

/-- What a run has written to either side. -/
structure Relayed (actions : List Action) (r : Relay) : Prop where
  /-- No data is lost but at the end, doubled or out of order. -/
  up : r.upstream_ws.sent <+: data (actions.flatMap Action.from_downstream)
  down : r.downstream_ws.sent <+: data (actions.flatMap Action.from_upstream)
  /-- A loop that waits for a message has passed on all that came in. -/
  all_up : r.main = .reading → r.downstream_ws.inbox = [] →
    r.upstream_ws.sent = data (actions.flatMap Action.from_downstream)
  all_down : r.up = .reading → r.upstream_ws.inbox = [] →
    r.downstream_ws.sent = data (actions.flatMap Action.from_upstream)
  /-- Nothing is written before both sides are connected. -/
  opened : r.upstream_ws.sent ≠ [] ∨ r.downstream_ws.sent ≠ [] →
    r.upstream_ws.opened ∧ r.downstream_ws.opened

/-- Every run of the two tasks and their peers passes on the data of each side to the other, in
order. -/
theorem relayed {actions : List Action} {r : Relay}
    (h : handle_websocket.after start actions = some r) : Relayed actions r := by
  obtain ⟨hsound, hflow⟩ := sound_of_run h
  obtain ⟨hup, hdown⟩ := arrived_of_run h
  simp only [start, Socket.unopened, Socket.arrived, List.nil_append] at hup hdown
  have hbegins : ∀ {ws : Socket} {msgs : List Msg}, ws.received ++ ws.inbox = msgs →
      data ws.received <+: data msgs := fun h => h ▸ (data_append _ _ ▸ List.prefix_append _ _)
  refine ⟨hflow.up.ordered.trans (hbegins hdown), hflow.down.ordered.trans (hbegins hup),
    fun hmain hinbox => ?_, fun hreading hinbox => ?_, ?_⟩
  · have hkept := hflow.up.kept (by simp [hmain, Main.ended])
    rw [hinbox, List.append_nil] at hdown
    simpa [hmain, Main.held, data, hdown] using hkept
  · have hkept := hflow.down.kept (by simp [hreading, Up.running])
    rw [hinbox, List.append_nil] at hup
    simpa [hreading, Up.held, data, hup] using hkept
  · rintro (hne | hne)
    · exact hsound.written_up hne
    · exact hsound.written_down hne

/-! ## The end of a run -/

/-- An action that a task takes when it can: it only raises where something goes wrong. -/
def Action.due : Action → Bool
  | .up_raise => false
  | .main_raise => false
  | a => a.own

/-- No task can go on by itself. -/
def Stuck (r : Relay) : Prop := ∀ a : Action, a.due → r.step a = none

/-- Both tasks have ended, and have closed what they opened. -/
structure Closed (r : Relay) : Prop where
  main : r.main.ended
  up : r.up = .ended
  upstream_ws : r.upstream_connection = .result → r.upstream_ws.closed
  downstream_ws : r.main = .returned → r.downstream_ws.closed

/-- Both tasks wait for messages of peers that are there. -/
structure Waiting (r : Relay) : Prop where
  main : r.main = .reading
  up : r.up = .reading
  upstream_ws : r.upstream_ws.live ∧ r.upstream_ws.inbox = []
  downstream_ws : r.downstream_ws.live ∧ r.downstream_ws.inbox = []

@[grind =]
def Main.weight : Main → Nat
  | .awaiting_upstream => 5
  | .preparing => 4
  | .holding _ => 3
  | .reading => 2
  | .returned => 0
  | .raised => 0

@[grind =]
def Up.weight : Up → Nat
  | .connecting => 6
  | .awaiting_downstream => 5
  | .holding _ => 4
  | .reading => 3
  | .leaving _ => 2
  | .closing => 1
  | .ended => 0

/-- A bound on the steps that are left when no more comes in. -/
def Relay.left_to_do (r : Relay) : Nat :=
  r.main.weight + r.up.weight + r.cancelled.toNat +
    2 * (r.upstream_ws.inbox.length + r.downstream_ws.inbox.length)

theorem length_inbox_of_receive {ws ws' : Socket} {msg : Msg} (h : ws.receive = some (msg, ws')) :
    ws.inbox.length = ws'.inbox.length + 1 := by
  rw [(receive_eq_some h).1, List.length_cons]

theorem inbox_of_proxy_msg {to_ws to_ws' : Socket} {msg : Msg}
    (h : proxy_msg msg to_ws = some to_ws') : to_ws'.inbox = to_ws.inbox := by
  rw [(proxy_msg_eq_some h).1]

theorem lt_of_step_up {r r' : Relay} {a : Action} (hs : r.step_up a = some r') :
    r'.left_to_do < r.left_to_do := by
  cases a with
  | up_receive =>
      simp only [Relay.step_up] at hs
      split at hs
      next hup =>
        split at hs
        next msg ws hreceive =>
          obtain rfl := Option.some.inj hs
          simp only [Relay.left_to_do, hup, Up.weight, length_inbox_of_receive hreceive]
          omega
        next => cases hs
      next => cases hs
  | up_send =>
      simp only [Relay.step_up] at hs
      split at hs
      next msg hup =>
        split at hs
        next ws hsend =>
          obtain rfl := Option.some.inj hs
          simp only [Relay.left_to_do, hup, Up.weight, inbox_of_proxy_msg hsend]
          omega
        next =>
          obtain rfl := Option.some.inj hs
          simp only [Relay.left_to_do, hup, Up.weight]
          omega
      next => cases hs
  | _ =>
      simp only [Relay.step_up, reduceCtorEq] at hs <;>
        grind [Relay.left_to_do, Relay.left, Relay.done, Socket.close]

theorem two_le_weight {main : Main} (h : main.ended = false) : 2 ≤ main.weight := by
  cases main <;> simp_all [Main.ended, Main.weight]

theorem lt_of_step_main {r r' : Relay} {a : Action} (hs : r.step_main a = some r') :
    r'.left_to_do < r.left_to_do := by
  have hfinish : ∀ {main : Main} {ws : Socket}, main.weight = 0 → 2 ≤ r.main.weight →
      ws.inbox = r.downstream_ws.inbox →
      (({ r with downstream_ws := ws } : Relay).finish main).left_to_do < r.left_to_do := by
    intro main ws hmain hweight hinbox
    have hcancelled : (decide (r.up ≠ .ended)).toNat ≤ 1 := Bool.toNat_le _
    simp only [Relay.left_to_do, Relay.finish, hmain, hinbox]
    omega
  cases a with
  | main_receive =>
      simp only [Relay.step_main] at hs
      split at hs
      next hmain =>
        split at hs
        next msg ws hreceive =>
          obtain rfl := Option.some.inj hs
          simp only [Relay.left_to_do, hmain, Main.weight, length_inbox_of_receive hreceive]
          omega
        next => cases hs
      next => cases hs
  | main_send =>
      simp only [Relay.step_main] at hs
      split at hs
      next msg hmain =>
        split at hs
        next ws hsend =>
          obtain rfl := Option.some.inj hs
          simp only [Relay.left_to_do, hmain, Main.weight, inbox_of_proxy_msg hsend]
          omega
        next =>
          obtain rfl := Option.some.inj hs
          exact hfinish rfl (by simp [hmain, Main.weight]) rfl
      next => cases hs
  | main_stop =>
      simp only [Relay.step_main] at hs
      split at hs
      next hmain =>
        split at hs
        next =>
          obtain rfl := Option.some.inj hs
          exact hfinish rfl (by simp [hmain, Main.weight]) rfl
        next => cases hs
      next => cases hs
  | main_raise =>
      simp only [Relay.step_main] at hs
      split at hs
      next => cases hs
      next hmain =>
        obtain rfl := Option.some.inj hs
        exact hfinish rfl (two_le_weight (by simpa using hmain)) rfl
  | take_upstream =>
      simp only [Relay.step_main] at hs
      split at hs
      next hmain _ =>
        obtain rfl := Option.some.inj hs
        simp [Relay.left_to_do, hmain, Main.weight]
      next hmain _ =>
        obtain rfl := Option.some.inj hs
        exact hfinish rfl (by simp [hmain, Main.weight]) rfl
      next => cases hs
  | prepare =>
      simp only [Relay.step_main] at hs
      split at hs
      next hmain =>
        obtain rfl := Option.some.inj hs
        simp [Relay.left_to_do, hmain, Main.weight]
      next => cases hs
  | _ => cases hs

theorem lt_of_step_cancel {r r' : Relay} (hs : r.step_cancel = some r') :
    r'.left_to_do < r.left_to_do := by
  simp only [Relay.step_cancel] at hs
  split at hs <;> grind [Relay.left_to_do, Relay.left, Relay.done, Socket.close]

theorem left_to_do_lt {r r' : Relay} {a : Action} (hs : r.step a = some r') (ha : a.own) :
    r'.left_to_do < r.left_to_do := by
  rcases step_cases hs with ⟨hpeer, -⟩ | ⟨⟨-, hs⟩ | hs | ⟨-, hs⟩, -, -⟩
  · rw [hpeer] at ha
    cases ha
  · exact lt_of_step_cancel hs
  · exact lt_of_step_main hs
  · exact lt_of_step_up hs

/-! ## Stuck states -/

theorem waits_of_none {ws : Socket} (hopened : ws.opened) (hreceive : ws.receive = none)
    (hstops : ws.stops = false) : ws.live ∧ ws.inbox = [] := by
  obtain ⟨opened, closed, hung_up, received, inbox, sent⟩ := ws
  cases inbox <;> simp_all [Socket.receive, Socket.stops, Socket.live]

theorem step_of_task {r : Relay} {a : Action} (hown : a.own) (ha : a ≠ .up_cancel) :
    r.step a = (r.step_main a).orElse fun _ => if r.cancelled then none else r.step_up a := by
  cases a with
  | arrive_upstream _ => cases hown
  | arrive_downstream _ => cases hown
  | hang_up_upstream => cases hown
  | hang_up_downstream => cases hown
  | up_cancel => exact absurd rfl ha
  | _ =>
      simp only [Relay.step]
      cases r.step_main _ <;> rfl

/-- Neither task can go on. -/
structure Stays (r : Relay) : Prop where
  main : ∀ a : Action, a.due → r.step_main a = none
  up : ∀ a : Action, a.due → r.cancelled = false → r.step_up a = none
  cancel : r.cancelled → r.step_cancel = none

theorem stays_of_stuck {r : Relay} (h : Stuck r) : Stays r := by
  have hown : ∀ a : Action, a.due → a.own := fun a ha => by cases a <;> first | rfl | exact ha
  have hnone : ∀ a : Action, a.due → a ≠ .up_cancel →
      r.step_main a = none ∧ (r.cancelled = false → r.step_up a = none) := by
    intro a ha hne
    have hstep := h a ha
    rw [step_of_task (hown a ha) hne] at hstep
    cases hmain : r.step_main a with
    | some r' => simp [hmain] at hstep
    | none =>
        refine ⟨rfl, fun hc => ?_⟩
        simpa [hmain, hc] using hstep
  refine ⟨fun a ha => ?_, fun a ha hc => ?_, fun hc => ?_⟩
  · by_cases hne : a = .up_cancel
    · exact hne ▸ rfl
    · exact (hnone a ha hne).1
  · by_cases hne : a = .up_cancel
    · exact hne ▸ rfl
    · exact (hnone a ha hne).2 hc
  · simpa [Relay.step, hc] using h .up_cancel rfl

theorem not_cancelled {r : Relay} (h : Stays r) : r.cancelled = false ∨ r.up = .ended := by
  cases hc : r.cancelled with
  | false => exact .inl rfl
  | true =>
      have hnone := h.cancel hc
      cases hup : r.up <;> simp_all [Relay.step_cancel]

theorem up_of_stays {r : Relay} (h : Stays r) : r.up = .ended ∨ r.cancelled = false ∧
    (r.up = .awaiting_downstream ∧ r.downstream_connection = false ∨
      r.up = .reading ∧ r.upstream_ws.receive = none ∧ r.upstream_ws.stops = false) := by
  rcases not_cancelled h with hc | hended
  · refine .imp_right (fun hup => ⟨hc, hup⟩) ?_
    have hconnect := h.up .connect rfl hc
    have htake := h.up .take_downstream rfl hc
    have hreceive := h.up .up_receive rfl hc
    have hsend := h.up .up_send rfl hc
    have hstop := h.up .up_stop rfl hc
    have hleave := h.up .leave rfl hc
    have hclose := h.up .close_downstream rfl hc
    cases hup : r.up <;> simp_all [Relay.step_up]
    case reading => cases hr : r.upstream_ws.receive <;> simp_all
    case holding msg => cases hm : proxy_msg msg r.downstream_ws <;> simp_all
  · exact .inl hended

theorem main_of_stays {r : Relay} (h : Stays r) : r.main.ended ∨
    r.main = .awaiting_upstream ∧ r.upstream_connection = .pending ∨
    r.main = .reading ∧ r.downstream_ws.receive = none ∧ r.downstream_ws.stops = false := by
  have htake := h.main .take_upstream rfl
  have hprepare := h.main .prepare rfl
  have hreceive := h.main .main_receive rfl
  have hsend := h.main .main_send rfl
  have hstop := h.main .main_stop rfl
  cases hmain : r.main <;> simp_all [Relay.step_main, Main.ended]
  case awaiting_upstream => cases hc : r.upstream_connection <;> simp_all
  case reading => cases hr : r.downstream_ws.receive <;> simp_all
  case holding msg => cases hm : proxy_msg msg r.upstream_ws <;> simp_all

theorem closed_or_waiting {r : Relay} (hsound : Sound r) (h : Stuck r) : Closed r ∨ Waiting r := by
  have hup := up_of_stays (stays_of_stuck h)
  rcases main_of_stays (stays_of_stuck h) with hmain | ⟨-, hpending⟩ | ⟨hmain, hreceive, hstops⟩
  · rcases hup with hup | ⟨hc, hup⟩
    · refine .inl ⟨hmain, hup, fun hresult => ?_, hsound.returned⟩
      rcases hsound.left (.inr hup) with hexception | hclosed
      · rw [hresult] at hexception
        cases hexception
      · exact hclosed
    · -- the handler has ended, so the task was cancelled
      have hrunning : r.up.running = true := by
        rcases hup with ⟨hup, -⟩ | ⟨hup, -⟩ <;> rw [hup] <;> rfl
      have hseen := hsound.seen hmain
      simp [hc, hrunning] at hseen
  · have hconnecting := hsound.pending.mp hpending
    rcases hup with hup | ⟨-, ⟨hup, -⟩ | ⟨hup, -⟩⟩ <;> rw [hconnecting] at hup <;> cases hup
  · have hresult := hsound.connected (.inl (by rw [hmain]; rfl))
    have hhanded := hsound.handed (by rw [hmain]; rfl)
    rcases hup with hup | ⟨-, ⟨hup, hnot⟩ | ⟨hup, hreceive', hstops'⟩⟩
    · rcases hsound.closed_down hup with hexception | hclosed | hended
      · rw [hresult] at hexception
        cases hexception
      · simp [Socket.stops, hclosed] at hstops
      · rw [hmain] at hended
        cases hended
    · rw [hnot] at hhanded
      cases hhanded
    · exact .inr ⟨hmain, hup, waits_of_none (hsound.opened_up hresult) hreceive' hstops',
        waits_of_none (hsound.opened_down hhanded) hreceive hstops⟩

theorem length_add_left_to_do : ∀ {actions : List Action} {r r' : Relay},
    handle_websocket.after r actions = some r' → (∀ a ∈ actions, a.own) →
      actions.length + r'.left_to_do ≤ r.left_to_do
  | [], r, r', h, _ => by
      obtain rfl := Option.some.inj h
      simp
  | a :: actions, r, r', h, hown => by
      obtain ⟨s, hs, hrest⟩ := Machine.after_cons.mp h
      rw [List.forall_mem_cons] at hown
      have hlt := left_to_do_lt hs hown.1
      have hle := length_add_left_to_do hrest hown.2
      rw [List.length_cons]
      omega

/-- The tasks only wait for messages, and only of peers that are there: after the last message
they take a bounded number of steps, until both wait for a peer that has not hung up, or both
have ended and closed what they opened. -/
theorem no_deadlock {actions : List Action} {r : Relay}
    (h : handle_websocket.after start actions = some r) :
    (Stuck r → Closed r ∨ Waiting r) ∧
      ∀ (more : List Action) (r' : Relay), (∀ a ∈ more, a.own) →
        handle_websocket.after r more = some r' → more.length ≤ r.left_to_do := by
  refine ⟨closed_or_waiting (sound_of_run h).1, fun more r' hown hmore => ?_⟩
  have hle := length_add_left_to_do hmore hown
  omega

/-- A browser and an application that write to each other, until the browser hangs up. -/
def exampleRun : List Action :=
  [.connect, .take_upstream, .prepare, .arrive_downstream (.text "ls"), .take_downstream,
    .arrive_upstream (.binary [104, 105]), .main_receive, .up_receive, .main_send, .up_send,
    .hang_up_downstream, .main_stop, .up_cancel, .leave, .close_downstream]

theorem exampleRun_relayed : ∃ r, handle_websocket.after start exampleRun = some r ∧
    Relayed exampleRun r := by
  have h : (handle_websocket.after start exampleRun).isSome := by decide
  obtain ⟨r, hr⟩ := Option.isSome_iff_exists.mp h
  exact ⟨r, hr, relayed hr⟩

/-- The state at its end. -/
def exampleEnd : Relay where
  main := .returned
  up := .ended
  upstream_connection := .result
  downstream_connection := true
  cancelled := false
  upstream_ws := ⟨true, true, false, [.binary [104, 105]], [], [.text "ls"]⟩
  downstream_ws := ⟨true, true, true, [.text "ls"], [], [.binary [104, 105]]⟩

theorem exampleEnd_closed : (Closed exampleEnd ∨ Waiting exampleEnd) ∧
    ∀ (more : List Action) (r' : Relay), (∀ a ∈ more, a.own) →
      handle_websocket.after exampleEnd more = some r' → more.length ≤ exampleEnd.left_to_do := by
  have hend : handle_websocket.after start exampleRun = some exampleEnd := by decide
  have hstuck : Stuck exampleEnd := fun a _ => by
    cases a <;> rfl
  exact ⟨(no_deadlock hend).1 hstuck, (no_deadlock hend).2⟩

end Proxy.WebSockets
