import Orchestrator.Frames

/-!
# The active WebSocket client

The server keeps the id of one connection, `g_ws_conn_id`, for the frames that the simulation sends.
Any number of clients may connect: the last one to open a WebSocket becomes the active client.

* `fn` — what the event handler does, for the events that have to do with connections.
* `Delivered` — the events that the event loop may have delivered.
* `active_client_is_last` — the id is that of the WebSocket connection opened last, while it is
  open.
* `no_active_client` — after it is closed there is no active client, whoever else is connected.
-/

namespace Orchestrator

/-! ## The event handler -/

/-- An event of a connection, newest first in the lists below. -/
inductive ConnEvent where
  | accept (id : ULong)
  | httpMsg (id : ULong)
  | wsOpen (id : ULong)
  | wsMsg (id : ULong) (frame : Frame)
  | close (id : ULong)

/-- What the event handler works on: the server, and `g_ws_conn_id`. -/
structure EventLoop where
  srv : Server
  gWsConnId : ULong

/-- `fn`.  It has no result for a frame whose command is a null pointer, and for a stop frame that
would cancel the thread id 0. -/
def fn (e : ConnEvent) (loop : EventLoop) : Option EventLoop :=
  match e with
  | .accept _ => some loop
  | .httpMsg _ => some loop
  | .wsOpen id => some { loop with gWsConnId := id }
  | .wsMsg _ frame =>
      match handleMessage loop.srv frame with
      | .handled srv _ => some { loop with srv := srv }
      | .nullCommand | .cancelledNobody => none
  | .close id =>
      some { loop with gWsConnId := if loop.gWsConnId = id then 0 else loop.gWsConnId }

/-- The connection that `ws_bridge_send_json_from_any_thread` wakes up. -/
def EventLoop.wakeupTarget (loop : EventLoop) : Option ULong :=
  if loop.gWsConnId ≠ 0 then some loop.gWsConnId else none

/-! ## What may happen -/

/-- The connection was accepted and not closed. -/
def IsConnected (past : List ConnEvent) (id : ULong) : Prop :=
  .accept id ∈ past ∧ .close id ∉ past

/-- The connection is an open WebSocket connection. -/
def IsOpen (past : List ConnEvent) (id : ULong) : Prop :=
  .wsOpen id ∈ past ∧ .close id ∉ past

/-- What the event loop may deliver: ids are not zero and not given twice, a connection is upgraded
at most once, and closed at most once. -/
def MayDeliver (past : List ConnEvent) : ConnEvent → Prop
  | .accept id => id ≠ 0 ∧ .accept id ∉ past
  | .httpMsg id => IsConnected past id
  | .wsOpen id => IsConnected past id ∧ .wsOpen id ∉ past
  | .wsMsg id _ => IsOpen past id
  | .close id => IsConnected past id

/-- The event loop has delivered these events.  In between the threads of a run change the
server. -/
inductive Delivered : List ConnEvent → EventLoop → Prop
  | start (srv : Server) : Delivered [] ⟨srv, 0⟩
  | event {past : List ConnEvent} {loop loop' : EventLoop} {e : ConnEvent} (h : Delivered past loop)
      (deliver : MayDeliver past e) (fn_eq : fn e loop = some loop') : Delivered (e :: past) loop'
  | threads {past : List ConnEvent} {loop : EventLoop} (srv : Server) (h : Delivered past loop) :
      Delivered past { loop with srv := srv }

/-- The WebSocket connection that was opened last. -/
def lastOpened : List ConnEvent → Option ULong
  | [] => none
  | .wsOpen id :: _ => some id
  | _ :: past => lastOpened past

variable {past : List ConnEvent} {loop loop' : EventLoop} {e : ConnEvent}

lemma mem_of_lastOpened {id : ULong} (h : lastOpened past = some id) : .wsOpen id ∈ past := by
  induction past with
  | nil => cases h
  | cons e past ih =>
      cases e with
      | wsOpen id' =>
          cases h
          exact List.mem_cons_self
      | _ => exact List.mem_cons_of_mem _ (ih h)

/-! ## The active client -/

/-- The id is that of the WebSocket connection opened last while it is open, and 0 otherwise. -/
structure ActiveClient (past : List ConnEvent) (connId : ULong) : Prop where
  nonzero : ∀ id, .accept id ∈ past → id ≠ 0
  accepted : ∀ id, .wsOpen id ∈ past → .accept id ∈ past
  none : lastOpened past = none → connId = 0
  closed : ∀ id ∈ lastOpened past, .close id ∈ past → connId = 0
  still : ∀ id ∈ lastOpened past, .close id ∉ past → connId = id

/-- An event that opens, closes and accepts nothing. -/
lemma ActiveClient.other {connId : ULong} (h : ActiveClient past connId)
    (haccept : ∀ id, e ≠ .accept id) (hopen : ∀ id, e ≠ .wsOpen id)
    (hclose : ∀ id, e ≠ .close id) : ActiveClient (e :: past) connId := by
  have hlast : lastOpened (e :: past) = lastOpened past := by
    cases e with
    | wsOpen id => exact absurd rfl (hopen id)
    | _ => rfl
  have hmem : ∀ e', e' ≠ e → (e' ∈ e :: past ↔ e' ∈ past) := fun e' hne => by
    rw [List.mem_cons, or_iff_right hne]
  refine ⟨fun id hid => ?_, fun id hid => ?_, fun hnone => ?_, fun id hid hc => ?_,
    fun id hid hc => ?_⟩
  · exact h.nonzero id ((hmem _ (haccept id).symm).mp hid)
  · exact (hmem _ (haccept id).symm).mpr (h.accepted id ((hmem _ (hopen id).symm).mp hid))
  · exact h.none (hlast ▸ hnone)
  · exact h.closed id (hlast ▸ hid) ((hmem _ (hclose id).symm).mp hc)
  · exact h.still id (hlast ▸ hid) fun hc' => hc ((hmem _ (hclose id).symm).mpr hc')

lemma ActiveClient.accept {connId id : ULong} (h : ActiveClient past connId) (hne : id ≠ 0) :
    ActiveClient (.accept id :: past) connId := by
  refine ⟨fun id' hid => ?_, fun id' hid => ?_, h.none, fun id' hid hc => ?_, fun id' hid hc => ?_⟩
  · rcases List.mem_cons.mp hid with heq | hid
    · cases heq
      exact hne
    · exact h.nonzero id' hid
  · refine List.mem_cons_of_mem _ (h.accepted id' ?_)
    simpa using hid
  · exact h.closed id' hid (by simpa using hc)
  · exact h.still id' hid (by simpa using hc)

/-- The client that opens a WebSocket becomes the active one. -/
lemma ActiveClient.wsOpen {connId id : ULong} (h : ActiveClient past connId)
    (hconn : IsConnected past id) : ActiveClient (.wsOpen id :: past) id := by
  have hopened : ∀ id' ∈ lastOpened (.wsOpen id :: past), id' = id := fun id' hid =>
    (Option.some.inj hid).symm
  refine ⟨fun id' hid => ?_, fun id' hid => ?_, fun hnone => ?_, fun id' hid hc => ?_,
    fun i hid _ => (hopened i hid).symm⟩
  · exact h.nonzero id' (by simpa using hid)
  · rcases List.mem_cons.mp hid with heq | hid
    · cases heq
      exact List.mem_cons_of_mem _ hconn.1
    · exact List.mem_cons_of_mem _ (h.accepted _ hid)
  · cases hnone
  · rw [hopened id' hid] at hc
    exact absurd (by simpa using hc) hconn.2

/-- The id is cleared when the active client closes its connection, and only then. -/
lemma ActiveClient.close {connId id : ULong} (h : ActiveClient past connId)
    (hconn : IsConnected past id) :
    ActiveClient (.close id :: past) (if connId = id then 0 else connId) := by
  have hne : id ≠ 0 := h.nonzero id hconn.1
  refine ⟨fun id' hid => ?_, fun id' hid => ?_, fun hnone => ?_, fun id' hid hc => ?_,
    fun id' hid hc => ?_⟩
  · exact h.nonzero id' (by simpa using hid)
  · exact List.mem_cons_of_mem _ (h.accepted id' (by simpa using hid))
  · rw [h.none hnone, if_neg hne.symm]
  · rcases List.mem_cons.mp hc with heq | hc
    · cases heq
      rw [h.still _ hid hconn.2, if_pos rfl]
    · rw [h.closed id' hid hc, if_neg hne.symm]
  · obtain ⟨hne', hc⟩ : id' ≠ id ∧ .close id' ∉ past := by simpa using hc
    rw [h.still id' hid hc, if_neg hne']

lemma ActiveClient.step (h : ActiveClient past loop.gWsConnId) (hdeliver : MayDeliver past e)
    (hfn : fn e loop = some loop') : ActiveClient (e :: past) loop'.gWsConnId := by
  cases e with
  | accept id =>
      cases hfn
      exact h.accept hdeliver.1
  | httpMsg id =>
      cases hfn
      exact h.other (by simp) (by simp) (by simp)
  | wsOpen id =>
      cases hfn
      exact h.wsOpen hdeliver.1
  | wsMsg id frame =>
      have hsame : loop'.gWsConnId = loop.gWsConnId := by
        rw [fn] at hfn
        split at hfn
        · cases hfn
          rfl
        · cases hfn
        · cases hfn
      rw [hsame]
      exact h.other (by simp) (by simp) (by simp)
  | close id =>
      cases hfn
      exact h.close hdeliver

/-- **The active client**, after any events. -/
lemma activeClient (h : Delivered past loop) : ActiveClient past loop.gWsConnId := by
  induction h with
  | start srv => exact ⟨by simp, by simp, fun _ => rfl, by simp [lastOpened], by simp [lastOpened]⟩
  | event _ deliver fn_eq ih => exact ih.step deliver fn_eq
  | threads _ _ ih => exact ih

/-- **The id is that of the WebSocket connection opened last, while it is open.**  After any events
of any number of connections, `g_ws_conn_id` is 0 exactly when no WebSocket was opened or the one
opened last has been closed; otherwise it is the id of that connection, which is open. -/
theorem active_client_is_last (h : Delivered past loop) :
    (loop.gWsConnId = 0 ↔ ∀ id ∈ lastOpened past, .close id ∈ past) ∧
      (loop.gWsConnId ≠ 0 →
        lastOpened past = some loop.gWsConnId ∧ IsOpen past loop.gWsConnId) := by
  have hactive := activeClient h
  cases hlast : lastOpened past with
  | none =>
      have hzero := hactive.none hlast
      exact ⟨by simp [hzero], fun hne => absurd hzero hne⟩
  | some id =>
      have hopened := mem_of_lastOpened hlast
      have hne : id ≠ 0 := hactive.nonzero id (hactive.accepted id hopened)
      by_cases hc : .close id ∈ past
      · have hzero := hactive.closed id hlast hc
        exact ⟨by simp [hzero, hc], fun hne => absurd hzero hne⟩
      · have hid := hactive.still id hlast hc
        rw [hid]
        exact ⟨by simp [hne, hc], fun _ => ⟨rfl, hopened, hc⟩⟩

/-- Two clients open a WebSocket, and the second one is the active client. -/
def twoClients : List ConnEvent := [.wsOpen 2, .accept 2, .wsOpen 1, .accept 1]

lemma twoClients_delivered (srv : Server) : Delivered twoClients ⟨srv, 2⟩ := by
  refine .event (.event (.event (.event (.start srv) ?_ rfl) ?_ rfl) ?_ rfl) ?_ rfl <;>
    simp [MayDeliver, IsConnected]

theorem active_client_is_last_of_two :
    (∃ past loop, Delivered past loop ∧ loop.gWsConnId = 2 ∧
      (loop.gWsConnId = 0 ↔ ∀ id ∈ lastOpened past, .close id ∈ past) ∧
      (loop.gWsConnId ≠ 0 →
        lastOpened past = some loop.gWsConnId ∧ IsOpen past loop.gWsConnId)) :=
  ⟨twoClients, _, twoClients_delivered (initContext simulationDefaultParamsHighLoad), rfl,
    active_client_is_last (twoClients_delivered (initContext simulationDefaultParamsHighLoad))⟩

/-- **There is no active client although one is connected**: the second of two clients closes its
connection. -/
theorem no_active_client :
    ∃ past loop, Delivered past loop ∧ loop.gWsConnId = 0 ∧ IsOpen past 1 := by
  refine ⟨.close 2 :: twoClients, ⟨initContext simulationDefaultParamsHighLoad, 0⟩,
    .event (twoClients_delivered _) ?_ rfl, rfl, ?_⟩
  · simp [MayDeliver, IsConnected, twoClients]
  · simp [IsOpen, twoClients]

/-- **Frames of the simulation are sent only to an open WebSocket connection.** -/
theorem frames_reach_open_client (h : Delivered past loop) :
    ∀ id ∈ loop.wakeupTarget, IsOpen past id := by
  intro id hid
  rw [EventLoop.wakeupTarget] at hid
  split at hid
  · next hne =>
    cases hid
    exact ((active_client_is_last h).2 hne).2
  · cases hid

end Orchestrator
