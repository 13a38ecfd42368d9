/-!
# Replies and events on one connection

The client library of a window system reads replies and events from one socket. A call that waits for a
reply reads what comes ahead of it, and keeps those events in a queue of its own; a poll takes from that
queue first. Nothing in this module is about any particular program.

* **`Conn`** — what is in the socket, and what has been read from it and not been taken.
* **`Conn.awaitReplies_queue_eq_nil_iff`** — when waiting for replies leaves nothing behind.
* **`Conn.drain_spec`** — a loop that polls until there is nothing takes every event, in order, whatever
  the waits of its handlers put into the queue meanwhile.
-/

namespace ReplyQueue

universe u

variable {ε : Type u}

structure Conn (ε : Type u) where
  socket : List ε
  queue : List ε

/-- What goes on while one event is handled: the replies that are waited for, each with the events ahead
of it, and the events that arrive after the last. -/
structure Turn (ε : Type u) where
  replies : List (List ε)
  after : List ε

namespace Conn

/-- The other side sends events. -/
def arrive (c : Conn ε) (events : List ε) : Conn ε := { c with socket := c.socket ++ events }

/-- Wait for a reply that comes behind `ahead`. -/
def awaitReply (c : Conn ε) (ahead : List ε) : Conn ε := ⟨[], c.queue ++ c.socket ++ ahead⟩

def awaitReplies (c : Conn ε) (replies : List (List ε)) : Conn ε := replies.foldl awaitReply c

/-- The next event, read from the socket if the queue is empty. -/
def pollForEvent (c : Conn ε) : Option (ε × Conn ε) :=
  match c.queue with
  | e :: queue => some (e, { c with queue := queue })
  | [] =>
    match c.socket with
    | [] => none
    | e :: queue => some (e, ⟨[], queue⟩)

def turn (c : Conn ε) (t : Turn ε) : Conn ε := (c.awaitReplies t.replies).arrive t.after

/-- Poll, and handle what there is, until there is nothing; `none` when the fuel does not suffice. -/
def drain : Nat → List (Turn ε) → Conn ε → Option (List ε × Conn ε)
  | 0, _, _ => none
  | fuel + 1, turns, c =>
    match c.pollForEvent with
    | none => some ([], c)
    | some (e, c) =>
      (drain fuel turns.tail (c.turn (turns.headD ⟨[], []⟩))).map fun r => (e :: r.1, r.2)

/-- The events that are there, in the order of their sending. -/
def pending (c : Conn ε) : List ε := c.queue ++ c.socket

end Conn

/-- The events that come during a list of turns. -/
def arrivals (turns : List (Turn ε)) : List ε := turns.flatMap fun t => t.replies.flatten ++ t.after

/-- `drain`, with fuel for all events that can come. -/
def Conn.drainAll (turns : List (Turn ε)) (c : Conn ε) : Option (List ε × Conn ε) :=
  c.drain (c.pending.length + (arrivals turns).length + 1) turns

namespace Conn

variable {c c' : Conn ε} {replies : List (List ε)} {turns : List (Turn ε)} {e : ε}

theorem pending_awaitReplies (c : Conn ε) (replies : List (List ε)) :
    (c.awaitReplies replies).pending = c.pending ++ replies.flatten := by
  unfold awaitReplies
  induction replies generalizing c with
  | nil => simp
  | cons ahead replies ih =>
    rw [List.foldl_cons, ih]
    simp [awaitReply, pending]

theorem pending_turn (c : Conn ε) (t : Turn ε) :
    (c.turn t).pending = c.pending ++ (t.replies.flatten ++ t.after) := by
  have harrive : (c.turn t).pending = (c.awaitReplies t.replies).pending ++ t.after := by
    simp [turn, arrive, pending]
  rw [harrive, pending_awaitReplies, List.append_assoc]

/-- Waiting for replies leaves nothing behind exactly if nothing was there, and nothing came ahead. -/
theorem awaitReplies_queue_eq_nil_iff :
    (c.awaitReplies replies).queue = [] ↔
      c.queue = [] ∧ (replies ≠ [] → c.socket = [] ∧ ∀ ahead ∈ replies, ahead = []) := by
  unfold awaitReplies
  induction replies generalizing c with
  | nil => simp
  | cons ahead replies ih =>
    have hfirst : (c.awaitReply ahead).queue = [] ↔ c.queue = [] ∧ c.socket = [] ∧ ahead = [] := by
      simp [awaitReply]
    rw [List.foldl_cons, ih, hfirst]
    constructor
    · rintro ⟨⟨hqueue, hsocket, hahead⟩, hrest⟩
      refine ⟨hqueue, fun _ => ⟨hsocket, fun ahead' hmem => ?_⟩⟩
      rcases List.mem_cons.mp hmem with rfl | hmem
      · exact hahead
      · exact (hrest (List.ne_nil_of_mem hmem)).2 ahead' hmem
    · rintro ⟨hqueue, hall⟩
      obtain ⟨hsocket, hahead⟩ := hall (List.cons_ne_nil ahead replies)
      -- the first reply has emptied the socket
      exact ⟨⟨hqueue, hsocket, hahead ahead List.mem_cons_self⟩,
        fun _ => ⟨rfl, fun ahead' hmem => hahead ahead' (List.mem_cons_of_mem _ hmem)⟩⟩

theorem pollForEvent_eq_none_iff : c.pollForEvent = none ↔ c.pending = [] := by
  unfold pollForEvent pending
  cases c.queue with
  | nil => cases c.socket <;> simp
  | cons e queue => simp

theorem pending_of_pollForEvent (h : c.pollForEvent = some (e, c')) : c.pending = e :: c'.pending := by
  unfold pollForEvent at h
  unfold pending
  cases hqueue : c.queue with
  | nil =>
    rw [hqueue] at h
    cases hsocket : c.socket with
    | nil =>
      rw [hsocket] at h
      cases h
    | cons e' queue =>
      rw [hsocket] at h
      cases h
      simp
  | cons e' queue =>
    rw [hqueue] at h
    cases h
    simp

/-- **The loop ends with nothing left.** It takes what was there and what the turns it took brought, in
order. -/
theorem drain_spec {fuel : Nat} (hfuel : c.pending.length + (arrivals turns).length < fuel) :
    ∃ handled c', c.drain fuel turns = some (handled, c') ∧ c'.pending = [] ∧
      handled = c.pending ++ arrivals (turns.take handled.length) := by
  induction fuel generalizing c turns with
  | zero => omega
  | succ fuel ih =>
    unfold drain
    cases hpoll : c.pollForEvent with
    | none =>
      have hnone := pollForEvent_eq_none_iff.mp hpoll
      exact ⟨[], c, rfl, hnone, by rw [hnone]; simp [arrivals]⟩
    | some found =>
      obtain ⟨e, c₁⟩ := found
      have hpending := pending_of_pollForEvent hpoll
      have harrivals : arrivals turns =
          ((turns.headD ⟨[], []⟩).replies.flatten ++ (turns.headD ⟨[], []⟩).after) ++
            arrivals turns.tail := by
        cases turns <;> simp [arrivals]
      have hturn := pending_turn c₁ (turns.headD ⟨[], []⟩)
      -- the event taken is what the measure loses
      have hless : (c₁.turn (turns.headD ⟨[], []⟩)).pending.length + (arrivals turns.tail).length < fuel := by
        rw [hpending, harrivals] at hfuel
        rw [hturn]
        simp only [List.length_append, List.length_cons] at hfuel ⊢
        omega
      obtain ⟨handled, c', hdrain, hnil, hhandled⟩ := ih hless
      refine ⟨e :: handled, c', ?_, hnil, ?_⟩
      · dsimp only
        rw [hdrain]
        rfl
      · rw [hturn] at hhandled
        rw [hpending, List.cons_append, List.length_cons]
        refine congrArg (e :: ·) (hhandled.trans ?_)
        cases turns <;> simp [arrivals]

theorem drainAll_spec (c : Conn ε) (turns : List (Turn ε)) :
    ∃ handled c', c.drainAll turns = some (handled, c') ∧ c'.pending = [] ∧
      handled = c.pending ++ arrivals (turns.take handled.length) :=
  drain_spec (Nat.lt_succ_self _)

end Conn

end ReplyQueue
