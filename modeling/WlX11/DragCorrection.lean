import Mathlib.Data.Finset.Lattice.Fold
import Mathlib.Data.Finset.Range
import Mathlib.Order.Filter.AtTopBot.Basic
import WlX11.DragGeometry

/-!
# WlX11 — the correction an interactive move learns

A window manager puts the frame where it is asked to, give or take a constant. From a `ConfigureNotify`
the program learns `correction`, the position that is reported less the one it asked for last, and asks
for so much less from then on. The report may be of an older request, made with an older correction.

* **`MoveLoop`** — a running move, and the placements the host has not reported yet.
* **`Settles`** — in the end what has been learned is the placement's offset.
* **`settles_iff`** — it does exactly if in the end every report is of where the last request has put
  the frame, and there is a report at all unless the offset is zero.
-/

namespace Wlx

open Filter InteractiveDrag

/-- What does not change while a toplevel is moved: the toplevels, and where the window manager puts a
frame that is asked to be at the origin. -/
structure MoveSetting where
  host : HostSession
  held : List Nat
  win : XToplevel
  frame : XWindow
  placement : Point
  known : host.window win.id = some win
  framed : win.xwin = some frame

/-- The drag, and the positions that the window manager has put the frame to but not reported, oldest
first. -/
structure MoveLoop where
  drag : InteractiveDrag
  unreported : List Point
deriving DecidableEq

inductive MoveEvent where
  | motion (now : Timespec) (pointer : Option Point)
  /-- the oldest placement is reported -/
  | notify
deriving DecidableEq

namespace MoveSetting

/-- Where a request puts the frame. -/
def placed (m : MoveSetting) (pos : Point) : Point := ⟨pos.x + m.placement.x, pos.y + m.placement.y⟩

def session (m : MoveSetting) (l : MoveLoop) : MoveResizeSession := ⟨m.host, l.drag, m.held⟩

def request (m : MoveSetting) (l : MoveLoop) : MoveEvent → Option GeometryRequest
  | .motion now pointer => (m.session l).request (.motion now pointer)
  | .notify => none

def next (m : MoveSetting) (l : MoveLoop) : MoveEvent → MoveLoop
  | .motion now pointer =>
    { drag := (l.drag.updateInteractiveDrag (m.session l).dragTarget now pointer).1
      unreported := l.unreported ++ ((m.request l (.motion now pointer)).map (m.placed ·.pos)).toList }
  | .notify => match l.unreported with
    | [] => l
    | pos :: unreported =>
      { drag := l.drag.learnCorrection (m.session l).active m.frame pos
        unreported := unreported }

/-- The state before the `n`th event. -/
def loop (m : MoveSetting) (l : MoveLoop) (events : Nat → MoveEvent) : Nat → MoveLoop
  | 0 => l
  | n + 1 => m.next (m.loop l events n) (events n)

theorem loop_succ (m : MoveSetting) (l : MoveLoop) (events : Nat → MoveEvent) (n : Nat) :
    m.loop l events (n + 1) = m.next (m.loop l events n) (events n) := rfl

/-- The move has just begun: `begin_interactive_move`. -/
structure Begun (m : MoveSetting) (l : MoveLoop) : Prop where
  moving : l.drag.moveWin = some m.win.id
  unlearned : l.drag.correction = ⟨0, 0⟩
  fresh : l.unreported = []

/-- Each placement is reported some time. -/
def Reports (m : MoveSetting) (l : MoveLoop) (events : Nat → MoveEvent) : Prop :=
  ∀ n, (m.loop l events n).unreported ≠ [] → ∃ k, n ≤ k ∧ events k = .notify

/-- The request of one event puts the frame to the pointer's position plus the grab's offset. -/
def Lands (m : MoveSetting) (grab : Point) (l : MoveLoop) : MoveEvent → Prop
  | .motion now pointer => ∀ req ∈ m.request l (.motion now pointer), ∃ p ∈ pointer,
    m.placed req.pos = ⟨p.x + grab.x, p.y + grab.y⟩
  | .notify => True

/-- How far off the correction is. -/
def error (m : MoveSetting) (l : MoveLoop) : Nat :=
  (l.drag.correction.x - m.placement.x).natAbs + (l.drag.correction.y - m.placement.y).natAbs

/-- In the end the correction is the placement's offset and all requests land; and it never gets
further off than some bound. -/
structure Settles (m : MoveSetting) (l : MoveLoop) (events : Nat → MoveEvent) : Prop where
  learned : ∀ᶠ n in atTop, (m.loop l events n).drag.correction = m.placement
  lands : ∀ᶠ n in atTop, m.Lands l.drag.moveOffset (m.loop l events n) (events n)
  bounded : ∃ bound, ∀ n, m.error (m.loop l events n) ≤ bound

/-- In the end, what is reported is where the last request has put the frame. -/
def ReportsLast (m : MoveSetting) (l : MoveLoop) (events : Nat → MoveEvent) : Prop :=
  ∀ᶠ n in atTop, events n = .notify → ∀ pos ∈ (m.loop l events n).unreported.head?,
    pos = m.placed (m.loop l events n).drag.lastRequested

/-- Something is asked for. -/
def Asks (m : MoveSetting) (l : MoveLoop) (events : Nat → MoveEvent) : Prop :=
  ∃ n, m.request (m.loop l events n) (events n) ≠ none

end MoveSetting

namespace MoveSetting

variable {m : MoveSetting} {l : MoveLoop} {events : Nat → MoveEvent} {e : MoveEvent} {n : Nat}

/-! ## One event -/

/-- The events are steps of the session. -/
theorem session_motion (m : MoveSetting) (l : MoveLoop) (now : Timespec) (pointer : Option Point) :
    (m.session l).step (.motion now pointer) = some (m.session (m.next l (.motion now pointer))) := rfl

theorem session_notify {pos : Point} {unreported : List Point} (h : l.unreported = pos :: unreported) :
    (m.session l).step (.configureNotify m.frame pos) = some (m.session (m.next l .notify)) := by
  unfold next
  rw [h]
  rfl

/-- A request for a move begins one. -/
theorem begun_of_requestMove (m : MoveSetting) (l : MoveLoop) {reply : Option (Point × Point)}
    (h : MoveResizeSession.Begins m.win reply) :
    m.Begun ⟨l.drag.beginInteractiveMove m.win reply, []⟩ where
  moving := by rw [(l.drag.beginInteractiveMove_spec m.win reply).1, if_pos h]
  unlearned := by
    obtain ⟨htarget, hreply⟩ := h
    obtain ⟨target, htarget⟩ := Option.ne_none_iff_exists'.mp htarget
    obtain ⟨⟨w, p⟩, rfl⟩ := Option.ne_none_iff_exists'.mp hreply
    have houter : m.win.outerPositionWindow = some m.frame := by
      rw [XToplevel.outerPositionWindow, m.framed]
      rfl
    unfold beginInteractiveMove XToplevel.configureTargetWindow
    rw [houter, htarget]
  fresh := rfl

theorem request_motion (hmove : l.drag.moveWin = some m.win.id) (now : Timespec)
    (pointer : Option Point) {req : GeometryRequest} (h : req ∈ m.request l (.motion now pointer)) :
    ∃ p ∈ pointer, req.pos =
      ⟨p.x + l.drag.moveOffset.x - l.drag.correction.x, p.y + l.drag.moveOffset.y - l.drag.correction.y⟩ := by
  have h : (m.session l).request (.motion now pointer) = some req := h
  rw [MoveResizeSession.request_motion] at h
  split at h
  · obtain ⟨p, hp, hreq⟩ := Option.bind_eq_some_iff.mp h
    unfold geometryAt at hreq
    rw [show (m.session l).drag.moveWin = some m.win.id from hmove] at hreq
    obtain ⟨w, -, rfl⟩ := Option.map_eq_some_iff.mp hreq
    exact ⟨p, hp, rfl⟩
  · cases h

/-- **What an event can do.** A motion asks for nothing, or for a new position that will be reported;
a report, if there is anything to report, is learned. -/
theorem next_cases (m : MoveSetting) (l : MoveLoop) (hmove : l.drag.moveWin = some m.win.id)
    (e : MoveEvent) :
    ((m.next l e).drag.moveWin = some m.win.id ∧
        (m.next l e).drag.moveOffset = l.drag.moveOffset) ∧
      ((m.request l e = none ∧ (m.next l e).unreported = l.unreported ∧
          (m.next l e).drag.correction = l.drag.correction ∧
          (m.next l e).drag.lastRequested = l.drag.lastRequested ∧ (e = .notify → l.unreported = [])) ∨
        (∃ req, m.request l e = some req ∧ e ≠ .notify ∧
          (m.next l e).unreported = l.unreported ++ [m.placed req.pos] ∧
          (m.next l e).drag.correction = l.drag.correction ∧ (m.next l e).drag.lastRequested = req.pos) ∨
        (∃ pos, m.request l e = none ∧ e = .notify ∧ l.unreported = pos :: (m.next l e).unreported ∧
          (m.next l e).drag.correction =
            ⟨pos.x - l.drag.lastRequested.x, pos.y - l.drag.lastRequested.y⟩ ∧
          (m.next l e).drag.lastRequested = l.drag.lastRequested)) := by
  cases e with
  -- a request is queued as it will be reported
  | motion now pointer =>
    obtain ⟨hcorrection, hgrab, hlast⟩ :=
      l.drag.updateInteractiveDrag_spec (m.session l).dragTarget now pointer
    refine ⟨⟨((l.drag.updateInteractiveDrag_frame _ now pointer).1).trans hmove, hgrab⟩, ?_⟩
    rw [show (l.drag.updateInteractiveDrag (m.session l).dragTarget now pointer).2 =
      m.request l (.motion now pointer) from rfl] at hlast
    have hunreported : (m.next l (.motion now pointer)).unreported = l.unreported ++
      ((m.request l (.motion now pointer)).map (m.placed ·.pos)).toList := rfl
    cases hreq : m.request l (.motion now pointer) with
    | none =>
      rw [hreq] at hlast hunreported
      refine .inl ⟨rfl, hunreported.trans (List.append_nil _), hcorrection, hlast, ?_⟩
      intro h
      cases h
    | some req =>
      rw [hreq] at hlast hunreported
      refine .inr (.inl ⟨req, rfl, ?_, hunreported, hcorrection, hlast⟩)
      intro h
      cases h
  | notify =>
    unfold next
    cases hreports : l.unreported with
    | nil => exact ⟨⟨hmove, rfl⟩, .inl ⟨rfl, hreports, rfl, rfl, fun _ => rfl⟩⟩
    | cons pos unreported =>
      have hactive : (m.session l).active = some m.win := by
        show (l.drag.moveWin.or l.drag.resizeWin).bind m.host.window = some m.win
        rw [hmove]
        exact m.known
      -- the frame is known, so the report is compared with the last request
      have hlearn : l.drag.learnCorrection (m.session l).active m.frame pos =
          { l.drag with
            correction := ⟨pos.x - l.drag.lastRequested.x, pos.y - l.drag.lastRequested.y⟩ } := by
        unfold learnCorrection
        rw [hactive]
        exact if_pos ⟨.inr m.framed, .inl m.framed⟩
      dsimp only
      rw [hlearn]
      exact ⟨⟨hmove, rfl⟩, .inr (.inr ⟨pos, rfl, rfl, rfl, rfl, rfl⟩)⟩

/-! ## All events -/

/-- After `n` events: the move goes on; the newest placement is where the last request has put the
frame; and when nothing is left to report, the offset is learned, or nothing was ever asked for. -/
structure Tracked (m : MoveSetting) (l : MoveLoop) (events : Nat → MoveEvent) (n : Nat) : Prop where
  moving : (m.loop l events n).drag.moveWin = some m.win.id
  grab : (m.loop l events n).drag.moveOffset = l.drag.moveOffset
  newest : ∀ pos ∈ (m.loop l events n).unreported.getLast?,
    pos = m.placed (m.loop l events n).drag.lastRequested
  quiet : (m.loop l events n).unreported = [] →
    (m.loop l events n).drag.correction = m.placement ∨
      ((m.loop l events n).drag.correction = ⟨0, 0⟩ ∧
        ∀ k < n, m.request (m.loop l events k) (events k) = none)

/-- The error of a correction that is learned from where the last request has put the frame. -/
theorem learned_eq_iff {pos last : Point} :
    (⟨pos.x - last.x, pos.y - last.y⟩ : Point) = m.placement ↔ pos = m.placed last := by
  obtain ⟨x, y⟩ := pos
  unfold placed
  rw [show m.placement = ⟨m.placement.x, m.placement.y⟩ from rfl]
  simp only [Point.mk.injEq]
  omega

/-- **What holds after `n` events**: the grab stays, and once all is reported either the offset is learned or
nothing was asked for yet. By induction on the events. -/
theorem tracked (h : m.Begun l) (events : Nat → MoveEvent) (n : Nat) : m.Tracked l events n := by
  -- induction over the events, with the three cases of a step
  induction n with
  | zero =>
    refine ⟨h.moving, rfl, fun pos hpos => ?_, fun _ => .inr ⟨h.unlearned, fun k hk => by cases hk⟩⟩
    rw [show (m.loop l events 0).unreported = [] from h.fresh] at hpos
    cases hpos
  | succ n ih =>
    obtain ⟨⟨hmove, hgrab⟩, hcases⟩ := next_cases m _ ih.moving (events n)
    have hgrab := hgrab.trans ih.grab
    rw [← loop_succ] at hmove hgrab hcases
    obtain ⟨hreq, hun, hcorrection, hlast, -⟩ | ⟨req, -, -, hun, -, hlast⟩ |
      ⟨pos, -, -, hun, hcorrection, hlast⟩ := hcases
    · -- nothing happens
      refine ⟨hmove, hgrab, ?_, ?_⟩
      · rw [hun, hlast]
        exact ih.newest
      · rw [hun, hcorrection]
        refine fun hnil => (ih.quiet hnil).imp id fun ⟨hzero, hnone⟩ => ⟨hzero, fun k hk => ?_⟩
        rcases Nat.lt_succ_iff_lt_or_eq.mp hk with hlt | rfl
        · exact hnone k hlt
        · exact hreq
    · -- a request
      refine ⟨hmove, hgrab, ?_, ?_⟩
      · rw [hun, hlast, List.getLast?_concat]
        intro pos hpos
        exact (Option.some.inj hpos).symm
      · rw [hun]
        exact fun hnil => absurd hnil (List.append_ne_nil_of_right_ne_nil _ (List.cons_ne_nil _ _))
    · -- a report
      refine ⟨hmove, hgrab, ?_, fun hnil => .inl ?_⟩
      · rw [hlast]
        refine fun newest hnewest => ih.newest newest ?_
        rw [hun, List.getLast?_cons, show (m.loop l events (n + 1)).unreported.getLast? = some newest
          from hnewest]
        rfl
      · rw [hcorrection, learned_eq_iff]
        refine ih.newest pos ?_
        rw [hun, hnil]
        rfl

/-- While reports are of the last request, what is learned stays. -/
theorem learned_of_learned (h : m.Begun l) {start : Nat}
    (hlast : ∀ n, start ≤ n → events n = .notify → ∀ pos ∈ (m.loop l events n).unreported.head?,
      pos = m.placed (m.loop l events n).drag.lastRequested)
    (hlearned : (m.loop l events start).drag.correction = m.placement) (hle : start ≤ n) :
    (m.loop l events n).drag.correction = m.placement := by
  induction n, hle using Nat.le_induction with
  | base => exact hlearned
  | succ n hle ih =>
    obtain ⟨-, hcases⟩ := next_cases m _ (tracked h events n).moving (events n)
    obtain ⟨-, -, hcorrection, -⟩ | ⟨req, -, -, -, hcorrection, -⟩ |
      ⟨pos, -, hnotify, hun, hcorrection, -⟩ := hcases
    · exact hcorrection.trans ih
    · exact hcorrection.trans ih
    · refine hcorrection.trans (learned_eq_iff.mpr (hlast n hle hnotify pos ?_))
      rw [hun]
      rfl

/-- Without a report that is learned from, what is to be reported stays. -/
theorem unreported_of_unlearned (h : m.Begun l) {start : Nat}
    (hnone : ∀ n, start ≤ n → events n = .notify → (m.loop l events n).unreported = [])
    (hun : (m.loop l events start).unreported ≠ []) (hle : start ≤ n) :
    (m.loop l events n).unreported ≠ [] := by
  induction n, hle using Nat.le_induction with
  | base => exact hun
  | succ n hle ih =>
    obtain ⟨-, hcases⟩ := next_cases m _ (tracked h events n).moving (events n)
    obtain ⟨-, hsame, -⟩ | ⟨req, -, -, hmore, -⟩ | ⟨pos, -, hnotify, -⟩ := hcases
    · rw [show (m.loop l events (n + 1)).unreported = _ from hsame]
      exact ih
    · rw [show (m.loop l events (n + 1)).unreported = _ from hmore]
      exact List.append_ne_nil_of_right_ne_nil _ (List.cons_ne_nil _ _)
    · exact absurd (hnone n hle hnotify) ih

/-- **The offset is learned some time**, if the reports from `start` on are of the last request. -/
theorem exists_learned (h : m.Begun l) (hreports : m.Reports l events) {start : Nat}
    (hlast : ∀ n, start ≤ n → events n = .notify → ∀ pos ∈ (m.loop l events n).unreported.head?,
      pos = m.placed (m.loop l events n).drag.lastRequested)
    (hasks : m.placement = ⟨0, 0⟩ ∨ m.Asks l events) :
    ∃ n, start ≤ n ∧ (m.loop l events n).drag.correction = m.placement := by
  by_cases hevent : ∃ n, start ≤ n ∧ events n = .notify ∧ (m.loop l events n).unreported ≠ []
  · obtain ⟨n, hle, hnotify, hun⟩ := hevent
    refine ⟨n + 1, Nat.le_succ_of_le hle, ?_⟩
    obtain ⟨-, hcases⟩ := next_cases m _ (tracked h events n).moving (events n)
    obtain ⟨-, -, -, -, hnil⟩ | ⟨req, -, hmotion, -⟩ | ⟨pos, -, -, hcons, hcorrection, -⟩ := hcases
    · exact absurd (hnil hnotify) hun
    · exact absurd hnotify hmotion
    · refine hcorrection.trans (learned_eq_iff.mpr (hlast n hle hnotify pos ?_))
      rw [hcons]
      rfl
  · -- nothing is reported from `start` on, so there is nothing to report
    have hnone : ∀ n, start ≤ n → events n = .notify → (m.loop l events n).unreported = [] := by
      intro n hle hnotify
      by_contra hun
      exact hevent ⟨n, hle, hnotify, hun⟩
    have hempty : ∀ n, start ≤ n → (m.loop l events n).unreported = [] := by
      intro n hle
      by_contra hun
      obtain ⟨k, hnk, hnotify⟩ := hreports n hun
      have hstill := unreported_of_unlearned h (fun j hj => hnone j (hle.trans hj)) hun hnk
      exact hstill (hnone k (hle.trans hnk) hnotify)
    -- and then nothing is asked for either
    have hsilent : ∀ n, start ≤ n → m.request (m.loop l events n) (events n) = none := by
      intro n hle
      obtain ⟨-, hcases⟩ := next_cases m _ (tracked h events n).moving (events n)
      obtain ⟨hreq, -⟩ | ⟨req, -, -, hmore, -⟩ | ⟨pos, hreq, -⟩ := hcases
      · exact hreq
      · have hnil := hempty (n + 1) (Nat.le_succ_of_le hle)
        rw [show (m.loop l events (n + 1)).unreported = _ from hmore] at hnil
        exact absurd hnil (List.append_ne_nil_of_right_ne_nil _ (List.cons_ne_nil _ _))
      · exact hreq
    refine ⟨start, Nat.le_refl start, ?_⟩
    rcases (tracked h events start).quiet (hempty start (Nat.le_refl start)) with hlearned | ⟨hzero, hbefore⟩
    · exact hlearned
    · rcases hasks with hplacement | ⟨n, hreq⟩
      · exact hzero.trans hplacement.symm
      · rcases Nat.lt_or_ge n start with hlt | hge
        · exact absurd (hbefore n hlt) hreq
        · exact absurd (hsilent n hge) hreq

/-- With the offset learned, requests land. -/
theorem lands_of_learned (h : m.Begun l)
    (hlearned : (m.loop l events n).drag.correction = m.placement) :
    m.Lands l.drag.moveOffset (m.loop l events n) (events n) := by
  have ht := tracked h events n
  cases hevent : events n with
  | notify => trivial
  | motion now pointer =>
    intro req hreq
    obtain ⟨p, hp, hpos⟩ := request_motion ht.moving now pointer hreq
    refine ⟨p, hp, ?_⟩
    rw [hpos, hlearned, ht.grab]
    unfold placed
    simp only [Int.sub_add_cancel]

/-- What is off in the end by nothing is never off by more than it was on the way. -/
theorem bounded_of_learned
    (hlearned : ∀ᶠ n in atTop, (m.loop l events n).drag.correction = m.placement) :
    ∃ bound, ∀ n, m.error (m.loop l events n) ≤ bound := by
  obtain ⟨start, hlearned⟩ := eventually_atTop.mp hlearned
  refine ⟨(Finset.range start).sup fun n => m.error (m.loop l events n), fun n => ?_⟩
  rcases Nat.lt_or_ge n start with hlt | hge
  · exact Finset.le_sup (f := fun n => m.error (m.loop l events n)) (Finset.mem_range.mpr hlt)
  · have hzero : m.error (m.loop l events n) = 0 := by
      unfold error
      rw [hlearned n hge]
      simp
    rw [hzero]
    exact Nat.zero_le _

/-- **What a move learns.** For every placement offset, every trajectory and every lag of the reports,
the correction settles at the offset if and only if from some event on every report is of where the last
request has put the frame, and anything is asked for at all unless the offset is zero. -/
theorem settles_iff (h : m.Begun l) (hreports : m.Reports l events) :
    m.Settles l events ↔ m.ReportsLast l events ∧ (m.placement = ⟨0, 0⟩ ∨ m.Asks l events) := by
  constructor
  · rintro ⟨hlearned, -, -⟩
    obtain ⟨start, hlearned⟩ := eventually_atTop.mp hlearned
    refine ⟨eventually_atTop.mpr ⟨start, fun n hle hnotify pos hpos => ?_⟩, ?_⟩
    · obtain ⟨-, hcases⟩ := next_cases m _ (tracked h events n).moving (events n)
      obtain ⟨-, -, -, -, hnil⟩ | ⟨req, -, hmotion, -⟩ | ⟨pos', -, -, hun, hcorrection, -⟩ := hcases
      · rw [hnil hnotify] at hpos
        cases hpos
      · exact absurd hnotify hmotion
      · rw [hun] at hpos
        obtain rfl : pos' = pos := Option.some.inj hpos
        exact learned_eq_iff.mp (hcorrection.symm.trans (hlearned (n + 1) (Nat.le_succ_of_le hle)))
    · by_contra hnot
      rw [not_or] at hnot
      -- nothing is ever asked for, so nothing is learned
      have hunlearned : ∀ n, (m.loop l events n).unreported = [] ∧
          (m.loop l events n).drag.correction = ⟨0, 0⟩ := by
        intro n
        induction n with
        | zero => exact ⟨h.fresh, h.unlearned⟩
        | succ n ih =>
          obtain ⟨-, hcases⟩ := next_cases m _ (tracked h events n).moving (events n)
          obtain ⟨-, hun, hcorrection, -⟩ | ⟨req, hreq, -⟩ | ⟨pos, -, -, hun, -⟩ := hcases
          · exact ⟨hun.trans ih.1, hcorrection.trans ih.2⟩
          · exact absurd ⟨n, by rw [hreq]; exact Option.some_ne_none req⟩ hnot.2
          · rw [ih.1] at hun
            cases hun
      exact hnot.1 ((hlearned start (Nat.le_refl start)).symm.trans (hunlearned start).2)
  · rintro ⟨hlast, hasks⟩
    obtain ⟨start, hlast⟩ := eventually_atTop.mp hlast
    obtain ⟨first, hfirst, hlearned⟩ := exists_learned h hreports hlast hasks
    have hall : ∀ n, first ≤ n → (m.loop l events n).drag.correction = m.placement := fun n hle =>
      learned_of_learned h (fun k hk => hlast k (hfirst.trans hk)) hlearned hle
    have hlearned : ∀ᶠ n in atTop, (m.loop l events n).drag.correction = m.placement :=
      eventually_atTop.mpr ⟨first, hall⟩
    exact ⟨hlearned, hlearned.mono fun n hn => lands_of_learned h hn, bounded_of_learned hlearned⟩

/-- Reports that keep up with the requests are of the last one. -/
theorem reportsLast_of_prompt (h : m.Begun l)
    (hprompt : ∀ n, events n = .notify → (m.loop l events n).unreported.length ≤ 1) :
    m.ReportsLast l events := by
  refine Eventually.of_forall fun n hnotify pos hpos => (tracked h events n).newest pos ?_
  have hlength := hprompt n hnotify
  match hun : (m.loop l events n).unreported with
  | [] =>
    rw [hun] at hpos
    cases hpos
  | [only] =>
    rw [hun] at hpos
    exact hpos
  | _ :: _ :: _ =>
    rw [hun] at hlength
    simp at hlength

end MoveSetting

/-! ## One window -/

/-- A toplevel without decorations, and a window manager that puts it `placement` off. -/
def oneToplevel (placement : Point) : MoveSetting where
  host := ⟨.node ⟨1, 1920, 1080⟩ [.node ⟨10, 640, 480⟩ []], [⟨0, some 10, some 10, some 10, [10]⟩]⟩
  held := [272]
  win := ⟨0, some 10, some 10, some 10, [10]⟩
  frame := 10
  placement := placement
  known := rfl
  framed := rfl

/-- It is grabbed at its origin, which is that of the screen. -/
def grabbed : MoveLoop :=
  ⟨InteractiveDrag.idle.beginInteractiveMove ⟨0, some 10, some 10, some 10, [10]⟩
    (some (⟨0, 0⟩, ⟨0, 0⟩)), []⟩

theorem begun_grabbed (placement : Point) : (oneToplevel placement).Begun grabbed :=
  MoveSetting.begun_of_requestMove (oneToplevel placement) ⟨.idle, []⟩
    ⟨Option.some_ne_none 10, Option.some_ne_none ((⟨0, 0⟩, ⟨0, 0⟩) : Point × Point)⟩

/-- The pointer moves on for ever, and each placement is reported before it moves again. -/
def promptEvents (n : Nat) : MoveEvent :=
  if n % 2 = 0 then .motion ⟨n + 1, 0⟩ (some ⟨n, n⟩) else .notify

/-- With a report after each motion at most one request waits. -/
theorem promptEvents_unreported (placement : Point) (k : Nat) :
    ((oneToplevel placement).loop grabbed promptEvents (2 * k)).unreported = [] ∧
      ((oneToplevel placement).loop grabbed promptEvents (2 * k + 1)).unreported.length ≤ 1 := by
  -- motions are the even events, reports the odd ones
  have hodd : ∀ k, ((oneToplevel placement).loop grabbed promptEvents (2 * k)).unreported = [] →
      ((oneToplevel placement).loop grabbed promptEvents (2 * k + 1)).unreported.length ≤ 1 := by
    intro k hnil
    obtain ⟨-, hcases⟩ := MoveSetting.next_cases _ _
      (MoveSetting.tracked (begun_grabbed placement) promptEvents (2 * k)).moving (promptEvents (2 * k))
    rw [← MoveSetting.loop_succ, hnil] at hcases
    obtain ⟨-, hun, -⟩ | ⟨req, -, -, hun, -⟩ | ⟨pos, -, -, hun, -⟩ := hcases
    · rw [hun]
      exact Nat.zero_le _
    · rw [hun]
      exact Nat.le_refl _
    · cases hun
  induction k with
  | zero => exact ⟨rfl, hodd 0 rfl⟩
  | succ k ih =>
    have heven : ((oneToplevel placement).loop grabbed promptEvents (2 * k + 1 + 1)).unreported = [] := by
      obtain ⟨-, hcases⟩ := MoveSetting.next_cases _ _
        (MoveSetting.tracked (begun_grabbed placement) promptEvents (2 * k + 1)).moving
        (promptEvents (2 * k + 1))
      have hnotify : promptEvents (2 * k + 1) = .notify := if_neg (by omega)
      rw [← MoveSetting.loop_succ] at hcases
      obtain ⟨-, hun, -, -, hnil⟩ | ⟨req, -, hmotion, -⟩ | ⟨pos, -, -, hun, -⟩ := hcases
      · exact hun.trans (hnil hnotify)
      · exact absurd hnotify hmotion
      · have hlength := ih.2
        rw [hun, List.length_cons] at hlength
        exact List.eq_nil_of_length_eq_zero (by omega)
    exact ⟨heven, hodd (k + 1) heven⟩

/-- With reports that keep up, the offset of a title bar is learned. -/
theorem promptEvents_settles : (oneToplevel ⟨4, 24⟩).Settles grabbed promptEvents := by
  refine (MoveSetting.settles_iff (begun_grabbed ⟨4, 24⟩) fun n _ => ?_).mpr
    ⟨MoveSetting.reportsLast_of_prompt (begun_grabbed ⟨4, 24⟩) fun n hnotify => ?_, .inr ⟨0, by decide⟩⟩
  · exact ⟨2 * n + 1, by omega, if_neg (by omega)⟩
  · rcases Nat.even_or_odd' n with ⟨k, rfl | rfl⟩
    · rw [(promptEvents_unreported ⟨4, 24⟩ k).1]
      exact Nat.zero_le _
    · exact (promptEvents_unreported ⟨4, 24⟩ k).2

/-- The pointer moves a pixel to the left each time, and a placement is reported when the pointer has
moved once more. -/
def laggingEvents (n : Nat) : MoveEvent :=
  if n = 0 ∨ n % 2 = 1 then .motion ⟨((n + 1) / 2 : Nat) + 1, 0⟩ (some ⟨-((n + 1) / 2 : Nat), 0⟩)
  else .notify

/-- The loop with `k + 1` requests made and `k` placements reported. -/
def lagged (k : Nat) : MoveLoop :=
  ⟨{ grabbed.drag with lastSendAt := ⟨k + 1, 0⟩, lastRequested := ⟨-k, 0⟩ }, [⟨-k - 1, 0⟩]⟩

/-- Another motion and a report: the pointer has moved by what the placement is off, so that nothing
is learned. -/
theorem next_lagged (k : Nat) :
    (oneToplevel ⟨-1, 0⟩).next ((oneToplevel ⟨-1, 0⟩).next (lagged k)
      (.motion ⟨(k + 1 : Nat) + 1, 0⟩ (some ⟨-(k + 1 : Nat), 0⟩))) .notify = lagged (k + 1) := by
  -- a second has gone by, so the throttle lets it through
  have htimely : (lagged k).drag.Timely ⟨(k + 1 : Nat) + 1, 0⟩ := by
    refine ⟨.inl (Option.some_ne_none 0), ?_⟩
    have helapsed : ¬(((k + 1 : Nat) : Int) + 1 - (k + 1)) * 1000 + ((0 : Int) - 0).tdiv 1000000 <
        wlxDragThrottleMs := by
      unfold wlxDragThrottleMs
      rw [Nat.cast_add, Nat.cast_one, show ((0 : Int) - 0).tdiv 1000000 = 0 from rfl]
      omega
    unfold dragThrottleReady
    rw [show (lagged k).drag.lastSendAt = ⟨k + 1, 0⟩ from rfl]
    dsimp only
    rw [if_neg helapsed]
    rfl
  have hmotion : (oneToplevel ⟨-1, 0⟩).next (lagged k)
      (.motion ⟨(k + 1 : Nat) + 1, 0⟩ (some ⟨-(k + 1 : Nat), 0⟩)) =
        ⟨(lagged (k + 1)).drag, [⟨-k - 1, 0⟩, ⟨-(k + 1 : Nat) - 1, 0⟩]⟩ := by
    have hgeometry : geometryAt ((oneToplevel ⟨-1, 0⟩).session (lagged k)).dragTarget
        ⟨-(k + 1 : Nat), 0⟩ (lagged k).drag = some ⟨10, ⟨-(k + 1 : Nat) + 0 - 0, 0⟩, none⟩ := rfl
    rw [Int.add_zero, Int.sub_zero] at hgeometry
    unfold MoveSetting.next MoveSetting.request
    dsimp only
    rw [MoveResizeSession.request_motion, updateInteractiveDrag_eq,
      show ((oneToplevel ⟨-1, 0⟩).session (lagged k)).drag = (lagged k).drag from rfl, if_pos htimely,
      if_pos htimely, Option.bind_some, hgeometry]
    rfl
  -- the report is of the request before the last, one pixel away
  have hlearn : (lagged (k + 1)).drag.learnCorrection
      ((oneToplevel ⟨-1, 0⟩).session (lagged (k + 1))).active 10 ⟨-k - 1, 0⟩ =
        { (lagged (k + 1)).drag with correction := ⟨-k - 1 - -(k + 1 : Nat), 0⟩ } := rfl
  rw [show (-k - 1 - -((k + 1 : Nat) : Int)) = 0 by omega] at hlearn
  rw [hmotion]
  exact congrArg (MoveLoop.mk · [⟨-(k + 1 : Nat) - 1, 0⟩]) hlearn

theorem loop_laggingEvents (k : Nat) :
    (oneToplevel ⟨-1, 0⟩).loop grabbed laggingEvents (2 * k + 1) = lagged k := by
  induction k with
  | zero => rfl
  | succ k ih =>
    have hmotion : laggingEvents (2 * k + 1) =
        .motion ⟨(k + 1 : Nat) + 1, 0⟩ (some ⟨-(k + 1 : Nat), 0⟩) := by
      unfold laggingEvents
      rw [if_pos (.inr (by omega)), show (2 * k + 1 + 1) / 2 = k + 1 by omega]
    have hnotify : laggingEvents (2 * k + 1 + 1) = .notify := if_neg (by omega)
    show (oneToplevel ⟨-1, 0⟩).loop grabbed laggingEvents (2 * k + 1 + 1 + 1) = lagged (k + 1)
    rw [MoveSetting.loop_succ, MoveSetting.loop_succ, ih, hmotion, hnotify, next_lagged]

/-- The correction stays zero for ever, and each request is a pixel off. -/
theorem laggingEvents_unsettled : ¬ ∀ (m : MoveSetting) (l : MoveLoop) (events : Nat → MoveEvent),
    m.Begun l → m.Reports l events → m.Settles l events := by
  intro h
  have hsettles := h (oneToplevel ⟨-1, 0⟩) grabbed laggingEvents (begun_grabbed _)
    fun n _ => ⟨2 * n + 2, by omega, if_neg (by omega)⟩
  obtain ⟨start, hlearned⟩ := eventually_atTop.mp hsettles.learned
  have hat := hlearned (2 * start + 1) (by omega)
  rw [loop_laggingEvents] at hat
  have hzero : (⟨0, 0⟩ : Point) = ⟨-1, 0⟩ := hat
  exact absurd hzero (by decide)

end Wlx
