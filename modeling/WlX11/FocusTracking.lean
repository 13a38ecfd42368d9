import WlX11.PointerFocus

/-!
# WlX11 — the focus and what is under the pointer

Motions and buttons look for the surface under the root pointer. A motion during an interactive move, a
`FocusIn` and a `FocusOut` do not: the first and the last leave the focus as it is, and a `FocusIn`
enters its toplevel's surface wherever the pointer is. While something is dragged, no motion gets
through to the drag.

* **`PointerSession.focused_of_looks`** — after motions and buttons, the idle seat's focus is what is
  under the pointer.
* **`PointerSession.agrees_iff_tracked`** — exactly when it is, after any event.
* **`PointerSession.dragSees_iff_overNothing`** — the motions that a drag does not miss.
-/

namespace Wlx

namespace PointerSession

/-- No button is held, and neither a drag nor a popup has a grab. -/
def Idle (v : PointerSession) : Prop :=
  v.seat.held = false ∧ v.seat.drag = none ∧ v.seat.grab = .default

/-- The X events that are handled, with the surface under the root pointer. -/
def found (v : PointerSession) : PointerAction → Option (Option Nat)
  | .motion under | .focusIn _ _ under | .focusOut under => some under
  | .press _ env | .release _ _ env => some env.under
  | .corePress detail env | .coreRelease detail _ env =>
    if v.grabbed ∧ (coreButton detail).isSome then some env.under else none
  | _ => none

/-- After the event, the focus of an idle seat is what is under the pointer. -/
def Agrees (v : PointerSession) (a : PointerAction) (v' : PointerSession) : Prop :=
  ∀ under ∈ v.found a, v'.Idle → v'.seat.focused = under

/-- What the handlers that do not look have to find. -/
def Tracked (v : PointerSession) : PointerAction → Prop
  | .motion under => v.moving = true → v.Idle → v.seat.focused = under
  | .focusIn surface coords under =>
    if coords then
      v.seat.drag = none → v.seat.grab = .default →
        (v.seat.held = true → v.seat.focused ≠ some surface) → under = some surface
    else v.Idle → v.seat.focused = under
  | .focusOut under => v.Idle → v.seat.focused = under
  | _ => True

/-- The events of the pointer that look for what is under it. -/
def Looks (v : PointerSession) : PointerAction → Prop
  | .motion _ => v.moving = false
  | .press .. | .release .. | .corePress .. | .coreRelease .. => True
  | _ => False

/-- The events that leave the focus alone. -/
def Rests (v : PointerSession) : PointerAction → Prop
  | .motion _ => v.moving = true
  | .focusOut _ => True
  | _ => False

/-- The drag has the focus it gets from what is under the pointer, and has got the motion there. -/
def DragSees (clientOf : Nat → Nat) (v : PointerSession) (under : Option Nat) : Prop :=
  ∀ d ∈ v.seat.drag, d.focus = v.seat.dragTarget clientOf d under ∧
    (d.focus.isSome = true → .dragMotion d.focus ∈ v.seat.calls)

/-- If something is dragged, the pointer moves over nothing that can take it, and comes from nothing. -/
def OverNothing (clientOf : Nat → Nat) (v : PointerSession) : PointerAction → Prop
  | .motion under => ∀ d ∈ v.seat.drag, d.focus = none ∧ v.seat.dragTarget clientOf d under = none
  | _ => True

end PointerSession

namespace PointerSession

variable {clientOf : Nat → Nat} {v v' : PointerSession}

/-- What is looked for is what an idle seat has focused then. -/
theorem focused_enterUnderCursor {under : Option Nat}
    (hidle : (v.enterUnderCursor clientOf under).Idle) :
    (v.enterUnderCursor clientOf under).seat.focused = under := by
  obtain ⟨hheld, -, hgrab⟩ := hidle
  unfold enterUnderCursor at hheld hgrab ⊢
  dsimp only at hheld hgrab ⊢
  cases under with
  | none =>
    dsimp only
    split
    · rfl
    · rename_i hnone
      simpa using hnone
  | some x =>
    dsimp only at hheld hgrab ⊢
    split
    -- passed over while a button is held, which is not so
    · rename_i hskip
      rw [if_pos hskip, hskip.1] at hheld
      cases hheld
    · rename_i henter
      rw [if_neg henter, (Seat.notifyEnter_frame clientOf v.seat x).1] at hgrab
      rw [Seat.notifyEnter_focused, hgrab]

/-- After a motion that looks, an idle seat has focused what is under the pointer. -/
theorem focused_processCursorMotion {under : Option Nat} (hmoving : v.moving = false)
    (hidle : (v.processCursorMotion clientOf under).Idle) :
    (v.processCursorMotion clientOf under).seat.focused = under := by
  have hmotion : ∀ s : Seat, s.notifyMotion.focused = s.focused ∧ s.notifyMotion.held = s.held ∧
      s.notifyMotion.grab = s.grab := by
    intro s
    unfold Seat.notifyMotion
    -- the same surface, a held button, or another surface
    split <;> exact ⟨rfl, rfl, rfl⟩
  obtain ⟨hheld, -, hgrab⟩ := hidle
  unfold processCursorMotion at hheld hgrab ⊢
  rw [if_neg (by simp [hmoving])] at hheld hgrab ⊢
  dsimp only at hheld hgrab ⊢
  split
  · rename_i hsame
    rw [hsame]
    split
    · exact (hmotion v.seat).1
    · rfl
  · rename_i hother
    rw [if_neg hother] at hheld hgrab
    split
    · rename_i hholds
      rw [if_pos hholds] at hheld
      split at hheld
      · rw [(hmotion v.seat).2.1, hholds] at hheld
        cases hheld
      · rw [hholds] at hheld
        cases hheld
    · rename_i hfree
      rw [if_neg hfree] at hgrab
      cases under with
      | none => rfl
      | some x =>
        dsimp only at hgrab ⊢
        rw [(hmotion _).2.2, (Seat.notifyEnter_frame clientOf v.seat x).1] at hgrab
        rw [(hmotion _).1, Seat.notifyEnter_focused, hgrab]

/-- The menu grab looks once more, or leaves the seat as it is. -/
theorem focused_takePendingGrab {env : PointerEnv}
    (hfocused : v.Idle → v.seat.focused = env.under)
    (hidle : (v.takePendingGrab clientOf env).Idle) :
    (v.takePendingGrab clientOf env).seat.focused = env.under := by
  -- of the five ways only a granted grab looks again
  have hupdate : (v.updatePointerGrab clientOf env).Idle →
      (v.updatePointerGrab clientOf env).seat.focused = env.under := by
    unfold updatePointerGrab
    split
    · split
      · exact hfocused
      · split
        · exact hfocused
        · split
          · exact focused_enterUnderCursor
          · exact hfocused
    · exact hfocused
  unfold takePendingGrab at hidle ⊢
  split
  · rename_i htake
    rw [if_pos htake] at hidle
    exact hupdate hidle
  · rename_i hnot
    rw [if_neg hnot] at hidle
    exact hfocused hidle

/-- A `FocusIn` that enters its toplevel's surface. -/
theorem idle_focusIn {surface : Nat} :
    (v.focusIn clientOf surface true).Idle ↔
      v.seat.drag = none ∧ v.seat.grab = .default ∧
        (v.seat.held = true → v.seat.focused ≠ some surface) := by
  have hseat : (v.focusIn clientOf surface true).seat = v.seat.notifyEnter clientOf surface := rfl
  obtain ⟨hgrab, hdrag⟩ := Seat.notifyEnter_frame clientOf v.seat surface
  have hnone : (v.seat.notifyEnter clientOf surface).drag = none ↔ v.seat.drag = none := by
    rw [← Option.not_isSome_iff_eq_none, ← Option.not_isSome_iff_eq_none, hdrag]
  unfold Idle
  rw [hseat, hgrab, hnone, and_left_comm]
  refine and_congr_right fun _ => ?_
  rw [and_comm]
  refine and_congr_right fun hdefault => ?_
  -- the buttons are forgotten if another surface was focused
  have hfocused : (v.seat.notifyEnter clientOf surface).focused = some surface := by
    rw [Seat.notifyEnter_focused, hdefault]
  have hheld : (v.seat.notifyEnter clientOf surface).held =
      if v.seat.focused = some surface then v.seat.held else false := by
    unfold Seat.held
    rw [Seat.notifyEnter_buttons, hfocused]
    by_cases hsame : v.seat.focused = some surface
    · rw [if_pos hsame.symm, if_pos hsame]
    · rw [if_neg (Ne.symm hsame), if_neg hsame]
      rfl
  rw [hheld]
  by_cases hsame : v.seat.focused = some surface
  · simp [hsame]
  · simp [hsame]

theorem agrees_focusIn {surface : Nat} {under : Option Nat} :
    ((v.focusIn clientOf surface true).Idle → (v.focusIn clientOf surface true).seat.focused = under) ↔
      (v.seat.drag = none → v.seat.grab = .default →
        (v.seat.held = true → v.seat.focused ≠ some surface) → under = some surface) := by
  rw [idle_focusIn, and_imp, and_imp]
  refine imp_congr_right fun _ => imp_congr_right fun hdefault => imp_congr_right fun _ => ?_
  show (v.seat.notifyEnter clientOf surface).focused = under ↔ _
  rw [Seat.notifyEnter_focused, hdefault]
  exact eq_comm

/-- A press is held on to, so nothing is asked. -/
theorem not_idle_cursorPress (button : Nat) (env : PointerEnv) :
    ¬(v.cursorPress clientOf button env).Idle := by
  rintro ⟨hheld, -⟩
  rw [cursorPress, Seat.held_press] at hheld
  cases hheld

theorem found_core {detail : Nat} {env : PointerEnv} {under : Option Nat}
    (h : under ∈ if v.grabbed ∧ (coreButton detail).isSome then some env.under else none) :
    (v.grabbed = true ∧ (coreButton detail).isSome = true) ∧ env.under = under := by
  rw [Option.mem_def, Option.ite_none_right_eq_some, Option.some.injEq] at h
  exact h

/-- **One event.** The idle seat's focus is what is under the pointer exactly if it was, or is looked
for. -/
theorem agrees_handle {a : PointerAction} (hstep : v.handle clientOf a = some v') :
    v.Agrees a v' ↔ v.Tracked a := by
  have hunder : ∀ (under : Option Nat) (p : Option Nat → Prop), (∀ u ∈ some under, p u) ↔ p under := by
    simp
  cases a with
  | motion under =>
    cases hstep
    refine (hunder under _).trans ?_
    show _ ↔ (v.moving = true → v.Idle → v.seat.focused = under)
    by_cases hmoving : v.moving = true
    · have hsame : v.processCursorMotion clientOf under = v := by
        unfold processCursorMotion
        rw [if_pos hmoving]
      rw [hsame]
      exact (imp_iff_right hmoving).symm
    · exact iff_of_true (focused_processCursorMotion (Bool.not_eq_true _ ▸ hmoving))
        fun h => absurd h hmoving
  -- a pressed button: the seat is not idle
  | press button env =>
    cases hstep
    refine iff_of_true ((hunder env.under _).mpr ?_) trivial
    exact fun hidle => absurd hidle (not_idle_cursorPress button env)
  | release button accepted env =>
    cases hstep
    exact iff_of_true ((hunder env.under _).mpr focused_enterUnderCursor) trivial
  | corePress detail env =>
    cases hstep
    refine iff_of_true (fun under hfound hidle => ?_) trivial
    obtain ⟨⟨hgrabbed, hbutton⟩, rfl⟩ := found_core hfound
    obtain ⟨button, hbutton⟩ := Option.isSome_iff_exists.mp hbutton
    rw [corePress, hbutton] at hidle
    dsimp only at hidle
    rw [if_pos hgrabbed] at hidle
    exact absurd hidle (not_idle_cursorPress button env)
  | coreRelease detail accepted env =>
    cases hstep
    refine iff_of_true (fun under hfound hidle => ?_) trivial
    obtain ⟨⟨hgrabbed, hbutton⟩, rfl⟩ := found_core hfound
    obtain ⟨button, hbutton⟩ := Option.isSome_iff_exists.mp hbutton
    rw [coreRelease, hbutton] at hidle ⊢
    dsimp only at hidle ⊢
    rw [if_pos hgrabbed] at hidle ⊢
    exact focused_takePendingGrab focused_enterUnderCursor hidle
  | focusIn surface coords under =>
    cases hstep
    refine (hunder under _).trans ?_
    cases coords with
    | true => exact agrees_focusIn
    | false => exact Iff.rfl
  | focusOut under =>
    cases hstep
    exact hunder under _
  | _ => exact iff_of_true nofun trivial

/-- **The focus of an idle seat.** After each event of a run that leaves no button held and no grab, the
focus is what is under the pointer, exactly if it was before each motion of an interactive move and
each `FocusOut`, and each `FocusIn` finds its toplevel's surface there. -/
theorem agrees_iff_tracked (clientOf : Nat → Nat) (as : List PointerAction) :
    Run.Along (step clientOf) (fun v a => ∀ v', v.step clientOf a = some v' → v.Agrees a v') init as ↔
      Run.Along (step clientOf) Tracked init as := by
  refine Run.along_congr (I := fun _ => True) (fun _ _ _ _ _ => trivial) (fun v a _ => ?_) trivial
  cases hstep : v.step clientOf a with
  | some v' =>
    have hforall := Run.forall_step_iff (p := fun v' => v.Agrees a v') hstep
    rw [hstep] at hforall
    exact hforall.trans (agrees_handle (v := v.fresh) hstep)
  | none =>
    -- the events that are handled are never refused
    refine iff_of_true (fun v' hsome => absurd hsome.symm (Option.some_ne_none v')) ?_
    cases a with
    | motion | focusIn | focusOut => cases hstep
    | _ => trivial

/-- **Pointer events look.** In every run, a motion outside an interactive move and every button event
that leave no button held and no grab leave the focus on what is under the pointer; a motion of an
interactive move and a `FocusOut` leave it as it was. -/
theorem focused_of_looks (clientOf : Nat → Nat) (as : List PointerAction) :
    Run.Along (step clientOf)
      (fun v a => ∀ v', v.step clientOf a = some v' →
        (v.Looks a → v.Agrees a v') ∧ (v.Rests a → v'.seat.focused = v.seat.focused)) init as := by
  refine Run.along_of_forall fun v a v' hstep => ⟨fun hlooks => ?_, fun hrests => ?_⟩
  -- a button event looks whatever moves, a motion only outside a move
  · refine (agrees_handle (v := v.fresh) hstep).mpr ?_
    cases a with
    | motion under =>
      intro hmoving
      exact absurd (show v.moving = true from hmoving) (by simp [show v.moving = false from hlooks])
    | press | release | corePress | coreRelease => trivial
    | _ => exact hlooks.elim
  · cases a with
    | motion under =>
      have hmoving : v.fresh.moving = true := hrests
      simp only [step, handle, processCursorMotion, hmoving, if_true, Option.some.injEq] at hstep
      rw [← hstep]
      rfl
    | focusOut under =>
      cases hstep
      rfl
    | _ => exact hrests.elim

/-- **Events that do not look.** An interactive move goes over a surface; the pointer has left the
window that loses the host's focus; it is over a subsurface of the toplevel that gets it. -/
theorem focus_not_followed :
    (¬ Run.Along (step fun _ => 0) (fun v a => ∀ v', v.step (fun _ => 0) a = some v' → v.Agrees a v') init
        [.move true, .motion (some 0)]) ∧
      (¬ Run.Along (step fun _ => 0) (fun v a => ∀ v', v.step (fun _ => 0) a = some v' → v.Agrees a v') init
        [.motion (some 0), .focusOut none]) ∧
      ¬ Run.Along (step fun _ => 0) (fun v a => ∀ v', v.step (fun _ => 0) a = some v' → v.Agrees a v') init
        [.focusIn 0 true (some 1)] := by
  refine ⟨fun hall => ?_, fun hall => ?_, fun hall => ?_⟩
  · exact absurd (hall.2.1 _ rfl (some 0) rfl ⟨rfl, rfl, rfl⟩) (by decide)
  · exact absurd (hall.2.1 _ rfl none rfl ⟨rfl, rfl, rfl⟩) (by decide)
  · exact absurd (hall.1 _ rfl (some 1) rfl ⟨rfl, rfl, rfl⟩) (by decide)

end PointerSession

/-! ## Drags -/

/-- While a drag has the grab, nothing is focused, and a button is held. -/
def Seat.DragHeld (s : Seat) : Prop :=
  s.grab = .drag → s.drag.isSome = true ∧ s.focused = none ∧ s.held = true

namespace Seat

variable {clientOf : Nat → Nat} {s : Seat}

theorem DragHeld.notifyEnter (h : s.DragHeld) (x : Nat) : (s.notifyEnter clientOf x).DragHeld := by
  obtain ⟨hgrab, hdrag⟩ := notifyEnter_frame clientOf s x
  intro hdragged
  rw [hgrab] at hdragged
  obtain ⟨hsome, hfocused, hheld⟩ := h hdragged
  have hsame : (s.notifyEnter clientOf x).focused = s.focused := by
    rw [notifyEnter_focused, hdragged]
  refine ⟨hdrag.trans hsome, hsame.trans hfocused, ?_⟩
  rw [held, notifyEnter_buttons, if_pos hsame]
  exact hheld

theorem DragHeld.press (h : s.DragHeld) (mapped : Nat → Bool) (button : Nat) :
    (s.press mapped button).DragHeld := by
  obtain ⟨-, hfocused, hdrag, hgrab, -⟩ := press_spec mapped s button
  intro hdragged
  obtain ⟨hsome, hnone, -⟩ := h (hgrab hdragged)
  rw [hdrag, hfocused]
  exact ⟨hsome, hnone, held_press mapped s button⟩

/-- The drag ends with the last button. -/
theorem DragHeld.release (h : s.DragHeld) (accepted : Bool) (button : Nat) :
    (s.release accepted button).DragHeld := by
  unfold Seat.release
  cases hfind : s.buttons.find? (·.button = button) with
  | none => exact h
  | some e =>
    dsimp only
    split
    -- the button is still down
    · intro hdragged
      obtain ⟨hsome, hnone, -⟩ := h hdragged
      refine ⟨hsome, hnone, ?_⟩
      simp [held, List.ne_nil_of_mem (List.mem_of_find?_eq_some hfind)]
    · unfold Seat.grabRelease
      dsimp only
      split
      · rename_i hgrab
        intro hdragged
        cases hgrab.symm.trans hdragged
      · rename_i hgrab
        intro hdragged
        have hpopup : s.grab = .drag := by
          split at hdragged <;> exact hdragged
        cases hgrab.symm.trans hpopup
      -- a drag grab has its drag
      · rename_i hgrab hdrag
        have hsome := (h hgrab).1
        rw [hdrag] at hsome
        cases hsome
      · rename_i hgrab _
        split
        · intro hdragged
          cases hdragged
        · split
          · rename_i hheld
            exact fun _ => ⟨(h hgrab).1, (h hgrab).2.1, hheld⟩
          · intro hdragged
            cases hdragged

theorem kept_dragHeld : Kept clientOf DragHeld where
  clearFocus s h := fun hdragged => ⟨(h hdragged).1, rfl, (h hdragged).2.2⟩
  notifyEnter _ x h := h.notifyEnter x
  notifyMotion s h := by
    unfold Seat.notifyMotion
    split <;> exact h
  press mapped _ button h := h.press mapped button
  release accepted _ button h := h.release accepted button
  startPopupGrab _ _ _ _ := nofun
  resetXdgPopup s surface h := by
    unfold Seat.resetXdgPopup
    split
    · intro hdragged
      dsimp only at hdragged
      split at hdragged
      · cases hdragged
      · exact h hdragged
    · exact h
  surfaceDestroyed s surface h := by
    intro hdragged
    obtain ⟨hsome, hnone, hheld⟩ := h hdragged
    refine ⟨by simpa [Seat.surfaceDestroyed] using hsome, ?_, hheld⟩
    simp [Seat.surfaceDestroyed, hnone]
  -- it begins with one button down, and clears the focus
  startDrag s origin client source serial h := by
    unfold Seat.startDrag
    split
    · rename_i hvalid
      obtain ⟨-, hone, -⟩ := hvalid
      refine fun _ => ⟨rfl, rfl, ?_⟩
      cases hbuttons : s.buttons with
      | nil =>
        rw [hbuttons] at hone
        cases hone
      | cons e es => simp [held, clearFocus, enter, hbuttons]
    · exact h
  endDrag _ _ := nofun
  bind _ _ h := h
  unbind s client h := by
    intro hdragged
    obtain ⟨hsome, hnone, hheld⟩ := h hdragged
    exact ⟨by simpa [Seat.unbind] using hsome, hnone, hheld⟩

end Seat

namespace PointerSession

variable {clientOf : Nat → Nat} {v v' : PointerSession}

theorem notifyMotion_of_ne {s : Seat} (h : s.grab ≠ .drag) : s.notifyMotion = s := by
  unfold Seat.notifyMotion
  split
  · rename_i hgrab _
    exact absurd hgrab h
  · rfl

/-- An enter that another grab gets does not touch the drag. -/
theorem notifyEnter_of_ne {s : Seat} (h : s.grab ≠ .drag) (x : Nat) :
    (s.notifyEnter clientOf x).drag = s.drag ∧ (s.notifyEnter clientOf x).clients = s.clients ∧
      ∀ focus, .dragMotion focus ∈ (s.notifyEnter clientOf x).calls → .dragMotion focus ∈ s.calls := by
  -- neither of the two other grabs has a drag to tell
  have hframe : ∀ t : Seat, t.grab = s.grab →
      (t.grabEnter clientOf x).drag = t.drag ∧ (t.grabEnter clientOf x).clients = t.clients := by
    intro t ht
    unfold Seat.grabEnter
    cases hgrab : t.grab with
    | default => exact ⟨rfl, rfl⟩
    | popup =>
      dsimp only
      split <;> exact ⟨rfl, rfl⟩
    | drag => exact absurd (ht.symm.trans hgrab) h
  obtain ⟨hdrag, hclients⟩ := hframe (s.note (.notifyEnter x s.focused s.held s.dragging)) rfl
  refine ⟨?_, ?_, ?_⟩
  · unfold Seat.notifyEnter
    dsimp only
    split <;> exact hdrag
  · unfold Seat.notifyEnter
    dsimp only
    split <;> exact hclients
  · intro focus hmem
    rw [Seat.notifyEnter_calls] at hmem
    split at hmem <;> simpa using hmem

/-- No motion gets through to a drag. -/
theorem processCursorMotion_drag (clientOf : Nat → Nat) (h : v.seat.DragHeld) (under : Option Nat) :
    (v.processCursorMotion clientOf under).seat.drag = v.seat.drag ∧
      (v.processCursorMotion clientOf under).seat.clients = v.seat.clients ∧
        ∀ focus, .dragMotion focus ∈ (v.processCursorMotion clientOf under).seat.calls →
          .dragMotion focus ∈ v.seat.calls := by
  have hsame : ∀ s : Seat, s = v.seat → s.drag = v.seat.drag ∧ s.clients = v.seat.clients ∧
      ∀ focus, .dragMotion focus ∈ s.calls → .dragMotion focus ∈ v.seat.calls := by
    rintro s rfl
    exact ⟨rfl, rfl, fun _ hmem => hmem⟩
  unfold processCursorMotion
  split
  · exact hsame v.seat rfl
  · by_cases hgrab : v.seat.grab = .drag
    · -- the focus was cleared when the drag began, and its button is held
      obtain ⟨-, hnone, hheld⟩ := h hgrab
      apply hsame
      dsimp only
      rw [hnone]
      cases under with
      | none => rfl
      | some x => rw [if_neg nofun, if_pos hheld]; rfl
    -- another grab gets it
    · dsimp only
      split
      · apply hsame
        rw [notifyMotion_of_ne hgrab]
        split <;> rfl
      · split
        · apply hsame
          rw [notifyMotion_of_ne hgrab]
          split <;> rfl
        · split
          · exact ⟨rfl, rfl, fun _ hmem => hmem⟩
          · rw [notifyMotion_of_ne]
            · exact notifyEnter_of_ne hgrab _
            · rw [(Seat.notifyEnter_frame clientOf v.seat _).1]
              exact hgrab

/-- **A motion.** The drag sees it exactly if there is nothing to see. -/
theorem dragSees_processCursorMotion (clientOf : Nat → Nat) (h : v.seat.DragHeld)
    (hcalls : v.seat.calls = []) (under : Option Nat) :
    (v.processCursorMotion clientOf under).DragSees clientOf under ↔
      v.OverNothing clientOf (.motion under) := by
  obtain ⟨hdrag, hclients, hmotion⟩ := processCursorMotion_drag clientOf h under
  unfold DragSees OverNothing Seat.dragTarget
  rw [hdrag, hclients]
  refine forall₂_congr fun d _ => ?_
  constructor
  · rintro ⟨htarget, hseen⟩
    cases hfocus : d.focus with
    | none =>
      rw [hfocus] at htarget
      exact ⟨rfl, htarget.symm⟩
    | some x =>
      -- it would have to be told of this very motion
      have hcall := hmotion d.focus (hseen (by rw [hfocus]; rfl))
      rw [hcalls] at hcall
      cases hcall
  · rintro ⟨hfocus, htarget⟩
    rw [hfocus, htarget]
    exact ⟨rfl, nofun⟩

/-- **Drags.** While something is dragged, each motion of a run leaves the drag with the focus that what
is under the pointer gives it, and has got through to it there, exactly if the drag has no focus and
gets none from what is under the pointer. -/
theorem dragSees_iff_overNothing (clientOf : Nat → Nat) (as : List PointerAction) :
    Run.Along (step clientOf)
        (fun v a => ∀ v', v.step clientOf a = some v' →
          ∀ under, a = .motion under → v'.DragSees clientOf under)
        init as ↔
      Run.Along (step clientOf) (OverNothing clientOf) init as := by
  have hinit : init.seat.DragHeld := by
    -- the grab of the seat is the default one
    intro hdragged
    cases hdragged
  refine Run.along_congr (I := fun v => v.seat.DragHeld) ?_ ?_ hinit
  · intro v a v' h hstep
    exact kept_handle Seat.kept_dragHeld (v := v.fresh) h hstep
  · intro v a h
    by_cases hmotion : ∃ under, a = .motion under
    · obtain ⟨under, rfl⟩ := hmotion
      have hiff := dragSees_processCursorMotion clientOf (v := v.fresh) h rfl under
      constructor
      · exact fun hall => hiff.mp (hall _ rfl under rfl)
      · rintro hover v' ⟨⟩ u ⟨⟩
        exact hiff.mpr hover
    · refine iff_of_true (fun v' _ under ha => absurd ⟨under, ha⟩ hmotion) ?_
      cases a with
      | motion under => exact absurd ⟨under, rfl⟩ hmotion
      | _ => trivial

/-- **A drag that sees nothing.** A surface is pressed and dragged from; no motion tells the drag what it
is over. -/
theorem drag_over_surface : ¬ ∀ (clientOf : Nat → Nat) (as : List PointerAction),
    Run.Along (step clientOf)
      (fun v a => ∀ v', v.step clientOf a = some v' →
        ∀ under, a = .motion under → v'.DragSees clientOf under)
      init as := by
  intro hall
  have hdrag := (hall (fun _ => 0) [.bindSeat 0, .motion (some 0), .press 272 ⟨some 0, true⟩,
    .startDrag 0 0 (some true) true, .motion (some 1)]).2.2.2.2.1 _ rfl (some 1) rfl
  have hfocus := (hdrag ⟨some 0, some true, none, false⟩ rfl).1
  revert hfocus
  decide

end PointerSession

end Wlx
