import Mathlib.Data.List.Chain
import WlX11.HostTracking
import WlX11.FitPolicy

/-!
# WlX11 — fits that undo each other

"Block preferred-driven A→B→A host fits closer than this (maximize fights)": a fit that takes the
window back to where the last one took it from, within `WLX_FIT_OSCILLATION_MS`, should not happen.
The guard compares with `fit_prev`, the size the fit before the last one *asked for*. That is where
the last fit started from only if nothing else had moved the window: the map, which chooses the first
size, and the host, which imposes one, do not write the history; a fit that was refused or failed
does.

* **`FitSession.Steady`** — no fit of the log undoes the one before it too soon.
* **`FitSession.steady_iff`** — the states of a run are steady exactly if a client that asks for the
  size the last fit started from, within 400 ms, always finds it in `fit_prev`.
-/

namespace Wlx

open X11Output (CommitOutcome)
open Window (MapEnv NetWmAtom)

/-- A fit that has resized the output. -/
structure HostFit where
  start : Size
  target : Size
  msec : Int
deriving DecidableEq

/-- The fit undoes the earlier one within `WLX_FIT_OSCILLATION_MS`. -/
def HostFit.Undoes (f earlier : HostFit) : Prop :=
  f.start = earlier.target ∧ f.target = earlier.start ∧ f.msec - earlier.msec < fitOscillationMs

/-- A toplevel, the clock, and the fits of its present X window, the last one first. -/
structure FitSession where
  win : Window
  clock : Int
  fits : List HostFit
deriving DecidableEq

/-- When an event is handled, for those whose handlers look at the clock. -/
def Action.time : Action → Option Int
  | .commit _ now _ _ | .netWmState _ now | .configureNotify _ _ now _ | .reparent _ now _ => some now
  | _ => none

namespace FitSession

variable (cfg : Config)

def init : FitSession := ⟨.fresh, 0, []⟩

/-- The fit `surface_commit` carries out, if it does: `win` is the window as wlroots' own commit
leaves it. -/
def fitOf [CInt] (now : Int) (outcome : CommitOutcome) (win : Window) : Option HostFit :=
  win.output.bind fun out =>
    if Window.fitsHost cfg now win out && Window.takes (Window.wantedHost cfg win) outcome
    then some ⟨out.size, Window.wantedHost cfg win, now⟩ else none

/-- The fits after an event: an X window that is gone takes its own along. -/
def log [CInt] (v : FitSession) : Action → List HostFit
  | .commit c now env outcome =>
    let win := v.win.applyCommit cfg env c
    if win.output.isSome then (fitOf cfg now outcome win).toList ++ v.fits else []
  | _ => v.fits

/-- One step. The clock does not run backwards. -/
def step [CInt] (v : FitSession) (a : Action) : Option FitSession :=
  if a.time.all fun now => 0 < now && v.clock ≤ now then
    (Wlx.step cfg v.win a).map fun win => ⟨win, a.time.getD v.clock, v.log cfg a⟩
  else none

theorem step_eq_some [CInt] {cfg : Config} {v v' : FitSession} {a : Action} :
    v.step cfg a = some v' ↔
      (∀ now, a.time = some now → 0 < now ∧ v.clock ≤ now) ∧
        ∃ win, Wlx.step cfg v.win a = some win ∧ v' = ⟨win, a.time.getD v.clock, v.log cfg a⟩ := by
  unfold step
  -- time never runs backwards
  have htime : (a.time.all fun now => 0 < now && v.clock ≤ now) = true ↔
      ∀ now, a.time = some now → 0 < now ∧ v.clock ≤ now := by
    cases a.time with
    | none => simp
    | some now => simp
  by_cases h : (a.time.all fun now => 0 < now && v.clock ≤ now) = true
  · rw [if_pos h, Option.map_eq_some_iff]
    constructor
    · rintro ⟨win, hstep, rfl⟩
      exact ⟨htime.mp h, win, hstep, rfl⟩
    · rintro ⟨-, win, hstep, rfl⟩
      exact ⟨win, hstep, rfl⟩
  · rw [if_neg h]
    exact iff_of_false nofun fun hall => h (htime.mpr hall.1)

/-- No fit undoes the one before it. -/
def Steady (v : FitSession) : Prop :=
  List.IsChain (fun f earlier => ¬ f.Undoes earlier) v.fits

/-- The state the step leads to is steady. -/
def StaysSteady [CInt] (v : FitSession) (a : Action) : Prop := ∀ v', v.step cfg a = some v' → v'.Steady

/-- A client that owns its size, or asserts a shrink, and asks for the size the last fit started from
before `WLX_FIT_OSCILLATION_MS` are over finds that size in `fit_prev`, and another one in
`fit_last`, unless the resize is not taken anyway. -/
def Remembers [CInt] (v : FitSession) : Action → Prop
  | .commit c now env outcome =>
    let win := v.win.applyCommit cfg env c
    ∀ out ∈ win.output, ∀ f ∈ v.fits.head?,
      out.size = f.target → Window.wantedHost cfg win = f.start → now - f.msec < fitOscillationMs →
      (win.tiled = false ∧ (win.sizeFromWm = false ∨ Window.assertShrink cfg win out = true)) →
      Window.takes f.start outcome = true →
        win.fitPrev = f.start ∧ win.fitLast ≠ f.start
  | _ => True

instance [CInt] : ∀ (v : FitSession) (a : Action), Decidable (v.Remembers cfg a)
  | v, .commit c now env outcome =>
    inferInstanceAs (Decidable (∀ out ∈ (v.win.applyCommit cfg env c).output, ∀ f ∈ v.fits.head?,
      out.size = f.target → Window.wantedHost cfg (v.win.applyCommit cfg env c) = f.start →
      now - f.msec < fitOscillationMs →
      ((v.win.applyCommit cfg env c).tiled = false ∧
        ((v.win.applyCommit cfg env c).sizeFromWm = false ∨
          Window.assertShrink cfg (v.win.applyCommit cfg env c) out = true)) →
      Window.takes f.start outcome = true →
        (v.win.applyCommit cfg env c).fitPrev = f.start ∧
          (v.win.applyCommit cfg env c).fitLast ≠ f.start))
  | _, .ackConfigure _ | _, .sendConfigure | _, .requestMaximize _ | _, .requestFullscreen _
  | _, .newDecoration | _, .requestDecorationMode | _, .destroyDecoration | _, .focusIn | _, .focusOut
  | _, .netWmState .. | _, .configureNotify .. | _, .reparent .. | _, .otherRequests _ => isTrue trivial

end FitSession

/-! ## Who writes the history -/

namespace Window

section History

variable (cfg : Config) (win : Window)

@[simp] theorem setActiveWindow_fitHistory : win.setActiveWindow.fitHistory = win.fitHistory := by
  unfold setActiveWindow
  split <;> rfl

/-- Mapping a window chooses its size and says nothing of it to the guard. -/
theorem applyCommit_fitHistory [CInt] (env : MapEnv) (c : SurfaceCommit) :
    (win.applyCommit cfg env c).fitHistory = win.fitHistory := by
  have hunmap : (win.unmapOnNull c).fitHistory = win.fitHistory := by
    unfold unmapOnNull xdgToplevelUnmap
    split
    · split <;> rfl
    · rfl
  have hmap (w : Window) : (w.mapOnBuffer cfg env).fitHistory = w.fitHistory := by
    -- the output's first size is committed without a fit
    have hcreate (w : Window) : (createOutputForWindow cfg env w).fitHistory = w.fitHistory := by
      unfold createOutputForWindow
      split <;> rfl
    unfold mapOnBuffer xdgToplevelMap
    split
    · split
      · rfl
      · dsimp only
        split
        · rw [setActiveWindow_fitHistory, hcreate]
          rfl
        · rw [hcreate]
          rfl
    · rfl
  unfold applyCommit
  rw [hmap, ← hunmap]
  rfl

/-- Neither does a change of `_NET_WM_STATE`. -/
theorem winHandleNetWmStateNotify_fitHistory [CInt] (now : Int) (replies : List (Option (List NetWmAtom))) :
    (winHandleNetWmStateNotify cfg now replies win).fitHistory = win.fitHistory := by
  -- states are mirrored by scheduling configures
  have hsize (on : Bool) (w : Window) : (mirrorSize on w).fitHistory = w.fitHistory := by
    cases on <;> rfl
  have hmaximized (on : Bool) (w : Window) : (mirrorMaximized on w).fitHistory = w.fitHistory := by
    unfold mirrorMaximized
    split
    · rfl
    · exact hsize on w
  have hfullscreen (on : Bool) (w : Window) : (mirrorFullscreen on w).fitHistory = w.fitHistory := by
    unfold mirrorFullscreen
    split
    · rfl
    · exact hsize on w
  unfold winHandleNetWmStateNotify
  split
  · split
    · rfl
    · dsimp only
      split
      · rw [wlxToplevelFillHost_fitHistory, hfullscreen, hmaximized]
      · rw [hfullscreen, hmaximized]
  · rfl

/-- Neither does a size the host imposes. -/
theorem configureNotify_fitHistory [CInt] (now : Int) (replies : List (Option (List NetWmAtom)))
    (outcome : CommitOutcome) (ev : ConfigureNotify) :
    (configureNotify cfg now replies outcome ev win).fitHistory = win.fitHistory := by
  cases h : hostResize win ev with
  | none =>
    rw [configureNotify_of_none cfg now replies outcome h]
    rfl
  | some req =>
    rw [configureNotify_of_some cfg now replies outcome h, commitOutput_fitHistory,
      winHandleNetWmStateNotify_fitHistory]
    rfl

theorem reparentSync_fitHistory [CInt] (now : Int) (outcome : CommitOutcome) (drawable : Size) :
    (reparentSync cfg now outcome drawable win).fitHistory = win.fitHistory := by
  unfold reparentSync
  split
  · rfl
  · split
    · rw [wlxToplevelSetSize_fitHistory, resizeOutputTo_fitHistory]
    · rfl

end History

end Window

/-- Only commits write the history of fits. -/
theorem handle_fitHistory [CInt] (cfg : Config) (win : Window) {a : Action}
    (hne : ∀ c now env outcome, a ≠ .commit c now env outcome) :
    (handle cfg win a).fitHistory = win.fitHistory := by
  -- one case per event, by the handlers' own lemmas
  cases a with
  | commit c now env outcome => exact absurd rfl (hne c now env outcome)
  | requestMaximize want =>
    simp only [handle, Window.toplevelRequestMaximize]
    split <;> rfl
  | requestFullscreen want =>
    simp only [handle, Window.toplevelRequestFullscreen]
    split <;> rfl
  | newDecoration =>
    simp only [handle, Window.serverNewToplevelDecoration, Window.wlxDecorationApplyMode]
    split <;> rfl
  | requestDecorationMode =>
    simp only [handle, Window.wlxDecorationApplyMode]
    split <;> rfl
  | focusIn => exact Window.setActiveWindow_fitHistory win
  | focusOut =>
    simp only [handle, Window.setInactive]
    split <;> rfl
  | netWmState replies now => exact Window.winHandleNetWmStateNotify_fitHistory cfg win now replies
  | configureNotify ev replies now outcome =>
    exact Window.configureNotify_fitHistory cfg win now replies outcome ev
  | reparent drawable now outcome => exact Window.reparentSync_fitHistory cfg win now outcome drawable
  | ackConfigure | sendConfigure | destroyDecoration | otherRequests => rfl

namespace FitSession

variable {cfg : Config} {v v' : FitSession}

/-! ## What the guard knows -/

/-- The last fit changed the size, and the history has been written since, by that fit or a later
attempt. -/
structure Known (v : FitSession) : Prop where
  last : ∀ f ∈ v.fits.head?, 0 < f.msec ∧ f.msec ≤ v.win.fitLastMsec ∧ v.win.fitLastMsec ≤ v.clock
  moved : ∀ f ∈ v.fits.head?, f.target.differs 1 f.start = true
  asked : ∀ f ∈ v.fits.head?, 0 < v.win.fitLast.width
  clock : v.win.fitLastMsec ≤ v.clock

theorem Known.init : Known init :=
  ⟨nofun, nofun, nofun, le_rfl⟩

theorem wantedHost_pos [CInt] (cfg : Config) (win : Window) : 0 < (Window.wantedHost cfg win).width := by
  have hset := cfg.scale_isSet (Window.toplevelPreferredSize_isSet cfg win.xdg)
  exact (Size.isSet_iff.mp hset).1

/-- An event without a fit, later than the ones before, leaves the guard with what it knew. -/
theorem Known.keep (h : v.Known) {win : Window} (hhistory : win.fitHistory = v.win.fitHistory)
    {clock : Int} (hclock : v.clock ≤ clock) (fits : List HostFit)
    (hfits : ∀ f ∈ fits.head?, f ∈ v.fits.head?) : Known ⟨win, clock, fits⟩ := by
  -- without a fit the three fields of the guard stay
  obtain ⟨hlast, -, hmsec⟩ : win.fitLast = v.win.fitLast ∧ win.fitPrev = v.win.fitPrev ∧
      win.fitLastMsec = v.win.fitLastMsec := by
    simpa [Window.fitHistory] using hhistory
  refine ⟨fun f hf => ?_, fun f hf => h.moved f (hfits f hf), fun f hf => ?_, ?_⟩
  · obtain ⟨hpos, hle, hnow⟩ := h.last f (hfits f hf)
    show 0 < f.msec ∧ f.msec ≤ win.fitLastMsec ∧ win.fitLastMsec ≤ clock
    rw [hmsec]
    exact ⟨hpos, hle, hnow.trans hclock⟩
  · show 0 < win.fitLast.width
    rw [hlast]
    exact h.asked f (hfits f hf)
  · show win.fitLastMsec ≤ clock
    rw [hmsec]
    exact h.clock.trans hclock

/-- What a commit's fit says of the window it is decided for. -/
theorem fitOf_eq_some [CInt] {now : Int} {outcome : CommitOutcome} {win : Window} {f : HostFit} :
    fitOf cfg now outcome win = some f ↔
      ∃ out, win.output = some out ∧ Window.fitsHost cfg now win out = true ∧
        Window.takes (Window.wantedHost cfg win) outcome = true ∧
        f = ⟨out.size, Window.wantedHost cfg win, now⟩ := by
  unfold fitOf
  rw [Option.bind_eq_some_iff]
  refine exists_congr fun out => and_congr_right fun _ => ?_
  rw [Option.ite_none_right_eq_some, Bool.and_eq_true, and_assoc]
  exact and_congr_right fun _ => and_congr_right fun _ => by
    rw [Option.some.injEq, eq_comm]

/-- The history after a commit on the window wlroots leaves. -/
theorem surfaceCommit_history [CInt] (cfg : Config) (now : Int) (outcome : CommitOutcome) (win : Window) :
    let after := Window.surfaceCommit cfg now outcome win
    (after.fitHistory = win.fitHistory ∧ fitOf cfg now outcome win = none) ∨
      after.fitHistory = Window.recordFit now (Window.wantedHost cfg win) win.fitHistory := by
  intro after
  cases ho : win.output with
  | none =>
    have hnone : (Window.prepareCommit cfg win).output = none :=
      (Window.prepareCommit_prepared cfg win).output.trans ho
    have hidle : after = Window.prepareCommit cfg win := by
      show Window.fitWindow cfg now outcome (Window.prepareCommit cfg win) = _
      unfold Window.fitWindow
      rw [hnone]
    refine Or.inl ⟨by rw [hidle, Window.prepareCommit_fitHistory], ?_⟩
    unfold fitOf
    rw [ho]
    rfl
  | some out =>
    have hspec := Window.surfaceCommit_fitted cfg now outcome ho
    dsimp only at hspec
    -- a fit writes the history, and anything else leaves it
    cases hf : Window.fitsHost cfg now win out with
    | true =>
      rw [hf, if_pos rfl] at hspec
      exact Or.inr hspec.1
    | false =>
      rw [hf, if_neg (by simp)] at hspec
      refine Or.inl ⟨hspec.1, ?_⟩
      unfold fitOf
      rw [ho]
      simp [hf]

/-- The newest fit of the log, after a commit, changed the size, now or before. -/
theorem Known.head_log [CInt] (h : v.Known) {c : SurfaceCommit} {now : Int} {env : MapEnv}
    {outcome : CommitOutcome} (hnow : 0 < now) (hlater : v.clock ≤ now) {f : HostFit}
    (hf : f ∈ (v.log cfg (.commit c now env outcome)).head?) :
    (0 < f.msec ∧ f.msec ≤ now) ∧ f.target.differs 1 f.start = true := by
  -- the head is the new fit, if there is one, and else the old head
  unfold log at hf
  dsimp only at hf
  split at hf
  · cases hfit : fitOf cfg now outcome (v.win.applyCommit cfg env c) with
    | none =>
      rw [hfit] at hf
      obtain ⟨hpos, hle, hle'⟩ := h.last f hf
      exact ⟨⟨hpos, by omega⟩, h.moved f hf⟩
    | some new =>
      rw [hfit] at hf
      obtain rfl : new = f := Option.some.inj hf
      obtain ⟨out, -, hfits, -, rfl⟩ := fitOf_eq_some.mp hfit
      unfold Window.fitsHost at hfits
      simp only [Bool.and_eq_true] at hfits
      exact ⟨⟨hnow, le_rfl⟩, hfits.1.1.1⟩
  · cases hf

/-- An attempt is written down with its size and time. -/
theorem Known.of_record {win : Window} {now : Int} {host : Size} {prior : FitHistory}
    (hrecord : win.fitHistory = Window.recordFit now host prior) (hhost : 0 < host.width)
    {fits : List HostFit} (hfits : ∀ f ∈ fits.head?, (0 < f.msec ∧ f.msec ≤ now) ∧
      f.target.differs 1 f.start = true) : Known ⟨win, now, fits⟩ := by
  obtain ⟨hlast, -, hmsec⟩ : win.fitLast = host ∧ _ ∧ win.fitLastMsec = now := by
    simpa only [Window.fitHistory, Window.recordFit, FitHistory.mk.injEq] using hrecord
  refine ⟨fun f hf => ?_, fun f hf => (hfits f hf).2, fun f hf => ?_, ?_⟩
  · show 0 < f.msec ∧ f.msec ≤ win.fitLastMsec ∧ win.fitLastMsec ≤ now
    rw [hmsec]
    exact ⟨(hfits f hf).1.1, (hfits f hf).1.2, le_rfl⟩
  · show 0 < win.fitLast.width
    rw [hlast]
    exact hhost
  · show win.fitLastMsec ≤ now
    rw [hmsec]

/-- **Every step keeps what the guard knows.** -/
theorem Known.step [CInt] (h : v.Known) {a : Action} (hstep : v.step cfg a = some v') : v'.Known := by
  obtain ⟨htime, win, hwin, rfl⟩ := step_eq_some.mp hstep
  obtain ⟨-, -, rfl⟩ := Wlx.step_eq_some.mp hwin
  have hclock : v.clock ≤ a.time.getD v.clock := by
    cases ht : a.time with
    | none => exact le_rfl
    | some now => exact (htime now ht).2
  cases a with
  | commit c now env outcome =>
    obtain ⟨hnow, hlater⟩ := htime now rfl
    have hbefore := Window.applyCommit_fitHistory cfg v.win env c
    -- the history is written after wlroots' part of the commit
    have hhistory := surfaceCommit_history cfg now outcome (v.win.applyCommit cfg env c)
    rcases hhistory with ⟨hsame, hnofit⟩ | hrecord
    · refine h.keep (hsame.trans hbefore) hclock _ fun f hf => ?_
      unfold log at hf
      dsimp only at hf
      rw [hnofit] at hf
      split at hf
      · exact hf
      · cases hf
    · exact .of_record hrecord (wantedHost_pos _ _) fun f hf => h.head_log hnow hlater hf
  | ackConfigure | sendConfigure | requestMaximize | requestFullscreen | newDecoration
  | requestDecorationMode | destroyDecoration | focusIn | focusOut | netWmState | configureNotify
  | reparent | otherRequests =>
    exact h.keep (handle_fitHistory cfg v.win fun _ _ _ _ h => by cases h) hclock _ fun f hf => hf

/-! ## Fits that are let pass -/

/-- A fit is steady after the fits before it. -/
theorem steady_log_iff [CInt] (hsteady : v.Steady) (c : SurfaceCommit) (now : Int) (env : MapEnv)
    (outcome : CommitOutcome) :
    List.IsChain (fun f earlier => ¬ HostFit.Undoes f earlier)
        (v.log cfg (.commit c now env outcome)) ↔
      ∀ new ∈ fitOf cfg now outcome (v.win.applyCommit cfg env c), ∀ f ∈ v.fits.head?,
        ¬ new.Undoes f := by
  -- a new fit is put in front of the log
  unfold log
  dsimp only
  split
  · cases fitOf cfg now outcome (v.win.applyCommit cfg env c) with
    | none => exact iff_of_true hsteady nofun
    | some new =>
      show List.IsChain _ (new :: v.fits) ↔ _
      rw [List.isChain_cons]
      simp only [Option.mem_some_iff, forall_eq']
      exact and_iff_left hsteady
  · next hnone =>
    have hnofit : fitOf cfg now outcome (v.win.applyCommit cfg env c) = none := by
      unfold fitOf
      rw [Option.not_isSome_iff_eq_none.mp hnone]
      rfl
    rw [hnofit]
    exact iff_of_true List.IsChain.nil nofun

/-- The guard lets a return pass exactly if it does not remember where the last fit started. -/
theorem oscillates_iff [CInt] (h : v.Known) {now : Int} (hlater : v.clock ≤ now) {win : Window}
    (hhistory : win.fitHistory = v.win.fitHistory) {f : HostFit} (hf : f ∈ v.fits.head?)
    (hsoon : now - f.msec < fitOscillationMs) (hwanted : Window.wantedHost cfg win = f.start) :
    Window.oscillates now win (Window.wantedHost cfg win) = true ↔
      win.fitPrev = f.start ∧ win.fitLast ≠ f.start := by
  obtain ⟨hlast, hprev, hmsec⟩ : win.fitLast = v.win.fitLast ∧ win.fitPrev = v.win.fitPrev ∧
      win.fitLastMsec = v.win.fitLastMsec := by
    simpa [Window.fitHistory] using hhistory
  obtain ⟨hpos, hle, hclock⟩ := h.last f hf
  have hasked := h.asked f hf
  have hwidth := wantedHost_pos cfg win
  -- the clock has gone on since the last fit
  have hsince : Window.sinceFit now win = now - v.win.fitLastMsec := by
    unfold Window.sinceFit
    rw [hmsec, if_pos (by omega)]
  unfold Window.oscillates
  rw [hsince, hlast]
  simp only [Bool.and_eq_true, decide_eq_true_eq]
  constructor
  · rintro ⟨⟨-, hhost⟩, hne⟩
    rw [hwanted] at hhost
    exact ⟨hhost.symm, by rw [hhost]; exact hne⟩
  · rintro ⟨hmem, hne⟩
    rw [hmem, ← hwanted]
    rw [← hwanted] at hne
    exact ⟨⟨⟨⟨⟨hasked, hwidth⟩, by omega⟩, by omega⟩, rfl⟩, hne⟩

/-- **One step**: it stays steady exactly if the guard remembers. -/
theorem staysSteady_iff [CInt] (hknown : v.Known) (hsteady : v.Steady) {a : Action}
    (hstep : v.step cfg a = some v') : v.StaysSteady cfg a ↔ v.Remembers cfg a := by
  have hnext : v.StaysSteady cfg a ↔ v'.Steady := Run.forall_step_iff hstep
  rw [hnext]
  obtain ⟨htime, win, hwin, rfl⟩ := step_eq_some.mp hstep
  cases a with
  | commit c now env outcome =>
    obtain ⟨-, hlater⟩ := htime now rfl
    refine (steady_log_iff hsteady c now env outcome).trans ?_
    have hhistory := Window.applyCommit_fitHistory cfg v.win env c
    constructor
    · intro h out hout f hf hsize hwanted hsoon hclient htakes
      rw [← oscillates_iff hknown hlater hhistory hf hsoon hwanted]
      by_contra hpasses
      rw [Bool.not_eq_true] at hpasses
      -- the fit goes through, and undoes the last one
      have hmoved := hknown.moved f hf
      have hfits : Window.fitsHost cfg now (v.win.applyCommit cfg env c) out = true := by
        have hmismatch : Window.sizeMismatch cfg (v.win.applyCommit cfg env c) out = true := by
          show (Window.wantedHost cfg (v.win.applyCommit cfg env c)).differs 1 out.size = true
          rw [hwanted, hsize, Size.differs_comm]
          exact hmoved
        unfold Window.fitsHost
        rcases hclient with ⟨hfloating, hown | hshrink⟩
        · simp [hmismatch, hfloating, hown, hpasses]
        · simp [hmismatch, hfloating, hshrink, hpasses]
      refine h ⟨out.size, Window.wantedHost cfg (v.win.applyCommit cfg env c), now⟩
        (fitOf_eq_some.mpr ⟨out, hout, hfits, by rw [hwanted]; exact htakes, rfl⟩) f hf ?_
      exact ⟨hsize, hwanted, hsoon⟩
    · rintro h new hnew f hf ⟨hsize, hwanted, hsoon⟩
      obtain ⟨out, hout, hfits, htakes, rfl⟩ := fitOf_eq_some.mp hnew
      unfold Window.fitsHost at hfits
      simp only [Bool.and_eq_true, Bool.or_eq_true, Bool.not_eq_true'] at hfits
      obtain ⟨⟨⟨-, hfloating⟩, hclient⟩, hpasses⟩ := hfits
      have hmem := h out hout f hf hsize hwanted hsoon ⟨hfloating, hclient⟩
        (by rw [← hwanted]; exact htakes)
      rw [← oscillates_iff hknown hlater hhistory hf hsoon hwanted, hpasses] at hmem
      cases hmem
  | ackConfigure | sendConfigure | requestMaximize | requestFullscreen | newDecoration
  | requestDecorationMode | destroyDecoration | focusIn | focusOut | netWmState | configureNotify
  | reparent | otherRequests => exact iff_of_true hsteady trivial

/-- **Fits do not undo each other.** In every run from a fresh toplevel: every state reached is steady
exactly if a client that asks, before `WLX_FIT_OSCILLATION_MS` are over, for the size the last fit
started from always finds it in `fit_prev` and another one in `fit_last`. -/
theorem steady_iff [CInt] (as : List Action) (v : FitSession) (hrun : Run.run (step cfg) init as = some v) :
    Run.Along (step cfg) (StaysSteady cfg) init as ↔ Run.Along (step cfg) (Remembers cfg) init as := by
  refine Run.along_iff_of_step (I := fun v => v.Known ∧ v.Steady) ?_ ?_
    ⟨Known.init, List.IsChain.nil⟩ hrun
  · exact fun s a t ⟨hknown, _⟩ hstays hstep => ⟨hknown.step hstep, hstays t hstep⟩
  · exact fun s a t ⟨hknown, hsteady⟩ hstep => staysSteady_iff hknown hsteady hstep

/-- A commit with a buffer and the window geometry of that size. -/
def sized (size : Size) : SurfaceCommit := ⟨.attach size, some ⟨0, 0, size.width, size.height⟩⟩

/-- A toplevel that maps at 800x600. -/
def mapping : List Action :=
  [.commit ⟨.keep, none⟩ 100 ⟨true, 0, .ok⟩ .ok, .sendConfigure, .ackConfigure 0,
    .commit (sized ⟨800, 600⟩) 200 ⟨true, 0, .ok⟩ .ok]

/-- Its content shrinks and grows again slowly; a third change comes at once, and is held back. -/
def slowChanges : List Action :=
  mapping ++ [.commit (sized ⟨400, 300⟩) 1000 ⟨true, 0, .ok⟩ .ok,
    .commit (sized ⟨800, 600⟩) 1500 ⟨true, 0, .ok⟩ .ok,
    .commit (sized ⟨400, 300⟩) 1600 ⟨true, 0, .ok⟩ .ok]

/-- Slow changes are let pass, fast ones between sizes that were both fitted are not. -/
theorem steady_slow_changes :
    Run.Along (step ⟨1, false⟩) (StaysSteady ⟨1, false⟩) init slowChanges := by
  have hsome : (Run.run (step ⟨1, false⟩) init slowChanges).isSome = true := by decide +kernel
  have hcond : Run.Along (step ⟨1, false⟩) (Remembers ⟨1, false⟩) init slowChanges := by
    decide +kernel
  obtain ⟨v, hv⟩ := Option.isSome_iff_exists.mp hsome
  exact (steady_iff slowChanges v hv).mpr hcond

/-- A toplevel that leaves its first size for a tenth of a second. -/
def backToMapSize : List Action :=
  mapping ++ [.commit (sized ⟨400, 300⟩) 1000 ⟨true, 0, .ok⟩ .ok,
    .commit (sized ⟨800, 600⟩) 1100 ⟨true, 0, .ok⟩ .ok]

/-- The guard does not know the size the window was mapped with. -/
theorem back_to_map_size_not_blocked :
    ¬ ∀ (cfg : Config) (v : FitSession), Run.Reachable (step cfg) init v → v.Steady := by
  intro h
  have hany : (Run.run (step ⟨1, false⟩) init backToMapSize).any (fun v =>
      v.fits = [⟨⟨400, 300⟩, ⟨800, 600⟩, 1100⟩, ⟨⟨800, 600⟩, ⟨400, 300⟩, 1000⟩]) = true := by
    decide +kernel
  obtain ⟨v, hv, hfits⟩ := (Option.any_eq_true ..).mp hany
  have hsteady := h ⟨1, false⟩ v ⟨_, hv⟩
  unfold Steady at hsteady
  rw [of_decide_eq_true hfits, List.isChain_cons] at hsteady
  exact hsteady.1 _ rfl ⟨rfl, rfl, by decide⟩

end FitSession

end Wlx
