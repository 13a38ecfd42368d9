import WlX11.Lib.Spaced
import WlX11.FitOscillation
import WlX11.RoundTrip

/-!
# WlX11 — how often a client is asked to fill the host

While the host owns a window's size, every commit that does not match the output has
`wlx_toplevel_fill_host` configure the client, and a client that answers each configure with such a
commit would keep both busy. The 500 ms limiter is there to prevent that. It covers the *re-assertion*
of a size the last configure had already: a size that is new goes out at once. The output and the tiled
state are not the client's to change, but with `--csd` its shadow margin is, and the size that fills the
output moves with it.

* **`FillLog`** — a session with the times at which `surface_commit` had `fill_host` schedule a size.
* **`Undisturbed`** — client traffic that leaves host size, tiled state and host authority alone.
* **`fills_paced`** — at most two in any 500 ms, if the commits do not move the size that fills the host
  away from the one last configured.
* **`limited_without_csd`** — without `--csd` they cannot.
-/

namespace Wlx

open X11Output (CommitOutcome)
open Window (MapEnv)

namespace Window

/-- `wlx_toplevel_fill_host` schedules a configure. -/
def fillHostSends [CInt] (cfg : Config) (now : Int) (win : Window) : Bool :=
  let size := wlxToplevelSizeForOutput cfg win
  if size.width < 1 ∨ size.height < 1 then false
  else if win.lastOk size ∧ win.confOk size then false
  else if win.lastOk size then !decide (0 < win.fillHostLastMsec ∧ now - win.fillHostLastMsec < 500)
  else true

/-- `surface_commit` calls `wlx_toplevel_fill_host`, and that schedules a configure; `win` is the window
as wlroots' own commit leaves it. -/
def commitFills [CInt] (cfg : Config) (now : Int) (win : Window) : Bool :=
  let win := prepareCommit cfg win
  match win.output with
  | none => false
  | some out =>
    let win := releaseHostSize cfg win out
    fitDecision cfg now win out = .hold && fillHostSends cfg now win

/-- What a call of `wlx_toplevel_fill_host` leaves of the limiter's stamp and the last configure. -/
theorem wlxToplevelFillHost_stamps [CInt] (cfg : Config) (now : Int) (win : Window) :
    (wlxToplevelFillHost cfg now win).fillHostLastMsec =
        (if fillHostSends cfg now win && win.lastOk (wlxToplevelSizeForOutput cfg win) then now
          else win.fillHostLastMsec) ∧
      (wlxToplevelFillHost cfg now win).lastClientConf =
        if fillHostSends cfg now win then wlxToplevelSizeForOutput cfg win else win.lastClientConf := by
  have hset (h : ¬ ((wlxToplevelSizeForOutput cfg win).width < 1 ∨
      (wlxToplevelSizeForOutput cfg win).height < 1)) :
      (wlxToplevelSizeForOutput cfg win).isSet = true := by
    rw [Size.isSet_iff]
    omega
  unfold wlxToplevelFillHost fillHostSends
  dsimp only
  -- no size, or nothing to tell: neither is touched
  split
  · exact ⟨rfl, rfl⟩
  · next hpos =>
    split
    · exact ⟨rfl, rfl⟩
    split
    · next hlast =>
      rw [hlast, Bool.and_true]
      split
      -- too soon after the last one
      · next hlimited =>
        rw [decide_eq_true hlimited]
        exact ⟨rfl, rfl⟩
      · next hpasses =>
        rw [decide_eq_false hpasses]
        exact ⟨rfl, if_pos (hset hpos)⟩
    · next hlast =>
      rw [Bool.not_eq_true] at hlast
      rw [hlast]
      exact ⟨rfl, if_pos (hset hpos)⟩

theorem prepareCommit_fillHostLastMsec [CInt] (cfg : Config) (win : Window) :
    (prepareCommit cfg win).fillHostLastMsec = win.fillHostLastMsec := by
  obtain ⟨hold, hdrop⟩ := dropHold_eq cfg win
  have hmargin (w : Window) : w.trackCsdMargin.fillHostLastMsec = w.fillHostLastMsec :=
    (congrArg fillHostLastMsec (trackCsdMargin_frame w) :)
  unfold prepareCommit
  rw [hmargin, hdrop]
  unfold applyPendingDecoration sendInitialConfigure
  split <;> split <;> rfl

/-- **What a commit leaves of them**, if the window is the host's afterwards: then the size decision was
no fit. -/
theorem surfaceCommit_stamps [CInt] {cfg : Config} {now : Int} {outcome : CommitOutcome} {win : Window}
    {out : X11Output} (ho : win.output = some out)
    (hauth : (surfaceCommit cfg now outcome win).sizeFromWm = true ∨
      (surfaceCommit cfg now outcome win).tiled = true) :
    let seen := prepareCommit cfg win
    let target := wlxToplevelSizeForOutput cfg seen
    (surfaceCommit cfg now outcome win).fillHostLastMsec =
        (if commitFills cfg now win && seen.lastOk target then now else win.fillHostLastMsec) ∧
      (surfaceCommit cfg now outcome win).lastClientConf =
        if commitFills cfg now win then target else win.lastClientConf := by
  intro seen target
  have hprep := prepareCommit_prepared cfg win
  have hseen : seen.output = some out := hprep.output.trans ho
  have hmsec : seen.fillHostLastMsec = win.fillHostLastMsec := prepareCommit_fillHostLastMsec cfg win
  have hconf : seen.lastClientConf = win.lastClientConf := hprep.lastClientConf
  have hfills : commitFills cfg now win =
      (decide (fitDecision cfg now (releaseHostSize cfg seen out) out = .hold) &&
        fillHostSends cfg now seen) := by
    unfold commitFills
    dsimp only
    rw [hprep.output, ho]
    rfl
  have hafter : surfaceCommit cfg now outcome win = runDecision cfg now outcome
      (releaseHostSize cfg seen out) (fitDecision cfg now (releaseHostSize cfg seen out) out) :=
    fitWindow_eq now outcome hseen
  have hs := runDecision_step cfg now outcome (releaseHostSize cfg seen out)
    (fitDecision cfg now (releaseHostSize cfg seen out) out)
  rw [hafter] at hauth ⊢
  rw [hs.sizeFromWm, hs.tiled] at hauth
  rw [hfills]
  cases hd : fitDecision cfg now (releaseHostSize cfg seen out) out with
  | fit host conf =>
    -- only a client that owns the size of a floating window gets it fitted
    have hwant : wantFit cfg (releaseHostSize cfg seen out) out = true := by
      by_contra hnot
      unfold fitDecision at hd
      dsimp only at hd
      rw [if_neg hnot] at hd
      split at hd <;> cases hd
    rw [wantFit_eq, Bool.and_eq_true, Bool.and_eq_true, Bool.not_eq_true', Bool.not_eq_true'] at hwant
    rw [hwant.2, hwant.1.2] at hauth
    simp at hauth
  | oscillation => exact ⟨hmsec, hconf⟩
  | idle => exact ⟨hmsec, hconf⟩
  | hold =>
    obtain ⟨hstamp, hlast⟩ := wlxToplevelFillHost_stamps cfg now (releaseHostSize cfg seen out)
    rw [← hmsec, ← hconf]
    exact ⟨hstamp, hlast⟩

end Window

/-! ## The log of a session -/

/-- A session with the times, newest first, at which `surface_commit` had `wlx_toplevel_fill_host`
schedule a size. -/
structure FillLog where
  win : Window
  fills : List Int

/-- The host acts on the window's size or state. -/
def Action.fromHost : Action → Bool
  | .netWmState .. | .configureNotify .. | .reparent .. => true
  | _ => false

namespace FillLog

variable (cfg : Config)

/-- The log after an event. -/
def log [CInt] (v : FillLog) : Action → List Int
  | .commit c now env _ =>
    if Window.commitFills cfg now (v.win.applyCommit cfg env c) then now :: v.fills else v.fills
  | _ => v.fills

def step [CInt] (v : FillLog) (a : Action) : Option FillLog :=
  (Wlx.step cfg v.win a).map fun win => ⟨win, v.log cfg a⟩

/-- Client traffic that leaves the host size and the tiled state as they are and the window the
host's. -/
def Undisturbed [CInt] (v : FillLog) (a : Action) : Prop :=
  a.fromHost = false ∧ (∀ now ∈ a.time, 0 < now) ∧
    ∀ win ∈ Wlx.step cfg v.win a, win.outputSize = v.win.outputSize ∧ win.tiled = v.win.tiled ∧
      (win.sizeFromWm = true ∨ win.tiled = true)

/-- Once a size has been configured, a commit that does not match the output leaves the size that fills
it within 1 of the last configure: the margin has not moved it away. -/
def Limited [CInt] (v : FillLog) : Action → Prop
  | .commit c _ env _ =>
    let seen := Window.prepareCommit cfg (v.win.applyCommit cfg env c)
    v.fills ≠ [] → ∀ out ∈ seen.output, Window.sizeMismatch cfg seen out = true →
      seen.lastOk (Window.wlxToplevelSizeForOutput cfg seen) = true
  | _ => True

/-- At most two configures in any 500 ms. -/
def Paced (v : FillLog) : Prop := ∀ t, (Rate.inWindow t 500 v.fills).length ≤ 2

instance [CInt] (v : FillLog) (a : Action) : Decidable (v.Undisturbed cfg a) :=
  inferInstanceAs (Decidable (a.fromHost = false ∧ (∀ now ∈ a.time, 0 < now) ∧
    ∀ win ∈ Wlx.step cfg v.win a, win.outputSize = v.win.outputSize ∧ win.tiled = v.win.tiled ∧
      (win.sizeFromWm = true ∨ win.tiled = true)))

instance [CInt] : ∀ (v : FillLog) (a : Action), Decidable (v.Limited cfg a)
  | v, .commit c _ env _ =>
    inferInstanceAs (Decidable (v.fills ≠ [] →
      ∀ out ∈ (Window.prepareCommit cfg (v.win.applyCommit cfg env c)).output,
        Window.sizeMismatch cfg (Window.prepareCommit cfg (v.win.applyCommit cfg env c)) out = true →
          (Window.prepareCommit cfg (v.win.applyCommit cfg env c)).lastOk
            (Window.wlxToplevelSizeForOutput cfg
              (Window.prepareCommit cfg (v.win.applyCommit cfg env c))) = true))
  | _, .ackConfigure _ | _, .sendConfigure | _, .requestMaximize _ | _, .requestFullscreen _
  | _, .newDecoration | _, .requestDecorationMode | _, .destroyDecoration | _, .focusIn | _, .focusOut
  | _, .netWmState .. | _, .configureNotify .. | _, .reparent .. | _, .otherRequests _ => isTrue trivial

theorem step_eq_some [CInt] {cfg : Config} {v v' : FillLog} {a : Action} :
    v.step cfg a = some v' ↔
      ∃ win, Wlx.step cfg v.win a = some win ∧ v' = ⟨win, v.log cfg a⟩ := by
  unfold step
  rw [Option.map_eq_some_iff]
  exact exists_congr fun win => and_congr_right fun _ => eq_comm

end FillLog

/-! ## What client traffic leaves alone -/

/-- Other client traffic touches neither the limiter's stamp nor the last configure. -/
theorem handle_stamps [CInt] (cfg : Config) (win : Window) {a : Action} (hclient : a.fromHost = false)
    (hne : ∀ c now env outcome, a ≠ .commit c now env outcome) :
    (handle cfg win a).fillHostLastMsec = win.fillHostLastMsec ∧
      (handle cfg win a).lastClientConf = win.lastClientConf := by
  -- none of these handlers fills the host
  cases a with
  | commit c now env outcome => exact absurd rfl (hne c now env outcome)
  | netWmState | configureNotify | reparent => cases hclient
  | requestMaximize want =>
    simp only [handle, Window.toplevelRequestMaximize]
    split <;> exact ⟨rfl, rfl⟩
  | requestFullscreen want =>
    simp only [handle, Window.toplevelRequestFullscreen]
    split <;> exact ⟨rfl, rfl⟩
  | newDecoration =>
    simp only [handle, Window.serverNewToplevelDecoration, Window.wlxDecorationApplyMode]
    split <;> exact ⟨rfl, rfl⟩
  | requestDecorationMode =>
    simp only [handle, Window.wlxDecorationApplyMode]
    split <;> exact ⟨rfl, rfl⟩
  | focusIn =>
    simp only [handle, Window.setActiveWindow]
    split <;> exact ⟨rfl, rfl⟩
  | focusOut =>
    simp only [handle, Window.setInactive]
    split <;> exact ⟨rfl, rfl⟩
  | ackConfigure | sendConfigure | destroyDecoration | otherRequests => exact ⟨rfl, rfl⟩

/-- A commit that leaves the window its output does not unmap it. -/
theorem applyCommit_of_kept [CInt] {cfg : Config} {now : Int} {env : MapEnv} {outcome : CommitOutcome}
    {c : SurfaceCommit} {win : Window} (hinv : Inv win) (hsome : win.output.isSome = true)
    (hkept : (win.wlSurfaceCommit cfg now env outcome c).output.isSome = true) :
    win.applyCommit cfg env c = win.roleCommitted c := by
  have hm := hinv.mapped hsome
  cases hu : win.xdg.unmapCommit c with
  | false => exact Window.applyCommit_of_mapped cfg env hm hu
  | true =>
    unfold Window.wlSurfaceCommit at hkept
    rw [Window.surfaceCommit_output, Window.applyCommit_of_unmap cfg env hinv hu] at hkept
    cases hkept

namespace FillLog

variable {cfg : Config} {v v' : FillLog}

/-- A window that keeps its size keeps its output. -/
theorem output_of_size {win : Window} (hsome : v.win.output.isSome = true)
    (hsize : win.outputSize = v.win.outputSize) : win.output.isSome = true := by
  have hsizes := congrArg Option.isSome hsize
  rw [Window.outputSize, Window.outputSize, Option.isSome_map, Option.isSome_map] at hsizes
  exact hsizes.trans hsome

theorem log_of_other [CInt] {a : Action} (h : ∀ c now env outcome, a ≠ .commit c now env outcome) :
    v.log cfg a = v.fills := by
  cases a with
  | commit c now env outcome => exact absurd rfl (h c now env outcome)
  | _ => rfl

/-- A commit in undisturbed traffic. `win` is the window as wlroots' own commit leaves it. -/
structure HeldCommit [CInt] (cfg : Config) (v v' : FillLog) (now : Int) (out : X11Output) (win : Window) :
    Prop where
  pos : 0 < now
  output : v.win.output = some out
  kept : win.fillHostLastMsec = v.win.fillHostLastMsec
  /-- the size decision finds the output the window had -/
  seen : (Window.prepareCommit cfg win).output = some out
  fills : v'.fills = if Window.commitFills cfg now win then now :: v.fills else v.fills
  stamp : v'.win.fillHostLastMsec =
    if Window.commitFills cfg now win && (Window.prepareCommit cfg win).lastOk
        (Window.wlxToplevelSizeForOutput cfg (Window.prepareCommit cfg win)) then now
    else v.win.fillHostLastMsec
  last : v'.win.lastClientConf =
    if Window.commitFills cfg now win then
      Window.wlxToplevelSizeForOutput cfg (Window.prepareCommit cfg win)
    else v.win.lastClientConf

/-- **What undisturbed traffic does**: it commits, or it sends nothing and stamps nothing. -/
theorem undisturbed_cases [CInt] (hinv : Inv v.win) (hmapped : v.win.output.isSome = true) {a : Action}
    (hkept : v.Undisturbed cfg a) (hstep : v.step cfg a = some v') :
    (Inv v'.win ∧ v'.win.output.isSome = true ∧ v'.win.outputSize = v.win.outputSize) ∧
      ((∃ c now env outcome out, a = .commit c now env outcome ∧
          HeldCommit cfg v v' now out (v.win.applyCommit cfg env c)) ∨
        (v'.fills = v.fills ∧ v'.win.fillHostLastMsec = v.win.fillHostLastMsec ∧
          v'.win.lastClientConf = v.win.lastClientConf)) := by
  obtain ⟨hclient, htime, hquiet⟩ := hkept
  obtain ⟨win, hwin, rfl⟩ := step_eq_some.mp hstep
  obtain ⟨hsize, -, hauth⟩ := hquiet win hwin
  have hsome := output_of_size hmapped hsize
  refine ⟨⟨hinv.step hwin, hsome, hsize⟩, ?_⟩
  obtain ⟨-, -, rfl⟩ := Wlx.step_eq_some.mp hwin
  by_cases hcommit : ∃ c now env outcome, a = .commit c now env outcome
  · obtain ⟨c, now, env, outcome, rfl⟩ := hcommit
    obtain ⟨out, ho⟩ := Option.isSome_iff_exists.mp hmapped
    have happly := applyCommit_of_kept hinv hmapped hsome
    -- the client's commit leaves the output, the stamp and the last configure alone
    have happlied : (v.win.applyCommit cfg env c).output = some out := by
      rw [happly]
      exact ho
    have hmsec : (v.win.applyCommit cfg env c).fillHostLastMsec = v.win.fillHostLastMsec := by
      rw [happly]
      rfl
    have hconf : (v.win.applyCommit cfg env c).lastClientConf = v.win.lastClientConf := by
      rw [happly]
      rfl
    obtain ⟨hstamp, hlast⟩ := Window.surfaceCommit_stamps happlied hauth
    rw [hmsec] at hstamp
    rw [hconf] at hlast
    exact Or.inl ⟨c, now, env, outcome, out, rfl, htime now rfl, ho, hmsec,
      (Window.prepareCommit_prepared cfg _).output.trans happlied, rfl, hstamp, hlast⟩
  · have hother : ∀ c now env outcome, a ≠ .commit c now env outcome :=
      fun c now env outcome heq => hcommit ⟨c, now, env, outcome, heq⟩
    exact Or.inr ⟨log_of_other hother, handle_stamps cfg v.win hclient hother⟩

/-! ## The limiter at work -/

/-- What the limiter guarantees: all fills but the first are spaced, and the last of them is stamped. -/
structure Pacing (v : FillLog) : Prop where
  inv : Inv v.win
  output : v.win.output.isSome = true
  spaced : v.fills = [] ∨ ∃ later first, v.fills = later ++ [first] ∧ Rate.Spaced 500 later ∧
    ∀ last ∈ later.head?, v.win.fillHostLastMsec = last ∧ 0 < last

theorem Pacing.paced (h : v.Pacing) : v.Paced := by
  intro t
  rcases h.spaced with hnil | ⟨later, first, hfills, hspaced, -⟩
  · rw [hnil]
    exact Nat.zero_le 2
  · have hlater := hspaced.inWindow_le_one (t := t)
    have hfirst := Rate.inWindow_singleton_length (t := t) (d := 500) first
    rw [hfills, Rate.inWindow_append, List.length_append]
    omega

/-- A fill is a hold: the commit does not match the output. -/
theorem mismatch_of_commitFills [CInt] {now : Int} {win : Window} {out : X11Output}
    (ho : (Window.prepareCommit cfg win).output = some out)
    (h : Window.commitFills cfg now win = true) :
    Window.sizeMismatch cfg (Window.prepareCommit cfg win) out = true := by
  unfold Window.commitFills at h
  dsimp only at h
  rw [ho] at h
  simp only [Bool.and_eq_true, decide_eq_true_eq] at h
  -- only the branch that holds the host's size fills
  have hhold := h.1
  unfold Window.fitDecision at hhold
  dsimp only at hhold
  split at hhold
  · split at hhold <;> cases hhold
  · split at hhold
    · next hheld =>
      rw [Bool.and_eq_true] at hheld
      exact hheld.1
    · cases hhold

theorem sends_of_commitFills [CInt] {now : Int} {win : Window} (h : Window.commitFills cfg now win = true) :
    Window.fillHostSends cfg now (Window.prepareCommit cfg win) = true := by
  unfold Window.commitFills at h
  dsimp only at h
  split at h
  · cases h
  · rw [Bool.and_eq_true] at h
    exact h.2

/-- A fill after the first passes the limiter. -/
theorem passes_of_commitFills [CInt] {now : Int} {win : Window}
    (hlast : (Window.prepareCommit cfg win).lastOk
      (Window.wlxToplevelSizeForOutput cfg (Window.prepareCommit cfg win)) = true)
    (h : Window.commitFills cfg now win = true) :
    ¬ (0 < win.fillHostLastMsec ∧ now - win.fillHostLastMsec < 500) := by
  have hsends := sends_of_commitFills h
  rw [← Window.prepareCommit_fillHostLastMsec cfg win]
  -- within the half second an unchanged request is not repeated
  intro hlimited
  unfold Window.fillHostSends at hsends
  dsimp only at hsends
  rw [if_pos hlast] at hsends
  split at hsends
  · cases hsends
  · split at hsends
    · cases hsends
    · rw [decide_eq_true hlimited] at hsends
      cases hsends

/-- **The limiter step.** -/
theorem Pacing.step [CInt] (h : v.Pacing) {a : Action} (hkept : v.Undisturbed cfg a)
    (hlimited : v.Limited cfg a) (hstep : v.step cfg a = some v') : v'.Pacing := by
  obtain ⟨⟨hinv, hsome, -⟩, hcases⟩ := undisturbed_cases h.inv h.output hkept hstep
  refine ⟨hinv, hsome, ?_⟩
  rcases hcases with ⟨c, now, env, outcome, out, rfl, hc⟩ | ⟨hfills, hmsec, -⟩
  · have hstamp := hc.stamp
    rw [hc.fills]
    cases hfills : Window.commitFills cfg now (v.win.applyCommit cfg env c) with
    | false =>
      -- nothing is sent, nothing is stamped
      rw [hfills, Bool.false_and, if_neg Bool.false_ne_true] at hstamp
      rw [if_neg Bool.false_ne_true, hstamp]
      exact h.spaced
    | true =>
      rw [if_pos rfl]
      rcases h.spaced with hnil | ⟨later, first, heq, hspaced, hlast⟩
      · -- the first one may be of a new size, and need not be stamped
        exact Or.inr ⟨[], now, by rw [hnil]; rfl, Rate.spaced_nil, nofun⟩
      · have hre := hlimited (by rw [heq]; simp) out hc.seen (mismatch_of_commitFills hc.seen hfills)
        have hpasses := passes_of_commitFills hre hfills
        rw [hc.kept] at hpasses
        rw [hfills, hre, Bool.and_self, if_pos rfl] at hstamp
        refine Or.inr ⟨now :: later, first, by rw [heq]; rfl, ?_, ?_⟩
        · apply hspaced.cons (by decide)
          intro last hmem
          obtain ⟨heq', hlastPos⟩ := hlast last hmem
          rw [heq'] at hpasses
          omega
        · intro last hmem
          cases hmem
          exact ⟨hstamp, hc.pos⟩
  · rw [hfills, hmsec]
    exact h.spaced

/-- **At most two fills in any 500 ms.** From every reachable window that is mapped, along every run of
client traffic at any times, as long as the host size, the tiled state and host authority stay: if no
commit after the first fill moves the size that fills the host away from the last configure,
`surface_commit` has `wlx_toplevel_fill_host` schedule at most two sizes in any 500 ms. -/
theorem fills_paced [CInt] {win : Window} {as : List Action}
    (hreach : Run.Reachable (Wlx.step cfg) .fresh win) (hmapped : win.output.isSome = true)
    (hkept : Run.Along (step cfg) (Undisturbed cfg) ⟨win, []⟩ as)
    (hlimited : Run.Along (step cfg) (Limited cfg) ⟨win, []⟩ as)
    (hrun : Run.run (step cfg) ⟨win, []⟩ as = some v) : v.Paced := by
  obtain ⟨actions, hactions⟩ := hreach
  have hstart : Pacing ⟨win, []⟩ := ⟨Inv.fresh.run hactions, hmapped, Or.inl rfl⟩
  exact (Run.run_invariant_of_along (fun _ _ _ hs hp ha => Pacing.step hs hp.1 hp.2 ha) hstart
    (hkept.and hlimited) hrun).paced

/-- **The limiter does not cover a size that is new.** A held commit that moves the size that fills the
host is answered at once, whatever the time. -/
theorem commitFills_of_moved [CInt] {win : Window} {out : X11Output}
    (ho : (Window.prepareCommit cfg win).output = some out) (hset : out.size.isSet = true)
    (hmismatch : Window.sizeMismatch cfg (Window.prepareCommit cfg win) out = true)
    (hauth : (Window.prepareCommit cfg win).sizeFromWm = true ∨
      (Window.prepareCommit cfg win).tiled = true)
    (hkept : Window.assertShrink cfg (Window.prepareCommit cfg win) out = false)
    (hmoved : (Window.prepareCommit cfg win).lastOk
      (Window.wlxToplevelSizeForOutput cfg (Window.prepareCommit cfg win)) = false) (now : Int) :
    Window.commitFills cfg now win = true := by
  have hfill := Size.isSet_iff.mp (Window.wlxToplevelSizeForOutput_isSet cfg ho hset)
  have hnofit : Window.wantFit cfg (Window.prepareCommit cfg win) out = false := by
    rcases hauth with h | h <;> simp [Window.wantFit, h]
  -- the host keeps its size, so the client is the one to be told
  have hhold : Window.fitDecision cfg now (Window.prepareCommit cfg win) out = .hold := by
    simp [Window.fitDecision, hnofit, hmismatch, hauth]
  have hsends : Window.fillHostSends cfg now (Window.prepareCommit cfg win) = true := by
    unfold Window.fillHostSends
    dsimp only
    rw [if_neg (by omega), hmoved, if_neg (by simp), if_neg Bool.false_ne_true]
  unfold Window.commitFills
  dsimp only
  rw [ho]
  dsimp only
  rw [Window.releaseHostSize_of_unreleased hkept, hhold, hsends]
  rfl

/-! ## Without `--csd` -/

/-- The size that fills the host is a matter of the host size alone. -/
theorem wlxToplevelSizeForOutput_of_ssd [CInt] {win : Window} {out : X11Output} (h : cfg.preferCsd = false)
    (ho : win.output = some out) : Window.wlxToplevelSizeForOutput cfg win = cfg.unscale out.size := by
  unfold Window.wlxToplevelSizeForOutput
  rw [ho]
  dsimp only
  rw [h, Bool.false_and, Bool.false_and, if_neg Bool.false_ne_true]

theorem isSet_of_commitFills [CInt] {now : Int} {win : Window}
    (h : Window.commitFills cfg now win = true) :
    (Window.wlxToplevelSizeForOutput cfg (Window.prepareCommit cfg win)).isSet = true := by
  have hsends := sends_of_commitFills h
  unfold Window.fillHostSends at hsends
  dsimp only at hsends
  split at hsends
  · cases hsends
  · rw [Size.isSet_iff]
    omega

/-- After a fill the last configure is for the host size. -/
structure Filled [CInt] (cfg : Config) (v : FillLog) : Prop where
  inv : Inv v.win
  output : v.win.output.isSome = true
  last : v.fills ≠ [] → ∀ size ∈ v.win.outputSize, v.win.lastOk (cfg.unscale size) = true

theorem Filled.step [CInt] (hssd : cfg.preferCsd = false) (h : Filled cfg v) {a : Action}
    (hkept : v.Undisturbed cfg a) (hstep : v.step cfg a = some v') : Filled cfg v' := by
  obtain ⟨⟨hinv, hsome, hsize⟩, hcases⟩ := undisturbed_cases h.inv h.output hkept hstep
  refine ⟨hinv, hsome, fun hfills size hmem => ?_⟩
  rw [hsize] at hmem
  -- what was configured before is still the last configure, if nothing is sent
  have hbefore (hlast : v'.win.lastClientConf = v.win.lastClientConf) (hsame : v'.fills = v.fills) :
      v'.win.lastOk (cfg.unscale size) = true := by
    have hok := h.last (by rwa [← hsame]) size hmem
    unfold Window.lastOk at hok ⊢
    rw [hlast]
    exact hok
  rcases hcases with ⟨c, now, env, outcome, out, rfl, hc⟩ | ⟨hsame, -, hlast⟩
  · have hlast := hc.last
    have hlog := hc.fills
    cases hsent : Window.commitFills cfg now (v.win.applyCommit cfg env c) with
    | false =>
      rw [hsent, if_neg Bool.false_ne_true] at hlast hlog
      exact hbefore hlast hlog
    | true =>
      have hset := isSet_of_commitFills hsent
      rw [hsent, if_pos rfl] at hlast
      rw [wlxToplevelSizeForOutput_of_ssd hssd hc.seen] at hlast hset
      obtain rfl : size = out.size := by
        rw [Window.outputSize, hc.output] at hmem
        exact (Option.mem_some_iff.mp hmem).symm
      apply Window.lastOk_iff.mpr
      rw [hlast]
      exact ⟨hset, Size.differs_self (by decide) _⟩
  · exact hbefore hlast hsame

/-- **Without `--csd` the limiter covers everything**: no commit moves the size that fills the host. -/
theorem limited_without_csd [CInt] (hssd : cfg.preferCsd = false) {win : Window} {as : List Action}
    (hreach : Run.Reachable (Wlx.step cfg) .fresh win) (hmapped : win.output.isSome = true)
    (hkept : Run.Along (step cfg) (Undisturbed cfg) ⟨win, []⟩ as) :
    Run.Along (step cfg) (Limited cfg) ⟨win, []⟩ as := by
  obtain ⟨actions, hactions⟩ := hreach
  have hstart : Filled cfg ⟨win, []⟩ :=
    ⟨Inv.fresh.run hactions, hmapped, fun hne => absurd rfl hne⟩
  refine Run.along_of_invariant (fun _ _ _ hs hp ha => Filled.step hssd hs hp ha) ?_ hstart hkept
  intro v a h _
  cases a with
  | commit c now env outcome =>
    intro hfills out hseen _
    have hprep := Window.prepareCommit_prepared cfg (v.win.applyCommit cfg env c)
    have hout : (v.win.applyCommit cfg env c).output = some out := hprep.output.symm.trans hseen
    have hm := h.inv.mapped h.output
    cases hu : v.win.xdg.unmapCommit c with
    | true =>
      rw [Window.applyCommit_of_unmap cfg env h.inv hu] at hout
      cases hout
    -- without a frame what fills the host is the output's size, and it was configured last
    | false =>
      have happly := Window.applyCommit_of_mapped cfg env hm hu
      rw [wlxToplevelSizeForOutput_of_ssd hssd hseen]
      have hok := h.last hfills out.size (by
        rw [happly] at hout
        rw [Window.outputSize, show v.win.output = some out from hout]
        rfl)
      have hconf : (Window.prepareCommit cfg (v.win.applyCommit cfg env c)).lastClientConf =
          v.win.lastClientConf := by
        rw [hprep.lastClientConf, happly]
        rfl
      unfold Window.lastOk at hok ⊢
      rw [hconf]
      exact hok
  | _ => trivial

/-! ## Runs -/

/-- With `--csd`, map with a shadow of 20, and let the host resize the window to 600×500. -/
def hostResizesShadowed : List Action :=
  [.commit ⟨.keep, none⟩ 1 ⟨true, 0, .ok⟩ .ok, .sendConfigure, .ackConfigure 0,
    .commit ⟨.attach ⟨520, 420⟩, some ⟨10, 10, 500, 400⟩⟩ 2 ⟨true, 0, .ok⟩ .ok,
    .configureNotify ⟨1, ⟨520, 420⟩⟩ [some []] 3 .ok,
    .configureNotify ⟨1, ⟨600, 500⟩⟩ [some []] 4 .ok, .sendConfigure]

/-- The client insists on 600×500 within its shadow: three commits in 600 ms. -/
def insistingCommits : List Action :=
  [.commit ⟨.attach ⟨640, 540⟩, some ⟨20, 20, 600, 500⟩⟩ 1000 ⟨true, 0, .ok⟩ .ok,
    .commit ⟨.keep, none⟩ 1100 ⟨true, 0, .ok⟩ .ok, .commit ⟨.keep, none⟩ 1600 ⟨true, 0, .ok⟩ .ok]

/-- The shadow grows with each of three commits in 20 ms. -/
def growingShadow : List Action :=
  [.commit ⟨.attach ⟨640, 540⟩, some ⟨20, 20, 600, 500⟩⟩ 1000 ⟨true, 0, .ok⟩ .ok,
    .commit ⟨.attach ⟨660, 560⟩, some ⟨30, 30, 600, 500⟩⟩ 1010 ⟨true, 0, .ok⟩ .ok,
    .commit ⟨.attach ⟨680, 580⟩, some ⟨40, 40, 600, 500⟩⟩ 1020 ⟨true, 0, .ok⟩ .ok]

/-- A client that insists is asked at most twice. -/
theorem fills_paced_insisting :
    ∃ win v, Run.Reachable (Wlx.step ⟨1, true⟩) .fresh win ∧
      Run.run (step ⟨1, true⟩) ⟨win, []⟩ insistingCommits = some v ∧ v.fills ≠ [] ∧ v.Paced := by
  have hany : (Run.run (Wlx.step ⟨1, true⟩) .fresh hostResizesShadowed).any (fun win =>
      decide (win.output.isSome = true ∧
        Run.Along (step ⟨1, true⟩) (Undisturbed ⟨1, true⟩) ⟨win, []⟩ insistingCommits ∧
        Run.Along (step ⟨1, true⟩) (Limited ⟨1, true⟩) ⟨win, []⟩ insistingCommits ∧
        (Run.run (step ⟨1, true⟩) ⟨win, []⟩ insistingCommits).any (fun v => decide (v.fills ≠ [])) =
          true)) = true := by decide +kernel
  obtain ⟨win, hwin, hchecks⟩ := (Option.any_eq_true ..).mp hany
  obtain ⟨hmapped, hkept, hlimited, hsome⟩ := of_decide_eq_true hchecks
  obtain ⟨v, hv, hfills⟩ := (Option.any_eq_true ..).mp hsome
  exact ⟨win, v, ⟨_, hwin⟩, hv, of_decide_eq_true hfills,
    fills_paced ⟨_, hwin⟩ hmapped hkept hlimited hv⟩

/-- A client whose shadow grows is asked at every commit. -/
theorem growing_shadow_not_paced :
    ¬ ∀ (cfg : Config) (win : Window) (v : FillLog) (as : List Action),
      Run.Reachable (Wlx.step cfg) .fresh win → win.output.isSome = true →
        (win.sizeFromWm = true ∨ win.tiled = true) →
        Run.Along (step cfg) (Undisturbed cfg) ⟨win, []⟩ as →
          Run.run (step cfg) ⟨win, []⟩ as = some v → v.Paced := by
  intro h
  -- each commit asks for another size, and the limiter lets that pass
  have hany : (Run.run (Wlx.step ⟨1, true⟩) .fresh hostResizesShadowed).any (fun win =>
      decide (win.output.isSome = true ∧ win.sizeFromWm = true ∧
        Run.Along (step ⟨1, true⟩) (Undisturbed ⟨1, true⟩) ⟨win, []⟩ growingShadow ∧
        (Run.run (step ⟨1, true⟩) ⟨win, []⟩ growingShadow).any
          (fun v => decide (2 < (Rate.inWindow 1000 500 v.fills).length)) = true)) = true := by
    decide +kernel
  obtain ⟨win, hwin, hchecks⟩ := (Option.any_eq_true ..).mp hany
  obtain ⟨hmapped, hown, hkept, hsome⟩ := of_decide_eq_true hchecks
  obtain ⟨v, hv, hthree⟩ := (Option.any_eq_true ..).mp hsome
  have hpaced := h _ win v _ ⟨_, hwin⟩ hmapped (Or.inl hown) hkept hv 1000
  have hthree := of_decide_eq_true hthree
  omega

end FillLog

end Wlx
