import WlX11.FillRate

/-!
# WlX11 — two ways to adopt a size the host gives

The host resizes the content window and says so with a `ConfigureNotify`: `output_request_state` makes
the size the host's, commits the mode, and `output_commit` has the client fill it. A host that takes the
window into a frame may resize it on the way; the `ReparentNotify` handler then finds out by asking for
the geometry, and has code of its own to follow: `resize_output_to`, and a configure of the unscaled size.

* **`AdoptsAlike`** — what the two should have in common.
* **`adopts_alike_iff`** — when they have. The sync does not take the size for the host's, refuses sides
  below `WLX_MIN_OUTPUT_SIZE`, and forgets the CSD margin.
-/

namespace Wlx

open X11Output (CommitOutcome)
open Window (NetWmAtom MapEnv)

/-- The two windows have the same output size, are both the host's, and their clients are about to be
configured with the same size. -/
def AdoptsAlike (sync request : Window) : Prop :=
  sync.outputSize = request.outputSize ∧ sync.sizeFromWm = true ∧ request.sizeFromWm = true ∧
    sync.xdg.scheduled.size = request.xdg.scheduled.size

instance (sync request : Window) : Decidable (AdoptsAlike sync request) :=
  inferInstanceAs (Decidable (sync.outputSize = request.outputSize ∧ sync.sizeFromWm = true ∧
    request.sizeFromWm = true ∧ sync.xdg.scheduled.size = request.xdg.scheduled.size))

namespace Window

/-- The window `output_request_state` commits the mode on: its size is the host's, and `_NET_WM_STATE` is
mirrored. -/
def hostRequested [CInt] (cfg : Config) (now : Int) (replies : List (Option (List NetWmAtom))) (win : Window) :
    Window :=
  winHandleNetWmStateNotify cfg now replies { win with sizeFromWm := true }

/-- The size a client is configured with once the output has the mode `size`: the one that fills it if
`wlx_toplevel_fill_host` has to send it, else the one it was configured with before. -/
def configuredFor [CInt] (cfg : Config) (now : Int) (size : Size) (win : Window) : Size :=
  let resized := { win with output := win.output.map fun out => (out.commitState size .ok).1 }
  if fillHostSends cfg now resized then wlxToplevelSizeForOutput cfg resized
  else win.xdg.scheduled.size

section Adopt

variable {cfg : Config} {now : Int} {outcome : CommitOutcome} {size : Size} {win : Window}
  {out : X11Output}

/-- What `wlx_toplevel_fill_host` leaves scheduled. -/
theorem wlxToplevelFillHost_scheduled [CInt] (cfg : Config) (now : Int) (win : Window) :
    (wlxToplevelFillHost cfg now win).xdg.scheduled.size =
      if fillHostSends cfg now win then wlxToplevelSizeForOutput cfg win
      else win.xdg.scheduled.size := by
  unfold wlxToplevelFillHost fillHostSends
  dsimp only
  -- no size at all, one that has been asked for and acknowledged, and then the rate limit
  split
  · rfl
  split
  · rfl
  split
  · split
    · next hlimited =>
      rw [decide_eq_true hlimited]
      rfl
    · next hpasses =>
      rw [decide_eq_false hpasses]
      exact wlxToplevelSetSize_scheduled _ _
  · exact wlxToplevelSetSize_scheduled _ _

/-- What a mode commit leaves scheduled. -/
theorem commitOutput_scheduled [CInt] (hrecorded : ModeRecorded win) (ho : win.output = some out)
    (hset : size.isSet = true) (hnew : size ≠ out.size) :
    (commitOutput cfg now size outcome win).xdg.scheduled.size =
      if outcome = .ok then configuredFor cfg now size win else win.xdg.scheduled.size := by
  have hpos := Size.isSet_iff.mp hset
  have hmode := (hrecorded out ho).1
  unfold commitOutput
  rw [ho]
  dsimp only
  by_cases hok : outcome = .ok
  · subst hok
    have hsize := X11Output.commitState_ok_size out size
    rw [if_pos (X11Output.commitState_snd.mpr rfl), if_pos rfl]
    unfold outputCommit
    dsimp only
    -- the listener runs: the mode is a new one
    rw [if_neg (by rw [hsize]; omega), if_neg (by rw [hsize, hmode]; exact hnew),
      wlxToplevelFillHost_scheduled]
    unfold configuredFor
    rw [ho]
    rfl
  · rw [if_neg fun h => hok (X11Output.commitState_snd.mp h), if_neg hok]

/-- **The size sync**: the output takes the size if `resize_output_to` does, the owner stays who it was,
and the client is configured with the unscaled size. -/
theorem reparentSync_spec [CInt] (cfg : Config) (now : Int) (outcome : CommitOutcome)
    (ho : win.output = some out) (hset : size.isSet = true) (hnew : size ≠ out.size) :
    (reparentSync cfg now outcome size win).outputSize =
        some (if takes size outcome then size else out.size) ∧
      (reparentSync cfg now outcome size win).sizeFromWm = win.sizeFromWm ∧
      (reparentSync cfg now outcome size win).xdg.scheduled.size = cfg.unscale size := by
  have hsync : reparentSync cfg now outcome size win =
      (resizeOutputTo cfg now size outcome win).wlxToplevelSetSize (cfg.unscale size) := by
    unfold reparentSync
    rw [ho]
    exact if_pos ⟨hset, hnew⟩
  rw [hsync]
  refine ⟨?_, ?_, wlxToplevelSetSize_scheduled _ _⟩
  · exact resizeOutputTo_size size ho
  · exact (resizeOutputTo_step cfg now size outcome win).sizeFromWm

/-- **`output_request_state`**: the output takes the size if the commit succeeds, and the client is
configured for it. -/
theorem outputRequestState_spec [CInt] (cfg : Config) (now : Int) (replies : List (Option (List NetWmAtom)))
    (outcome : CommitOutcome) (hrecorded : ModeRecorded win) (ho : win.output = some out)
    (hset : size.isSet = true) (hnew : size ≠ out.size) :
    (outputRequestState cfg now replies outcome size win).outputSize =
        some (if outcome = .ok then size else out.size) ∧
      (outputRequestState cfg now replies outcome size win).sizeFromWm =
        (hostRequested cfg now replies win).sizeFromWm ∧
      (outputRequestState cfg now replies outcome size win).xdg.scheduled.size =
        if outcome = .ok then configuredFor cfg now size (hostRequested cfg now replies win)
        else (hostRequested cfg now replies win).xdg.scheduled.size := by
  have hpos := Size.isSet_iff.mp hset
  have ho' : (hostRequested cfg now replies win).output = some out :=
    (winHandleNetWmStateNotify_output cfg now replies _).trans ho
  have hrecorded' : ModeRecorded (hostRequested cfg now replies win) :=
    (hrecorded.congr rfl rfl : ModeRecorded { win with sizeFromWm := true }).winHandleNetWmStateNotify
      now replies
  -- the size is new, so neither early return is taken
  have hrequest : outputRequestState cfg now replies outcome size win =
      commitOutput cfg now size outcome (hostRequested cfg now replies win) := by
    unfold outputRequestState
    split
    · next hnone =>
      rw [ho] at hnone
      cases hnone
    · next out' hout =>
      rw [ho] at hout
      cases hout
      rw [if_neg (by omega), if_neg hnew]
      rfl
  rw [hrequest]
  refine ⟨?_, (commitOutput_step cfg now size outcome _).sizeFromWm,
    commitOutput_scheduled hrecorded' ho' hset hnew⟩
  rw [outputSize, commitOutput_output, ho']
  show some (out.commitState size outcome).1.size = _
  by_cases hok : outcome = .ok
  · rw [if_pos hok, hok, X11Output.commitState_ok_size]
  · rw [if_neg hok, X11Output.commitState_size_of_ne_ok out size hok]

end Adopt

end Window

/-- **The sync and the request agree.** In every reachable state with an output, for every new size the
host gives the content window, every reading of `_NET_WM_STATE` and every outcome of the commit: the two
handlers adopt the size alike exactly if the size is the host's already and stays so, `resize_output_to`
does not refuse it, and the client is to have the unscaled size, without a margin. -/
theorem adopts_alike_iff [CInt] {cfg : Config} {win : Window} {out : X11Output} {size : Size}
    (hreach : Run.Reachable (step cfg) .fresh win) (ho : win.output = some out)
    (hset : size.isSet = true) (hnew : size ≠ out.size) (now : Int)
    (replies : List (Option (List NetWmAtom))) (outcome : CommitOutcome) :
    AdoptsAlike (win.reparentSync cfg now outcome size)
        (win.outputRequestState cfg now replies outcome size) ↔
      win.sizeFromWm = true ∧ (Window.hostRequested cfg now replies win).sizeFromWm = true ∧
        (outcome = .ok → Window.takes size .ok = true) ∧
        cfg.unscale size =
          if outcome = .ok then Window.configuredFor cfg now size (Window.hostRequested cfg now replies win)
          else (Window.hostRequested cfg now replies win).xdg.scheduled.size := by
  obtain ⟨-, hrecorded⟩ := ModeRecorded.of_reachable hreach
  obtain ⟨hsize, hown, hconf⟩ :=
    Window.reparentSync_spec cfg now outcome ho hset hnew
  obtain ⟨hsize', hown', hconf'⟩ :=
    Window.outputRequestState_spec cfg now replies outcome hrecorded ho hset hnew
  unfold AdoptsAlike
  rw [hsize, hsize', hown, hown', hconf, hconf']
  -- the sync checks the size before it commits, the request does not
  have hmode : (some (if Window.takes size outcome then size else out.size) =
      some (if outcome = .ok then size else out.size)) ↔
        (outcome = .ok → Window.takes size .ok = true) := by
    by_cases hok : outcome = .ok
    · subst hok
      rw [if_pos rfl]
      cases Window.takes size .ok with
      | true => simp
      | false =>
        rw [if_neg Bool.false_ne_true]
        exact iff_of_false (fun heq => hnew (Option.some.inj heq).symm) (by simp)
    · have hfails : Window.takes size outcome = false := by
        unfold Window.takes
        rw [decide_eq_false hok, Bool.and_false]
      rw [hfails, if_neg hok, if_neg Bool.false_ne_true]
      exact iff_of_true rfl fun h => absurd h hok
  rw [hmode]
  constructor
  · rintro ⟨htakes, hhost, hkept, hsame⟩
    exact ⟨hhost, hkept, htakes, hsame⟩
  · rintro ⟨hhost, hkept, htakes, hsame⟩
    exact ⟨htakes, hhost, hkept, hsame⟩

/-- A floating window of 600×500 that is the host's, without `--csd`, follows both ways alike. -/
theorem adopts_alike_ssd :
    ∃ win, Run.Reachable (step ⟨1, false⟩) .fresh win ∧ win.outputSize = some ⟨600, 500⟩ ∧
      AdoptsAlike (win.reparentSync ⟨1, false⟩ 10 .ok ⟨600, 473⟩)
        (win.outputRequestState ⟨1, false⟩ 10 [some []] .ok ⟨600, 473⟩) := by
  -- the run ends at a state with the three conditions
  have hany : (Run.run (step ⟨1, false⟩) .fresh hostResizesFloating).any (fun win =>
      decide (win.outputSize = some ⟨600, 500⟩ ∧ win.sizeFromWm = true ∧
        (Window.hostRequested ⟨1, false⟩ 10 [some []] win).sizeFromWm = true ∧
        Window.configuredFor ⟨1, false⟩ 10 ⟨600, 473⟩ (Window.hostRequested ⟨1, false⟩ 10 [some []] win) =
          ⟨600, 473⟩)) = true := by decide +kernel
  obtain ⟨win, hwin, hchecks⟩ := (Option.any_eq_true ..).mp hany
  obtain ⟨hsize, hown, hkept, hconf⟩ := of_decide_eq_true hchecks
  obtain ⟨out, ho, hout⟩ := Option.map_eq_some_iff.mp hsize
  have hunscale : (⟨1, false⟩ : Config).unscale ⟨600, 473⟩ = ⟨600, 473⟩ := by decide +kernel
  exact ⟨win, ⟨_, hwin⟩, hsize, (adopts_alike_iff ⟨_, hwin⟩ ho (by decide)
    (by rw [hout]; decide) 10 [some []] .ok).mpr
      ⟨hown, hkept, fun _ => by decide, by rw [if_pos rfl, hconf, hunscale]⟩⟩

/-- With `--csd`, a window of 520×420 with a shadow of 20 is taken into a frame that leaves it 520×393:
the sync leaves the size the client's and configures it without its margin. -/
theorem reparented_shadow_not_adopted_alike :
    ¬ ∀ (cfg : Config) (win : Window) (out : X11Output) (size : Size) (now : Int)
      (replies : List (Option (List NetWmAtom))) (outcome : CommitOutcome),
      Run.Reachable (step cfg) .fresh win → win.output = some out → size.isSet = true →
        AdoptsAlike (win.reparentSync cfg now outcome size)
          (win.outputRequestState cfg now replies outcome size) := by
  intro h
  -- the request makes the size the host's, the sync leaves it the client's
  have hany : (Run.run (step ⟨1, true⟩) .fresh (FillLog.hostResizesShadowed.take 5)).any (fun win =>
      decide (win.output.isSome = true ∧
        ¬ AdoptsAlike (win.reparentSync ⟨1, true⟩ 10 .ok ⟨520, 393⟩)
          (win.outputRequestState ⟨1, true⟩ 10 [some []] .ok ⟨520, 393⟩))) = true := by
    decide +kernel
  obtain ⟨win, hwin, hchecks⟩ := (Option.any_eq_true ..).mp hany
  obtain ⟨hsome, hnot⟩ := of_decide_eq_true hchecks
  obtain ⟨out, ho⟩ := Option.isSome_iff_exists.mp hsome
  exact hnot (h _ win out _ 10 _ _ ⟨_, hwin⟩ ho (by decide))

end Wlx
