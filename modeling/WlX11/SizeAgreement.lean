import WlX11.Desktop

/-!
# WlX11 — quiescent size agreement

Three parties keep a size of their own: the backend (`win_width/height`), the `wlr_output` (its
committed mode) and the X server (the window itself). They may disagree while messages are on their
way; when none is, they must not.

* **`Agreeing`** — the invariant: the backend and the mode agree at all times, and a window of
  another size has a *witness* in flight: a `ConfigureWindow` the server or the window manager has
  still to see, or an event that no test of `handle_x11_configure_notify` will drop.
* **`agreed_step`** / **`agreed_run`** — every smooth step keeps it.
* **`sizes_agree_when_quiescent`** — so the three sizes are one when nothing is in flight.
-/

namespace Wlx

open X11Output (CommitOutcome)

namespace Desktop

/-- The oldest event is within `2^15` requests of the last `ConfigureWindow`, so that comparing
16-bit sequence numbers is comparing sequence numbers. -/
def Unwrapped (d : Desktop) : Prop :=
  ∀ out ∈ d.win.output, ∀ e ∈ d.events.head?,
    e.seq < out.lastConfigure + 2 ^ 15 ∧ out.lastConfigure < e.seq + 2 ^ 15

instance (d : Desktop) : Decidable d.Unwrapped := by unfold Unwrapped; infer_instance

/-- Mode commits succeed and sequence numbers are unwrapped. Orders and sizes are unrestricted. -/
def SmoothStep (d : Desktop) : DesktopAction → Prop
  | .session a => a.outcome = .ok
  | .deliver _ _ outcome => outcome = .ok ∧ d.Unwrapped
  | _ => True

instance (d : Desktop) : DecidablePred d.SmoothStep
  | .session a => inferInstanceAs (Decidable (a.outcome = .ok))
  | .deliver _ _ outcome => inferInstanceAs (Decidable (outcome = .ok ∧ d.Unwrapped))
  | .serve _ | .settle _ _ | .hostConfigure _ | .askAgain => .isTrue trivial

/-- No request and no event is on its way. -/
def Quiescent (d : Desktop) : Prop :=
  (∀ out ∈ d.win.output, out.sent = []) ∧ d.asked = [] ∧ d.events = []

instance (d : Desktop) : Decidable d.Quiescent := by unfold Quiescent; infer_instance

end Desktop

/-! ## The invariant -/

/-- What brings a window of another size back in line: a request for the backend's size that has not
reached the server, or not been answered by the window manager, or an event that is neither stale
nor of the backend's size, so that it will be taken for the host's. -/
def Witnessed (d : Desktop) (out : X11Output) : Prop :=
  d.processed < out.lastConfigure ∨ out.winSize ∈ d.asked ∨ d.real = out.winSize ∨
    ∃ e ∈ d.events, out.lastConfigure ≤ e.seq ∧ e.size ≠ out.winSize

/-- The backend's size is the committed mode, and the window's, unless a witness says otherwise. -/
structure Agreeing (d : Desktop) (out : X11Output) : Prop where
  mode : out.winSize = out.size
  witness : Witnessed d out

namespace Agreeing

variable {d : Desktop} {out out' : X11Output} {size : Size}

/-- A mode that is new to the output is new to the backend too, so it is asked for. -/
theorem commitState (hmode : out.winSize = out.size) (hp : d.processed ≤ out.seq)
    (hne : size ≠ out.size) : Agreeing d (out.commitState size .ok).1 := by
  have hnew : ¬ (size = out.winSize ∧ ¬ out.hasPendingConfigure = true) := fun hsame =>
    hne (hsame.1.trans hmode)
  simp only [X11Output.commitState, if_neg hne, X11Output.outputSetCustomMode, if_neg hnew]
  exact ⟨rfl, Or.inl (by dsimp only; omega)⟩

theorem evolves (h : Agreeing d out) (hl : Linked d out) (he : out.Evolves .ok out') :
    Agreeing d out' := by
  rcases he with rfl | ⟨size, -, hne, rfl⟩
  · exact h
  · exact commitState h.mode hl.processed hne

/-- A request on its way to the server is redirected to the window manager when it arrives. -/
theorem serve (h : Agreeing d out) (hl : Linked d out) (upto : Nat) :
    Agreeing (d.serve out upto) { out with sent := out.sent.filter fun r => upto < r.seq } := by
  refine ⟨h.mode, ?_⟩
  rcases h.witness with hfly | hasked | hreal | hevent
  · rcases Nat.lt_or_ge upto out.lastConfigure with hlt | hge
    · exact Or.inl hlt
    · obtain ⟨init, hinit⟩ := List.getLast?_eq_some_iff.mp (hl.inFlight hfly)
      refine Or.inr (Or.inl ?_)
      simp [Desktop.serve, hinit, hge]
  · exact Or.inr (Or.inl (List.mem_append_left _ hasked))
  · exact Or.inr (Or.inr (Or.inl hreal))
  · exact Or.inr (Or.inr (Or.inr hevent))

/-- A reported size is the backend's, or its report is a witness, or it will be stale because of a
request that is one. -/
theorem report (hmode : out.winSize = out.size) (size : Size) : Agreeing (d.report size) out := by
  refine ⟨hmode, ?_⟩
  rcases Nat.lt_or_ge d.processed out.lastConfigure with hlt | hge
  · exact Or.inl hlt
  · by_cases hsize : size = out.winSize
    · exact Or.inr (Or.inr (Or.inl hsize))
    · exact Or.inr (Or.inr (Or.inr ⟨_, List.mem_append_right _ (List.mem_singleton_self _), hge,
        hsize⟩))

/-- An answered request was not for the backend's size, or is reported, or left the window at it. -/
theorem settle (h : Agreeing d out) {k : Nat} {want : Size} (hwant : d.asked[k]? = some want)
    (size : Size) : Agreeing (d.settle k want size) out := by
  unfold Desktop.settle
  dsimp only
  split
  · next hgrant =>
    -- granted, and the window had that size already
    obtain ⟨rfl, hreal⟩ := hgrant
    refine ⟨h.mode, ?_⟩
    rcases h.witness with hfly | hasked | hreal' | hevent
    · exact Or.inl hfly
    · by_cases hw : size = out.winSize
      · exact Or.inr (Or.inr (Or.inl (hreal.symm.trans hw)))
      · obtain ⟨i, hi⟩ := List.mem_iff_getElem?.mp hasked
        have hik : i ≠ k := fun heq => by
          subst heq; exact hw (Option.some.inj (hwant.symm.trans hi))
        exact Or.inr (Or.inl (List.mem_eraseIdx_iff_getElem?.mpr ⟨i, hik, hi⟩))
    · exact Or.inr (Or.inr (Or.inl hreal'))
    · exact Or.inr (Or.inr (Or.inr hevent))
  · exact report h.mode size

/-- A delivered event that is stale, or of the backend's size, is no witness. -/
theorem drop (h : Agreeing d out) {e : Notify} {rest : List Notify} (he : d.events = e :: rest)
    (hno : e.seq < out.lastConfigure ∨ e.size = out.winSize) (win : Window) :
    Agreeing { d with win := win, events := rest } out := by
  refine ⟨h.mode, ?_⟩
  rcases h.witness with hfly | hasked | hreal | ⟨e', hmem, hseq, hsize⟩
  · exact Or.inl hfly
  · exact Or.inr (Or.inl hasked)
  · exact Or.inr (Or.inr (Or.inl hreal))
  · rw [he] at hmem
    rcases List.mem_cons.mp hmem with rfl | hmem
    · rcases hno with hno | hno
      · omega
      · exact absurd hno hsize
    · exact Or.inr (Or.inr (Or.inr ⟨e', hmem, hseq, hsize⟩))

/-- Only what is in flight and the size of the X window matter. -/
theorem congr {d' : Desktop} (h : Agreeing d out) (hp : d'.processed = d.processed)
    (ha : ∀ size ∈ d.asked, size ∈ d'.asked) (hr : d'.real = d.real)
    (he : d'.events = d.events) : Agreeing d' out := by
  refine ⟨h.mode, ?_⟩
  rcases h.witness with hfly | hasked | hreal | hevent
  · exact Or.inl (hp ▸ hfly)
  · exact Or.inr (Or.inl (ha _ hasked))
  · exact Or.inr (Or.inr (Or.inl (hr.trans hreal)))
  · exact Or.inr (Or.inr (Or.inr (he ▸ hevent)))

end Agreeing

/-! ## Deliveries -/

section Deliver

variable {d : Desktop} {out : X11Output} {e : Notify} {rest : List Notify}

/-- **A delivered event is dropped only if a newer request is on its way or it brings nothing new**;
otherwise its size is committed, and asked for again. -/
theorem agreeing_deliver [CInt] (hl : Linked d out) (h : Agreeing d out) (ho : d.win.output = some out)
    (he : d.events = e :: rest) (hun : d.Unwrapped) (cfg : Config)
    (replies : List (Option (List Window.NetWmAtom))) (now : Int) :
    ∃ out', (Window.configureNotify cfg now replies .ok ⟨wireSeq e.seq, e.size⟩ d.win).output =
        some out' ∧
      ∀ win, Agreeing { d with win := win, events := rest } out' := by
  obtain ⟨hlt, hgt⟩ := hun out (by rw [ho]; rfl) e (by rw [he]; rfl)
  have hset : e.size.isSet = true := (hl.notified e (by rw [he]; exact List.mem_cons_self)).2
  have hstale := hl.isStale_iff_lt e.size hlt hgt
  have hspec := out.classify_spec ⟨wireSeq e.seq, e.size⟩
  refine ⟨_, Window.configureNotify_output cfg now replies .ok _ ho, fun win => ?_⟩
  have hres : Window.hostResize d.win ⟨wireSeq e.seq, e.size⟩ =
      (out.handleX11ConfigureNotify ⟨wireSeq e.seq, e.size⟩).2.filter fun req =>
        0 < req.width && 0 < req.height && req ≠ out.size := by
    simp [Window.hostResize, ho]
  rw [hres]
  unfold X11Output.handleX11ConfigureNotify
  -- one case per verdict of the classifier
  cases hv : out.classify ⟨wireSeq e.seq, e.size⟩ with
  | ignored =>
    rw [hv] at hspec
    rw [Size.isSet_iff] at hset
    dsimp only at hspec
    omega
  | stale =>
    rw [hv] at hspec
    exact h.drop he (Or.inl (hstale.mp hspec)) win
  | selfAck =>
    rw [hv] at hspec
    have hagree := h.drop he (Or.inr (hspec.2.2.trans (hl.pending hspec.2.1))) win
    exact ⟨hagree.mode, hagree.witness⟩
  | echo =>
    rw [hv] at hspec
    exact h.drop he (Or.inr hspec.2) win
  | external =>
    rw [hv] at hspec
    have hne : e.size ≠ out.size := fun heq => hspec.2 (heq.trans h.mode.symm)
    have hfilter : (some e.size).filter (fun req : Size =>
        0 < req.width && 0 < req.height && req ≠ out.size) = some e.size := by
      rw [Size.isSet_iff] at hset
      simp [Option.filter, hne, hset]
    simp only [hfilter]
    show Agreeing _ (out.clearPending.commitState e.size .ok).1
    exact Agreeing.commitState h.mode hl.processed hne

end Deliver

/-! ## Runs -/

/-- A wired desktop whose sizes agree up to what is in flight. -/
def Agreed (d : Desktop) : Prop :=
  Inv d.win ∧ ∃ out, d.win.output = some out ∧ Linked d out ∧ Agreeing d out

theorem Agreed.wired {d : Desktop} (h : Agreed d) : Wired d :=
  ⟨h.1, h.2.elim fun out ho => ⟨out, ho.1, ho.2.1⟩⟩

section Runs

variable {cfg : Config} {d d' : Desktop} {a : DesktopAction}

/-- The first commit of a mapped window asks for its size, unless that is the placeholder's. -/
theorem Desktop.Opened.agreed (h : d.Opened .ok .ok) : Agreed d := by
  obtain ⟨hinv, out, ho, hl⟩ := h.wired
  obtain ⟨-, hd, size, out', ho', hev⟩ := h
  refine ⟨hinv, out, ho, hl, ?_⟩
  obtain rfl := Option.some.inj (ho.symm.trans ho')
  have hcreate : Linked d (X11Output.create d.processed) := Linked.create hd
  refine Agreeing.evolves ?_ (hcreate.commitState size .ok) hev
  by_cases hsize : size = ⟨1, 1⟩
  · -- the mode the backend created the output with
    have hsame : ((X11Output.create d.processed).commitState size .ok).1 =
        X11Output.create d.processed := by
      simp [X11Output.commitState, X11Output.create, hsize]
    rw [hsame]
    exact ⟨rfl, Or.inr (Or.inr (Or.inl (by rw [hd]; rfl)))⟩
  · exact Agreeing.commitState rfl (le_refl _) hsize

/-- **Every smooth step keeps the agreement.** One case per kind of step. -/
theorem agreed_step [CInt] (h : Agreed d) (hsmooth : d.SmoothStep a) (hstep : d.step cfg a = some d') :
    Agreed d' := by
  obtain ⟨hinv', out', ho', hl'⟩ := wired_step h.wired hstep
  refine ⟨hinv', out', ho', hl', ?_⟩
  obtain ⟨hinv, out, ho, hl, hagree⟩ := h
  -- what moves the mode is a commit, a delivery or the window manager
  cases a with
  | session a =>
    obtain ⟨hne, win, hwin, hsome, rfl⟩ := Desktop.session_eq_some hstep
    obtain ⟨out'', ho'', hev⟩ := step_output hinv ho hwin hsome hne
    obtain rfl := Option.some.inj (ho''.symm.trans ho')
    rcases hev with hev | ⟨n, rfl⟩
    · rw [show a.outcome = .ok from hsmooth] at hev
      exact (hagree.evolves hl hev).congr rfl (fun _ => id) rfl rfl
    · exact ⟨hagree.mode, hagree.witness⟩
  | serve n =>
    obtain ⟨-, rfl⟩ := Desktop.serve_eq_some ho hstep
    obtain rfl := Option.some.inj ho'
    exact hagree.serve hl _
  | settle k size =>
    obtain ⟨want, hwant, -, rfl⟩ := Desktop.settle_eq_some hstep
    rw [Desktop.settle_win, ho] at ho'
    obtain rfl := Option.some.inj ho'
    exact hagree.settle hwant size
  | hostConfigure size =>
    obtain ⟨-, rfl⟩ := Desktop.hostConfigure_eq_some hstep
    obtain rfl := Option.some.inj (ho.symm.trans ho')
    exact Agreeing.report hagree.mode size
  | askAgain =>
    obtain rfl := Desktop.askAgain_eq_some ho hstep
    obtain rfl := Option.some.inj (ho.symm.trans ho')
    exact hagree.congr rfl (fun _ => List.mem_append_left _) rfl rfl
  | deliver replies now outcome =>
    obtain ⟨rfl, hun⟩ := hsmooth
    obtain ⟨e, rest, win, he, -, rfl, rfl⟩ := Desktop.deliver_eq_some hstep
    obtain ⟨out'', ho'', hagree'⟩ := agreeing_deliver hl hagree ho he hun cfg replies now
    obtain rfl := Option.some.inj (ho''.symm.trans ho')
    exact hagree' _

theorem agreed_run [CInt] (h : Agreed d) {as : List DesktopAction}
    (hsmooth : Run.Along (Desktop.step cfg) Desktop.SmoothStep d as)
    (hrun : Run.run (Desktop.step cfg) d as = some d') : Agreed d' :=
  Run.run_invariant_of_along (fun _ _ _ hs hP ha => agreed_step hs hP ha) h hsmooth hrun

end Runs

/-- **Quiescent size agreement.** However requests, host resizes and events interleave after a
window was mapped: when none is in flight, the backend's window size, the committed mode and the
size of the X window are equal. -/
theorem sizes_agree_when_quiescent [CInt] (cfg : Config) (d d' : Desktop) (as : List DesktopAction)
    (hopen : d.Opened .ok .ok) (hsmooth : Run.Along (Desktop.step cfg) Desktop.SmoothStep d as)
    (hrun : Run.run (Desktop.step cfg) d as = some d') (hquiet : d'.Quiescent) :
    ∃ out, d'.win.output = some out ∧ out.winSize = out.size ∧ d'.real = out.size := by
  obtain ⟨-, out, ho, hl, hagree⟩ := agreed_run hopen.agreed hsmooth hrun
  obtain ⟨hsent, hasked, hevents⟩ := hquiet
  refine ⟨out, ho, hagree.mode, ?_⟩
  rcases hagree.witness with hfly | hmem | hreal | ⟨e, hmem, -⟩
  · have hlast := hl.inFlight hfly
    rw [hsent out (by rw [ho]; rfl)] at hlast
    cases hlast
  · rw [hasked] at hmem; cases hmem
  · exact hreal.trans hagree.mode
  · rw [hevents] at hmem; cases hmem

/-- The window manager grants the first size, then resizes the window to 800×600; the backend asks
for that size, which it has already. -/
def grantThenResize : List DesktopAction :=
  [.serve 1, .settle 0 ⟨500, 400⟩, .deliver [some []] 3 .ok, .hostConfigure ⟨800, 600⟩,
    .deliver [some []] 4 .ok, .serve 1, .settle 0 ⟨800, 600⟩]

/-- That run is smooth and ends quiescent, at the host's size. -/
theorem sizes_agree_when_quiescent_resized :
    ∃ (d : Desktop) (out : X11Output), d.win.output = some out ∧ out.winSize = out.size ∧
      d.real = out.size ∧ d.real = ⟨800, 600⟩ := by
  have hany : (Run.run (step ⟨1, false⟩) .fresh mapFloatingWindow).any (fun win =>
      decide (win.output = some ((X11Output.create 0).commitState ⟨500, 400⟩ .ok).1 ∧
        Run.Along (Desktop.step ⟨1, false⟩) Desktop.SmoothStep (.opened win 0) grantThenResize ∧
        (Run.run (Desktop.step ⟨1, false⟩) (.opened win 0) grantThenResize).any (fun d =>
          decide (d.Quiescent ∧ d.real = ⟨800, 600⟩)) = true)) = true := by decide +kernel
  obtain ⟨win, hwin, hchecks⟩ := (Option.any_eq_true ..).mp hany
  obtain ⟨ho, hsmooth, hend⟩ := of_decide_eq_true hchecks
  obtain ⟨d, hrun, hd⟩ := (Option.any_eq_true ..).mp hend
  obtain ⟨hquiet, hreal⟩ := of_decide_eq_true hd
  -- the run starts at an output that has just been opened
  have hopen : (Desktop.opened win 0).Opened .ok .ok :=
    ⟨Inv.fresh.run hwin, rfl, _, _, ho, Or.inl rfl⟩
  obtain ⟨out, ho', hmode, hsize⟩ :=
    sizes_agree_when_quiescent ⟨1, false⟩ _ d grantThenResize hopen hsmooth hrun hquiet
  exact ⟨d, out, ho', hmode, hsize, hreal⟩

end Wlx
