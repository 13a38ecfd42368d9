import WlX11.Desktop

/-!
# WlX11 — the backend's event filter

`handle_x11_configure_notify` must tell three kinds of events apart: those older than the last
`ConfigureWindow`, the answers to it, and the host's own resizes. It has a 16-bit sequence number,
one remembered size and the current one to do it with. This module says exactly when that is enough:

* **`host_events_not_dropped_iff`** — the stale test never drops an event generated after the last
  `ConfigureWindow` was processed iff each such event is delivered at a distance below `2^15`,
  modulo `2^16`.
* **`granted_events_are_echoes_iff`** — with a window manager that grants every request in order, no
  event is taken for a host resize iff each delivered event of the latest request is for that
  request's size.
-/

namespace Wlx

open X11Output (CommitOutcome)
open Window (NetWmAtom)

namespace Desktop

/-- The stale test puts an event with number `n` after the `ConfigureWindow` with number `last`: the
distance modulo `2^16` is in the lower half. -/
def SeenAsNewer (n last : Nat) : Prop := 2 * (((n : Int) - last) % 2 ^ 16) < 2 ^ 16

instance (n last : Nat) : Decidable (SeenAsNewer n last) := by unfold SeenAsNewer; infer_instance

/-! ## Events the stale test must not drop -/

/-- The delivered event, if the server generated it after processing the last `ConfigureWindow`, is
not dropped as stale. -/
def NotDropped (d : Desktop) : DesktopAction → Prop
  | .deliver .. => ∀ out ∈ d.win.output, ∀ e ∈ d.events.head?, out.lastConfigure ≤ e.seq →
    out.classify ⟨wireSeq e.seq, e.size⟩ ≠ .stale
  | _ => True

instance (d : Desktop) : DecidablePred d.NotDropped := fun a => by
  cases a <;> unfold NotDropped <;> infer_instance

/-- The delivered event, if the server generated it after processing the last `ConfigureWindow`,
comes fewer than `2^15` requests later, modulo `2^16`. -/
def WithinHalf (d : Desktop) : DesktopAction → Prop
  | .deliver .. => ∀ out ∈ d.win.output, ∀ e ∈ d.events.head?, out.hasConfigureSeq = true →
    out.lastConfigure ≤ e.seq → SeenAsNewer e.seq out.lastConfigure
  | _ => True

instance (d : Desktop) : DecidablePred d.WithinHalf := fun a => by
  cases a <;> unfold WithinHalf <;> infer_instance

/-! ## Events that must not be taken for host resizes -/

/-- The window manager grants the oldest open request as asked, and imposes no size. -/
def GrantingStep (d : Desktop) : DesktopAction → Prop
  | .settle k size => k = 0 ∧ d.asked.head? = some size
  | .hostConfigure _ => False
  | _ => True

instance (d : Desktop) : DecidablePred d.GrantingStep := fun a => by
  cases a <;> unfold GrantingStep <;> infer_instance

/-- The delivered event causes no `request_state`, and `size_from_wm` stays as it is. -/
def TakenAsEcho [CInt] (cfg : Config) (d : Desktop) : DesktopAction → Prop
  | .deliver replies now outcome => ∀ out ∈ d.win.output, ∀ e ∈ d.events.head?,
    (out.handleX11ConfigureNotify ⟨wireSeq e.seq, e.size⟩).2 = none ∧
      (d.win.configureNotify cfg now replies outcome ⟨wireSeq e.seq, e.size⟩).sizeFromWm =
        d.win.sizeFromWm
  | _ => True

instance [CInt] (cfg : Config) (d : Desktop) : DecidablePred (TakenAsEcho cfg d) := fun a => by
  cases a <;> unfold TakenAsEcho <;> infer_instance

/-- The delivered event, unless the stale test drops it: generated after the server processed the
last `ConfigureWindow`, it reports the size of the newest one processed by then; older than that
(and `2^15` requests behind), it happens to have the size asked for last. -/
def AnswersInTime (d : Desktop) : DesktopAction → Prop
  | .deliver .. => ∀ out ∈ d.win.output, ∀ e ∈ d.events.head?,
    (out.hasConfigureSeq = true → SeenAsNewer e.seq out.lastConfigure) →
      if out.lastConfigure ≤ e.seq then e.outdated = false else e.size = out.winSize
  | _ => True

instance (d : Desktop) : DecidablePred d.AnswersInTime := fun a => by
  cases a <;> unfold AnswersInTime <;> infer_instance

end Desktop

/-! ## One delivery -/

section Deliver

variable {d : Desktop} {out : X11Output} {e : Notify}

theorem Linked.isStale_eq_false_iff (hl : Linked d out) (n : Nat) (size : Size) :
    out.isStale ⟨wireSeq n, size⟩ = false ↔
      (out.hasConfigureSeq = true → Desktop.SeenAsNewer n out.lastConfigure) := by
  rw [← Bool.not_eq_true, hl.isStale_iff]
  simp [Desktop.SeenAsNewer]

/-- An event on its way is dropped as stale exactly if the stale test says so. -/
theorem Linked.classify_eq_stale_iff (hl : Linked d out) (he : e ∈ d.events) :
    out.classify ⟨wireSeq e.seq, e.size⟩ = .stale ↔ out.isStale ⟨wireSeq e.seq, e.size⟩ = true := by
  have hset := (hl.notified e he).2
  have hspec := out.classify_spec ⟨wireSeq e.seq, e.size⟩
  rw [Size.isSet_iff] at hset
  cases hv : out.classify ⟨wireSeq e.seq, e.size⟩ <;> rw [hv] at hspec <;> dsimp only at hspec
  · omega
  · simp [hspec]
  all_goals simp [hspec.1]

/-- An event on its way is taken for a host resize exactly if it is not stale and its size is not
the one asked for last: a pending size is that size. -/
theorem Linked.handle_eq_none_iff (hl : Linked d out) (he : e ∈ d.events) :
    (out.handleX11ConfigureNotify ⟨wireSeq e.seq, e.size⟩).2 = none ↔
      (out.isStale ⟨wireSeq e.seq, e.size⟩ = false → e.size = out.winSize) := by
  have hset := (hl.notified e he).2
  have hspec := out.classify_spec ⟨wireSeq e.seq, e.size⟩
  rw [Size.isSet_iff] at hset
  unfold X11Output.handleX11ConfigureNotify
  cases hv : out.classify ⟨wireSeq e.seq, e.size⟩ <;> rw [hv] at hspec <;> dsimp only at hspec ⊢
  · omega
  · simp [hspec]
  · exact iff_of_true rfl fun _ => hspec.2.2.trans (hl.pending hspec.2.1)
  · exact iff_of_true rfl fun _ => hspec.2
  · exact iff_of_false (by simp) fun h => hspec.2 (h hspec.1)

/-- **One delivery is not dropped iff it comes within the half range.** -/
theorem notDropped_iff (hl : Linked d out) (he : e ∈ d.events) :
    (out.lastConfigure ≤ e.seq → out.classify ⟨wireSeq e.seq, e.size⟩ ≠ .stale) ↔
      (out.hasConfigureSeq = true → out.lastConfigure ≤ e.seq →
        Desktop.SeenAsNewer e.seq out.lastConfigure) := by
  rw [ne_eq, hl.classify_eq_stale_iff he, Bool.not_eq_true, hl.isStale_eq_false_iff]
  exact forall_comm

/-- **One delivery is taken as an echo iff it answers in time.** -/
theorem takenAsEcho_iff (hl : Linked d out) (he : e ∈ d.events) :
    (out.handleX11ConfigureNotify ⟨wireSeq e.seq, e.size⟩).2 = none ↔
      ((out.hasConfigureSeq = true → Desktop.SeenAsNewer e.seq out.lastConfigure) →
        if out.lastConfigure ≤ e.seq then e.outdated = false else e.size = out.winSize) := by
  rw [hl.handle_eq_none_iff he, hl.isStale_eq_false_iff]
  refine forall_congr' fun _ => ?_
  split
  · next hle => rw [← Bool.not_eq_true, hl.outdated e he hle, not_not]
  · exact Iff.rfl

/-- Without a `request_state` the window stays whose it is. -/
theorem configureNotify_sizeFromWm [CInt] (cfg : Config) (replies : List (Option (List NetWmAtom)))
    (now : Int) (outcome : CommitOutcome) (ev : ConfigureNotify) (ho : d.win.output = some out)
    (h : (out.handleX11ConfigureNotify ev).2 = none) :
    (d.win.configureNotify cfg now replies outcome ev).sizeFromWm = d.win.sizeFromWm := by
  have hres : Window.hostResize d.win ev = none := by simp [Window.hostResize, ho, h]
  rw [Window.configureNotify_of_none cfg now replies outcome hres]

end Deliver

section Steps

variable {d : Desktop} (a : DesktopAction)

theorem notDropped_step (h : Wired d) : d.NotDropped a ↔ d.WithinHalf a := by
  obtain ⟨-, out, ho, hl⟩ := h
  cases a with
  | deliver replies now outcome =>
    simp only [Desktop.NotDropped, Desktop.WithinHalf, ho]
    cases he : d.events with
    | nil => simp
    | cons e rest =>
      have hmem : e ∈ d.events := by rw [he]; exact List.mem_cons_self
      simpa using notDropped_iff hl hmem
  | _ => exact Iff.rfl

theorem takenAsEcho_step [CInt] (cfg : Config) (h : Wired d) :
    d.TakenAsEcho cfg a ↔ d.AnswersInTime a := by
  obtain ⟨-, out, ho, hl⟩ := h
  cases a with
  | deliver replies now outcome =>
    simp only [Desktop.TakenAsEcho, Desktop.AnswersInTime, ho]
    cases he : d.events with
    | nil => simp
    | cons e rest =>
      have hmem : e ∈ d.events := by rw [he]; exact List.mem_cons_self
      have hkeep := configureNotify_sizeFromWm (d := d) cfg replies now outcome ⟨wireSeq e.seq, e.size⟩ ho
      simpa [and_iff_left_of_imp hkeep] using takenAsEcho_iff hl hmem
  | _ => exact Iff.rfl

end Steps

/-- **The stale test drops no event generated after the last `ConfigureWindow` was processed iff
each of them is delivered within half the range of 16-bit sequence numbers**: fewer than `2^15`
requests later, modulo `2^16`. Whatever the host, the client and the rest of the connection do. -/
theorem host_events_not_dropped_iff [CInt] (cfg : Config) (d : Desktop) (first fit : CommitOutcome)
    (as : List DesktopAction) (hopen : d.Opened first fit) :
    Run.Along (Desktop.step cfg) Desktop.NotDropped d as ↔
      Run.Along (Desktop.step cfg) Desktop.WithinHalf d as :=
  Run.along_congr (fun _ _ _ h ha => wired_step h ha) (fun _ a h => notDropped_step a h) hopen.wired

/-- A mapped window on a connection that then sends 32768 other requests (buffers, mostly) before
the host resizes the window. -/
def resizeAfterManyRequests : List DesktopAction :=
  [.session (.otherRequests 32768), .serve 32769, .hostConfigure ⟨800, 600⟩,
    .deliver [some []] 3 .ok]

/-- The host's resize is dropped: 32768 requests after the `ConfigureWindow` it looks older. -/
theorem host_resize_dropped_after_many_requests :
    ¬ ∀ (cfg : Config) (d : Desktop) (first fit : CommitOutcome) (as : List DesktopAction),
      d.Opened first fit → Run.Along (Desktop.step cfg) Desktop.NotDropped d as := by
  intro h
  have hany : (Run.run (step ⟨1, false⟩) .fresh mapFloatingWindow).any (fun win =>
      decide (win.output = some ((X11Output.create 0).commitState ⟨500, 400⟩ .ok).1 ∧
        ¬ Run.Along (Desktop.step ⟨1, false⟩) Desktop.NotDropped (.opened win 0)
          resizeAfterManyRequests)) = true := by decide +kernel
  obtain ⟨win, hwin, hchecks⟩ := (Option.any_eq_true ..).mp hany
  obtain ⟨ho, hnot⟩ := of_decide_eq_true hchecks
  exact hnot (h ⟨1, false⟩ (.opened win 0) .ok .ok resizeAfterManyRequests
    ⟨Inv.fresh.run hwin, rfl, _, _, ho, Or.inl rfl⟩)

/-- After 20000 other requests the host is still heard. -/
theorem host_events_not_dropped_busy :
    ∃ d : Desktop, d.Opened .ok .ok ∧ Run.Along (Desktop.step ⟨1, false⟩) Desktop.NotDropped d
      [.session (.otherRequests 20000), .serve 20001, .hostConfigure ⟨800, 600⟩,
        .deliver [some []] 3 .ok] := by
  have hany : (Run.run (step ⟨1, false⟩) .fresh mapFloatingWindow).any (fun win =>
      decide (win.output = some ((X11Output.create 0).commitState ⟨500, 400⟩ .ok).1 ∧
        Run.Along (Desktop.step ⟨1, false⟩) Desktop.WithinHalf (.opened win 0)
          [.session (.otherRequests 20000), .serve 20001, .hostConfigure ⟨800, 600⟩,
            .deliver [some []] 3 .ok])) = true := by decide +kernel
  obtain ⟨win, hwin, hchecks⟩ := (Option.any_eq_true ..).mp hany
  obtain ⟨ho, hwithin⟩ := of_decide_eq_true hchecks
  have hopen : (Desktop.opened win 0).Opened .ok .ok :=
    ⟨Inv.fresh.run hwin, rfl, _, _, ho, Or.inl rfl⟩
  exact ⟨_, hopen, (host_events_not_dropped_iff _ _ .ok .ok _ hopen).mpr hwithin⟩

/-- **With a window manager that grants every request in order, no event is taken for a host resize
iff every delivered event answers in time**: unless the stale test drops it, it reports the size of
the newest `ConfigureWindow` the server had processed. An answer that was generated only after the
server had passed a newer request on, and is delivered while that one is still the last, is not
stale, not pending and not an echo. The equivalence holds of any window manager: what it does shows
in the events only. -/
theorem granted_events_are_echoes_iff [CInt] (cfg : Config) (d : Desktop) (first fit : CommitOutcome)
    (as : List DesktopAction) (hopen : d.Opened first fit)
    (_hgrant : Run.Along (Desktop.step cfg) Desktop.GrantingStep d as) :
    Run.Along (Desktop.step cfg) (Desktop.TakenAsEcho cfg) d as ↔
      Run.Along (Desktop.step cfg) Desktop.AnswersInTime d as :=
  Run.along_congr (fun _ _ _ h ha => wired_step h ha) (fun _ a h => takenAsEcho_step a cfg h)
    hopen.wired

/-- The client commits 600×500 before the first size has been granted. -/
def fitBeforeGrant : DesktopAction :=
  .session (.commit ⟨.attach ⟨600, 500⟩, some ⟨0, 0, 600, 500⟩⟩ 3 ⟨true, 0, .ok⟩ .ok)

/-- Both requests reach the window manager before it grants the first. -/
def grantTooLate : List DesktopAction :=
  [fitBeforeGrant, .serve 2, .settle 0 ⟨500, 400⟩, .deliver [some []] 4 .ok]

/-- The late answer to the first request is taken for a host resize: its sequence number is that of
the second. -/
theorem late_grant_taken_for_host :
    ¬ ∀ (cfg : Config) (d : Desktop) (first fit : CommitOutcome) (as : List DesktopAction),
      d.Opened first fit → Run.Along (Desktop.step cfg) Desktop.GrantingStep d as →
        Run.Along (Desktop.step cfg) (Desktop.TakenAsEcho cfg) d as := by
  intro h
  have hany : (Run.run (step ⟨1, false⟩) .fresh mapFloatingWindow).any (fun win =>
      decide (win.output = some ((X11Output.create 0).commitState ⟨500, 400⟩ .ok).1 ∧
        Run.Along (Desktop.step ⟨1, false⟩) Desktop.GrantingStep (.opened win 0) grantTooLate ∧
        ¬ Run.Along (Desktop.step ⟨1, false⟩) (Desktop.TakenAsEcho ⟨1, false⟩) (.opened win 0)
          grantTooLate)) = true := by decide +kernel
  obtain ⟨win, hwin, hchecks⟩ := (Option.any_eq_true ..).mp hany
  obtain ⟨ho, hgrant, hnot⟩ := of_decide_eq_true hchecks
  exact hnot (h ⟨1, false⟩ (.opened win 0) .ok .ok grantTooLate
    ⟨Inv.fresh.run hwin, rfl, _, _, ho, Or.inl rfl⟩ hgrant)

/-- The first size is granted before the server has processed the second request. -/
def grantInTime : List DesktopAction :=
  [fitBeforeGrant, .serve 1, .settle 0 ⟨500, 400⟩, .deliver [some []] 4 .ok, .serve 1,
    .settle 0 ⟨600, 500⟩, .deliver [some []] 5 .ok]

/-- Then both answers are recognised. -/
theorem granted_events_are_echoes_in_time :
    ∃ d : Desktop, d.Opened .ok .ok ∧
      Run.Along (Desktop.step ⟨1, false⟩) (Desktop.TakenAsEcho ⟨1, false⟩) d grantInTime := by
  have hany : (Run.run (step ⟨1, false⟩) .fresh mapFloatingWindow).any (fun win =>
      decide (win.output = some ((X11Output.create 0).commitState ⟨500, 400⟩ .ok).1 ∧
        Run.Along (Desktop.step ⟨1, false⟩) Desktop.GrantingStep (.opened win 0) grantInTime ∧
        Run.Along (Desktop.step ⟨1, false⟩) Desktop.AnswersInTime (.opened win 0)
          grantInTime)) = true := by decide +kernel
  obtain ⟨win, hwin, hchecks⟩ := (Option.any_eq_true ..).mp hany
  obtain ⟨ho, hgrant, htime⟩ := of_decide_eq_true hchecks
  have hopen : (Desktop.opened win 0).Opened .ok .ok :=
    ⟨Inv.fresh.run hwin, rfl, _, _, ho, Or.inl rfl⟩
  exact ⟨_, hopen, (granted_events_are_echoes_iff _ _ .ok .ok _ hopen hgrant).mpr htime⟩

end Wlx
