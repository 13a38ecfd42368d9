import WlX11.Lib.Serial
import WlX11.Session

/-!
# WlX11 — a window, its X server and its window manager

The session of `WlX11.Session` takes `ConfigureNotify` events from nowhere. Here they come from an X
server and a window manager that answer the program's own requests and have a will of their own:

* requests of the backend's connection reach the server in order (`serve`), a `ConfigureWindow` is
  then redirected to the window manager (`asked`);
* the window manager answers requests in any order and with any size (`settle`), and resizes or
  moves the window unasked (`hostConfigure`);
* each change, and each request that is not granted, is reported: the event carries the resulting
  size and the number of the last request the server had processed, and is delivered in order
  (`deliver`).

After a `ReparentNotify` the program repeats the output's size on its own connection (`askAgain`);
that request and the `reparent` session event are separate steps here, with anything in between.

* **`Linked`** — what the backend remembers of its requests against what is still on its way;
  **`wired_step`** / **`wired_run`**: it holds in every state the system reaches.
-/

namespace Wlx

open X11Output (CommitOutcome)
open Window (NetWmAtom)

/-- A `ConfigureNotify` on its way to the program, with its full sequence number. -/
structure Notify where
  seq : Nat
  size : Size
  /-- Ghost: the size is not the one the newest `ConfigureWindow` the server had processed asked
  for. -/
  outdated : Bool
deriving DecidableEq, Repr

/-- A mapped window, the X server and the window manager. -/
structure Desktop where
  win : Window
  /-- The size of the X window. -/
  real : Size
  /-- Number of requests of the backend's connection the server has processed. -/
  processed : Nat
  /-- The size the newest of them that was a `ConfigureWindow` asked for. -/
  newest : Size
  /-- Requests redirected to the window manager and not answered yet, oldest first. -/
  asked : List Size
  /-- Events generated and not delivered yet, oldest first. -/
  events : List Notify
deriving DecidableEq

inductive DesktopAction where
  /-- an event of the session other than a `ConfigureNotify` -/
  | session (a : Action)
  /-- the server processes the next `n` requests of the backend's connection -/
  | serve (n : Nat)
  /-- the window manager answers its `k`-th open request: the window has `size` now -/
  | settle (k : Nat) (size : Size)
  /-- the host configures the window of its own accord -/
  | hostConfigure (size : Size)
  /-- the program repeats the output's size on its own connection -/
  | askAgain
  /-- the oldest event reaches the program -/
  | deliver (replies : List (Option (List NetWmAtom))) (now : Int) (outcome : CommitOutcome)
deriving DecidableEq

namespace Desktop

/-- The window has `size` now, and that is reported. -/
def report (d : Desktop) (size : Size) : Desktop :=
  { d with
    real := size
    events := d.events ++ [⟨d.processed, size, decide (size ≠ d.newest)⟩] }

/-- The server processes requests up to number `upto`. -/
def serve (d : Desktop) (out : X11Output) (upto : Nat) : Desktop :=
  let due := out.sent.filter fun r => r.seq ≤ upto
  { d with
    win := { d.win with output := some { out with sent := out.sent.filter fun r => upto < r.seq } }
    processed := upto
    newest := (due.getLast?.map (·.size)).getD d.newest
    asked := d.asked ++ due.map (·.size) }

/-- The window manager answers the `k`-th request, which asked for `want`, with `size`. Only a
request that is granted without changing anything goes unreported. -/
def settle (d : Desktop) (k : Nat) (want size : Size) : Desktop :=
  let d := { d with asked := d.asked.eraseIdx k }
  if size = want ∧ size = d.real then d else d.report size

/-- One step of the system. It ends with the life of the output: an unmap is no step. -/
def step [CInt] (cfg : Config) (d : Desktop) : DesktopAction → Option Desktop
  | .session a =>
    match a with
    | .configureNotify .. => none
    | a => ((Wlx.step cfg d.win a).filter (·.output.isSome)).map fun win => { d with win := win }
  | .serve n => d.win.output.bind fun out =>
    if d.processed + n ≤ out.seq then some (d.serve out (d.processed + n)) else none
  | .settle k size => d.asked[k]?.bind fun want =>
    if size.isSet then some (d.settle k want size) else none
  | .hostConfigure size => if size.isSet then some (d.report size) else none
  | .askAgain => d.win.output.map fun out => { d with asked := d.asked ++ [out.size] }
  | .deliver replies now outcome =>
    match d.events with
    | [] => none
    | e :: rest =>
      (Wlx.step cfg d.win (.configureNotify ⟨wireSeq e.seq, e.size⟩ replies now outcome)).map
        fun win => { d with win := win, events := rest }

/-- The server's side of a window the backend has just created, 1×1, on a connection with `seq`
requests: nothing of the first commit has been seen yet. -/
def opened (win : Window) (seq : Nat) : Desktop := ⟨win, ⟨1, 1⟩, seq, ⟨1, 1⟩, [], []⟩

/-- A window that has just been mapped: the output's first mode was committed with outcome `first`,
and the commit that mapped it may have fitted the window once more, with outcome `fit`. -/
structure Opened (d : Desktop) (first fit : CommitOutcome) : Prop where
  inv : Inv d.win
  eq : d = opened d.win d.processed
  output : ∃ size out, d.win.output = some out ∧
    ((X11Output.create d.processed).commitState size first).1.Evolves fit out

end Desktop

/-! ## What a session step does to the output -/

/-- The outcome of the mode commit an event may cause. -/
def Action.outcome : Action → CommitOutcome
  | .commit _ _ _ outcome | .configureNotify _ _ _ outcome | .reparent _ _ outcome => outcome
  | _ => .ok

section Output

variable {cfg : Config} {win win' : Window} {out : X11Output} {a : Action}

/-- **A session step on a mapped window** commits at most one mode, or only passes other traffic. -/
theorem step_output [CInt] (hinv : Inv win) (ho : win.output = some out)
    (hstep : step cfg win a = some win') (hsome : win'.output.isSome = true)
    (hne : ∀ ev replies now outcome, a ≠ .configureNotify ev replies now outcome) :
    ∃ out', win'.output = some out' ∧
      (out.Evolves a.outcome out' ∨ ∃ n, out' = out.otherRequests n) := by
  obtain ⟨-, hen, rfl⟩ := step_eq_some.mp hstep
  cases a with
  | commit c now env outcome =>
    have hmapped := hinv.mapped (by rw [ho]; rfl)
    cases hu : win.xdg.unmapCommit c with
    | true =>
      -- the output would be gone
      simp only [handle, Window.wlSurfaceCommit] at hsome
      rw [Window.applyCommit_of_unmap cfg env hinv hu, Window.surfaceCommit_output] at hsome
      cases hsome
    | false =>
      have hprep := (Window.prepareCommit_prepared cfg (win.roleCommitted c)).output.trans ho
      obtain ⟨out', ho', hev⟩ := Window.fitWindow_output cfg now outcome hprep
      refine ⟨out', ?_, Or.inl hev⟩
      rw [handle, Window.wlSurfaceCommit_of_mapped cfg now env outcome hmapped hu]
      exact ho'
  | configureNotify ev replies now outcome => exact absurd rfl (hne ev replies now outcome)
  | reparent drawable now outcome =>
    simp only [handle, Window.reparentSync, ho]
    split
    · obtain ⟨out', ho', hev⟩ := Window.resizeOutputTo_output cfg now drawable outcome ho
      exact ⟨out', ho', Or.inl hev⟩
    · exact ⟨out, ho, Or.inl (Or.inl rfl)⟩
  | otherRequests n => exact ⟨out.otherRequests n, by simp [handle, ho], Or.inr ⟨n, rfl⟩⟩
  | _ => exact ⟨out, (handle_output cfg win (by trivial)).trans ho, Or.inl (Or.inl rfl)⟩

end Output

/-! ## The backend's memory and the messages in flight -/

/-- The backend's bookkeeping is true to the messages in flight: its last `ConfigureWindow` is the
last one on its way to the server until the server has processed it, and from then on the newest one
the server has processed; a remembered pending size is the size it asked for. -/
structure Linked (d : Desktop) (out : X11Output) : Prop where
  processed : d.processed ≤ out.seq
  configured : out.lastConfigure ≤ out.seq
  wire : out.hasConfigureSeq = true → out.lastConfigureSeq = wireSeq out.lastConfigure
  first : out.hasConfigureSeq = false → out.lastConfigure = 0
  pending : out.hasPendingConfigure = true → out.pendingSize = out.winSize
  sent : ∀ r ∈ out.sent, d.processed < r.seq ∧ r.seq ≤ out.lastConfigure
  inFlight : d.processed < out.lastConfigure →
    out.sent.getLast? = some ⟨out.lastConfigure, out.winSize⟩
  caughtUp : out.lastConfigure ≤ d.processed → d.newest = out.winSize
  notified : ∀ e ∈ d.events, e.seq ≤ d.processed ∧ e.size.isSet = true
  outdated : ∀ e ∈ d.events, out.lastConfigure ≤ e.seq →
    (e.outdated = true ↔ e.size ≠ out.winSize)

namespace Linked

variable {d : Desktop} {out out' : X11Output}

/-- An output that has asked for nothing, next to a server that has seen all its requests. -/
theorem create (h : d = Desktop.opened d.win d.processed) :
    Linked d (X11Output.create d.processed) := by
  rw [h]
  exact ⟨le_refl _, Nat.zero_le _, fun hf => absurd hf (by simp [X11Output.create]), fun _ => rfl,
    fun hf => absurd hf (by simp [X11Output.create]), by simp [X11Output.create],
    fun hlt => absurd hlt (by simp [X11Output.create]), fun _ => rfl, by simp [Desktop.opened],
    by simp [Desktop.opened]⟩

/-- A new `ConfigureWindow` is the last request on its way, and newer than every event. -/
theorem outputSetCustomMode (h : Linked d out) (size : Size) :
    Linked d (out.outputSetCustomMode size) := by
  have hp := h.processed
  have hc := h.configured
  unfold X11Output.outputSetCustomMode
  split
  · exact h
  · refine ⟨by dsimp only; omega, le_refl _, fun _ => rfl, fun hf => absurd hf (by simp),
      fun _ => rfl, ?_, fun _ => List.getLast?_concat, ?_, h.notified, ?_⟩
    · intro r hr
      dsimp only
      rcases List.mem_append.mp hr with hr | hr
      · have := h.sent r hr; omega
      · rw [List.mem_singleton.mp hr]; dsimp only; omega
    · intro hle; dsimp only at hle; omega
    · intro e he hle
      have := (h.notified e he).1
      dsimp only at hle; omega

/-- `Linked` does not speak of the committed mode. -/
theorem setSize (h : Linked d out) (size : Size) : Linked d { out with size := size } :=
  ⟨h.processed, h.configured, h.wire, h.first, h.pending, h.sent, h.inFlight, h.caughtUp,
    h.notified, h.outdated⟩

/-- A commit that reaches the server asks for its size. -/
theorem commitState (h : Linked d out) (size : Size) (outcome : CommitOutcome) :
    Linked d (out.commitState size outcome).1 := by
  cases outcome with
  | testFailed => exact h
  | bufferFailed =>
    simp only [X11Output.commitState]
    split
    · exact h
    · exact h.outputSetCustomMode size
  | ok =>
    simp only [X11Output.commitState]
    split
    · exact h
    · exact (h.outputSetCustomMode size).setSize size

/-- Other changes of the output ask for none. -/
theorem evolves (h : Linked d out) {outcome : CommitOutcome} (he : out.Evolves outcome out') :
    Linked d out' := by
  rcases he with rfl | ⟨size, -, -, rfl⟩
  · exact h
  · exact h.commitState size outcome

/-- What is forgotten was asked for all the same. -/
theorem clearPending (h : Linked d out) : Linked d out.clearPending :=
  ⟨h.processed, h.configured, h.wire, h.first, fun hf => absurd hf (by simp [X11Output.clearPending]),
    h.sent, h.inFlight, h.caughtUp, h.notified, h.outdated⟩

/-- A notification forgets what it answers. -/
theorem handleX11ConfigureNotify (h : Linked d out) (ev : ConfigureNotify) :
    Linked d (out.handleX11ConfigureNotify ev).1 := by
  unfold X11Output.handleX11ConfigureNotify
  cases out.classify ev with
  | ignored | stale | echo => exact h
  | selfAck | external => exact h.clearPending

/-- Requests about other things move the counter only. -/
theorem otherRequests (h : Linked d out) (n : Nat) : Linked d (out.otherRequests n) :=
  ⟨h.processed.trans (Nat.le_add_right _ _), h.configured.trans (Nat.le_add_right _ _), h.wire,
    h.first, h.pending, h.sent, h.inFlight, h.caughtUp, h.notified, h.outdated⟩

/-- A generated event is outdated exactly if its size is not the one the backend asked for last,
once the server has processed that request. -/
theorem report (h : Linked d out) {size : Size} (hset : size.isSet = true) :
    Linked (d.report size) out := by
  refine ⟨h.processed, h.configured, h.wire, h.first, h.pending, h.sent, h.inFlight, h.caughtUp,
    ?_, ?_⟩
  · intro e he
    rcases List.mem_append.mp he with he | he
    · exact h.notified e he
    · rw [List.mem_singleton.mp he]; exact ⟨le_refl _, hset⟩
  · intro e he hle
    rcases List.mem_append.mp he with he | he
    · exact h.outdated e he hle
    · rw [List.mem_singleton.mp he] at hle ⊢
      rw [← h.caughtUp hle]
      exact decide_eq_true_iff

/-- The window manager answers what was asked, or something else. -/
theorem settle (h : Linked d out) (k : Nat) (want : Size) {size : Size}
    (hset : size.isSet = true) : Linked (d.settle k want size) out := by
  have h' : Linked { d with asked := d.asked.eraseIdx k } out :=
    ⟨h.processed, h.configured, h.wire, h.first, h.pending, h.sent, h.inFlight, h.caughtUp,
      h.notified, h.outdated⟩
  unfold Desktop.settle
  dsimp only
  split
  · exact h'
  · exact h'.report hset

/-- Processing requests keeps the last one last, and makes it the newest when it is its turn. -/
theorem serve (h : Linked d out) {upto : Nat} (hle : d.processed ≤ upto) (hseq : upto ≤ out.seq) :
    Linked (d.serve out upto) { out with sent := out.sent.filter fun r => upto < r.seq } := by
  refine ⟨hseq, h.configured, h.wire, h.first, h.pending, ?_, ?_, ?_, ?_, h.outdated⟩
  · intro r hr
    obtain ⟨hr, hlt⟩ := List.mem_filter.mp hr
    exact ⟨of_decide_eq_true hlt, (h.sent r hr).2⟩
  -- the last request is not processed yet
  · intro hlt
    have hlt : upto < out.lastConfigure := hlt
    obtain ⟨init, hinit⟩ := List.getLast?_eq_some_iff.mp (h.inFlight (by omega))
    simp [hinit, hlt]
  · intro hcaught
    have hcaught : out.lastConfigure ≤ upto := hcaught
    simp only [Desktop.serve]
    rcases Nat.lt_or_ge d.processed out.lastConfigure with hlt | hge
    · -- the last request is among those processed now
      obtain ⟨init, hinit⟩ := List.getLast?_eq_some_iff.mp (h.inFlight hlt)
      simp [hinit, hcaught]
    · -- nothing was on its way
      have hnil : out.sent = [] := by
        refine List.eq_nil_iff_forall_not_mem.mpr fun r hr => ?_
        have := h.sent r hr; omega
      simpa [hnil] using h.caughtUp hge
  · intro e he
    exact ⟨(h.notified e he).1.trans hle, (h.notified e he).2⟩

/-- Only what the backend and the server remember matters. -/
theorem congr {d' : Desktop} (h : Linked d out) (hp : d'.processed = d.processed)
    (hn : d'.newest = d.newest) (he : ∀ e ∈ d'.events, e ∈ d.events) : Linked d' out := by
  refine ⟨hp ▸ h.processed, h.configured, h.wire, h.first, h.pending, ?_, ?_, ?_, ?_, ?_⟩
  · rw [hp]; exact h.sent
  · rw [hp]; exact h.inFlight
  · rw [hp, hn]; exact h.caughtUp
  · rw [hp]; exact fun e hmem => h.notified e (he e hmem)
  · exact fun e hmem => h.outdated e (he e hmem)

/-- **The stale test, unrolled**: with full numbers, an event is dropped iff its distance to the
last `ConfigureWindow` modulo `2^16` is in the upper half of the range. -/
theorem isStale_iff (h : Linked d out) (n : Nat) (size : Size) :
    out.isStale ⟨wireSeq n, size⟩ = true ↔
      out.hasConfigureSeq = true ∧ (2 : Int) ^ 16 ≤ 2 * (((n : Int) - out.lastConfigure) % 2 ^ 16) := by
  simp only [X11Output.isStale, Bool.and_eq_true, decide_eq_true_eq]
  refine and_congr_right fun hhas => ?_
  rw [h.wire hhas]
  exact Serial.sub_toInt_neg_iff 16 n out.lastConfigure

/-- Within `2^15` requests of the last `ConfigureWindow`, an event is dropped iff it is older. -/
theorem isStale_iff_lt (h : Linked d out) {n : Nat} (size : Size)
    (hn : n < out.lastConfigure + 2 ^ 15) (hl : out.lastConfigure < n + 2 ^ 15) :
    out.isStale ⟨wireSeq n, size⟩ = true ↔ n < out.lastConfigure := by
  cases hhas : out.hasConfigureSeq with
  | false => simp [X11Output.isStale, hhas, h.first hhas]
  | true =>
    simp only [X11Output.isStale, hhas, Bool.true_and, decide_eq_true_eq, h.wire hhas]
    exact Serial.sub_toInt_neg_iff_lt (by omega) (by omega)

end Linked

/-! ## Steps -/

namespace Desktop

variable {cfg : Config} {d d' : Desktop}

/-- A session event is one the session itself has, and leaves the window its output. -/
theorem session_eq_some [CInt] {a : Action} (h : d.step cfg (.session a) = some d') :
    (∀ ev replies now outcome, a ≠ .configureNotify ev replies now outcome) ∧
      ∃ win, Wlx.step cfg d.win a = some win ∧ win.output.isSome = true ∧
        d' = { d with win := win } := by
  have hfilter (hs : ((Wlx.step cfg d.win a).filter (·.output.isSome)).map
      (fun win => { d with win := win }) = some d') :
      ∃ win, Wlx.step cfg d.win a = some win ∧ win.output.isSome = true ∧
        d' = { d with win := win } := by
    obtain ⟨win, hwin, rfl⟩ := Option.map_eq_some_iff.mp hs
    obtain ⟨hwin, hsome⟩ := Option.filter_eq_some_iff.mp hwin
    exact ⟨win, hwin, hsome, rfl⟩
  simp only [Desktop.step] at h
  split at h
  · cases h
  · next hne => exact ⟨hne, hfilter h⟩

/-- The server works off what has been sent. -/
theorem serve_eq_some [CInt] {out : X11Output} {n : Nat} (ho : d.win.output = some out)
    (h : d.step cfg (.serve n) = some d') :
    d.processed + n ≤ out.seq ∧ d' = d.serve out (d.processed + n) := by
  simp only [Desktop.step, ho, Option.bind_some, Option.ite_none_right_eq_some,
    Option.some.injEq] at h
  exact ⟨h.1, h.2.symm⟩

/-- The window manager answers a request that is under way, -/
theorem settle_eq_some [CInt] {k : Nat} {size : Size} (h : d.step cfg (.settle k size) = some d') :
    ∃ want, d.asked[k]? = some want ∧ size.isSet = true ∧ d' = d.settle k want size := by
  obtain ⟨want, hwant, h⟩ := Option.bind_eq_some_iff.mp h
  simp only [Option.ite_none_right_eq_some, Option.some.injEq] at h
  exact ⟨want, hwant, h.1, h.2.symm⟩

/-- or configures the window by itself. -/
theorem hostConfigure_eq_some [CInt] {size : Size} (h : d.step cfg (.hostConfigure size) = some d') :
    size.isSet = true ∧ d' = d.report size := by
  simp only [Desktop.step, Option.ite_none_right_eq_some, Option.some.injEq] at h
  exact ⟨h.1, h.2.symm⟩

/-- A size may be asked for once more. -/
theorem askAgain_eq_some [CInt] {out : X11Output} (ho : d.win.output = some out)
    (h : d.step cfg .askAgain = some d') : d' = { d with asked := d.asked ++ [out.size] } := by
  obtain ⟨out', ho', rfl⟩ := Option.map_eq_some_iff.mp h
  rw [Option.some.inj (ho.symm.trans ho')]

/-- A delivery hands the oldest event to the session. -/
theorem deliver_eq_some [CInt] {replies : List (Option (List NetWmAtom))} {now : Int}
    {outcome : CommitOutcome} (h : d.step cfg (.deliver replies now outcome) = some d') :
    ∃ e rest win, d.events = e :: rest ∧
      Wlx.step cfg d.win (.configureNotify ⟨wireSeq e.seq, e.size⟩ replies now outcome) = some win ∧
      win = d.win.configureNotify cfg now replies outcome ⟨wireSeq e.seq, e.size⟩ ∧
      d' = { d with win := win, events := rest } := by
  simp only [Desktop.step] at h
  split at h
  · cases h
  · next e rest he =>
    obtain ⟨win, hwin, rfl⟩ := Option.map_eq_some_iff.mp h
    exact ⟨e, rest, win, he, hwin, (step_eq_some.mp hwin).2.2.symm, rfl⟩

/-- The window learns of it later. -/
@[simp] theorem settle_win (d : Desktop) (k : Nat) (want size : Size) :
    (d.settle k want size).win = d.win := by
  unfold settle; dsimp only; split <;> rfl

@[simp] theorem report_win (d : Desktop) (size : Size) : (d.report size).win = d.win := rfl

end Desktop

/-- A desktop whose window has an output the backend's memory of which is right. -/
structure Wired (d : Desktop) : Prop where
  inv : Inv d.win
  linked : ∃ out, d.win.output = some out ∧ Linked d out

section Steps

variable {cfg : Config} {d d' : Desktop} {a : DesktopAction}

/-- A freshly mapped window is wired. -/
theorem Desktop.Opened.wired {first fit : CommitOutcome} (h : d.Opened first fit) : Wired d := by
  obtain ⟨hinv, hd, size, out, ho, hev⟩ := h
  exact ⟨hinv, out, ho, ((Linked.create hd).commitState size first).evolves hev⟩

/-- **Every map opens a desktop**: a commit of the session that gives the window its output. -/
theorem Desktop.opened_of_map [CInt] {win win' : Window} {c : SurfaceCommit} {now : Int}
    {env : Window.MapEnv} {outcome : CommitOutcome} (hinv : Inv win) (hnone : win.output = none)
    (hstep : Wlx.step cfg win (.commit c now env outcome) = some win')
    (hsome : win'.output.isSome = true) :
    (Desktop.opened win' env.seq).Opened env.outcome outcome := by
  refine ⟨hinv.step hstep, rfl, ?_⟩
  obtain ⟨-, -, rfl⟩ := step_eq_some.mp hstep
  simp only [handle, Window.wlSurfaceCommit] at hsome ⊢
  rw [Window.surfaceCommit_output] at hsome
  have hmap : ∃ size, (win.applyCommit cfg env c).output =
      some ((X11Output.create env.seq).commitState size env.outcome).1 := by
    cases hu : win.xdg.unmapCommit c with
    | true => rw [Window.applyCommit_of_unmap cfg env hinv hu] at hsome; cases hsome
    | false =>
      rw [Window.applyCommit_of_not_unmap cfg env hu] at hsome ⊢
      exact Window.mapOnBuffer_output cfg env hnone hsome
  obtain ⟨size, ho⟩ := hmap
  have hprep := (Window.prepareCommit_prepared cfg (win.applyCommit cfg env c)).output.trans ho
  obtain ⟨out, ho', hev⟩ := Window.fitWindow_output cfg now outcome hprep
  exact ⟨size, out, ho', hev⟩

/-- A toplevel mapped at 500×400. -/
def mapFloatingWindow : List Action :=
  [.commit ⟨.keep, none⟩ 1 ⟨true, 0, .ok⟩ .ok, .sendConfigure, .ackConfigure 0,
    .commit ⟨.attach ⟨500, 400⟩, some ⟨0, 0, 500, 400⟩⟩ 2 ⟨true, 0, .ok⟩ .ok]

/-- **Every step keeps the wiring.** One case per kind of step. -/
theorem wired_step [CInt] (h : Wired d) (hstep : d.step cfg a = some d') : Wired d' := by
  obtain ⟨hinv, out, ho, hl⟩ := h
  cases a with
  | session a =>
    obtain ⟨hne, win, hwin, hsome, rfl⟩ := Desktop.session_eq_some hstep
    obtain ⟨out', ho', hev⟩ := step_output hinv ho hwin hsome hne
    refine ⟨hinv.step hwin, out', ho', ?_⟩
    rcases hev with hev | ⟨n, rfl⟩
    -- the last configure may be a new one
    · exact (hl.evolves hev).congr rfl rfl fun _ => id
    · exact (hl.otherRequests n).congr rfl rfl fun _ => id
  | serve n =>
    obtain ⟨hseq, rfl⟩ := Desktop.serve_eq_some ho hstep
    exact ⟨hinv.of_handlerStep ⟨.refl _, by simp [Desktop.serve, ho], rfl, rfl, rfl, rfl⟩, _, rfl,
      hl.serve (Nat.le_add_right _ _) hseq⟩
  -- the window manager grants a request as it likes
  | settle k size =>
    obtain ⟨want, -, hset, rfl⟩ := Desktop.settle_eq_some hstep
    exact ⟨by simpa using hinv, out, by simpa using ho, hl.settle k want hset⟩
  | hostConfigure size =>
    obtain ⟨hset, rfl⟩ := Desktop.hostConfigure_eq_some hstep
    exact ⟨hinv, out, ho, hl.report hset⟩
  | askAgain =>
    obtain rfl := Desktop.askAgain_eq_some ho hstep
    exact ⟨hinv, out, ho, hl.congr rfl rfl fun _ => id⟩
  | deliver replies now outcome =>
    obtain ⟨e, rest, win, he, hwin, rfl, rfl⟩ := Desktop.deliver_eq_some hstep
    have hout := Window.configureNotify_output cfg now replies outcome ⟨wireSeq e.seq, e.size⟩ ho
    refine ⟨hinv.step hwin, _, hout, ?_⟩
    have hrest : ∀ e' ∈ rest, e' ∈ d.events := fun e' hmem => by
      rw [he]; exact List.mem_cons_of_mem _ hmem
    have hfilter := hl.handleX11ConfigureNotify ⟨wireSeq e.seq, e.size⟩
    cases Window.hostResize d.win ⟨wireSeq e.seq, e.size⟩ with
    | none => exact hfilter.congr rfl rfl hrest
    | some req => exact (hfilter.commitState req outcome).congr rfl rfl hrest

/-- So it is after every run. -/
theorem wired_run [CInt] (h : Wired d) {as : List DesktopAction}
    (hrun : Run.run (Desktop.step cfg) d as = some d') : Wired d' :=
  Run.run_invariant (fun _ _ _ hs ha => wired_step hs ha) h hrun

end Steps

end Wlx
