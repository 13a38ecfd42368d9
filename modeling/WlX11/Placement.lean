import WlX11.OutputLayout
import WlX11.Session

/-!
# WlX11 — where the windows lie in the scene

All toplevels share one scene. Each X window shows the part of it that lies under the window's
output, so the scene tree of a toplevel must sit where its own output sits in the layout. The
program sets the position of a tree in two places: when the window is mapped, and when
`surface_commit` has fitted the output to the client. The layout moves outputs whenever any of them
changes.

* **`Server`** — all toplevels with the positions of their trees, and the output layout.
* **`Arranged`** — the layout is the row of the mapped windows, in the order they were mapped.
* **`nodes_follow_layout_iff`** — in every run, all trees sit at their own outputs iff every change
  of a width and every unmap concerns the window that was mapped last.
-/

namespace Wlx

open X11Output (CommitOutcome)

/-- A toplevel and the position of its `scene_tree`. -/
structure Toplevel where
  win : Window
  node : Point

/-- `struct wlx_server`, as far as windows and their places are concerned. Toplevels are named by
numbers; which one has the focus is up to the events of their sessions. -/
structure Server where
  toplevel : Nat → Option Toplevel
  /-- The size of the bootstrap output, if it could be created. -/
  bootstrap : Option Size
  layout : List LayoutOutput

inductive ServerAction where
  /-- `server_new_xdg_toplevel` -/
  | create (i : Nat)
  /-- `xdg_toplevel_destroy` -/
  | destroy (i : Nat)
  /-- an event of the session of toplevel `i` -/
  | event (i : Nat) (a : Action)

namespace Server

/-- The size of an output of the layout. -/
def outputSize (s : Server) : OutputId → Size
  | .bootstrap => s.bootstrap.getD ⟨0, 0⟩
  | .window i => ((s.toplevel i).bind (·.win.outputSize)).getD ⟨0, 0⟩

/-- A server with no toplevels, with the bootstrap output placed. -/
def init (bootstrap : Option Size) : Server where
  toplevel := fun _ => none
  bootstrap := bootstrap
  layout :=
    match bootstrap with
    | none => []
    | some b => outputLayoutAdd (fun _ => b) [] .bootstrap ⟨-b.width - 256, 0⟩ false

def setWindow (s : Server) (i : Nat) (win : Window) : Server :=
  { s with
    toplevel := Function.update s.toplevel i ((s.toplevel i).map fun t => { t with win := win }) }

/-- `wlr_scene_node_set_position(&win->scene_tree->node, l_output->x, l_output->y)`. -/
def placeNode (s : Server) (i : Nat) : Server :=
  match layoutPos s.layout (.window i) with
  | none => s
  | some pos =>
    { s with
      toplevel := Function.update s.toplevel i ((s.toplevel i).map fun t => { t with node := pos }) }

/-- What becomes of the layout when the window `win` of toplevel `i` becomes `win'`: a new output is
added and the tree placed at it, a destroyed one is removed, and a new mode makes the layout
reconfigure itself. -/
def follow (s : Server) (i : Nat) (win win' : Window) : Server :=
  let s' := s.setWindow i win'
  match win.output.isSome, win'.output.isSome with
  | false, false => s'
  | false, true =>
    { s' with
      layout := outputLayoutAdd s'.outputSize s'.layout (.window i) ⟨0, 0⟩ true }.placeNode i
  | true, false => { s' with layout := outputLayoutRemove s'.outputSize s'.layout (.window i) }
  | true, true =>
    if win'.outputSize = win.outputSize then s'
    else { s' with layout := outputLayoutReconfigure s'.outputSize s'.layout }

end Server

/-- `surface_commit` takes its `want_fit` branch. -/
def Window.fits [CInt] (cfg : Config) (now : Int) (win : Window) : Bool :=
  let win := prepareCommit cfg win
  match win.output with
  | none => false
  | some out =>
    match fitDecision cfg now (releaseHostSize cfg win out) out with
    | .fit .. => true
    | _ => false

namespace Server

/-- A commit of toplevel `i`: mapping or unmapping first, then `surface_commit`, which places the
tree again after it has fitted the output. -/
def commit [CInt] (cfg : Config) (s : Server) (i : Nat) (win : Window) (c : SurfaceCommit) (now : Int)
    (env : Window.MapEnv) (outcome : CommitOutcome) : Server :=
  let applied := win.applyCommit cfg env c
  let s := (s.follow i win applied).follow i applied (applied.surfaceCommit cfg now outcome)
  if applied.fits cfg now then s.placeNode i else s

def step [CInt] (cfg : Config) (s : Server) : ServerAction → Option Server
  | .create i =>
    match s.toplevel i with
    | none => some
      { s with toplevel := Function.update s.toplevel i (some ⟨.fresh, ⟨0, 0⟩⟩) }
    | some _ => none
  | .destroy i => (s.toplevel i).map fun t =>
    let s := s.follow i t.win t.win.xdgToplevelUnmap
    { s with toplevel := Function.update s.toplevel i none }
  | .event i a => (s.toplevel i).bind fun t => (Wlx.step cfg t.win a).map fun win' =>
    match a with
    | .commit c now env outcome => s.commit cfg i t.win c now env outcome
    | _ => s.follow i t.win win'

/-- If toplevel `i` is mapped, its tree sits where its own output sits in the layout. -/
def PlacedAt (s : Server) (i : Nat) : Prop :=
  ∀ t, s.toplevel i = some t → t.win.output.isSome = true →
    layoutPos s.layout (.window i) = some t.node

/-- The tree of each mapped toplevel sits where its own output sits in the layout. -/
def NodesPlaced (s : Server) : Prop := ∀ i, s.PlacedAt i

/-- Toplevel `i` has the last output of the layout. -/
def IsLast (s : Server) (i : Nat) : Prop :=
  s.layout.getLast?.map (·.output) = some (.window i)

end Server

/-! ## Widths -/

/-- The width of the window's output; nothing when there is none. -/
def Window.width (win : Window) : Int := (win.outputSize.getD ⟨0, 0⟩).width

/-- The width `resize_output_to` leaves an output with. -/
def resizedWidth (out : X11Output) (size : Size) (outcome : CommitOutcome) : Int :=
  if outcome = .ok ∧ minOutputSize ≤ size.width ∧ minOutputSize ≤ size.height then size.width
  else out.size.width

/-- The width of a mapped window's output after an event: a fit, an accepted host size and a
reparent sync may change it, an unmap leaves none. -/
def widthAfter [CInt] (cfg : Config) (win : Window) (out : X11Output) : Action → Int
  | .commit c now _ outcome =>
    if win.xdg.unmapCommit c then 0
    else
      let win := Window.prepareCommit cfg (win.roleCommitted c)
      match Window.fitDecision cfg now (Window.releaseHostSize cfg win out) out with
      | .fit host _ => resizedWidth out host outcome
      | _ => out.size.width
  | .configureNotify ev _ _ outcome =>
    match Window.hostResize win ev with
    | some req => if outcome = .ok then req.width else out.size.width
    | none => out.size.width
  | .reparent drawable _ outcome =>
    if drawable.isSet then resizedWidth out drawable outcome else out.size.width
  | _ => out.size.width

section Width

variable {cfg : Config} {win : Window} {out : X11Output}

/-- A mapped window has its output's width, -/
theorem Window.width_of_output (ho : win.output = some out) : win.width = out.size.width := by
  simp [Window.width, Window.outputSize, ho]

/-- and an unmapped one none. -/
theorem Window.width_of_none (ho : win.output = none) : win.width = 0 := by
  simp [Window.width, Window.outputSize, ho]

/-- A commit that fails keeps the width. -/
theorem commitState_width (out : X11Output) (size : Size) (outcome : CommitOutcome) :
    (out.commitState size outcome).1.size.width =
      if outcome = .ok then size.width else out.size.width := by
  split
  · next h => rw [h, X11Output.commitState_ok_size]
  · next h => rw [X11Output.commitState_size_of_ne_ok _ _ h]

/-- A fit sets the width, except below the least size. -/
theorem resizeOutputTo_width [CInt] (now : Int) (size : Size) (outcome : CommitOutcome)
    (ho : win.output = some out) :
    (win.resizeOutputTo cfg now size outcome).width = resizedWidth out size outcome := by
  unfold Window.resizeOutputTo resizedWidth
  rw [ho]
  dsimp only
  by_cases hmin : size.width < minOutputSize ∨ size.height < minOutputSize
  · rw [if_pos hmin, if_neg (by omega), Window.width_of_output ho]
  · rw [if_neg hmin]
    -- an output that has the size already is not committed
    by_cases hsame : out.size = size
    · rw [if_pos hsame, Window.width_of_output ho, hsame, ite_self]
    · rw [if_neg hsame]
      have hout : (Window.commitOutput cfg now size outcome win).output =
          some (out.commitState size outcome).1 := by
        rw [Window.commitOutput_output, ho]; rfl
      simp only [Window.width, Window.outputSize, hout, Option.map_some, Option.getD_some,
        commitState_width]
      refine if_congr ?_ rfl rfl
      constructor
      · exact fun h => ⟨h, by omega, by omega⟩
      · exact fun h => h.1

/-- A commit changes the width only where the policy decides to fit. -/
theorem surfaceCommit_width [CInt] (now : Int) (outcome : CommitOutcome) (ho : win.output = some out) :
    (win.surfaceCommit cfg now outcome).width =
      match Window.fitDecision cfg now
          (Window.releaseHostSize cfg (Window.prepareCommit cfg win) out) out with
      | .fit host _ => resizedWidth out host outcome
      | _ => out.size.width := by
  have hprep := (Window.prepareCommit_prepared cfg win).output.trans ho
  unfold Window.surfaceCommit Window.fitWindow
  rw [hprep]
  dsimp only
  cases Window.fitDecision cfg now
      (Window.releaseHostSize cfg (Window.prepareCommit cfg win) out) out with
  -- a fit resizes the output first, and then configures the client
  | fit host conf =>
    simp only [Window.runDecision, Window.fitHost]
    split
    · exact resizeOutputTo_width now host outcome hprep
    · exact resizeOutputTo_width now host outcome hprep
  | hold =>
    simp only [Window.runDecision]
    exact Window.width_of_output ((Window.wlxToplevelFillHost_output cfg now _).trans hprep)
  | oscillation => exact Window.width_of_output hprep
  | idle => exact Window.width_of_output hprep

/-- **A session step gives a mapped window the width foreseen.** -/
theorem width_step [CInt] {a : Action} {win' : Window} (hinv : Inv win) (ho : win.output = some out)
    (hstep : step cfg win a = some win') : win'.width = widthAfter cfg win out a := by
  obtain ⟨-, -, rfl⟩ := step_eq_some.mp hstep
  have hmapped := hinv.mapped (by rw [ho]; rfl)
  cases a with
  | commit c now env outcome =>
    simp only [handle, widthAfter]
    cases hu : win.xdg.unmapCommit c with
    | true =>
      rw [if_pos rfl]
      refine Window.width_of_none (Option.not_isSome_iff_eq_none.mp ?_)
      rw [Window.wlSurfaceCommit, Window.applyCommit_of_unmap cfg env hinv hu,
        Window.surfaceCommit_output]
      simp
    | false =>
      rw [if_neg (by simp), Window.wlSurfaceCommit_of_mapped cfg now env outcome hmapped hu]
      have hout : (win.roleCommitted c).output = some out := ho
      exact surfaceCommit_width now outcome hout
  -- the host's size is taken if the commit to it succeeds
  | configureNotify ev replies now outcome =>
    have hout := Window.configureNotify_output cfg now replies outcome ev ho
    simp only [handle, widthAfter]
    rw [Window.width_of_output hout]
    cases Window.hostResize win ev with
    | none => simp
    | some req =>
      dsimp only
      rw [commitState_width, X11Output.handleX11ConfigureNotify_size]
  | reparent drawable now outcome =>
    simp only [handle, widthAfter, Window.reparentSync, ho]
    cases hset : drawable.isSet with
    | false => simpa using Window.width_of_output ho
    | true =>
      by_cases hsame : drawable = out.size
      · rw [if_neg (by simp [hsame]), if_pos rfl, Window.width_of_output ho, resizedWidth, hsame,
          ite_self]
      · rw [if_pos ⟨rfl, hsame⟩, if_pos rfl]
        exact resizeOutputTo_width now drawable outcome ho
  | otherRequests n =>
    have hout : (handle cfg win (.otherRequests n)).output = some (out.otherRequests n) := by
      simp [handle, ho]
    rw [Window.width_of_output hout]
    rfl
  -- no other event touches the output
  | _ => exact Window.width_of_output ((handle_output cfg win (by trivial)).trans ho)

end Width

/-! ## The row of mapped windows -/

namespace Server

/-- The width toplevel `i` has in the row. -/
def width (s : Server) (i : Nat) : Int := (s.outputSize (.window i)).width

/-- The layout is the row of the mapped toplevels `ks`. -/
structure Arranged (s : Server) (ks : List Nat) : Prop where
  nodup : ks.Nodup
  mem : ∀ i, i ∈ ks ↔ ∃ t, s.toplevel i = some t ∧ t.win.output.isSome = true
  layout : s.layout = bootstrapOutputs s.bootstrap ++ windowRow (rowStart s.bootstrap) s.width ks

variable {s : Server} {ks : List Nat} {i j : Nat} {t : Toplevel} {win' : Window}

/-- The record of one window is replaced, -/
theorem setWindow_toplevel_self (ht : s.toplevel i = some t) (win' : Window) :
    (s.setWindow i win').toplevel i = some { t with win := win' } := by
  simp [setWindow, ht]

/-- and no other. -/
@[simp] theorem setWindow_toplevel_of_ne (h : j ≠ i) (win' : Window) :
    (s.setWindow i win').toplevel j = s.toplevel j := by
  simp [setWindow, h]

theorem width_of_toplevel (ht : s.toplevel i = some t) : s.width i = t.win.width := by
  simp only [width, outputSize, ht, Option.bind_some, Window.width]

/-- So one width of the row may change. -/
theorem setWindow_width (ht : s.toplevel i = some t) (win' : Window) :
    (s.setWindow i win').width = Function.update s.width i win'.width := by
  funext j
  by_cases hj : j = i
  · rw [hj, Function.update_self, width_of_toplevel (setWindow_toplevel_self ht win')]
  · rw [Function.update_of_ne hj]
    simp only [width, outputSize, setWindow_toplevel_of_ne hj]

/-- A handler is about one toplevel, and the others keep their place or lose it. -/
theorem nodesPlaced_iff (s : Server) (i : Nat) :
    s.NodesPlaced ↔ s.PlacedAt i ∧ ∀ j, j ≠ i → s.PlacedAt j := by
  refine ⟨fun h => ⟨h i, fun j _ => h j⟩, fun h j => ?_⟩
  by_cases hj : j = i
  · exact hj ▸ h.1
  · exact h.2 j hj

/-- To place one tree moves no other. -/
theorem placeNode_toplevel_of_ne (h : j ≠ i) : (s.placeNode i).toplevel j = s.toplevel j := by
  unfold placeNode
  split
  · rfl
  · simp [h]

/-- Placing a tree changes no window. -/
theorem placeNode_win (s : Server) (i j : Nat) :
    ((s.placeNode i).toplevel j).map (·.win) = (s.toplevel j).map (·.win) := by
  unfold placeNode
  split
  · rfl
  · by_cases hj : j = i
    · rw [hj]; simp only [Function.update_self, Option.map_map]; rfl
    · simp [hj]

/-- It is the tree that moves, and not the layout. -/
theorem placeNode_frame (s : Server) (i : Nat) :
    (s.placeNode i).layout = s.layout ∧ (s.placeNode i).bootstrap = s.bootstrap := by
  unfold placeNode
  split <;> exact ⟨rfl, rfl⟩

theorem width_eq (s : Server) (i : Nat) :
    s.width i = (((s.toplevel i).map (·.win)).elim 0 Window.width) := by
  cases ht : s.toplevel i with
  | none => simp [width, outputSize, ht]
  | some t => rw [width_of_toplevel ht]; rfl

/-- Trees have no part in the row. -/
theorem placeNode_width (s : Server) (i : Nat) : (s.placeNode i).width = s.width := by
  funext j
  rw [width_eq, width_eq, placeNode_win]

/-- To be mapped is to have an output. -/
theorem exists_mapped_iff (s : Server) (i : Nat) :
    (∃ t, s.toplevel i = some t ∧ t.win.output.isSome = true) ↔
      ((s.toplevel i).map (·.win)).any (·.output.isSome) = true := by
  cases s.toplevel i <;> simp

/-- A tree that has just been placed sits where its output sits, if it has one. -/
theorem placeNode_placedAt_of_pos {pos : Point} (h : layoutPos s.layout (.window i) = some pos) :
    (s.placeNode i).PlacedAt i := by
  intro t ht ho
  simp only [placeNode, h, Function.update_self, Option.map_eq_some_iff] at ht ⊢
  obtain ⟨t', -, rfl⟩ := ht
  rfl

namespace Arranged

/-- In the row an output sits behind those in front of it. -/
theorem pos (h : Arranged s ks) (hj : j ∈ ks) : layoutPos s.layout (.window j) =
    some ⟨rowStart s.bootstrap + Row.offset s.width ks j, 0⟩ := by
  rw [h.layout, layoutPos_row _ _ _ hj]

/-- The row is of the mapped toplevels. -/
theorem mem_of_toplevel (h : Arranged s ks) (ht : s.toplevel i = some t) :
    i ∈ ks ↔ t.win.output.isSome = true := by
  rw [h.mem]
  exact ⟨fun ⟨t', ht', ho⟩ => by rw [ht] at ht'; cases ht'; exact ho, fun ho => ⟨t, ht, ho⟩⟩

/-- After `output_layout_reconfigure` the layout is a row. -/
theorem of_reconfigure (os : List LayoutOutput) (hnd : ks.Nodup)
    (hmem : ∀ i, i ∈ ks ↔ ∃ t, s.toplevel i = some t ∧ t.win.output.isSome = true)
    (hos : os.map (·.output) = ks.map .window) (hauto : ∀ o ∈ os, o.autoConfigured = true)
    (hlayout : s.layout =
      outputLayoutReconfigure s.outputSize (bootstrapOutputs s.bootstrap ++ os)) :
    Arranged s ks := by
  refine ⟨hnd, hmem, ?_⟩
  rw [hlayout]
  exact outputLayoutReconfigure_row hnd (fun b hb => by rw [outputSize, Option.mem_def.mp hb]; rfl) hos hauto

/-- Changing the window of a toplevel without (un)mapping it keeps the set of mapped ones. -/
theorem mem_setWindow (h : Arranged s ks) (ht : s.toplevel i = some t)
    (hsome : win'.output.isSome = t.win.output.isSome) (j : Nat) :
    j ∈ ks ↔ ∃ t', (s.setWindow i win').toplevel j = some t' ∧ t'.win.output.isSome = true := by
  by_cases hj : j = i
  · subst hj
    rw [h.mem_of_toplevel ht, setWindow_toplevel_self ht, ← hsome]
    simp
  · rw [h.mem, setWindow_toplevel_of_ne hj]

/-- Placing a tree keeps the row. -/
theorem placeNode (h : Arranged s ks) (i : Nat) : Arranged (s.placeNode i) ks := by
  obtain ⟨hlayout, hboot⟩ := placeNode_frame s i
  refine ⟨h.nodup, fun j => ?_, ?_⟩
  · rw [h.mem, exists_mapped_iff, exists_mapped_iff, placeNode_win]
  · rw [hlayout, hboot, placeNode_width, h.layout]

/-- A toplevel that is not touched is placed after a step iff its offset is as before. -/
theorem placedAt_iff {s' : Server} {ks' : List Nat} (h : Arranged s ks) (h' : Arranged s' ks')
    (hj : j ∈ ks) (hj' : j ∈ ks') (htop : s'.toplevel j = s.toplevel j)
    (hboot : s'.bootstrap = s.bootstrap) (hplaced : s.PlacedAt j) :
    s'.PlacedAt j ↔ Row.offset s'.width ks' j = Row.offset s.width ks j := by
  obtain ⟨t, ht, ho⟩ := (h.mem j).mp hj
  have hnode := hplaced t ht ho
  rw [h.pos hj, Option.some.injEq] at hnode
  constructor
  · intro hp
    have hnode' := hp t (htop.trans ht) ho
    rw [h'.pos hj', hboot, ← hnode] at hnode'
    simpa using hnode'
  · intro hoff t' ht' ho'
    obtain rfl := Option.some.inj ((htop.trans ht).symm.trans ht')
    rw [h'.pos hj', hboot, hoff, hnode]

/-- Which toplevel is the last of the row. -/
theorem getLast?_eq_some_iff (h : Arranged s ks) (hi : i ∈ ks) :
    ks.getLast? = some i ↔ s.IsLast i := by
  obtain ⟨init, k, rfl⟩ := List.eq_nil_or_concat ks |>.resolve_left (List.ne_nil_of_mem hi)
  rw [IsLast, h.layout]
  simp [windowRow]

/-- An unmapped toplevel has no place to keep. -/
theorem placedAt_of_not_mem (h : Arranged s ks) (hj : j ∉ ks) : s.PlacedAt j :=
  fun t ht ho => absurd ((h.mem j).mpr ⟨t, ht, ho⟩) hj

/-- What happens to a toplevel without an output moves nothing. -/
theorem update_unmapped (h : Arranged s ks) (hi : i ∉ ks) (new : Option Toplevel)
    (hnew : ∀ t ∈ new, t.win.output = none) :
    Arranged { s with toplevel := Function.update s.toplevel i new } ks ∧
      (NodesPlaced { s with toplevel := Function.update s.toplevel i new } ↔ NodesPlaced s) := by
  have hold (t : Toplevel) (ht : s.toplevel i = some t) : ¬ t.win.output.isSome = true :=
    fun ho => hi ((h.mem_of_toplevel ht).mpr ho)
  -- an unmapped toplevel has no width, as a missing one
  have hwidth : ({ s with toplevel := Function.update s.toplevel i new } : Server).width =
      s.width := by
    funext j
    simp only [width_eq]
    by_cases hj : j = i
    · subst hj
      rw [Function.update_self]
      have hzero (o : Option Toplevel) (ho : ∀ t ∈ o, t.win.output = none) :
          (o.map (·.win)).elim 0 Window.width = 0 := by
        cases o with
        | none => rfl
        | some t => exact Window.width_of_none (ho t rfl)
      rw [hzero new hnew, hzero (s.toplevel j) fun t ht => by simpa using hold t ht]
    · rw [Function.update_of_ne hj]
  have h' : Arranged { s with toplevel := Function.update s.toplevel i new } ks := by
    refine ⟨h.nodup, fun j => ?_, by rw [hwidth]; exact h.layout⟩
    by_cases hj : j = i
    · subst hj
      refine iff_of_false hi ?_
      rintro ⟨t, ht, ho⟩
      dsimp only at ht
      rw [Function.update_self] at ht
      rw [hnew t ht] at ho; cases ho
    · simp only [h.mem, Function.update_of_ne hj]
  refine ⟨h', forall_congr' fun j => ?_⟩
  by_cases hj : j = i
  · subst hj
    exact iff_of_true (h'.placedAt_of_not_mem hi) (h.placedAt_of_not_mem hi)
  · simp only [PlacedAt, Function.update_of_ne hj]

/-- **No output before, none after**: nothing moves. -/
theorem follow_unmapped (h : Arranged s ks) (ht : s.toplevel i = some t)
    (ho : t.win.output = none) (ho' : win'.output = none) :
    Arranged (s.follow i t.win win') ks ∧
      (NodesPlaced (s.follow i t.win win') ↔ NodesPlaced s) := by
  have hf : s.follow i t.win win' = s.setWindow i win' := by simp [follow, ho, ho']
  have hi : i ∉ ks := fun hi => by
    have := (h.mem_of_toplevel ht).mp hi
    rw [ho] at this; cases this
  rw [hf]
  refine h.update_unmapped hi _ fun t' ht' => ?_
  obtain ⟨t₀, -, rfl⟩ := Option.map_eq_some_iff.mp ht'
  exact ho'

/-- The layout with the new output, before the tree is placed at it. -/
theorem outputLayoutAdd_arranged (h : Arranged s ks) (ht : s.toplevel i = some t)
    (hi : i ∉ ks) (ho' : win'.output.isSome = true) :
    Arranged { s.setWindow i win' with
      layout := outputLayoutAdd (s.setWindow i win').outputSize (s.setWindow i win').layout
        (.window i) ⟨0, 0⟩ true } (ks ++ [i]) := by
  have hnd : (ks ++ [i]).Nodup := List.nodup_append.mpr
    ⟨h.nodup, List.nodup_singleton i, fun a ha b hb => by
      rw [List.mem_singleton.mp hb]; exact fun hai => hi (hai ▸ ha)⟩
  -- it is not in the layout yet
  have hnew : s.layout.any (·.output = .window i) = false := by
    rw [h.layout, List.any_eq_false]
    intro o hmem
    rcases List.mem_append.mp hmem with hmem | hmem
    · simp only [bootstrapOutputs, List.mem_map] at hmem
      obtain ⟨b, -, rfl⟩ := hmem
      simp
    · obtain ⟨k, hk, rfl⟩ := List.mem_map.mp hmem
      have hki : k ≠ i := fun heq => hi (heq ▸ hk)
      simp [hki]
  refine of_reconfigure (windowRow (rowStart s.bootstrap) s.width ks ++
    [⟨.window i, ⟨0, 0⟩, true⟩]) hnd (fun j => ?_) ?_ ?_ ?_
  · rw [List.mem_append, List.mem_singleton]
    change _ ↔ ∃ t', (s.setWindow i win').toplevel j = some t' ∧ _
    by_cases hj : j = i
    · subst hj
      rw [setWindow_toplevel_self ht]
      exact iff_of_true (Or.inr rfl) ⟨_, rfl, ho'⟩
    · rw [setWindow_toplevel_of_ne hj, ← h.mem]
      simp [hj]
  · simp [windowRow]
  · intro o hmem
    rcases List.mem_append.mp hmem with hmem | hmem
    · exact autoConfigured_of_mem_windowRow hmem
    · rw [List.mem_singleton.mp hmem]
  · change outputLayoutAdd _ s.layout _ _ _ = _
    rw [outputLayoutAdd, if_neg (by rw [hnew]; simp), h.layout, List.append_assoc]
    rfl

/-- **A map**: the new output goes to the end of the row, and the tree is placed at it. -/
theorem follow_map (h : Arranged s ks) (ht : s.toplevel i = some t) (ho : t.win.output = none)
    (ho' : win'.output.isSome = true) :
    Arranged (s.follow i t.win win') (ks ++ [i]) ∧
      (NodesPlaced s → NodesPlaced (s.follow i t.win win')) := by
  have hi : i ∉ ks := fun hi => by
    have := (h.mem_of_toplevel ht).mp hi
    rw [ho] at this; cases this
  -- the output is added first, and the tree placed then
  let added : Server := { s.setWindow i win' with
    layout := outputLayoutAdd (s.setWindow i win').outputSize (s.setWindow i win').layout
      (.window i) ⟨0, 0⟩ true }
  have hf : s.follow i t.win win' = added.placeNode i := by simp [follow, ho, ho', added]
  have hadded : Arranged added (ks ++ [i]) := h.outputLayoutAdd_arranged ht hi ho'
  rw [hf]
  refine ⟨hadded.placeNode i, fun hplaced j => ?_⟩
  by_cases hj : j = i
  · subst hj
    exact placeNode_placedAt_of_pos (hadded.pos (List.mem_append_right _ (List.mem_singleton_self _)))
  · by_cases hmem : j ∈ ks
    · -- nothing before the end of the row has moved
      refine (h.placedAt_iff (hadded.placeNode i) hmem (List.mem_append_left _ hmem) ?_ ?_
        (hplaced j)).mpr ?_
      · rw [placeNode_toplevel_of_ne hj]; exact setWindow_toplevel_of_ne hj _
      · exact (placeNode_frame added i).2
      · rw [Row.offset_append_of_mem hmem]
        refine Row.offset_congr fun k hk => ?_
        have hki : k ≠ i := fun heq => hi (heq ▸ hk)
        rw [placeNode_width]
        change (s.setWindow i win').width k = _
        rw [setWindow_width ht, Function.update_of_ne hki]
    · exact (hadded.placeNode i).placedAt_of_not_mem (by simp [hmem, hj])

/-- The layout without the output: the row closes up. -/
theorem outputLayoutRemove_arranged (h : Arranged s ks) (ht : s.toplevel i = some t)
    (ho' : win'.output = none) :
    Arranged { s.setWindow i win' with
      layout := outputLayoutRemove (s.setWindow i win').outputSize (s.setWindow i win').layout
        (.window i) } (ks.filter (· ≠ i)) := by
  refine of_reconfigure ((windowRow (rowStart s.bootstrap) s.width ks).filter
    fun o => o.output ≠ .window i) (h.nodup.filter _) (fun j => ?_) ?_ ?_ ?_
  · change _ ↔ ∃ t', (s.setWindow i win').toplevel j = some t' ∧ _
    rw [List.mem_filter]
    by_cases hj : j = i
    · subst hj
      rw [setWindow_toplevel_self ht]
      simp [ho']
    · rw [setWindow_toplevel_of_ne hj, ← h.mem]
      simp [hj]
  · rw [windowRow, List.filter_map, List.map_map]
    refine congrArg (List.map OutputId.window) (List.filter_congr fun j _ => ?_)
    simp
  · exact fun o hmem => autoConfigured_of_mem_windowRow (List.mem_of_mem_filter hmem)
  · change outputLayoutRemove _ s.layout _ = _
    -- the bootstrap output stays in front
    have hboot : (bootstrapOutputs s.bootstrap).filter (fun o => o.output ≠ .window i) =
        bootstrapOutputs s.bootstrap := by
      refine List.filter_eq_self.mpr fun o hmem => ?_
      obtain ⟨b, -, rfl⟩ := List.mem_map.mp hmem
      simp
    rw [outputLayoutRemove, h.layout, List.filter_append, hboot]
    rfl

/-- **An unmap**: the row closes up, so the windows after it are misplaced. -/
theorem follow_unmap (h : Arranged s ks) (ht : s.toplevel i = some t)
    (ho : t.win.output.isSome = true) (ho' : win'.output = none) :
    Arranged (s.follow i t.win win') (ks.filter (· ≠ i)) ∧
      (NodesPlaced s →
        (NodesPlaced (s.follow i t.win win') ↔ t.win.width = 0 ∨ ks.getLast? = some i)) := by
  have hf : s.follow i t.win win' = { s.setWindow i win' with
      layout := outputLayoutRemove (s.setWindow i win').outputSize (s.setWindow i win').layout
        (.window i) } := by
    simp [follow, ho, ho']
  have hremoved : Arranged (s.follow i t.win win') (ks.filter (· ≠ i)) := by
    rw [hf]
    exact h.outputLayoutRemove_arranged ht ho'
  refine ⟨hremoved, fun hplaced => ?_⟩
  have hi : i ∈ ks := (h.mem_of_toplevel ht).mpr ho
  rw [← width_of_toplevel ht, ← Row.offset_filter_unchanged_iff h.nodup hi]
  refine forall_congr' fun j => ?_
  -- trees behind the gap stay where they were: this is what goes wrong
  by_cases hj : j ∈ ks ∧ j ≠ i
  · obtain ⟨hj, hji⟩ := hj
    have hj' : j ∈ ks.filter (· ≠ i) := List.mem_filter.mpr ⟨hj, by simp [hji]⟩
    have hwidth : Row.offset (s.follow i t.win win').width (ks.filter (· ≠ i)) j =
        Row.offset s.width (ks.filter (· ≠ i)) j := by
      refine Row.offset_congr fun k hk => ?_
      have hki : k ≠ i := by simpa using (List.mem_filter.mp hk).2
      rw [hf]
      change (s.setWindow i win').width k = _
      rw [setWindow_width ht, Function.update_of_ne hki]
    rw [h.placedAt_iff hremoved hj hj' (by rw [hf]; exact setWindow_toplevel_of_ne hji _)
      (by rw [hf]; rfl) (hplaced j), hwidth]
    exact ⟨fun heq _ _ => heq, fun heq => heq hj hji⟩
  · refine iff_of_true (hremoved.placedAt_of_not_mem fun hmem => hj ?_) fun hj' hji => absurd ⟨hj', hji⟩ hj
    obtain ⟨hmem, hji⟩ := List.mem_filter.mp hmem
    exact ⟨hmem, by simpa using hji⟩

/-- **A new mode** leaves the window where it is and moves the windows after it by the change of
its width. -/
theorem follow_mapped (h : Arranged s ks) (ht : s.toplevel i = some t)
    (ho : t.win.output.isSome = true) (ho' : win'.output.isSome = true) :
    Arranged (s.follow i t.win win') ks ∧
      (NodesPlaced s → (s.follow i t.win win').PlacedAt i ∧
        ((∀ j, j ≠ i → (s.follow i t.win win').PlacedAt j) ↔
          win'.width = t.win.width ∨ ks.getLast? = some i)) := by
  have hi : i ∈ ks := (h.mem_of_toplevel ht).mpr ho
  have hf : (s.follow i t.win win').toplevel = (s.setWindow i win').toplevel ∧
      (s.follow i t.win win').bootstrap = s.bootstrap := by
    simp only [follow, ho, ho']
    split <;> exact ⟨rfl, rfl⟩
  have hwidth : (s.follow i t.win win').width = Function.update s.width i win'.width := by
    rw [← setWindow_width ht]
    funext j
    simp only [width, outputSize, hf.1]
  have hmem (j : Nat) : j ∈ ks ↔ ∃ t', (s.follow i t.win win').toplevel j = some t' ∧
      t'.win.output.isSome = true := by
    rw [hf.1]
    exact h.mem_setWindow ht (ho'.trans ho.symm) j
  -- the row is laid out anew if the output's size changed
  have harranged : Arranged (s.follow i t.win win') ks := by
    by_cases hsame : win'.outputSize = t.win.outputSize
    · -- no mode was committed, and the row is as it was
      refine ⟨h.nodup, hmem, ?_⟩
      have hsize : win'.width = t.win.width := by simp only [Window.width, hsame]
      rw [hwidth, hsize, ← width_of_toplevel ht, Function.update_eq_self, hf.2]
      simp only [follow, ho, ho', if_pos hsame]
      exact h.layout
    · refine of_reconfigure (windowRow (rowStart s.bootstrap) s.width ks) h.nodup hmem
        (windowRow_map_output ..) (fun o => autoConfigured_of_mem_windowRow) ?_
      simp only [follow, ho, ho', if_neg hsame]
      rw [show (s.setWindow i win').layout = _ from h.layout]
      rfl
  refine ⟨harranged, fun hplaced => ⟨?_, ?_⟩⟩
  · -- the window's own width does not move it
    intro t' ht' _
    rw [hf.1, setWindow_toplevel_self ht] at ht'
    obtain rfl := Option.some.inj ht'
    have hnode := hplaced i t ht ho
    rw [h.pos hi] at hnode
    rw [harranged.pos hi, hf.2, ← hnode, hwidth]
    rw [Row.offset_self_congr fun a ha => Function.update_of_ne ha _ _]
  · rw [← width_of_toplevel ht, ← Function.update_self i win'.width s.width, ← hwidth,
      ← Row.offset_unchanged_iff h.nodup hi fun a ha => by
        rw [hwidth, Function.update_of_ne ha]]
    refine forall_congr' fun j => ?_
    by_cases hj : j ∈ ks
    · constructor
      · exact fun hp _ hji => (h.placedAt_iff harranged hj hj
          (by rw [hf.1]; exact setWindow_toplevel_of_ne hji _) hf.2 (hplaced j)).mp (hp hji)
      · exact fun hoff hji => (h.placedAt_iff harranged hj hj
          (by rw [hf.1]; exact setWindow_toplevel_of_ne hji _) hf.2 (hplaced j)).mpr (hoff hj hji)
    · exact iff_of_true (fun _ => harranged.placedAt_of_not_mem hj) fun hj' => absurd hj' hj

/-- `surface_commit` on a mapped toplevel: whether it places the tree again or not, only a change of
width moves other windows. -/
theorem surfaceCommit_mapped [CInt] (h : Arranged s ks) (cfg : Config) (now : Int) {win : Window}
    {node : Point} (ht : s.toplevel i = some ⟨win, node⟩) (ho : win.output.isSome = true)
    (ho' : win'.output.isSome = true) (hplaced : NodesPlaced s) :
    let s' := s.follow i win win'
    let s'' := if win.fits cfg now then s'.placeNode i else s'
    Arranged s'' ks ∧ (NodesPlaced s'' ↔ win'.width = win.width ∨ ks.getLast? = some i) := by
  obtain ⟨h', hpl⟩ := h.follow_mapped ht ho ho'
  dsimp only at h' hpl
  obtain ⟨hself, hothers⟩ := hpl hplaced
  have hi : i ∈ ks := (h.mem_of_toplevel ht).mpr ho
  dsimp only
  rw [← hothers]
  split
  · refine ⟨h'.placeNode i, ?_⟩
    rw [nodesPlaced_iff _ i, and_iff_right (placeNode_placedAt_of_pos (h'.pos hi))]
    refine forall₂_congr fun j hj => ?_
    simp only [PlacedAt, placeNode_toplevel_of_ne hj, (placeNode_frame _ i).1]
  · exact ⟨h', by rw [nodesPlaced_iff _ i, and_iff_right hself]⟩

end Arranged

/-! ## Steps -/

/-- The row closes up or opens only at its end: the step keeps the width of the mapped toplevel it
concerns (an unmapped one has none), or that toplevel is the last of the row. -/
def RowKept [CInt] (cfg : Config) (s : Server) : ServerAction → Prop
  | .create _ => True
  | .destroy i => ∀ t ∈ s.toplevel i, t.win.output.isSome = true → t.win.width = 0 ∨ s.IsLast i
  | .event i a => ∀ t ∈ s.toplevel i, ∀ out ∈ t.win.output,
    widthAfter cfg t.win out a = out.size.width ∨ s.IsLast i

instance (s : Server) (i : Nat) : Decidable (s.IsLast i) := by unfold IsLast; infer_instance

instance [CInt] (cfg : Config) (s : Server) : DecidablePred (RowKept cfg s) := fun a => by
  cases a <;> unfold RowKept <;> infer_instance

/-- After the step all trees sit at their own outputs. -/
def StepPlaces [CInt] (cfg : Config) (s : Server) (a : ServerAction) : Prop :=
  ∀ s' ∈ s.step cfg a, NodesPlaced s'

/-- A server whose layout is the row of its mapped toplevels, each in a state of its life cycle. -/
def Tidy (s : Server) : Prop :=
  (∃ ks, Arranged s ks) ∧ ∀ i t, s.toplevel i = some t → Inv t.win

/-- A step of one toplevel is no step of another. -/
theorem follow_toplevel_of_ne (h : j ≠ i) (win win' : Window) :
    (s.follow i win win').toplevel j = s.toplevel j := by
  have hset : (s.setWindow i win').toplevel j = s.toplevel j := setWindow_toplevel_of_ne h win'
  unfold follow
  dsimp only
  split
  · exact hset
  · rw [placeNode_toplevel_of_ne h]; exact hset
  · exact hset
  · split <;> exact hset

/-- The tree may be placed anew in it. -/
theorem follow_toplevel_self (ht : s.toplevel i = some t) (win win' : Window) :
    ∃ node, (s.follow i win win').toplevel i = some ⟨win', node⟩ := by
  have hset := setWindow_toplevel_self ht win'
  have hwin : ((s.follow i win win').toplevel i).map (·.win) = some win' := by
    unfold follow
    dsimp only
    split
    · simp [hset]
    · rw [placeNode_win]; simp [hset]
    · simp [hset]
    · split <;> simp [hset]
  obtain ⟨⟨win'', node⟩, hf, rfl⟩ := Option.map_eq_some_iff.mp hwin
  exact ⟨node, hf⟩

section Steps

variable {cfg : Config} {c : SurfaceCommit} {now : Int} {env : Window.MapEnv}
  {outcome : CommitOutcome}

/-- An unmapped window is not fitted. -/
theorem fits_of_unmapped [CInt] {win : Window} (ho : win.output = none) : win.fits cfg now = false := by
  have hprep := (Window.prepareCommit_prepared cfg win).output.trans ho
  simp only [Window.fits, hprep]

/-- **Commits**: a commit of a mapped toplevel keeps all trees in place iff it does not change the
width of a window that has others after it. One that maps never disturbs anything. -/
theorem commit_placed [CInt] (h : Arranged s ks) (hplaced : NodesPlaced s) (ht : s.toplevel i = some t)
    (hinv : Inv t.win) (hstep : Wlx.step cfg t.win (.commit c now env outcome) = some win') :
    (∃ ks', Arranged (s.commit cfg i t.win c now env outcome) ks') ∧
      (NodesPlaced (s.commit cfg i t.win c now env outcome) ↔
        ∀ out ∈ t.win.output,
          widthAfter cfg t.win out (.commit c now env outcome) = out.size.width ∨ s.IsLast i) := by
  obtain ⟨node, htop⟩ := follow_toplevel_self ht t.win (t.win.applyCommit cfg env c)
  have hsome := Window.surfaceCommit_output cfg now outcome (t.win.applyCommit cfg env c)
  -- without an output, `surface_commit` has nothing to place
  have hquiet {ks' : List Nat} (ho' : (t.win.applyCommit cfg env c).output = none)
      (h' : Arranged (s.follow i t.win (t.win.applyCommit cfg env c)) ks') :
      Arranged (s.commit cfg i t.win c now env outcome) ks' ∧
        (NodesPlaced (s.commit cfg i t.win c now env outcome) ↔
          NodesPlaced (s.follow i t.win (t.win.applyCommit cfg env c))) := by
    have hnone : ((t.win.applyCommit cfg env c).surfaceCommit cfg now outcome).output = none := by
      rw [← Option.not_isSome_iff_eq_none, hsome, ho']; simp
    simp only [commit, fits_of_unmapped ho', Bool.false_eq_true, if_false]
    exact h'.follow_unmapped htop ho' hnone
  cases ho : t.win.output with
  | none =>
    cases ho' : (t.win.applyCommit cfg env c).output with
    | none =>
      obtain ⟨h', hsame⟩ := h.follow_unmapped ht ho ho'
      obtain ⟨h'', hsame'⟩ := hquiet ho' h'
      exact ⟨⟨_, h''⟩, iff_of_true (hsame'.mpr (hsame.mpr hplaced)) (by simp)⟩
    | some out =>
      -- mapped: the new output is the last of the row
      have hmapped : (t.win.applyCommit cfg env c).output.isSome = true := by rw [ho']; rfl
      obtain ⟨h', hpl⟩ := h.follow_map ht ho hmapped
      obtain ⟨h'', hiff⟩ := h'.surfaceCommit_mapped cfg now htop hmapped (hsome.trans hmapped)
        (hpl hplaced)
      exact ⟨⟨_, h''⟩, iff_of_true (hiff.mpr (Or.inr List.getLast?_concat)) (by simp)⟩
  | some out =>
    have hout : t.win.output.isSome = true := by rw [ho]; rfl
    have hi : i ∈ ks := (h.mem_of_toplevel ht).mpr hout
    simp only [Option.mem_def, Option.some.injEq, forall_eq', ← h.getLast?_eq_some_iff hi]
    rw [← width_step hinv ho hstep]
    obtain ⟨-, -, rfl⟩ := step_eq_some.mp hstep
    simp only [handle, Window.wlSurfaceCommit]
    cases hu : t.win.xdg.unmapCommit c with
    | true =>
      have ho' : (t.win.applyCommit cfg env c).output = none := by
        rw [Window.applyCommit_of_unmap cfg env hinv hu]
      have hnone : ((t.win.applyCommit cfg env c).surfaceCommit cfg now outcome).output = none := by
        rw [← Option.not_isSome_iff_eq_none, hsome, ho']; simp
      obtain ⟨h', hpl⟩ := h.follow_unmap ht hout ho'
      obtain ⟨h'', hsame⟩ := hquiet ho' h'
      refine ⟨⟨_, h''⟩, ?_⟩
      rw [hsame, hpl hplaced, Window.width_of_none hnone, Window.width_of_output ho,
        eq_comm (a := (0 : Int))]
    | false =>
      have happ := Window.applyCommit_of_mapped cfg env (hinv.mapped hout) hu
      have ho' : (t.win.applyCommit cfg env c).output = some out := by rw [happ]; exact ho
      have hmapped : (t.win.applyCommit cfg env c).output.isSome = true := by rw [ho']; rfl
      obtain ⟨h', hpl⟩ := h.follow_mapped ht hout hmapped
      have hwidth : (t.win.applyCommit cfg env c).width = t.win.width := by
        rw [Window.width_of_output ho', Window.width_of_output ho]
      have hplaced' := (nodesPlaced_iff _ i).mpr
        ⟨(hpl hplaced).1, (hpl hplaced).2.mpr (Or.inl hwidth)⟩
      obtain ⟨h'', hiff⟩ := h'.surfaceCommit_mapped cfg now htop hmapped (hsome.trans hmapped)
        hplaced'
      rw [Window.width_of_output ho'] at hiff
      exact ⟨⟨_, h''⟩, hiff⟩

/-- A destroyed toplevel leaves the row as an unmapped one does. -/
theorem destroy_placed (h : Arranged s ks) (hplaced : NodesPlaced s) (ht : s.toplevel i = some t) :
    let s' := s.follow i t.win t.win.xdgToplevelUnmap
    let s'' : Server := { s' with toplevel := Function.update s'.toplevel i none }
    (∃ ks', Arranged s'' ks') ∧
      (NodesPlaced s'' ↔ (t.win.output.isSome = true → t.win.width = 0 ∨ s.IsLast i)) := by
  have hnone : t.win.xdgToplevelUnmap.output = none := by
    unfold Window.xdgToplevelUnmap
    split
    · rfl
    · next ho => exact Option.not_isSome_iff_eq_none.mp ho
  -- a toplevel that was never mapped leaves no gap
  cases ho : t.win.output with
  | none =>
    obtain ⟨h', hsame⟩ := h.follow_unmapped ht ho hnone
    have hi : i ∉ ks := fun hi => by
      have := (h.mem_of_toplevel ht).mp hi
      rw [ho] at this; cases this
    obtain ⟨h'', hsame'⟩ := h'.update_unmapped hi none (by simp)
    exact ⟨⟨_, h''⟩, iff_of_true (hsame'.mpr (hsame.mpr hplaced)) (by simp)⟩
  | some out =>
    have hout : t.win.output.isSome = true := by rw [ho]; rfl
    have hi : i ∈ ks := (h.mem_of_toplevel ht).mpr hout
    obtain ⟨h', hpl⟩ := h.follow_unmap ht hout hnone
    obtain ⟨h'', hsame⟩ := h'.update_unmapped (i := i) (by simp) none (by simp)
    exact ⟨⟨_, h''⟩, by
      rw [hsame, hpl hplaced, h.getLast?_eq_some_iff hi]
      simp⟩

/-- Toplevel `i` has changed, to a window of the life cycle or to none. -/
theorem Tidy.of_arranged {s' : Server} (h : Tidy s) (h' : ∃ ks', Arranged s' ks')
    (hne : ∀ j, j ≠ i → s'.toplevel j = s.toplevel j)
    (hself : ∀ t, s'.toplevel i = some t → Inv t.win) : Tidy s' := by
  refine ⟨h', fun j t ht => ?_⟩
  by_cases hj : j = i
  · exact hself t (hj ▸ ht)
  · exact h.2 j t (hne j hj ▸ ht)

/-- Nor is a commit a step of another toplevel. -/
theorem commit_toplevel_of_ne [CInt] (h : j ≠ i) (win : Window) :
    (s.commit cfg i win c now env outcome).toplevel j = s.toplevel j := by
  unfold commit
  dsimp only
  split
  · rw [placeNode_toplevel_of_ne h, follow_toplevel_of_ne h, follow_toplevel_of_ne h]
  · rw [follow_toplevel_of_ne h, follow_toplevel_of_ne h]

/-- To its own toplevel it does what the session of one window says. -/
theorem commit_toplevel_self [CInt] (ht : s.toplevel i = some t) (win : Window) :
    ((s.commit cfg i win c now env outcome).toplevel i).map (·.win) =
      some (win.wlSurfaceCommit cfg now env outcome c) := by
  obtain ⟨node, htop⟩ := follow_toplevel_self ht win (win.applyCommit cfg env c)
  obtain ⟨node', htop'⟩ := follow_toplevel_self htop (win.applyCommit cfg env c)
    ((win.applyCommit cfg env c).surfaceCommit cfg now outcome)
  unfold commit
  dsimp only
  split
  · rw [placeNode_win, htop']; rfl
  · rw [htop']; rfl

/-- Host events and requests: only a mapped toplevel has a place to lose. -/
theorem event_placed [CInt] (h : Arranged s ks) (hplaced : NodesPlaced s) (ht : s.toplevel i = some t)
    (hinv : Inv t.win) {a : Action} (hne : ∀ c now env outcome, a ≠ .commit c now env outcome)
    (hstep : Wlx.step cfg t.win a = some win') :
    (∃ ks', Arranged (s.follow i t.win win') ks') ∧
      (NodesPlaced (s.follow i t.win win') ↔
        ∀ out ∈ t.win.output, widthAfter cfg t.win out a = out.size.width ∨ s.IsLast i) := by
  have hsome : win'.output.isSome = t.win.output.isSome := handle_output_isSome hne hstep
  cases ho : t.win.output with
  | none =>
    have ho' : win'.output = none := by
      rw [← Option.not_isSome_iff_eq_none, hsome, ho]; simp
    obtain ⟨h', hsame⟩ := h.follow_unmapped ht ho ho'
    exact ⟨⟨_, h'⟩, iff_of_true (hsame.mpr hplaced) (by simp)⟩
  | some out =>
    have hout : t.win.output.isSome = true := by rw [ho]; rfl
    have hi : i ∈ ks := (h.mem_of_toplevel ht).mpr hout
    obtain ⟨h', hpl⟩ := h.follow_mapped ht hout (hsome.trans hout)
    obtain ⟨hself, hothers⟩ := hpl hplaced
    refine ⟨⟨_, h'⟩, ?_⟩
    rw [nodesPlaced_iff _ i, and_iff_right hself, hothers, width_step hinv ho hstep,
      Window.width_of_output ho, h.getLast?_eq_some_iff hi]
    simp

/-- **One step keeps all trees in place iff it keeps the row.** One case per kind of step. -/
theorem step_placed [CInt] (h : Tidy s) (hplaced : NodesPlaced s) {a : ServerAction} {s' : Server}
    (hstep : s.step cfg a = some s') : Tidy s' ∧ (NodesPlaced s' ↔ RowKept cfg s a) := by
  obtain ⟨ks, harr⟩ := h.1
  cases a with
  | create i =>
    simp only [step] at hstep
    split at hstep
    · next ht =>
      obtain rfl := Option.some.inj hstep
      have hi : i ∉ ks := fun hi => by
        obtain ⟨t, ht', -⟩ := (harr.mem i).mp hi
        rw [ht] at ht'; cases ht'
      obtain ⟨h', hsame⟩ := harr.update_unmapped hi (some ⟨.fresh, ⟨0, 0⟩⟩)
        fun t ht => by obtain rfl := Option.mem_some_iff.mp ht; rfl
      refine ⟨h.of_arranged (i := i) ⟨_, h'⟩ (fun j hj => Function.update_of_ne hj ..) ?_,
        iff_of_true (hsame.mpr hplaced) trivial⟩
      intro t ht
      obtain rfl : t = ⟨.fresh, ⟨0, 0⟩⟩ := by simpa [eq_comm] using ht
      exact Inv.fresh
    · cases hstep
  | destroy i =>
    obtain ⟨t, ht, rfl⟩ := Option.map_eq_some_iff.mp hstep
    obtain ⟨h', hiff⟩ := destroy_placed harr hplaced ht
    refine ⟨h.of_arranged (i := i) h' (fun j hj => ?_) (fun t ht => ?_), by
      simpa [RowKept, ht] using hiff⟩
    · exact (Function.update_of_ne hj ..).trans (follow_toplevel_of_ne hj _ _)
    · cases (Function.update_self ..).symm.trans ht
  | event i a =>
    obtain ⟨t, ht, hmap⟩ := Option.bind_eq_some_iff.mp hstep
    obtain ⟨win', hwin, rfl⟩ := Option.map_eq_some_iff.mp hmap
    have hinv := h.2 i t ht
    have hkept : RowKept cfg s (.event i a) ↔ ∀ out ∈ t.win.output,
        widthAfter cfg t.win out a = out.size.width ∨ s.IsLast i := by simp [RowKept, ht]
    rw [hkept]
    have hevent (hne : ∀ c now env outcome, a ≠ .commit c now env outcome) :
        Tidy (s.follow i t.win win') ∧ (NodesPlaced (s.follow i t.win win') ↔
          ∀ out ∈ t.win.output, widthAfter cfg t.win out a = out.size.width ∨ s.IsLast i) := by
      obtain ⟨h', hiff⟩ := event_placed harr hplaced ht hinv hne hwin
      refine ⟨h.of_arranged (i := i) h' (fun j hj => follow_toplevel_of_ne hj _ _) ?_, hiff⟩
      intro t' ht'
      obtain ⟨node, htop⟩ := follow_toplevel_self ht t.win win'
      obtain rfl := Option.some.inj (htop.symm.trans ht')
      exact hinv.step hwin
    cases a with
    | commit c now env outcome =>
      obtain ⟨h', hiff⟩ := commit_placed harr hplaced ht hinv hwin
      refine ⟨h.of_arranged (i := i) h' (fun j hj => commit_toplevel_of_ne hj _) ?_, hiff⟩
      intro t' ht'
      have hself : t'.win = t.win.wlSurfaceCommit cfg now env outcome c := by
        have hself := (congrArg (·.map (·.win)) ht').symm.trans (commit_toplevel_self ht t.win)
        rwa [Option.map_some, Option.some.injEq] at hself
      rw [hself]
      exact hinv.step (hwin.trans (congrArg some (step_eq_some.mp hwin).2.2.symm))
    | _ => exact hevent (by simp)

end Steps

/-- The server before the first toplevel. -/
theorem tidy_init (bootstrap : Option Size) : Tidy (init bootstrap) := by
  refine ⟨⟨[], List.nodup_nil, by simp [init], ?_⟩, by simp [init]⟩
  cases bootstrap with
  | none => rfl
  | some b =>
    simp [init, outputLayoutAdd, outputLayoutReconfigure, placeAuto, bootstrapOutputs, windowRow]

/-- No toplevel, no tree to place. -/
theorem nodesPlaced_init (bootstrap : Option Size) : NodesPlaced (init bootstrap) := by
  intro i t ht
  cases ht

/-- A run whose steps all keep the row ends with all trees in place. -/
theorem placed_run [CInt] {cfg : Config} {bootstrap : Option Size} {as : List ServerAction} {s : Server}
    (hkept : Run.Along (step cfg) (RowKept cfg) (init bootstrap) as)
    (hrun : Run.run (step cfg) (init bootstrap) as = some s) : Tidy s ∧ NodesPlaced s :=
  Run.run_invariant_of_along (I := fun s => Tidy s ∧ NodesPlaced s)
    (fun _ _ _ h hk ha =>
      ⟨(step_placed h.1 h.2 ha).1, (step_placed h.1 h.2 ha).2.mpr hk⟩)
    ⟨tidy_init bootstrap, nodesPlaced_init bootstrap⟩ hkept hrun

end Server

/-- **In every run, each mapped toplevel's tree sits at its own output after every step iff every
step keeps the row**: each change of a window's width and each unmap concerns the window that was
mapped last. -/
theorem nodes_follow_layout_iff [CInt] (cfg : Config) (bootstrap : Option Size) (as : List ServerAction)
    (s : Server) (hrun : Run.run (Server.step cfg) (.init bootstrap) as = some s) :
    Run.Along (Server.step cfg) (Server.StepPlaces cfg) (.init bootstrap) as ↔
      Run.Along (Server.step cfg) (Server.RowKept cfg) (.init bootstrap) as := by
  refine Run.along_iff_along (P := fun _ _ => True)
    (I := fun s => Server.Tidy s ∧ Server.NodesPlaced s) ?_ ?_
    ⟨Server.tidy_init bootstrap, Server.nodesPlaced_init bootstrap⟩ ?_ hrun
  · exact fun s a t ⟨h, hplaced⟩ _ hstep ha =>
      ⟨(Server.step_placed h hplaced ha).1, hstep t ha⟩
  · rintro s a t ⟨h, hplaced⟩ - ha
    rw [← (Server.step_placed h hplaced ha).2]
    exact ⟨fun hstep => hstep t ha, fun hp s' hs' => by
      obtain rfl := Option.some.inj (ha.symm.trans hs'); exact hp⟩
  · exact Run.along_of_forall fun _ _ => trivial

/-- Toplevel `i` is created and mapped at `size`. -/
def mapToplevel (i : Nat) (size : Size) : List ServerAction :=
  [.create i, .event i (.commit ⟨.keep, none⟩ 1 ⟨true, 0, .ok⟩ .ok), .event i .sendConfigure,
    .event i (.ackConfigure 0),
    .event i (.commit ⟨.attach size, some ⟨0, 0, size.width, size.height⟩⟩ 2 ⟨true, 0, .ok⟩ .ok)]

/-- Two windows, of which one is then resized by the host to 600×400. -/
def resizeOfTwo (i : Nat) : List ServerAction :=
  mapToplevel 0 ⟨500, 400⟩ ++ mapToplevel 1 ⟨640, 480⟩ ++
    [.event i (.configureNotify ⟨1, ⟨600, 400⟩⟩ [some []] 3 .ok)]

/-- Resizing the first of two windows moves the output of the second, but not its tree. -/
theorem resize_leaves_later_node_behind :
    ¬ ∀ (cfg : Config) (bootstrap : Option Size) (as : List ServerAction) (s : Server),
      Run.run (Server.step cfg) (.init bootstrap) as = some s → s.NodesPlaced := by
  intro h
  have hany : (Run.run (Server.step ⟨1, false⟩) (.init (some ⟨1920, 1080⟩)) (resizeOfTwo 0)).any
      (fun s => (s.toplevel 1).any fun t =>
        t.win.output.isSome &&
          decide (layoutPos s.layout (.window 1) ≠ some t.node)) = true := by decide +kernel
  obtain ⟨s, hrun, hs⟩ := (Option.any_eq_true ..).mp hany
  obtain ⟨t, ht, hmoved⟩ := (Option.any_eq_true ..).mp hs
  simp only [Bool.and_eq_true, decide_eq_true_eq] at hmoved
  exact hmoved.2 (h _ _ _ s hrun 1 t ht hmoved.1)

/-- Resizing the second one, which was mapped last, keeps both trees in place. -/
theorem nodes_follow_layout_iff_last :
    Run.Along (Server.step ⟨1, false⟩) (Server.StepPlaces ⟨1, false⟩) (.init (some ⟨1920, 1080⟩))
      (resizeOfTwo 1) := by
  have hany : (Run.run (Server.step ⟨1, false⟩) (.init (some ⟨1920, 1080⟩)) (resizeOfTwo 1)).isSome =
      true := by decide +kernel
  obtain ⟨s, hrun⟩ := Option.isSome_iff_exists.mp hany
  have hkept : Run.Along (Server.step ⟨1, false⟩) (Server.RowKept ⟨1, false⟩)
      (.init (some ⟨1920, 1080⟩)) (resizeOfTwo 1) := by decide +kernel
  exact (nodes_follow_layout_iff _ _ _ s hrun).mpr hkept

end Wlx
