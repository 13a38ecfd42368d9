import WlX11.Subpresent

/-!
# WlX11 — where an overflowing subsurface is shown

A subsurface gets a present window because it sticks out of its toplevel, often above or to the left.
`subpresent_compute_root` takes its offset through `wlx_scale_size`, which never gives less than one
pixel.

* **`Subpresent.KeepsOffset`** — the window is as far from the toplevel's content as the subsurface is
  in the toplevel's surface.
* **`sync_keepsOffset_iff`** — after a sync, exactly when it is.
-/

namespace Wlx

/-- An X protocol INT16. -/
def FitsInt16 (n : Int) : Prop := -32768 ≤ n ∧ n ≤ 32767

instance (n : Int) : Decidable (FitsInt16 n) := inferInstanceAs (Decidable (_ ∧ _))

theorem toInt16_eq_self_iff {n : Int} : toInt16 n = n ↔ FitsInt16 n := by
  simp only [toInt16, Int.bmod_def, FitsInt16]
  split <;> omega

/-- Where a point `p` of the toplevel's surface is on the root window, if its content window is at
`o`. -/
def PopupWindow.rootOf (cfg : Config) (win : PopupWindow) (o p : Point) : Point :=
  let d := win.contentOrigin cfg
  ⟨o.x + cfg.drawnOffset (p.x - d.x), o.y + cfg.drawnOffset (p.y - d.y)⟩

namespace Subpresent

/-- Each coordinate of the present window that X can express is the subsurface's. -/
def KeepsOffset (cfg : Config) (win : PopupWindow) (o : Point) (sp : Subpresent) : Prop :=
  let root := win.rootOf cfg o sp.offset
  ∃ box ∈ sp.rootBox, (FitsInt16 root.x → box.x = root.x) ∧ (FitsInt16 root.y → box.y = root.y)

instance (cfg : Config) (win : PopupWindow) (o : Point) (sp : Subpresent) :
    Decidable (sp.KeepsOffset cfg win o) :=
  inferInstanceAs (Decidable (∃ _ ∈ _, (_ → _) ∧ (_ → _)))

end Subpresent

/-- A signed offset `k` from a place `o` is not moved by the least size of a pixel: it is a pixel or
more to the right of it, or below, already, or an X coordinate wraps to what it would be. -/
def AxisKept (cfg : Config) (o k : Int) : Prop :=
  FitsInt16 (o + cfg.drawnOffset k) →
    cfg.contentScale ≤ 0 ∨ 1 ≤ cfg.drawnOffset k ∨ cfg.drawnOffset k ≡ 1 [ZMOD 65536]

theorem Config.drawnOffset_unscaled {cfg : Config} (h : cfg.contentScale ≤ 0) (k : Int) :
    cfg.drawnOffset k = k := by
  unfold Config.drawnOffset Config.drawScale
  rw [if_neg (by linarith), mul_one]
  exact lround_intCast k

theorem Config.wlxScaleSize_eq_max {cfg : Config} (h : ¬ cfg.contentScale ≤ 0) (k : Int) :
    wlxScaleSize cfg k = max 1 (cfg.drawnOffset k) := by
  rw [wlxScaleSize_of_pos h, Config.drawnOffset, Config.drawScale, if_pos (by linarith)]

theorem axisKept_iff {cfg : Config} {o k : Int} :
    AxisKept cfg o k ↔
      (FitsInt16 (o + cfg.drawnOffset k) →
        toInt16 (o + wlxScaleSize cfg k) = o + cfg.drawnOffset k) := by
  refine forall_congr' fun hfits => ?_
  have hroot := toInt16_eq_self_iff.mpr hfits
  have hmod : toInt16 (o + wlxScaleSize cfg k) = o + cfg.drawnOffset k ↔
      wlxScaleSize cfg k ≡ cfg.drawnOffset k [ZMOD 65536] := by
    rw [toInt16_eq_iff]
    exact ⟨fun h => Int.ModEq.add_left_cancel' o h.2, fun h => ⟨hroot, h.add_left o⟩⟩
  -- the offset as scaled and as drawn, modulo the 16 bits that X sends
  rw [hmod]
  by_cases hscale : cfg.contentScale ≤ 0
  · rw [Config.drawnOffset_unscaled hscale, wlxScaleSize, if_pos hscale]
    exact ⟨fun _ => Int.ModEq.rfl, fun _ => Or.inl hscale⟩
  · rw [Config.wlxScaleSize_eq_max hscale]
    by_cases hpos : 1 ≤ cfg.drawnOffset k
    · rw [max_eq_right hpos]
      exact ⟨fun _ => Int.ModEq.rfl, fun _ => Or.inr (Or.inl hpos)⟩
    · -- the clamp gives 1, whatever the offset is
      rw [max_eq_left (by omega)]
      constructor
      · rintro (h | h | h)
        · exact absurd h hscale
        · exact absurd h hpos
        · exact h.symm
      · exact fun h => Or.inr (Or.inr h.symm)

/-! ## One placement -/

/-- What a subpresent with a known toplevel is placed at. -/
theorem Subpresent.positionAndPresent_rootBox {cfg : Config} {win : PopupWindow} {surf : SurfaceState}
    {created : Option Nat} {sp sp' : Subpresent}
    (h : sp.positionAndPresent cfg win surf created = some sp') :
    sp'.surface = sp.surface ∧ sp'.offset = sp.offset ∧ sp'.parent = sp.parent ∧
      ∃ box, sp.computeRoot cfg win surf = some box ∧
        sp'.rootBox = some (renderAndPresent cfg surf box) := by
  -- a window that is made for it leaves the rest of the entry
  have hcreate : ∀ sp₁, sp.createXpresent created = some sp₁ →
      sp₁.surface = sp.surface ∧ sp₁.offset = sp.offset ∧ sp₁.parent = sp.parent := by
    intro sp₁ h₁
    unfold createXpresent at h₁
    cases hx : sp.xpresent with
    | some p =>
      simp only [hx, Option.some.injEq] at h₁
      rw [← h₁]
      exact ⟨rfl, rfl, rfl⟩
    | none =>
      simp only [hx, Option.map_eq_some_iff] at h₁
      obtain ⟨p, -, rfl⟩ := h₁
      exact ⟨rfl, rfl, rfl⟩
  unfold positionAndPresent at h
  split at h
  · obtain ⟨box, hbox, h⟩ := Option.bind_eq_some_iff.mp h
    obtain ⟨sp₁, h₁, rfl⟩ := Option.map_eq_some_iff.mp h
    obtain ⟨hsurface, hoffset, hparent⟩ := hcreate sp₁ h₁
    exact ⟨hsurface, hoffset, hparent, box, hbox, rfl⟩
  · cases h

@[simp] theorem shownBox_x (cfg : Config) (buffer : Option Size) (box : Box) :
    (shownBox cfg buffer box).x = box.x := by
  unfold shownBox
  split
  · split <;> rfl
  · rfl

@[simp] theorem shownBox_y (cfg : Config) (buffer : Option Size) (box : Box) :
    (shownBox cfg buffer box).y = box.y := by
  unfold shownBox
  split
  · split <;> rfl
  · rfl

/-- Wherever the program places a subpresent: at a sync, at a commit of its surface, after the host
has moved the toplevel. -/
theorem Subpresent.positionAndPresent_keepsOffset_iff {cfg : Config} {win : PopupWindow}
    {surf : SurfaceState} {created : Option Nat} {sp sp' : Subpresent} {o : Point}
    (hroot : win.contentRoot = some o)
    (h : sp.positionAndPresent cfg win surf created = some sp') :
    sp'.KeepsOffset cfg win o ↔
      AxisKept cfg o.x (sp'.offset.x - (win.contentOrigin cfg).x) ∧
        AxisKept cfg o.y (sp'.offset.y - (win.contentOrigin cfg).y) := by
  obtain ⟨-, hoffset, -, box, hbox, hshown⟩ := positionAndPresent_rootBox h
  -- the box it is placed at
  have hplace : box.x = toInt16 (o.x + wlxScaleSize cfg (sp.offset.x - (win.contentOrigin cfg).x)) ∧
      box.y = toInt16 (o.y + wlxScaleSize cfg (sp.offset.y - (win.contentOrigin cfg).y)) := by
    unfold computeRoot at hbox
    rw [hroot, Option.map_some] at hbox
    split at hbox
    · cases hbox
    · rw [← Option.some.inj hbox]
      exact ⟨rfl, rfl⟩
  rw [axisKept_iff, axisKept_iff, hoffset]
  unfold KeepsOffset renderAndPresent at *
  simp only [hshown, hoffset, Option.mem_def, Option.some.injEq, exists_eq_left', shownBox_x,
    shownBox_y, hplace, PopupWindow.rootOf]

/-! ## A sync -/

namespace Subpresents

section Sync

variable {cfg : Config} {surfaces : Nat → Option SurfaceState} {env : Nat → SubpresentEnv}
  {win : SubWindow} {s : Subpresents}

/-- The subpresent has been placed where its surface is in the tree of the toplevel. -/
def PlacedBy (cfg : Config) (surfaces : Nat → Option SurfaceState) (win : SubWindow)
    (sp : Subpresent) : Prop :=
  (sp.surface, sp.offset) ∈ overflowing surfaces win ∧
    ∃ surf created sp₀, Subpresent.positionAndPresent cfg win.place surf created sp₀ = some sp

theorem mem_overflowing_surface {x : Nat × Point} (hx : x ∈ overflowing surfaces win) :
    ∃ surf, surfaces x.1 = some surf ∧ surf.mapped = true ∧ 0 < surf.size.width ∧
      0 < surf.size.height := by
  obtain ⟨-, hover⟩ := List.mem_filter.mp hx
  cases hs : surfaces x.1 with
  | none => simp [hs] at hover
  | some surf =>
    simp only [hs, Option.any_some, Bool.and_eq_true, decide_eq_true_eq] at hover
    exact ⟨surf, rfl, hover.2.1.1.1, hover.2.1.1.2, hover.2.1.2⟩

/-- A subpresent that could not be placed has no present window. -/
theorem xpresent_eq_none_of_unplaced {sp : Subpresent} {place : PopupWindow} {surf : SurfaceState}
    {created : Option Nat} (hmapped : surf.mapped = true) (hw : 0 < surf.size.width)
    (hh : 0 < surf.size.height) (hroot : place.contentRoot.isSome = true)
    (h : sp.positionAndPresent cfg place surf created = none) : sp.xpresent = none := by
  obtain ⟨o, ho⟩ := Option.isSome_iff_exists.mp hroot
  unfold Subpresent.positionAndPresent Subpresent.computeRoot at h
  rw [if_pos hmapped, if_neg (by omega), ho, Option.map_some, Option.bind_some,
    Option.map_eq_none_iff] at h
  unfold Subpresent.createXpresent at h
  cases hx : sp.xpresent with
  | none => rfl
  | some p =>
    rw [hx] at h
    cases h

/-- What holds of the entries noted so far while the tree is walked. -/
def NotedPlaced (cfg : Config) (surfaces : Nat → Option SurfaceState) (win : SubWindow)
    (acc : Subpresents × List Nat) : Prop :=
  ∀ sp ∈ acc.1.entries, sp.surface ∈ acc.2 → sp.xpresent.isSome = true →
    PlacedBy cfg surfaces win sp

theorem NotedPlaced.syncIterator {acc : Subpresents × List Nat} {x : Nat × Point}
    (h : NotedPlaced cfg surfaces win acc) (hroot : win.place.contentRoot.isSome = true)
    (hx : x ∈ overflowing surfaces win) :
    NotedPlaced cfg surfaces win (Subpresents.syncIterator cfg surfaces env win acc x) := by
  obtain ⟨surf, hsurf, hmapped, hw, hh⟩ := mem_overflowing_surface hx
  -- an entry that is not the surface's own was noted before, if it is now
  have hbefore : ∀ e ∈ acc.1.entries, e.surface ≠ x.1 → e.surface ∈ acc.2 ++ [x.1] →
      e.xpresent.isSome = true → PlacedBy cfg surfaces win e := by
    intro e he hne hnoted
    rcases List.mem_append.mp hnoted with hnoted | hnoted
    · exact h e he hnoted
    · exact absurd (List.mem_singleton.mp hnoted) hne
  unfold Subpresents.syncIterator
  split
  · cases hget : acc.1.getOrCreate win x.1 x.2 (env x.1).memory with
    | none =>
      intro e he hnoted hpresent
      refine hbefore e he ?_ hnoted hpresent
      -- there was no memory, so there is no entry for the surface
      unfold getOrCreate at hget
      cases hfind : acc.1.find x.1 with
      | some sp₀ =>
        rw [hfind] at hget
        cases hget
      | none =>
        have hne := List.find?_eq_none.mp hfind e he
        simpa using hne
    | some r =>
      obtain ⟨s', sp⟩ := r
      obtain ⟨hsurface, hoffset, hentries⟩ := getOrCreate_entries hget
      simp only [hsurf]
      unfold Subpresents.positionAndPresent
      cases hplaced : sp.positionAndPresent cfg win.place surf (env x.1).xpresent with
      | none =>
        intro e he hnoted hpresent
        rcases hentries e he with rfl | ⟨he, hne⟩
        · rw [xpresent_eq_none_of_unplaced hmapped hw hh hroot hplaced] at hpresent
          cases hpresent
        · exact hbefore e he hne hnoted hpresent
      | some sp' =>
        obtain ⟨hsurface', hoffset', -, -⟩ := Subpresent.positionAndPresent_rootBox hplaced
        have hset : ∀ e ∈ (s'.set sp').entries, e.surface ∈ acc.2 ++ [x.1] →
            e.xpresent.isSome = true → PlacedBy cfg surfaces win e := by
          intro e he hnoted hpresent
          rcases mem_set he with rfl | ⟨he, hne⟩
          · refine ⟨?_, surf, _, sp, hplaced⟩
            rw [hsurface', hoffset', hsurface, hoffset]
            exact hx
          · rcases hentries e he with rfl | ⟨he, hne'⟩
            · exact absurd hsurface'.symm hne
            · exact hbefore e he hne' hnoted hpresent
        unfold setSceneEnabled
        dsimp only
        split
        · exact hset
        · exact hset
  · exact h

theorem NotedPlaced.foldl (hroot : win.place.contentRoot.isSome = true) (xs : List (Nat × Point))
    (hxs : ∀ x ∈ xs, x ∈ overflowing surfaces win) (acc : Subpresents × List Nat)
    (h : NotedPlaced cfg surfaces win acc) :
    NotedPlaced cfg surfaces win
      (xs.foldl (Subpresents.syncIterator cfg surfaces env win) acc) := by
  induction xs generalizing acc with
  | nil => exact h
  | cons x xs ih =>
    rw [List.forall_mem_cons] at hxs
    exact ih hxs.2 _ (h.syncIterator hroot hxs.1)

/-- Every present window that a sync leaves a toplevel is that of a subsurface that overflows, and
has been placed by it. -/
theorem placedBy_of_mem_sync {sp : Subpresent} (hroot : win.place.contentRoot.isSome = true)
    (hsp : sp ∈ (s.sync cfg surfaces env win).entries) (hparent : sp.parent = win.id)
    (hpresent : sp.xpresent.isSome = true) : PlacedBy cfg surfaces win sp := by
  unfold sync at hsp
  split at hsp
  · have hnoted : NotedPlaced cfg surfaces win
        ((overflowing surfaces win).foldl (Subpresents.syncIterator cfg surfaces env win) (s, [])) := by
      apply NotedPlaced.foldl hroot _ (fun x hx => hx)
      intro e _ he
      cases he
    -- what the walk did not note is destroyed
    obtain ⟨hmem, hkeep⟩ := List.mem_filter.mp hsp
    simp only [hparent, decide_true, Bool.true_and, Bool.not_not, List.contains_iff_mem] at hkeep
    exact hnoted sp hmem hkeep hpresent
  · obtain ⟨-, hkeep⟩ := List.mem_filter.mp hsp
    simp [hparent] at hkeep

variable (cfg surfaces env win s) in
/-- **The offset of a subsurface, to any depth.** The present window a sync leaves a toplevel is that
of a subsurface at `sp.offset` in the toplevel's surface; it keeps that offset exactly if, on both
axes, it is a pixel or more to the right of, or below, where the content begins. -/
theorem sync_keepsOffset_iff (sp : Subpresent) {o : Point} (hroot : win.place.contentRoot = some o)
    (hsp : sp ∈ (s.sync cfg surfaces env win).entries) (hparent : sp.parent = win.id)
    (hpresent : sp.xpresent.isSome = true) :
    (sp.surface, sp.offset) ∈ overflowing surfaces win ∧
      (sp.KeepsOffset cfg win.place o ↔
        AxisKept cfg o.x (sp.offset.x - (win.place.contentOrigin cfg).x) ∧
          AxisKept cfg o.y (sp.offset.y - (win.place.contentOrigin cfg).y)) := by
  have hknown : win.place.contentRoot.isSome = true := by
    rw [hroot]
    rfl
  obtain ⟨hmem, surf, created, sp₀, hplaced⟩ := placedBy_of_mem_sync hknown hsp hparent hpresent
  exact ⟨hmem, Subpresent.positionAndPresent_keepsOffset_iff hroot hplaced⟩

/-- A toplevel whose menu hangs on its menu bar, above or below it. -/
def menuWindow (dy : Int) : SubWindow where
  id := 0
  output := true
  place := ⟨some ⟨100, 300⟩, ⟨0, 0, 640, 480⟩⟩
  tree := .mk 0 ⟨0, 0⟩ [] [.mk 1 ⟨40, dy⟩ [] []]

def menuSurfaces (surface : Nat) : Option SurfaceState :=
  if surface = 0 then some ⟨true, ⟨640, 480⟩, some ⟨640, 480⟩⟩
  else some ⟨true, ⟨200, 280⟩, some ⟨200, 280⟩⟩

def menuPresent (dy : Int) : Subpresent :=
  ⟨1, 0, some 7, some 7, some 7, ⟨40, dy⟩, some ⟨140, 300 + max 1 dy, 200, 280⟩, false⟩

theorem menu_below_kept :
    (1, ⟨40, 400⟩) ∈ overflowing menuSurfaces (menuWindow 400) ∧
      ((menuPresent 400).KeepsOffset ⟨1, true⟩ (menuWindow 400).place ⟨100, 300⟩ ↔
        AxisKept ⟨1, true⟩ 100 (40 - 0) ∧ AxisKept ⟨1, true⟩ 300 (400 - 0)) :=
  sync_keepsOffset_iff ⟨1, true⟩ menuSurfaces (fun _ => ⟨true, true, some 7⟩) (menuWindow 400)
    ⟨[], fun _ => false, []⟩ (menuPresent 400) rfl (by decide +kernel) rfl rfl

/-- A menu above the window's edge is shown one pixel below it. -/
theorem menu_above_moved : ¬ ∀ (cfg : Config) (surfaces : Nat → Option SurfaceState)
    (env : Nat → SubpresentEnv) (win : SubWindow) (s : Subpresents) (sp : Subpresent) (o : Point),
    win.place.contentRoot = some o → sp ∈ (s.sync cfg surfaces env win).entries →
      sp.parent = win.id → sp.xpresent.isSome = true → sp.KeepsOffset cfg win.place o := by
  intro h
  have hmenu := h ⟨1, true⟩ menuSurfaces (fun _ => ⟨true, true, some 7⟩) (menuWindow (-280))
    ⟨[], fun _ => false, []⟩ (menuPresent (-280)) ⟨100, 300⟩ rfl (by decide +kernel) rfl rfl
  exact absurd hmenu (by decide +kernel)

end Sync

end Subpresents

end Wlx
