import WlX11.SizeHints
import Mathlib.Algebra.Order.Archimedean.Basic

/-!
# WlX11 — what scaling loses

A client that follows the host makes itself as large as the unscaled host size, and a host that follows
the client makes the window as large as the scaled client size. Both conversions round, so a size that is
handed to and fro could grow or shrink a little each time.

* **`SizePair`** — the two sizes, and a step in which one side follows the other.
* **`roundTrip_iff`** — a scaled size comes back exactly from a scale of 1 on; **`roundTrip_int32`** — also as
  a 32-bit `int`, if it does not wrap around.
* **`wlxSizes_settle`** — whoever follows whom, neither side ever has a size but its own first, the
  other's first, and the one that came back.
-/

namespace Wlx

/-- One side of a window as the host and as the client has it. -/
structure SizePair where
  host : Int
  client : Int
deriving DecidableEq

/-- Who takes the other's size. -/
inductive Follower
  | client
  | host
deriving DecidableEq

/-- The client obeys the unscaled host size, or the host the scaled client size. -/
def SizePair.follow (cfg : Config) (p : SizePair) : Follower → SizePair
  | .client => { p with client := wlxUnscaleSize cfg p.host }
  | .host => { p with host := wlxScaleSize cfg p.client }

def SizePair.step (cfg : Config) (p : SizePair) (f : Follower) : Option SizePair := some (p.follow cfg f)

/-- What a pair that started as `p` may be: each side has the size it had, the one the other had, or what
became of its own at the other. -/
structure SizePair.Near (cfg : Config) (p q : SizePair) : Prop where
  host : q.host ∈ [p.host, wlxScaleSize cfg p.client, wlxScaleSize cfg (wlxUnscaleSize cfg p.host)]
  client : q.client ∈ [p.client, wlxUnscaleSize cfg p.host, wlxUnscaleSize cfg (wlxScaleSize cfg p.client)]

section ScaleRange

variable {cfg : Config}

/-! ## There and back -/

/-- To unscale is to scale by the inverse. -/
theorem wlxUnscaleSize_eq_wlxScaleSize (inv : Config) (hscale : 0 < cfg.contentScale)
    (hinv : inv.contentScale = cfg.contentScale⁻¹) (n : Int) :
    wlxUnscaleSize cfg n = wlxScaleSize inv n := by
  have hinvpos : 0 < inv.contentScale := hinv ▸ inv_pos.mpr hscale
  unfold wlxUnscaleSize wlxScaleSize
  rw [if_neg (not_le.mpr hscale), if_neg (not_le.mpr hinvpos), hinv, div_eq_mul_inv]

/-- Down to a scale of 1, host sizes are the ones that come back. -/
theorem wlxScaleSize_unscale (hpos : 0 < cfg.contentScale) (hscale : cfg.contentScale ≤ 1) {n : Int}
    (hn : 1 ≤ n) : wlxScaleSize cfg (wlxUnscaleSize cfg n) = n := by
  let inv : Config := ⟨cfg.contentScale⁻¹, cfg.preferCsd⟩
  have hinvpos : 0 < inv.contentScale := inv_pos.mpr hpos
  have hback : cfg.contentScale = inv.contentScale⁻¹ := (inv_inv _).symm
  rw [wlxUnscaleSize_eq_wlxScaleSize inv hpos rfl,
    ← wlxUnscaleSize_eq_wlxScaleSize cfg hinvpos hback]
  exact wlxUnscaleSize_scale ((one_le_inv₀ hpos).mpr hscale) hn

theorem wlxScaleSize_le (hpos : 0 < cfg.contentScale) (n : Int) :
    (wlxScaleSize cfg n : ℚ) ≤ max 1 (n * cfg.contentScale + 1 / 2) := by
  unfold wlxScaleSize
  rw [if_neg (not_le.mpr hpos)]
  push_cast
  exact max_le_max_left 1 (lround_bounds _).2

/-- Sizes that come back are scaled to different sizes, so the sizes up to `n` need `n` of them. -/
theorem le_wlxScaleSize_of_roundTrip
    (hback : ∀ n : Int, 1 ≤ n → wlxUnscaleSize cfg (wlxScaleSize cfg n) = n) {n : Int} (hn : 1 ≤ n) :
    n ≤ wlxScaleSize cfg n := by
  induction n, hn using Int.leInduction with
  | base => exact wlxScaleSize_pos cfg one_pos
  | succ n hn ih =>
    have hmono : wlxScaleSize cfg n ≤ wlxScaleSize cfg (n + 1) := wlxScaleSize_mono (by omega)
    -- the next size is not scaled to a smaller one, nor to the same
    have hne : wlxScaleSize cfg n ≠ wlxScaleSize cfg (n + 1) := by
      intro hsame
      have hn' := hback n hn
      rw [hsame, hback (n + 1) (by omega)] at hn'
      omega
    omega

/-- **The exact range.** Below a scale of 1 there are fewer host sizes than client sizes. -/
theorem roundTrip_iff (hpos : 0 < cfg.contentScale) :
    (∀ n : Int, 1 ≤ n → wlxUnscaleSize cfg (wlxScaleSize cfg n) = n) ↔ 1 ≤ cfg.contentScale := by
  constructor
  · intro hback
    by_contra hlt
    -- from some `n` on, `n` sizes no longer fit into `n` times the scale, rounded up
    have hgap : 0 < 1 - cfg.contentScale := by linarith
    obtain ⟨n, hn⟩ := exists_nat_gt (1 / (1 - cfg.contentScale))
    have hn' : 1 < n * (1 - cfg.contentScale) := (div_lt_iff₀ hgap).mp hn
    have hlarge : (1 : ℚ) < n := by nlinarith
    have hge : ((n : Int) : ℚ) ≤ wlxScaleSize cfg n := by
      exact_mod_cast le_wlxScaleSize_of_roundTrip hback (by exact_mod_cast hlarge.le)
    have hle := wlxScaleSize_le hpos n
    push_cast at hge hle
    rcases le_max_iff.mp (hge.trans hle) with hone | hhalf
    · linarith
    · linarith
  · exact fun hscale n hn => wlxUnscaleSize_scale hscale hn

/-- With 32-bit `int`s a size comes back as well, if it does not wrap around on the host. -/
theorem roundTrip_int32 (hscale : 1 ≤ cfg.contentScale) {n : Int} (hn : 1 ≤ n)
    (hfits : CInt.Fits (lround (n * cfg.contentScale))) :
    @wlxUnscaleSize CInt.int32 cfg (@wlxScaleSize CInt.int32 cfg n) = n := by
  have hpos : 0 < cfg.contentScale := by linarith
  have hback := wlxUnscaleSize_scale hscale hn
  -- no side is larger than what it is scaled to, so the one that comes back fits as well
  have hle : n ≤ wlxScaleSize cfg n :=
    le_wlxScaleSize_of_roundTrip (fun m hm => wlxUnscaleSize_scale hscale hm) hn
  have hfits' : CInt.Fits (lround (wlxScaleSize cfg n / cfg.contentScale)) := by
    have hscaled := wlxScaleSize_of_pos (not_le.mpr hpos) n
    have hunscaled := wlxUnscaleSize_of_pos (not_le.mpr hpos) (wlxScaleSize cfg n)
    rw [hback] at hunscaled
    have hnonneg : 0 ≤ lround (wlxScaleSize cfg n / cfg.contentScale) := by
      refine lround_nonneg (div_nonneg ?_ hpos.le)
      exact_mod_cast (by omega : 0 ≤ wlxScaleSize cfg n)
    unfold CInt.Fits at hfits ⊢
    omega
  rw [wlxScaleSize_int32 hfits, wlxUnscaleSize_int32 hfits', hback]

/-! ## To and fro -/

/-- A size that was unscaled once is not changed by scaling it and back, whatever the scale. -/
theorem unscale_scale_unscale (hpos : 0 < cfg.contentScale) {n : Int} (hn : 1 ≤ n) :
    wlxUnscaleSize cfg (wlxScaleSize cfg (wlxUnscaleSize cfg n)) = wlxUnscaleSize cfg n := by
  rcases le_total 1 cfg.contentScale with hscale | hscale
  · exact wlxUnscaleSize_scale hscale (one_le_wlxUnscaleSize hscale n)
  · rw [wlxScaleSize_unscale hpos hscale hn]

theorem scale_unscale_scale (hpos : 0 < cfg.contentScale) {n : Int} (hn : 1 ≤ n) :
    wlxScaleSize cfg (wlxUnscaleSize cfg (wlxScaleSize cfg n)) = wlxScaleSize cfg n := by
  rcases le_total 1 cfg.contentScale with hscale | hscale
  · rw [wlxUnscaleSize_scale hscale hn]
  · exact wlxScaleSize_unscale hpos hscale (wlxScaleSize_pos cfg hn)

theorem SizePair.Near.refl (p : SizePair) : p.Near cfg p :=
  ⟨List.mem_cons_self, List.mem_cons_self⟩

/-- One side follows the other. -/
theorem SizePair.Near.follow (hpos : 0 < cfg.contentScale) {p q : SizePair} (hhost : 1 ≤ p.host)
    (hclient : 1 ≤ p.client) (h : p.Near cfg q) (f : Follower) : p.Near cfg (q.follow cfg f) := by
  have hh := h.host
  have hc := h.client
  simp only [List.mem_cons, List.not_mem_nil, or_false] at hh hc
  cases f with
  | client =>
    refine ⟨h.host, ?_⟩
    show wlxUnscaleSize cfg q.host ∈ _
    rcases hh with hown | hother | hback
    · rw [hown]
      simp
    · rw [hother]
      simp
    · -- the host has a size that came from its own: it is unscaled as that was
      rw [hback, unscale_scale_unscale hpos hhost]
      simp
  | host =>
    refine ⟨?_, h.client⟩
    show wlxScaleSize cfg q.client ∈ _
    rcases hc with hown | hother | hback
    · rw [hown]
      simp
    · rw [hother]
      simp
    · -- and the other way round
      rw [hback, scale_unscale_scale hpos hclient]
      simp

theorem SizePair.Near.run (hpos : 0 < cfg.contentScale) {p q : SizePair} (hhost : 1 ≤ p.host)
    (hclient : 1 ≤ p.client) {fs : List Follower} (hrun : Run.run (SizePair.step cfg) p fs = some q) :
    p.Near cfg q := by
  refine Run.run_invariant (I := p.Near cfg) ?_ (SizePair.Near.refl p) hrun
  intro s f t hs hstep
  cases hstep
  exact hs.follow hpos hhost hclient f

/-- **Scaling and unscaling.** Both keep the order of sizes; what is scaled is unscaled to itself exactly
from a scale of 1 on; and host and client that follow each other, in any order, stay with the sizes the
first exchange gave them. -/
theorem wlxSizes_settle (cfg : Config) (hscale : 0 < cfg.contentScale) :
    (∀ m n : Int, m ≤ n →
        wlxScaleSize cfg m ≤ wlxScaleSize cfg n ∧ wlxUnscaleSize cfg m ≤ wlxUnscaleSize cfg n) ∧
      ((∀ n : Int, 1 ≤ n → wlxUnscaleSize cfg (wlxScaleSize cfg n) = n) ↔ 1 ≤ cfg.contentScale) ∧
        ∀ (p q : SizePair) (fs : List Follower), 1 ≤ p.host → 1 ≤ p.client →
          Run.run (SizePair.step cfg) p fs = some q → p.Near cfg q := by
  refine ⟨fun m n h => ⟨wlxScaleSize_mono h, wlxUnscaleSize_mono h⟩, roundTrip_iff hscale, ?_⟩
  intro p q fs hhost hclient hrun
  exact SizePair.Near.run hscale hhost hclient hrun

end ScaleRange

/-- Half as large again: a host window of 100 pixels becomes one of 101, and stays it. -/
theorem wlxSizes_settle_threeHalves : ∃ cfg : Config, cfg.contentScale = 3 / 2 ∧
    (∀ m n : Int, m ≤ n →
        wlxScaleSize cfg m ≤ wlxScaleSize cfg n ∧ wlxUnscaleSize cfg m ≤ wlxUnscaleSize cfg n) ∧
      ((∀ n : Int, 1 ≤ n → wlxUnscaleSize cfg (wlxScaleSize cfg n) = n) ↔ 1 ≤ cfg.contentScale) ∧
        ∀ (p q : SizePair) (fs : List Follower), 1 ≤ p.host → 1 ≤ p.client →
          Run.run (SizePair.step cfg) p fs = some q → p.Near cfg q :=
  ⟨⟨3 / 2, false⟩, rfl, wlxSizes_settle ⟨3 / 2, false⟩ (by norm_num)⟩

example : Run.run (SizePair.step ⟨3 / 2, false⟩) ⟨100, 1⟩ [.client, .host, .client, .host] =
    some ⟨101, 67⟩ := by decide +kernel

end Wlx
