import WlX11.InboundDrag

/-!
# WlX11 — imports, whole or not at all

An X11 owner answers a conversion by storing the text in a property of the clipboard window, or
announces with the type `INCR` that it comes in pieces. The bridge reads at most `WLX_CLIPBOARD_MAX`
bytes of the property and does not look at `bytes_after`; only the two selections' handler looks for
`INCR`.

* **`ImportPath.WholeOrNothing`** — a property that holds a whole text of at most `WLX_CLIPBOARD_MAX`
  bytes is offered to Wayland, and of any other nothing is.
* **`wholeOrNothing_iff`** — on each path, exactly for which properties it is so.
-/

namespace Wlx

/-- What a conversion was asked for. -/
inductive ImportPath where
  | selection (sel : Selection)
  /-- an inbound drop -/
  | drop
deriving DecidableEq

/-- The property holds all of the text, and the bridge would take a text of this length. -/
def PropertyReply.Complete (stored : PropertyReply) : Prop :=
  stored.type ≠ .incr ∧ stored.value.length ≤ wlxClipboardMax

instance (stored : PropertyReply) : Decidable stored.Complete := inferInstanceAs (Decidable (_ ∧ _))

namespace ImportPath

/-- The Wayland selection the text goes to. -/
def target : ImportPath → Selection
  | selection sel => sel
  | drop => .clipboard

/-- The answer to the bridge's conversion. -/
def event (clipboardWindow : XWindow) : ImportPath → SelectionNotify
  | selection sel => ⟨clipboardWindow, sel.toAtom, some sel.property⟩
  | drop => ⟨clipboardWindow, .xdndSelection, some .wlxDnd⟩

/-- The `SelectionNotify` branch of `handle_xcb_readable`, with `stored` in the property named. -/
def importText (path : ImportPath) (stored : Option PropertyReply) (env : ImportEnv) (s : Bridge) :
    Bridge :=
  s.handleSelectionNotify (path.event s.clipboardWindow) (stored.map (·.cut)) (stored.map (·.cut)) env

/-- The text a handler passes on to be offered. -/
def taken (path : ImportPath) (stored : Option PropertyReply) (env : ImportEnv) : Option Text :=
  stored.bind fun p =>
    if p.cut.value = [] ∨ (path ≠ drop ∧ p.type = .incr) ∨ env.text = false then none
    else some p.cut.value

/-- The offer of a whole text, or no offer. -/
def WholeOrNothing (path : ImportPath) (stored : Option PropertyReply) (env : ImportEnv) : Prop :=
  ∀ s : Bridge,
    let s' := path.importText stored env s
    match stored.filter fun p => decide p.Complete with
    | some p => (s'.channel path.target).inText = some p.value ∧ s'.seat path.target = .bridge
    | none => s'.channel = s.channel ∧ s'.seat = s.seat

/-- There is memory for a whole text that is not empty; of what is not whole, an `INCR` announcement
is told from a text. -/
def ToldApart (path : ImportPath) (stored : Option PropertyReply) (env : ImportEnv) : Prop :=
  ∀ p ∈ stored,
    if p.Complete then p.value ≠ [] ∧ env.text = true ∧ env.source = true
    else env.text = false ∨ (p.type = .incr ∧ (path ≠ drop ∨ p.value = []))

instance (path : ImportPath) (stored : Option PropertyReply) (env : ImportEnv) :
    Decidable (path.ToldApart stored env) :=
  inferInstanceAs (Decidable (∀ p ∈ stored, ite _ _ _))

end ImportPath

/-! ## What the two handlers do to the offers -/

namespace Bridge

variable (s : Bridge) (sel : Selection) (text : Text) (env : ImportEnv)

@[simp] theorem offerX11TextToWayland_inText :
    ((s.offerX11TextToWayland sel text env).channel sel).inText = some text := by
  unfold offerX11TextToWayland
  split <;> simp [setChannel]

@[simp] theorem offerX11TextToWayland_seat :
    (s.offerX11TextToWayland sel text env).seat =
      if env.source then Function.update s.seat sel .bridge else s.seat := by
  unfold offerX11TextToWayland
  split
  · rfl
  · rfl

/-- An offer is made of the text alone. -/
theorem offerX11TextToWayland_congr {t : Bridge} (hchannel : s.channel = t.channel)
    (hseat : s.seat = t.seat) :
    (s.offerX11TextToWayland sel text env).channel = (t.offerX11TextToWayland sel text env).channel ∧
      (s.offerX11TextToWayland sel text env).seat = (t.offerX11TextToWayland sel text env).seat := by
  rw [offerX11TextToWayland_seat, offerX11TextToWayland_seat, hseat]
  refine ⟨?_, rfl⟩
  unfold offerX11TextToWayland setChannel
  split
  · simp only [hchannel]
  · simp only [hchannel]

end Bridge

namespace ImportPath

theorem dndReplyToSource_offers (s : Bridge) (message : XdndMessage) :
    (s.dndReplyToSource message).channel = s.channel ∧ (s.dndReplyToSource message).seat = s.seat := by
  unfold Bridge.dndReplyToSource
  split <;> exact ⟨rfl, rfl⟩

/-- The handler of drops leaves the answer to a selection alone. -/
theorem dndHandleSelectionNotify_selection (sel : Selection) (reply : Option PropertyReply)
    (env : ImportEnv) (s : Bridge) :
    s.dndHandleSelectionNotify ((selection sel).event s.clipboardWindow) reply env = s := by
  have hatom : sel.toAtom ≠ .xdndSelection := by cases sel <;> decide
  unfold Bridge.dndHandleSelectionNotify
  rw [if_pos]
  exact Or.inr (Or.inr hatom)

/-- The handler of selections sees a property of neither in the answer to a drop. -/
theorem clipboardHandleSelectionNotify_drop (s s' : Bridge) (reply : Option PropertyReply)
    (env : ImportEnv) :
    s'.clipboardHandleSelectionNotify (drop.event s.clipboardWindow) reply env = s' := by
  unfold Bridge.clipboardHandleSelectionNotify
  split
  · rfl
  · dsimp only
    rw [if_pos]
    have hprop : (drop.event s.clipboardWindow).property = some .wlxDnd := rfl
    rw [hprop]
    exact ⟨show some Atom.wlxDnd ≠ some Selection.clipboard.property by decide, by decide, by decide⟩

/-- The clipboard and the primary selection import alike. -/
theorem importText_selection (sel : Selection) (stored : Option PropertyReply) (env : ImportEnv)
    (s : Bridge) :
    let s' := (selection sel).importText stored env s
    let t := ((selection sel).taken stored env).elim s fun text => s.offerX11TextToWayland sel text env
    s'.channel = t.channel ∧ s'.seat = t.seat := by
  have hsel : Bridge.notifiedSelection ((selection sel).event s.clipboardWindow) = sel := by
    cases sel <;> rfl
  unfold importText Bridge.handleSelectionNotify
  rw [dndHandleSelectionNotify_selection]
  unfold Bridge.clipboardHandleSelectionNotify
  rw [hsel, if_neg (by simp [event])]
  dsimp only
  rw [if_neg (by simp [event])]
  cases stored with
  | none => exact ⟨rfl, rfl⟩
  | some p =>
    simp only [Option.map_some, taken, Option.bind_some, ne_eq, reduceCtorEq, not_false_eq_true,
      true_and]
    have htype : p.cut.type = p.type := rfl
    rw [htype]
    -- an empty text, one of another type and one that is cut short are all dropped
    split
    · exact ⟨rfl, rfl⟩
    · cases sel <;> exact ⟨rfl, rfl⟩

theorem importText_drop (stored : Option PropertyReply) (env : ImportEnv) (s : Bridge) :
    let s' := drop.importText stored env s
    let t := (drop.taken stored env).elim s fun text => s.offerX11TextToWayland .clipboard text env
    s'.channel = t.channel ∧ s'.seat = t.seat := by
  unfold importText Bridge.handleSelectionNotify
  rw [clipboardHandleSelectionNotify_drop]
  unfold Bridge.dndHandleSelectionNotify
  rw [if_neg (by simp [event])]
  cases stored with
  | none =>
    dsimp only [Option.map_none, Option.getD_none]
    rw [if_pos rfl]
    exact dndReplyToSource_offers _ _
  | some p =>
    simp only [Option.map_some, Option.getD_some, taken, Option.bind_some, ne_eq, not_true_eq_false,
      false_and, false_or]
    by_cases hempty : p.cut.value = []
    · rw [if_pos hempty, if_pos (Or.inl hempty)]
      exact dndReplyToSource_offers _ _
    · obtain ⟨hchannel, hseat⟩ := dndReplyToSource_offers
        (if env.text = true then
          (s.send (.deleteProperty .wlxDnd)).clipboardOfferX11TextToWayland p.cut.value env
        else s.send (.deleteProperty .wlxDnd)) (.finished true)
      rw [if_neg hempty]
      dsimp only
      rw [hchannel, hseat]
      -- what the source of the drop is told is not an offer
      cases htext : env.text with
      | false =>
        rw [if_pos (Or.inr rfl)]
        exact ⟨rfl, rfl⟩
      | true =>
        have hnot : ¬ (p.cut.value = [] ∨ true = false) := by simp [hempty]
        rw [if_neg hnot]
        exact Bridge.offerX11TextToWayland_congr _ .clipboard p.cut.value env rfl rfl

/-- An import is the offer of the text taken, if any. -/
theorem importText_offers (path : ImportPath) (stored : Option PropertyReply) (env : ImportEnv)
    (s : Bridge) :
    let s' := path.importText stored env s
    let t := ((path.taken stored env).elim s fun text => s.offerX11TextToWayland path.target text env)
    s'.channel = t.channel ∧ s'.seat = t.seat := by
  cases path with
  | selection sel => exact importText_selection sel stored env s
  | drop => exact importText_drop stored env s

variable {path : ImportPath} {stored : Option PropertyReply} {env : ImportEnv}

/-! ## Whole or nothing -/

theorem cut_value {p : PropertyReply} (h : p.value.length ≤ wlxClipboardMax) :
    p.cut.value = p.value := List.take_of_length_le h

theorem cut_value_eq_nil_iff {p : PropertyReply} : p.cut.value = [] ↔ p.value = [] := by
  unfold PropertyReply.cut wlxClipboardMax
  rw [List.take_eq_nil_iff]
  simp

/-- A whole text is offered if it is taken and a source can be made for it. -/
theorem offered_iff {p : PropertyReply} (hcomplete : p.Complete) :
    path.WholeOrNothing (some p) env ↔ p.value ≠ [] ∧ env.text = true ∧ env.source = true := by
  obtain ⟨htype, hlen⟩ := hcomplete
  have hfilter : (some p).filter (fun p => decide p.Complete) = some p := by
    simp [Option.filter, PropertyReply.Complete, htype, hlen]
  unfold WholeOrNothing
  rw [hfilter]
  dsimp only
  constructor
  · -- a fresh bridge offers nothing yet
    intro h
    obtain ⟨htext, hseat⟩ := h (.fresh 0)
    obtain ⟨hchannel', hseat'⟩ := importText_offers path (some p) env (.fresh 0)
    rw [hchannel'] at htext
    rw [hseat'] at hseat
    cases htaken : path.taken (some p) env with
    | none =>
      rw [htaken] at htext
      cases htext
    | some text =>
      rw [htaken] at hseat
      dsimp only [Option.elim_some] at hseat
      rw [Bridge.offerX11TextToWayland_seat] at hseat
      unfold taken at htaken
      rw [Option.bind_some] at htaken
      split at htaken
      · cases htaken
      · rename_i hnot
        rw [not_or, not_or, cut_value_eq_nil_iff] at hnot
        refine ⟨hnot.1, by simpa using hnot.2.2, ?_⟩
        by_contra hsource
        rw [if_neg hsource] at hseat
        cases hseat
  · rintro ⟨hvalue, htext, hsource⟩ s
    obtain ⟨hchannel', hseat'⟩ := importText_offers path (some p) env s
    -- all of it is taken, and the same bytes are offered
    have htaken : path.taken (some p) env = some p.value := by
      unfold taken
      rw [Option.bind_some, if_neg, cut_value hlen]
      simp [cut_value_eq_nil_iff, hvalue, htype, htext]
    rw [hchannel', hseat', htaken]
    dsimp only [Option.elim_some]
    rw [Bridge.offerX11TextToWayland_inText, Bridge.offerX11TextToWayland_seat, if_pos hsource,
      Function.update_self]
    exact ⟨rfl, rfl⟩

/-- Of what is not a whole text nothing is offered only if nothing is taken. -/
theorem nothing_iff {p : PropertyReply} (hpart : ¬ p.Complete) :
    path.WholeOrNothing (some p) env ↔ path.taken (some p) env = none := by
  have hfilter : (some p).filter (fun p => decide p.Complete) = none := by
    simp [Option.filter, hpart]
  unfold WholeOrNothing
  rw [hfilter]
  dsimp only
  constructor
  · intro h
    have hchannel := (h (.fresh 0)).1
    rw [(importText_offers path (some p) env (.fresh 0)).1] at hchannel
    cases htaken : path.taken (some p) env with
    | none => rfl
    | some text =>
      rw [htaken] at hchannel
      -- what was taken stands in the channel, where nothing should
      have hin := congrArg (fun c => (c path.target).inText) hchannel
      dsimp only [Option.elim_some] at hin
      rw [Bridge.offerX11TextToWayland_inText] at hin
      cases hin
  · intro htaken s
    obtain ⟨hchannel', hseat'⟩ := importText_offers path (some p) env s
    rw [hchannel', hseat', htaken]
    exact ⟨rfl, rfl⟩

/-- **Imports.** A conversion answered with a property, whatever its length and type, is imported
whole or not at all exactly if a text that is whole is not empty and finds memory, and what is not
whole is an announcement the handler knows. -/
theorem wholeOrNothing_iff (path : ImportPath) (stored : Option PropertyReply) (env : ImportEnv) :
    path.WholeOrNothing stored env ↔ path.ToldApart stored env := by
  cases stored with
  | none =>
    refine ⟨fun _ p hp => (by cases hp), fun _ s => ?_⟩
    obtain ⟨hchannel', hseat'⟩ := importText_offers path none env s
    exact ⟨hchannel', hseat'⟩
  | some p =>
    unfold ToldApart
    simp only [Option.mem_def, Option.some.injEq, forall_eq']
    split
    · rename_i hcomplete
      exact offered_iff hcomplete
    · rename_i hpart
      rw [nothing_iff hpart]
      unfold taken
      rw [Option.bind_some]
      -- an empty property that is not whole is an announcement
      have hincr : p.value = [] → p.type = .incr := by
        intro hempty
        by_contra htype
        exact hpart ⟨htype, by rw [hempty]; exact Nat.zero_le _⟩
      constructor
      · intro h
        split at h
        · rename_i hor
          rw [cut_value_eq_nil_iff] at hor
          rcases hor with hempty | ⟨hpath, htype⟩ | htext
          · exact Or.inr ⟨hincr hempty, Or.inr hempty⟩
          · exact Or.inr ⟨htype, Or.inl hpath⟩
          · exact Or.inl htext
        · cases h
      · rintro (htext | ⟨htype, hpath | hempty⟩)
        · rw [if_pos (Or.inr (Or.inr htext))]
        · rw [if_pos (Or.inr (Or.inl ⟨hpath, htype⟩))]
        · rw [if_pos (Or.inl (cut_value_eq_nil_iff.mpr hempty))]

/-- Of a text that is too long its first `WLX_CLIPBOARD_MAX` bytes are offered, on every path. -/
theorem offered_truncated {p : PropertyReply} (htype : p.type ≠ .incr)
    (hlen : wlxClipboardMax < p.value.length) (s : Bridge) :
    let s' := path.importText (some p) ⟨true, true⟩ s
    (s'.channel path.target).inText = some (p.value.take wlxClipboardMax) ∧
      s'.seat path.target = .bridge := by
  obtain ⟨hchannel', hseat'⟩ := importText_offers path (some p) ⟨true, true⟩ s
  have hvalue : p.value ≠ [] := by
    intro hempty
    rw [hempty] at hlen
    cases hlen
  have htaken : path.taken (some p) ⟨true, true⟩ = some (p.value.take wlxClipboardMax) := by
    unfold taken
    rw [Option.bind_some, if_neg]
    · rfl
    · simp [cut_value_eq_nil_iff, hvalue, htype]
  dsimp only
  rw [hchannel', hseat', htaken]
  dsimp only [Option.elim_some]
  rw [Bridge.offerX11TextToWayland_inText, Bridge.offerX11TextToWayland_seat, if_pos rfl,
    Function.update_self]
  exact ⟨rfl, rfl⟩

/-- A text one byte too long, on every path; and the size word of an announcement, on a drop. -/
theorem not_wholeOrNothing :
    (¬ ∀ (path : ImportPath) (p : PropertyReply), path.WholeOrNothing (some p) ⟨true, true⟩) ∧
      ¬ (selection .clipboard).WholeOrNothing
        (some ⟨.utf8String, List.replicate (wlxClipboardMax + 1) 65⟩) ⟨true, true⟩ := by
  constructor
  · intro h
    have hchannel := congrArg (fun c => (c .clipboard).inText)
      (h drop ⟨.incr, [0, 0, 32, 0]⟩ (.fresh 0)).1
    exact absurd hchannel (by decide)
  · intro h
    have hlong : ¬ (⟨.utf8String, List.replicate (wlxClipboardMax + 1) 65⟩ : PropertyReply).Complete := by
      rintro ⟨-, hlen⟩
      rw [List.length_replicate] at hlen
      omega
    rw [nothing_iff hlong] at h
    unfold taken at h
    rw [Option.bind_some, if_neg] at h
    · cases h
    · rw [cut_value_eq_nil_iff]
      simp

end ImportPath

end Wlx
