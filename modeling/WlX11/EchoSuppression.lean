import WlX11.XSelections

/-!
# WlX11 — the bridge's own text does not come back

When another client takes a selection, the bridge asks for its text and offers it to Wayland. It must
not do so with text it serves itself: `clip_we_own_x11` and `pri_we_own_x11` are there to suppress
that. But `handle_xcb_readable` overwrites the flag with what each XFixes notification says, and a
notification about a foreign owner can have been queued before the bridge took the selection back. It
then asks itself, and imports its own answer.

* **`NoEcho`** — a step imports nothing the bridge has stored itself.
* **`Timely`** — a notification about a foreign owner is handled before the bridge takes the selection
  back.
* **`echo_suppressed`** — along every run whose steps are timely, there is no echo.
-/

namespace Wlx

namespace World

/-- If the step imports a text, it is one that another client has stored. -/
def NoEcho (w : World) (a : WorldAction) : Prop :=
  ∀ w' env, w.step a = some w' → a = .deliver env →
    SameOffer w.bridge w'.bridge ∨
      ∃ (sel : Selection) (rest : List XEvent) (st : Stored),
        w.x.inbox = .selectionNotify ⟨w.bridge.clipboardWindow, sel.toAtom, some sel.property⟩ :: rest ∧
          w.x.property sel.property = some st ∧ st.own = false

/-- A notification about a foreign owner is handled only while the bridge does not own the selection. -/
def Timely (w : World) : WorldAction → Prop
  | .deliver _ =>
    match w.x.inbox with
    | .xfixesSelectionNotify sel (some owner) :: _ =>
      owner = w.bridge.clipboardWindow ∨ w.x.owner sel ≠ .bridge
    | _ => True
  | _ => True

instance : ∀ (w : World) (a : WorldAction), Decidable (w.Timely a)
  | w, .deliver _ =>
    match h : w.x.inbox with
    | .xfixesSelectionNotify sel (some owner) :: _ =>
      decidable_of_iff (owner = w.bridge.clipboardWindow ∨ w.x.owner sel ≠ .bridge)
        (by simp [Timely, h])
    | .xfixesSelectionNotify _ none :: _ | .selectionClear _ :: _ | .selectionRequest _ :: _
    | .selectionNotify _ :: _ | [] => isTrue (by simp [Timely, h])
  | _, .seat _ | _, .xCopy .. | _, .xRequest _ | _, .xReply .. => isTrue trivial

/-- The bridge has not asked itself. -/
structure Foreign (cw : XWindow) (x : XServer) : Prop where
  requests : ∀ req, .selectionRequest req ∈ x.inbox → req.requestor ≠ cw
  stored : ∀ p st, x.property p = some st → st.own = false

namespace Foreign

variable {cw : XWindow} {x x' : XServer}

/-- More events, none of them a request. -/
theorem append (h : Foreign cw x) (evs : List XEvent) (hinbox : x'.inbox = x.inbox ++ evs)
    (hproperty : ∀ p st, x'.property p = some st → st.own = false)
    (hreq : ∀ req, .selectionRequest req ∈ evs → req.requestor ≠ cw) : Foreign cw x' where
  requests := by
    intro req hmem
    rw [hinbox, List.mem_append] at hmem
    rcases hmem with hmem | hmem
    · exact h.requests req hmem
    · exact hreq req hmem
  stored := hproperty

/-- Asking for a selection that the bridge does not own. -/
theorem ask (h : Foreign cw x) {sel : Selection} (howner : x.owner sel ≠ .bridge) :
    Foreign cw (World.ask cw sel x) := by
  have hdeleted : ∀ p st, Function.update x.property sel.property none p = some st → st.own = false := by
    intro p st hst
    rw [Function.update_apply] at hst
    split at hst
    · cases hst
    · exact h.stored p st hst
  unfold World.ask XServer.convert
  dsimp only
  split
  · refine h.append _ rfl hdeleted ?_
    intro req hmem
    simp at hmem
  · next hbridge => exact absurd hbridge howner
  · exact ⟨h.requests, hdeleted⟩

theorem answer (h : Foreign cw x) (i : Nat) (text : Option Text) :
    Foreign cw (World.answer cw i text x) := by
  unfold World.answer
  split
  · exact h
  · dsimp only
    split
    · refine h.append _ rfl h.stored ?_
      intro req hmem
      simp at hmem
    -- the answered property holds a client's text
    · refine h.append _ rfl (fun p st hst => ?_) ?_
      · change Function.update x.property _ _ p = some st at hst
        rw [Function.update_apply] at hst
        split at hst
        · cases hst; rfl
        · exact h.stored p st hst
      · intro req hmem
        simp at hmem

end Foreign

section Echo

variable {cw : XWindow} {w w' : World}

/-- **A timely step** does not make the bridge ask itself. One case per action. -/
theorem Foreign.step (h : Foreign cw w.x) (hinv : w.Inv cw) {a : WorldAction} (ht : w.Timely a)
    (hstep : w.step a = some w') : Foreign cw w'.x := by
  obtain ⟨hen, rfl⟩ := step_eq_some.mp hstep
  cases a with
  | seat a =>
    rcases seat_cases hinv hen with ⟨env, -, -, -, -, heq⟩ | heq <;> rw [heq]
    · refine h.append _ rfl h.stored ?_
      intro req hmem
      simp at hmem
    · exact h
  | deliver env =>
    cases hinbox : w.x.inbox with
    | nil => simp [enabled, hinbox] at hen
    | cons ev rest =>
      have htail : Foreign cw { w.x with inbox := rest } :=
        ⟨fun req hmem => h.requests req (by rw [hinbox]; exact List.mem_cons_of_mem _ hmem), h.stored⟩
      obtain ⟨s, x', -, -, hdelivers, heq⟩ := deliver_cases hinv hinbox env
      rw [heq]
      cases hdelivers with
      | asks sel owner s hforeign hsame =>
        refine htail.ask ?_
        simp only [Timely, hinbox, hinv.window] at ht
        exact ht.resolve_left hforeign
      | answers sel s hsame =>
        -- no request in flight is the bridge's own
        exact absurd rfl (h.requests _ (by rw [hinbox]; exact List.mem_cons_self))
      | imports | refuses | nothing => exact htail
  | xCopy sel window text =>
    refine h.append ((if w.x.owner sel = .bridge then [.selectionClear sel] else []) ++
      [.xfixesSelectionNotify sel (some window)]) ?_ h.stored ?_
    · exact List.append_assoc ..
    · intro req hmem
      split at hmem <;> simp at hmem
  | xRequest req =>
    refine h.append [.selectionRequest req] rfl h.stored ?_
    intro req' hmem
    simp only [List.mem_singleton, XEvent.selectionRequest.injEq] at hmem
    subst hmem
    simp only [enabled, hinv.window, Bool.and_eq_true, decide_eq_true_eq] at hen
    exact hen.1
  | xReply i text =>
    show Foreign cw (World.answer w.bridge.clipboardWindow i text w.x)
    rw [hinv.window]
    exact h.answer i text

/-- Then nothing of its own is imported. -/
theorem Foreign.noEcho (h : Foreign cw w.x) (hinv : w.Inv cw) (a : WorldAction) : w.NoEcho a := by
  rintro w' env hstep rfl
  obtain ⟨hen, rfl⟩ := step_eq_some.mp hstep
  cases hinbox : w.x.inbox with
  | nil => simp [enabled, hinbox] at hen
  | cons ev rest =>
    obtain ⟨s, x', -, -, hdelivers, heq⟩ := deliver_cases hinv hinbox env
    rw [heq]
    -- only an import can put text of its own on the seat
    cases hdelivers with
    | asks sel owner s hforeign hsame => exact Or.inl hsame
    | answers sel s hsame => exact Or.inl hsame
    | nothing ev s hsame => exact Or.inl hsame
    | refuses => exact Or.inl ⟨rfl, fun _ => rfl⟩
    | imports sel reply hreply =>
      right
      simp only [propertyReply, Option.bind_some, Option.map_eq_some_iff] at hreply
      obtain ⟨st, hst, -⟩ := hreply
      exact ⟨sel, rest, st, by rw [hinv.window], hst, h.stored _ st hst⟩

end Echo

/-- **The echo is suppressed.** Whatever owns the selections at the start, and in any order of
notifications, requests, answers, copies and exports: along every run that handles each notification
about a foreign owner before the bridge takes the selection back, no text the bridge serves itself is
imported. -/
theorem echo_suppressed (clipboardWindow : XWindow) (host : Selection → Option (XWindow × Text))
    (as : List WorldAction) (htimely : Run.Along step Timely (init clipboardWindow host) as) :
    Run.Along step NoEcho (init clipboardWindow host) as := by
  refine Run.along_of_invariant (I := fun w => w.Inv clipboardWindow ∧ Foreign clipboardWindow w.x)
    ?_ ?_ ⟨Inv.init clipboardWindow host, ?_⟩ htimely
  · exact fun w a w' ⟨hinv, h⟩ ht hstep => ⟨hinv.step hstep, h.step hinv ht hstep⟩
  · exact fun w a ⟨hinv, h⟩ _ => h.noEcho hinv a
  · rw [Inv.init_eq]
    -- at the start the bridge owns nothing
    have hfirst : Foreign clipboardWindow (before clipboardWindow host).x :=
      ⟨(fun _ hmem => nomatch hmem), (fun _ _ h => nomatch h)⟩
    have howner (sel : Selection) : (before clipboardWindow host).x.owner sel ≠ .bridge := by
      show (host sel).elim Owner.nobody _ ≠ .bridge
      cases host sel <;> simp
    have hasked : ∀ sel, (ask clipboardWindow .clipboard (before clipboardWindow host).x).owner sel ≠
        .bridge := by
      intro sel
      rw [ask_owner]
      exact howner sel
    exact (hfirst.ask (howner .clipboard)).ask (hasked .primary)

/-- An export of two bytes, up to the end of file. -/
def exportTwoBytes : List WorldAction :=
  [.deliver ⟨true, true⟩, .deliver ⟨true, true⟩,
    .seat (.select .clipboard (some ⟨[.textPlain], [104, 105]⟩) ⟨true, true⟩), .seat (.write 2),
    .seat .close, .seat (.callback ⟨true, false, false⟩ ⟨true, true⟩),
    .seat (.read (.data 2 true) ⟨true, true⟩)]

/-- Another client copies, and then the export is published; all events are handled after that. -/
def copiedBeforePublished : List WorldAction :=
  exportTwoBytes ++ [.xCopy .clipboard 7 [120], .seat (.read .eof ⟨true, true⟩),
    .deliver ⟨true, true⟩, .deliver ⟨true, true⟩, .deliver ⟨true, true⟩]

/-- The bridge asks itself and imports its own two bytes. -/
theorem stale_notification_echoes :
    ¬ ∀ (clipboardWindow : XWindow) (host : Selection → Option (XWindow × Text))
      (as : List WorldAction), Run.Along step NoEcho (init clipboardWindow host) as := by
  intro h
  have hrun : (Run.run step (init 1 fun _ => none) copiedBeforePublished).any (fun w =>
      decide (w.x.inbox = [.selectionNotify ⟨1, .clipboard, some .wlxClipboard⟩] ∧
        w.x.property .wlxClipboard = some ⟨⟨.utf8String, [104, 105]⟩, true⟩ ∧
        w.bridge.clipboardWindow = 1 ∧ (w.bridge.channel .clipboard).inText = none)) = true := by
    decide +kernel
  -- the answer that is delivered next holds the bridge's own bytes
  have hrun' : (Run.run step (init 1 fun _ => none)
      (copiedBeforePublished ++ [.deliver ⟨true, true⟩])).any (fun w =>
        decide ((w.bridge.channel .clipboard).inText = some [104, 105])) = true := by decide +kernel
  obtain ⟨w, hw, hchecks⟩ := (Option.any_eq_true ..).mp hrun
  obtain ⟨w', hw', hin'⟩ := (Option.any_eq_true ..).mp hrun'
  obtain ⟨hinbox, hproperty, hwin, hin⟩ := of_decide_eq_true hchecks
  rw [Run.run_append, hw] at hw'
  obtain ⟨w'', hstep, hnil⟩ := Run.run_cons_inv hw'
  cases hnil
  have halong := (Run.along_append hw).mp
    (h 1 (fun _ => none) (copiedBeforePublished ++ [.deliver ⟨true, true⟩]))
  -- neither has the text stayed as it was, nor is it a client's
  rcases halong.2.1 w' ⟨true, true⟩ hstep rfl with hsame | ⟨sel, rest, st, hhead, hst, hown⟩
  · have := (hsame.inText .clipboard).symm.trans (of_decide_eq_true hin')
    rw [hin] at this
    cases this
  · rw [hinbox] at hhead
    cases sel with
    | clipboard =>
      rw [show Selection.clipboard.property = Atom.wlxClipboard from rfl, hproperty] at hst
      cases hst
      cases hown
    | primary => simp [Selection.toAtom] at hhead

/-- When the notification is handled in time, the other client's text is imported. -/
theorem echo_suppressed_in_time :
    Run.Along step NoEcho (init 1 fun _ => none)
      (exportTwoBytes ++ [.seat (.read .eof ⟨true, true⟩), .deliver ⟨true, true⟩,
        .xCopy .clipboard 7 [120], .deliver ⟨true, true⟩, .deliver ⟨true, true⟩,
        .xReply 0 (some [120]), .deliver ⟨true, true⟩]) :=
  echo_suppressed 1 (fun _ => none) _ (by decide +kernel)

end World

end Wlx
