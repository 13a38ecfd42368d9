import WlX11.XSelections

/-!
# WlX11 — the two sides of a selection carry the same text

Text is copied on either side: an X client takes the selection, and the bridge converts it and offers
the text to Wayland; or a Wayland client sets it, and the bridge reads the text and takes the X11
selection. Once every message has been processed, both sides should have the text with which the
selection was last taken.

A reply may come late, from an owner that has lost the selection, or while another text is being
read. `clipboard_handle_selection_notify` imports it all the same, and nothing puts the seat right
again.

* **`InTurn`** — the steps that keep to the order: an import brings the text of the current owner (or
  there is news of an owner still to be handled), none comes in the middle of a read, and a read ends
  with the whole text published.
* **`Awaits`** — some message in flight will bring the current text.
* **`selections_agree`** — along every run whose steps are in turn, both sides carry the same text
  whenever nothing is in flight.
-/

namespace Wlx

namespace World

/-- The text the seat offers. -/
def seatText (w : World) (sel : Selection) : Option Text :=
  match w.bridge.seat sel with
  | .none => none
  | .client source => some source.text
  | .bridge => (w.bridge.channel sel).inText

/-- The text the owner of the X11 selection answers with. -/
def xText (w : World) (sel : Selection) : Option Text :=
  match w.x.owner sel with
  | .nobody => none
  | .bridge => (w.bridge.channel sel).outText
  | .client _ text => some text

/-- Every message has been processed, and no pipe is being read. -/
structure Quiet (w : World) : Prop where
  inbox : w.x.inbox = []
  conversions : w.x.conversions = []
  reading : w.bridge.read.reading = false

/-- A text is being read for the selection. -/
def Reads (w : World) (sel : Selection) : Prop :=
  w.bridge.read.reading = true ∧ w.bridge.read.target = sel

instance (w : World) (sel : Selection) : Decidable (w.Reads sel) :=
  inferInstanceAs (Decidable (_ ∧ _))

/-- News of an owner that is not the bridge. -/
def isNews (clipboardWindow : XWindow) (sel : Selection) : XEvent → Bool
  | .xfixesSelectionNotify sel' (some owner) => sel' = sel && owner ≠ clipboardWindow
  | .xfixesSelectionNotify _ none | .selectionClear _ | .selectionRequest _ | .selectionNotify _ =>
    false

/-- A read that ends is that of the whole text, and the text is published. A read may be given up if
both sides agree all the same. -/
def EndsWhole (w : World) (sel : Selection) : ExportState.Ending → Prop
  | .goesOn => True
  | .publishes env => w.pipe.map Pipe.text = some w.bridge.read.buf ∧ env.alloc = true
  | .abandons => w.seatText sel = w.xText sel

instance (w : World) (sel : Selection) : ∀ e, Decidable (w.EndsWhole sel e)
  | .goesOn => isTrue trivial
  | .publishes env => inferInstanceAs (Decidable (_ ∧ env.alloc = true))
  | .abandons => inferInstanceAs (Decidable (w.seatText sel = w.xText sel))

/-- If the next event imports a text, no read is in progress, and it is that of the current owner or
there is news of an owner yet to be handled. -/
def ImportsCurrent (w : World) (sel : Selection) (env : ImportEnv) : Prop :=
  match w.x.inbox with
  | .selectionNotify ev :: rest =>
    ev.property = some sel.property → ∀ st ∈ w.x.property sel.property,
      ¬ w.Reads sel ∧ ∃ text ∈ w.xText sel,
        (text = st.value.value ∧ env.text = true ∧ env.source = true) ∨
          rest.any (isNews w.bridge.clipboardWindow sel) = true
  | _ => True

instance (w : World) (sel : Selection) (env : ImportEnv) : Decidable (w.ImportsCurrent sel env) :=
  match h : w.x.inbox with
  | .selectionNotify ev :: rest =>
    decidable_of_iff (ev.property = some sel.property → ∀ st ∈ w.x.property sel.property,
      ¬ w.Reads sel ∧ ∃ text ∈ w.xText sel,
        (text = st.value.value ∧ env.text = true ∧ env.source = true) ∨
          rest.any (isNews w.bridge.clipboardWindow sel) = true) (by simp [ImportsCurrent, h])
  | .xfixesSelectionNotify .. :: _ | .selectionClear _ :: _ | .selectionRequest _ :: _ | [] =>
    isTrue (by simp [ImportsCurrent, h])

/-- The step keeps to the order. The texts copied are ones the bridge carries, and a copy of the
other selection does not cut off a read. -/
def InTurn (sel : Selection) (w : World) : WorldAction → Prop
  | .seat (.select sel' source env) =>
    if sel' = sel then
      source.any (fun src => src.isText && decide src.text.Valid) = true ∧
        (env.pipe && env.addFd) = true
    else w.Reads sel → w.bridge.exported sel' source = none
  | .seat (.callback mask env) => w.Reads sel → w.EndsWhole sel (w.ending (.callback mask env))
  | .seat (.read result env) => w.Reads sel → w.EndsWhole sel (w.ending (.read result env))
  | .deliver env => w.ImportsCurrent sel env
  | .xCopy sel' _ text => sel' = sel → text.Valid
  | .seat (.write _) | .seat .close | .xRequest _ | .xReply .. => True

instance (sel : Selection) : ∀ (w : World) (a : WorldAction), Decidable (w.InTurn sel a)
  | w, .seat (.select sel' source env) => inferInstanceAs (Decidable (if sel' = sel then
      source.any (fun src => src.isText && decide src.text.Valid) = true ∧
        (env.pipe && env.addFd) = true
    else w.Reads sel → w.bridge.exported sel' source = none))
  | w, .seat (.callback mask env) =>
    inferInstanceAs (Decidable (w.Reads sel → w.EndsWhole sel (w.ending (.callback mask env))))
  | w, .seat (.read result env) =>
    inferInstanceAs (Decidable (w.Reads sel → w.EndsWhole sel (w.ending (.read result env))))
  | w, .deliver env => inferInstanceAs (Decidable (w.ImportsCurrent sel env))
  | _, .xCopy sel' _ text => inferInstanceAs (Decidable (sel' = sel → text.Valid))
  | _, .seat (.write _) | _, .seat .close | _, .xRequest _ | _, .xReply .. => isTrue trivial

/-! ## What is on its way -/

/-- A message in flight that will bring the text of the current owner: news of an owner, a conversion
the owner has been asked for, one the bridge has asked itself for, or an answer. -/
inductive Awaits (cw : XWindow) (sel : Selection) (x : XServer) : Prop where
  | news (owner : XWindow) (hforeign : owner ≠ cw)
      (hmem : .xfixesSelectionNotify sel (some owner) ∈ x.inbox)
  | asked (c : Conversion) (text : Text) (hmem : c ∈ x.conversions) (hsel : c.sel = sel)
      (howner : x.owner sel = .client c.window text)
  | askedSelf (howner : x.owner sel = .bridge)
      (hmem : .selectionRequest ⟨cw, sel.toAtom, .utf8String, some sel.property⟩ ∈ x.inbox)
  | answered (hstored : x.property sel.property ≠ none)
      (hmem : .selectionNotify ⟨cw, sel.toAtom, some sel.property⟩ ∈ x.inbox)

namespace Awaits

variable {cw : XWindow} {sel sel' : Selection} {x x' : XServer}

/-- What is on its way stays so while the owner is the same and no message is lost. -/
theorem mono (h : Awaits cw sel x) (howner : x'.owner sel = x.owner sel)
    (hinbox : ∀ ev ∈ x.inbox, ev ∈ x'.inbox) (hconv : ∀ c ∈ x.conversions, c ∈ x'.conversions)
    (hproperty : x.property sel.property ≠ none → x'.property sel.property ≠ none) :
    Awaits cw sel x' := by
  cases h with
  | news owner hforeign hmem => exact .news owner hforeign (hinbox _ hmem)
  | asked c text hmem hsel hc => exact .asked c text (hconv c hmem) hsel (howner.trans hc)
  | askedSelf hbridge hmem => exact .askedSelf (howner.trans hbridge) (hinbox _ hmem)
  | answered hstored hmem => exact .answered (hproperty hstored) (hinbox _ hmem)

/-- Handling an event that it does not rest on. -/
theorem tail (h : Awaits cw sel x) {ev : XEvent} {rest : List XEvent} (hinbox : x.inbox = ev :: rest)
    (hnews : ∀ owner, owner ≠ cw → ev ≠ .xfixesSelectionNotify sel (some owner))
    (hself : x.owner sel = .bridge →
      ev ≠ .selectionRequest ⟨cw, sel.toAtom, .utf8String, some sel.property⟩)
    (hanswer : x.property sel.property ≠ none →
      ev ≠ .selectionNotify ⟨cw, sel.toAtom, some sel.property⟩) :
    Awaits cw sel { x with inbox := rest } := by
  have hrest {ev' : XEvent} (hmem : ev' ∈ x.inbox) (hne : ev ≠ ev') : ev' ∈ rest := by
    rw [hinbox] at hmem
    exact (List.mem_cons.mp hmem).resolve_left (Ne.symm hne)
  cases h with
  | news owner hforeign hmem => exact .news owner hforeign (hrest hmem (hnews owner hforeign))
  | asked c text hmem hsel hc => exact .asked c text hmem hsel hc
  | askedSelf hbridge hmem => exact .askedSelf hbridge (hrest hmem (hself hbridge))
  | answered hstored hmem => exact .answered hstored (hrest hmem (hanswer hstored))

theorem notified_inj {sel₁ sel₂ : Selection}
    (heq : XEvent.selectionNotify ⟨cw, sel₁.toAtom, some sel₁.property⟩ =
      .selectionNotify ⟨cw, sel₂.toAtom, some sel₂.property⟩) : sel₁ = sel₂ := by
  injection heq with heq
  injection heq with _ hatom
  exact Selection.toAtom_inj.mp hatom

/-- An answer for the other selection, or one with nothing stored, is not what is waited for. -/
theorem tail_notify (h : Awaits cw sel x) {rest : List XEvent}
    (hinbox : x.inbox = .selectionNotify ⟨cw, sel'.toAtom, some sel'.property⟩ :: rest)
    (hother : sel' ≠ sel ∨ x.property sel.property = none) :
    Awaits cw sel { x with inbox := rest } := by
  refine h.tail hinbox ?_ ?_ ?_
  · rintro _ - ⟨⟩
  · rintro - ⟨⟩
  · rintro hstored heq
    exact hother.elim (fun hne => hne (notified_inj heq)) hstored

/-- Asking for the selection. -/
theorem ask (howner : x.owner sel ≠ .nobody) : Awaits cw sel (World.ask cw sel x) := by
  unfold World.ask XServer.convert
  dsimp only
  split
  · next hnobody => exact absurd hnobody howner
  · next hbridge =>
    refine .askedSelf hbridge ?_
    exact List.mem_append_right _ List.mem_cons_self
  · next window text hclient =>
    refine .asked ⟨sel, window, text, sel.property⟩ text ?_ rfl hclient
    exact List.mem_append_right _ List.mem_cons_self

/-- Asking for the other one. -/
theorem ask_other (h : Awaits cw sel x) (hne : sel' ≠ sel) : Awaits cw sel (World.ask cw sel' x) := by
  have hproperty : x.property sel.property ≠ none →
      Function.update x.property sel'.property none sel.property ≠ none := by
    rw [Function.update_of_ne (fun heq => hne (Selection.property_inj.mp heq).symm)]
    exact id
  unfold World.ask XServer.convert
  dsimp only
  split
  · exact h.mono rfl (fun _ hmem => List.mem_append_left _ hmem) (fun _ hmem => hmem) hproperty
  · exact h.mono rfl (fun _ hmem => List.mem_append_left _ hmem) (fun _ hmem => hmem) hproperty
  · exact h.mono rfl (fun _ hmem => hmem) (fun _ hmem => List.mem_append_left _ hmem) hproperty

theorem answerSelf (h : Awaits cw sel x) (sel' : Selection) (text : Option Text) :
    Awaits cw sel (World.answerSelf cw sel' text x) := by
  cases text with
  | none =>
    exact h.mono rfl (fun _ hmem => List.mem_append_left _ hmem) (fun _ hmem => hmem) id
  | some text =>
    refine h.mono rfl (fun _ hmem => List.mem_append_left _ hmem) (fun _ hmem => hmem) fun hstored => ?_
    show Function.update x.property sel'.property _ sel.property ≠ none
    rw [Function.update_apply]
    split
    · exact Option.some_ne_none _
    · exact hstored

/-- The bridge's answer to itself. -/
theorem of_answerSelf (text : Text) : Awaits cw sel (World.answerSelf cw sel (some text) x) := by
  refine .answered ?_ (List.mem_append_right _ List.mem_cons_self)
  show Function.update x.property sel.property _ sel.property ≠ none
  rw [Function.update_self]
  exact Option.some_ne_none _

theorem copy_other (h : Awaits cw sel x) (hne : sel' ≠ sel) (window : XWindow) (text : Text) :
    Awaits cw sel (World.copy sel' window text x) := by
  refine h.mono (Function.update_of_ne (Ne.symm hne) ..) (fun _ hmem => ?_) (fun _ hmem => hmem) id
  exact List.mem_append_left _ (List.mem_append_left _ hmem)

/-- A copy is news. -/
theorem of_copy {window : XWindow} (hforeign : window ≠ cw) (text : Text) :
    Awaits cw sel (World.copy sel window text x) :=
  .news window hforeign (List.mem_append_right _ List.mem_cons_self)

theorem take_other (h : Awaits cw sel x) (hne : sel' ≠ sel) (text : Text) :
    Awaits cw sel (World.take cw sel' text x) :=
  h.mono (Function.update_of_ne (Ne.symm hne) ..) (fun _ hmem => List.mem_append_left _ hmem)
    (fun _ hmem => hmem) id

/-- Answering a conversion. The current owner does not refuse. -/
theorem answer (h : Awaits cw sel x) {i : Nat} {c : Conversion} (hc : x.conversions[i]? = some c)
    (hcproperty : c.property = c.sel.property) {text : Option Text}
    (hmay : mayAnswer x c text = true) : Awaits cw sel (World.answer cw i text x) := by
  have hkept {c' : Conversion} (hmem : c' ∈ x.conversions) (hne : c' ≠ c) :
      c' ∈ x.conversions.eraseIdx i := by
    obtain ⟨j, hj⟩ := List.mem_iff_getElem?.mp hmem
    refine List.mem_eraseIdx_iff_getElem?.mpr ⟨j, ?_, hj⟩
    rintro rfl
    rw [hc] at hj
    exact hne (Option.some.inj hj).symm
  unfold World.answer
  rw [hc]
  dsimp only
  cases h with
  | news owner hforeign hmem =>
    cases text <;> exact .news owner hforeign (List.mem_append_left _ hmem)
  | asked c' current hmem hsel howner =>
    by_cases hsame : c' = c
    · subst hsame
      -- the owner is still the client that was asked
      have htext : text = some current := by simpa [mayAnswer, hsel, howner] using hmay
      subst htext
      rw [hcproperty, hsel]
      refine .answered ?_ (List.mem_append_right _ List.mem_cons_self)
      show Function.update x.property sel.property _ sel.property ≠ none
      rw [Function.update_self]
      exact Option.some_ne_none _
    · cases text <;> exact .asked c' current (hkept hmem hsame) hsel howner
  | askedSelf hbridge hmem =>
    cases text <;> exact .askedSelf hbridge (List.mem_append_left _ hmem)
  | answered hstored hmem =>
    cases text with
    | none => exact .answered hstored (List.mem_append_left _ hmem)
    | some text =>
      refine .answered ?_ (List.mem_append_left _ hmem)
      show Function.update x.property c.property _ sel.property ≠ none
      rw [Function.update_apply]
      split
      · exact Option.some_ne_none _
      · exact hstored

end Awaits

end World

namespace Bridge

variable (s : Bridge) (text : Text) (env : ImportEnv)

/-- An import with memory for the source. -/
theorem offerX11TextToWayland_source (sel : Selection) (henv : env.source = true) :
    (s.offerX11TextToWayland sel text env).seat sel = .bridge ∧
      ((s.offerX11TextToWayland sel text env).channel sel).inText = some text := by
  unfold offerX11TextToWayland
  dsimp only
  rw [if_pos henv]
  constructor
  · exact Function.update_self ..
  · show ((setChannel _ sel _).channel sel).inText = some text
    rw [setChannel_channel, if_pos rfl]
    show ((setChannel _ sel _).channel sel).inText = some text
    rw [setChannel_channel, if_pos rfl]

/-- It leaves the other selection alone. -/
theorem offerX11TextToWayland_other {sel sel' : Selection} (hne : sel' ≠ sel) :
    (s.offerX11TextToWayland sel' text env).seat sel = s.seat sel ∧
      ((s.offerX11TextToWayland sel' text env).channel sel).inText = (s.channel sel).inText := by
  unfold offerX11TextToWayland
  dsimp only
  split
  · constructor
    · exact Function.update_of_ne (Ne.symm hne) ..
    · show ((setChannel _ sel' _).channel sel).inText = _
      rw [setChannel_channel, if_neg (Ne.symm hne), setChannel_channel, if_neg (Ne.symm hne)]
  · rw [setChannel_channel, if_neg (Ne.symm hne)]
    exact ⟨rfl, rfl⟩

end Bridge

namespace World

/-! ## The invariant -/

section Texts

variable {w w' : World} {sel : Selection}

theorem seatText_congr (hseat : w'.bridge.seat sel = w.bridge.seat sel)
    (hin : (w'.bridge.channel sel).inText = (w.bridge.channel sel).inText) :
    w'.seatText sel = w.seatText sel := by
  rw [seatText, seatText, hseat, hin]

theorem seatText_of_bridge (hseat : w.bridge.seat sel = .bridge) :
    w.seatText sel = (w.bridge.channel sel).inText := by
  rw [seatText, hseat]

theorem seatText_of_client {src : Source} (hseat : w.bridge.seat sel = .client src) :
    w.seatText sel = some src.text := by
  rw [seatText, hseat]

theorem xText_of_bridge (howner : w.x.owner sel = .bridge) :
    w.xText sel = (w.bridge.channel sel).outText := by
  rw [xText, howner]

theorem xText_congr (howner : w'.x.owner sel = w.x.owner sel)
    (hout : (w'.bridge.channel sel).outText = (w.bridge.channel sel).outText) :
    w'.xText sel = w.xText sel := by
  rw [xText, xText, howner, hout]

end Texts

/-- What holds in every state of a run whose steps are in turn. -/
structure InSync (cw : XWindow) (sel : Selection) (w : World) : Prop where
  last : w.xText sel = w.x.lastCopy sel
  owned : w.x.owner sel ≠ .nobody → ∃ text, w.xText sel = some text ∧ text.Valid
  types : ∀ st, w.x.property sel.property = some st → st.value.type = .utf8String
  reads : w.Reads sel → ∃ src, w.bridge.seat sel = .client src ∧ src.isText = true ∧ src.text.Valid
  same : ¬ w.Reads sel →
    w.seatText sel = w.xText sel ∨ (w.x.owner sel ≠ .nobody ∧ Awaits cw sel w.x)

namespace InSync

variable {cw : XWindow} {w w' : World} {sel : Selection}

/-- When nothing is on its way, both sides carry the same text. -/
theorem agree (h : InSync cw sel w) (hquiet : w.Quiet) : w.seatText sel = w.xText sel := by
  rcases h.same (fun hreads => absurd hreads.1 (by rw [hquiet.reading]; decide)) with
    hsame | ⟨-, hawaits⟩
  · exact hsame
  · cases hawaits with
    | news owner hforeign hmem => rw [hquiet.inbox] at hmem; cases hmem
    | asked c text hmem hsel howner => rw [hquiet.conversions] at hmem; cases hmem
    | askedSelf howner hmem => rw [hquiet.inbox] at hmem; cases hmem
    | answered hstored hmem => rw [hquiet.inbox] at hmem; cases hmem

/-- A step that leaves the X server's side alone. -/
theorem of_xText (h : InSync cw sel w) (howner : w'.x.owner sel = w.x.owner sel)
    (hlast : w'.x.lastCopy sel = w.x.lastCopy sel)
    (hout : (w'.bridge.channel sel).outText = (w.bridge.channel sel).outText)
    (htypes : ∀ st, w'.x.property sel.property = some st → st.value.type = .utf8String)
    (hreads : w'.Reads sel →
      ∃ src, w'.bridge.seat sel = .client src ∧ src.isText = true ∧ src.text.Valid)
    (hsame : ¬ w'.Reads sel →
      w'.seatText sel = w.xText sel ∨ (w.x.owner sel ≠ .nobody ∧ Awaits cw sel w'.x)) :
    InSync cw sel w' where
  last := by rw [xText_congr howner hout, hlast]; exact h.last
  owned := by rw [howner, xText_congr howner hout]; exact h.owned
  types := htypes
  reads := hreads
  same := by rw [xText_congr howner hout, howner]; exact hsame

/-- A step that changes neither side, and loses nothing that is on its way. -/
theorem of_same (h : InSync cw sel w) (howner : w'.x.owner sel = w.x.owner sel)
    (hlast : w'.x.lastCopy sel = w.x.lastCopy sel)
    (hseat : w'.bridge.seat sel = w.bridge.seat sel)
    (hin : (w'.bridge.channel sel).inText = (w.bridge.channel sel).inText)
    (hout : (w'.bridge.channel sel).outText = (w.bridge.channel sel).outText)
    (hreads : w'.Reads sel ↔ w.Reads sel)
    (htypes : ∀ st, w'.x.property sel.property = some st → st.value.type = .utf8String)
    (hawaits : w.x.owner sel ≠ .nobody → Awaits cw sel w.x → Awaits cw sel w'.x) :
    InSync cw sel w' := by
  refine h.of_xText howner hlast hout htypes ?_ ?_ <;> rw [hreads]
  · rw [hseat]; exact h.reads
  · rw [seatText_congr hseat hin]
    intro hnot
    exact (h.same hnot).imp_right fun ⟨howned, hon⟩ => ⟨howned, hawaits howned hon⟩

/-- News yet to be handled. -/
theorem awaits_of_news {x : XServer} (h : x.inbox.any (isNews cw sel) = true) : Awaits cw sel x := by
  obtain ⟨ev, hmem, hnews⟩ := List.any_eq_true.mp h
  cases ev with
  | selectionClear | selectionRequest | selectionNotify => cases hnews
  | xfixesSelectionNotify sel' owner =>
    cases owner with
    | none => cases hnews
    | some owner =>
      simp only [isNews, Bool.and_eq_true, decide_eq_true_eq] at hnews
      obtain ⟨rfl, hforeign⟩ := hnews
      exact .news owner hforeign hmem

theorem importsCurrent {ev : SelectionNotify} {rest : List XEvent} {env : ImportEnv}
    (hinbox : w.x.inbox = .selectionNotify ev :: rest) (hturn : w.InTurn sel (.deliver env))
    (hev : ev.property = some sel.property) {st : Stored}
    (hst : w.x.property sel.property = some st) :
    ¬ w.Reads sel ∧ ∃ text ∈ w.xText sel,
      (text = st.value.value ∧ env.text = true ∧ env.source = true) ∨
        rest.any (isNews w.bridge.clipboardWindow sel) = true := by
  simp only [InTurn, ImportsCurrent, hinbox] at hturn
  exact hturn hev st hst

/-- The owner's text is one the bridge carries. -/
theorem owned_of_xText (h : InSync cw sel w) {text : Text} (htext : w.xText sel = some text) :
    w.x.owner sel ≠ .nobody ∧ text.Valid := by
  have howned : w.x.owner sel ≠ .nobody := by
    intro hnobody
    simp [xText, hnobody] at htext
  obtain ⟨text', htext', hvalid⟩ := h.owned howned
  rw [htext] at htext'
  cases htext'
  exact ⟨howned, hvalid⟩

theorem reads_iff_of_frame {s : Bridge} (hframe : EventFrame cw w.bridge s) (x' : XServer) :
    (⟨{ w.toExportState with bridge := s }, x'⟩ : World).Reads sel ↔ w.Reads sel := by
  unfold Reads
  rw [hframe.read]

/-- The answer that has been asked for is imported. -/
theorem imports (h : InSync cw sel w) (hinv : w.Inv cw) {env : ImportEnv}
    (hturn : w.InTurn sel (.deliver env)) {sel' : Selection} {rest : List XEvent}
    (hinbox : w.x.inbox = .selectionNotify ⟨cw, sel'.toAtom, some sel'.property⟩ :: rest)
    {reply : PropertyReply} (hreply : propertyReply w.x (some sel'.property) = some reply)
    (hframe : EventFrame cw w.bridge (w.bridge.offerX11TextToWayland sel' reply.value env)) :
    InSync cw sel ⟨{ w.toExportState with
      bridge := w.bridge.offerX11TextToWayland sel' reply.value env }, { w.x with inbox := rest }⟩ := by
  -- the reply is for this selection or for the other
  by_cases hsel : sel' = sel
  · subst hsel
    simp only [propertyReply, Option.bind_some, Option.map_eq_some_iff] at hreply
    obtain ⟨st, hst, rfl⟩ := hreply
    obtain ⟨hnot, text, htext, hcurrent⟩ := importsCurrent hinbox hturn rfl hst
    obtain ⟨howned, -, hlength⟩ := h.owned_of_xText htext
    refine h.of_xText rfl rfl (hframe.outText sel') h.types ?_ fun _ => ?_
    · exact fun hr => absurd ((reads_iff_of_frame hframe _).mp hr) hnot
    -- the text is still the owner's, or a notification is on its way
    · rcases hcurrent with ⟨rfl, -, hsource⟩ | hnews
      · obtain ⟨hseat, hin⟩ := w.bridge.offerX11TextToWayland_source
          (st.value.value.take wlxClipboardMax) env sel' hsource
        left
        refine (seatText_of_bridge hseat).trans (hin.trans ?_)
        rw [htext, List.take_of_length_le hlength]
      · rw [hinv.window] at hnews
        exact Or.inr ⟨howned, awaits_of_news hnews⟩
  · obtain ⟨hseat, hin⟩ := w.bridge.offerX11TextToWayland_other reply.value env hsel
    exact h.of_same rfl rfl hseat hin (hframe.outText sel) (reads_iff_of_frame hframe _) h.types
      fun _ hon => hon.tail_notify hinbox (Or.inl hsel)

/-- The answer is not imported: it is the other selection's, or there is nothing, or there are news. -/
theorem refuses (h : InSync cw sel w) (hinv : w.Inv cw) {env : ImportEnv}
    (hturn : w.InTurn sel (.deliver env)) {sel' : Selection} {rest : List XEvent}
    (hinbox : w.x.inbox = .selectionNotify ⟨cw, sel'.toAtom, some sel'.property⟩ :: rest)
    (hreply : ∀ reply, propertyReply w.x (some sel'.property) = some reply →
      reply.value = [] ∨ reply.type = .incr ∨ env.text = false) :
    InSync cw sel ⟨w.toExportState, { w.x with inbox := rest }⟩ := by
  -- the other selection is not concerned
  have hother (hne : sel' ≠ sel ∨ w.x.property sel.property = none) :
      InSync cw sel ⟨w.toExportState, { w.x with inbox := rest }⟩ :=
    h.of_same rfl rfl rfl rfl rfl Iff.rfl h.types fun _ hon => hon.tail_notify hinbox hne
  by_cases hsel : sel' = sel
  · subst hsel
    cases hst : w.x.property sel'.property with
    | none => exact hother (Or.inr hst)
    | some st =>
      obtain ⟨-, text, htext, hcurrent⟩ := importsCurrent hinbox hturn rfl hst
      obtain ⟨howned, hpos, hlength⟩ := h.owned_of_xText htext
      rcases hcurrent with ⟨rfl, hmem, -⟩ | hnews
      · -- the text would have been imported
        have hnot := hreply { st.value with value := st.value.value.take wlxClipboardMax }
          (by simp [propertyReply, hst])
        rw [List.take_of_length_le hlength, h.types st hst, hmem] at hnot
        simp at hnot
        rw [hnot] at hpos
        cases hpos
      · rw [hinv.window] at hnews
        refine h.of_xText rfl rfl rfl h.types h.reads fun _ => ?_
        exact Or.inr ⟨howned, awaits_of_news hnews⟩
  · exact hother (Or.inl hsel)

/-- **Handling an event in turn.** One case for each thing it can come to. -/
theorem deliver (h : InSync cw sel w) (hinv : w.Inv cw) {env : ImportEnv}
    (hturn : w.InTurn sel (.deliver env)) (hen : w.enabled (.deliver env) = true) :
    InSync cw sel (w.handle (.deliver env)) := by
  cases hinbox : w.x.inbox with
  | nil => simp [enabled, hinbox] at hen
  | cons ev rest =>
    obtain ⟨s, x', hframe, -, hdelivers, heq⟩ := deliver_cases hinv hinbox env
    rw [heq]
    have hreads (x' : XServer) :
        (⟨{ w.toExportState with bridge := s }, x'⟩ : World).Reads sel ↔ w.Reads sel :=
      reads_iff_of_frame hframe x'
    cases hdelivers with
    | asks sel' owner s hforeign hsame =>
      refine h.of_same (by rw [ask_owner]) (by rw [ask_lastCopy]) (congrFun hsame.seat sel)
        (hsame.inText sel) (hframe.outText sel) (hreads _) ?_ ?_
      · intro st hst
        rw [ask_property, Function.update_apply] at hst
        split at hst
        · cases hst
        · exact h.types st hst
      · intro howned hon
        by_cases hsel : sel' = sel
        · subst hsel
          exact Awaits.ask howned
        · refine Awaits.ask_other (hon.tail hinbox ?_ ?_ ?_) hsel
          · rintro owner' - ⟨⟩
            exact hsel rfl
          · rintro - ⟨⟩
          · rintro - ⟨⟩
    | answers sel' s hsame =>
      refine h.of_same (by rw [answerSelf_owner]) (by rw [answerSelf_lastCopy])
        (congrFun hsame.seat sel) (hsame.inText sel) (hframe.outText sel) (hreads _) ?_ ?_
      · intro st hst
        cases htext : (w.bridge.channel sel').outText with
        | none =>
          rw [htext] at hst
          exact h.types st hst
        | some text =>
          rw [htext] at hst
          change Function.update w.x.property sel'.property _ sel.property = some st at hst
          rw [Function.update_apply] at hst
          split at hst
          · cases hst; rfl
          · exact h.types st hst
      · intro howned hon
        -- the bridge has answered itself, about this selection or about another one
        by_cases hself : sel' = sel ∧ w.x.owner sel = .bridge
        · obtain ⟨rfl, hbridge⟩ := hself
          obtain ⟨text, htext, -⟩ := h.owned howned
          simp only [xText, hbridge] at htext
          show Awaits cw sel' (answerSelf cw sel' (w.bridge.channel sel').outText _)
          rw [htext]
          exact Awaits.of_answerSelf text
        · refine (hon.tail hinbox ?_ ?_ ?_).answerSelf sel' _
          · rintro _ - ⟨⟩
          · rintro hbridge heq
            refine hself ⟨?_, hbridge⟩
            injection heq with heq
            injection heq with _ hatom
            exact Selection.toAtom_inj.mp hatom
          · rintro - ⟨⟩
    | imports sel' reply hreply hvalue htype hmem => exact h.imports hinv hturn hinbox hreply hframe
    | refuses sel' hreply => exact h.refuses hinv hturn hinbox hreply
    | nothing ev s hsame hxfixes hrequest hnotify =>
      refine h.of_same rfl rfl (congrFun hsame.seat sel) (hsame.inText sel) (hframe.outText sel)
        (hreads _) h.types fun _ hon => hon.tail hinbox ?_ ?_ ?_
      · rintro owner hforeign rfl
        exact hforeign (hxfixes sel owner rfl)
      · exact fun _ => hrequest sel
      · exact fun _ => hnotify sel

/-- **A selection change in turn.** -/
theorem select (h : InSync cw sel w) (hinv : w.Inv cw) {sel' : Selection} {source : Option Source}
    {env : ExportEnv} (hturn : w.InTurn sel (.seat (.select sel' source env)))
    (hen : w.toExportState.enabled (.select sel' source env) = true) :
    InSync cw sel (w.handle (.seat (.select sel' source env))) := by
  have hbridge := ExportState.handle_select w.toExportState sel' source env
  have heq : w.handle (.seat (.select sel' source env)) =
      ⟨w.toExportState.handle (.select sel' source env), w.x⟩ := by
    rcases seat_cases hinv hen with ⟨_, hpipe, -⟩ | heq
    · cases hpipe
    · exact heq
  rw [heq]
  generalize w.toExportState.handle (.select sel' source env) = e at hbridge
  have hchannel : e.bridge.channel = w.bridge.channel := (congrArg Bridge.channel hbridge :)
  have hseat : e.bridge.seat = Function.update w.bridge.seat sel' (source.elim .none .client) :=
    (congrArg Bridge.seat hbridge :)
  have hread := congrArg Bridge.read hbridge
  have hout : (e.bridge.channel sel).outText = (w.bridge.channel sel).outText := by rw [hchannel]
  by_cases hsel : sel' = sel
  · subst hsel
    simp only [InTurn, if_pos] at hturn
    obtain ⟨hsource, henv⟩ := hturn
    obtain ⟨src, rfl, hsrc⟩ := (Option.any_eq_true ..).mp hsource
    rw [Bool.and_eq_true, decide_eq_true_eq] at hsrc
    have hexp : w.bridge.exported sel' (some src) = some src := by
      simp [Bridge.exported, hsrc.1, hinv.side.setting sel']
    rw [hexp] at hread
    -- the read of the new text starts
    refine h.of_xText rfl rfl hout h.types (fun _ => ⟨src, ?_, hsrc⟩) fun hnot => absurd ?_ hnot
    · show e.bridge.seat sel' = _
      rw [hseat, Function.update_self]
      rfl
    · show e.bridge.read.reading = true ∧ e.bridge.read.target = sel'
      rw [hread]
      exact ⟨henv, rfl⟩
  · simp only [InTurn, if_neg hsel] at hturn
    refine h.of_same rfl rfl ?_ ?_ hout ?_ h.types fun _ hon => hon
    · show e.bridge.seat sel = _
      rw [hseat, Function.update_of_ne (Ne.symm hsel)]
    · show (e.bridge.channel sel).inText = _
      rw [hchannel]
    · show e.bridge.read.reading = true ∧ e.bridge.read.target = sel ↔ _
      rw [hread]
      cases hexp : w.bridge.exported sel' source with
      | none => exact Iff.rfl
      | some src =>
        rw [hexp] at hturn
        constructor
        · exact fun hr => absurd hr.2 hsel
        · exact fun hr => absurd (hturn hr) (by simp)

/-- What a read has collected is published: if it is this selection's, both sides have the whole text. -/
theorem publishes (h : InSync cw sel w) (hinv : w.Inv cw) {a : ExportAction}
    (ha : ExportState.ofPipe a = true) (hen : w.toExportState.enabled a = true) {env : PublishEnv}
    (he : w.toExportState.ending a = .publishes env)
    (hends : w.Reads sel → w.EndsWhole sel (.publishes env)) : InSync cw sel (w.handle (.seat a)) := by
  have hend := ExportState.handle_ending hinv.side ha hen
  rw [he] at hend
  obtain ⟨p, hp⟩ := ExportState.pipe_of_enabled ha hen
  have hreading : w.bridge.read.reading = true := by rw [← hinv.side.reading, hp]; rfl
  -- afterwards nothing is read
  have hnone (x : XServer) :
      ¬ (⟨⟨w.bridge.publishCollected env, none, false⟩, x⟩ : World).Reads sel :=
    fun hr => nomatch hr.1
  have hseat := congrFun (ExportState.publishCollected_seat w.bridge env) sel
  have hout := ExportState.outText_publishCollected w.bridge env sel
  by_cases hsel : w.bridge.read.target = sel
  · obtain ⟨src, hsrc, htype, hvalid⟩ := h.reads ⟨hreading, hsel⟩
    obtain ⟨hwhole, hmem⟩ := hends ⟨hreading, hsel⟩
    have htext : w.bridge.read.buf = src.text := by
      rw [← hinv.side.source p src hp (hsel ▸ hsrc) htype]
      rw [hp] at hwhole
      exact (Option.some.inj hwhole).symm
    have hbuf : w.bridge.read.buf ≠ [] := by
      rw [htext]
      exact List.ne_nil_of_length_pos hvalid.1
    rw [seat_publishes hinv ha hen he hbuf hmem, hend, hsel]
    rw [if_neg (by simp [hbuf, hsel]), if_pos hmem] at hout
    have howner : (take cw sel w.bridge.read.buf w.x).owner sel = .bridge :=
      Function.update_self ..
    have hx : (⟨⟨w.bridge.publishCollected env, none, false⟩,
        take cw sel w.bridge.read.buf w.x⟩ : World).xText sel = some w.bridge.read.buf :=
      (xText_of_bridge howner).trans hout
    have hlast : (take cw sel w.bridge.read.buf w.x).lastCopy sel = some w.bridge.read.buf :=
      Function.update_self ..
    refine ⟨hx.trans hlast.symm, fun _ => ⟨_, hx, htext ▸ hvalid⟩, h.types,
      fun hr => absurd hr (hnone _), fun _ => Or.inl ?_⟩
    rw [hx, htext]
    exact seatText_of_client (hseat.trans hsrc)
  · -- the other selection's
    rw [if_pos (Or.inr (Ne.symm hsel))] at hout
    have hin := ExportState.publishCollected_inText w.bridge env sel
    have hreads : ¬ w.Reads sel := fun hr => hsel hr.2
    rcases seat_cases hinv hen with ⟨_, -, -, -, -, heq⟩ | heq <;> rw [heq, hend]
    · exact h.of_same (Function.update_of_ne (Ne.symm hsel) ..)
        (Function.update_of_ne (Ne.symm hsel) ..) hseat hin hout
        (iff_of_false (hnone _) hreads) h.types fun _ hon => hon.take_other hsel _
    · exact h.of_same rfl rfl hseat hin hout (iff_of_false (hnone _) hreads) h.types
        fun _ hon => hon

/-- **An action of the pipe in turn.** -/
theorem ofPipe (h : InSync cw sel w) (hinv : w.Inv cw) {a : ExportAction}
    (ha : ExportState.ofPipe a = true) (hturn : w.InTurn sel (.seat a))
    (hen : w.toExportState.enabled a = true) : InSync cw sel (w.handle (.seat a)) := by
  have hends : w.Reads sel → w.EndsWhole sel (w.ending a) := by
    cases a with
    | select => cases ha
    | write | close => exact fun _ => trivial
    | callback mask env => exact hturn
    | read result env => exact hturn
  have hend := ExportState.handle_ending hinv.side ha hen
  obtain ⟨p, hp⟩ := ExportState.pipe_of_enabled ha hen
  have hreading : w.bridge.read.reading = true := by rw [← hinv.side.reading, hp]; rfl
  -- nothing is published, and the server hears nothing
  have hquiet (hnot : ∀ env, w.toExportState.ending a ≠ .publishes env) :
      w.handle (.seat a) = ⟨w.toExportState.handle a, w.x⟩ := by
    rcases seat_cases hinv hen with ⟨env, -, hpub, -⟩ | heq
    · exact absurd hpub (hnot env)
    · exact heq
  cases he : w.toExportState.ending a with
  | goesOn =>
    rw [he] at hend
    rw [hquiet (fun env h => by rw [he] at h; cases h)]
    refine h.of_same rfl rfl (congrFun hend.seat sel) ?_ ?_ ?_ h.types fun _ hon => hon
    · exact (congrArg Channel.inText (congrFun hend.channel sel) :)
    · exact (congrArg Channel.outText (congrFun hend.channel sel) :)
    · show (_ ∧ _) ↔ (_ ∧ _)
      rw [hend.reading, hend.target, hreading]
  | abandons =>
    rw [he] at hend hends
    rw [hquiet (fun env h => by rw [he] at h; cases h), hend]
    have hnone : ¬ (⟨⟨w.bridge.clipboardClearRead, none, false⟩, w.x⟩ : World).Reads sel :=
      fun hr => nomatch hr.1
    refine h.of_xText rfl rfl rfl h.types (fun hr => absurd hr hnone) fun _ => ?_
    by_cases hreads : w.Reads sel
    · exact Or.inl (hends hreads)
    · exact h.same hreads
  | publishes env =>
    rw [he] at hends
    exact h.publishes hinv ha hen he hends

/-- A client takes a selection. -/
theorem xCopy (h : InSync cw sel w) {sel' : Selection} {window : XWindow} {text : Text}
    (hturn : w.InTurn sel (.xCopy sel' window text)) (hforeign : window ≠ cw) :
    InSync cw sel (w.handle (.xCopy sel' window text)) := by
  show InSync cw sel ⟨w.toExportState, World.copy sel' window text w.x⟩
  by_cases hsel : sel' = sel
  · subst hsel
    -- the new owner is a client, of whom the bridge has to hear
    have howner : (World.copy sel' window text w.x).owner sel' = .client window text :=
      Function.update_self ..
    have hx : (⟨w.toExportState, World.copy sel' window text w.x⟩ : World).xText sel' = some text := by
      unfold xText
      rw [howner]
    have hlast : (World.copy sel' window text w.x).lastCopy sel' = some text := Function.update_self ..
    refine ⟨hx.trans hlast.symm, fun _ => ⟨text, hx, hturn rfl⟩, h.types, h.reads,
      fun _ => Or.inr ⟨?_, Awaits.of_copy hforeign text⟩⟩
    rw [howner]
    exact fun heq => nomatch heq
  · exact h.of_same (Function.update_of_ne (Ne.symm hsel) ..)
      (Function.update_of_ne (Ne.symm hsel) ..) rfl rfl rfl Iff.rfl h.types
      fun _ hon => hon.copy_other hsel window text

/-- A conversion is answered. -/
theorem xReply (h : InSync cw sel w) (hinv : w.Inv cw) {i : Nat} {text : Option Text}
    (hen : w.enabled (.xReply i text) = true) : InSync cw sel (w.handle (.xReply i text)) := by
  obtain ⟨c, hc, hmay⟩ := (Option.any_eq_true ..).mp hen
  have hcproperty := hinv.flight.conversions c (List.mem_of_getElem? hc)
  show InSync cw sel ⟨w.toExportState, World.answer w.bridge.clipboardWindow i text w.x⟩
  rw [hinv.window]
  -- the answer fills a property; owners and copies stay
  refine h.of_same (by rw [answer_owner]) (by rw [answer_lastCopy]) rfl rfl rfl Iff.rfl ?_
    fun _ hon => hon.answer hc hcproperty hmay
  intro st hst
  unfold World.answer at hst
  rw [hc] at hst
  cases text with
  | none => exact h.types st hst
  | some text =>
    change Function.update w.x.property c.property _ sel.property = some st at hst
    rw [Function.update_apply] at hst
    split at hst
    · cases hst; rfl
    · exact h.types st hst

/-- **A step in turn.** -/
theorem step (h : InSync cw sel w) (hinv : w.Inv cw) {a : WorldAction} (hturn : w.InTurn sel a)
    (hstep : w.step a = some w') : InSync cw sel w' := by
  obtain ⟨hen, rfl⟩ := step_eq_some.mp hstep
  -- one case per event, those of the seat split by whether the pipe is concerned
  cases a with
  | seat a =>
    cases ha : ExportState.ofPipe a with
    | true => exact h.ofPipe hinv ha hturn hen
    | false =>
      cases a with
      | write | close | callback | read => cases ha
      | select sel' source env => exact h.select hinv hturn hen
  | deliver env => exact h.deliver hinv hturn hen
  | xCopy sel' window text =>
    refine h.xCopy hturn ?_
    simpa [enabled, hinv.window] using hen
  | xRequest req =>
    exact h.of_same rfl rfl rfl rfl rfl Iff.rfl h.types fun _ hon =>
      hon.mono rfl (fun _ hmem => List.mem_append_left _ hmem) (fun _ hmem => hmem) id
  | xReply i text => exact h.xReply hinv hen

/-- At the start the bridge has asked for what the host has. -/
theorem init (cw : XWindow) (sel : Selection) {host : Selection → Option (XWindow × Text)}
    (hhost : ∀ window text, host sel = some (window, text) → text.Valid) :
    InSync cw sel (World.init cw host) := by
  -- both selections have been asked for, if somebody owned them
  rw [Inv.init_eq]
  have howner : (before cw host).x.owner sel =
      (host sel).elim .nobody fun entry => .client entry.1 entry.2 := rfl
  have hlast : (before cw host).x.lastCopy sel = (host sel).map (·.2) := rfl
  generalize (before cw host).x = x at howner hlast
  have hnone (st : Stored) : (ask cw .primary (ask cw .clipboard x)).property sel.property ≠ some st := by
    rw [ask_property, ask_property]
    cases sel <;> simp [Selection.property, Function.update]
  have hx : (⟨{ ExportState.init cw with bridge := (Bridge.fresh cw).clipboardInit },
      ask cw .primary (ask cw .clipboard x)⟩ : World).xText sel = (host sel).map (·.2) := by
    unfold xText
    rw [ask_owner, ask_owner, howner]
    cases host sel <;> rfl
  refine ⟨?_, ?_, fun st hst => absurd hst (hnone st), fun hr => Bool.noConfusion hr.1,
    fun _ => ?_⟩
  · rw [hx, ask_lastCopy, ask_lastCopy, hlast]
  · rw [hx, ask_owner, ask_owner, howner]
    cases hsel : host sel with
    | none => exact fun hnot => absurd rfl hnot
    | some entry => exact fun _ => ⟨entry.2, rfl, hhost entry.1 entry.2 hsel⟩
  · rw [hx, ask_owner, ask_owner, howner]
    cases hsel : host sel with
    | none => exact Or.inl rfl
    | some entry =>
      rw [hsel] at howner
      have howned : x.owner sel ≠ .nobody := by
        rw [howner]
        exact Owner.noConfusion
      refine Or.inr ⟨Owner.noConfusion, ?_⟩
      -- the clipboard is asked for first, and the second question does not undo it
      cases sel with
      | clipboard => exact (Awaits.ask howned).ask_other (by decide)
      | primary => exact Awaits.ask (by rw [ask_owner]; exact howned)

end InSync

/-- **The two sides agree.** Whatever the host has at the start, and in any order of copies on either
side, notifications, requests, answers and pipe reads: if every step is in turn, then in every state
with nothing in flight the seat and the X11 selection carry the same text, that of the copy that last
took the selection. -/
theorem selections_agree (clipboardWindow : XWindow) (sel : Selection)
    (host : Selection → Option (XWindow × Text)) (as : List WorldAction) (w : World)
    (hhost : ∀ window text, host sel = some (window, text) → text.Valid)
    (hturn : Run.Along step (InTurn sel) (init clipboardWindow host) as)
    (hrun : Run.run step (init clipboardWindow host) as = some w) (hquiet : w.Quiet) :
    w.seatText sel = w.xText sel ∧ w.xText sel = w.x.lastCopy sel := by
  have h : w.Inv clipboardWindow ∧ InSync clipboardWindow sel w := by
    refine Run.run_invariant_of_along (I := fun w => w.Inv clipboardWindow ∧
      InSync clipboardWindow sel w) ?_ ⟨Inv.init clipboardWindow host, .init _ sel hhost⟩ hturn hrun
    exact fun w a w' ⟨hinv, hsync⟩ ht hstep => ⟨hinv.step hstep, hsync.step hinv ht hstep⟩
  exact ⟨h.2.agree hquiet, h.2.last⟩

/-- A client's text is asked for; while its answer is on its way, a Wayland client's text is copied
over. -/
def answeredLate : List WorldAction :=
  [.deliver ⟨true, true⟩, .deliver ⟨true, true⟩, .xCopy .clipboard 7 [120], .deliver ⟨true, true⟩,
    .seat (.select .clipboard (some ⟨[.textPlain], [104, 105]⟩) ⟨true, true⟩), .seat (.write 2),
    .seat .close, .seat (.callback ⟨true, false, false⟩ ⟨true, true⟩),
    .seat (.read (.data 2 true) ⟨true, true⟩), .seat (.read .eof ⟨true, true⟩),
    .xReply 0 (some [120]), .deliver ⟨true, true⟩, .deliver ⟨true, true⟩]

/-- The late answer replaces the newer text on the seat, and only there. -/
theorem late_answer_splits_selection :
    ∃ w, Run.run step (init 1 fun _ => none) answeredLate = some w ∧ w.Quiet ∧
      w.seatText .clipboard = some [120] ∧ w.xText .clipboard = some [104, 105] := by
  have hrun : (Run.run step (init 1 fun _ => none) answeredLate).any (fun w =>
      decide (w.x.inbox = [] ∧ w.x.conversions = [] ∧ w.bridge.read.reading = false ∧
        w.seatText .clipboard = some [120] ∧ w.xText .clipboard = some [104, 105])) = true := by
    decide +kernel
  obtain ⟨w, hw, hchecks⟩ := (Option.any_eq_true ..).mp hrun
  obtain ⟨hinbox, hconv, hreading, htexts⟩ := of_decide_eq_true hchecks
  exact ⟨w, hw, ⟨hinbox, hconv, hreading⟩, htexts⟩

/-- A host on which window 7 owns CLIPBOARD. -/
def hostText : Selection → Option (XWindow × Text)
  | .clipboard => some (7, [120])
  | .primary => none

/-- The host has a text; a Wayland client copies another once that is imported, and then an X client
copies a third. -/
def copiedInTurn : List WorldAction :=
  [.xReply 0 (some [120]), .deliver ⟨true, true⟩, .deliver ⟨true, true⟩,
    .seat (.select .clipboard (some ⟨[.textPlain], [104, 105]⟩) ⟨true, true⟩), .seat (.write 2),
    .seat .close, .seat (.callback ⟨true, false, false⟩ ⟨true, true⟩),
    .seat (.read (.data 2 true) ⟨true, true⟩), .seat (.read .eof ⟨true, true⟩),
    .deliver ⟨true, true⟩, .xCopy .clipboard 8 [121], .deliver ⟨true, true⟩,
    .deliver ⟨true, true⟩, .xReply 0 (some [121]), .deliver ⟨true, true⟩]

theorem selections_agree_in_turn :
    ∃ w, Run.run step (init 1 hostText) copiedInTurn = some w ∧
      w.seatText .clipboard = w.xText .clipboard ∧
        w.xText .clipboard = w.x.lastCopy .clipboard := by
  have hrun : (Run.run step (init 1 hostText) copiedInTurn).any (fun w =>
      decide (w.x.inbox = [] ∧ w.x.conversions = [] ∧ w.bridge.read.reading = false)) = true := by
    decide +kernel
  obtain ⟨w, hw, hchecks⟩ := (Option.any_eq_true ..).mp hrun
  obtain ⟨hinbox, hconv, hreading⟩ := of_decide_eq_true hchecks
  refine ⟨w, hw, selections_agree 1 .clipboard hostText copiedInTurn w ?_ ?_ hw
    ⟨hinbox, hconv, hreading⟩⟩
  · rintro window text ⟨⟩
    decide
  · decide +kernel

end World

end Wlx
