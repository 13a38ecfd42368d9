import WlX11.Keyboard

/-!
# WlX11 — every client knows its keys

A client learns of the keyboard only by what its `wl_keyboard`s receive. This is the same as what the keyboard
is, in every order of keys, focus changes, grabs and clients that come and go; except that a drag keeps keys
to itself, and that the keyboard remembers no more than it has room for.

* **`Each`**, **`Tells`** — what all of them make of what they have heard; **`Heard`** is the invariant.
* **`Heard.keyEvent`**, **`Heard.enter`**, **`Heard.createKeyboard`** — how it is kept.
* **`Unmoved`** — what a key event does not change.
* **`keyboards_orderly`** — `wl_keyboard` is kept to.
* **`mirrored_iff_audible`** — the focused client knows the keyboard, as long as it hears of each key.
-/

namespace Wlx

namespace KeyboardSeat

variable {S : Type} {xkb : Xkb S} {owner : Nat → Nat} {s t : KeyboardSeat S} {c : Nat} {tuned : Prop}

/-! ## What all of them know -/

/-- Each `wl_keyboard` there is has heard what makes sense, and what it makes of it is `P`. -/
def Each (s : KeyboardSeat S) (P : Nat → KeyboardView → Prop) : Prop :=
  ∀ k ∈ s.clients, ∀ r ∈ k.keyboards, ∃ v, r.view = some v ∧ P k.client v

/-- Inside the focused surface, and only there, with what is known there. -/
def Tells (client surface : Option Nat) (K : KeyboardView → Prop) (c : Nat) (v : KeyboardView) : Prop :=
  if client = some c then v.inside = surface ∧ K v else v.inside = none

/-- What is known of the keyboard. -/
def Knows (s : KeyboardSeat S) (tuned : Prop) (v : KeyboardView) : Prop :=
  tuned → v.keys = s.keyboard.keycodes.toFinset ∧ v.modifiers = some s.keyboard.modifiers

/-- What holds in every state; if the client is `tuned`, it knows the keyboard as well. -/
structure Heard (owner : Nat → Nat) (tuned : Prop) (s : KeyboardSeat S) : Prop where
  focusedOwner : ∀ c, s.focusedClient = some c → ∃ f, s.focusedSurface = some f ∧ owner f = c
  within : SmallSet.Within keysCap s.keyboard.keycodes
  told : s.Each (Tells s.focusedClient s.focusedSurface (s.Knows tuned))

/-- Who there is to hear of things. -/
def roster (s : KeyboardSeat S) : List (Nat × List Nat) :=
  s.clients.map fun k => (k.client, k.keyboards.map (·.id))

variable {P Q : Nat → KeyboardView → Prop} {event : KeyboardEvent}

/-- What is known may be weakened. -/
theorem Each.mono (h : s.Each P) (hPQ : ∀ k v, P k v → Q k v) : s.Each Q := by
  intro k hk r hr
  obtain ⟨v, hv, hP⟩ := h k hk r hr
  exact ⟨v, hv, hPQ _ _ hP⟩

/-- What a client makes of one more event starts from what it made of the others. -/
theorem view_received (r : SeatKeyboard) (event : KeyboardEvent) :
    SeatKeyboard.view { r with received := r.received ++ [event] } = r.view.bind fun v => v.hear event := by
  unfold SeatKeyboard.view
  rw [Run.run_append]
  refine Option.bind_congr fun v _ => ?_
  rw [Run.run_cons]
  cases v.hear event <;> rfl

/-- **An event is sent.** Those who receive it make sense of it. -/
theorem Each.sendWhere (h : s.Each P) {p : Nat → Bool}
    (hc : ∀ k ∈ s.clients, k.client = c → ∀ r ∈ k.keyboards, ∀ v ∈ r.view, P c v →
      if p r.id then ∃ v', v.hear event = some v' ∧ Q c v' else Q c v)
    (helse : ∀ k v, k ≠ c → P k v → Q k v) : (s.sendWhere c p event).Each Q := by
  intro k' hk' r' hr'
  obtain ⟨k, hk, rfl⟩ := List.mem_map.mp hk'
  -- the client is told, or its record stays as it was
  by_cases hkc : k.client = c
  · rw [if_pos hkc] at hr' ⊢
    obtain ⟨r, hr, rfl⟩ := List.mem_map.mp hr'
    obtain ⟨v, hv, hP⟩ := h k hk r hr
    have hQ := hc k hk hkc r hr v hv (hkc ▸ hP)
    dsimp only
    split_ifs at hQ ⊢
    · obtain ⟨v', hv', hQ⟩ := hQ
      refine ⟨v', ?_, hkc ▸ hQ⟩
      rw [view_received, hv]
      exact hv'
    · exact ⟨v, hv, hkc ▸ hQ⟩
  · rw [if_neg hkc] at hr' ⊢
    obtain ⟨v, hv, hP⟩ := h k hk r' hr'
    exact ⟨v, hv, helse _ _ hkc hP⟩

/-- The same of an event for all the `wl_keyboard`s of a client. -/
theorem Each.send (h : s.Each P) (hc : ∀ v, P c v → ∃ v', v.hear event = some v' ∧ Q c v')
    (helse : ∀ k v, k ≠ c → P k v → Q k v) : (s.send c event).Each Q := by
  refine h.sendWhere (fun k _ _ r _ v _ hP => ?_) helse
  rw [if_pos rfl]
  exact hc v hP

/-- Who is inside does not depend on what is known there. -/
theorem Tells.mono {client surface : Option Nat} {K K' : KeyboardView → Prop} {v : KeyboardView}
    (h : Tells client surface K c v) (hK : K v → K' v) : Tells client surface K' c v := by
  unfold Tells at h ⊢
  split_ifs at h ⊢
  · exact ⟨h.1, hK h.2⟩
  · exact h

/-- An event for the focused surface is heard there. -/
theorem Each.sendFocused {client surface : Option Nat} {K K' : KeyboardView → Prop}
    (h : s.Each (Tells client surface K)) (hclient : client = some c)
    (hc : ∀ v, v.inside = surface → K v → ∃ v', v.hear event = some v' ∧ v'.inside = surface ∧ K' v') :
    (s.send c event).Each (Tells client surface K') := by
  refine h.send (fun v hv => ?_) fun k v hk hv => ?_
  · unfold Tells at hv ⊢
    rw [if_pos hclient] at hv
    obtain ⟨v', hv', hinside, hK⟩ := hc v hv.1 hv.2
    exact ⟨v', hv', (if_pos hclient).mpr ⟨hinside, hK⟩⟩
  · unfold Tells at hv ⊢
    have hne : client ≠ some k := by
      rw [hclient]
      exact fun heq => hk (Option.some.inj heq).symm
    rw [if_neg hne] at hv ⊢
    exact hv

/-! ## Keys and modifiers -/

/-- A key is sent, and nothing else is done. -/
theorem sendKey_only (keycode : UInt32) (pressed : Bool) :
    s.sendKey keycode pressed = { s with clients := (s.sendKey keycode pressed).clients } := by
  unfold sendKey
  split <;> rfl

/-- The same of the modifiers. -/
theorem sendModifiers_only (modifiers : Option Modifiers) :
    s.sendModifiers modifiers = { s with clients := (s.sendModifiers modifiers).clients } := by
  unfold sendModifiers
  split <;> rfl

/-- Whatever grab there is, it does no more than send the key. -/
theorem keyboardKey_only (keycode : UInt32) (pressed : Bool) :
    s.keyboardKey keycode pressed = { s with clients := (s.keyboardKey keycode pressed).clients } := by
  unfold keyboardKey
  split
  · exact sendKey_only _ _
  · exact sendKey_only _ _
  · rfl

/-- Whatever grab there is, it does no more than send the modifiers. -/
theorem keyboardModifiers_only :
    s.keyboardModifiers = { s with clients := s.keyboardModifiers.clients } := by
  unfold keyboardModifiers
  split
  · exact sendModifiers_only _
  · exact sendModifiers_only _
  · rfl

/-- The focused surface is told the modifiers. -/
theorem sendModifiers_told {K K' : KeyboardView → Prop} {modifiers : Modifiers}
    (hfocus : ∀ c, s.focusedClient = some c → s.focusedSurface.isSome = true)
    (h : s.Each (Tells s.focusedClient s.focusedSurface K))
    (hK : ∀ v, K v → K' { v with modifiers := some modifiers }) :
    (s.sendModifiers (some modifiers)).Each (Tells s.focusedClient s.focusedSurface K') := by
  unfold sendModifiers
  split
  · rename_i hnone
    rw [hnone] at h ⊢
    exact h.mono fun k v hv => hv
  · rename_i c hc
    refine h.sendFocused hc fun v hinside hv => ⟨_, if_pos ?_, hinside, hK v hv⟩
    rw [hinside]
    exact hfocus c hc

/-- The focused surface is told of a key. -/
theorem sendKey_told {K K' : KeyboardView → Prop} {keycode : UInt32} {pressed : Bool}
    (hfocus : ∀ c, s.focusedClient = some c → s.focusedSurface.isSome = true)
    (h : s.Each (Tells s.focusedClient s.focusedSurface K))
    (hK : ∀ v, K v →
      K' { v with keys := if pressed then insert keycode v.keys else v.keys.erase keycode }) :
    (s.sendKey keycode pressed).Each (Tells s.focusedClient s.focusedSurface K') := by
  unfold sendKey
  split
  · rename_i hnone
    rw [hnone] at h ⊢
    exact h.mono fun k v hv => hv
  · rename_i c hc
    refine h.sendFocused hc fun v hinside hv => ⟨_, if_pos ?_, hinside, hK v hv⟩
    rw [hinside]
    exact hfocus c hc

/-- What is known of the keys is not changed by the modifiers. -/
theorem modifierUpdate_told {K : KeyboardView → Prop}
    (hfocus : ∀ c, s.focusedClient = some c → s.focusedSurface.isSome = true)
    (h : s.Each (Tells s.focusedClient s.focusedSurface K))
    (hK : ∀ v modifiers, K v → K { v with modifiers := modifiers }) :
    (s.modifierUpdate xkb).Each (Tells s.focusedClient s.focusedSurface K) := by
  unfold modifierUpdate
  split
  · exact h
  · dsimp only
    split_ifs
    · exact h
    · unfold keyboardModifiers
      split
      · exact sendModifiers_told hfocus h fun v hv => hK v _ hv
      · exact sendModifiers_told hfocus h fun v hv => hK v _ hv
      · exact h

/-- There is no focused client without a focused surface. -/
theorem Heard.focus (h : s.Heard owner tuned) (c : Nat) (hc : s.focusedClient = some c) :
    s.focusedSurface.isSome = true := by
  obtain ⟨f, hf, -⟩ := h.focusedOwner c hc
  rw [hf]
  rfl

/-- The keyboard's modifiers have changed. -/
theorem Heard.keyboardModifiers (h : s.Heard owner tuned) (hgrab : tuned → s.grab ≠ .drag)
    (modifiers : Modifiers) :
    ({ s with keyboard := { s.keyboard with modifiers := modifiers } }.keyboardModifiers).Heard owner
      tuned := by
  rw [keyboardModifiers_only]
  refine ⟨h.focusedOwner, h.within, ?_⟩
  -- outside a drag the focused client is told
  have hsent : ({ s with keyboard := { s.keyboard with modifiers := modifiers } }.sendModifiers
      (some modifiers)).Each (Tells s.focusedClient s.focusedSurface fun v =>
        tuned → v.keys = s.keyboard.keycodes.toFinset ∧ v.modifiers = some modifiers) :=
    sendModifiers_told (s := { s with keyboard := { s.keyboard with modifiers := modifiers } }) h.focus h.told
      fun v hv htuned => ⟨(hv htuned).1, rfl⟩
  unfold KeyboardSeat.keyboardModifiers
  split
  · exact hsent
  · exact hsent
  · rename_i hdrag
    exact h.told.mono fun k v hv => hv.mono fun _ htuned => absurd hdrag (hgrab htuned)

/-- What the keymap makes of keys is not known to anyone. -/
theorem Heard.setXkb (h : s.Heard owner tuned) (xkbState : Option S) :
    ({ s with keyboard := { s.keyboard with xkbState := xkbState } }).Heard owner tuned :=
  ⟨h.focusedOwner, h.within, h.told⟩

/-- Modifiers that change are sent before anything else happens. -/
theorem Heard.modifierUpdate (h : s.Heard owner tuned) (hgrab : tuned → s.grab ≠ .drag) :
    (s.modifierUpdate xkb).Heard owner tuned := by
  unfold KeyboardSeat.modifierUpdate
  split
  · exact h
  · dsimp only
    split_ifs
    · exact h
    · exact h.keyboardModifiers hgrab _

/-- The backend's modifiers go the same way. -/
theorem Heard.notifyModifiers (xkb : Xkb S) (h : s.Heard owner tuned) (hgrab : tuned → s.grab ≠ .drag)
    (modifiers : Modifiers) : (s.notifyModifiers xkb modifiers).Heard owner tuned := by
  unfold KeyboardSeat.notifyModifiers
  split
  · split_ifs
    · exact h
    · exact h.keyboardModifiers hgrab modifiers
  · exact (h.setXkb _).modifierUpdate hgrab

/-- A key is pressed or released, and the focused surface is told. -/
theorem Heard.keyboardKey (h : s.Heard owner tuned) (hgrab : tuned → s.grab ≠ .drag) {keycode : UInt32}
    {pressed : Bool}
    (hroom : tuned → pressed = true → keycode ∈ s.keyboard.keycodes ∨ s.keyboard.keycodes.length ≠ keysCap) :
    ({ s with keyboard := s.keyboard.keyUpdate keycode pressed }.keyboardKey keycode pressed).Heard owner
      tuned := by
  have hwithin : SmallSet.Within keysCap (s.keyboard.keyUpdate keycode pressed).keycodes := by
    unfold WlrKeyboard.keyUpdate
    dsimp only
    split_ifs
    · exact h.within.add keycode
    · exact h.within.remove keycode
  rw [keyboardKey_only]
  refine ⟨h.focusedOwner, hwithin, ?_⟩
  have hsent : ({ s with keyboard := s.keyboard.keyUpdate keycode pressed }.sendKey keycode pressed).Each
      (Tells s.focusedClient s.focusedSurface fun v =>
        tuned → v.keys = (s.keyboard.keyUpdate keycode pressed).keycodes.toFinset ∧
          v.modifiers = some s.keyboard.modifiers) := by
    -- what the client holds moves with the keyboard, as long as there is room
    refine sendKey_told (s := { s with keyboard := s.keyboard.keyUpdate keycode pressed }) h.focus h.told
      fun v hv htuned => ⟨?_, (hv htuned).2⟩
    unfold WlrKeyboard.keyUpdate
    dsimp only
    rw [(hv htuned).1]
    cases hpressed : pressed with
    | true => exact (SmallSet.toFinset_add (hroom htuned hpressed)).symm
    | false => exact (SmallSet.toFinset_remove h.within.nodup keycode).symm
  unfold KeyboardSeat.keyboardKey
  split
  · exact hsent
  · exact hsent
  -- a drag keeps keys from the client
  · rename_i hdrag
    exact h.told.mono fun k v hv => hv.mono fun _ htuned => absurd hdrag (hgrab htuned)

/-- A key the keyboard notes is sent, and what it does to the modifiers after it. -/
theorem Heard.notifyKey (h : s.Heard owner tuned) (hgrab : tuned → s.grab ≠ .drag) {keycode : UInt32}
    {pressed : Bool}
    (hroom : tuned → pressed = true → keycode ∈ s.keyboard.keycodes ∨ s.keyboard.keycodes.length ≠ keysCap) :
    (s.notifyKey xkb keycode pressed).Heard owner tuned := by
  have hkey := h.keyboardKey hgrab hroom
  have hsame : ({ s with keyboard := s.keyboard.keyUpdate keycode pressed }.keyboardKey keycode
      pressed).grab = s.grab := by
    rw [keyboardKey_only]
  unfold KeyboardSeat.notifyKey
  dsimp only
  split
  · exact hkey
  · exact (hkey.setXkb _).modifierUpdate fun htuned hdrag => hgrab htuned (hsame.symm.trans hdrag)

/-- The keyboard has changed, and things have been sent. -/
structure Unmoved (s t : KeyboardSeat S) : Prop where
  only : t = { s with keyboard := t.keyboard, clients := t.clients }
  roster : t.roster = s.roster

theorem Unmoved.refl (s : KeyboardSeat S) : s.Unmoved s := ⟨rfl, rfl⟩

theorem Unmoved.trans {u : KeyboardSeat S} (h : s.Unmoved t) (h' : t.Unmoved u) : s.Unmoved u :=
  ⟨by rw [h'.only, h.only], h'.roster.trans h.roster⟩

theorem unmoved_keyboard (keyboard : WlrKeyboard S) : s.Unmoved { s with keyboard := keyboard } := ⟨rfl, rfl⟩

/-- To send is to add to what is received. -/
theorem unmoved_sendWhere (p : Nat → Bool) : s.Unmoved (s.sendWhere c p event) := by
  refine ⟨rfl, ?_⟩
  unfold roster sendWhere
  rw [List.map_map]
  refine List.map_congr_left fun k _ => ?_
  simp only [Function.comp]
  split_ifs
  · rw [List.map_map]
    refine congrArg (k.client, ·) (List.map_congr_left fun r _ => ?_)
    simp only [Function.comp]
    split_ifs <;> rfl
  · rfl

/-- All three grabs leave the focus, and who there is. -/
theorem unmoved_keyboardModifiers (s : KeyboardSeat S) : s.Unmoved s.keyboardModifiers := by
  have hsend : s.Unmoved (s.sendModifiers (some s.keyboard.modifiers)) := by
    unfold sendModifiers
    split
    · exact .refl s
    · exact unmoved_sendWhere _
  unfold keyboardModifiers
  split
  · exact hsend
  · exact hsend
  · exact .refl s

/-- All three grabs leave the focus, and who there is, for a key too. -/
theorem unmoved_keyboardKey (s : KeyboardSeat S) (keycode : UInt32) (pressed : Bool) :
    s.Unmoved (s.keyboardKey keycode pressed) := by
  have hsend : s.Unmoved (s.sendKey keycode pressed) := by
    unfold sendKey
    split
    · exact .refl s
    · exact unmoved_sendWhere _
  unfold keyboardKey
  split
  · exact hsend
  · exact hsend
  · exact .refl s

theorem unmoved_modifierUpdate (s : KeyboardSeat S) : s.Unmoved (s.modifierUpdate xkb) := by
  unfold modifierUpdate
  split
  · exact .refl s
  · dsimp only
    split_ifs
    · exact .refl s
    · exact (unmoved_keyboard _).trans (unmoved_keyboardModifiers _)

theorem unmoved_notifyModifiers (xkb : Xkb S) (s : KeyboardSeat S) (modifiers : Modifiers) :
    s.Unmoved (s.notifyModifiers xkb modifiers) := by
  unfold notifyModifiers
  split
  · split_ifs
    · exact .refl s
    · exact (unmoved_keyboard _).trans (unmoved_keyboardModifiers _)
  · exact (unmoved_keyboard _).trans (unmoved_modifierUpdate _)

theorem unmoved_notifyKey (s : KeyboardSeat S) (keycode : UInt32) (pressed : Bool) :
    s.Unmoved (s.notifyKey xkb keycode pressed) := by
  have hkey := (unmoved_keyboard (s := s) (s.keyboard.keyUpdate keycode pressed)).trans
    (unmoved_keyboardKey _ keycode pressed)
  unfold notifyKey
  dsimp only
  split
  · exact hkey
  · exact hkey.trans ((unmoved_keyboard _).trans (unmoved_modifierUpdate _))

/-- A key event moves no focus: this is left to focus changes. -/
theorem unmoved_keyEvent (xkb : Xkb S) (s : KeyboardSeat S) (pressed isRepeat : Bool) (detail : UInt32)
    (modifiers : Modifiers) : s.Unmoved (s.keyEvent xkb pressed isRepeat detail modifiers) := by
  unfold keyEvent
  split_ifs
  · exact .refl s
  · exact (unmoved_notifyModifiers xkb s modifiers).trans (unmoved_notifyKey _ _ _)

theorem Unmoved.grab_eq (h : s.Unmoved t) : t.grab = s.grab := by
  rw [h.only]

theorem Unmoved.focusedClient_eq (h : s.Unmoved t) : t.focusedClient = s.focusedClient := by
  rw [h.only]

/-- There is nobody to hear of a key. -/
def Deaf (s : KeyboardSeat S) : Prop := ∀ e ∈ s.roster, s.focusedClient = some e.1 → e.2 = []

/-- A key event neither brings a `wl_keyboard` nor takes one. -/
theorem Unmoved.deaf_iff (h : s.Unmoved t) : t.Deaf ↔ s.Deaf := by
  unfold Deaf
  rw [h.roster, h.focusedClient_eq]

theorem Deaf.keyboards (h : s.Deaf) {k : SeatClient} (hk : k ∈ s.clients)
    (hfocused : s.focusedClient = some k.client) : k.keyboards = [] :=
  List.map_eq_nil_iff.mp (h _ (List.mem_map.mpr ⟨k, hk, rfl⟩) hfocused)

/-- If the state is not deaf, there is someone to hear. -/
theorem exists_of_not_deaf (h : ¬ s.Deaf) :
    ∃ k ∈ s.clients, s.focusedClient = some k.client ∧ ∃ r, r ∈ k.keyboards := by
  unfold Deaf at h
  push Not at h
  obtain ⟨e, he, hfocused, hsome⟩ := h
  obtain ⟨k, hk, rfl⟩ := List.mem_map.mp he
  obtain ⟨i, hi⟩ := List.exists_mem_of_ne_nil _ hsome
  obtain ⟨r, hr, -⟩ := List.mem_map.mp hi
  exact ⟨k, hk, hfocused, r, hr⟩

/-- The modifiers are kept apart from the keys. -/
theorem modifierUpdate_keycodes (s : KeyboardSeat S) :
    (s.modifierUpdate xkb).keyboard.keycodes = s.keyboard.keycodes := by
  unfold modifierUpdate
  split
  · rfl
  · dsimp only
    split_ifs
    · rfl
    · rw [keyboardModifiers_only]

theorem notifyModifiers_keycodes (xkb : Xkb S) (s : KeyboardSeat S) (modifiers : Modifiers) :
    (s.notifyModifiers xkb modifiers).keyboard.keycodes = s.keyboard.keycodes := by
  unfold notifyModifiers
  split
  · split_ifs
    · rfl
    · rw [keyboardModifiers_only]
  · exact modifierUpdate_keycodes _

/-- A key event is heard, if no drag keeps it. -/
theorem Heard.keyEvent (h : s.Heard owner tuned) {pressed isRepeat : Bool} {detail : UInt32}
    {modifiers : Modifiers} (hgrab : tuned → s.grab ≠ .drag)
    (hroom : tuned → pressed = true →
      detail - 8 ∈ s.keyboard.keycodes ∨ s.keyboard.keycodes.length ≠ keysCap) :
    (s.keyEvent xkb pressed isRepeat detail modifiers).Heard owner tuned := by
  have hsameGrab := (unmoved_notifyModifiers xkb s modifiers).grab_eq
  have hsameKeys := notifyModifiers_keycodes xkb s modifiers
  unfold KeyboardSeat.keyEvent
  split_ifs
  · exact h
  · refine (h.notifyModifiers xkb hgrab modifiers).notifyKey (fun htuned => ?_) fun htuned hpressed => ?_
    · rw [hsameGrab]
      exact hgrab htuned
    · rw [hsameKeys]
      exact hroom htuned hpressed

/-! ## The focus -/

/-- Nobody is inside after the focused surface is left. -/
theorem Heard.leave (h : s.Heard owner tuned) : s.leave.Each fun _ v => v.inside = none := by
  unfold KeyboardSeat.leave
  split
  -- those inside were the focused client's, and they are told to leave
  · rename_i c f hc hf
    refine h.told.send (fun v hv => ?_) fun k v hk hv => ?_
    · unfold Tells at hv
      rw [if_pos hc, hf] at hv
      exact ⟨_, if_pos hv.1, rfl⟩
    · unfold Tells at hv
      have hne : s.focusedClient ≠ some k := by
        rw [hc]
        exact fun heq => hk (Option.some.inj heq).symm
      rwa [if_neg hne] at hv
  -- without a focus nobody was inside
  · rename_i hnone
    have hno : ∀ c, s.focusedClient ≠ some c := by
      intro c hc
      obtain ⟨f, hf, -⟩ := h.focusedOwner c hc
      exact hnone c f hc hf
    refine h.told.mono fun k v hv => ?_
    unfold Tells at hv
    rwa [if_neg (hno k)] at hv

/-- Only the client that is asked for is found. -/
theorem clientFor_eq_some {c' : Nat} (h : s.clientFor c = some c') : c' = c := by
  obtain ⟨k, hk, rfl⟩ := Option.map_eq_some_iff.mp h
  simpa using List.find?_some hk

/-- The old surface is left before anything else is done about the focus. -/
theorem leave_only (s : KeyboardSeat S) : ∃ clients, s.leave = { s with clients := clients } := by
  unfold leave
  split
  · exact ⟨_, rfl⟩
  · exact ⟨_, rfl⟩

/-- **The focus moves.** The old surface is left, the new one entered with what the keyboard is. -/
theorem Heard.enter (h : s.Heard owner tuned) {surface : Option Nat} {keycodes : List UInt32}
    {modifiers : Option Modifiers}
    (hnew : surface.isSome = true → keycodes = s.keyboard.keycodes ∧ modifiers = some s.keyboard.modifiers) :
    (s.enter owner surface keycodes modifiers).Heard owner tuned := by
  unfold KeyboardSeat.enter
  split
  · exact h
  · have hleft := h.leave
    obtain ⟨clients, hleave⟩ := leave_only s
    rw [hleave] at hleft ⊢
    have houtside : ∀ surface, { s with
        clients := clients, focusedClient := none, focusedSurface := surface }.Heard owner tuned :=
      fun surface => ⟨nofun, h.within, hleft.mono fun k v hv => (if_neg nofun).mpr hv⟩
    cases surface with
    -- no surface: the keyboard is left to nobody
    | none => exact houtside none
    | some f =>
      obtain ⟨rfl, rfl⟩ := hnew rfl
      cases hclient : s.clientFor (owner f) with
      | none =>
        simp only [Option.bind_some, hclient]
        exact houtside (some f)
      | some c =>
        obtain rfl := clientFor_eq_some hclient
        -- `enter` carries the keys, and the modifiers follow
        simp only [Option.bind_some, hclient, Option.isSome_some, if_true]
        have hentered : ({ s with clients := clients }.send (owner f) (.enter f s.keyboard.keycodes)).Each
            (Tells (some (owner f)) (some f) fun v => v.keys = s.keyboard.keycodes.toFinset) := by
          refine hleft.send (fun v hv => ⟨_, if_pos hv, (if_pos rfl).mpr ⟨rfl, rfl⟩⟩) fun k v hk hv => ?_
          exact (if_neg fun heq => hk (Option.some.inj heq).symm).mpr hv
        rw [sendModifiers_only]
        refine ⟨fun c hc => ⟨f, rfl, Option.some.inj hc⟩, h.within, ?_⟩
        exact sendModifiers_told (fun _ _ => rfl) hentered fun v hv _ => ⟨hv, rfl⟩

/-! ## Clients -/

/-- Who is gone need not know anything. -/
theorem Heard.sublist (h : s.Heard owner tuned) {clients : List SeatClient}
    (hsub : ∀ k ∈ clients, ∃ k' ∈ s.clients, k'.client = k.client ∧ k.keyboards ⊆ k'.keyboards) :
    { s with clients := clients }.Heard owner tuned := by
  refine ⟨h.focusedOwner, h.within, fun k hk r hr => ?_⟩
  obtain ⟨k', hk', hclient, hkeyboards⟩ := hsub k hk
  exact hclient ▸ h.told k' hk' r (hkeyboards hr)

/-- A client comes or goes, and the focused one may be another. -/
theorem Heard.refocus (h : s.Heard owner tuned) {clients : List SeatClient} {client : Option Nat}
    (howner : ∀ c, client = some c → ∃ f, s.focusedSurface = some f ∧ owner f = c)
    (hclients : ∀ k ∈ clients, k.keyboards = [] ∨
      k ∈ s.clients ∧ (client = some k.client ↔ s.focusedClient = some k.client)) :
    { s with clients := clients, focusedClient := client }.Heard owner tuned := by
  refine ⟨howner, h.within, fun k hk r hr => ?_⟩
  rcases hclients k hk with hnew | ⟨hk, hsame⟩
  · rw [hnew] at hr
    cases hr
  · obtain ⟨v, hv, htells⟩ := h.told k hk r hr
    exact ⟨v, hv, (if_congr hsame rfl rfl).mpr htells⟩

/-- A client that binds the seat has no `wl_keyboard` yet; but it may turn out to have the focus. -/
theorem Heard.bindSeat (h : s.Heard owner tuned) (c : Nat) : (s.bindSeat owner c).Heard owner tuned := by
  unfold KeyboardSeat.bindSeat
  split
  · refine h.sublist fun k hk => ?_
    obtain ⟨k', hk', rfl⟩ := List.mem_map.mp hk
    refine ⟨k', hk', ?_⟩
    split_ifs
    · exact ⟨rfl, fun _ => id⟩
    · exact ⟨rfl, fun _ => id⟩
  -- a client that has bound the seat before is counted once more; this one is new
  · rename_i hnone
    have hnew : ∀ k ∈ s.clients, k.client ≠ c := by
      intro k hk hkc
      have hfind := List.find?_eq_none.mp (Option.map_eq_none_iff.mp hnone) k hk
      exact hfind (decide_eq_true hkc)
    have hothers : ∀ k ∈ (⟨c, 1, []⟩ :: s.clients : List SeatClient), k.keyboards = [] ∨ k ∈ s.clients :=
      fun k hk => (List.mem_cons.mp hk).imp_left fun heq => by rw [heq]
    have hadded : ∀ client, client = s.focusedClient ∨
        client = some c ∧ (∃ f, s.focusedSurface = some f ∧ owner f = c) →
        { s with clients := ⟨c, 1, []⟩ :: s.clients, focusedClient := client }.Heard owner tuned := by
      -- the focus stays with whom it was, or the surface in focus is this client's
      rintro client (rfl | ⟨rfl, f, hf, hc⟩)
      · exact h.refocus h.focusedOwner fun k hk => (hothers k hk).imp_right fun hk => ⟨hk, Iff.rfl⟩
      · refine h.refocus (fun k hk => ⟨f, hf, hc.trans (Option.some.inj hk)⟩) fun k hk =>
          (hothers k hk).imp_right fun hk => ⟨hk, fun heq => ?_, fun heq => ?_⟩
        · exact absurd (Option.some.inj heq).symm (hnew k hk)
        · obtain ⟨f', hf', hk'⟩ := h.focusedOwner _ heq
          rw [hf] at hf'
          cases hf'
          exact absurd (hk'.symm.trans hc) (hnew k hk)
    -- a surface of the new client may have the focus already
    refine hadded _ ?_
    split
    · rename_i f hf
      split_ifs with hc
      · exact .inr ⟨rfl, f, hf, hc⟩
      · exact .inl rfl
    · exact .inl rfl

/-- With its last `wl_seat` a client loses its `wl_keyboard`s, and the focus. -/
theorem Heard.releaseSeat (h : s.Heard owner tuned) (c : Nat) : (s.releaseSeat c).Heard owner tuned := by
  unfold KeyboardSeat.releaseSeat
  split
  · refine h.refocus (fun k hk => ?_) fun k hk => .inr ?_
    -- its `wl_keyboard`s go with its last `wl_seat`; if it had the focus, nobody has
    · split_ifs at hk
      exact h.focusedOwner k hk
    · obtain ⟨hk, hkc⟩ := List.mem_filter.mp hk
      refine ⟨hk, ?_⟩
      split_ifs with hc
      · rw [hc]
        exact ⟨nofun, fun heq => absurd (Option.some.inj heq).symm (of_decide_eq_true hkc)⟩
      · rfl
  · refine h.sublist fun k hk => ?_
    obtain ⟨k', hk', rfl⟩ := List.mem_map.mp hk
    refine ⟨k', hk', ?_⟩
    split_ifs
    · exact ⟨rfl, fun _ => id⟩
    · exact ⟨rfl, fun _ => id⟩

/-- A `wl_keyboard` fewer. -/
theorem Heard.destroyKeyboard (h : s.Heard owner tuned) (c id : Nat) :
    (s.destroyKeyboard c id).Heard owner tuned := by
  refine h.sublist fun k hk => ?_
  obtain ⟨k', hk', rfl⟩ := List.mem_map.mp hk
  refine ⟨k', hk', ?_⟩
  split_ifs
  · exact ⟨rfl, List.filter_subset_self _⟩
  · exact ⟨rfl, fun _ hr => hr⟩

/-- A new `wl_keyboard` enters the focused surface alone, and all of the client's are told the modifiers. -/
theorem Heard.createKeyboard (h : s.Heard owner tuned) {id : Nat}
    (hnew : ∀ k ∈ s.clients, k.client = c → ∀ r ∈ k.keyboards, r.id ≠ id) :
    (s.createKeyboard c id).Heard owner tuned := by
  let clients := s.clients.map fun k =>
    if k.client = c then { k with keyboards := ⟨id, []⟩ :: k.keyboards } else k
  -- the new one is outside
  have hmade : ∀ k ∈ clients, ∀ r ∈ k.keyboards, ∃ v, r.view = some v ∧
      (k.client = c ∧ r.id = id ∧ v = .outside ∨
        (k.client = c → r.id ≠ id) ∧ Tells s.focusedClient s.focusedSurface (s.Knows tuned) k.client v) := by
    intro k hk r hr
    obtain ⟨k', hk', rfl⟩ := List.mem_map.mp hk
    split_ifs at hr ⊢ with hkc
    · rcases List.mem_cons.mp hr with rfl | hr
      · exact ⟨.outside, rfl, .inl ⟨hkc, rfl, rfl⟩⟩
      · obtain ⟨v, hv, htells⟩ := h.told k' hk' r hr
        exact ⟨v, hv, .inr ⟨fun _ => hnew k' hk' hkc r hr, htells⟩⟩
    · obtain ⟨v, hv, htells⟩ := h.told k' hk' r hr
      exact ⟨v, hv, .inr ⟨fun heq => absurd heq hkc, htells⟩⟩
  have hunfocused : s.focusedClient ≠ some c → { s with clients := clients }.Heard owner tuned := by
    intro hc
    refine ⟨h.focusedOwner, h.within, fun k hk r hr => ?_⟩
    obtain ⟨v, hv, ⟨hkc, -, rfl⟩ | ⟨-, htells⟩⟩ := hmade k hk r hr
    · exact ⟨_, hv, (if_neg (hkc ▸ hc)).mpr rfl⟩
    · exact ⟨v, hv, htells⟩
  unfold KeyboardSeat.createKeyboard
  dsimp only
  split
  · rename_i fc f hfc hf
    split_ifs with hc
    · subst hc
      have hentered : ({ s with clients := clients }.sendWhere fc (fun i => i = id)
          (.enter f s.keyboard.keycodes)).Each (Tells s.focusedClient s.focusedSurface fun v =>
            tuned → v.keys = s.keyboard.keycodes.toFinset) := by
        have hbefore : { s with clients := clients }.Each fun k v =>
            k = fc ∨ Tells s.focusedClient s.focusedSurface (s.Knows tuned) k v := by
          intro k hk r hr
          obtain ⟨v, hv, hknown⟩ := hmade k hk r hr
          exact ⟨v, hv, hknown.imp And.left And.right⟩
        refine hbefore.sendWhere (fun k hk hkc r hr v hv _ => ?_) fun k v hk hv => ?_
        · obtain ⟨v', hv', hknown⟩ := hmade k hk r hr
          obtain rfl : v' = v := Option.some.inj (hv'.symm.trans hv)
          rcases hknown with ⟨-, hid, rfl⟩ | ⟨hid, htells⟩
          · rw [if_pos (decide_eq_true hid)]
            exact ⟨⟨some f, s.keyboard.keycodes.toFinset, none⟩, rfl, (if_pos hfc).mpr ⟨hf.symm, fun _ => rfl⟩⟩
          · rw [if_neg (by simpa using hid hkc)]
            exact (hkc ▸ htells).mono fun hknows htuned => (hknows htuned).1
        · exact (hv.resolve_left hk).mono fun hknows htuned => (hknows htuned).1
      rw [sendModifiers_only]
      exact ⟨h.focusedOwner, h.within, sendModifiers_told h.focus hentered fun v hv htuned => ⟨hv htuned, rfl⟩⟩
    · exact hunfocused fun heq => hc (Option.some.inj (hfc.symm.trans heq))
  · rename_i hnone
    refine hunfocused fun hc => ?_
    obtain ⟨f, hf, -⟩ := h.focusedOwner c hc
    exact hnone c f hc hf

/-! ## Runs -/

/-- The focused surface is left when it is destroyed. -/
theorem Heard.surfaceDestroyed (h : s.Heard owner tuned) (surface : Nat) :
    (s.surfaceDestroyed owner surface).Heard owner tuned := by
  unfold KeyboardSeat.surfaceDestroyed
  split_ifs
  · exact h.enter nofun
  · exact h

/-- A grab may keep the focus where it is; then the window alone is noted. -/
theorem Heard.setActiveWindow (h : s.Heard owner tuned) (win : Option Nat) :
    (s.setActiveWindow owner win).Heard owner tuned := by
  have hactive : { s with focusedWindow := win }.Heard owner tuned := ⟨h.focusedOwner, h.within, h.told⟩
  unfold KeyboardSeat.setActiveWindow
  split
  · exact h
  · dsimp only
    split
    -- the new window's surface is entered, and the old one is left first
    · unfold notifyEnter
      split
      · exact hactive.enter fun _ => ⟨rfl, rfl⟩
      · exact hactive
      · exact hactive
    · unfold notifyClearFocus
      split
      · exact hactive.enter nofun
      · exact hactive
      · exact hactive

end KeyboardSeat

/-! ## The keyboard alone -/

namespace WlrKeyboard

variable {S : Type} (xkb : Xkb S) (kb : WlrKeyboard S)

def serialized : WlrKeyboard S :=
  match kb.xkbState with
  | none => kb
  | some st => { kb with modifiers := xkb.serialize st }

def masked (modifiers : Modifiers) : WlrKeyboard S :=
  match kb.xkbState with
  | none => { kb with modifiers := modifiers }
  | some st => { kb with xkbState := some (xkb.updateMask st modifiers) }.serialized xkb

/-- What a key event does to the keyboard, whoever is told of it. -/
def event (pressed : Bool) (detail : UInt32) (modifiers : Modifiers) : WlrKeyboard S :=
  let kb := (kb.masked xkb modifiers).keyUpdate (detail - 8) pressed
  match kb.xkbState with
  | none => kb
  | some st => { kb with xkbState := some (xkb.updateKey st (detail - 8 + 8) pressed) }.serialized xkb

end WlrKeyboard

namespace KeyboardSeat

variable {S : Type} {xkb : Xkb S} {owner : Nat → Nat} {s t : KeyboardSeat S} {c : Nat} {tuned : Prop}

/-- What becomes of the keyboard, apart from who is told. -/
theorem modifierUpdate_keyboard : (s.modifierUpdate xkb).keyboard = s.keyboard.serialized xkb := by
  unfold modifierUpdate WlrKeyboard.serialized
  cases hst : s.keyboard.xkbState with
  | none => rfl
  | some st =>
    dsimp only
    split_ifs with hsame
    · rw [hsame, ← hst]
    · rw [keyboardModifiers_only, ← hst]

/-- The keyboard with the modifiers of the X server. -/
theorem notifyModifiers_keyboard (modifiers : Modifiers) :
    (s.notifyModifiers xkb modifiers).keyboard = s.keyboard.masked xkb modifiers := by
  unfold notifyModifiers WlrKeyboard.masked
  cases hst : s.keyboard.xkbState with
  | none =>
    dsimp only
    split_ifs with hsame
    · rw [hsame, ← hst]
    · rw [keyboardModifiers_only, ← hst]
  | some st => exact modifierUpdate_keyboard

/-- What becomes of the keyboard in a whole key event. -/
theorem keyEvent_keyboard {pressed isRepeat : Bool} (h : (pressed && isRepeat) = false) (detail : UInt32)
    (modifiers : Modifiers) :
    (s.keyEvent xkb pressed isRepeat detail modifiers).keyboard =
      s.keyboard.event xkb pressed detail modifiers := by
  unfold keyEvent WlrKeyboard.event notifyKey
  rw [h, if_neg Bool.false_ne_true, keyboardKey_only, notifyModifiers_keyboard]
  dsimp only
  cases hst : ((s.keyboard.masked xkb modifiers).keyUpdate (detail - 8) pressed).xkbState with
  | none => rfl
  | some st => exact modifierUpdate_keyboard

/-- A drag keeps the modifiers to itself. -/
theorem keyboardModifiers_clients (hdrag : s.grab = .drag) : s.keyboardModifiers.clients = s.clients := by
  unfold keyboardModifiers
  rw [hdrag]

/-- A drag keeps the keys to itself. -/
theorem keyboardKey_clients (hdrag : s.grab = .drag) (keycode : UInt32) (pressed : Bool) :
    (s.keyboardKey keycode pressed).clients = s.clients := by
  unfold keyboardKey
  rw [hdrag]

theorem modifierUpdate_clients (hdrag : s.grab = .drag) : (s.modifierUpdate xkb).clients = s.clients := by
  unfold modifierUpdate
  split
  · rfl
  · dsimp only
    split_ifs
    · rfl
    · exact keyboardModifiers_clients hdrag

theorem notifyModifiers_clients (hdrag : s.grab = .drag) (modifiers : Modifiers) :
    (s.notifyModifiers xkb modifiers).clients = s.clients := by
  unfold notifyModifiers
  split
  · split_ifs
    · rfl
    · exact keyboardModifiers_clients hdrag
  · exact modifierUpdate_clients hdrag

/-- So nothing of a key event in a drag is sent. -/
theorem notifyKey_clients (hdrag : s.grab = .drag) (keycode : UInt32) (pressed : Bool) :
    (s.notifyKey xkb keycode pressed).clients = s.clients := by
  have hkey := keyboardKey_clients (s := { s with keyboard := s.keyboard.keyUpdate keycode pressed }) hdrag
    keycode pressed
  have hgrab := (unmoved_keyboardKey { s with keyboard := s.keyboard.keyUpdate keycode pressed } keycode
    pressed).grab_eq
  unfold notifyKey
  dsimp only
  split
  · exact hkey
  · refine (modifierUpdate_clients ?_).trans hkey
    exact hgrab.trans hdrag

/-- A drag keeps a key event to itself. -/
theorem keyEvent_clients (hdrag : s.grab = .drag) (pressed isRepeat : Bool) (detail : UInt32)
    (modifiers : Modifiers) : (s.keyEvent xkb pressed isRepeat detail modifiers).clients = s.clients := by
  have hgrab := (unmoved_notifyModifiers xkb s modifiers).grab_eq
  unfold keyEvent
  split_ifs
  · rfl
  · exact (notifyKey_clients (hgrab.trans hdrag) _ _).trans (notifyModifiers_clients hdrag modifiers)

/-- Every client with the focus knows what keys are down, and the modifiers. -/
def Mirrored (s : KeyboardSeat S) : Prop :=
  ∀ k ∈ s.clients, s.focusedClient = some k.client → ∀ r ∈ k.keyboards, ∀ v ∈ r.view, s.Knows True v

/-- A client that need not know more. -/
theorem Heard.imp {tuned' : Prop} (h : s.Heard owner tuned) (himp : tuned' → tuned) : s.Heard owner tuned' :=
  ⟨h.focusedOwner, h.within, h.told.mono fun _ _ hv => hv.mono fun hknows htuned => hknows (himp htuned)⟩

/-- The focused client, if it is tuned, knows the keyboard. -/
theorem Heard.knows (h : s.Heard owner tuned) {k : SeatClient} (hk : k ∈ s.clients)
    (hfocused : s.focusedClient = some k.client) {r : SeatKeyboard} (hr : r ∈ k.keyboards) {v : KeyboardView}
    (hv : r.view = some v) : s.Knows tuned v := by
  obtain ⟨v', hv', htells⟩ := h.told k hk r hr
  obtain rfl : v' = v := Option.some.inj (hv'.symm.trans hv)
  exact ((if_pos hfocused).mp htells).2

theorem Heard.tune (h : s.Heard owner False)
    (hknows : ∀ k ∈ s.clients, s.focusedClient = some k.client → ∀ r ∈ k.keyboards, ∀ v ∈ r.view,
      s.Knows tuned v) : s.Heard owner tuned := by
  refine ⟨h.focusedOwner, h.within, fun k hk r hr => ?_⟩
  obtain ⟨v, hv, htells⟩ := h.told k hk r hr
  refine ⟨v, hv, ?_⟩
  unfold Tells at htells ⊢
  split_ifs at htells ⊢ with hfocused
  · exact ⟨htells.1, hknows k hk hfocused r hr v hv⟩
  · exact htells

/-- All are told what makes sense, and the focused client knows the keyboard. -/
theorem heard_true_iff : s.Heard owner True ↔ s.Heard owner False ∧ s.Mirrored :=
  ⟨fun h => ⟨h.imp False.elim, fun _ hk hfocused _ hr _ hv => h.knows hk hfocused hr hv⟩,
    fun h => h.1.tune h.2⟩

/-- A key event the focused client hears of, if there is one: no drag keeps it, and the key is among those the
keyboard has room for. In a drag it may be one that changes nothing. -/
def Audible (xkb : Xkb S) (s : KeyboardSeat S) : KeyboardAction → Prop
  | .key pressed isRepeat detail modifiers =>
    (pressed && isRepeat) = true ∨
      s.Deaf ∨
      if s.grab = .drag then
        (s.keyboard.event xkb pressed detail modifiers).keycodes.toFinset = s.keyboard.keycodes.toFinset ∧
          (s.keyboard.event xkb pressed detail modifiers).modifiers = s.keyboard.modifiers
      else
        pressed = true → detail - 8 ∈ s.keyboard.keycodes ∨ s.keyboard.keycodes.length ≠ keysCap
  | _ => True

/-- What keeps every client in step, and the focused one in tune if it hears of it. -/
theorem step_heard (h : s.Heard owner tuned) {a : KeyboardAction} (hstep : s.step xkb owner a = some t)
    (haudible : tuned → Audible xkb s a) : t.Heard owner tuned := by
  cases a with
  | key pressed isRepeat detail modifiers =>
    cases hstep
    -- the X server repeats keys, and the program drops the repeats
    by_cases hrepeat : (pressed && isRepeat) = true
    · unfold KeyboardSeat.keyEvent
      rwa [if_pos hrepeat]
    · have hunmoved := unmoved_keyEvent xkb s pressed isRepeat detail modifiers
      have horderly : (s.keyEvent xkb pressed isRepeat detail modifiers).Heard owner False :=
        (h.imp False.elim).keyEvent False.elim False.elim
      by_cases hdeaf : s.Deaf
      -- without a `wl_keyboard` there is nothing to know
      · refine horderly.tune fun k hk hfocused r hr => ?_
        rw [(hunmoved.deaf_iff.mpr hdeaf).keyboards hk hfocused] at hr
        cases hr
      · have hheard := fun htuned => ((haudible htuned).resolve_left hrepeat).resolve_left hdeaf
        by_cases hdrag : s.grab = .drag
        -- the drag keeps the event, and it is one that changes nothing
        · refine horderly.tune fun k hk hfocused r hr v hv htuned => ?_
          have hkept := hheard htuned
          rw [if_pos hdrag, ← keyEvent_keyboard (s := s) (by simpa using hrepeat)] at hkept
          rw [keyEvent_clients hdrag] at hk
          rw [hunmoved.focusedClient_eq] at hfocused
          obtain ⟨hkeys, hmodifiers⟩ := h.knows hk hfocused hr hv htuned
          exact ⟨hkeys.trans hkept.1.symm, hmodifiers.trans (congrArg some hkept.2.symm)⟩
        · exact h.keyEvent (fun _ => hdrag) fun htuned => by
            have hroom := hheard htuned
            rwa [if_neg hdrag] at hroom
  | setActiveWindow win =>
    cases hstep
    exact h.setActiveWindow win
  | dropActiveWindow =>
    cases hstep
    exact ⟨h.focusedOwner, h.within, h.told⟩
  | surfaceDestroyed surface =>
    cases hstep
    exact h.surfaceDestroyed surface
  | bindSeat c =>
    cases hstep
    exact h.bindSeat c
  | releaseSeat c =>
    simp only [KeyboardSeat.step] at hstep
    split_ifs at hstep
    cases hstep
    exact h.releaseSeat c
  | createKeyboard c id =>
    simp only [KeyboardSeat.step] at hstep
    split_ifs at hstep with hnew
    cases hstep
    exact h.createKeyboard hnew.2
  | destroyKeyboard c id =>
    cases hstep
    exact h.destroyKeyboard c id
  | startGrab grab =>
    cases hstep
    exact ⟨h.focusedOwner, h.within, h.told⟩
  | endGrab =>
    cases hstep
    exact ⟨h.focusedOwner, h.within, h.told⟩

/-- There is nobody to tell anything. -/
theorem heard_init (xkbState : Option S) : (init xkb xkbState).Heard owner tuned :=
  ⟨nofun, SmallSet.within_nil, nofun⟩

variable {xkbState : Option S}

/-- Sense is made in every run, of whatever is heard. -/
theorem heard_of_reachable (h : Run.Reachable (step xkb owner) (init xkb xkbState) s) :
    s.Heard owner False := by
  obtain ⟨as, has⟩ := h
  exact Run.run_invariant (fun s a t hs hstep => step_heard hs hstep False.elim) (heard_init xkbState) has

/-- **`wl_keyboard` is kept to.** In every state, what each `wl_keyboard` has received makes sense: a surface
is entered that is not entered yet, and left if it was entered; keys and modifiers come in between. It is
inside the focused surface, if this is its client's, and otherwise nowhere. -/
theorem keyboards_orderly (h : Run.Reachable (step xkb owner) (init xkb xkbState) s) {k : SeatClient}
    (hk : k ∈ s.clients) {r : SeatKeyboard} (hr : r ∈ k.keyboards) :
    ∃ v, r.view = some v ∧ v.inside = if s.focusedClient = some k.client then s.focusedSurface else none := by
  obtain ⟨v, hv, htells⟩ := (heard_of_reachable h).told k hk r hr
  refine ⟨v, hv, ?_⟩
  unfold Tells at htells
  split_ifs at htells ⊢
  · exact htells.1
  · exact htells

/-- A key that is pressed is told to the focused client, whether the keyboard has room for it or not. -/
theorem notifyKey_told {K : KeyboardView → Prop}
    (hfocus : ∀ c, s.focusedClient = some c → s.focusedSurface.isSome = true)
    (h : s.Each (Tells s.focusedClient s.focusedSurface K)) (hdrag : s.grab ≠ .drag) (keycode : UInt32) :
    (s.notifyKey xkb keycode true).Each
      (Tells s.focusedClient s.focusedSurface fun v => keycode ∈ v.keys) := by
  have hsent : ({ s with keyboard := s.keyboard.keyUpdate keycode true }.keyboardKey keycode true).Each
      (Tells s.focusedClient s.focusedSurface fun v => keycode ∈ v.keys) := by
    have hsend : ({ s with keyboard := s.keyboard.keyUpdate keycode true }.sendKey keycode true).Each
        (Tells s.focusedClient s.focusedSurface fun v => keycode ∈ v.keys) :=
      sendKey_told (s := { s with keyboard := s.keyboard.keyUpdate keycode true }) hfocus h
        fun v _ => Finset.mem_insert_self _ _
    unfold keyboardKey
    split
    · exact hsend
    · exact hsend
    · rename_i hgrab
      exact absurd hgrab hdrag
  unfold notifyKey
  rw [keyboardKey_only] at hsent ⊢
  dsimp only
  split
  · exact hsent
  -- modifiers that change are told after the key
  · exact modifierUpdate_told hfocus hsent fun v _ hv => hv

/-- The focused client knows of a key that is pressed, even if the keyboard has no room for it. -/
theorem Heard.pressed_told (xkb : Xkb S) (h : s.Heard owner True) (hdrag : s.grab ≠ .drag) {isRepeat : Bool}
    (hrepeat : (true && isRepeat) = false) (detail : UInt32) (modifiers : Modifiers) :
    (s.keyEvent xkb true isRepeat detail modifiers).Each
      (Tells s.focusedClient s.focusedSurface fun v => detail - 8 ∈ v.keys) := by
  have hunmoved := unmoved_notifyModifiers xkb s modifiers
  have hheard := h.notifyModifiers xkb (fun _ => hdrag) modifiers
  have hsurface : (s.notifyModifiers xkb modifiers).focusedSurface = s.focusedSurface := by
    rw [hunmoved.only]
  rw [← hunmoved.focusedClient_eq, ← hsurface]
  unfold KeyboardSeat.keyEvent
  rw [hrepeat, if_neg Bool.false_ne_true]
  exact notifyKey_told hheard.focus hheard.told (fun hgrab => hdrag (hunmoved.grab_eq.symm.trans hgrab)) _

/-- A full keyboard does not know of it. -/
theorem event_keycodes_of_full {kb : WlrKeyboard S} {detail : UInt32} (hnew : detail - 8 ∉ kb.keycodes)
    (hfull : kb.keycodes.length = keysCap) (modifiers : Modifiers) :
    (kb.event xkb true detail modifiers).keycodes = kb.keycodes := by
  have hserialized : ∀ kb : WlrKeyboard S, (kb.serialized xkb).keycodes = kb.keycodes := by
    intro kb
    unfold WlrKeyboard.serialized
    split <;> rfl
  have hmasked : (kb.masked xkb modifiers).keycodes = kb.keycodes := by
    unfold WlrKeyboard.masked
    split
    · rfl
    · exact hserialized _
  -- the array is full, so the key is not stored
  have hupdate : ((kb.masked xkb modifiers).keyUpdate (detail - 8) true).keycodes = kb.keycodes := by
    unfold WlrKeyboard.keyUpdate SmallSet.add
    dsimp only
    rw [hmasked, if_pos rfl, if_neg hnew, if_pos hfull]
  unfold WlrKeyboard.event
  dsimp only
  split
  · exact hupdate
  · exact (hserialized _).trans hupdate

/-- A client that does not hear of a key does not know. -/
theorem audible_of_mirrored (h : s.Heard owner True) {a : KeyboardAction}
    (hstep : s.step xkb owner a = some t) (hmirrored : t.Mirrored) : Audible xkb s a := by
  cases a with
  | key pressed isRepeat detail modifiers =>
    cases hstep
    refine or_iff_not_imp_left.mpr fun hrepeat => or_iff_not_imp_left.mpr fun hdeaf => ?_
    have hunmoved := unmoved_keyEvent xkb s pressed isRepeat detail modifiers
    obtain ⟨k, hk, hfocused, r, hr⟩ := exists_of_not_deaf fun hdeaf' => hdeaf (hunmoved.deaf_iff.mp hdeaf')
    split_ifs with hdrag
    -- a drag keeps the event; the client's keys are right after it, so they were the same before
    · rw [← keyEvent_keyboard (s := s) (by simpa using hrepeat)]
      have hafter := hmirrored k hk hfocused r hr
      rw [keyEvent_clients hdrag] at hk
      rw [hunmoved.focusedClient_eq] at hfocused
      obtain ⟨v, hv, -⟩ := h.told k hk r hr
      obtain ⟨hkeys, hmodifiers⟩ := h.knows hk hfocused hr hv trivial
      obtain ⟨hkeys', hmodifiers'⟩ := hafter v hv trivial
      exact ⟨hkeys'.symm.trans hkeys, Option.some.inj (hmodifiers'.symm.trans hmodifiers)⟩
    · rintro rfl
      -- a key that finds no room is sent all the same: the client knows of it and the keyboard does not
      by_contra hfull
      rw [not_or, not_not] at hfull
      have hquiet : (true && isRepeat) = false := by simpa using hrepeat
      obtain ⟨v, hv, htells⟩ := h.pressed_told xkb hdrag hquiet detail modifiers k hk r hr
      rw [← hunmoved.focusedClient_eq] at htells
      have hin : detail - 8 ∈ v.keys := ((if_pos hfocused).mp htells).2
      rw [(hmirrored k hk hfocused r hr v hv trivial).1, List.mem_toFinset, keyEvent_keyboard hquiet,
        event_keycodes_of_full hfull.1 hfull.2] at hin
      exact hfull.1 hin
  | _ => trivial

/-- **Clients know the keys.** All through a run the focused client knows exactly what keys are down and what
the modifiers are, if and only if it hears of every key event of the run. -/
theorem mirrored_iff_audible {as : List KeyboardAction}
    (h : Run.run (step xkb owner) (init xkb xkbState) as = some t) :
    Run.Along (step xkb owner) (fun s a => ∀ t, s.step xkb owner a = some t → t.Mirrored) (init xkb xkbState)
        as ↔
      Run.Along (step xkb owner) (Audible xkb) (init xkb xkbState) as := by
  refine Run.along_iff_of_step (I := fun s : KeyboardSeat S => s.Heard owner True) ?_ ?_ (heard_init xkbState) h
  · intro s a t hs hmirrored hstep
    exact heard_true_iff.mpr ⟨step_heard (heard_true_iff.mp hs).1 hstep False.elim, hmirrored t hstep⟩
  · intro s a t hs hstep
    rw [Run.forall_step_iff hstep]
    refine ⟨fun hmirrored => ?_, fun haudible => ?_⟩
    · exact audible_of_mirrored hs hstep hmirrored
    · exact (heard_true_iff.mp (step_heard hs hstep fun _ => haudible)).2

/-- A keymap of letters: no key is a modifier. -/
def letters : Xkb Modifiers := ⟨fun _ modifiers => modifiers, fun st _ _ => st, id⟩

/-- A client opens a window, and `a` is pressed and released in it with shift held down. -/
def typing : List KeyboardAction :=
  [.bindSeat 1, .createKeyboard 1 5, .setActiveWindow (some 10), .key true false 38 ⟨1, 0, 0, 0⟩,
    .key false false 38 ⟨1, 0, 0, 0⟩]

def typed : KeyboardSeat Modifiers :=
  (Run.run (step letters fun _ => 1) (init letters (some ⟨0, 0, 0, 0⟩)) typing).getD (init letters none)

theorem typed_run :
    Run.run (step letters fun _ => 1) (init letters (some ⟨0, 0, 0, 0⟩)) typing = some typed := rfl

theorem typed_orderly :
    ∃ v, SeatKeyboard.view ⟨5, [.enter 10 [], .modifiers ⟨0, 0, 0, 0⟩, .modifiers ⟨1, 0, 0, 0⟩, .key 30 true,
        .key 30 false]⟩ = some v ∧
      v.inside = if typed.focusedClient = some 1 then typed.focusedSurface else none :=
  keyboards_orderly ⟨typing, typed_run⟩ (k := ⟨1, 1, [⟨5, _⟩]⟩) List.mem_cons_self List.mem_cons_self

theorem typed_mirrored_iff :
    Run.Along (step letters fun _ => 1)
        (fun s a => ∀ t, s.step letters (fun _ => 1) a = some t → t.Mirrored)
        (init letters (some ⟨0, 0, 0, 0⟩)) typing ↔
      Run.Along (step letters fun _ => 1) (Audible letters) (init letters (some ⟨0, 0, 0, 0⟩)) typing :=
  mirrored_iff_audible typed_run

end KeyboardSeat

end Wlx
