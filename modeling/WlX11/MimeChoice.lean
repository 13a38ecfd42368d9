import WlX11.Lib.Preference
import WlX11.Clipboard

/-!
# WlX11 — which type an export asks for

`clipboard_pick_mime` and `primary_pick_mime` have a list `prefs` of text types, the best one first.
They go through the types in the order of the source and take the first that is on the list, so that it
is the source's order that decides.

* **`ChosenByRank`** — the choice `prefs` stands for.
* **`exportsByRank_iff`** — an export makes it exactly if the source offers the best of the listed types
  before the other ones.
-/

namespace Wlx

/-- The best of the offered types in the order of `prefs`; else some `text/` type; else none. -/
structure ChosenByRank (mimeTypes : List Mime) (chosen : Option Mime) : Prop where
  ranked : ∀ mime ∈ Preference.best mimePrefs mimeTypes, chosen = some mime
  fallback : Preference.best mimePrefs mimeTypes = none →
    (∃ mime ∈ mimeTypes, mime.startsWithText = true) →
      ∃ mime ∈ mimeTypes, mime.startsWithText = true ∧ chosen = some mime
  nothing : Preference.best mimePrefs mimeTypes = none →
    (∀ mime ∈ mimeTypes, mime.startsWithText = false) → chosen = none

/-- What an export of the selection asks the source for. -/
def pickMimeFor (sel : Selection) (source : Source) : Option Mime :=
  match sel with
  | .clipboard => clipboardPickMime source
  | .primary => primaryPickMime source

/-- `clipboard_export_wayland_source` and `primary_export_wayland_source`, by selection. -/
def Bridge.exportFor (sel : Selection) (source : Source) (env : ExportEnv) (s : Bridge) : Bridge :=
  match sel with
  | .clipboard => s.clipboardExportWaylandSource source env
  | .primary => s.primaryExportWaylandSource source env

/-- The type is chosen by rank, and without one nothing is exported. -/
def ExportsByRank (sel : Selection) (source : Source) : Prop :=
  ChosenByRank source.mimeTypes (pickMimeFor sel source) ∧
    (pickMimeFor sel source = none → ∀ env s, Bridge.exportFor sel source env s = s)

/-! ## The search -/

section Search

variable {mimeTypes : List Mime}

theorem pickMimeFor_eq (sel : Selection) (source : Source) :
    pickMimeFor sel source = pickMime source.mimeTypes := by
  cases sel <;> rfl

theorem pickMime_of_acceptable {mime : Mime}
    (h : Preference.firstAcceptable mimePrefs mimeTypes = some mime) :
    pickMime mimeTypes = some mime := by
  unfold Preference.firstAcceptable at h
  unfold pickMime
  rw [h]

theorem pickMime_of_unacceptable (h : Preference.firstAcceptable mimePrefs mimeTypes = none) :
    pickMime mimeTypes = mimeTypes.find? (·.startsWithText) := by
  unfold Preference.firstAcceptable at h
  unfold pickMime
  rw [h]

/-- Some listed type is offered, or none is: both searches agree on that. -/
theorem firstAcceptable_eq_none_iff :
    Preference.firstAcceptable mimePrefs mimeTypes = none ↔
      Preference.best mimePrefs mimeTypes = none := by
  rw [Preference.best_eq_none_iff]
  unfold Preference.firstAcceptable
  rw [List.find?_eq_none]
  constructor
  · intro h mime hpref hoffered
    exact h mime hoffered (decide_eq_true hpref)
  · intro h mime hoffered hpref
    exact h mime (of_decide_eq_true hpref) hoffered

/-- Among the listed types the choice is by rank exactly if the search finds the best of them. -/
theorem chosenByRank_iff :
    ChosenByRank mimeTypes (pickMime mimeTypes) ↔
      Preference.firstAcceptable mimePrefs mimeTypes = Preference.best mimePrefs mimeTypes := by
  cases hbest : Preference.best mimePrefs mimeTypes with
  | none =>
    have hfirst := firstAcceptable_eq_none_iff.mpr hbest
    have hpick := pickMime_of_unacceptable hfirst
    refine iff_of_true ⟨?_, ?_, ?_⟩ hfirst
    · intro mime hmime
      rw [hbest] at hmime
      cases hmime
    · rintro - ⟨mime, hoffered, htext⟩
      rw [hpick]
      cases hfind : mimeTypes.find? (·.startsWithText) with
      | none => exact absurd htext (List.find?_eq_none.mp hfind mime hoffered)
      | some found => exact ⟨found, List.mem_of_find?_eq_some hfind, List.find?_some hfind, rfl⟩
    · rintro - hnone
      rw [hpick, List.find?_eq_none]
      intro mime hoffered htext
      rw [hnone mime hoffered] at htext
      cases htext
  | some best =>
    have hsome : Preference.firstAcceptable mimePrefs mimeTypes ≠ none := by
      rw [ne_eq, firstAcceptable_eq_none_iff, hbest]
      exact Option.some_ne_none best
    obtain ⟨first, hfirst⟩ := Option.ne_none_iff_exists'.mp hsome
    have hpick := pickMime_of_acceptable hfirst
    rw [hfirst, hpick]
    constructor
    · exact fun h => h.ranked best hbest
    · rintro heq
      refine ⟨fun mime hmime => ?_, fun hnone => ?_, fun hnone => ?_⟩
      · rw [heq, ← hbest]
        exact hmime
      · exact absurd (hbest.symm.trans hnone) (Option.some_ne_none best)
      · exact absurd (hbest.symm.trans hnone) (Option.some_ne_none best)

/-- Without a type nothing is read. -/
theorem exportFor_of_none {sel : Selection} {source : Source} (h : pickMimeFor sel source = none)
    (env : ExportEnv) (s : Bridge) : Bridge.exportFor sel source env s = s := by
  cases sel with
  | clipboard =>
    show s.exportWaylandSource .clipboard (clipboardPickMime source) env = s
    rw [show clipboardPickMime source = none from h]
    rfl
  | primary =>
    show s.exportWaylandSource .primary (primaryPickMime source) env = s
    rw [show primaryPickMime source = none from h]
    rfl

end Search

/-- Two sources that offer the same types, each with the best listed one first, are asked for the same
listed type. -/
theorem pickMimeFor_congr {sel : Selection} {source source' : Source} {mime : Mime}
    (hsame : ∀ mime, mime ∈ source.mimeTypes ↔ mime ∈ source'.mimeTypes)
    (h : ExportsByRank sel source) (h' : ExportsByRank sel source')
    (hbest : Preference.best mimePrefs source.mimeTypes = some mime) :
    pickMimeFor sel source = pickMimeFor sel source' := by
  have hbest' : Preference.best mimePrefs source.mimeTypes = Preference.best mimePrefs source'.mimeTypes :=
    Preference.best_congr hsame
  rw [h.1.ranked mime hbest, h'.1.ranked mime (hbest'.symm.trans hbest)]

/-- **Rank against offer order.** Of either selection, an export takes the highest-ranked listed type
that is offered, whatever the order of the offers, else some `text/` type and else none, exactly if the
listed type that is offered first is the highest-ranked one. -/
theorem exportsByRank_iff (sel : Selection) (source : Source) :
    ExportsByRank sel source ↔ Preference.RankedFirst mimePrefs source.mimeTypes := by
  unfold ExportsByRank
  rw [and_iff_left fun hnone => exportFor_of_none hnone, pickMimeFor_eq, chosenByRank_iff,
    Preference.firstAcceptable_eq_best_iff]

/-- A browser offers a selected piece of a page as HTML and then as plain text. -/
def pageSelection : Source := ⟨[.textHtml, .textPlain], [104, 105]⟩

/-- It is exported as HTML. -/
theorem pageSelection_unranked : ¬ ∀ (sel : Selection) (source : Source), ExportsByRank sel source := by
  intro h
  have hhtml := (h .clipboard pageSelection).1.ranked .textPlain (by decide)
  exact absurd hhtml (by decide)

end Wlx
