import Mathlib.Data.Set.Basic

/-!
# Incremental mirrors

A copy of the one of several buffers that is shown, kept up to date by grabs of the points that have become
dirty.  A grab notes the buffer and the points first and copies them later; in between another buffer may be
shown, and more points may become dirty.

* `Mirror.Owed`: a point that a later grab will copy;
* `Mirror.Faithful`: each point of the copy is as it is shown, or owed, or about to be copied, and a grab
  under way does no harm;
* `Faithful.flip`, `Faithful.mark`, `Faithful.lock`, `Faithful.done`, `Faithful.draw`: what keeps it;
* `Faithful.copy_eq`: with nothing owed and no grab under way, the copy is what is shown.
-/

namespace Mirroring

/-- Buffers with a value at each point, the one that is shown, the points that are dirty, the buffer and the
points of the grab under way, and the copy. -/
structure Mirror (B P V : Type*) where
  content : B → P → V
  shown : B
  dirty : Set P
  grab : Option (B × Set P)
  copy : P → V

namespace Mirror

variable {B P V : Type*} {m : Mirror B P V} {D rest rest' : Set P}

/-- The point is dirty, or among those that have changed and are still to be marked. -/
def Owed (m : Mirror B P V) (rest : Set P) (p : P) : Prop := p ∈ m.dirty ∨ p ∈ rest

/-- On the points of `D`, the copy is what is shown, but for what is owed or about to be copied; and what is
about to be copied from another buffer is the same there, or owed. -/
structure Faithful (D rest : Set P) (m : Mirror B P V) : Prop where
  delivered : ∀ p ∈ D, m.copy p = m.content m.shown p ∨ m.Owed rest p ∨ ∃ g ∈ m.grab, p ∈ g.2
  harmless : ∀ g ∈ m.grab, ∀ p ∈ D, p ∈ g.2 → m.content g.1 p = m.content m.shown p ∨ m.Owed rest p

theorem Faithful.copy_eq (h : Faithful D ∅ m) (hdirty : m.dirty = ∅) (hgrab : m.grab = none) {p : P}
    (hp : p ∈ D) : m.copy p = m.content m.shown p := by
  rcases h.delivered p hp with heq | howed | ⟨g, hg, -⟩
  · exact heq
  · simp [Owed, hdirty] at howed
  · simp [hgrab] at hg

/-- Another buffer is shown, which differs in points to be marked. -/
theorem Faithful.flip {b : B} {damage : Set P} (h : Faithful D rest m)
    (hsame : ∀ p ∈ D, p ∉ damage → m.content m.shown p = m.content b p) :
    Faithful D (rest ∪ damage) { m with shown := b } where
  delivered p hp := by
    by_cases hin : p ∈ damage
    · exact .inr (.inl (.inr (.inr hin)))
    · rcases h.delivered p hp with heq | (hdirty | hrest) | hgrab
      · exact .inl (heq.trans (hsame p hp hin))
      · exact .inr (.inl (.inl hdirty))
      · exact .inr (.inl (.inr (.inl hrest)))
      · exact .inr (.inr hgrab)
  harmless g hg p hp hpg := by
    by_cases hin : p ∈ damage
    · exact .inr (.inr (.inr hin))
    · rcases h.harmless g hg p hp hpg with heq | (hdirty | hrest)
      · exact .inl (heq.trans (hsame p hp hin))
      · exact .inr (.inl hdirty)
      · exact .inr (.inr (.inl hrest))

/-- Points are marked. -/
theorem Faithful.mark {dirty : Set P} (h : Faithful D rest m) (hcover : m.dirty ∪ rest ⊆ dirty ∪ rest') :
    Faithful D rest' { m with dirty := dirty } where
  delivered p hp := by
    rcases h.delivered p hp with heq | howed | hgrab
    · exact .inl heq
    · exact .inr (.inl (hcover howed))
    · exact .inr (.inr hgrab)
  harmless g hg p hp hpg := (h.harmless g hg p hp hpg).imp_right fun howed => hcover howed

/-- A grab notes what is dirty. -/
theorem Faithful.lock {b : B} {dirty S : Set P} (h : Faithful D rest m) (hgrab : m.grab = none)
    (hb : b = m.shown) (hS : m.dirty ⊆ S) :
    Faithful D rest { m with dirty := dirty, grab := some (b, S) } where
  delivered p hp := by
    rcases h.delivered p hp with heq | (hdirty | hrest) | ⟨g, hg, -⟩
    · exact .inl heq
    · exact .inr (.inr ⟨_, rfl, hS hdirty⟩)
    · exact .inr (.inl (.inr hrest))
    · simp [hgrab] at hg
  harmless := by
    rintro _ ⟨⟩ p - -
    exact .inl (congrFun (congrArg m.content hb) p)

/-- A grab copies its points. -/
theorem Faithful.done {g : B × Set P} {copy : P → V} (h : Faithful D rest m) (hgrab : m.grab = some g)
    (hnew : ∀ p ∈ D, p ∈ g.2 → copy p = m.content g.1 p)
    (hold : ∀ p ∈ D, p ∉ g.2 → copy p = m.copy p) :
    Faithful D rest { m with grab := none, copy := copy } where
  delivered p hp := by
    by_cases hin : p ∈ g.2
    · rcases h.harmless g hgrab p hp hin with heq | howed
      · exact .inl ((hnew p hp hin).trans heq)
      · exact .inr (.inl howed)
    · rcases h.delivered p hp with heq | howed | ⟨g', hg', hp'⟩
      · exact .inl ((hold p hp hin).trans heq)
      · exact .inr (.inl howed)
      · obtain rfl : g = g' := Option.some.inj (hgrab.symm.trans hg')
        exact absurd hp' hin
  harmless := by
    rintro _ ⟨⟩

/-- Buffers that are neither shown nor being copied change. -/
theorem Faithful.draw {content : B → P → V} (h : Faithful D rest m)
    (hshown : content m.shown = m.content m.shown)
    (hgrab : ∀ g ∈ m.grab, content g.1 = m.content g.1) :
    Faithful D rest { m with content := content } where
  delivered p hp := by
    have hsame : content m.shown p = m.content m.shown p := congrFun hshown p
    rcases h.delivered p hp with heq | howed
    · exact .inl (heq.trans hsame.symm)
    · exact .inr howed
  harmless g hg p hp hpg := by
    have hsame : content m.shown p = m.content m.shown p := congrFun hshown p
    have hcopied : content g.1 p = m.content g.1 p := congrFun (hgrab g hg) p
    rcases h.harmless g hg p hp hpg with heq | howed
    · exact .inl (hcopied.trans (heq.trans hsame.symm))
    · exact .inr howed

end Mirror

end Mirroring
