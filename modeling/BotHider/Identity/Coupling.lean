import BotHider.Registry.Runs

/-!
# BotHider — the identity stores stay coupled

The slot records, the slot-to-entry bindings and the pool's assigned bits live in
three modules of the plugin. After every run they say the same, and the pool has
lost nothing.
-/

namespace BotHider.Model

/-- The slot records, the bindings and the pool agree. -/
structure World.StoresCoupled (w : World) : Prop where
  bound : ∀ s, w.manager.isManaged s = true ↔ ∃ i, w.identity.slotEntries s = some i
  incarnation : ∀ s, w.manager.isManaged s = true ↔ w.manager.getIncarnation s ≠ 0
  distinct : ∀ s t i, w.identity.slotEntries s = some i → w.identity.slotEntries t = some i → s = t
  assigned : ∀ i, w.botInfo.assigned[i]? = some true ↔ ∃ s, w.identity.slotEntries s = some i
  count : w.botInfo.assigned.count true =
    (Finset.univ.filter fun s => w.manager.isManaged s = true).card
  returned : (∀ s, w.manager.isManaged s = false) →
    ∀ i < w.botInfo.entries.length, w.botInfo.assigned[i]? = some false

theorem World.Sane.storesCoupled {w : World} (h : w.Sane) : w.StoresCoupled where
  bound s := ((h.good.coupled s).entry).trans Option.ne_none_iff_exists'
  incarnation s := (h.good.coupled s).incarnation
  distinct := h.good.bound
  assigned := h.good.assigned
  count := Registry.card_assigned h.good
  returned hnone i hi := by
    have hlen : w.botInfo.assigned.length = w.botInfo.entries.length :=
      h.good.pool.trans (List.length_map ..)
    rw [← hlen] at hi
    rw [List.getElem?_eq_getElem hi]
    cases hb : w.botInfo.assigned[i] with
    | false => rfl
    | true =>
      obtain ⟨s, hs⟩ := (h.good.assigned i).mp ((List.getElem?_eq_getElem hi).trans (congrArg some hb))
      have hm : w.manager.isManaged s = true :=
        (h.good.coupled s).entry.mpr (Option.ne_none_iff_exists'.mpr ⟨i, hs⟩)
      rw [hnone s] at hm
      cases hm

/-- **The stores stay coupled.** After every run of a loaded plugin a slot is managed
exactly when a pool entry is bound to it and exactly when its incarnation is not
zero, no entry is bound twice, an entry is assigned exactly when it is bound, and
as many entries are assigned as slots are managed; once no slot is managed, every
entry is available again. -/
theorem stores_coupled (env : LoadEnv) (es : List Event) : (World.run env es).StoresCoupled :=
  (sane_run env es).storesCoupled

end BotHider.Model
