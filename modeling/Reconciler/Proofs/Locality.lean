import Reconciler.Proofs.Trace

/-!
# Actions that are confined to some places

A state is seen through its places. An action is confined to the places that it reads when what it
comes to, and what it leaves at them, depends on them alone, and all places but the few that it
writes stay as they are. A script is confined when its questions are (`Script.Asks.confined`), and
two actions neither of which reads what the other one writes can be carried out in either order
(`Confined.comm`).
-/

set_option autoImplicit false

namespace Reconciler

variable {σ α β Place : Type} {Content : Place → Type}
  {view : (place : Place) → σ → Content place} {Valid : σ → Prop} {reads writes : Place → Prop}

/-- An action on valid states that reads some places and writes some of those. -/
structure Confined (view : (place : Place) → σ → Content place) (Valid : σ → Prop)
    (reads writes : Place → Prop) (action : σ → α × σ) : Prop where
  within : ∀ place, writes place → reads place
  valid : ∀ s, Valid s → Valid (action s).2
  keeps : ∀ s, Valid s → ∀ place, ¬ writes place → view place (action s).2 = view place s
  agrees : ∀ s t, Valid s → Valid t → (∀ place, reads place → view place s = view place t) →
    (action s).1 = (action t).1 ∧
      ∀ place, writes place → view place (action s).2 = view place (action t).2

namespace Confined

/-- States that agree on what a confined action reads still do so after it. -/
theorem agrees_reads {action : σ → α × σ} (h : Confined view Valid reads writes action)
    {s t : σ} (hs : Valid s) (ht : Valid t)
    (hsame : ∀ place, reads place → view place s = view place t) (place : Place)
    (hplace : reads place) : view place (action s).2 = view place (action t).2 := by
  by_cases hwrites : writes place
  · exact (h.agrees s t hs ht hsame).2 place hwrites
  · rw [h.keeps s hs place hwrites, h.keeps t ht place hwrites, hsame place hplace]

/-- Two actions neither of which reads what the other one writes come to the same in either
order, and leave the same state. -/
theorem comm {first : σ → α × σ} {second : σ → β × σ} {reads' writes' : Place → Prop}
    (hfirst : Confined view Valid reads writes first)
    (hsecond : Confined view Valid reads' writes' second)
    (happart : ∀ place, reads place → ¬ writes' place)
    (happart' : ∀ place, reads' place → ¬ writes place)
    (hext : ∀ s t, Valid s → Valid t → (∀ place, view place s = view place t) → s = t)
    {s : σ} (hs : Valid s) :
    (first (second s).2).1 = (first s).1 ∧ (second (first s).2).1 = (second s).1 ∧
      (first (second s).2).2 = (second (first s).2).2 := by
  have hone := hfirst.valid s hs
  have htwo := hsecond.valid s hs
  obtain ⟨hanswer, hleft⟩ := hfirst.agrees _ _ htwo hs fun place hplace =>
    hsecond.keeps s hs place (happart place hplace)
  obtain ⟨hanswer', hleft'⟩ := hsecond.agrees _ _ hone hs fun place hplace =>
    hfirst.keeps s hs place (happart' place hplace)
  refine ⟨hanswer, hanswer', hext _ _ (hfirst.valid _ htwo) (hsecond.valid _ hone) fun place => ?_⟩
  by_cases hplace : writes place
  · rw [hleft place hplace,
      hsecond.keeps _ hone place (happart place (hfirst.within place hplace))]
  · rw [hfirst.keeps _ htwo place hplace]
    by_cases hplace' : writes' place
    · rw [hleft' place hplace']
    · rw [hsecond.keeps _ hone place hplace', hsecond.keeps s hs place hplace',
        hfirst.keeps s hs place hplace]

end Confined

/-- A script whose questions are answered within some places is confined to them. -/
theorem Script.Asks.confined {Query : Type} {Answer : Query → Type} {p : Query → Prop}
    {handler : Handler Query Answer σ} (hwithin : ∀ place, writes place → reads place)
    (hquery : ∀ query, p query → Confined view Valid reads writes (handler query))
    {script : Script Query Answer α} (h : script.Asks p) :
    Confined view Valid reads writes (script.run handler) := by
  -- By induction on the script: two states that agree before a question agree after it.
  induction script with
  | done value =>
    exact ⟨hwithin, fun _ hs => hs, fun _ _ _ _ => rfl,
      fun _ _ _ _ hsame => ⟨rfl, fun place hplace => hsame place (hwithin place hplace)⟩⟩
  | ask query next ih =>
    obtain ⟨hasked, hnext⟩ := h
    have hfirst := hquery query hasked
    have hrest := fun answer => ih answer (hnext answer)
    refine ⟨hwithin, fun s hs => (hrest _).valid _ (hfirst.valid s hs), ?_, ?_⟩
    · intro s hs place hplace
      rw [Script.run_ask, (hrest _).keeps _ (hfirst.valid s hs) place hplace,
        hfirst.keeps s hs place hplace]
    · intro s t hs ht hsame
      have hanswer := (hfirst.agrees s t hs ht hsame).1
      rw [Script.run_ask, Script.run_ask, hanswer]
      exact (hrest _).agrees _ _ (hfirst.valid s hs) (hfirst.valid t ht)
        (hfirst.agrees_reads hs ht hsame)

end Reconciler
