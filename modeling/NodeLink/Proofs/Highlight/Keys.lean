import NodeLink.Highlight
/-!
# The ids of a highlight

Which ids a highlight names: a hover brings in the hovered node and its neighbours, and as time
passes ids are forgotten but none come in that are not already there.

* `Highlight.Aims`: the targets are the hovered node and its neighbours.
* `Highlight.Within`: all ids are among the known ones.
* `Within.setHover`, `Within.tick`: what keeps them so.
-/

namespace NodeLink.Highlight

variable {α : Type}

/-! ## Keys of tables -/

def keys (table : List (String × α)) : List String := table.map Prod.fst

theorem mem_keys_put (id : String) (v : α) (table : List (String × α)) (k : String) :
    k ∈ keys (put id v table) ↔ k = id ∨ k ∈ keys table := by
  induction table with
  | nil => simp [put, keys]
  | cons entry rest ih =>
    obtain ⟨k', w⟩ := entry
    by_cases hid : k' = id
    · subst hid
      simp [put, keys]
    · simp only [keys] at ih
      simp only [put, hid, if_false, keys, List.map_cons, List.mem_cons, ih]
      exact or_left_comm

/-- Entering values under some ids adds these ids to the keys. -/
theorem mem_keys_foldl_put (value : List (String × α) → String → α) (ids : List String)
    (table : List (String × α)) (k : String) :
    k ∈ keys (ids.foldl (fun table id => put id (value table id) table) table) ↔
      k ∈ ids ∨ k ∈ keys table := by
  induction ids generalizing table with
  | nil => simp only [List.foldl_nil, List.not_mem_nil, false_or]
  | cons id rest ih =>
    rw [List.foldl_cons, ih, mem_keys_put, List.mem_cons, or_assoc]
    exact or_left_comm

/-- Changing and dropping entries adds no key. -/
theorem mem_keys_of_filterMap {f : String × α → Option (String × α)}
    (hf : ∀ entry entry', f entry = some entry' → entry'.1 = entry.1)
    {table : List (String × α)} {k : String} (hk : k ∈ keys (table.filterMap f)) :
    k ∈ keys table := by
  obtain ⟨entry', hentry', rfl⟩ := List.mem_map.mp hk
  obtain ⟨entry, hentry, hsome⟩ := List.mem_filterMap.mp hentry'
  rw [hf entry entry' hsome]
  exact List.mem_map.mpr ⟨entry, hentry, rfl⟩

/-! ## Targets -/

/-- The targets are the hovered node and those that `adjacent` relates it to. -/
def Aims (h : Highlight α) (adjacent : String → String → Prop) : Prop :=
  ∀ x, x ∈ h.targets ↔ ∃ id, h.hovered = some id ∧ (x = id ∨ adjacent id x)

/-- Every id that the highlight names is known. -/
structure Within (h : Highlight α) (known : String → Prop) : Prop where
  hovered : ∀ id, h.hovered = some id → known id
  targets : ∀ id ∈ h.targets, known id
  nodes : ∀ id ∈ keys h.nodeIntensity, known id
  hovers : ∀ id ∈ keys h.hoverIntensity, known id
  timers : ∀ id ∈ keys h.holdTimer, known id

variable {h : Highlight α} {known : String → Prop} {adjacent : String → String → Prop}

theorem aims_of_none (hhovered : h.hovered = none) (htargets : h.targets = []) :
    h.Aims adjacent := by
  intro x
  rw [hhovered, htargets]
  refine iff_of_false List.not_mem_nil ?_
  rintro ⟨id, hid, -⟩
  exact absurd hid.symm (Option.some_ne_none id)

theorem within_empty : ({} : Highlight α).Within known where
  hovered id hid := absurd hid.symm (Option.some_ne_none id)
  targets _ hid := absurd hid List.not_mem_nil
  nodes _ hid := absurd hid List.not_mem_nil
  hovers _ hid := absurd hid List.not_mem_nil
  timers _ hid := absurd hid List.not_mem_nil

/-! ## Keys as time passes -/

variable [Scalar α]

theorem mem_keys_brighten (fadeIn : α) (ids : List String) (table : List (String × α))
    (k : String) : k ∈ keys (ids.foldl (brighten fadeIn) table) ↔ k ∈ ids ∨ k ∈ keys table :=
  mem_keys_foldl_put (fun table id => valueOf table id + (1 - valueOf table id) * fadeIn)
    ids table k

theorem mem_keys_of_dim {keep : String → Bool} {timers : List (String × α)} {fadeOut : α}
    {table : List (String × α)} {k : String} (hk : k ∈ keys (dim keep timers fadeOut table)) :
    k ∈ keys table := by
  refine mem_keys_of_filterMap (fun entry entry' h => ?_) hk
  obtain ⟨-, h⟩ := Option.ite_none_right_eq_some.mp h
  rw [← Option.some.inj h]

theorem mem_keys_of_runTimers {targets : List String} {dt : α} {timers : List (String × α)}
    {k : String} (hk : k ∈ keys (runTimers targets dt timers)) : k ∈ keys timers := by
  refine mem_keys_of_filterMap (fun entry entry' h => ?_) hk
  dsimp only at h
  split at h
  · rw [← Option.some.inj h]
  · obtain ⟨-, h⟩ := Option.ite_none_right_eq_some.mp h
    rw [← Option.some.inj h]

/-! ## Hovering -/

theorem hovered_setHover (h : Highlight α) (node : Option String) (neighbors : List String) :
    (h.setHover node neighbors).hovered = node := by
  unfold setHover
  split
  · assumption
  · cases node with
    | none => rfl
    | some id => rfl

theorem Aims.setHover (hh : h.Aims adjacent) {node : Option String} {neighbors : List String}
    (hadj : ∀ id, node = some id → ∀ x, x ∈ neighbors ↔ adjacent id x) :
    (h.setHover node neighbors).Aims adjacent := by
  unfold Highlight.setHover
  split
  · exact hh
  · cases node with
    | none => exact aims_of_none rfl rfl
    | some id =>
      intro x
      have hx : x ∈ (id :: neighbors).eraseDups ↔ x = id ∨ adjacent id x := by
        rw [List.mem_eraseDups, List.mem_cons, hadj id rfl]
      refine hx.trans ⟨fun h => ⟨id, rfl, h⟩, ?_⟩
      rintro ⟨id', hid', h'⟩
      rw [Option.some.inj hid']
      exact h'

theorem Within.setHover (hh : h.Within known) {node : Option String} {neighbors : List String}
    (hnode : ∀ id, node = some id → known id) (hneighbors : ∀ id ∈ neighbors, known id) :
    (h.setHover node neighbors).Within known := by
  unfold Highlight.setHover
  split
  · exact hh
  · cases node with
    | none => exact ⟨hnode, fun _ hid => absurd hid List.not_mem_nil, hh.nodes, hh.hovers, hh.timers⟩
    | some id =>
      have htargets : ∀ x ∈ (id :: neighbors).eraseDups, known x := by
        intro x hx
        rcases List.mem_cons.mp (List.mem_eraseDups.mp hx) with rfl | hx
        · exact hnode x rfl
        · exact hneighbors x hx
      refine ⟨hnode, htargets, hh.nodes, hh.hovers, fun x hx => ?_⟩
      rcases (mem_keys_foldl_put (fun _ _ => holdTime) _ _ _).mp hx with hx | hx
      · exact htargets x hx
      · exact hh.timers x hx

/-! ## Time -/

theorem Within.tick (hh : h.Within known) (dt : α) : (h.tick dt).Within known where
  hovered := hh.hovered
  targets := hh.targets
  nodes id hid := by
    dsimp only [Highlight.tick] at hid
    rcases (mem_keys_brighten _ _ _ _).mp (mem_keys_of_dim hid) with hid | hid
    · exact hh.targets id hid
    · exact hh.nodes id hid
  hovers id hid := by
    dsimp only [Highlight.tick] at hid
    rcases (mem_keys_brighten _ _ _ _).mp (mem_keys_of_dim hid) with hid | hid
    · exact hh.hovered id (Option.mem_toList.mp hid)
    · exact hh.hovers id hid
  timers id hid := hh.timers id (mem_keys_of_runTimers hid)

end NodeLink.Highlight
