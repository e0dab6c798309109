import NodeLink.Proofs.Graph.Directory
import NodeLink.Proofs.Highlight.Keys
/-!
# Values of a highlight

What each id reads in the tables of a highlight after a hover and after some time. The tables have
every id once, which is what makes the value of an id depend on its own entry alone.

* `Highlight.lookup_put`, `lookup_revise`: a table with a new value, and with all values revised.
* `Highlight.lookup_holdTimer_tick`, `lookup_nodeIntensity_tick`, `lookup_hoverIntensity_tick`: what
  passing time does to one id.
-/

namespace NodeLink.Highlight

variable {α : Type}

/-! ## Tables with every key once -/

theorem lookup_put (id k : String) (v : α) (table : List (String × α)) :
    (put id v table).lookup k = if k = id then some v else table.lookup k := by
  induction table with
  | nil =>
    by_cases hk : k = id
    · rw [put, if_pos hk, hk, List.lookup_cons_self]
    · rw [put, if_neg hk, List.lookup_cons, beq_false_of_ne hk]
  | cons entry rest ih =>
    obtain ⟨k', w⟩ := entry
    by_cases hid : k' = id
    · subst hid
      rw [put, if_pos rfl, List.lookup_cons, List.lookup_cons]
      by_cases hk : k = k'
      · rw [if_pos hk, hk, beq_self_eq_true]
      · rw [if_neg hk, beq_false_of_ne hk]
    · rw [put, if_neg hid, List.lookup_cons, List.lookup_cons, ih]
      by_cases hk : k = k'
      · rw [hk, beq_self_eq_true, if_neg hid, if_neg hid]
      · rw [beq_false_of_ne hk]

theorem nodup_keys_put (id : String) (v : α) {table : List (String × α)}
    (hnd : (keys table).Nodup) : (keys (put id v table)).Nodup := by
  induction table with
  | nil => exact List.nodup_cons.mpr ⟨List.not_mem_nil, List.nodup_nil⟩
  | cons entry rest ih =>
    obtain ⟨k, w⟩ := entry
    rw [keys, List.map_cons, List.nodup_cons] at hnd
    by_cases hid : k = id
    · rw [put, if_pos hid, keys, List.map_cons, List.nodup_cons]
      exact hnd
    · rw [put, if_neg hid, keys, List.map_cons, List.nodup_cons]
      refine ⟨fun hk => ?_, ih hnd.2⟩
      rcases (mem_keys_put id v rest k).mp hk with h | h
      · exact hid h
      · exact hnd.1 h

theorem lookup_eq_none {table : List (String × α)} {k : String} (hk : k ∉ keys table) :
    table.lookup k = none := by
  cases hlookup : table.lookup k with
  | none => rfl
  | some v => exact absurd (List.mem_map_of_mem (mem_of_lookup hlookup)) hk

/-- The same value entered under each of some ids. -/
theorem lookup_foldl_put (v : α) (ids : List String) (table : List (String × α)) (k : String) :
    (ids.foldl (fun table id => put id v table) table).lookup k =
      if k ∈ ids then some v else table.lookup k := by
  induction ids generalizing table with
  | nil => rw [List.foldl_nil, if_neg List.not_mem_nil]
  | cons id rest ih =>
    rw [List.foldl_cons, ih, lookup_put]
    by_cases hrest : k ∈ rest
    · rw [if_pos hrest, if_pos (List.mem_cons_of_mem id hrest)]
    · by_cases hk : k = id
      · rw [if_neg hrest, if_pos hk, if_pos (hk ▸ List.mem_cons_self)]
      · rw [if_neg hrest, if_neg hk,
          if_neg (fun h => (List.mem_cons.mp h).elim hk hrest)]

theorem nodup_keys_foldl_put (value : List (String × α) → String → α) (ids : List String)
    {table : List (String × α)} (hnd : (keys table).Nodup) :
    (keys (ids.foldl (fun table id => put id (value table id) table) table)).Nodup := by
  induction ids generalizing table with
  | nil => exact hnd
  | cons id rest ih => exact ih (nodup_keys_put id (value table id) hnd)

/-- Each value replaced or dropped, by its id and itself. -/
def revise (f : String → α → Option α) (table : List (String × α)) : List (String × α) :=
  table.filterMap fun entry => (f entry.1 entry.2).map (Prod.mk entry.1)

theorem keys_revise_sublist (f : String → α → Option α) (table : List (String × α)) :
    (keys (revise f table)).Sublist (keys table) := by
  induction table with
  | nil => exact List.Sublist.refl []
  | cons entry rest ih =>
    rw [revise, List.filterMap_cons]
    cases f entry.1 entry.2 with
    | none => exact ih.cons entry.1
    | some v => exact ih.cons_cons entry.1

theorem lookup_revise (f : String → α → Option α) {table : List (String × α)}
    (hnd : (keys table).Nodup) (k : String) :
    (revise f table).lookup k = (table.lookup k).bind (f k) := by
  induction table with
  | nil => rfl
  | cons entry rest ih =>
    obtain ⟨k', w⟩ := entry
    rw [keys, List.map_cons, List.nodup_cons] at hnd
    have hrest := ih hnd.2
    rw [revise, List.filterMap_cons, List.lookup_cons]
    dsimp only
    by_cases hk : k = k'
    · subst hk
      rw [beq_self_eq_true]
      dsimp only
      rw [Option.bind_some]
      cases hf : f k w with
      | none =>
        -- No later entry can stand in for the one that was dropped.
        have habsent : rest.lookup k = none := lookup_eq_none hnd.1
        rw [Option.map_none]
        show (revise f rest).lookup k = none
        rw [hrest, habsent, Option.bind_none]
      | some v =>
        rw [Option.map_some]
        exact List.lookup_cons_self
    · rw [beq_false_of_ne hk]
      dsimp only
      cases f k' w with
      | none => exact hrest
      | some v =>
        rw [Option.map_some]
        dsimp only
        rw [List.lookup_cons, beq_false_of_ne hk]
        exact hrest

variable [Scalar α]

theorem valueOf_of_not_mem {table : List (String × α)} {k : String} (hk : k ∉ keys table) :
    valueOf table k = 0 := by
  rw [valueOf, lookup_eq_none hk, Option.getD_none]

/-! ## Hovering -/

/-- A hover that changes anything restarts the timers of its targets. -/
theorem lookup_holdTimer_setHover (h : Highlight α) (node : Option String)
    (neighbors : List String) (id : String) :
    (h.setHover node neighbors).holdTimer.lookup id =
      if h.hovered ≠ node ∧ id ∈ (h.setHover node neighbors).targets then some holdTime
      else h.holdTimer.lookup id := by
  unfold setHover
  by_cases hsame : h.hovered = node
  · rw [if_pos hsame, if_neg (fun hand => hand.1 hsame)]
  · rw [if_neg hsame]
    cases node with
    | none => exact (if_neg (fun hand => List.not_mem_nil hand.2)).symm
    | some x =>
      dsimp only
      rw [lookup_foldl_put]
      by_cases hid : id ∈ (x :: neighbors).eraseDups
      · rw [if_pos hid, if_pos ⟨hsame, hid⟩]
      · rw [if_neg hid, if_neg (fun hand => hid hand.2)]

theorem nodup_keys_holdTimer_setHover {h : Highlight α} (hnd : (keys h.holdTimer).Nodup)
    (node : Option String) (neighbors : List String) :
    (keys (h.setHover node neighbors).holdTimer).Nodup := by
  unfold setHover
  split
  · exact hnd
  · cases node with
    | none => exact hnd
    | some x => exact nodup_keys_foldl_put (fun _ _ => holdTime) _ hnd

theorem hoverIntensity_setHover (h : Highlight α) (node : Option String)
    (neighbors : List String) :
    (h.setHover node neighbors).hoverIntensity = h.hoverIntensity := by
  unfold setHover
  split
  · rfl
  · cases node with
    | none => rfl
    | some x => rfl

theorem nodeIntensity_setHover (h : Highlight α) (node : Option String)
    (neighbors : List String) :
    (h.setHover node neighbors).nodeIntensity = h.nodeIntensity := by
  unfold setHover
  split
  · rfl
  · cases node with
    | none => rfl
    | some x => rfl

theorem nodup_eraseDups (ids : List String) : ids.eraseDups.Nodup := by
  induction hn : ids.length using Nat.strongRecOn generalizing ids with
  | ind n ih =>
    cases ids with
    | nil => exact List.nodup_nil
    | cons id rest =>
      have hshorter : (rest.filter fun k => !k == id).length < n := by
        rw [← hn, List.length_cons]
        exact Nat.lt_succ_of_le (List.length_filter_le _ _)
      rw [List.eraseDups_cons, List.nodup_cons]
      refine ⟨fun hid => ?_, ih _ hshorter _ rfl⟩
      have hkept := (List.mem_filter.mp (List.mem_eraseDups.mp hid)).2
      rw [beq_self_eq_true] at hkept
      exact Bool.false_ne_true hkept

theorem nodup_targets_setHover {h : Highlight α} (hnd : h.targets.Nodup) (node : Option String)
    (neighbors : List String) : (h.setHover node neighbors).targets.Nodup := by
  unfold setHover
  split
  · exact hnd
  · cases node with
    | none => exact List.nodup_nil
    | some x => exact nodup_eraseDups _

/-! ## Time -/

def fadeIn (dt : α) : α := 1 - Scalar.exp (-fadeInSpeed * dt)

def fadeOut (dt : α) : α := Scalar.exp (-fadeOutSpeed * dt)

/-- A timer after a time `dt`. -/
def runDown (stands : Bool) (dt t : α) : Option α :=
  if stands then some t else if 0 < t - dt then some (t - dt) else none

/-- An intensity after a time in which it stands or falls to a part of itself. -/
def faded (stands : Bool) (part v : α) : Option α :=
  if threshold < (if stands then v else v * part) then some (if stands then v else v * part)
  else none

theorem runTimers_eq_revise (targets : List String) (dt : α) (timers : List (String × α)) :
    runTimers targets dt timers =
      revise (fun id => runDown (decide (id ∈ targets)) dt) timers := by
  unfold runTimers revise
  congr 1
  funext entry
  dsimp only [runDown]
  by_cases hid : entry.1 ∈ targets
  · rw [if_pos hid, decide_eq_true hid, if_pos rfl, Option.map_some]
  · rw [if_neg hid, decide_eq_false hid, if_neg Bool.false_ne_true]
    split
    · rfl
    · rfl

theorem dim_eq_revise (keep : String → Bool) (timers : List (String × α)) (fadeOut : α)
    (table : List (String × α)) :
    dim keep timers fadeOut table =
      revise (fun id => faded (keep id || isHeld timers id) fadeOut) table := by
  unfold dim revise
  congr 1
  funext entry
  dsimp only [faded]
  rw [← Bool.not_or]
  cases keep entry.1 || isHeld timers entry.1 with
  | true =>
    rw [Bool.not_true, if_neg Bool.false_ne_true, if_pos rfl]
    split
    · rfl
    · rfl
  | false =>
    rw [Bool.not_false, if_pos rfl, if_neg Bool.false_ne_true]
    split
    · rfl
    · rfl

/-- Passing time changes the timer of an id by itself and by whether the id is a target. -/
theorem lookup_holdTimer_tick {h : Highlight α} (hnd : (keys h.holdTimer).Nodup) (dt : α)
    (id : String) :
    (h.tick dt).holdTimer.lookup id =
      (h.holdTimer.lookup id).bind (runDown (decide (id ∈ h.targets)) dt) := by
  show (runTimers h.targets dt h.holdTimer).lookup id = _
  rw [runTimers_eq_revise, lookup_revise _ hnd]

theorem nodup_keys_holdTimer_tick {h : Highlight α} (hnd : (keys h.holdTimer).Nodup) (dt : α) :
    (keys (h.tick dt).holdTimer).Nodup := by
  show (keys (runTimers h.targets dt h.holdTimer)).Nodup
  rw [runTimers_eq_revise]
  exact (keys_revise_sublist _ _).nodup hnd

/-- Each of some distinct ids moves toward one from what it had at first. -/
theorem lookup_foldl_brighten {ids : List String} (hids : ids.Nodup) (f : α)
    (table : List (String × α)) (k : String) :
    (ids.foldl (brighten f) table).lookup k =
      if k ∈ ids then some (valueOf table k + (1 - valueOf table k) * f)
      else table.lookup k := by
  induction ids generalizing table with
  | nil => rw [List.foldl_nil, if_neg List.not_mem_nil]
  | cons id rest ih =>
    obtain ⟨hid, hrest⟩ := List.nodup_cons.mp hids
    rw [List.foldl_cons, ih hrest, brighten, lookup_put, valueOf_put]
    by_cases hk : k = id
    · rw [if_pos hk, if_pos hk, if_neg (hk ▸ hid), if_pos (hk ▸ List.mem_cons_self), hk]
    · simp only [List.mem_cons, hk, false_or, if_false]

theorem lookup_brightened (hovered : Option String) (f : α) (table : List (String × α))
    (id : String) :
    (hovered.toList.foldl (brighten f) table).lookup id =
      if hovered = some id then some (valueOf table id + (1 - valueOf table id) * f)
      else table.lookup id := by
  have hids : hovered.toList.Nodup := by
    cases hovered with
    | none => exact List.nodup_nil
    | some x => exact List.nodup_cons.mpr ⟨List.not_mem_nil, List.nodup_nil⟩
  simp only [lookup_foldl_brighten hids, Option.mem_toList]

theorem nodup_keys_foldl_brighten (ids : List String) (f : α) {table : List (String × α)}
    (hnd : (keys table).Nodup) : (keys (ids.foldl (brighten f) table)).Nodup :=
  nodup_keys_foldl_put (fun table id => valueOf table id + (1 - valueOf table id) * f) ids hnd

/-- Passing time brightens the hovered node, and any other intensity stands or fades, by whether
the timer of its id is still running. -/
theorem lookup_hoverIntensity_tick {h : Highlight α} (hnd : (keys h.hoverIntensity).Nodup) (dt : α)
    (id : String) :
    (h.tick dt).hoverIntensity.lookup id =
      (if h.hovered = some id then
          some (h.hoverAt id + (1 - h.hoverAt id) * fadeIn dt)
        else h.hoverIntensity.lookup id).bind
      (faded (decide (h.hovered = some id) || isHeld (h.tick dt).holdTimer id) (fadeOut dt)) := by
  show (dim (fun id => decide (h.hovered = some id)) (h.tick dt).holdTimer (fadeOut dt)
    (h.hovered.toList.foldl (brighten (fadeIn dt)) h.hoverIntensity)).lookup id = _
  rw [dim_eq_revise, lookup_revise _ (nodup_keys_foldl_brighten _ _ hnd), lookup_brightened]
  rfl

/-- Passing time brightens the targets, and any other intensity stands or fades as above. -/
theorem lookup_nodeIntensity_tick {h : Highlight α} (htargets : h.targets.Nodup)
    (hnd : (keys h.nodeIntensity).Nodup) (dt : α) (id : String) :
    (h.tick dt).nodeIntensity.lookup id =
      (if id ∈ h.targets then some (h.nodeAt id + (1 - h.nodeAt id) * fadeIn dt)
        else h.nodeIntensity.lookup id).bind
      (faded (decide (id ∈ h.targets) || isHeld (h.tick dt).holdTimer id) (fadeOut dt)) := by
  show (dim (fun id => decide (id ∈ h.targets)) (h.tick dt).holdTimer (fadeOut dt)
    (h.targets.foldl (brighten (fadeIn dt)) h.nodeIntensity)).lookup id = _
  rw [dim_eq_revise, lookup_revise _ (nodup_keys_foldl_brighten _ _ hnd),
    lookup_foldl_brighten htargets]
  rfl

theorem nodup_keys_dim (keep : String → Bool) (timers : List (String × α)) (fadeOut : α)
    {table : List (String × α)} (hnd : (keys table).Nodup) :
    (keys (dim keep timers fadeOut table)).Nodup := by
  rw [dim_eq_revise]
  exact (keys_revise_sublist _ _).nodup hnd

theorem nodup_keys_nodeIntensity_tick {h : Highlight α} (hnd : (keys h.nodeIntensity).Nodup)
    (dt : α) : (keys (h.tick dt).nodeIntensity).Nodup := by
  dsimp only [tick]
  exact nodup_keys_dim _ _ _ (nodup_keys_foldl_brighten _ _ hnd)

theorem nodup_keys_hoverIntensity_tick {h : Highlight α} (hnd : (keys h.hoverIntensity).Nodup)
    (dt : α) : (keys (h.tick dt).hoverIntensity).Nodup := by
  dsimp only [tick]
  exact nodup_keys_dim _ _ _ (nodup_keys_foldl_brighten _ _ hnd)

end NodeLink.Highlight
