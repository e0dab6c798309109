import NodeLink.Text.LowerCase
/-!
# Lower case inside a text

A character is lower-cased by itself, except the capital sigma, whose form tells whether a word ends
with it. So a word that is lower-cased by itself is found in the lower-cased text around it if its
sigmas end a word there exactly when they do so alone; a sigma at the edge of the word may not.

* `Text.occursIn_iff`: to occur is to be an infix.
* `Text.KeepsSigmas`: the sigmas of a word take the same form alone and inside a text; a word
  without a capital sigma has nothing to keep.
* `Text.lowerCase_infix`: such a word is found in the text around it.
* `Text.KeepsSigmas.trim`, `KeepsSigmas.widen`: blanks at the edges make no difference.
-/

namespace NodeLink.Text

theorem occursIn_iff (needle text : List Char) :
    occursIn needle text = true ↔ needle <:+: text := by
  induction text with
  | nil => rw [occursIn, List.isEmpty_iff, List.infix_nil]
  | cons c rest ih =>
    rw [occursIn, Bool.or_eq_true, ih, List.isPrefixOf_iff_prefix, List.infix_cons_iff]

/-! ## Trimming -/

theorem exists_trimChars (cs : List Char) : ∃ lead trail, cs = lead ++ trimChars cs ++ trail ∧
    (∀ c ∈ lead, isBlank c = true) ∧ ∀ c ∈ trail, isBlank c = true := by
  let rest := cs.dropWhile isBlank
  refine ⟨cs.takeWhile isBlank, (rest.reverse.takeWhile isBlank).reverse, ?_, ?_, ?_⟩
  · have hrest : trimChars cs ++ (rest.reverse.takeWhile isBlank).reverse = rest := by
      rw [trimChars, ← List.reverse_append, List.takeWhile_append_dropWhile, List.reverse_reverse]
    rw [List.append_assoc, hrest, List.takeWhile_append_dropWhile]
  · exact List.all_eq_true.mp List.all_takeWhile
  · exact fun c hc => List.all_eq_true.mp List.all_takeWhile c (List.mem_reverse.mp hc)

theorem trimChars_ne_nil {cs : List Char} (h : ∃ c ∈ cs, isBlank c = false) :
    trimChars cs ≠ [] := by
  obtain ⟨c, hc, hvisible⟩ := h
  obtain ⟨lead, trail, hcs, hlead, htrail⟩ := exists_trimChars cs
  intro hnil
  rw [hcs, hnil, List.append_nil, List.mem_append] at hc
  have hblank : isBlank c = true := hc.elim (hlead c) (htrail c)
  exact absurd (hvisible.symm.trans hblank) Bool.false_ne_true

theorem lowerCase_ne_nil {cs : List Char} (h : cs ≠ []) : lowerCase cs ≠ [] := by
  cases cs with
  | nil => exact absurd rfl h
  | cons c rest =>
    rw [lowerCase, lowerFrom, lowerAt]
    split
    · exact List.cons_ne_nil _ _
    · split
      · exact List.cons_ne_nil _ _
      · exact List.cons_ne_nil _ _

/-! ## What ends a word -/

/-- Whether a capital sigma ends a word between these characters. -/
def endsWord (before after : List Char) : Bool :=
  meetsCased before.reverse && !meetsCased after

/-- A character that has no case and counts, so that nothing beyond it matters. -/
def breaksWord (c : Char) : Bool := !isCased c && !isCaseIgnorable c

theorem meetsCased_append (xs : List Char) {ys : List Char} (hys : ys.head?.all breaksWord = true) :
    meetsCased (xs ++ ys) = meetsCased xs := by
  induction xs with
  | nil =>
    cases ys with
    | nil => rfl
    | cons y rest =>
      obtain ⟨hcased, hcounts⟩ := Bool.and_eq_true_iff.mp hys
      rw [Bool.not_eq_true'] at hcased hcounts
      rw [List.nil_append, meetsCased, List.dropWhile_cons, hcounts]
      exact hcased
  | cons x rest ih =>
    unfold meetsCased at ih ⊢
    rw [List.cons_append, List.dropWhile_cons, List.dropWhile_cons]
    cases isCaseIgnorable x with
    | true => exact ih
    | false => rfl

theorem endsWord_append {lead trail : List Char} (hlead : lead.getLast?.all breaksWord = true)
    (htrail : trail.head?.all breaksWord = true) (before after : List Char) :
    endsWord (lead ++ before) (after ++ trail) = endsWord before after := by
  rw [← List.head?_reverse] at hlead
  rw [endsWord, List.reverse_append, meetsCased_append _ hlead, meetsCased_append _ htrail,
    ← endsWord]

/-! ## Blanks -/

/-- No number lies in a range of the one list and in one of the other. -/
def rangesDisjoint (ranges others : List (Nat × Nat)) : Bool :=
  ranges.all fun (lo, hi) => others.all fun (lo', hi') => decide (hi < lo') || decide (hi' < lo)

theorem inRanges_iff (ranges : List (Nat × Nat)) (n : Nat) :
    inRanges ranges n = true ↔ ∃ r ∈ ranges, r.1 ≤ n ∧ n ≤ r.2 := by
  simp only [inRanges, List.any_eq_true, Bool.and_eq_true, decide_eq_true_eq]

theorem inRanges_of_disjoint {ranges others : List (Nat × Nat)}
    (h : rangesDisjoint ranges others = true) {n : Nat} (hn : inRanges ranges n = true) :
    inRanges others n = false := by
  obtain ⟨r, hr, hlow, hhigh⟩ := (inRanges_iff ranges n).mp hn
  rw [Bool.eq_false_iff]
  intro hother
  obtain ⟨r', hr', hlow', hhigh'⟩ := (inRanges_iff others n).mp hother
  have hapart := List.all_eq_true.mp (List.all_eq_true.mp h r hr) r' hr'
  rw [Bool.or_eq_true, decide_eq_true_eq, decide_eq_true_eq] at hapart
  omega

theorem blankRanges_disjoint : rangesDisjoint blankRanges casedRanges = true ∧
    rangesDisjoint blankRanges caseIgnorableRanges = true := by
  decide +kernel

theorem breaksWord_of_isBlank {c : Char} (hc : isBlank c = true) : breaksWord c = true := by
  obtain ⟨hcased, hignorable⟩ := blankRanges_disjoint
  rw [breaksWord, isCased, inRanges_of_disjoint hcased hc, isCaseIgnorable,
    inRanges_of_disjoint hignorable hc]
  rfl

theorem head?_breaksWord {cs : List Char} (h : ∀ c ∈ cs, isBlank c = true) :
    cs.head?.all breaksWord = true := by
  cases cs with
  | nil => rfl
  | cons c rest => exact breaksWord_of_isBlank (h c List.mem_cons_self)

theorem getLast?_breaksWord {cs : List Char} (h : ∀ c ∈ cs, isBlank c = true) :
    cs.getLast?.all breaksWord = true := by
  rw [← List.head?_reverse]
  exact head?_breaksWord fun c hc => h c (List.mem_reverse.mp hc)

/-! ## Words inside a text -/

/-- Each capital sigma of a word takes by itself the form that it takes where the word stands
between `before` and `after`. -/
def KeepsSigmas (before word after : List Char) : Prop :=
  ∀ k < word.length, word[k]? = some capitalSigma →
    endsWord (word.take k) (word.drop (k + 1)) =
      endsWord (before ++ word.take k) (word.drop (k + 1) ++ after)

instance (before word after : List Char) : Decidable (KeepsSigmas before word after) :=
  inferInstanceAs (Decidable (∀ k < word.length, _))

theorem keepsSigmas_iff {before word after : List Char} : KeepsSigmas before word after ↔
    ∀ left right, word = left ++ capitalSigma :: right →
      endsWord left right = endsWord (before ++ left) (right ++ after) := by
  constructor
  · rintro h left right rfl
    have hsigma : (left ++ capitalSigma :: right)[left.length]? = some capitalSigma := by
      rw [List.getElem?_append_right (Nat.le_refl _), Nat.sub_self, List.getElem?_cons_zero]
    have hdrop : (left ++ capitalSigma :: right).drop (left.length + 1) = right := by
      rw [← List.drop_drop, List.drop_left, List.drop_one, List.tail_cons]
    have hkept := h left.length (List.getElem?_eq_some_iff.mp hsigma).1 hsigma
    rwa [List.take_left, hdrop] at hkept
  · intro h k hk hsigma
    obtain ⟨_, hget⟩ := List.getElem?_eq_some_iff.mp hsigma
    refine h _ _ ?_
    rw [← hget, List.getElem_cons_drop, List.take_append_drop]

/-- Without the blanks around it, a word that keeps its sigmas still does. -/
theorem KeepsSigmas.trim {before word after lead core trail : List Char}
    (h : KeepsSigmas before word after) (hword : word = lead ++ core ++ trail)
    (hlead : ∀ c ∈ lead, isBlank c = true) (htrail : ∀ c ∈ trail, isBlank c = true) :
    KeepsSigmas (before ++ lead) core (trail ++ after) := by
  rw [keepsSigmas_iff] at h ⊢
  intro left right hcore
  have hsplit : word = (lead ++ left) ++ capitalSigma :: (right ++ trail) := by
    rw [hword, hcore]
    simp only [List.append_assoc, List.cons_append]
  have hkept := h _ _ hsplit
  rw [endsWord_append (getLast?_breaksWord hlead) (head?_breaksWord htrail)] at hkept
  rw [hkept, List.append_assoc, List.append_assoc]

/-- In a wider text that goes on with characters that break words, a word that keeps its sigmas
still does. -/
theorem KeepsSigmas.widen {before word after lead trail : List Char}
    (h : KeepsSigmas before word after) (hlead : lead.getLast?.all breaksWord = true)
    (htrail : trail.head?.all breaksWord = true) :
    KeepsSigmas (lead ++ before) word (after ++ trail) := by
  rw [keepsSigmas_iff] at h ⊢
  intro left right hword
  rw [h left right hword, ← endsWord_append hlead htrail, List.append_assoc, List.append_assoc]

theorem exists_lowerFrom_append (context xs ys : List Char) :
    ∃ zs, lowerFrom context (xs ++ ys) = zs ++ lowerFrom (xs.reverse ++ context) ys := by
  induction xs generalizing context with
  | nil => exact ⟨[], rfl⟩
  | cons x rest ih =>
    obtain ⟨zs, hzs⟩ := ih (x :: context)
    refine ⟨lowerAt context (rest ++ ys) x ++ zs, ?_⟩
    rw [List.cons_append, lowerFrom, hzs, List.reverse_cons, List.append_assoc, List.append_assoc,
      List.singleton_append]

/-- The form of any character but the sigma depends on nothing around it. -/
theorem lowerAt_congr {before before' after after' : List Char} {c : Char}
    (h : c = capitalSigma → endsWord before after = endsWord before' after') :
    lowerAt before.reverse after c = lowerAt before'.reverse after' c := by
  unfold lowerAt
  by_cases hc : c = capitalSigma
  · have hform := h hc
    unfold endsWord at hform
    rw [if_pos hc, if_pos hc, hform]
  · rw [if_neg hc, if_neg hc]

/-- The rest of a word comes out between `before` and `after` as it does by itself. -/
theorem lowerFrom_word {before left word after : List Char}
    (h : KeepsSigmas before (left ++ word) after) :
    lowerFrom (before ++ left).reverse (word ++ after) =
      lowerFrom left.reverse word ++ lowerFrom (before ++ left ++ word).reverse after := by
  -- `left` is what has been passed of the word
  induction word generalizing left with
  | nil => rw [List.append_nil, List.nil_append, lowerFrom, List.nil_append]
  | cons c rest ih =>
    have hrest : KeepsSigmas before ((left ++ [c]) ++ rest) after := by
      rwa [List.append_assoc, List.singleton_append]
    have hform :
        lowerAt (before ++ left).reverse (rest ++ after) c = lowerAt left.reverse rest c := by
      refine lowerAt_congr fun hc => ?_
      exact (keepsSigmas_iff.mp h left rest (by rw [hc])).symm
    have hnext := ih hrest
    rw [← List.append_assoc, List.reverse_concat, List.reverse_concat] at hnext
    rw [List.cons_append, lowerFrom, lowerFrom, hform, hnext, List.append_assoc, List.append_assoc,
      List.append_assoc, List.append_assoc, List.singleton_append]

/-- A word that keeps its sigmas is found in lower case in the text around it in lower case. -/
theorem lowerCase_infix {before word after : List Char} (h : KeepsSigmas before word after) :
    lowerCase word <:+: lowerCase (before ++ word ++ after) := by
  obtain ⟨zs, hzs⟩ := exists_lowerFrom_append [] before (word ++ after)
  have hword : lowerFrom (before ++ []).reverse (word ++ after) =
      lowerFrom [] word ++ lowerFrom (before ++ [] ++ word).reverse after := lowerFrom_word h
  rw [List.append_nil] at hword hzs
  rw [hword] at hzs
  refine ⟨zs, lowerFrom (before ++ word).reverse after, ?_⟩
  rw [lowerCase, lowerCase, List.append_assoc before, hzs, List.append_assoc]

end NodeLink.Text
