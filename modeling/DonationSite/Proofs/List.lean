/-!
# List lemmas

Folds over a list with indices, a list with one element more, elements that are told by their index,
and counts among the first elements of a list. The count of the elements before an index tells the
elements that are counted apart (`countP_take_inj`).
-/

namespace List

variable {α β γ : Type}

/-- A fold over a list with indices establishes of the whole list what holds of the empty list at
first and is carried on from each part of the list to the next element. -/
theorem foldl_zipIdx_induction {motive : List α → β → Prop} {f : β → α × Nat → β} {init : β}
    (l : List α) (nil : motive [] init)
    (concat : ∀ seen next rest b, l = seen ++ next :: rest → motive seen b →
      motive (seen ++ [next]) (f b (next, seen.length))) :
    motive l (l.zipIdx.foldl f init) := by
  -- The fold is cut after `seen`; the induction is on what is left.
  suffices h : ∀ rest seen b, l = seen ++ rest → motive seen b →
      motive l ((rest.zipIdx seen.length).foldl f b) from h l [] init rfl nil
  intro rest
  induction rest with
  | nil =>
    intro seen b hl hb
    rw [List.append_nil] at hl
    subst hl
    exact hb
  | cons next rest ih =>
    intro seen b hl hb
    rw [List.zipIdx_cons, List.foldl_cons]
    have hnext := concat seen next rest b hl hb
    have hsplit : l = (seen ++ [next]) ++ rest := by rw [hl]; simp
    have := ih (seen ++ [next]) _ hsplit hnext
    rwa [List.length_append, List.length_singleton] at this

/-! ### Elements by their index -/

/-- What stands in a list with one element more is that element, at the end, or stood there. -/
theorem getElem?_concat_eq_some_iff {l : List α} {x y : α} {i : Nat} :
    (l ++ [x])[i]? = some y ↔ l[i]? = some y ∨ i = l.length ∧ x = y := by
  -- The new element stands at the length of the list, and nothing behind it.
  rcases Nat.lt_trichotomy i l.length with hlt | heq | hgt
  · rw [List.getElem?_append_left hlt]
    simp [Nat.ne_of_lt hlt]
  · subst heq
    simp
  · rw [List.getElem?_eq_none (by simp; omega), List.getElem?_eq_none (Nat.le_of_lt hgt)]
    simp [Nat.ne_of_gt hgt]

/-- What stands among the first elements stands there in the whole list. -/
theorem getElem?_take_eq_some_iff {l : List α} {x : α} {i j : Nat} :
    (l.take j)[i]? = some x ↔ i < j ∧ l[i]? = some x := by
  rw [List.getElem?_take]
  split
  · next hlt => simp [hlt]
  · next hlt => simp [hlt]

/-- Of the first elements, fewer are the first ones of the whole list. -/
theorem take_take_of_lt {l : List α} {i j : Nat} (hij : i < j) : (l.take j).take i = l.take i := by
  rw [List.take_take, Nat.min_eq_left (Nat.le_of_lt hij)]

/-- If a test tells one element by its index, that element is all that the test keeps. -/
theorem filter_eq_singleton {l : List α} {p : α → Bool} {k : Nat} {x : α} (hk : l[k]? = some x)
    (h : ∀ i y, l[i]? = some y → (p y = true ↔ i = k)) : l.filter p = [x] := by
  obtain ⟨hlt, hx⟩ := getElem?_eq_some_iff.1 hk
  have hsplit : l = l.take k ++ x :: l.drop (k + 1) := by
    rw [← hx, ← drop_eq_getElem_cons hlt, take_append_drop]
  -- Before and after its index the test keeps nothing.
  have hbefore : (l.take k).filter p = [] := by
    refine filter_eq_nil_iff.2 fun y hmem hp => ?_
    obtain ⟨i, hi⟩ := mem_iff_getElem?.1 hmem
    obtain ⟨hik, hi⟩ := getElem?_take_eq_some_iff.1 hi
    have := (h i y hi).1 hp
    omega
  have hafter : (l.drop (k + 1)).filter p = [] := by
    refine filter_eq_nil_iff.2 fun y hmem hp => ?_
    obtain ⟨i, hi⟩ := mem_iff_getElem?.1 hmem
    rw [getElem?_drop] at hi
    have := (h _ y hi).1 hp
    omega
  have hself : p x = true := (h k x hk).2 rfl
  rw [hsplit, filter_append, filter_cons_of_pos hself, hbefore, hafter, nil_append]

/-- Among elements that are told apart by something about them, each is the only one of its kind. -/
theorem filter_eq_singleton_of_nodup [DecidableEq β] {l : List α} {f : α → β}
    (h : (l.map f).Nodup) {x : α} (hx : x ∈ l) : l.filter (fun y => f y = f x) = [x] := by
  induction l with
  | nil => exact absurd hx not_mem_nil
  | cons y l ih =>
    rw [map_cons, nodup_cons] at h
    obtain ⟨hy, hl⟩ := h
    rcases mem_cons.1 hx with rfl | hx
    -- Nothing else in the list is told in the same way.
    · have hnone : l.filter (fun z => f z = f x) = [] := by
        refine filter_eq_nil_iff.2 fun z hz heq => hy ?_
        rw [← of_decide_eq_true heq]
        exact mem_map_of_mem hz
      rw [filter_cons_of_pos (by simp), hnone]
    · have hne : f y ≠ f x := fun heq => hy (heq ▸ mem_map_of_mem hx)
      rw [filter_cons_of_neg (by simpa using hne), ih hl hx]

/-- Lists of one element each, made of the elements of a list in order. -/
theorem flatMap_mapIdx_of_singleton {l : List α} {f : Nat → α → β} {g : Nat → α → γ}
    {h : β → List γ} (hfg : ∀ i x, h (f i x) = [g i x]) :
    (l.mapIdx f).flatMap h = l.mapIdx g := by
  induction l generalizing f g with
  | nil => rfl
  | cons x l ih =>
    have htail := ih (f := fun i => f (i + 1)) (g := fun i => g (i + 1)) fun i x => hfg (i + 1) x
    rw [mapIdx_cons, flatMap_cons, hfg, htail, mapIdx_cons]
    rfl

/-- Lists without elements leave nothing. -/
theorem flatMap_mapIdx_eq_nil {l : List α} {f : Nat → α → β} {h : β → List γ}
    (hf : ∀ i x, h (f i x) = []) : (l.mapIdx f).flatMap h = [] := by
  refine flatMap_eq_nil_iff.2 fun y hmem => ?_
  obtain ⟨i, hlt, rfl⟩ := mem_mapIdx.1 hmem
  exact hf i l[i]

/-- If every element stands for a list of its own kind that is not empty, what is dropped first of
the lists is what stands for the elements that are dropped first. -/
theorem dropWhile_flatMap {f : α → List β} {p : α → Bool} {q : β → Bool} (hne : ∀ x, f x ≠ [])
    (h : ∀ x, ∀ y ∈ f x, q y = p x) (l : List α) :
    (l.flatMap f).dropWhile q = (l.dropWhile p).flatMap f := by
  induction l with
  | nil => rfl
  | cons x l ih =>
    rw [flatMap_cons]
    by_cases hp : p x = true
    -- The list for an element is dropped as a whole, or its first element stops the dropping.
    · have hdropped : ∀ y ∈ f x, q y = true := fun y hy => (h x y hy).trans hp
      rw [dropWhile_append_of_pos hdropped, ih, dropWhile_cons_of_pos hp]
    · rw [dropWhile_cons_of_neg hp, flatMap_cons]
      obtain ⟨y, ys, hf⟩ := exists_cons_of_ne_nil (hne x)
      have hy : ¬q y = true := by
        rw [h x y (hf ▸ mem_cons_self)]
        exact hp
      rw [hf, cons_append, dropWhile_cons_of_neg hy]

/-! ### Counts among the first elements -/

variable {p : α → Bool} {l : List α}

/-- The first `j` elements are the first `i` followed by a segment. -/
private theorem take_eq_append_segment {i j : Nat} (hij : i ≤ j) :
    l.take j = l.take i ++ (l.drop i).take (j - i) := by
  have h : j = i + (j - i) := by omega
  rw [h, List.take_add, Nat.add_sub_cancel_left]

/-- More elements do not have a smaller count. -/
theorem countP_take_le {i j : Nat} (hij : i ≤ j) : (l.take i).countP p ≤ (l.take j).countP p := by
  rw [take_eq_append_segment hij, List.countP_append]
  exact Nat.le_add_right _ _

/-- An element that is counted adds one to the count. -/
theorem countP_take_succ {i : Nat} {x : α} (hx : l[i]? = some x) (hp : p x = true) :
    (l.take (i + 1)).countP p = (l.take i).countP p + 1 := by
  rw [List.take_add_one, hx, List.countP_append]
  simp [hp]

/-- An element that is counted makes a difference to all counts after it. -/
theorem countP_take_lt {i j : Nat} {x : α} (hij : i < j) (hx : l[i]? = some x)
    (hp : p x = true) : (l.take i).countP p < (l.take j).countP p := by
  have hle : (l.take (i + 1)).countP p ≤ (l.take j).countP p := countP_take_le hij
  rw [countP_take_succ hx hp] at hle
  exact hle

/-- Elements that are counted are told apart by the count before them. -/
theorem countP_take_inj {i j : Nat} {x y : α} (hx : l[i]? = some x) (hpx : p x = true)
    (hy : l[j]? = some y) (hpy : p y = true)
    (heq : (l.take i).countP p = (l.take j).countP p) : i = j := by
  -- If one came first, it would be counted before the other.
  rcases Nat.lt_trichotomy i j with hij | hij | hij
  · have := countP_take_lt hij hx hpx
    omega
  · exact hij
  · have := countP_take_lt hij hy hpy
    omega

/-- If one element is counted, it is told by being counted. -/
theorem eq_of_countP_eq_one {i j : Nat} {x y : α} (hone : l.countP p = 1) (hx : l[i]? = some x)
    (hpx : p x = true) (hy : l[j]? = some y) (hpy : p y = true) : i = j := by
  -- Nothing is counted before an element that is counted, since that one is all.
  have hcount {k : Nat} {z : α} (hz : l[k]? = some z) (hpz : p z = true) :
      (l.take k).countP p = 0 := by
    have hle : (l.take (k + 1)).countP p ≤ l.countP p := (take_sublist _ _).countP_le
    rw [countP_take_succ hz hpz] at hle
    omega
  exact countP_take_inj hx hpx hy hpy (by rw [hcount hx hpx, hcount hy hpy])

/-- The count does not change over a segment exactly if nothing in it is counted. -/
theorem countP_take_eq_iff {i j : Nat} (hij : i ≤ j) :
    (l.take i).countP p = (l.take j).countP p ↔
      ∀ k x, i ≤ k → k < j → l[k]? = some x → p x = false := by
  constructor
  · intro heq k x hik hkj hx
    -- A counted element of the segment would make the count grow.
    by_cases hp : p x = true
    · have hle : (l.take i).countP p ≤ (l.take k).countP p := countP_take_le hik
      have hlt := countP_take_lt hkj hx hp
      omega
    · exact Bool.eq_false_iff.2 hp
  · intro hnone
    rw [take_eq_append_segment hij, List.countP_append]
    have hzero : ((l.drop i).take (j - i)).countP p = 0 := by
      rw [List.countP_eq_zero]
      intro x hmem
      obtain ⟨k, hk⟩ := List.mem_iff_getElem?.1 hmem
      obtain ⟨hlt, hk⟩ := getElem?_take_eq_some_iff.1 hk
      rw [List.getElem?_drop] at hk
      rw [hnone (i + k) x (by omega) (by omega) hk]
      exact Bool.false_ne_true
    omega

end List
