import Proforma.Service.Batch

/-!
# What comes of a batch

A small batch looks at its runs in the order in which they end and fails by the first of them that
failed (`runSmall_of_failure`). A large batch looks at them in the order of the studies
(`runLarge_result`). A batch in which no run failed answers all of them when the last is over.
-/

namespace Proforma

/-! ## Items up to one with a property -/

section UpTo

variable {α β : Type} {p q : α → Bool}

theorem upTo_map (p : β → Bool) (f : α → β) (items : List α) :
    upTo p (items.map f) = (upTo (fun a => p (f a)) items).map f := by
  induction items with
  | nil => rfl
  | cons a rest ih =>
    simp only [List.map_cons, upTo, ih]
    split <;> rfl

theorem upTo_congr {items : List α} (h : ∀ a ∈ items, p a = q a) : upTo p items = upTo q items := by
  induction items with
  | nil => rfl
  | cons a rest ih =>
    have hrest : upTo p rest = upTo q rest := ih fun b hb => h b (List.mem_cons_of_mem a hb)
    simp only [upTo, h a List.mem_cons_self, hrest]

/-- They are the first of the items. -/
theorem upTo_isPrefix (p : α → Bool) (items : List α) : upTo p items <+: items := by
  induction items with
  | nil => exact List.prefix_rfl
  | cons a rest ih =>
    rw [upTo]
    split
    · exact List.prefix_append [a] rest
    · exact List.cons_prefix_cons.mpr ⟨rfl, ih⟩

theorem mem_of_mem_upTo {items : List α} {a : α} (h : a ∈ upTo p items) : a ∈ items :=
  (upTo_isPrefix p items).mem h

/-- What ends the items up to it decides the same among those that `q` selects. -/
theorem filter_upTo (items : List α) :
    (upTo (fun a => q a && p a) items).filter q = upTo p (items.filter q) := by
  induction items with
  | nil => rfl
  | cons a rest ih =>
    cases hq : q a with
    | false => simp [upTo, hq, ih]
    | true => cases hp : p a <;> simp [upTo, hq, hp, ih]

end UpTo

/-! ## Items in order -/

section InOrder

variable {α : Type} {before : α → α → Bool}

/-- What need not come after anything behind stays in front of it. -/
theorem insertInOrder_append_left {a : α} {front back : List α}
    (h : ∀ x ∈ back, before x a = false) :
    insertInOrder before a (front ++ back) = insertInOrder before a front ++ back := by
  induction front with
  | nil =>
    cases back with
    | nil => rfl
    | cons x rest => simp [insertInOrder, h x List.mem_cons_self]
  | cons x rest ih =>
    simp only [List.cons_append, insertInOrder, ih]
    split <;> rfl

/-- What comes after everything in front goes behind it. -/
theorem insertInOrder_append_right {a : α} {front back : List α}
    (h : ∀ x ∈ front, before x a = true) :
    insertInOrder before a (front ++ back) = front ++ insertInOrder before a back := by
  induction front with
  | nil => rfl
  | cons x rest ih =>
    have hrest := ih fun y hy => h y (List.mem_cons_of_mem x hy)
    simp only [List.cons_append, insertInOrder, h x List.mem_cons_self, if_true, hrest]

theorem mem_insertInOrder {a b : α} {items : List α} :
    b ∈ insertInOrder before a items ↔ b = a ∨ b ∈ items := by
  induction items with
  | nil => simp [insertInOrder]
  | cons x rest ih =>
    rw [insertInOrder]
    split
    · rw [List.mem_cons, ih, List.mem_cons]
      exact or_left_comm
    · exact List.mem_cons

theorem mem_inOrder {b : α} {items : List α} : b ∈ inOrder before items ↔ b ∈ items := by
  induction items with
  | nil => exact Iff.rfl
  | cons a rest ih =>
    show b ∈ insertInOrder before a (inOrder before rest) ↔ _
    rw [mem_insertInOrder, ih, List.mem_cons]

/-- **Two parts that do not mix.** Where every item with a property comes before every other, the
items in order are those with it in order and then the others in order. -/
theorem inOrder_eq_append {p : α → Bool} {items : List α}
    (h : ∀ a ∈ items, ∀ b ∈ items, p a = true → p b = false →
      before a b = true ∧ before b a = false) :
    inOrder before items =
      inOrder before (items.filter p) ++ inOrder before (items.filter (!p ·)) := by
  induction items with
  | nil => rfl
  | cons a rest ih =>
    have hrest := ih fun x hx y hy =>
      h x (List.mem_cons_of_mem a hx) y (List.mem_cons_of_mem a hy)
    show insertInOrder before a (inOrder before rest) = _
    rw [hrest]
    cases hp : p a with
    | true =>
      have hback : ∀ x ∈ inOrder before (rest.filter (!p ·)), before x a = false := by
        intro x hx
        obtain ⟨hmem, hx⟩ := List.mem_filter.mp (mem_inOrder.mp hx)
        exact (h a List.mem_cons_self x (List.mem_cons_of_mem a hmem) hp (by simpa using hx)).2
      rw [insertInOrder_append_left hback]
      simp [hp, inOrder]
    | false =>
      have hfront : ∀ x ∈ inOrder before (rest.filter p), before x a = true := by
        intro x hx
        obtain ⟨hmem, hx⟩ := List.mem_filter.mp (mem_inOrder.mp hx)
        exact (h x (List.mem_cons_of_mem a hmem) a List.mem_cons_self hx hp).1
      rw [insertInOrder_append_right hfront]
      simp [hp, inOrder]

/-- Items of which none has to come before another stay as they are. -/
theorem inOrder_of_not_before {items : List α}
    (h : ∀ a ∈ items, ∀ b ∈ items, before a b = false) : inOrder before items = items := by
  induction items with
  | nil => rfl
  | cons a rest ih =>
    have hrest := ih fun x hx y hy =>
      h x (List.mem_cons_of_mem a hx) y (List.mem_cons_of_mem a hy)
    show insertInOrder before a (inOrder before rest) = _
    rw [hrest]
    cases rest with
    | nil => rfl
    | cons b rest =>
      have hno := h b (List.mem_cons_of_mem a List.mem_cons_self) a List.mem_cons_self
      rw [insertInOrder, hno]
      rfl

/-! An order by a number leaves that number going up. -/

variable {key : α → Nat} {items : List α}

theorem pairwise_insertInOrder (hbefore : ∀ a b, before a b = true → key a ≤ key b)
    (hnot : ∀ a b, before a b = false → key b ≤ key a) (a : α)
    (h : items.Pairwise (key · ≤ key ·)) :
    (insertInOrder before a items).Pairwise (key · ≤ key ·) := by
  induction items with
  | nil => exact List.pairwise_singleton _ a
  | cons x rest ih =>
    obtain ⟨hx, hrest⟩ := List.pairwise_cons.mp h
    rw [insertInOrder]
    cases hxa : before x a with
    | true =>
      refine List.pairwise_cons.mpr ⟨fun y hy => ?_, ih hrest⟩
      rcases mem_insertInOrder.mp hy with rfl | hy
      · exact hbefore x y hxa
      · exact hx y hy
    | false =>
      have hax : key a ≤ key x := hnot x a hxa
      refine List.pairwise_cons.mpr ⟨fun y hy => ?_, h⟩
      rcases List.mem_cons.mp hy with rfl | hy
      · exact hax
      · exact Nat.le_trans hax (hx y hy)

theorem pairwise_inOrder (hbefore : ∀ a b, before a b = true → key a ≤ key b)
    (hnot : ∀ a b, before a b = false → key b ≤ key a) (items : List α) :
    (inOrder before items).Pairwise (key · ≤ key ·) := by
  induction items with
  | nil => exact .nil
  | cons a rest ih => exact pairwise_insertInOrder hbefore hnot a ih

/-- Then no item is past the last. -/
theorem le_of_getLast? {a last : α} (h : items.Pairwise (key · ≤ key ·)) (ha : a ∈ items)
    (hlast : items.getLast? = some last) : key a ≤ key last := by
  obtain ⟨front, rfl⟩ := List.getLast?_eq_some_iff.mp hlast
  rcases List.mem_append.mp ha with hfront | hsame
  · exact (List.pairwise_append.mp h).2.2 a hfront last List.mem_cons_self
  · exact Nat.le_of_eq (congrArg key (List.mem_singleton.mp hsame))

theorem mem_of_mem_upToLast {p : α → Bool} {a : α} (h : a ∈ upToLast p items) : a ∈ items := by
  rw [upToLast, List.mem_reverse] at h
  exact List.mem_reverse.mp ((List.dropWhile_sublist _).mem h)

/-- And what is kept up to the last item with a property is not past an item with it. -/
theorem exists_le_of_mem_upToLast {p : α → Bool} {a : α} (h : items.Pairwise (key · ≤ key ·))
    (ha : a ∈ upToLast p items) : ∃ last ∈ items, p last = true ∧ key a ≤ key last := by
  have hback := List.pairwise_reverse.mpr h
  rw [upToLast, List.mem_reverse] at ha
  have hmem (x : α) : x ∈ items ↔ x ∈ items.reverse := List.mem_reverse.symm
  simp only [hmem]
  -- from behind, what is kept begins with the first item that has the property
  generalize items.reverse = back at ha hback ⊢
  induction back with
  | nil => cases ha
  | cons x rest ih =>
    obtain ⟨hx, hrest⟩ := List.pairwise_cons.mp hback
    rw [List.dropWhile_cons] at ha
    cases hp : p x with
    | true =>
      rw [hp] at ha
      refine ⟨x, List.mem_cons_self, hp, ?_⟩
      rcases List.mem_cons.mp ha with rfl | ha
      · exact Nat.le_refl _
      · exact hx a ha
    | false =>
      rw [hp] at ha
      obtain ⟨last, hlast, hplast, hle⟩ := ih ha hrest
      exact ⟨last, List.mem_cons_of_mem x hlast, hplast, hle⟩

end InOrder

/-! ## The first failure -/

/-- The failure of a run, and when it is met. -/
def Run.failure? (r : Run) : Option (Failure × Nat) :=
  match r.result with
  | .error f => some (f, r.finish)
  | .ok _ => none

/-- The first failure among runs. -/
def firstFailure? (runs : List Run) : Option (Failure × Nat) :=
  runs.findSome? Run.failure?

theorem firstFailure?_append (front back : List Run) :
    firstFailure? (front ++ back) = (firstFailure? front).or (firstFailure? back) :=
  List.findSome?_append

/-- A first failure is that of a run. -/
theorem exists_mem_of_firstFailure? {runs : List Run} {f : Failure} {instant : Nat}
    (h : firstFailure? runs = some (f, instant)) :
    ∃ r ∈ runs, r.result = .error f ∧ r.finish = instant := by
  obtain ⟨r, hr, hfailure⟩ := List.exists_of_findSome?_eq_some h
  refine ⟨r, hr, ?_⟩
  unfold Run.failure? at hfailure
  cases hresult : r.result with
  | ok answer => simp [hresult] at hfailure
  | error g =>
    simp only [hresult, Option.some.injEq, Prod.mk.injEq] at hfailure
    exact ⟨congrArg _ hfailure.1, hfailure.2⟩

theorem Run.failed_eq (r : Run) : r.failed = r.failure?.isSome := by
  unfold failed failure?
  cases r.result <;> rfl

theorem lastFailure?_eq (runs : List Run) :
    lastFailure? runs = runs.getLast?.bind Run.failure? := by
  unfold lastFailure?
  cases runs.getLast? with
  | none => rfl
  | some r => rfl

/-- Runs up to the first that failed end in its failure. -/
theorem lastFailure?_upTo (runs : List Run) :
    lastFailure? (upTo Run.failed runs) = firstFailure? runs := by
  rw [lastFailure?_eq]
  unfold firstFailure?
  induction runs with
  | nil => rfl
  | cons r rest ih =>
    rw [upTo, Run.failed_eq, List.findSome?_cons]
    cases hr : r.failure? with
    | some failure => simp [hr]
    | none =>
      rw [Option.isSome_none, if_neg (by decide), List.getLast?_cons, ← ih]
      cases (upTo Run.failed rest).getLast? <;> simp [hr]

/-- Whether a run ends before another. -/
def Run.endsFirst (r s : Run) : Bool :=
  r.finish < s.finish

/-- What is over at the start comes first, in the order of the studies. -/
theorem inOrder_endsFirst (runs : List Run) :
    inOrder Run.endsFirst runs =
      runs.filter Run.endsAtOnce ++ inOrder Run.endsFirst (runs.filter (!·.endsAtOnce)) := by
  have hsplit : ∀ r ∈ runs, ∀ s ∈ runs, r.endsAtOnce = true → s.endsAtOnce = false →
      r.endsFirst s = true ∧ s.endsFirst r = false := by
    -- one ends at zero and the other after it
    intro r _ s _ hr hs
    simp only [Run.endsAtOnce, decide_eq_true_eq, decide_eq_false_iff_not] at hr hs
    simp only [Run.endsFirst, decide_eq_true_eq, decide_eq_false_iff_not]
    omega
  have hstay : ∀ r ∈ runs.filter Run.endsAtOnce, ∀ s ∈ runs.filter Run.endsAtOnce,
      r.endsFirst s = false := by
    intro r _ s hs
    have hzero : s.finish = 0 := by simpa [Run.endsAtOnce] using (List.mem_filter.mp hs).2
    simp only [Run.endsFirst, decide_eq_false_iff_not]
    omega
  rw [inOrder_eq_append hsplit, inOrder_of_not_before hstay]

/-! ## The last end -/

/-- Some run is not over before an instant exactly if the last of them is not. -/
theorem le_foldl_finish_iff (runs : List Run) (first t : Nat) :
    t ≤ runs.foldl (fun n r => max n r.finish) first ↔ t ≤ first ∨ ∃ r ∈ runs, t ≤ r.finish := by
  induction runs generalizing first with
  | nil => simp
  | cons r rest ih =>
    rw [List.foldl_cons, ih]
    simp only [List.mem_cons, exists_eq_or_imp]
    rw [← or_assoc]
    exact or_congr_left (by omega)

/-- Runs that are over before an instant are over before it together. -/
theorem foldl_finish_lt {runs : List Run} {t : Nat} (ht : 0 < t) (h : ∀ r ∈ runs, r.finish < t) :
    runs.foldl (fun n r => max n r.finish) 0 < t := by
  rw [← Nat.not_le, le_foldl_finish_iff]
  rintro (hzero | ⟨r, hr, hle⟩)
  · exact Nat.not_le_of_lt ht hzero
  · exact Nat.not_le_of_lt (h r hr) hle

/-! ## Small batches -/

section Small

variable {runs : List Run}

theorem runSmall_sent (runs : List Run) :
    (runSmall runs).sent = (startedRuns runs).filterMap (·.sent) := by
  unfold runSmall
  dsimp only
  split
  · rfl
  · split <;> rfl

/-- The failures that a small batch looks at, those at the start and those after it, are the
failures of its runs in the order in which they end. -/
theorem firstFailure?_inOrder (runs : List Run) :
    firstFailure? (inOrder Run.endsFirst runs) =
      (lastFailure? ((startedRuns runs).filter (·.endsAtOnce))).or
        (lastFailure? (awaitedRuns runs)) := by
  unfold startedRuns awaitedRuns
  rw [filter_upTo, lastFailure?_upTo, lastFailure?_upTo, inOrder_endsFirst]
  exact firstFailure?_append _ _

/-- **A small batch fails by the failure that happens first**, when it happens. -/
theorem runSmall_of_failure {f : Failure} {instant : Nat}
    (h : firstFailure? (inOrder Run.endsFirst runs) = some (f, instant)) :
    (runSmall runs).result = .error f ∧ (runSmall runs).elapsed = instant := by
  rw [firstFailure?_inOrder] at h
  unfold runSmall
  dsimp only
  cases hstart : lastFailure? ((startedRuns runs).filter (·.endsAtOnce)) with
  | some failure =>
    rw [hstart, Option.some_or] at h
    obtain rfl := Option.some.inj h
    exact ⟨rfl, rfl⟩
  | none =>
    rw [hstart, Option.none_or] at h
    rw [h]
    exact ⟨rfl, rfl⟩

/-- Without a failure all is answered when the last run is over. -/
theorem runSmall_of_success (h : firstFailure? (inOrder Run.endsFirst runs) = none) :
    (runSmall runs).result = runs.mapM (·.result) ∧
      (runSmall runs).elapsed = runs.foldl (fun n r => max n r.finish) 0 := by
  rw [firstFailure?_inOrder, Option.or_eq_none_iff] at h
  unfold runSmall
  dsimp only
  rw [h.1, h.2]
  exact ⟨rfl, rfl⟩

/-- A run that is over before an instant. -/
def Run.overBefore (t : Nat) (r : Run) : Bool :=
  r.finish < t

theorem Run.overBefore_iff {t : Nat} {r : Run} : r.overBefore t = true ↔ r.finish < t :=
  decide_eq_true_iff

theorem Run.not_overBefore_iff {t : Nat} {r : Run} : r.overBefore t = false ↔ t ≤ r.finish := by
  rw [overBefore, decide_eq_false_iff_not, Nat.not_lt]

/-- The runs in the order in which they end: first those that end before an instant. -/
theorem inOrder_overBefore (t : Nat) (runs : List Run) :
    inOrder Run.endsFirst runs = inOrder Run.endsFirst (runs.filter (Run.overBefore t)) ++
      inOrder Run.endsFirst (runs.filter (!Run.overBefore t ·)) := by
  refine inOrder_eq_append fun r _ s _ hr hs => ?_
  have hr : r.finish < t := Run.overBefore_iff.mp hr
  have hs : t ≤ s.finish := Run.not_overBefore_iff.mp hs
  simp only [Run.endsFirst, decide_eq_true_eq, decide_eq_false_iff_not]
  omega

/-- A small batch is over when its runs are. -/
theorem elapsed_runSmall_lt {t : Nat} (ht : 0 < t) (h : ∀ r ∈ runs, r.finish < t) :
    (runSmall runs).elapsed < t := by
  cases hfirst : firstFailure? (inOrder Run.endsFirst runs) with
  | some failure =>
    obtain ⟨r, hr, -, hfinish⟩ := exists_mem_of_firstFailure? hfirst
    rw [(runSmall_of_failure hfirst).2, ← hfinish]
    exact h r (mem_inOrder.mp hr)
  | none =>
    rw [(runSmall_of_success hfirst).2]
    exact foldl_finish_lt ht h

/-- A small batch is not over before one of its runs unless another has failed before. -/
theorem le_elapsed_runSmall {t : Nat}
    (hfirst : firstFailure? (inOrder Run.endsFirst (runs.filter (Run.overBefore t))) = none)
    (hlate : ∃ r ∈ runs, t ≤ r.finish) : t ≤ (runSmall runs).elapsed := by
  cases hall : firstFailure? (inOrder Run.endsFirst runs) with
  | none =>
    rw [(runSmall_of_success hall).2, le_foldl_finish_iff]
    exact .inr hlate
  | some failure =>
    obtain ⟨f, instant⟩ := failure
    rw [(runSmall_of_failure hall).2]
    rw [inOrder_overBefore t, firstFailure?_append, hfirst, Option.none_or] at hall
    obtain ⟨r, hr, -, rfl⟩ := exists_mem_of_firstFailure? hall
    have hover := (List.mem_filter.mp (mem_inOrder.mp hr)).2
    exact Run.not_overBefore_iff.mp (by simpa using hover)

end Small

/-! ## Large batches -/

theorem runLarge_result (runs : List Run) :
    (runLarge runs).result = (decisiveRuns runs).mapM (·.result) := rfl

theorem runLarge_elapsed (runs : List Run) : (runLarge runs).elapsed =
    (decisiveRuns runs).foldl (fun n r => max n r.finish) 0 := rfl

theorem runLarge_sent (runs : List Run) : (runLarge runs).sent =
    (if (decisiveRuns runs).all Run.endsAtOnce then decisiveRuns runs else runs).filterMap
      (·.sent) := rfl

/-- Answers in front of a failure do not count. -/
theorem mapM_result_of_failure {front : List Run} {last : Run} {f : Failure}
    (hfront : ∀ r ∈ front, r.failed = false) (hlast : last.result = .error f) :
    (front ++ [last]).mapM (·.result) = .error f := by
  induction front with
  | nil =>
    rw [List.nil_append, List.mapM_cons, hlast]
    rfl
  | cons r rest ih =>
    have hr : r.failed = false := hfront r List.mem_cons_self
    have hrest := ih fun s hs => hfront s (List.mem_cons_of_mem r hs)
    cases hresult : r.result with
    | error g => simp [Run.failed, hresult] at hr
    | ok answer =>
      rw [List.cons_append, List.mapM_cons, hresult, hrest]
      rfl

end Proforma
