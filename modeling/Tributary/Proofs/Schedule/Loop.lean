import Tributary.Proofs.Distinct
import Tributary.Proofs.Schedule

/-!
# The scheduling loop

The loop counts for each node how many of its needs are open, and lowers the counts of those that wait for a node when
its turn has come. Between two rounds the counts are those of the needs that are not done, and the ready nodes are those
whose count is zero and that are still to come.

* `openNeeds needs done i` : how many needs of node `i` are not done;
* `foldl_linkAll`, `ofNeeds_pending`, `ofNeeds_dependents` : the counts and the waiting nodes at the start;
* `foldlM_release` : what releasing nodes does, in any order and as often as a node is there;
* `Counted needs done s` : what holds between two rounds; `Counted.initial`, `Counted.round` : that it does;
* `walk_eq` : the loop finds the nodes that can be scheduled, and no count goes below zero;
* `solve_eq` : the outcome of the loop.
-/

namespace Tributary.Schedule

variable {needs : Needs} {done : List Nat}

/-! ## Counts and waiting nodes -/

def openNeeds (needs : Needs) (done : List Nat) (i : Nat) : Nat :=
  (needsOf needs i).countP fun j => !done.contains j

theorem openNeeds_nil (needs : Needs) (i : Nat) : openNeeds needs [] i = (needsOf needs i).length := by
  simp [openNeeds]

theorem openNeeds_eq_zero {i : Nat} : openNeeds needs done i = 0 ↔ ∀ j, Leads needs i j → j ∈ done := by
  simp [openNeeds, Leads, List.countP_eq_zero]

/-- When a node is done, it is open for nobody. -/
theorem openNeeds_snoc {node : Nat} (hnode : node ∉ done) (i : Nat) :
    openNeeds needs done i = openNeeds needs (done ++ [node]) i + (needsOf needs i).count node := by
  unfold openNeeds
  induction needsOf needs i with
  | nil => rfl
  | cons j js ih =>
    rw [List.countP_cons, List.countP_cons, List.count_cons, ih]
    by_cases hj : j = node
    · simp [hj, hnode]
      omega
    · simp [hj]
      omega

theorem needsOf_eq_nil {i : Nat} (hi : ¬ i < needs.length) : needsOf needs i = [] := by
  simp [needsOf, List.getElem?_eq_none (Nat.le_of_not_lt hi)]

/-- What linking a node to its needs does: its count goes up for each, and it waits for each. -/
theorem foldl_link (w : Waiting) (node : Nat) (own : List Nat) (i : Nat) :
    (own.foldl (fun w need => w.link node need) w).pending[i]? =
        (w.pending[i]?).map (fun k => if i = node then k + own.length else k) ∧
      (own.foldl (fun w need => w.link node need) w).dependents[i]? =
        (w.dependents[i]?).map (· ++ List.replicate (own.count i) node) := by
  induction own generalizing w with
  | nil =>
    rw [List.foldl_nil]
    cases w.pending[i]? <;> cases w.dependents[i]? <;> simp
  | cons need own ih =>
    obtain ⟨hpending, hdependents⟩ := ih (w.link node need)
    rw [List.foldl_cons, hpending, hdependents]
    constructor
    · rw [Waiting.link, List.getElem?_modify]
      cases w.pending[i]? with
      | none => rfl
      | some k =>
        by_cases hi : i = node
        · simp [hi]
          omega
        · simp [hi, Ne.symm hi]
    · rw [Waiting.link, List.getElem?_modify]
      cases w.dependents[i]? with
      | none => rfl
      | some l =>
        by_cases hi : need = i
        · simp [hi, List.replicate_succ]
        · simp [hi]

/-- What the counts and the waiting nodes are after the first `k` nodes have been linked. -/
theorem foldl_linkAll (k : Nat) {i : Nat} (hi : i < needs.length) :
    ((List.range k).foldl (Waiting.linkAll needs) (.empty needs.length)).pending[i]? =
        some (if i < k then (needsOf needs i).length else 0) ∧
      ∃ waiting, ((List.range k).foldl (Waiting.linkAll needs) (.empty needs.length)).dependents[i]? = some waiting ∧
        ∀ j, waiting.count j = if j < k then (needsOf needs j).count i else 0 := by
  induction k with
  | zero => simp [Waiting.empty, hi]
  | succ k ih =>
    obtain ⟨hpending, waiting, hwaiting, hcount⟩ := ih
    rw [List.range_succ, List.foldl_concat, Waiting.linkAll]
    rw [(foldl_link _ k _ i).1, (foldl_link _ k _ i).2, hpending, hwaiting]
    refine ⟨?_, _, rfl, fun j => ?_⟩
    · by_cases hik : i = k
      · simp [hik]
      · have hlt : i < k + 1 ↔ i < k := by omega
        simp [hik, hlt]
    · rw [List.count_append, hcount, List.count_replicate]
      by_cases hjk : j = k
      · simp [hjk]
      · have hlt : j < k + 1 ↔ j < k := by omega
        simp [Ne.symm hjk, hlt]

theorem ofNeeds_pending {i : Nat} (hi : i < needs.length) :
    (Waiting.ofNeeds needs).pending[i]? = some (needsOf needs i).length := by
  have h := (foldl_linkAll needs.length hi).1
  rwa [if_pos hi] at h

theorem ofNeeds_dependents {node : Nat} (hnode : node < needs.length) :
    ∃ waiting, (Waiting.ofNeeds needs).dependents[node]? = some waiting ∧
      ∀ i, waiting.count i = (needsOf needs i).count node := by
  obtain ⟨-, waiting, hwaiting, hcount⟩ := foldl_linkAll needs.length hnode
  refine ⟨waiting, hwaiting, fun i => ?_⟩
  rw [hcount]
  split
  · rfl
  · next hi => rw [needsOf_eq_nil hi, List.count_nil]

/-! ## Releasing nodes -/

/-- The count of the node is lower by one, and the node is ready if the count has come down to zero. -/
theorem exists_release {d : Nat} {s : State} {left : Nat → Nat}
    (hpending : ∀ i < needs.length, s.pending[i]? = some (left i + if d = i then 1 else 0))
    (hsorted : s.ready.Pairwise (· < ·)) (hd : d < needs.length) :
    ∃ t, s.release d = some t ∧ (∀ i < needs.length, t.pending[i]? = some (left i)) ∧
      t.ready.Pairwise (· < ·) ∧ ∀ i, i ∈ t.ready ↔ i ∈ s.ready ∨ i = d ∧ left d = 0 := by
  have hcount : s.pending[d]? = some (left d + 1) := by rw [hpending d hd, if_pos rfl]
  refine ⟨⟨s.pending.set d (left d), if left d = 0 then Sorted.insert compare d s.ready else s.ready⟩, ?_,
    fun i hi => ?_, ?_, fun i => ?_⟩
  · rw [State.release, hcount]
  · show (s.pending.set d (left d))[i]? = some (left i)
    rw [List.getElem?_set]
    by_cases hid : d = i
    · subst hid
      simp [(List.getElem?_eq_some_iff.mp hcount).1]
    · rw [if_neg hid, hpending i hi, if_neg hid, Nat.add_zero]
  · show (if left d = 0 then Sorted.insert compare d s.ready else s.ready).Pairwise (· < ·)
    split
    · exact (Sorted.insert_sorted (a := d) (hsorted.imp Nat.compare_eq_lt.mpr)).imp Nat.compare_eq_lt.mp
    · exact hsorted
  · show i ∈ (if left d = 0 then Sorted.insert compare d s.ready else s.ready) ↔ _
    split
    · next hzero => rw [Sorted.mem_insert fun _ _ => Std.LawfulEqCmp.eq_of_compare, or_comm, and_iff_left hzero]
    · next hpos => rw [or_iff_left fun h => hpos h.2]

/-- If every count is at least as high as the node is often there, releasing nodes comes to an end. The counts are then
so much lower, and the nodes whose count has come down to zero are ready. -/
theorem foldlM_release {waiting : List Nat} {s : State} {left : Nat → Nat}
    (hpending : ∀ i < needs.length, s.pending[i]? = some (left i + waiting.count i))
    (hsorted : s.ready.Pairwise (· < ·)) (hlt : ∀ i ∈ waiting, i < needs.length) :
    ∃ t, waiting.foldlM State.release s = some t ∧ (∀ i < needs.length, t.pending[i]? = some (left i)) ∧
      t.ready.Pairwise (· < ·) ∧ ∀ i, i ∈ t.ready ↔ i ∈ s.ready ∨ i ∈ waiting ∧ left i = 0 := by
  induction waiting generalizing s with
  | nil => exact ⟨s, rfl, by simpa using hpending, hsorted, by simp⟩
  | cons d waiting ih =>
    obtain ⟨hd, hlt⟩ := List.forall_mem_cons.mp hlt
    have hfirst : ∀ i < needs.length, s.pending[i]? = some (left i + waiting.count i + if d = i then 1 else 0) := by
      intro i hi
      rw [hpending i hi, List.count_cons, Nat.add_assoc]
      simp only [beq_iff_eq]
    obtain ⟨u, hu, hupending, husorted, humem⟩ := exists_release hfirst hsorted hd
    obtain ⟨t, ht, hleft, htsorted, hmem⟩ := ih hupending husorted hlt
    refine ⟨t, by rw [List.foldlM_cons, hu]; exact ht, hleft, htsorted, fun i => ?_⟩
    rw [hmem, humem, List.mem_cons]
    by_cases hid : i = d
    · subst hid
      -- A count that is still above zero comes down further, or stays there.
      have hagain : left i = 0 → left i + waiting.count i = 0 ∨ i ∈ waiting := by
        intro hzero
        rcases Nat.eq_zero_or_pos (waiting.count i) with hnone | hpos
        · exact .inl (by omega)
        · exact .inr (List.count_pos_iff.mp hpos)
      have hzero : left i + waiting.count i = 0 → left i = 0 := by omega
      tauto
    · simp [hid]

/-! ## The rounds -/

/-- Between two rounds: the counts are those of the needs that are not done, and the ready nodes are listed. -/
structure Counted (needs : Needs) (done : List Nat) (s : State) : Prop where
  pending : ∀ i < needs.length, s.pending[i]? = some (openNeeds needs done i)
  ready : s.ready = (List.range needs.length).filter (isReady needs done)

theorem isReady_eq_true_iff {i : Nat} : isReady needs done i = true ↔ i ∉ done ∧ openNeeds needs done i = 0 := by
  rw [isReady_iff, openNeeds_eq_zero]

theorem Counted.initial (needs : Needs) :
    Counted needs [] ⟨(Waiting.ofNeeds needs).pending,
      (List.range needs.length).filter fun i => (Waiting.ofNeeds needs).pending[i]? == some 0⟩ where
  pending i hi := by rw [ofNeeds_pending hi, openNeeds_nil]
  ready := by
    refine List.filter_congr fun i hi => ?_
    rw [ofNeeds_pending (List.mem_range.mp hi), Bool.eq_iff_iff, isReady_eq_true_iff, openNeeds_nil]
    simp

theorem Counted.sorted {s : State} (h : Counted needs done s) : s.ready.Pairwise (· < ·) := by
  rw [h.ready]
  exact List.pairwise_lt_range.filter _

theorem Counted.mem_ready {s : State} (h : Counted needs done s) {i : Nat} :
    i ∈ s.ready ↔ i < needs.length ∧ i ∉ done ∧ openNeeds needs done i = 0 := by
  rw [h.ready, List.mem_filter, List.mem_range, isReady_eq_true_iff]

theorem Counted.next? {s : State} (h : Counted needs done s) : next? needs done = s.ready.head? := by
  rw [h.ready, List.head?_filter, Schedule.next?]

/-- One round: the lowest ready node is done, and those that wait for it are released. -/
theorem Counted.round {pending ready : List Nat} {node : Nat} (h : Counted needs done ⟨pending, node :: ready⟩)
    (hdone : IsPartial needs done) :
    ∃ waiting s, (Waiting.ofNeeds needs).dependents[node]? = some waiting ∧
      waiting.foldlM State.release ⟨pending, ready⟩ = some s ∧ Counted needs (done ++ [node]) s := by
  obtain ⟨hnode, hnot, hopen⟩ := h.mem_ready.mp List.mem_cons_self
  obtain ⟨waiting, hwaiting, hcount⟩ := ofNeeds_dependents hnode
  have hmem : ∀ i, i ∈ waiting ↔ Leads needs i node := by
    intro i
    rw [← List.count_pos_iff, hcount, List.count_pos_iff]
    rfl
  obtain ⟨hhead, hsorted⟩ := List.pairwise_cons.mp h.sorted
  have hpending : ∀ i < needs.length,
      pending[i]? = some (openNeeds needs (done ++ [node]) i + waiting.count i) := by
    intro i hi
    rw [h.pending i hi, openNeeds_snoc hnot, hcount]
  obtain ⟨s, hs, hleft, hssorted, hready⟩ :=
    foldlM_release (s := ⟨pending, ready⟩) hpending hsorted fun i hi => ((hmem i).mp hi).lt_left
  refine ⟨waiting, s, hwaiting, hs, hleft, ?_⟩
  refine hssorted.eq_of_mem_iff (List.pairwise_lt_range.filter _) fun i => ?_
  rw [hready, hmem, List.mem_filter, List.mem_range, isReady_eq_true_iff, List.mem_append, List.mem_singleton]
  have hold : i = node ∨ i ∈ ready ↔ _ := List.mem_cons.symm.trans h.mem_ready
  constructor
  · rintro (hi | ⟨hi, hzero⟩)
    · obtain ⟨hlt, hid, hzero⟩ := hold.mp (.inr hi)
      have hne : i ≠ node := fun heq => Nat.lt_irrefl _ (heq ▸ hhead i hi)
      rw [openNeeds_snoc hnot] at hzero
      exact ⟨hlt, not_or.mpr ⟨hid, hne⟩, by omega⟩
    · -- What waits for the node is neither done before it nor the node itself.
      refine ⟨hi.lt_left, ?_, hzero⟩
      rintro (hid | rfl)
      · exact hnot (hdone.closed i hid node hi)
      · exact hnot (openNeeds_eq_zero.mp hopen _ hi)
  · rintro ⟨hlt, hid, hzero⟩
    obtain ⟨hid, hne⟩ := not_or.mp hid
    by_cases hwait : Leads needs i node
    · exact .inr ⟨hwait, hzero⟩
    · have hcount : (needsOf needs i).count node = 0 := List.count_eq_zero.mpr hwait
      have hzero' : openNeeds needs done i = 0 := by rw [openNeeds_snoc hnot, hzero, hcount]
      exact .inl ((hold.mpr ⟨hlt, hid, hzero'⟩).resolve_left hne)

/-- From a state between two rounds the loop comes to the end that the schedule has. -/
theorem Counted.drain (n : Nat) {s : State} (h : Counted needs done s) (hdone : IsPartial needs done)
    (hlen : needs.length ≤ done.length + n) :
    drain (Waiting.ofNeeds needs).dependents n s done = some (extend needs n done) := by
  induction n generalizing done s with
  | zero =>
    obtain ⟨pending, ready⟩ := s
    cases ready with
    | nil => rfl
    | cons node ready =>
      obtain ⟨hnode, hnot, -⟩ := h.mem_ready.mp List.mem_cons_self
      exact absurd ((hdone.perm_range hlen).mem_iff.mpr (List.mem_range.mpr hnode)) hnot
  | succ n ih =>
    obtain ⟨pending, ready⟩ := s
    cases ready with
    | nil =>
      rw [extend, h.next?]
      rfl
    | cons node ready =>
      obtain ⟨waiting, s, hwaiting, hs, hcounted⟩ := h.round hdone
      have hnext : Schedule.next? needs done = some node := h.next?
      rw [Schedule.drain, hwaiting, extend, hnext]
      show (waiting.foldlM State.release ⟨pending, ready⟩ >>= fun s => Schedule.drain _ n s (done ++ [node])) = _
      rw [hs]
      exact ih hcounted (hdone.snoc hnext) (by simp; omega)

/-- The loop finds the nodes that can be scheduled. No count goes below zero on the way, and there are rounds enough. -/
theorem walk_eq (needs : Needs) : walk needs = some (scheduled needs) :=
  (Counted.initial needs).drain needs.length (IsPartial.nil needs) (by simp)

theorem solve_eq (needs : Needs) : solve needs =
    if (scheduled needs).length = needs.length then .order (scheduled needs) else .cycle (stuck needs) := by
  rw [solve, walk_eq]
  rfl

/-- A schedule of all nodes has each node once. -/
theorem solve_eq_order {order : List Nat} (h : solve needs = .order order) :
    order = scheduled needs ∧ order.Perm (List.range needs.length) := by
  rw [solve_eq] at h
  split at h
  · next hlen =>
    cases h
    exact ⟨rfl, (scheduled_isPartial needs).perm_range (by simp [hlen])⟩
  · cases h

end Tributary.Schedule
