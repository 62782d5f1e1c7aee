import Tributary.Node.Eval

/-!
# Integer expressions are exact or promoted

An expression over 64-bit integers has an exact value, which no machine integer limits. Evaluation gives that value as
long as nothing on the way leaves 64 bits, and a double from there on.

* `IsInt64` : an integer fits into 64 bits; `Number.fitOr_cases` : what fits stays an integer, and is not wrapped;
* `IntOp`, `IntExpr` : trees over constants, negation, sum, difference, product and remainder;
* `IntExpr.value?` : the exact value; `IntExpr.Fits` : every subtree has one that fits;
* `IntOp.arithmetic_int`, `IntOp.arithmetic_float` : what one operation can give;
* `IntExpr.eval_settles` : what a tree can give;
* `IntExpr.eval_exact` : integers are exact, they come out exactly if everything fits, and nothing but a remainder by
  zero fails.
-/

namespace Tributary

def IsInt64 (n : Int) : Prop := -0x8000000000000000 ≤ n ∧ n < 0x8000000000000000

theorem isInt64_toInt (n : Int64) : IsInt64 n.toInt := ⟨n.le_toInt, n.toInt_lt⟩

theorem toInt_ofInt {n : Int} (h : IsInt64 n) : (Int64.ofInt n).toInt = n := Int64.toInt_ofInt_of_le h.1 h.2

/-- The remainder of two integers that fit is not larger than the first. -/
theorem isInt64_tmod (a : Int64) (n : Int) : IsInt64 (a.toInt.tmod n) := by
  have ha := isInt64_toInt a
  have habs : (a.toInt.tmod n).natAbs ≤ a.toInt.natAbs := by
    rw [Int.natAbs_tmod]
    exact Nat.mod_le _ _
  have hpos : 0 ≤ a.toInt → 0 ≤ a.toInt.tmod n := Int.tmod_nonneg n
  have hneg : 0 ≤ -a.toInt → 0 ≤ -a.toInt.tmod n := fun h => Int.neg_tmod a.toInt n ▸ Int.tmod_nonneg n h
  unfold IsInt64 at *
  omega

/-- An integer result that fits is that integer, and one that does not is a double. -/
theorem Number.fitOr_cases (n : Int) (x : Double) :
    (∃ m : Int64, fitOr n x = .int m ∧ m.toInt = n) ∨ (fitOr n x = .float x ∧ ¬ IsInt64 n) := by
  by_cases h : IsInt64 n
  · have hsome : int64? n = some (Int64.ofInt n) := if_pos h
    exact .inl ⟨Int64.ofInt n, by rw [fitOr, hsome], toInt_ofInt h⟩
  · have hnone : int64? n = none := if_neg h
    exact .inr ⟨by rw [fitOr, hnone], h⟩

/-! ## Trees -/

inductive IntOp where
  | add
  | sub
  | mul
  | mod

namespace IntOp

def toBinary : IntOp → BinaryOp
  | add => .add
  | sub => .sub
  | mul => .mul
  | mod => .mod

/-- The exact result. A remainder has the sign of the dividend; there is none by zero. -/
def result? (op : IntOp) (a b : Int) : Option Int :=
  match op with
  | add => some (a + b)
  | sub => some (a - b)
  | mul => some (a * b)
  | mod => if b = 0 then none else some (a.tmod b)

end IntOp

inductive IntExpr where
  | const (n : Int64)
  | neg (e : IntExpr)
  | binary (op : IntOp) (left right : IntExpr)

namespace IntExpr

def node : IntExpr → Node
  | const n => .const (.number (.int n))
  | neg e => .unary .neg e.node
  | binary op left right => .binary op.toBinary left.node right.node

/-- The exact value; none with a remainder by zero. -/
def value? : IntExpr → Option Int
  | const n => some n.toInt
  | neg e => e.value?.map fun n => -n
  | binary op left right => left.value?.bind fun a => right.value?.bind fun b => op.result? a b

def subtrees : IntExpr → List IntExpr
  | const n => [const n]
  | neg e => neg e :: e.subtrees
  | binary op left right => binary op left right :: (left.subtrees ++ right.subtrees)

/-- The expression has an exact value, which fits into 64 bits. -/
def InRange (e : IntExpr) : Prop := ∃ n, e.value? = some n ∧ IsInt64 n

def Fits (e : IntExpr) : Prop := ∀ s ∈ e.subtrees, s.InRange

theorem fits_const (n : Int64) : (const n).Fits := by
  simp [Fits, subtrees, InRange, value?, isInt64_toInt]

theorem fits_neg {e : IntExpr} : (neg e).Fits ↔ (neg e).InRange ∧ e.Fits := by
  simp [Fits, subtrees]

theorem fits_binary {op : IntOp} {a b : IntExpr} :
    (binary op a b).Fits ↔ (binary op a b).InRange ∧ a.Fits ∧ b.Fits := by
  simp [Fits, subtrees, or_imp, forall_and]

theorem not_inRange {e : IntExpr} {n : Int} (h : e.value? = some n) (hn : ¬ IsInt64 n) : ¬ e.InRange := by
  rintro ⟨m, hm, hrange⟩
  obtain rfl := Option.some.inj (h.symm.trans hm)
  exact hn hrange

end IntExpr

/-! ## One operation -/

namespace IntOp

/-- What an operation on two integers may give: the exact result if it fits, a double if it does not, and an error by
zero. -/
inductive Gives (op : IntOp) (a b : Int) : Except EvalError Number → Prop where
  | int {n : Int64} (h : op.result? a b = some n.toInt) : Gives op a b (.ok (.int n))
  | float {n : Int} {x : Double} (h : op.result? a b = some n) (hn : ¬ IsInt64 n) : Gives op a b (.ok (.float x))
  | zero (hop : op = mod) (hb : b = 0) : Gives op a b (.error .divisionByZero)

theorem gives_fitOr {op : IntOp} {a b n : Int} (x : Double) (h : op.result? a b = some n) :
    op.Gives a b (.ok (Number.fitOr n x)) := by
  rcases Number.fitOr_cases n x with ⟨m, hm, rfl⟩ | ⟨hx, hn⟩
  · rw [hm]
    exact .int h
  · rw [hx]
    exact .float h hn

theorem arithmetic_int (op : IntOp) (a b : Int64) :
    op.Gives a.toInt b.toInt (op.toBinary.arithmetic (.int a) (.int b)) := by
  cases op with
  | add => exact gives_fitOr _ rfl
  | sub => exact gives_fitOr _ rfl
  | mul => exact gives_fitOr _ rfl
  | mod =>
    by_cases hb : b = 0
    · subst hb
      exact .zero rfl rfl
    · have hne : b.toInt ≠ 0 := fun h => hb (Int64.toInt_inj.mp h)
      have harith : mod.toBinary.arithmetic (.int a) (.int b) = .ok (.int (Int64.ofInt (a.toInt.tmod b.toInt))) := by
        simp [toBinary, BinaryOp.arithmetic, Number.isZero, Number.modulo, hb]
      rw [harith]
      refine .int ?_
      rw [result?, if_neg hne, toInt_ofInt (isInt64_tmod a _)]

/-- With a double on either side: a double again, or an error by zero. -/
theorem arithmetic_float (op : IntOp) {a b : Number} (h : ∀ m n, ¬ (a = .int m ∧ b = .int n)) :
    (∃ x, op.toBinary.arithmetic a b = .ok (.float x)) ∨
    (op = mod ∧ op.toBinary.arithmetic a b = .error .divisionByZero ∧ b.isZero = true) := by
  have hfloat : (∃ x, a.add b = .float x) ∧ (∃ x, a.sub b = .float x) ∧ (∃ x, a.mul b = .float x) ∧
      ∃ x, a.modulo b = .float x := by
    cases a with
    | int m =>
      cases b with
      | int n => exact absurd ⟨rfl, rfl⟩ (h m n)
      | float y => exact ⟨⟨_, rfl⟩, ⟨_, rfl⟩, ⟨_, rfl⟩, ⟨_, rfl⟩⟩
    | float x => exact ⟨⟨_, rfl⟩, ⟨_, rfl⟩, ⟨_, rfl⟩, ⟨_, rfl⟩⟩
  obtain ⟨⟨x, hadd⟩, ⟨y, hsub⟩, ⟨z, hmul⟩, ⟨w, hmod⟩⟩ := hfloat
  cases op with
  | add => exact .inl ⟨x, congrArg _ hadd⟩
  | sub => exact .inl ⟨y, congrArg _ hsub⟩
  | mul => exact .inl ⟨z, congrArg _ hmul⟩
  | mod =>
    by_cases hb : b.isZero = true
    · exact .inr ⟨rfl, by simp [toBinary, BinaryOp.arithmetic, hb], hb⟩
    · exact .inl ⟨w, by simp [toBinary, BinaryOp.arithmetic, hb, hmod]⟩

end IntOp

/-! ## Whole trees -/

namespace IntExpr

variable (frame : Frame) (locals : List Value)

/-- What a tree may give: its exact value if everything inside fits, a double if something does not, and an error where
a divisor is zero. -/
inductive Settles (e : IntExpr) : Outcome → Prop where
  | int {n : Int64} (hvalue : e.value? = some n.toInt) (hfits : e.Fits) : Settles e (.ok (.number (.int n)))
  | float {x : Double} (hfits : ¬ e.Fits) : Settles e (.ok (.number (.float x)))
  | zero {a b : IntExpr} {m : Number} (hmem : binary .mod a b ∈ e.subtrees)
      (hb : b.node.eval frame locals = .ok (.number m)) (hzero : m.isZero = true) (hfits : ¬ e.Fits) :
      Settles e (.error .divisionByZero)

theorem eval_neg (e : IntExpr) :
    (neg e).node.eval frame locals = (e.node.eval frame locals).bind UnaryOp.neg.apply := by
  rw [node, Node.eval]
  rfl

theorem eval_binary_node (op : IntOp) (l r : IntExpr) :
    (binary op l r).node.eval frame locals =
      (l.node.eval frame locals).bind fun v => (r.node.eval frame locals).bind fun w => op.toBinary.apply v w := by
  cases op <;> rw [node, Node.eval] <;> rfl

theorem apply_numbers (op : IntOp) (a b : Number) :
    op.toBinary.apply (.number a) (.number b) = (op.toBinary.arithmetic a b).map .number := by
  cases op <;> rfl

variable {frame locals}

theorem Settles.number_or_zero {e : IntExpr} {o : Outcome} (h : e.Settles frame locals o) :
    (∃ a, o = .ok (.number a)) ∨ o = .error .divisionByZero := by
  cases h with
  | int => exact .inl ⟨_, rfl⟩
  | float => exact .inl ⟨_, rfl⟩
  | zero => exact .inr rfl

/-- An error inside is an error of the whole. -/
theorem Settles.error_within {e whole : IntExpr} {err : EvalError} (h : e.Settles frame locals (.error err))
    (hsub : e.subtrees ⊆ whole.subtrees) : whole.Settles frame locals (.error err) := by
  cases h with
  | zero hmem hb hzero hfits => exact .zero (hsub hmem) hb hzero fun h => hfits fun s hs => h s (hsub hs)

theorem settles_neg {e : IntExpr} {o : Outcome} (h : e.Settles frame locals o) :
    e.neg.Settles frame locals (o.bind UnaryOp.neg.apply) := by
  cases h with
  | @int n hvalue hfits =>
    have hneg : e.neg.value? = some (-n.toInt) := by rw [value?, hvalue, Option.map_some]
    show e.neg.Settles frame locals (.ok (.number (Number.fitOr (-n.toInt) _)))
    rcases Number.fitOr_cases (-n.toInt) (-Double.ofInt n.toInt) with ⟨m, hm, hint⟩ | ⟨hx, hrange⟩
    · rw [hm]
      rw [← hint] at hneg
      exact .int hneg (fits_neg.mpr ⟨⟨m.toInt, hneg, isInt64_toInt m⟩, hfits⟩)
    · rw [hx]
      exact .float fun h => not_inRange hneg hrange (fits_neg.mp h).1
  | float hfits => exact .float fun h => hfits (fits_neg.mp h).2
  | zero hmem hb hzero hfits => exact (Settles.zero hmem hb hzero hfits).error_within (List.subset_cons_self _ _)

/-- An expression with two numbers inside. Once one of them is a double, so is the result. -/
theorem settles_binary {op : IntOp} {l r : IntExpr} {a b : Number} (hr : r.node.eval frame locals = .ok (.number b))
    (hla : l.Settles frame locals (.ok (.number a))) (hrb : r.Settles frame locals (.ok (.number b))) :
    (binary op l r).Settles frame locals ((op.toBinary.arithmetic a b).map .number) := by
  by_cases hints : ∃ m n, a = .int m ∧ b = .int n
  · obtain ⟨m, n, rfl, rfl⟩ := hints
    cases hla with | int hl hlfits =>
    cases hrb with | int hr' hrfits =>
    have hvalue : (binary op l r).value? = op.result? m.toInt n.toInt := by
      rw [value?, hl, hr']
      rfl
    have harith := op.arithmetic_int m n
    generalize op.toBinary.arithmetic (.int m) (.int n) = o at harith
    cases harith with
    | @int k h =>
      have hk := hvalue.trans h
      exact .int hk (fits_binary.mpr ⟨⟨k.toInt, hk, isInt64_toInt k⟩, hlfits, hrfits⟩)
    | float h hn => exact .float fun hfits => not_inRange (hvalue.trans h) hn (fits_binary.mp hfits).1
    | zero hop hzero =>
      subst hop
      have hn : n = 0 := Int64.toInt_inj.mp hzero
      refine .zero List.mem_cons_self hr (by simp [Number.isZero, hn]) fun hfits => ?_
      obtain ⟨k, hk, -⟩ := (fits_binary.mp hfits).1
      rw [hvalue, IntOp.result?, if_pos hzero] at hk
      cases hk
  · have hnot : ¬ (binary op l r).Fits := by
      intro hfits
      obtain ⟨-, hlfits, hrfits⟩ := fits_binary.mp hfits
      cases hla with
      | float h => exact h hlfits
      | int =>
        cases hrb with
        | float h => exact h hrfits
        | int => exact hints ⟨_, _, rfl, rfl⟩
    rcases op.arithmetic_float fun m n h => hints ⟨m, n, h⟩ with ⟨x, hx⟩ | ⟨rfl, hx, hzero⟩
    · rw [hx]
      exact .float hnot
    · rw [hx]
      exact .zero List.mem_cons_self hr hzero hnot

/-- What a tree gives is settled by the exact values inside of it. -/
theorem eval_settles (e : IntExpr) : e.Settles frame locals (e.node.eval frame locals) := by
  induction e with
  | const n =>
    rw [node, Node.eval]
    exact .int rfl (fits_const n)
  | neg e ih =>
    rw [eval_neg]
    exact settles_neg ih
  | binary op l r ihl ihr =>
    rw [eval_binary_node]
    generalize l.node.eval frame locals = left at ihl
    generalize hr : r.node.eval frame locals = right at ihr
    -- An error on the left hides what is on the right.
    rcases ihl.number_or_zero with ⟨a, rfl⟩ | rfl
    · rcases ihr.number_or_zero with ⟨b, rfl⟩ | rfl
      · show (binary op l r).Settles frame locals (op.toBinary.apply (.number a) (.number b))
        rw [apply_numbers]
        exact settles_binary hr ihl ihr
      · exact ihr.error_within fun s hs => List.mem_cons_of_mem _ (List.mem_append_right _ hs)
    · exact ihl.error_within fun s hs => List.mem_cons_of_mem _ (List.mem_append_left _ hs)

/-- The value of an integer expression is exact or a double, and never wrapped. It is an integer exactly if every
subtree has an exact value that fits into 64 bits, and then it is the exact value. Evaluation fails only by a remainder
whose divisor came out as zero, be it as an integer or as a double. -/
theorem eval_exact (frame : Frame) (locals : List Value) (e : IntExpr) :
    (∀ n, e.node.eval frame locals = .ok (.number (.int n)) → e.value? = some n.toInt) ∧
    ((∃ n, e.node.eval frame locals = .ok (.number (.int n))) ↔ ∀ s ∈ e.subtrees, ∃ n, s.value? = some n ∧ IsInt64 n) ∧
    ((∃ m, e.node.eval frame locals = .ok (.number m)) ∨ e.node.eval frame locals = .error .divisionByZero) ∧
    (e.node.eval frame locals = .error .divisionByZero →
      ∃ a b m, binary .mod a b ∈ e.subtrees ∧ b.node.eval frame locals = .ok (.number m) ∧ m.isZero = true) := by
  have h : e.Settles frame locals (e.node.eval frame locals) := e.eval_settles
  generalize e.node.eval frame locals = o at h ⊢
  refine ⟨?_, ⟨?_, ?_⟩, h.number_or_zero, ?_⟩
  · rintro n rfl
    cases h with
    | int hvalue _ => exact hvalue
  · rintro ⟨n, rfl⟩
    cases h with
    | int _ hfits => exact hfits
  · intro hfits
    cases h with
    | int => exact ⟨_, rfl⟩
    | float hnot => exact absurd hfits hnot
    | zero _ _ _ hnot => exact absurd hfits hnot
  · rintro rfl
    cases h with
    | zero hmem hb hzero _ => exact ⟨_, _, _, hmem, hb, hzero⟩

/-- The least integer by minus one leaves zero; the largest and one more is a double, and so is whatever is made of it,
also where it could be an integer again. -/
theorem eval_limits :
    let frame : Frame := ⟨[], [], [], 0⟩
    let least := const (-9223372036854775808)
    let beyond := binary .add (const 9223372036854775807) (const 1)
    (binary .mod least (const (-1))).node.eval frame [] = .ok (.number (.int 0)) ∧
    ¬ ∃ n, (binary .sub beyond beyond).node.eval frame [] = .ok (.number (.int n)) := by
  intro frame least beyond
  constructor
  · obtain ⟨hvalue, hint, -, -⟩ := eval_exact frame [] (binary .mod least (const (-1)))
    have hfits : (binary .mod least (const (-1))).Fits := by
      refine fits_binary.mpr ⟨⟨0, rfl, ?_⟩, fits_const _, fits_const _⟩
      simp [IsInt64]
    obtain ⟨n, hn⟩ := hint.mpr hfits
    have hsame : some n.toInt = some (0 : Int64).toInt := (hvalue n hn).symm
    have hzero : n = 0 := Int64.toInt_inj.mp (Option.some.inj hsame)
    rw [hn, hzero]
  · intro hint
    have hfits := (eval_exact frame [] (binary .sub beyond beyond)).2.1.mp hint
    obtain ⟨n, hn, -, hlt⟩ := hfits beyond (by simp [subtrees, beyond])
    obtain rfl : 9223372036854775808 = n := Option.some.inj hn
    exact absurd hlt (by decide)

end IntExpr

end Tributary
