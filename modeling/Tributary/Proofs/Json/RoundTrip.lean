import Tributary.Json.Reader
import Tributary.Proofs.Json.Tokens

/-!
# Written trees are read back

Between the two forms of a text and the tree stands the list of its tokens: both forms spell the same
tokens, and the tokens build the tree again. Doubles are left out, since what is not finite has no text.

* `Exact` : the trees without doubles;
* `tokens` : the tokens of a tree;
* `Exact.spells_compact`, `Exact.spells_pretty` : both forms spell them;
* `Exact.foldlM_tokens` : where a value may stand, they build the tree;
* `Exact.parse?_compact`, `Exact.parse?_pretty` : the tree is read back.
-/

namespace Tributary.Json

/-- The trees without doubles. -/
inductive Exact : Json → Prop
  | null : Exact null
  | bool (b : Bool) : Exact (bool b)
  | int (n : Int) : Exact (int n)
  | string (s : String) : Exact (string s)
  | array {items : List Json} (h : ∀ j ∈ items, Exact j) : Exact (array items)
  | object {members : List (String × Json)} (h : ∀ m ∈ members, Exact m.2) : Exact (object members)

mutual

def tokens : Json → List Token
  | null => [.null]
  | bool b => [.bool b]
  | int n => [.int n]
  | float x => [.float x]
  | string s => [.string s]
  | array [] => [.openArray, .closeArray]
  | array (j :: js) => .openArray :: (tokens j ++ furtherItems js)
  | object [] => [.openObject, .closeObject]
  | object ((k, j) :: ms) => .openObject :: .string k :: .colon :: (tokens j ++ furtherMembers ms)

/-- The tokens after an item, with those of the items `js`, to the end of the array. -/
def furtherItems : List Json → List Token
  | [] => [.closeArray]
  | j :: js => .comma :: (tokens j ++ furtherItems js)

/-- The tokens after a member, with those of the members `ms`, to the end of the object. -/
def furtherMembers : List (String × Json) → List Token
  | [] => [.closeObject]
  | (k, j) :: ms => .comma :: .string k :: .colon :: (tokens j ++ furtherMembers ms)

end

/-! ## Both forms spell the tokens -/

theorem ends_cons {c : Char} (hc : endsWord c = true) (rest : List Char) : Ends (c :: rest) := by
  intro d hd
  cases hd
  exact hc

theorem ends_nil : Ends [] := by simp [Ends]

theorem Spells.null {rest : List Char} (hrest : Ends rest) : Spells "null".toList [.null] rest :=
  .word (by decide) rfl rfl hrest

theorem Spells.bool (b : Bool) {rest : List Char} (hrest : Ends rest) :
    Spells (if b then "true" else "false").toList [.bool b] rest := by
  cases b <;> exact .word (by decide) rfl rfl hrest

/-- A key and its colon. -/
theorem Spells.key (k : String) {cs rest : List Char} {ts : List Token} (h : Spells cs ts rest) :
    Spells (Json.quote k ++ ':' :: cs) (.string k :: .colon :: ts) rest :=
  (Spells.quote k _).append (.structural rfl h)

/-! ### The compact form -/

theorem spells_compactItems {j : Json} {js : List Json}
    (h : ∀ i ∈ j :: js, ∀ rest, Ends rest → Spells i.compactChars i.tokens rest) (rest : List Char) :
    Spells (compactItems (j :: js) ++ [']']) (j.tokens ++ furtherItems js) rest := by
  induction js generalizing j with
  | nil =>
    have hj := h j List.mem_cons_self
    rw [compactItems, furtherItems]
    exact (hj _ (ends_cons rfl rest)).append (.structural rfl (.nil rest))
  | cons i is ih =>
    obtain ⟨hj, hrest⟩ := List.forall_mem_cons.mp h
    rw [compactItems, furtherItems, List.append_assoc]
    · exact (hj _ (ends_cons rfl _)).append (.structural rfl (ih hrest))
    · simp

theorem spells_compactMembers {k : String} {j : Json} {ms : List (String × Json)}
    (h : ∀ m ∈ (k, j) :: ms, ∀ rest, Ends rest → Spells m.2.compactChars m.2.tokens rest) (rest : List Char) :
    Spells (compactMembers ((k, j) :: ms) ++ ['\x7d'])
      (.string k :: .colon :: (j.tokens ++ furtherMembers ms)) rest := by
  induction ms generalizing k j with
  | nil =>
    have hj := h (k, j) List.mem_cons_self
    rw [compactMembers, furtherMembers, List.append_assoc]
    exact .key k ((hj _ (ends_cons rfl rest)).append (.structural rfl (.nil rest)))
  | cons m ms ih =>
    obtain ⟨hj, hrest⟩ := List.forall_mem_cons.mp h
    rw [compactMembers, furtherMembers, List.append_assoc, List.cons_append, List.append_assoc]
    · exact .key k ((hj _ (ends_cons rfl _)).append (.structural rfl (ih hrest)))
    · simp

/-- The compact form spells the tokens of the tree. -/
theorem Exact.spells_compact {j : Json} (h : j.Exact) (rest : List Char) (hrest : Ends rest) :
    Spells j.compactChars j.tokens rest := by
  induction h generalizing rest with
  | null => exact .null hrest
  | bool b => exact .bool b hrest
  | int n => exact .int n hrest
  | string s => exact .quote s rest
  | @array items _ ih =>
    cases items with
    | nil => exact .structural rfl (.structural rfl (.nil rest))
    | cons j js =>
      rw [compactChars, tokens]
      exact .structural rfl (spells_compactItems ih rest)
  | @object members _ ih =>
    cases members with
    | nil => exact .structural rfl (.structural rfl (.nil rest))
    | cons m ms =>
      rw [compactChars, tokens]
      exact .structural rfl (spells_compactMembers ih rest)

/-! ### The pretty form -/

theorem Spells.indent (level : Nat) (rest : List Char) : Spells (indent level) [] rest := by
  refine .blank ?_ rest
  simp [Json.indent, isSpace]

theorem Spells.space {cs rest : List Char} {ts : List Token} (h : Spells cs ts rest) : Spells (' ' :: cs) ts rest := by
  have hspace : Spells [' '] [] (cs ++ rest) := .blank rfl _
  exact hspace.append h

theorem spells_prettyItems {level : Nat} {js : List Json}
    (h : ∀ i ∈ js, ∀ rest, Ends rest → Spells (i.prettyChars level) i.tokens rest) (outer : Nat)
    (rest : List Char) :
    Ends (prettyItems level js ++ (indent outer ++ [']']) ++ rest) ∧
      Spells (prettyItems level js ++ (indent outer ++ [']'])) (furtherItems js) rest := by
  induction js with
  | nil => exact ⟨ends_cons rfl _, (Spells.indent outer _).append (.structural rfl (.nil rest))⟩
  | cons j js ih =>
    obtain ⟨hj, hjs⟩ := List.forall_mem_cons.mp h
    obtain ⟨hends, hspells⟩ := ih hjs
    refine ⟨ends_cons rfl _, ?_⟩
    rw [prettyItems, furtherItems, List.cons_append, List.append_assoc, List.append_assoc]
    exact .structural rfl ((Spells.indent level _).append ((hj _ hends).append hspells))

theorem spells_prettyMembers {level : Nat} {ms : List (String × Json)}
    (h : ∀ m ∈ ms, ∀ rest, Ends rest → Spells (m.2.prettyChars level) m.2.tokens rest) (outer : Nat)
    (rest : List Char) :
    Ends (prettyMembers level ms ++ (indent outer ++ ['\x7d']) ++ rest) ∧
      Spells (prettyMembers level ms ++ (indent outer ++ ['\x7d'])) (furtherMembers ms) rest := by
  induction ms with
  | nil => exact ⟨ends_cons rfl _, (Spells.indent outer _).append (.structural rfl (.nil rest))⟩
  | cons m ms ih =>
    obtain ⟨hm, hms⟩ := List.forall_mem_cons.mp h
    obtain ⟨hends, hspells⟩ := ih hms
    refine ⟨ends_cons rfl _, ?_⟩
    rw [prettyMembers, furtherMembers, List.cons_append, List.append_assoc, List.append_assoc,
      List.cons_append, List.cons_append, List.append_assoc]
    exact .structural rfl ((Spells.indent level _).append (.key m.1 (.space ((hm _ hends).append hspells))))

/-- The pretty form at any level spells the tokens of the tree. -/
theorem Exact.spells_pretty {j : Json} (h : j.Exact) (level : Nat) (rest : List Char) (hrest : Ends rest) :
    Spells (j.prettyChars level) j.tokens rest := by
  induction h generalizing level rest with
  | null => exact .null hrest
  | bool b => exact .bool b hrest
  | int n => exact .int n hrest
  | string s => exact .quote s rest
  | @array items _ ih =>
    cases items with
    | nil => exact .structural rfl (.structural rfl (.nil rest))
    | cons j js =>
      obtain ⟨hj, hjs⟩ := List.forall_mem_cons.mp ih
      obtain ⟨hends, hspells⟩ := spells_prettyItems (fun i hi => hjs i hi (level + 1)) level rest
      rw [prettyChars, tokens]
      simp only [List.append_assoc]
      exact .structural rfl ((Spells.indent _ _).append ((hj _ _ hends).append hspells))
  | @object members _ ih =>
    cases members with
    | nil => exact .structural rfl (.structural rfl (.nil rest))
    | cons m ms =>
      obtain ⟨hm, hms⟩ := List.forall_mem_cons.mp ih
      obtain ⟨hends, hspells⟩ := spells_prettyMembers (fun i hi => hms i hi (level + 1)) level rest
      rw [prettyChars, tokens]
      simp only [List.append_assoc]
      exact .structural rfl ((Spells.indent _ _).append (.key m.1 (.space ((hm _ _ hends).append hspells))))

/-! ## The tokens build the tree -/

/-- Where an array has just been opened, a value is read as its first item. -/
theorem step_item {t : Token} (ht : t ≠ .closeArray) (opened : List Opened) :
    Building.step ⟨opened, .item⟩ t = Building.step ⟨.array [] :: opened, .value⟩ t := by
  cases t <;> first | rfl | contradiction

theorem tokens_eq_cons (j : Json) : ∃ t ts, j.tokens = t :: ts ∧ t ≠ .closeArray := by
  fun_cases tokens j <;> exact ⟨_, _, rfl, by simp⟩

theorem foldlM_furtherItems {js : List Json}
    (h : ∀ i ∈ js, ∀ opened, i.tokens.foldlM Building.step ⟨opened, .value⟩ = some ⟨opened, .rest i⟩)
    (opened : List Opened) (done : List Json) (j : Json) :
    (furtherItems js).foldlM Building.step ⟨.array done :: opened, .rest j⟩ =
      some ⟨opened, .rest (.array (done.reverse ++ j :: js))⟩ := by
  induction js generalizing done j with
  | nil => simp [furtherItems, Building.step]
  | cons i is ih =>
    obtain ⟨hi, his⟩ := List.forall_mem_cons.mp h
    simp [furtherItems, Building.step, hi, ih his]

theorem foldlM_furtherMembers {ms : List (String × Json)}
    (h : ∀ m ∈ ms, ∀ opened, m.2.tokens.foldlM Building.step ⟨opened, .value⟩ = some ⟨opened, .rest m.2⟩)
    (opened : List Opened) (done : List (String × Json)) (k : String) (j : Json) :
    (furtherMembers ms).foldlM Building.step ⟨.object done k :: opened, .rest j⟩ =
      some ⟨opened, .rest (.object (done.reverse ++ (k, j) :: ms))⟩ := by
  induction ms generalizing done k j with
  | nil => simp [furtherMembers, Building.step]
  | cons m ms ih =>
    obtain ⟨hm, hms⟩ := List.forall_mem_cons.mp h
    simp [furtherMembers, Building.step, hm, ih hms]

/-- Where a value may stand, the tokens of a tree complete it. -/
theorem Exact.foldlM_tokens {j : Json} (h : j.Exact) (opened : List Opened) :
    j.tokens.foldlM Building.step ⟨opened, .value⟩ = some ⟨opened, .rest j⟩ := by
  induction h generalizing opened with
  | null => rfl
  | bool b => rfl
  | int n => rfl
  | string s => rfl
  | @array items _ ih =>
    cases items with
    | nil => rfl
    | cons j js =>
      obtain ⟨hj, hjs⟩ := List.forall_mem_cons.mp ih
      obtain ⟨t, ts, heq, ht⟩ := tokens_eq_cons j
      have hfirst : j.tokens.foldlM Building.step ⟨opened, .item⟩ = some ⟨.array [] :: opened, .rest j⟩ := by
        rw [← hj (.array [] :: opened), heq, List.foldlM_cons, List.foldlM_cons, step_item ht]
      simp [tokens, Building.step, startValue, hfirst, foldlM_furtherItems hjs]
  | @object members _ ih =>
    cases members with
    | nil => rfl
    | cons m ms =>
      obtain ⟨hm, hms⟩ := List.forall_mem_cons.mp ih
      simp [tokens, Building.step, startValue, hm, foldlM_furtherMembers hms]

/-- A text that spells the tokens of a tree is read as the tree. -/
theorem Exact.parse?_of_spells {j : Json} (h : j.Exact) {cs : List Char} (hcs : Spells cs j.tokens []) :
    parse? (String.ofList cs) = some j := by
  have htokens : tokens? cs = some j.tokens := by
    rw [← List.append_nil cs, hcs]
    simp [tokens?, Scan.finish]
  simp [parse?, htokens, ofTokens?, h.foldlM_tokens, Building.finish]

theorem Exact.parse?_compact {j : Json} (h : j.Exact) : parse? j.compact = some j :=
  h.parse?_of_spells (h.spells_compact [] ends_nil)

theorem Exact.parse?_pretty {j : Json} (h : j.Exact) : parse? j.pretty = some j :=
  h.parse?_of_spells (h.spells_pretty 0 [] ends_nil)

end Tributary.Json
