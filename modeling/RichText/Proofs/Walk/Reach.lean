import Mathlib.Data.List.Induction
import Mathlib.Data.List.Nodup
import RichText.Proofs.Walk.Offering

namespace RichText

/-- `name` is the first name in some bindings that repeats an earlier one. -/
def FirstRepeat (lets : List (String × Expr)) (name : String) : Prop :=
  ∃ earlier e later, lets = earlier ++ (name, e) :: later ∧ (earlier.map Prod.fst).Nodup ∧
    name ∈ earlier.map Prod.fst

theorem FirstRepeat.not_nodup {lets : List (String × Expr)} {name : String}
    (h : FirstRepeat lets name) : ¬ (lets.map Prod.fst).Nodup := by
  obtain ⟨earlier, e, later, rfl, -, hmem⟩ := h
  rw [List.map_append, List.nodup_append]
  exact fun hn => hn.2.2 name hmem name List.mem_cons_self rfl

theorem nodup_or_firstRepeat (lets : List (String × Expr)) :
    (lets.map Prod.fst).Nodup ∨ ∃ name, FirstRepeat lets name := by
  induction lets using List.reverseRecOn with
  | nil => exact .inl .nil
  | append_singleton lets l ih =>
    obtain hn | ⟨name, earlier, e, later, rfl, hrepeat⟩ := ih
    · by_cases hl : l.1 ∈ lets.map Prod.fst
      · exact .inr ⟨l.1, lets, l.2, [], rfl, hn, hl⟩
      · left
        rw [List.map_append, List.map_singleton, List.nodup_append]
        refine ⟨hn, List.nodup_singleton _, fun name hname x hx heq => hl ?_⟩
        rwa [← List.mem_singleton.1 hx, ← heq]
    · exact .inr ⟨name, earlier, e, later ++ [l], by simp, hrepeat⟩

namespace Walk

variable {σ κ ω α β : Type}

section

variable (S : Setting σ κ)

theorem exec_evalLets_cons_of_mem {seen : List String} {name : String} (h : name ∈ seen) (e : Expr)
    (rest : List (String × Expr)) (w : WalkState σ ω) :
    exec (evalLets S seen ((name, e) :: rest)) w = (.error (.duplicateBinding name), w) := by
  have hseen : seen.contains name = true := by simpa using h
  simp only [evalLets, hseen, if_true]
  rfl

theorem exec_evalLets_cons_of_notMem {seen : List String} {name : String} (h : name ∉ seen)
    (e : Expr) (rest : List (String × Expr)) (w : WalkState σ ω) :
    exec (evalLets S seen ((name, e) :: rest)) w =
      exec (eval S e >>= fun v => evalLets S (name :: seen) rest >>= fun vs =>
        pure ((name, v) :: vs)) w := by
  have hseen : ¬ seen.contains name = true := by simpa using h
  simp only [evalLets, hseen]
  rfl

theorem result_evalLets_of_nodup {lets : List (String × Expr)} (hn : (lets.map Prod.fst).Nodup)
    (seen : List String) (hs : ∀ l ∈ lets, l.1 ∉ seen) (w : WalkState σ ω) :
    ∃ bindings, (exec (evalLets S seen lets) w).1 = .ok bindings := by
  induction lets generalizing seen w with
  | nil => exact ⟨[], rfl⟩
  | cons l rest ih =>
    obtain ⟨name, e⟩ := l
    rw [List.map_cons, List.nodup_cons] at hn
    rw [List.forall_mem_cons] at hs
    have hrest := forall_notMem_cons hn.1 hs.2
    obtain ⟨v, -, hv⟩ := (Total.onHost S e.eval).after_bind (fun v =>
      evalLets S (name :: seen) rest >>= fun vs => pure ((name, v) :: vs)) w
    obtain ⟨bindings, hbindings⟩ := ih hn.2 (name :: seen) hrest (after (onHost S e.eval) w)
    refine ⟨(name, v) :: bindings, ?_⟩
    rw [exec_evalLets_cons_of_notMem S hs.1]
    unfold eval
    rw [hv, exec_bind_ok (Prod.ext hbindings rfl)]
    rfl

theorem result_evalLets_of_repeat {earlier : List (String × Expr)}
    (hn : (earlier.map Prod.fst).Nodup) {seen : List String} (hs : ∀ l ∈ earlier, l.1 ∉ seen)
    {name : String} (h : name ∈ seen ∨ name ∈ earlier.map Prod.fst) (e : Expr)
    (later : List (String × Expr)) (w : WalkState σ ω) :
    (exec (evalLets S seen (earlier ++ (name, e) :: later)) w).1 =
      .error (.duplicateBinding name) := by
  induction earlier generalizing seen w with
  | nil =>
    have hmem : name ∈ seen := h.resolve_right (by simp)
    rw [List.nil_append, exec_evalLets_cons_of_mem S hmem]
  | cons l rest ih =>
    obtain ⟨x, ex⟩ := l
    rw [List.map_cons, List.nodup_cons] at hn
    rw [List.forall_mem_cons] at hs
    have hrest := forall_notMem_cons hn.1 hs.2
    have hname : name ∈ x :: seen ∨ name ∈ rest.map Prod.fst := by
      simpa [or_assoc, or_left_comm, or_comm] using h
    obtain ⟨v, -, hv⟩ := (Total.onHost S ex.eval).after_bind (fun v =>
      evalLets S (x :: seen) (rest ++ (name, e) :: later) >>= fun vs => pure ((x, v) :: vs)) w
    rw [List.cons_append, exec_evalLets_cons_of_notMem S hs.1]
    unfold eval
    rw [hv, exec_bind_error (Prod.ext (ih hn.2 hrest hname _) rfl)]

/-- The bindings of a node fail for the first repeated name and for nothing else. -/
theorem result_evalLets_iff (lets : List (String × Expr)) (w : WalkState σ ω) (e : RenderError) :
    (exec (evalLets S [] lets) w).1 = .error e ↔
      ∃ name, e = .duplicateBinding name ∧ FirstRepeat lets name := by
  have hrepeat : ∀ {name}, FirstRepeat lets name →
      (exec (evalLets S [] lets) w).1 = .error (.duplicateBinding name) := by
    rintro name ⟨earlier, ex, later, rfl, hn, hmem⟩
    exact result_evalLets_of_repeat S hn (by simp) (.inr hmem) ex later w
  constructor
  · intro h
    obtain hn | ⟨name, hname⟩ := nodup_or_firstRepeat lets
    · obtain ⟨bindings, hok⟩ := result_evalLets_of_nodup S hn [] (by simp) w
      rw [hok] at h
      cases h
    · exact ⟨name, (Except.error.inj ((hrepeat hname).symm.trans h)).symm, hname⟩
  · rintro ⟨name, rfl, hname⟩
    exact hrepeat hname

theorem nodup_of_exec_evalLets {lets : List (String × Expr)} {bindings : List (String × Value)}
    {w v : WalkState σ ω} (h : exec (evalLets S [] lets) w = (.ok bindings, v)) :
    (lets.map Prod.fst).Nodup := by
  obtain hn | ⟨name, hname⟩ := nodup_or_firstRepeat lets
  · exact hn
  · have hfail := (result_evalLets_iff S lets w _).2 ⟨name, rfl, hname⟩
    rw [h] at hfail
    cases hfail

/-- The node comes to its body: its use-gate is open, no interceptor vetoes it, and it is not gated.
The interceptors in `pending` are owed an after-call then. -/
inductive Admitted (node : Node) (inChain : Bool) (v : WalkState σ (Journal σ κ)) :
    List (Interceptor σ) → WalkState σ (Journal σ κ) → Prop where
  | mk {pending : List (Interceptor σ)} {opened offered passed : WalkState σ (Journal σ κ)}
    (hopen : exec (isOpen S node.attrs.useWhen) v = (.ok true, opened))
    (hoffer : exec (heedAll S node) { opened with
        interceptors := register S node opened.interceptors
        out := opened.out.log [.useGate node true] } = (.ok (some pending), offered))
    (hpass : exec (passes S node inChain) offered = (.ok true, passed)) :
    Admitted node inChain v pending { passed with out := passed.out.log [.ifGate node true] }

def addLayer : Option StyleDelta → Walk σ (Journal σ κ) Unit
  | none => pure ()
  | some d => do
    let own ← onHost S d.evaluate
    onOut fun j => { j with path := ⟨d.reset, own⟩ :: j.path }

def beginBody (node : Node) : Walk σ (Journal σ κ) Unit := do
  pushAll (← evalLets S [] node.attrs.lets)
  addLayer S node.attrs.style

inductive Untaken : List Node → WalkState σ (Journal σ κ) → WalkState σ (Journal σ κ) → Prop where
  | nil {w : WalkState σ (Journal σ κ)} : Untaken [] w w
  | cons {node : Node} {nodes : List Node} {w u v : WalkState σ (Journal σ κ)}
    (h : exec (isOpen S node.attrs.ifCond) w = (.ok false, u)) (ht : Untaken nodes u v) :
    Untaken (node :: nodes) w v

def loopItems (head : LoopHead) : Walk σ (Journal σ κ) (List Value) := do
  let items := S.coercion.asList (← eval S head.iterable)
  let backwards ← isReversed S head.reversed
  return if backwards then items.reverse else items

def roundLets (head : LoopHead) (separator : Walk σ (Journal σ κ) Unit) (count index : Nat)
    (item : Value) : Walk σ (Journal σ κ) (List (String × Value)) := do
  if 0 < index then separator
  onScope (setRound head.var item index count)
  evalLoopLets S [] head.lets

def beginRound (head : LoopHead) (separator : Walk σ (Journal σ κ) Unit) (count index : Nat)
    (item : Value) : Walk σ (Journal σ κ) Unit :=
  roundLets S head separator count index item >>= pushAll

def round (head : LoopHead) (separator body : Walk σ (Journal σ κ) Unit) (count index : Nat)
    (item : Value) : Walk σ (Journal σ κ) Unit :=
  roundLets S head separator count index item >>= (binding · body)

/-- In rounds over some items, from the state `w`, the separator is walked from `v`, or the body
if `inBody` holds. -/
inductive Turns (head : LoopHead) (separator body : Walk σ (Journal σ κ) Unit) (count : Nat) :
    Nat → List Value → WalkState σ (Journal σ κ) → Bool → WalkState σ (Journal σ κ) → Prop where
  | separator {index : Nat} {item : Value} {items : List Value} {w : WalkState σ (Journal σ κ)}
    (h : 0 < index) : Turns head separator body count index (item :: items) w false w
  | body {index : Nat} {item : Value} {items : List Value} {w v : WalkState σ (Journal σ κ)}
    (h : exec (beginRound S head separator count index item) w = (.ok (), v)) :
    Turns head separator body count index (item :: items) w true v
  | later {index : Nat} {item : Value} {items : List Value} {w u v : WalkState σ (Journal σ κ)}
    {inBody : Bool} (h : exec (round S head separator body count index item) w = (.ok (), u))
    (ht : Turns head separator body count (index + 1) items u inBody v) :
    Turns head separator body count index (item :: items) w inBody v

variable (splice : Node → Walk σ (Journal σ κ) Unit)

/-- In the walk of a content from `w` a part is visited from `v`. All that comes before has not
failed. -/
inductive Comes : Content → WalkState σ (Journal σ κ) → Node → Bool →
    WalkState σ (Journal σ κ) → Prop where
  | child {earlier later : List Node} {child : Node} {w v : WalkState σ (Journal σ κ)}
    (h : exec (visitAll S (chronicler S) splice earlier) w = (.ok (), v)) :
    Comes (.container (earlier ++ child :: later)) w child false v
  | branch {earlier later : List Node} {branch : Node} {fallback : Option Node}
    {w u v : WalkState σ (Journal σ κ)} (hu : Untaken S earlier w u)
    (h : exec (isOpen S branch.attrs.ifCond) u = (.ok true, v)) :
    Comes (.chain (earlier ++ branch :: later) fallback) w branch true v
  | otherwise {branches : List Node} {fallback : Node} {w v : WalkState σ (Journal σ κ)}
    (hu : Untaken S branches w v) : Comes (.chain branches (some fallback)) w fallback true v
  | case {input : Expr} {value : Value} {cases : List (String × Node)} {label : String}
    {case : Node} {fallback : Option Node} {w v : WalkState σ (Journal σ κ)}
    (hv : exec (eval S input) w = (.ok value, v)) (hn : value.isNull = false)
    (h : cases.find? (caseKey ·.1 = caseKey (S.coercion.asStr value)) = some (label, case)) :
    Comes (.matching input cases fallback) w case false v
  | unmatched {input : Expr} {value : Value} {cases : List (String × Node)} {fallback : Node}
    {w v : WalkState σ (Journal σ κ)} (hv : exec (eval S input) w = (.ok value, v))
    (h : value.isNull = true ∨
      cases.find? (caseKey ·.1 = caseKey (S.coercion.asStr value)) = none) :
    Comes (.matching input cases (some fallback)) w fallback false v
  | separator {head : LoopHead} {separator : Node} {body : List Node} {items : List Value}
    {w u v : WalkState σ (Journal σ κ)} (hi : exec (loopItems S head) w = (.ok items, u))
    (ht : Turns S head (visitWith S (chronicler S) splice separator false)
      (visitAll S (chronicler S) splice body) items.length 0 items
      { u with scope := openLoop head.var u.scope } false v) :
    Comes (.loop head (some separator) body) w separator false v
  | body {head : LoopHead} {separator : Option Node} {earlier later : List Node} {child : Node}
    {items : List Value} {w u t v : WalkState σ (Journal σ κ)}
    (hi : exec (loopItems S head) w = (.ok items, u))
    (ht : Turns S head (visitOption S (chronicler S) splice separator false)
      (visitAll S (chronicler S) splice (earlier ++ child :: later)) items.length 0 items
      { u with scope := openLoop head.var u.scope } true t)
    (h : exec (visitAll S (chronicler S) splice earlier) t = (.ok (), v)) :
    Comes (.loop head separator (earlier ++ child :: later)) w child false v

end

def splicer (S : Setting σ κ) : Nat → Node → Walk σ (Journal σ κ) Unit
  | 0 => fun _ => throw .spliceDepth
  | depth + 1 => fun node => visit S (chronicler S) depth node false

/-- A visit of a node from the state `v` comes to the body of `target`, and begins it in the state
`t`. -/
inductive Reaches (S : Setting σ κ) : Nat → Node → Bool → WalkState σ (Journal σ κ) → Node →
    WalkState σ (Journal σ κ) → Prop where
  | body {depth : Nat} {node : Node} {inChain : Bool} {pending : List (Interceptor σ)}
    {v t : WalkState σ (Journal σ κ)} (ha : Admitted S node inChain v pending t) :
    Reaches S depth node inChain v node t
  | part {depth : Nat} {node part target : Node} {inChain inPart : Bool}
    {pending : List (Interceptor σ)} {v u w v' t : WalkState σ (Journal σ κ)}
    (ha : Admitted S node inChain v pending u) (hb : exec (beginBody S node) u = (.ok (), w))
    (hc : Comes S (splicer S depth) node.content w part inPart v')
    (hr : Reaches S depth part inPart v' target t) : Reaches S depth node inChain v target t
  | spliced {depth : Nat} {node markup target : Node} {inChain : Bool} {e : Expr} {id : Nat}
    {display : String} {pending : List (Interceptor σ)} {v u w v' t : WalkState σ (Journal σ κ)}
    (ha : Admitted S node inChain v pending u) (hb : exec (beginBody S node) u = (.ok (), w))
    (hc : node.content = .interpolation e)
    (hv : exec (eval S e) w = (.ok (.markup id display markup), v'))
    (hr : Reaches S depth markup false v' target t) :
    Reaches S (depth + 1) node inChain v target t

theorem restores_splicer (S : Setting σ κ) (depth : Nat) (markup : Node) :
    Restores Journal.path (splicer S depth markup) := by
  cases depth with
  | zero => exact (Restores.congruence S).throw _
  | succ depth => exact Restores.visit_chronicler S depth markup false

theorem visit_eq (S : Setting σ κ) (depth : Nat) :
    visit S (chronicler S) depth = visitWith S (chronicler S) (splicer S depth) := by
  cases depth <;> rfl

theorem visitWith_eq (S : Setting σ κ) (splice : Node → Walk σ (Journal σ κ) Unit) (node : Node)
    (inChain : Bool) :
    visitWith S (chronicler S) splice node inChain =
      observed S node inChain (dispatch S (chronicler S) splice node.content) := by
  cases node with
  | mk attrs content => rfl

theorem Comes.mem_parts {S : Setting σ κ} {splice : Node → Walk σ (Journal σ κ) Unit}
    {content : Content} {part : Node} {inPart : Bool} {w v : WalkState σ (Journal σ κ)}
    (h : Comes S splice content w part inPart v) : (part, inPart) ∈ content.parts := by
  cases h with
  | case _ _ h =>
    have hmem := List.mem_of_find?_eq_some h
    exact List.mem_append_left _ (List.mem_map.2 ⟨_, hmem, rfl⟩)
  | _ => simp [Content.parts]

end Walk

end RichText
