import RichText.Proofs.Keyed
import RichText.Proofs.Walk.Oblivious

namespace RichText.Walk

variable {σ κ ω α β : Type}

/-- Each name once, with the value that was bound to it last. -/
def lastValues (bindings : List (String × Value)) : List (String × Value) :=
  (bindings.map Prod.fst).eraseDups.map fun name =>
    (name, (bindings.reverse.lookup name).getD .null)

def record (index count : Nat) : Value :=
  .map [("index", .int (.ofNat index)), ("isEven", .bool (index % 2 = 0)),
    ("isFirst", .bool (index = 0)), ("isLast", .bool (index = count - 1)),
    ("isOdd", .bool (index % 2 = 1))]

def roundBindings (var : Option String) (count : Nat) (item : Value × Nat) :
    List (String × Value) :=
  var.toList.map (·, item.1) ++ [(loopName, record item.2 count)]

section

variable (S : Setting σ κ)

/-- The values of some bindings, none of which sees another. -/
def ownValues : List (String × Expr) → Walk σ ω (List (String × Value))
  | [] => pure []
  | (name, e) :: rest => do
    let v ← eval S e
    let vs ← ownValues rest
    return (name, v) :: vs

def ownRound (lets : List (String × Expr)) (body : Walk σ ω Unit) : Walk σ ω Unit := do
  let bindings ← ownValues S lets
  binding (lastValues bindings) body

/-- Every round in a scope of its own, and the separator between two rounds once more in the scope
of the first. -/
def unroll (lets : List (String × Expr)) (separator body : Walk σ ω Unit) :
    Option (List (String × Value)) → List (List (String × Value)) → Walk σ ω Unit
  | _, [] => pure ()
  | previous, bindings :: rest => do
    previous.elim (pure ()) (binding · separator)
    binding bindings (ownRound S lets body)
    unroll lets separator body (some bindings) rest

def unrolled (head : LoopHead) (separator body : Walk σ ω Unit) : Walk σ ω Unit := do
  let items := S.coercion.asList (← eval S head.iterable)
  let backwards ← isReversed S head.reversed
  let items := if backwards then items.reverse else items
  unroll S head.lets separator body none
    (items.zipIdx.map (roundBindings head.var items.length))

end

theorem ofEntries_record (index first last even odd : Value) :
    Value.ofEntries [("index", index), ("isFirst", first), ("isLast", last), ("isEven", even),
      ("isOdd", odd)] =
    .map [("index", index), ("isEven", even), ("isFirst", first), ("isLast", last),
      ("isOdd", odd)] := by
  simp (disch := decide) only [Value.ofEntries, Keyed.ofList, Keyed.insert, List.foldl_cons,
    List.foldl_nil, if_pos, if_neg]

theorem loopRecord_eq {index count : Nat} (h : index < count) :
    loopRecord index count = record index count := by
  have hlast : (index + 1 == count) = decide (index = count - 1) := by
    rw [Bool.eq_iff_iff, beq_iff_eq, decide_eq_true_iff]
    omega
  rw [loopRecord, hlast, ofEntries_record]
  simp only [record, beq_eq_decide]

theorem rebind_map {names : List String} (hn : names.Nodup) (value : String → Value)
    (name : String) (v : Value) :
    rebind name v (names.map fun x => (x, value x)) =
      (if name ∈ names then names else names ++ [name]).map fun x =>
        (x, if x = name then v else value x) := by
  induction names with
  | nil => simp [rebind]
  | cons x rest ih =>
    rw [List.nodup_cons] at hn
    by_cases hx : x = name
    · subst hx
      have hrest : rest.map (fun y => (y, value y)) =
          rest.map fun y => (y, if y = x then v else value y) := by
        refine List.map_congr_left fun y hy => ?_
        have hne : y ≠ x := fun heq => hn.1 (heq ▸ hy)
        rw [if_neg hne]
      simp [rebind, hrest]
    · rw [List.map_cons, rebind, if_neg hx, ih hn.2]
      by_cases hmem : name ∈ rest
      · simp [hmem, hx]
      · simp [hmem, hx, Ne.symm hx]

theorem lastValues_concat (bindings : List (String × Value)) (b : String × Value) :
    lastValues (bindings ++ [b]) = rebind b.1 b.2 (lastValues bindings) := by
  rw [lastValues, lastValues, rebind_map (nodup_eraseDups _), List.map_append, List.map_singleton,
    eraseDups_concat, List.reverse_append, List.reverse_singleton, List.singleton_append]
  simp only [List.mem_eraseDups]
  refine List.map_congr_left fun name _ => ?_
  rw [List.lookup_cons]
  by_cases h : name = b.1
  · simp [h]
  · have hne : (name == b.1) = false := by simpa using h
    simp [h, hne]

theorem lastValues_eq_foldl (bindings : List (String × Value)) :
    bindings.foldl (fun acc b => rebind b.1 b.2 acc) [] = lastValues bindings := by
  induction bindings using List.reverseRecOn with
  | nil => rfl
  | append_singleton bindings b ih =>
    rw [List.foldl_append, ih, lastValues_concat]
    rfl

theorem evalLoopLets_eq (S : Setting σ κ) (lets : List (String × Expr)) :
    (evalLoopLets S [] lets : Walk σ ω _) = lastValues <$> ownValues S lets := by
  have hfold : ∀ acc, (evalLoopLets S acc lets : Walk σ ω _) =
      (List.foldl (fun acc b => rebind b.1 b.2 acc) acc) <$> ownValues S lets := by
    induction lets with
    | nil => intro acc; rfl
    | cons l rest ih =>
      intro acc
      simp only [evalLoopLets, ownValues, ih, map_eq_pure_bind, bind_assoc, pure_bind,
        List.foldl_cons]
  rw [hfold]
  exact congrArg (· <$> _) (funext lastValues_eq_foldl)

theorem evalLoopLets_bind (S : Setting σ κ) (lets : List (String × Expr))
    (body : Walk σ ω Unit) :
    (evalLoopLets S [] lets >>= (binding · body)) = ownRound S lets body := by
  rw [evalLoopLets_eq, bind_map_left, ownRound]

theorem InLoop.find? {var : Option String} {base s : Scope} (h : InLoop var base s) {name : String}
    (hl : name ≠ loopName) (hv : var ≠ some name) : s.find? name = base.find? name := by
  obtain ⟨frames⟩ := s
  obtain ⟨record, v, rfl⟩ := h
  have hl' : (name == loopName) = false := by simpa using hl
  rw [Scope.find?, List.lookup_cons, hl', Scope.find?]
  cases var with
  | none => rfl
  | some x =>
    have hx : (name == x) = false := by simpa using fun h : name = x => hv (congrArg some h.symm)
    simp [List.lookup_cons, hx]

theorem find?_setRound (var : Option String) (item : Value) (index count : Nat) (s : Scope)
    (name : String) :
    (setRound var item index count s).find? name =
      if name = loopName then some (loopRecord index count)
      else if var = some name then some item else s.find? name := by
  cases var with
  | none => simp [setRound, Scope.find?_update]
  | some x => simp [setRound, Scope.find?_update, eq_comm (a := x)]

theorem find?_roundBindings (var : Option String) (item : Value) (index count : Nat) (s : Scope)
    (name : String) :
    (s.extend (roundBindings var count (item, index))).find? name =
      if name = loopName then some (record index count)
      else if var = some name then some item else s.find? name := by
  cases var with
  | none => simp [roundBindings, Scope.extend, Scope.find?_push]
  | some x => simp [roundBindings, Scope.extend, Scope.find?_push, eq_comm (a := x)]

/-- In a round every name has the value that the bindings of the round give it outside the loop. -/
theorem InLoop.agree_setRound {var : Option String} {base s : Scope} (h : InLoop var base s)
    (item : Value) {index count : Nat} (hi : index < count) :
    (base.extend (roundBindings var count (item, index))).Agree
      (Walk.setRound var item index count s) := by
  intro name
  rw [find?_setRound, find?_roundBindings, loopRecord_eq hi]
  by_cases hl : name = loopName
  · rw [if_pos hl, if_pos hl]
  by_cases hv : var = some name
  · rw [if_pos hv, if_pos hv]
  · rw [if_neg hv, if_neg hv, h.find? hl hv]

/-- Under the frames of a loop `m` does what `n` does without them, if the scope has `P`. Unless it
fails the scope has `Q` then. -/
def Inside (var : Option String) (P Q : Scope → Scope → Prop) (m n : Walk σ ω α) : Prop :=
  ∀ u s, InLoop var u.scope s → P u.scope s → ∃ s', InLoop var u.scope s' ∧
    (after n u).scope = u.scope ∧ exec m (u.inScope s) = ((exec n u).1, (after n u).inScope s') ∧
    ∀ a, (exec n u).1 = .ok a → Q u.scope s'

namespace Inside

variable {var : Option String} {P Q R : Scope → Scope → Prop}

theorem bind {m n : Walk σ ω α} {f g : α → Walk σ ω β} (hm : Inside var P Q m n)
    (hf : ∀ a, Inside var Q R (f a) (g a)) : Inside var P R (m >>= f) (n >>= g) := by
  intro u s hs hP
  obtain ⟨s', hs', hscope, hexec, hQ⟩ := hm u s hs hP
  unfold after at hscope hexec ⊢
  rcases hu : exec n u with ⟨e | a, u'⟩ <;> rw [hu] at hscope hexec hQ
  · rw [exec_bind_error hu, exec_bind_error hexec]
    exact ⟨s', hs', hscope, rfl, fun a h => nomatch h⟩
  · obtain ⟨t, ht, hscope', hexec', hR⟩ :=
      hf a u' s' (hscope.symm ▸ hs') (hscope.symm ▸ hQ a rfl)
    rw [exec_bind_ok hu, exec_bind_ok hexec]
    exact ⟨t, hscope ▸ ht, hscope'.trans hscope, hexec', fun b hb => hscope ▸ hR b hb⟩

theorem pure (a : α) : Inside var P P (pure a : Walk σ ω α) (pure a) :=
  fun _ s hs hP => ⟨s, hs, rfl, rfl, fun _ _ => hP⟩

theorem mono {m n : Walk σ ω α} (h : Inside var P Q m n) (hQ : ∀ base s, Q base s → R base s) :
    Inside var P R m n := by
  intro u s hs hP
  obtain ⟨s', hs', hscope, hexec, hres⟩ := h u s hs hP
  exact ⟨s', hs', hscope, hexec, fun a ha => hQ _ _ (hres a ha)⟩

theorem setRound (item : Value) {index count : Nat} (hi : index < count) :
    Inside var P (fun base s => (base.extend (roundBindings var count (item, index))).Agree s)
      (onScope (setRound var item index count) : Walk σ ω Unit) (Pure.pure ()) :=
  fun _ _ hs _ => ⟨_, hs.setRound item index count, rfl, rfl, fun _ _ => hs.agree_setRound item hi⟩

end Inside

/-- Where the frames of a loop come to some bindings, they do not matter to a walk under these. -/
theorem Oblivious.inside {m : Walk σ ω Unit} (hm : Oblivious m) (var : Option String)
    (bindings : List (String × Value)) :
    Inside var (fun base s => (base.extend bindings).Agree s)
      (fun base s => (base.extend bindings).Agree s) m (Walk.binding bindings m) := by
  intro u s hs hagree
  obtain ⟨hscope, hexec⟩ := hm (u.inScope (u.scope.extend bindings)) s hagree
  have hbinding := exec_binding bindings hscope
  unfold after
  rw [hbinding]
  exact ⟨s, hs, rfl, hexec, fun _ _ => hagree⟩

section

variable (S : Setting σ κ)

theorem Oblivious.ownValues (lets : List (String × Expr)) :
    Oblivious (ownValues S lets : Walk σ ω _) := by
  induction lets with
  | nil => exact (congruence S).pure []
  | cons l rest ih =>
    exact (onHost l.2.eval).bind fun _ _ => ih.bind fun _ _ => (congruence S).pure _

variable {S} {separator body : Walk σ ω Unit}

theorem Oblivious.ownRound (lets : List (String × Expr)) (hb : Oblivious body) :
    Oblivious (ownRound S lets body) :=
  (ownValues S lets).bind fun bindings _ => hb.binding (lastValues bindings)

theorem Oblivious.unroll (lets : List (String × Expr)) (hs : Oblivious separator)
    (hb : Oblivious body) (previous : Option (List (String × Value)))
    (items : List (List (String × Value))) :
    Oblivious (unroll S lets separator body previous items) := by
  induction items generalizing previous with
  | nil => exact (congruence S).pure ()
  | cons bindings rest ih =>
    have hrest := ((hb.ownRound (S := S) lets).binding bindings).bind fun _ _ => ih (some bindings)
    cases previous with
    | none => exact ((congruence S).pure ()).bind fun _ _ => hrest
    | some p => exact (hs.binding p).bind fun _ _ => hrest

theorem Oblivious.unrolled (head : LoopHead) (hs : Oblivious separator) (hb : Oblivious body) :
    Oblivious (unrolled S head separator body) :=
  (onHost head.iterable.eval).bind fun _ _ =>
    ((congruence S).likeness.isReversed head.reversed).bind fun _ _ => hs.unroll head.lets hb none _

theorem inside_rounds (head : LoopHead) (hs : Oblivious separator) (hb : Oblivious body)
    {count : Nat} (previous : Option (List (String × Value))) (index : Nat) (items : List Value)
    (hp : previous.isSome = decide (0 < index)) (hc : index + items.length = count) :
    Inside head.var (fun base s => previous.elim True fun p => (base.extend p).Agree s)
      (fun _ _ => True) (rounds S head separator body count index items)
      (unroll S head.lets separator body previous
        ((items.zipIdx index).map (roundBindings head.var count))) := by
  induction items generalizing previous index with
  | nil => exact (Inside.pure ()).mono fun _ _ _ => trivial
  | cons item rest ih =>
    rw [List.length_cons] at hc
    let bindings := roundBindings head.var count (item, index)
    have hbody := (hb.ownRound (S := S) head.lets).inside head.var bindings
    have hround : ∀ {P}, Inside head.var P (fun _ _ => True)
        (onScope (setRound head.var item index count) >>= fun _ =>
          evalLoopLets S [] head.lets >>= fun bindings => binding bindings body >>= fun _ =>
            rounds S head separator body count (index + 1) rest)
        (binding bindings (ownRound S head.lets body) >>= fun _ =>
          unroll S head.lets separator body (some bindings)
            ((rest.zipIdx (index + 1)).map (roundBindings head.var count))) := by
      intro P
      have h := (Inside.setRound (P := P) item (by omega)).bind fun _ =>
        hbody.bind fun _ => ih (some bindings) (index + 1) (by simp) (by omega)
      rw [pure_bind] at h
      rw [← evalLoopLets_bind, bind_assoc] at h
      rwa [← evalLoopLets_bind]
    rw [List.zipIdx_cons, List.map_cons]
    cases previous with
    | none =>
      have hi : ¬ 0 < index := by simpa using hp
      simp only [rounds, if_neg hi, unroll, Option.elim, pure_bind]
      exact hround
    | some p =>
      have hi : 0 < index := by simpa using hp
      simp only [rounds, if_pos hi, unroll, Option.elim]
      exact (hs.inside head.var p).bind fun _ => hround

/-- A loop does what its rounds do when they are written out, each in a scope of its own. -/
theorem loop_eq_unrolled (head : LoopHead) (hs : Oblivious separator) (hb : Oblivious body) :
    loop S head separator body = unrolled S head separator body := by
  unfold loop unrolled
  refine bind_congr fun v => bind_congr fun backwards => ?_
  let items := if backwards then (S.coercion.asList v).reverse else S.coercion.asList v
  let opened := fun w : WalkState σ ω => w.inScope (openLoop head.var w.scope)
  let inner := rounds S head separator body items.length 0 items
  funext w
  change exec _ w = exec _ w
  obtain ⟨s, hloop, hscope, hexec, -⟩ := inside_rounds (S := S) head hs hb none 0 items rfl
    (Nat.zero_add _) w (openLoop head.var w.scope) (inLoop_openLoop head.var w.scope) trivial
  refine Prod.ext ?_ ?_
  · have hresult := (Total.onScope (closeLoop head.var)).result_ensuring inner (opened w)
    have hinner := congrArg (·.1) hexec
    exact hresult.trans hinner
  · have hafter := after_ensuring inner (onScope (closeLoop head.var)) (opened w)
    have hinner : after inner (opened w) = _ := congrArg Prod.snd hexec
    rw [hinner] at hafter
    refine hafter.trans ?_
    change ((after _ w).inScope s).inScope (closeLoop head.var s) = after _ w
    rw [hloop.closeLoop, ← hscope]
    rfl

theorem Oblivious.loop (head : LoopHead) (hs : Oblivious separator) (hb : Oblivious body) :
    Oblivious (loop S head separator body) := by
  rw [loop_eq_unrolled head hs hb]
  exact hs.unrolled head hb

end

theorem Oblivious.visit (S : Setting σ κ) (depth : Nat) (node : Node) (inChain : Bool) :
    Oblivious (visit S (renderer S) depth node inChain) :=
  (congruence S).visit (renderer S) (renderer S) (fun x _ => renderer_write S x)
    (fun head _ _ _ _ hs hb => hs.loop head hb)
    (fun node inChain _ _ h => h.surround S node inChain)
    depth node inChain

section

variable (S : Setting σ κ) (V : Visitor σ κ ω)

theorem visitAll_eq_forM (splice : Node → Walk σ ω Unit) (nodes : List Node) :
    visitAll S V splice nodes = nodes.forM (visitWith S V splice · false) := by
  induction nodes with
  | nil => rfl
  | cons node rest ih =>
    rw [visitAll, ih]
    rfl

theorem visit_loop_eq (depth : Nat) (attrs : Attributes) (head : LoopHead)
    (separator : Option Node) (body : List Node) (inChain : Bool) :
    visit S V depth (.mk attrs (.loop head separator body)) inChain =
      V.around (.mk attrs (.loop head separator body)) inChain
        (loop S head (separator.elim (pure ()) (visit S V depth · false))
          (body.forM (visit S V depth · false))) := by
  have hsep : ∀ splice, visitOption S V splice separator false =
      separator.elim (pure ()) (visitWith S V splice · false) := by
    intro splice
    cases separator <;> rfl
  cases depth <;> simp only [visit, visitWith, dispatch, visitAll_eq_forM, hsep]

end

theorem Oblivious.forM {f : Node → Walk σ ω Unit} (hf : ∀ node, Oblivious (f node))
    (S : Setting σ κ) (nodes : List Node) : Oblivious (nodes.forM f) := by
  induction nodes with
  | nil => exact (congruence S).pure ()
  | cons node rest ih => exact (hf node).bind fun _ _ => ih

/-- A loop node is rendered as its rounds are when they are written out. Each round sees the scope
around the loop with the item, the record and the loop's own bindings on top, and the separator
between two rounds sees the item and the record of the first. -/
theorem visit_loop (S : Setting σ κ) (depth : Nat) (attrs : Attributes) (head : LoopHead)
    (separator : Option Node) (body : List Node) (inChain : Bool) :
    visit S (renderer S) depth (.mk attrs (.loop head separator body)) inChain =
      surround S (.mk attrs (.loop head separator body)) inChain
        (unrolled S head (separator.elim (pure ()) (visit S (renderer S) depth · false))
          (body.forM (visit S (renderer S) depth · false))) := by
  have hvisit : ∀ node, Oblivious (visit S (renderer S) depth node false) :=
    fun node => .visit S depth node false
  have hsep : Oblivious (separator.elim (pure ()) (visit S (renderer S) depth · false)) := by
    cases separator with
    | none => exact (Oblivious.congruence S).pure ()
    | some node => exact hvisit node
  rw [visit_loop_eq, loop_eq_unrolled head hsep (.forM hvisit S body)]
  rfl

end RichText.Walk
