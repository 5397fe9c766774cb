import RichText.Proofs.Expr.Provenance
import RichText.Proofs.Walk.Propagation

namespace RichText

variable {σ κ ω α β : Type} {M : Nat × Node → Prop}

def Scope.Within (M : Nat × Node → Prop) (s : Scope) : Prop := ∀ f ∈ s.frames, f.2.Within M

namespace Scope.Within

variable {s : Scope}

theorem empty : ({} : Scope).Within M := fun _ h => absurd h List.not_mem_nil

theorem push (h : s.Within M) (name : String) {v : Value} (hv : v.Within M) :
    (s.push name v).Within M := List.forall_mem_cons.2 ⟨hv, h⟩

theorem replaceNewest {name : String} {v : Value} (hv : v.Within M) {frames : List (String × Value)}
    (h : ∀ f ∈ frames, f.2.Within M) : ∀ f ∈ Scope.replaceNewest name v frames, f.2.Within M := by
  induction frames with
  | nil => exact h
  | cons f rest ih =>
    rw [List.forall_mem_cons] at h
    unfold Scope.replaceNewest
    split
    · exact List.forall_mem_cons.2 ⟨hv, h.2⟩
    · exact List.forall_mem_cons.2 ⟨h.1, ih h.2⟩

theorem update (h : s.Within M) (name : String) {v : Value} (hv : v.Within M) :
    (s.update name v).Within M := by
  unfold Scope.update
  split
  · exact replaceNewest hv h
  · exact h.push name hv

theorem pushAll (h : s.Within M) {bindings : List (String × Value)}
    (hb : ∀ b ∈ bindings, b.2.Within M) :
    (bindings.foldl (fun s b => s.push b.1 b.2) s).Within M := by
  intro f hf
  rw [frames_pushAll, List.mem_append, List.mem_reverse] at hf
  exact hf.elim (hb f) (h f)

theorem openLoop (h : s.Within M) (var : Option String) : (Walk.openLoop var s).Within M := by
  have hnull : Value.null.Within M := Value.within_of_nil rfl
  cases var with
  | none => exact h.push Walk.loopName hnull
  | some name => exact (h.push name hnull).push Walk.loopName hnull

theorem rollback (h : s.Within M) (height : Nat) : (s.rollback height).Within M :=
  fun f hf => h f (List.mem_of_mem_drop hf)

theorem pop (h : s.Within M) (name : String) : (s.pop name).2.Within M :=
  fun f hf => h f (List.mem_of_mem_eraseP hf)

theorem closeLoop (h : s.Within M) (var : Option String) : (Walk.closeLoop var s).Within M := by
  cases var with
  | none => exact h.pop Walk.loopName
  | some name => exact (h.pop Walk.loopName).pop name

theorem find? (h : s.Within M) (name : String) : ∀ v, s.find? name = some v → v.Within M := by
  intro v hv
  obtain ⟨before, later, hframes, -⟩ := List.lookup_eq_some_iff.1 hv
  exact h (name, v) (hframes ▸ List.mem_append_right before List.mem_cons_self)

theorem setRound (h : s.Within M) (var : Option String) {item : Value} (hi : item.Within M)
    (index count : Nat) : (Walk.setRound var item index count s).Within M := by
  have hrecord : (Walk.loopRecord index count).Within M := by
    refine Value.within_ofEntries fun e he => Value.within_of_nil ?_
    simp only [List.mem_cons, List.not_mem_nil, or_false] at he
    obtain rfl | rfl | rfl | rfl | rfl := he <;> rfl
  cases var with
  | none => exact h.update Walk.loopName hrecord
  | some name => exact (h.update name hi).update Walk.loopName hrecord

end Scope.Within

structure Setting.Within (M : Nat × Node → Prop) (S : Setting σ κ) : Prop where
  env : ∀ name, Gives (fun v => ∀ a ∈ v, a.Within M) (S.env name)
  asList : ∀ v, v.Within M → ∀ item ∈ S.coercion.asList v, item.Within M
  read : ∀ target field, target.Within M → Gives (·.Within M) (S.fields.read target field)

namespace Walk

variable {S : Setting σ κ}

theorem within_rebind (name : String) {v : Value} (hv : v.Within M) {acc : List (String × Value)}
    (h : ∀ b ∈ acc, b.2.Within M) : ∀ b ∈ rebind name v acc, b.2.Within M := by
  induction acc with
  | nil => exact List.forall_mem_singleton.2 hv
  | cons b rest ih =>
    rw [List.forall_mem_cons] at h
    unfold rebind
    split
    · exact List.forall_mem_cons.2 ⟨hv, h.2⟩
    · exact List.forall_mem_cons.2 ⟨h.1, ih h.2⟩

theorem within_context (hS : S.Within M) {s : Scope} (hs : s.Within M) :
    (context S s).Within M where
  var name := by
    have hname := hs.find? name
    change Gives _ (s.lookup S.env name)
    unfold Scope.lookup
    cases h : s.find? name with
    | none => exact hS.env name
    | some v => exact .pure fun a ha => Option.some.inj ha ▸ hname v h
  readField := hS.read

/-- Where all the markup in the scope has `M` and `m` does not fail, it has `M` afterwards, and the
result has `Q`. -/
def Brings (M : Nat × Node → Prop) (Q : α → Prop) (m : Walk σ ω α) : Prop :=
  ∀ w a v, w.scope.Within M → exec m w = (.ok a, v) → v.scope.Within M ∧ Q a

namespace Brings

variable {Q : α → Prop} {R : β → Prop}

theorem pure {a : α} (h : Q a) : Brings M Q (pure a : Walk σ ω α) := by
  rintro w _ _ hw ⟨rfl, rfl⟩
  exact ⟨hw, h⟩

theorem bind {m : Walk σ ω α} {f : α → Walk σ ω β} (hm : Brings M Q m)
    (hf : ∀ a, Q a → Brings M R (f a)) : Brings M R (m >>= f) := by
  intro w b v hw h
  rcases hm' : exec m w with ⟨e | a, u⟩
  · rw [exec_bind_error hm'] at h
    cases h
  · rw [exec_bind_ok hm'] at h
    obtain ⟨hu, ha⟩ := hm w a u hw hm'
    exact hf a ha u b v hu h

theorem of_scope {m : Walk σ ω α} (h : ∀ w, (after m w).scope = w.scope) :
    Brings M (fun _ => True) m := by
  intro w a v hw hm
  have hscope := h w
  rw [after, hm] at hscope
  exact ⟨hscope ▸ hw, trivial⟩

theorem of_restores {γ : Type} {view : ω → γ} {m : Walk σ ω α} (h : Restores view m) :
    Brings M (fun _ => True) m := of_scope fun w => (h w).scope

theorem isOpen (S : Setting σ κ) (gate : Option Expr) :
    Brings M (fun _ => True) (isOpen S gate : Walk σ ω Bool) := by
  have h : Restores id (Walk.isOpen S gate : Walk σ ω Bool) :=
    (Restores.congruence S).likeness.isOpen gate
  exact of_restores h

theorem passes (S : Setting σ κ) (node : Node) (inChain : Bool) :
    Brings M (fun _ => True) (passes S node inChain : Walk σ ω Bool) := by
  cases inChain with
  | true => exact pure trivial
  | false => exact isOpen S _

theorem isReversed (S : Setting σ κ) (gate : Option Expr) :
    Brings M (fun _ => True) (isReversed S gate : Walk σ ω Bool) := by
  have h : Restores id (Walk.isReversed S gate : Walk σ ω Bool) :=
    (Restores.congruence S).likeness.isReversed gate
  exact of_restores h

theorem onScope {f : Scope → Scope} (h : ∀ s, s.Within M → (f s).Within M) :
    Brings M (fun _ => True) (onScope f : Walk σ ω Unit) := by
  rintro w _ _ hw ⟨rfl, rfl⟩
  exact ⟨h w.scope hw, trivial⟩

variable (hS : S.Within M)

include hS

theorem eval (e : Expr) : Brings M (·.Within M) (eval S e : Walk σ ω Value) := by
  rintro w _ _ hw ⟨rfl, rfl⟩
  exact ⟨hw, e.within_eval (within_context hS hw) w.host⟩

theorem evalLets (seen : List String) (lets : List (String × Expr)) :
    Brings M (fun bindings => ∀ b ∈ bindings, b.2.Within M)
      (evalLets S seen lets : Walk σ ω _) := by
  induction lets generalizing seen with
  | nil => exact .pure fun _ h => absurd h List.not_mem_nil
  | cons l rest ih =>
    obtain ⟨name, e⟩ := l
    have hrest : Brings M (fun bindings => ∀ b ∈ bindings, b.2.Within M)
        (Walk.eval S e >>= fun v => Walk.evalLets S (name :: seen) rest >>= fun vs =>
          Pure.pure ((name, v) :: vs) : Walk σ ω _) :=
      (eval hS e).bind fun v hv => (ih (name :: seen)).bind fun vs hvs =>
        .pure (List.forall_mem_cons.2 ⟨hv, hvs⟩)
    intro w bindings v hw h
    by_cases hseen : name ∈ seen
    · rw [exec_evalLets_cons_of_mem S hseen] at h
      cases h
    · rw [exec_evalLets_cons_of_notMem S hseen] at h
      exact hrest w bindings v hw h

theorem evalLoopLets {acc : List (String × Value)} (hacc : ∀ b ∈ acc, b.2.Within M)
    (lets : List (String × Expr)) :
    Brings M (fun bindings => ∀ b ∈ bindings, b.2.Within M)
      (evalLoopLets S acc lets : Walk σ ω _) := by
  induction lets generalizing acc with
  | nil => exact .pure hacc
  | cons l rest ih => exact (eval hS l.2).bind fun v hv => ih (within_rebind l.1 hv hacc)

theorem beginBody (node : Node) :
    Brings M (fun _ => True) (beginBody S node : Walk σ (Journal σ κ) Unit) := by
  refine (evalLets hS [] node.attrs.lets).bind fun bindings hb =>
    (onScope fun s hs => hs.pushAll hb).bind fun _ _ => ?_
  cases node.attrs.style with
  | none => exact .pure trivial
  | some d => exact of_scope fun _ => rfl

theorem loopItems (head : LoopHead) :
    Brings M (fun items => ∀ item ∈ items, item.Within M)
      (loopItems S head : Walk σ (Journal σ κ) _) := by
  refine (eval hS head.iterable).bind fun v hv =>
    (isReversed S head.reversed).bind fun backwards _ => .pure ?_
  cases backwards with
  | false => exact hS.asList v hv
  | true => exact fun item hi => hS.asList v hv item (List.mem_reverse.1 hi)

section

variable {separator body : Walk σ (Journal σ κ) Unit} (hs : Restores Journal.path separator)
  (head : LoopHead) (count index : Nat) {item : Value} (hi : item.Within M)

include hs hi

theorem roundLets : Brings M (fun bindings => ∀ b ∈ bindings, b.2.Within M)
    (roundLets S head separator count index item) := by
  have hrest : Brings M (fun bindings => ∀ b ∈ bindings, b.2.Within M)
      (Walk.onScope (setRound head.var item index count) >>= fun _ =>
        Walk.evalLoopLets S [] head.lets : Walk σ (Journal σ κ) _) :=
    (onScope fun s h => h.setRound head.var hi index count).bind fun _ _ =>
      evalLoopLets hS (fun _ hb => absurd hb List.not_mem_nil) head.lets
  unfold Walk.roundLets
  by_cases hindex : 0 < index
  · simp only [hindex, if_true]
    exact (of_restores hs).bind fun _ _ => hrest
  · simp only [hindex, if_false]
    exact hrest

theorem beginRound : Brings M (fun _ => True) (beginRound S head separator count index item) :=
  (roundLets hS hs head count index hi).bind fun _ hb => onScope fun _ h => h.pushAll hb

theorem round (hb : Restores Journal.path body) :
    Brings M (fun _ => True) (round S head separator body count index item) :=
  (roundLets hS hs head count index hi).bind fun bindings _ => of_restores (hb.binding bindings)

end

end Brings

section

variable {w v t : WalkState σ (Journal σ κ)} (hw : w.scope.Within M)

include hw

theorem Turns.within (hS : S.Within M) {head : LoopHead}
    {separator body : Walk σ (Journal σ κ) Unit} (hs : Restores Journal.path separator)
    (hb : Restores Journal.path body) {count index : Nat} {items : List Value} {inBody : Bool}
    (h : Turns S head separator body count index items w inBody v)
    (hi : ∀ item ∈ items, item.Within M) : v.scope.Within M := by
  induction h with
  | separator => exact hw
  | body hbegin => exact (Brings.beginRound hS hs _ _ _ (hi _ List.mem_cons_self) _ _ _ hw hbegin).1
  | later hround _ ih =>
    rw [List.forall_mem_cons] at hi
    exact ih (Brings.round hS hs _ _ _ hi.1 hb _ _ _ hw hround).1 hi.2

theorem Untaken.within {branches : List Node} (h : Untaken S branches w v) :
    v.scope.Within M := by
  induction h with
  | nil => exact hw
  | cons hgate _ ih =>
    exact ih (Brings.isOpen S _ _ _ _ hw hgate).1

theorem Admitted.within {node : Node} {inChain : Bool} {pending : List (Interceptor σ)}
    (h : Admitted S node inChain w pending t) : t.scope.Within M := by
  obtain ⟨hopen, hoffer, hpass⟩ := h
  rename_i opened offered passed
  have hopened : opened.scope.Within M := (Brings.isOpen S _ _ _ _ hw hopen).1
  have hoffered : offered.scope.Within M :=
    (Brings.of_restores (Restores.heedAll node) _ _ _ (by exact hopened) hoffer).1
  exact (Brings.passes S node inChain _ _ _ hoffered hpass).1

theorem Admitted.within_begin {node : Node} {inChain : Bool} {pending : List (Interceptor σ)}
    (h : Admitted S node inChain w pending t) (hS : S.Within M)
    (hb : exec (beginBody S node) t = (.ok (), v)) : v.scope.Within M :=
  (Brings.beginBody hS _ _ _ _ (h.within hw) hb).1

theorem Comes.within (hS : S.Within M) {splice : Node → Walk σ (Journal σ κ) Unit}
    (hs : ∀ node, Restores Journal.path (splice node)) {content : Content} {part : Node}
    {inPart : Bool} (h : Comes S splice content w part inPart v) : v.scope.Within M := by
  have hvisit : ∀ node inChain,
      Restores Journal.path (visitWith S (chronicler S) splice node inChain) :=
    Restores.visitWith S (chronicler S) (Restores.chronicler_write S)
      (fun node inChain _ => Restores.observed S node inChain) hs
  have hall : ∀ nodes, Restores Journal.path (visitAll S (chronicler S) splice nodes) := by
    intro nodes
    induction nodes with
    | nil => exact (Restores.congruence S).pure ()
    | cons node rest ih => exact (hvisit node false).bind fun _ _ => ih
  have hoption : ∀ node?, Restores Journal.path
      (visitOption S (chronicler S) splice node? false) := by
    intro node?
    cases node? with
    | none => exact (Restores.congruence S).pure ()
    | some node => exact hvisit node false
  cases h with
  | child h => exact (Brings.of_restores (hall _) _ _ _ hw h).1
  | branch hu h =>
    exact (Brings.isOpen S _ _ _ _ (hu.within hw) h).1
  | otherwise hu => exact hu.within hw
  | case hvalue => exact (Brings.eval hS _ _ _ _ hw hvalue).1
  | unmatched hvalue => exact (Brings.eval hS _ _ _ _ hw hvalue).1
  | separator hitems ht =>
    obtain ⟨hu, hi⟩ := Brings.loopItems hS _ _ _ _ hw hitems
    exact ht.within (hu.openLoop _) hS (hvisit _ false) (hall _) hi
  | body hitems ht h =>
    obtain ⟨hu, hi⟩ := Brings.loopItems hS _ _ _ _ hw hitems
    have ht' := ht.within (hu.openLoop _) hS (hoption _) (hall _) hi
    exact (Brings.of_restores (hall _) _ _ _ ht' h).1

end

end Walk

end RichText
