import Mathlib.Data.List.Nodup
import RichText.Proofs.Expr.Steady
import RichText.Proofs.Walk.Exec

namespace RichText

variable {σ κ ω α : Type}

theorem Scope.static_lookup {base : Environment σ} (h : base.Static) (s : Scope) :
    (s.lookup base).Static := by
  obtain ⟨values, hvalues⟩ := h
  refine ⟨fun name => (s.find? name).or (values name), fun name host => ?_⟩
  simp only [Scope.lookup]
  cases s.find? name with
  | none => exact hvalues name host
  | some v => rfl

/-- Neither the look-up of a name nor the reading of a field depends on the state of the host or
changes it. -/
structure Setting.Static (S : Setting σ κ) : Prop where
  env : S.env.Static
  fields : S.fields.Static

namespace Walk

variable {S : Setting σ κ}

theorem steady_context (h : S.Static) (scope : Scope) : (context S scope).Steady where
  var name := by
    obtain ⟨values, hvalues⟩ := Scope.static_lookup h.env scope
    exact ⟨values name, hvalues name⟩
  readField target field := by
    obtain ⟨values, hvalues⟩ := h.fields
    exact ⟨values target field, hvalues target field⟩

theorem exec_onHost_of_steady {act : Context σ → StateM σ α} {w : WalkState σ ω}
    (h : Steady (act (context S w.scope))) :
    exec (onHost S act) w = (.ok ((act (context S w.scope)).run w.host).1, w) := by
  rw [exec_onHost, h.run_eq w.host w.host]

def valueAt (S : Setting σ κ) (w : WalkState σ ω) (e : Expr) : Value :=
  ((e.eval (context S w.scope)).run w.host).1

def valuesAt (S : Setting σ κ) (w : WalkState σ ω) (lets : List (String × Expr)) :
    List (String × Value) :=
  lets.map fun l => (l.1, valueAt S w l.2)

theorem names_valuesAt (S : Setting σ κ) (w : WalkState σ ω) (lets : List (String × Expr)) :
    (valuesAt S w lets).map Prod.fst = lets.map Prod.fst := by
  rw [valuesAt, List.map_map]
  rfl

theorem rebind_of_notMem {name : String} {acc : List (String × Value)}
    (hname : name ∉ acc.map Prod.fst) (v : Value) : rebind name v acc = acc ++ [(name, v)] := by
  induction acc with
  | nil => rfl
  | cons b rest ih =>
    rw [List.map_cons, List.mem_cons, not_or] at hname
    rw [rebind, if_neg (Ne.symm hname.1), ih hname.2]
    rfl

section

variable (h : S.Static) (w : WalkState σ ω)

include h

theorem exec_eval_of_static (e : Expr) : exec (eval S e) w = (.ok (valueAt S w e), w) :=
  exec_onHost_of_steady (Expr.steady_eval (steady_context h w.scope) e)

theorem exec_evalLets_of_static {lets : List (String × Expr)} (hn : (lets.map Prod.fst).Nodup)
    {seen : List String} (hs : ∀ l ∈ lets, l.1 ∉ seen) :
    exec (evalLets S seen lets) w = (.ok (valuesAt S w lets), w) := by
  induction lets generalizing seen with
  | nil => rfl
  | cons l rest ih =>
    obtain ⟨name, e⟩ := l
    rw [List.map_cons, List.nodup_cons] at hn
    rw [List.forall_mem_cons] at hs
    have hfresh : ¬ seen.contains name = true := by simpa using hs.1
    have hrest := forall_notMem_cons hn.1 hs.2
    simp only [evalLets, hfresh]
    change exec (eval S e >>= _) w = _
    rw [exec_bind_ok (exec_eval_of_static h w e), exec_bind_ok (ih hn.2 hrest)]
    rfl

theorem exec_evalLoopLets_of_static {lets : List (String × Expr)} {acc : List (String × Value)}
    (hn : (acc.map Prod.fst ++ lets.map Prod.fst).Nodup) :
    exec (evalLoopLets S acc lets) w = (.ok (acc ++ valuesAt S w lets), w) := by
  induction lets generalizing acc with
  | nil =>
    rw [evalLoopLets, exec_pure, valuesAt, List.map_nil, List.append_nil]
  | cons l rest ih =>
    obtain ⟨name, e⟩ := l
    have hfresh : name ∉ acc.map Prod.fst := fun hmem =>
      (List.nodup_append.1 hn).2.2 name hmem name List.mem_cons_self rfl
    have hrest : ((acc ++ [(name, valueAt S w e)]).map Prod.fst ++ rest.map Prod.fst).Nodup := by
      simpa using hn
    rw [evalLoopLets, exec_bind_ok (exec_eval_of_static h w e), rebind_of_notMem hfresh, ih hrest,
      List.append_assoc]
    rfl

end

end Walk

end RichText
