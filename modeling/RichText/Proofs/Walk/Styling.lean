import Mathlib
import RichText.Proofs.Walk.Breaks
import RichText.Proofs.Walk.Reordering
import RichText.Proofs.Walk.Transparency

namespace RichText

/-- Attributes without an interceptor, which differ at most in the style. Either of them may have
none. -/
def Attributes.Restyled (attrs attrs' : Attributes) : Prop :=
  attrs.interceptor = none ∧ ∃ style, attrs' = { attrs with style }

theorem Journal.written_log {σ κ : Type} {es : List (Event σ κ)}
    (h : ∀ e ∈ es, ∀ path x, e ≠ .wrote path x) (j : Journal σ κ) :
    (j.log es).written = j.written := by
  rw [← map_writes .empty, writes_log h, map_writes]

theorem Journal.written_log_wrote {σ κ : Type} (j : Journal σ κ) (path : List Layer)
    (x : Write κ) : (j.log [.wrote path x]).written = j.written ++ [x] := by
  rw [← map_writes .empty, writes_log_wrote, List.map_append, map_writes]
  rfl

theorem Journal.plainText_entries {σ : Type} (slot : Slot) {j j' : Journal σ Component}
    (h : j.written = j'.written) :
    (Flat.entries Component.factory slot (j.writes slot.base)).map Component.plainText =
      (Flat.entries Component.factory slot (j'.writes slot.base)).map Component.plainText := by
  have herase : ∀ j : Journal σ Component, (j.writes slot.base).map (fun w => (.empty, w.2)) =
      j.written.map fun x => ((.empty, x) : Style × Write Component) := by
    intro j
    rw [← map_writes slot.base, List.map_map]
    rfl
  rw [Flat.plainText_entries_unstyled, herase, h, ← herase, ← Flat.plainText_entries_unstyled]

namespace Walk

variable {σ κ α β : Type}

/-- Two chronicles that have come equally far and have had the same things written, in whatever
styles. -/
structure Abreast (P : InterceptorStack σ → Prop) (v u : WalkState σ (Journal σ κ)) : Prop where
  host : v.host = u.host
  scope : v.scope = u.scope
  interceptors : v.interceptors = u.interceptors
  written : v.out.written = u.out.written
  admits : P v.interceptors

theorem Abreast.symm {P : InterceptorStack σ → Prop} {v u : WalkState σ (Journal σ κ)}
    (h : Abreast P v u) : Abreast P u v :=
  ⟨h.host.symm, h.scope.symm, h.interceptors.symm, h.written.symm, h.interceptors ▸ h.admits⟩

abbrev Verbatim (P : InterceptorStack σ → Prop) (m n : Walk σ (Journal σ κ) α) : Prop :=
  Tracks (Abreast P) m n

namespace Verbatim

variable {P : InterceptorStack σ → Prop} {S : Setting σ κ} {m n : Walk σ (Journal σ κ) Unit}

theorem symm {m n : Walk σ (Journal σ κ) α} (h : Verbatim P m n) : Verbatim P n m := by
  intro u v huv
  obtain ⟨hresult, hstate⟩ := h v u huv.symm
  exact ⟨hresult.symm, hstate.symm⟩

theorem onHost (act : Context σ → StateM σ α) :
    Verbatim P (onHost S act : Walk σ (Journal σ κ) α) (onHost S act) := by
  rintro ⟨host, scope, styles, interceptors, out⟩ u ⟨rfl, rfl, rfl, hwritten, hadmits⟩
  exact ⟨rfl, rfl, rfl, rfl, hwritten, hadmits⟩

theorem scopeLikeness (P : InterceptorStack σ → Prop) (S : Setting σ κ) : ScopeLikeness S S
    fun _ (m : Walk σ (Journal σ κ) _) (n : Walk σ (Journal σ κ) _) => Verbatim P m n where
  toLikeness := Tracks.likeness rfl rfl (fun _ => onHost _) fun _ => onHost _
  lookScope f := Tracks.look fun _ _ h => congrArg f h.scope
  onScope f _ _ h := ⟨rfl, h.host, congrArg f h.scope, h.interceptors, h.written, h.admits⟩
  ensuring := Tracks.ensuring

theorem note {e e' : Event σ κ} (he : ∀ path x, e ≠ .wrote path x)
    (he' : ∀ path x, e' ≠ .wrote path x) : Verbatim P (note e) (note e') := by
  refine fun v u h => ⟨rfl, h.host, h.scope, h.interceptors, ?_, h.admits⟩
  change (v.out.log [e]).written = (u.out.log [e']).written
  rw [Journal.written_log (by simpa using he), Journal.written_log (by simpa using he'), h.written]

theorem write (x : Write κ) :
    Verbatim P ((chronicler S).write x) ((chronicler S).write x) := by
  refine fun v u h => ⟨rfl, h.host, h.scope, h.interceptors, ?_, h.admits⟩
  change (v.out.log [.wrote v.out.path x]).written = (u.out.log [.wrote u.out.path x]).written
  rw [Journal.written_log_wrote, Journal.written_log_wrote, h.written]

theorem layered_left (hstatic : S.Static) (delta : Option StyleDelta) (h : Verbatim P m n) :
    Verbatim P (layered S delta m) n := by
  cases delta with
  | none => exact h
  | some d =>
    intro v u hvu
    have hown : exec (Walk.onHost S d.evaluate) v = (.ok _, v) :=
      exec_onHost_of_steady (StyleDelta.steady_evaluate (steady_context hstatic v.scope) d)
    let own := ((d.evaluate (context S v.scope)).run v.host).1
    let below : WalkState σ (Journal σ κ) :=
      { v with out := { v.out with path := ⟨d.reset, own⟩ :: v.out.path } }
    let leave : Walk σ (Journal σ κ) Unit := onOut fun j => { j with path := j.path.tail }
    have hexec : exec (layered S (some d) m) v = exec (ensuring m leave) below :=
      exec_bind_ok hown _
    obtain ⟨hresult, hstate⟩ := h below u ⟨hvu.host, hvu.scope, hvu.interceptors, hvu.written,
      hvu.admits⟩
    unfold after
    rw [hexec]
    refine ⟨((Total.onOut _).result_ensuring m below).trans hresult, ?_⟩
    change Abreast P (after (ensuring m leave) below) _
    rw [after_ensuring]
    exact ⟨hstate.host, hstate.scope, hstate.interceptors, hstate.written, hstate.admits⟩

theorem layered (hstatic : S.Static) (delta delta' : Option StyleDelta) (h : Verbatim P m n) :
    Verbatim P (layered S delta m) (layered S delta' n) :=
  ((h.layered_left hstatic delta).symm.layered_left hstatic delta').symm

theorem entered (hstatic : S.Static) {node node' : Node} (inChain : Bool)
    (hif : node.attrs.ifCond = node'.attrs.ifCond) (hlets : node.attrs.lets = node'.attrs.lets)
    (h : Verbatim P m n) :
    Verbatim P (entered S node inChain m) (entered S node' inChain n) := by
  have hR := scopeLikeness P S
  refine (hR.passes hif inChain).bind fun passed _ =>
    (note (by simp) (by simp)).bind fun _ _ => ?_
  cases passed with
  | false => exact Tracks.pure ()
  | true =>
    rw [if_pos rfl, if_pos rfl, hlets]
    exact hR.bound _ (h.layered hstatic _ _)

theorem noted (act : Context σ → StateM σ α) {e : Context σ → α → Event σ κ}
    (he : ∀ ctx a path x, e ctx a ≠ .wrote path x) :
    Verbatim P (noted S act e) (noted S act e) := by
  rintro ⟨host, scope, styles, interceptors, out⟩ u ⟨rfl, rfl, rfl, hwritten, hadmits⟩
  refine ⟨rfl, rfl, rfl, rfl, ?_, hadmits⟩
  change (out.log [e (context S u.scope) _]).written = (u.out.log [e (context S u.scope) _]).written
  rw [Journal.written_log (by simpa using he _ _), Journal.written_log (by simpa using he _ _),
    hwritten]

theorem attending : Attending S S
    fun _ (m n : Walk σ (Journal σ κ) _) => Verbatim (fun _ => True) m n where
  interceptors := rfl
  pure := Tracks.pure
  bind hm hf := Tracks.bind hm fun a _ => hf a
  ensuring := Tracks.ensuring
  look f := Tracks.look fun _ _ h => congrArg f h.interceptors
  onInterceptors f _ _ h :=
    ⟨rfl, h.host, h.scope, congrArg f h.interceptors, h.written, trivial⟩
  noted := noted

theorem observed (hstatic : S.Static) {node node' : Node} (inChain : Bool)
    (huse : node.attrs.useWhen = node'.attrs.useWhen)
    (hif : node.attrs.ifCond = node'.attrs.ifCond) (hlets : node.attrs.lets = node'.attrs.lets)
    (hattended : ∀ {m n : Walk σ (Journal σ κ) Unit}, Verbatim P m n →
      Verbatim P (attended S node (heedAll S node) (deliver S node) m)
        (attended S node' (heedAll S node') (deliver S node') n))
    (h : Verbatim P m n) : Verbatim P (observed S node inChain m) (observed S node' inChain n) := by
  unfold Walk.observed
  rw [huse]
  refine ((scopeLikeness _ S).isOpen _).bind fun opened _ =>
    (note (by simp) (by simp)).bind fun _ _ => ?_
  cases opened with
  | false => exact Tracks.pure ()
  | true =>
    exact Tracks.ensuring (hattended (h.entered hstatic inChain hif hlets))
      (note (by simp) (by simp))

theorem attended_idle {node node' : Node} (hn : node.attrs.interceptor = none)
    (hn' : node'.attrs.interceptor = none) (h : Verbatim Concur.Idle m n) :
    Verbatim Concur.Idle (Walk.attended S node (heedAll S node) (Walk.deliver S node) m)
      (Walk.attended S node' (heedAll S node') (Walk.deliver S node') n) := by
  intro v u hvu
  obtain ⟨hresult, hstate⟩ := h v u hvu
  have hidle := hvu.symm.admits
  unfold after at hstate ⊢
  rw [exec_attended_idle S hn rfl (exec_heedAll_idle S node hvu.admits) hstate.admits,
    exec_attended_idle S hn' rfl (exec_heedAll_idle S node' hidle) hstate.symm.admits]
  exact ⟨hresult, hstate⟩

theorem observed_idle (hstatic : S.Static) {attrs attrs' : Attributes}
    {content content' : Content} (inChain : Bool) (ha : attrs.Restyled attrs')
    (h : Verbatim Concur.Idle m n) :
    Verbatim Concur.Idle (Walk.observed S (.mk attrs content) inChain m)
      (Walk.observed S (.mk attrs' content') inChain n) := by
  obtain ⟨hn, style, rfl⟩ := ha
  exact observed hstatic inChain rfl rfl rfl (attended_idle hn hn) h

theorem of_restores {m n : Walk σ (Journal σ κ) Unit} (h : Verbatim (fun _ => True) m n)
    (hm : Restores Journal.path m) : Verbatim P m n := by
  intro v u hvu
  obtain ⟨hresult, hstate⟩ := h v u ⟨hvu.host, hvu.scope, hvu.interceptors, hvu.written, trivial⟩
  exact ⟨hresult, hstate.host, hstate.scope, hstate.interceptors, hstate.written,
    (hm v).interceptors ▸ hvu.admits⟩

theorem visit_self (hstatic : S.Static) (depth : Nat) (node : Node) (inChain : Bool) :
    Verbatim (fun _ => True) (visit S (chronicler (κ := κ) S) depth node inChain)
      (visit S (chronicler S) depth node inChain) := by
  have hR := scopeLikeness (κ := κ) (fun _ => True) S
  exact hR.visit (chronicler S) (chronicler S) Node.alike_of_eq (fun x _ => write x)
    (fun head _ _ _ _ _ hh => hh ▸ hR.loop head _ _ _ _)
    (fun node _ inChain _ _ hn => hn ▸
      observed hstatic inChain rfl rfl rfl (attending.attended node)) (fun _ => rfl) depth rfl
    inChain

/-- Markup that is spliced in is the same on both sides and may carry interceptors. -/
theorem visit_restyled (hstatic : S.Static) (depth : Nat) {node node' : Node}
    (h : node.Like Attributes.Restyled Eq node') (inChain : Bool) :
    Verbatim Concur.Idle (visit S (chronicler (κ := κ) S) depth node inChain)
      (visit S (chronicler S) depth node' inChain) := by
  have hR := scopeLikeness (κ := κ) Concur.Idle S
  have hvisit := hR.visitWith (chronicler S) (chronicler S)
    (N := Node.Like Attributes.Restyled Eq) (H := Eq)
    (fun _ _ h => by
      obtain ⟨⟨-, style, rfl⟩, hc⟩ := h
      exact ⟨rfl, hc⟩)
    (fun x _ => write x) (fun head _ _ _ _ _ hh => hh ▸ hR.loop head _ _ _ _)
    (fun _ _ inChain _ _ h => by
      obtain ⟨ha, -⟩ := h
      exact observed_idle hstatic inChain ha)
  cases depth with
  | zero => exact hvisit _ _ (fun _ => hR.throw _) h inChain
  | succ depth =>
    exact hvisit _ _ (fun node => (visit_self hstatic depth node false).of_restores
      (Restores.visit_chronicler S depth node false)) h inChain

end Verbatim

/-- Styles are of no consequence to text. If any of those in a tree are deleted, or changed, a
render ends as it did, with as many entries, and each of them has the same text. -/
theorem plainText_render_restyled {S : Setting σ Component} (hstatic : S.Static)
    {root root' : Node} (h : root.Like Attributes.Restyled Eq root') (depth : Nat) (host : σ) :
    (render S.building depth root host).1.map (·.map Component.plainText) =
        (render S.building depth root' host).1.map (·.map Component.plainText) ∧
      (render S.building depth root host).2 = (render S.building depth root' host).2 := by
  obtain ⟨hresult, hstate⟩ : (chronicle S.building depth root host).1 =
        (chronicle S.building depth root' host).1 ∧
      Abreast Concur.Idle (chronicle S.building depth root host).2
        (chronicle S.building depth root' host).2 :=
    Verbatim.visit_restyled (S := S.building) ⟨hstatic.env, hstatic.fields⟩ depth h false
      { host, out := {} } { host, out := {} } ⟨rfl, rfl, rfl, rfl, rfl⟩
  rw [render_eq, render_eq, hresult]
  refine ⟨?_, hstate.host⟩
  cases (chronicle S.building depth root' host).1 with
  | error e => rfl
  | ok _ => exact congrArg Except.ok (Journal.plainText_entries S.slot hstate.written)

def emphatic (style : Option StyleDelta) : Node :=
  .mk {} (.container
    [.mk { style } (.leaf (.text "a")),
      .mk { style := some { decorations := [(.bold, .atom (.bool true))] } } (.leaf (.text "b")),
      .mk {} .lineBreak, .mk {} (.leaf (.text "c"))])

theorem plainText_render_restyled_emphatic :
    attentive.Static ∧
      (emphatic (some { decorations := [(.bold, .atom (.bool true))] })).Like
        Attributes.Restyled Eq (emphatic none) ∧
      (render (Setting.building { attentive with slot := .lore }) 0
          (emphatic (some { decorations := [(.bold, .atom (.bool true))] })) ()).1.map
            (·.map Component.plainText) =
        (render (Setting.building { attentive with slot := .lore }) 0 (emphatic none) ()).1.map
          (·.map Component.plainText) ∧
      (render (Setting.building { attentive with slot := .lore }) 0 (emphatic none) ()).1.map
        (·.map Component.plainText) = .ok ["ab", "c"] := by
  have hstatic : attentive.Static := static_attentive
  have hself : ∀ {attrs : Attributes}, attrs.interceptor = none → attrs.Restyled attrs :=
    fun h => ⟨h, _, rfl⟩
  have hlike : (emphatic (some { decorations := [(.bold, .atom (.bool true))] })).Like
      Attributes.Restyled Eq (emphatic none) :=
    .mk (hself rfl) (.container (.cons (.mk ⟨rfl, none, rfl⟩ (.leaf _)) (.cons
      (.mk (hself rfl) (.leaf _)) (.cons (.mk (hself rfl) .lineBreak) (.cons
      (.mk (hself rfl) (.leaf _)) .nil)))))
  refine ⟨hstatic, hlike, ?_, ?_⟩
  · exact (plainText_render_restyled (S := { attentive with slot := .lore })
      ⟨hstatic.env, hstatic.fields⟩ hlike 0 ()).1
  · cbv

end Walk

end RichText
