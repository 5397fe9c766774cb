import RichText.Proofs.Walk.Lockstep
import RichText.Proofs.Walk.Logs

namespace RichText.Walk

variable {σ κ : Type} {S : Setting σ κ}

/-- The visits that are open behind an event if those of `visits` were in front of it, the innermost
first. -/
def openAfter (visits : List Node) : Event σ κ → List Node
  | .useGate node true => node :: visits
  | .left _ => visits.tail
  | _ => visits

def openVisits (visits : List Node) (es : List (Event σ κ)) : List Node := es.foldl openAfter visits

theorem openVisits_append (visits : List Node) (es es' : List (Event σ κ)) :
    openVisits visits (es ++ es') = openVisits (openVisits visits es) es' := List.foldl_append

/-- Whoever is told of a node by an event is told of that of the innermost visit that is open then,
and is carried by the node of an open one. -/
def Told (S : Setting σ κ) (visits : List Node) (e : Event σ κ) : Prop :=
  ∀ i m, e.notice = some (i, m) → visits.head? = some m ∧ ∃ carrier ∈ visits, i ∈ carried S carrier

theorem told_of_notice {visits : List Node} {e : Event σ κ} (h : e.notice = none) :
    Told S visits e := by
  intro i m hnotice
  rw [h] at hnotice
  cases hnotice

def AllTold (S : Setting σ κ) : List Node → List (Event σ κ) → Prop
  | _, [] => True
  | visits, e :: es => Told S visits e ∧ AllTold S (openAfter visits e) es

theorem allTold_append {visits : List Node} {es es' : List (Event σ κ)} :
    AllTold S visits (es ++ es') ↔ AllTold S visits es ∧ AllTold S (openVisits visits es) es' := by
  induction es generalizing visits with
  | nil => exact (iff_of_eq (true_and _)).symm
  | cons e rest ih =>
    rw [List.cons_append, AllTold, AllTold, ih, and_assoc]
    rfl

structure Balanced (S : Setting σ κ) (visits : List Node) (es : List (Event σ κ)) : Prop where
  told : AllTold S visits es
  settled : openVisits visits es = visits

namespace Balanced

variable {visits : List Node} {node : Node} {es es' : List (Event σ κ)}

theorem nil : Balanced S visits ([] : List (Event σ κ)) := ⟨trivial, rfl⟩

theorem single {e : Event σ κ} (h : Told S visits e) (ho : openAfter visits e = visits) :
    Balanced S visits [e] := ⟨⟨h, trivial⟩, ho⟩

theorem append (h : Balanced S visits es) (h' : Balanced S visits es') :
    Balanced S visits (es ++ es') := by
  constructor
  · rw [allTold_append, h.settled]
    exact ⟨h.told, h'.told⟩
  · rw [openVisits_append, h.settled, h'.settled]

theorem of_own (h : Own (activeIn S (node :: visits)) node es) :
    Balanced S (node :: visits) es := by
  induction es with
  | nil => exact nil
  | cons e rest ih =>
    obtain ⟨i, hi, hnotice⟩ := h e List.mem_cons_self
    have htold : Told S (node :: visits) e := by
      intro j m hnotice'
      obtain ⟨rfl, rfl⟩ : i = j ∧ node = m := by simpa using hnotice.symm.trans hnotice'
      exact ⟨rfl, List.mem_flatMap.1 (List.mem_reverse.1 hi)⟩
    have hopen : openAfter (node :: visits) e = node :: visits := by
      cases e <;> first | rfl | cases hnotice
    exact (single htold hopen).append (ih fun e' he => h e' (List.mem_cons_of_mem e he))

theorem visit (h : Balanced S (node :: visits) es) :
    Balanced S visits (.useGate node true :: (es ++ [.left node])) := by
  constructor
  · refine ⟨told_of_notice rfl, allTold_append.2 ⟨h.told, ?_⟩⟩
    exact ⟨told_of_notice rfl, trivial⟩
  · change openVisits (node :: visits) (es ++ [.left node]) = visits
    rw [openVisits_append, h.settled]
    rfl

end Balanced

mutual

theorem Visit.balanced {depth : Nat} {visits : List Node} {path : List Layer}
    {v : WalkState σ (Journal σ κ)} {node : Node} {inChain : Bool} {es : List (Event σ κ)} :
    Visit S depth visits path v node inChain es → Balanced S visits es
  | .shut _ => .single (told_of_notice rfl) rfl
  | .vetoed ho => (Balanced.of_own ho.offering.own).visit
  | .accepted ho he =>
    (((Balanced.of_own ho.offering.own).append he.balanced).append
      (.of_own (own_afters ho.offering.pending_subset _ _))).visit

theorem Entry.balanced {depth : Nat} {visits : List Node} {path : List Layer}
    {v : WalkState σ (Journal σ κ)} {node : Node} {inChain : Bool} {es : List (Event σ κ)} :
    Entry S depth visits path v node inChain es → Balanced S visits es
  | .gated _ => .single (told_of_notice rfl) rfl
  | .failed _ _ => .single (told_of_notice rfl) rfl
  | .passed _ _ _ _ h _ => (Balanced.single (told_of_notice rfl) rfl).append h.balanced

theorem Contents.balanced {depth : Nat} {visits : List Node} {path : List Layer}
    {w : WalkState σ (Journal σ κ)} {content : Content} {es : List (Event σ κ)} :
    Contents S depth visits path w content es → Balanced S visits es
  | .nil => .nil
  | .wrote h _ => h.balanced.append (.single (told_of_notice rfl) rfl)
  | .part h _ _ hv => h.balanced.append hv.balanced
  | .spliced _ hv => hv.balanced

end

/-- Interceptors are told of nodes in a balanced way, however a render ends. The log is that of the
render: both end alike and leave the host in the same state. All visits are closed in the end, and
an interceptor is only told of a node while the visit of that node is the innermost that is open,
and one is open, of this node or of one around it, that carries the interceptor. -/
theorem protocol_of_render (S : Setting σ κ) (depth : Nat) (root : Node) (host : σ) :
    ((render S depth root host).1.map fun _ => ()) = (chronicle S depth root host).1 ∧
      (render S depth root host).2 = (chronicle S depth root host).2.host ∧
      Visit S depth [] [] { host, out := {} } root false
        (chronicle S depth root host).2.out.events ∧
      openVisits [] (chronicle S depth root host).2.out.events = [] ∧
      ∀ earlier e later, (chronicle S depth root host).2.out.events = earlier ++ e :: later →
        ∀ i m, e.notice = some (i, m) → (openVisits [] earlier).head? = some m ∧
          ∃ carrier ∈ openVisits [] earlier, i ∈ carried S carrier := by
  obtain ⟨hresult, hhost⟩ := render_agrees S depth root host
  have hvisit := visit_chronicle S depth root host
  refine ⟨hresult, hhost, hvisit, hvisit.balanced.settled, fun earlier e later heq => ?_⟩
  have htold := hvisit.balanced.told
  rw [heq, allTold_append] at htold
  exact htold.2.1

end RichText.Walk
