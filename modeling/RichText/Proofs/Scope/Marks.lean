import Mathlib.Data.List.DropRight
import Mathlib.Data.List.Nodup
import RichText.Proofs.Scope.Independence

namespace RichText.Scope

/-- A mark, and beside its height what a scope does not note of it. -/
structure Mark where
  height : Nat
  /-- The frames that were live, by the times of their pushes, the newest first. -/
  live : List Nat
  /-- No rollback has gone below the mark since. -/
  intact : Bool := true
  deriving DecidableEq

/-- A change to one name, a new mark, or the rollback to the `i`-th of the marks. -/
inductive Action where
  | step (x : Step)
  | mark
  | rollback (i : Nat)

structure Session where
  scope : Scope := {}
  /-- When each frame was pushed, in the order of the frames. -/
  born : List Nat := []
  /-- When the frames were pushed that have been popped. -/
  popped : List Nat := []
  marks : List Mark := []
  time : Nat := 0

namespace Session

/-- The frames, each with the time of its push. -/
def live (w : Session) : List (Nat × String × Value) := w.born.zip w.scope.frames

def newest (w : Session) (name : String) : Nat := w.scope.frames.findIdx (·.1 == name)

def bornAfter (w : Session) : Step → List Nat
  | .push .. => w.time :: w.born
  | .update name _ => if w.scope.isShadowed name then w.born else w.time :: w.born
  | .pop name => w.born.eraseIdx (w.newest name)

def poppedBy (w : Session) : Step → List Nat
  | .pop name => (w.born[w.newest name]?).toList
  | _ => []

def step (w : Session) (x : Step) : Session :=
  { w with
    scope := (x.perform.run w.scope).2
    born := w.bornAfter x
    popped := w.poppedBy x ++ w.popped
    time := w.time + 1 }

def mark (w : Session) : Session :=
  { w with marks := w.marks ++ [{ height := w.scope.depth, live := w.born }] }

def rollbackTo (w : Session) (height : Nat) : Session :=
  { w with
    scope := w.scope.rollback height
    born := w.born.drop (w.scope.depth - height)
    marks := w.marks.map fun m => { m with intact := m.intact && m.height ≤ height } }

def act (w : Session) : Action → Session
  | .step x => w.step x
  | .mark => w.mark
  | .rollback i => (w.marks[i]?).elim w fun m => w.rollbackTo m.height

def run (actions : List Action) : Session := actions.foldl act {}

/-- The frames that were live when a mark was taken and are live still. -/
def older (w : Session) (m : Mark) : List (Nat × String × Value) := w.live.filter (·.1 ∈ m.live)

def newer (w : Session) (m : Mark) : List (Nat × String × Value) := w.live.filter (·.1 ∉ m.live)

/-- What is left of the frames of a mark is at the bottom, and only pops have taken any of them
away. -/
structure Keeps (m : Mark) (born popped : List Nat) (time : Nat) : Prop where
  height : m.live.length = m.height
  early : ∀ t ∈ m.live, t < time
  bottom : ∃ top, born = top ++ m.live.filter (· ∉ popped) ∧ ∀ t ∈ top, t ∉ m.live

namespace Keeps

variable {m : Mark} {born popped : List Nat} {time : Nat}

theorem later (h : Keeps m born popped time) : Keeps m born popped (time + 1) where
  height := h.height
  early t ht := Nat.lt_succ_of_lt (h.early t ht)
  bottom := h.bottom

theorem push (h : Keeps m born popped time) : Keeps m (time :: born) popped (time + 1) where
  height := h.height
  early := h.later.early
  bottom := by
    obtain ⟨top, hborn, htop⟩ := h.bottom
    refine ⟨time :: top, congrArg (time :: ·) hborn, List.forall_mem_cons.2 ⟨fun ht => ?_, htop⟩⟩
    exact Nat.lt_irrefl time (h.early time ht)

theorem pop (h : Keeps m born popped time) (t : Nat) :
    Keeps m (born.filter (· ≠ t)) (t :: popped) (time + 1) where
  height := h.height
  early := h.later.early
  bottom := by
    obtain ⟨top, hborn, htop⟩ := h.bottom
    refine ⟨top.filter (· ≠ t), ?_, fun u hu => htop u (List.mem_of_mem_filter hu)⟩
    rw [hborn, List.filter_append, List.filter_filter]
    refine congrArg (top.filter (· ≠ t) ++ ·) (List.filter_congr fun u _ => ?_)
    simp [not_or]

theorem drop (h : Keeps m born popped time) {height : Nat} (hm : m.height ≤ height) :
    Keeps m (born.drop (born.length - height)) popped time where
  height := h.height
  early := h.early
  bottom := by
    obtain ⟨top, rfl, htop⟩ := h.bottom
    have hle : (m.live.filter (· ∉ popped)).length ≤ m.height :=
      h.height ▸ List.length_filter_le _ _
    refine ⟨top.drop ((top ++ m.live.filter (· ∉ popped)).length - height), ?_,
      fun t ht => htop t (List.mem_of_mem_drop ht)⟩
    refine List.drop_append_of_le_length ?_
    rw [List.length_append]
    omega

end Keeps

structure Timely (born popped : List Nat) (time : Nat) : Prop where
  nodup : born.Nodup
  early : ∀ t ∈ born ++ popped, t < time
  apart : ∀ t ∈ popped, t ∉ born

namespace Timely

variable {born popped : List Nat} {time : Nat}

theorem later (h : Timely born popped time) : Timely born popped (time + 1) where
  nodup := h.nodup
  early t ht := Nat.lt_succ_of_lt (h.early t ht)
  apart := h.apart

theorem push (h : Timely born popped time) : Timely (time :: born) popped (time + 1) where
  nodup := by
    refine List.nodup_cons.2 ⟨fun ht => ?_, h.nodup⟩
    exact Nat.lt_irrefl time (h.early time (List.mem_append_left _ ht))
  early := List.forall_mem_cons.2 ⟨Nat.lt_succ_self time, h.later.early⟩
  apart t ht hborn := by
    obtain rfl | hborn := List.mem_cons.1 hborn
    · exact Nat.lt_irrefl t (h.early t (List.mem_append_right _ ht))
    · exact h.apart t ht hborn

theorem pop (h : Timely born popped time) {t : Nat} (ht : t ∈ born) :
    Timely (born.filter (· ≠ t)) (t :: popped) (time + 1) where
  nodup := h.nodup.filter _
  early u hu := by
    refine h.later.early u ?_
    obtain hu | hu := List.mem_append.1 hu
    · exact List.mem_append_left _ (List.mem_of_mem_filter hu)
    · obtain rfl | hu := List.mem_cons.1 hu
      · exact List.mem_append_left _ ht
      · exact List.mem_append_right _ hu
  apart u hu hborn := by
    obtain ⟨hborn, hne⟩ := List.mem_filter.1 hborn
    obtain rfl | hu := List.mem_cons.1 hu
    · exact of_decide_eq_true hne rfl
    · exact h.apart u hu hborn

theorem drop (h : Timely born popped time) (n : Nat) : Timely (born.drop n) popped time where
  nodup := h.nodup.sublist (List.drop_sublist n born)
  early t ht := by
    obtain ht | ht := List.mem_append.1 ht
    · exact h.early t (List.mem_append_left _ (List.mem_of_mem_drop ht))
    · exact h.early t (List.mem_append_right _ ht)
  apart t ht hborn := h.apart t ht (List.mem_of_mem_drop hborn)

end Timely

structure Sound (w : Session) : Prop where
  length : w.born.length = w.scope.depth
  times : Timely w.born w.popped w.time
  marks : ∀ m ∈ w.marks, m.intact = true → Keeps m w.born w.popped w.time

variable {w : Session}

theorem bornAfter_cases (hn : w.born.Nodup) (x : Step) :
    (w.bornAfter x = w.time :: w.born ∧ w.poppedBy x = []) ∨
      (w.bornAfter x = w.born ∧ w.poppedBy x = []) ∨
      ∃ t ∈ w.born, w.bornAfter x = w.born.filter (· ≠ t) ∧ w.poppedBy x = [t] := by
  cases x with
  | push name v => exact .inl ⟨rfl, rfl⟩
  | update name v =>
    by_cases hs : w.scope.isShadowed name = true
    · exact .inr (.inl ⟨if_pos hs, rfl⟩)
    · exact .inl ⟨if_neg hs, rfl⟩
  | pop name =>
    refine .inr ?_
    by_cases hi : w.newest name < w.born.length
    · refine .inr ⟨w.born[w.newest name], List.getElem_mem hi, ?_, ?_⟩
      · rw [bornAfter, ← hn.erase_getElem _ hi, hn.erase_eq_filter]
        exact List.filter_congr fun t _ => by simp [bne, beq_eq_decide]
      · rw [poppedBy, List.getElem?_eq_getElem hi]
        rfl
    · have hi : w.born.length ≤ w.newest name := Nat.le_of_not_lt hi
      refine .inl ⟨List.eraseIdx_of_length_le hi, ?_⟩
      rw [poppedBy, List.getElem?_eq_none hi]
      rfl

theorem length_bornAfter (h : w.born.length = w.scope.depth) (x : Step) :
    (w.bornAfter x).length = (x.perform.run w.scope).2.depth := by
  cases x with
  | push name v => exact congrArg (· + 1) h
  | update name v =>
    change (if w.scope.isShadowed name then w.born else w.time :: w.born).length =
      (w.scope.update name v).depth
    unfold update
    by_cases hs : w.scope.isShadowed name = true
    · rw [if_pos hs, if_pos hs, h]
      exact (length_replaceNewest name v w.scope.frames).symm
    · rw [if_neg hs, if_neg hs]
      exact congrArg (· + 1) h
  | pop name =>
    change (w.born.eraseIdx (w.newest name)).length =
      (w.scope.frames.eraseP (·.1 == name)).length
    have hnewest : w.newest name < w.scope.depth ↔ w.scope.frames.any (·.1 == name) = true := by
      rw [newest, depth, List.findIdx_lt_length, List.any_eq_true]
    rw [List.length_eraseIdx, List.length_eraseP, h]
    simp only [hnewest]
    rfl

namespace Sound

theorem empty : Sound {} where
  length := rfl
  times := ⟨List.nodup_nil, fun _ h => absurd h List.not_mem_nil,
    fun _ h => absurd h List.not_mem_nil⟩
  marks _ h := absurd h List.not_mem_nil

theorem step (h : Sound w) (x : Step) : Sound (w.step x) where
  length := length_bornAfter h.length x
  times := by
    change Timely (w.bornAfter x) (w.poppedBy x ++ w.popped) (w.time + 1)
    obtain ⟨hb, hp⟩ | ⟨hb, hp⟩ | ⟨t, ht, hb, hp⟩ := bornAfter_cases h.times.nodup x <;> rw [hb, hp]
    · exact h.times.push
    · exact h.times.later
    · exact h.times.pop ht
  marks m hm hi := by
    have hkeeps := h.marks m hm hi
    change Keeps m (w.bornAfter x) (w.poppedBy x ++ w.popped) (w.time + 1)
    obtain ⟨hb, hp⟩ | ⟨hb, hp⟩ | ⟨t, -, hb, hp⟩ := bornAfter_cases h.times.nodup x <;> rw [hb, hp]
    · exact hkeeps.push
    · exact hkeeps.later
    · exact hkeeps.pop t

theorem mark (h : Sound w) : Sound w.mark where
  length := h.length
  times := h.times
  marks m hm hi := by
    obtain hm | hm := List.mem_append.1 hm
    · exact h.marks m hm hi
    · obtain rfl := List.mem_singleton.1 hm
      have hall : w.born.filter (· ∉ w.popped) = w.born :=
        List.filter_eq_self.2 fun t ht => decide_eq_true fun hp => h.times.apart t hp ht
      exact ⟨h.length, fun t ht => h.times.early t (List.mem_append_left _ ht), [], hall.symm,
        fun t ht => absurd ht List.not_mem_nil⟩

theorem rollbackTo (h : Sound w) (height : Nat) : Sound (w.rollbackTo height) where
  length := by
    change (w.born.drop _).length = (w.scope.frames.drop _).length
    rw [List.length_drop, List.length_drop, h.length]
    rfl
  times := h.times.drop _
  marks m hm hi := by
    obtain ⟨m, hmem, rfl⟩ := List.mem_map.1 hm
    obtain ⟨hintact, hle⟩ := Bool.and_eq_true_iff.1 hi
    have hkeeps := (h.marks m hmem hintact).drop (of_decide_eq_true hle)
    rw [h.length] at hkeeps
    exact ⟨hkeeps.height, hkeeps.early, hkeeps.bottom⟩

theorem act (h : Sound w) (a : Action) : Sound (w.act a) := by
  cases a with
  | step x => exact h.step x
  | mark => exact h.mark
  | rollback i =>
    rw [Session.act]
    cases w.marks[i]? with
    | none => exact h
    | some m => exact h.rollbackTo m.height

theorem run (actions : List Action) : Sound (run actions) := by
  suffices hall : ∀ w, Sound w → Sound (actions.foldl Session.act w) from hall {} empty
  induction actions with
  | nil => exact fun _ h => h
  | cons a rest ih => exact fun w h => ih _ (h.act a)

end Sound

theorem live_rollbackTo (w : Session) (height : Nat) :
    (w.rollbackTo height).live = w.live.drop (w.scope.depth - height) :=
  List.drop_zipWith.symm

theorem live_eq (h : Sound w) {m : Mark} (hm : Keeps m w.born w.popped w.time) :
    w.live = w.newer m ++ w.older m ∧
      (w.older m).map Prod.fst = m.live.filter (· ∉ w.popped) := by
  obtain ⟨top, hborn, htop⟩ := hm.bottom
  have hlength := h.length
  rw [hborn, List.length_append] at hlength
  have hfirst : top.length = (w.scope.frames.take top.length).length := by
    rw [List.length_take, depth] at *
    omega
  have hsecond : (m.live.filter (· ∉ w.popped)).length =
      (w.scope.frames.drop top.length).length := by
    rw [List.length_drop, depth] at *
    omega
  have hlive : w.live = top.zip (w.scope.frames.take top.length) ++
      (m.live.filter (· ∉ w.popped)).zip (w.scope.frames.drop top.length) := by
    rw [← List.zip_append hfirst, List.take_append_drop, ← hborn, live]
  have hnew : ∀ f ∈ top.zip (w.scope.frames.take top.length), f.1 ∉ m.live :=
    fun f hf => htop f.1 (List.of_mem_zip hf).1
  have hold : ∀ f ∈ (m.live.filter (· ∉ w.popped)).zip (w.scope.frames.drop top.length),
      f.1 ∈ m.live := fun f hf => List.mem_of_mem_filter (List.of_mem_zip hf).1
  have hnewer : w.newer m = top.zip (w.scope.frames.take top.length) := by
    rw [newer, hlive, List.filter_append,
      List.filter_eq_self.2 fun f hf => decide_eq_true (hnew f hf),
      List.filter_eq_nil_iff.2 fun f hf => by simpa using hold f hf, List.append_nil]
  have holder : w.older m =
      (m.live.filter (· ∉ w.popped)).zip (w.scope.frames.drop top.length) := by
    rw [older, hlive, List.filter_append,
      List.filter_eq_nil_iff.2 fun f hf => by simpa using hnew f hf,
      List.filter_eq_self.2 fun f hf => decide_eq_true (hold f hf), List.nil_append]
  rw [hnewer, holder]
  exact ⟨hlive, List.map_fst_zip hsecond.le⟩

theorem map_snd_live (h : Sound w) : w.live.map Prod.snd = w.scope.frames :=
  List.map_snd_zip h.length.ge

theorem run_rollback {actions : List Action} {i : Nat} {m : Mark}
    (hm : (run actions).marks[i]? = some m) :
    run (actions ++ [.rollback i]) = (run actions).rollbackTo m.height := by
  rw [run, List.foldl_append]
  change ((run actions).marks[i]?).elim _ _ = _
  rw [hm]
  rfl

/-- What a rollback takes away beyond the frames of its mark is short of what has been pushed since
by as many frames as have been popped below the mark. -/
theorem drop_live (h : Sound w) {m : Mark} (hm : Keeps m w.born w.popped w.time) :
    w.live.drop (w.scope.depth - m.height) =
      (w.newer m).rtake (m.live.countP (· ∈ w.popped)) ++ w.older m := by
  obtain ⟨hlive, holder⟩ := live_eq h hm
  have hdepth : w.scope.depth = (w.newer m).length + (w.older m).length := by
    rw [← List.length_append, ← hlive, live, List.length_zip, h.length, depth, Nat.min_self]
  have hheight : m.height = m.live.countP (· ∈ w.popped) + (w.older m).length := by
    rw [← List.length_map Prod.fst, holder, ← hm.height, ← List.countP_eq_length_filter,
      List.length_eq_countP_add_countP (fun t => decide (t ∈ w.popped)) (l := m.live)]
    simp
  have hcount : w.scope.depth - m.height =
      (w.newer m).length - m.live.countP (· ∈ w.popped) := by omega
  rw [hlive, hcount, List.drop_append_of_le_length (Nat.sub_le _ _), List.rtake]

/-- A rollback to a mark that no other has gone below keeps the frames of the mark that have not
been popped, and of those pushed later the oldest, as many as have been popped below the mark. So it
drops what was pushed since exactly if that is nothing or nothing below the mark has been popped. -/
theorem live_rollback {actions : List Action} {i : Nat} {m : Mark}
    (hm : (run actions).marks[i]? = some m) (hi : m.intact = true) :
    ((run actions).older m).map Prod.fst = m.live.filter (· ∉ (run actions).popped) ∧
      (run (actions ++ [.rollback i])).live =
        ((run actions).newer m).rtake (m.live.countP (· ∈ (run actions).popped)) ++
          (run actions).older m ∧
      (run (actions ++ [.rollback i])).scope.frames =
        (run (actions ++ [.rollback i])).live.map Prod.snd ∧
      ((run (actions ++ [.rollback i])).live = (run actions).older m ↔
        (run actions).newer m = [] ∨ ∀ t ∈ m.live, t ∉ (run actions).popped) := by
  have hsound := Sound.run actions
  have hkeeps := hsound.marks m (List.mem_of_getElem? hm) hi
  have hlive : (run (actions ++ [.rollback i])).live =
      ((run actions).newer m).rtake (m.live.countP (· ∈ (run actions).popped)) ++
        (run actions).older m := by
    rw [run_rollback hm, live_rollbackTo, drop_live hsound hkeeps]
  refine ⟨(live_eq hsound hkeeps).2, hlive, (map_snd_live (Sound.run _)).symm, ?_⟩
  have hnone : m.live.countP (· ∈ (run actions).popped) = 0 ↔
      ∀ t ∈ m.live, t ∉ (run actions).popped := by
    simp [List.countP_eq_zero]
  rw [hlive, List.append_left_eq_self, List.rtake, List.drop_eq_nil_iff, ← hnone,
    ← List.length_eq_zero_iff]
  omega

def nested : List Action :=
  [.step (.push "a" (.int 1)), .step (.push "b" (.int 2)), .mark, .step (.push "c" (.int 3)), .mark,
    .step (.pop "a"), .step (.update "b" (.int 4)), .step (.push "a" (.int 5)), .rollback 1]

theorem live_rollback_nested :
    ((run nested).marks[0]? = some ⟨2, [1, 0], true⟩) ∧
      ((run nested).older ⟨2, [1, 0], true⟩).map Prod.fst = [1] ∧
      (run (nested ++ [.rollback 0])).live ≠ (run nested).older ⟨2, [1, 0], true⟩ := by
  have hm : (run nested).marks[0]? = some ⟨2, [1, 0], true⟩ := rfl
  obtain ⟨holder, -, -, hiff⟩ := live_rollback hm rfl
  refine ⟨hm, holder, fun h => ?_⟩
  obtain hnew | hpopped := hiff.1 h
  · exact absurd (congrArg List.length hnew) (by decide)
  · exact hpopped 0 (by decide) (by decide)

/-- A frame that is pushed after a mark and a pop below it survives the rollback to the mark. -/
theorem not_live_rollback_swapped :
    ¬ ∀ (actions : List Action) (i : Nat) (m : Mark), (run actions).marks[i]? = some m →
      m.intact = true → (run (actions ++ [.rollback i])).live = (run actions).older m := by
  intro h
  have hswap := h
    [.step (.push "a" (.int 1)), .mark, .step (.pop "a"), .step (.push "b" (.int 2))] 0
    ⟨1, [0], true⟩ rfl rfl
  exact absurd (congrArg List.length hswap) (by decide)

end Session

end RichText.Scope
