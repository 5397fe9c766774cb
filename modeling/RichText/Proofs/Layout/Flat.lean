import Mathlib.Data.List.ReduceOption
import Mathlib.Data.List.SplitBy
import RichText.Proofs.Layout.Fusion

namespace RichText.Flat

variable {κ : Type}

def textMark (style : Style) (s : String) : List (Option (Style × Piece κ)) :=
  if s = "" then [] else [some (style, .text s)]

/-- What a write is in the flat sequence, where `none` cuts. -/
def marks (slot : Slot) (w : Style × Write κ) : List (Option (Style × Piece κ)) :=
  match w.2 with
  | .text s => textMark w.1 s
  | .component c => [some (w.1, .component c)]
  | .lineBreak => slot.lineBreak.elim [none] (textMark w.1)

def segments (l : List (Option (Style × Piece κ))) : List (List (Style × Piece κ)) :=
  (l.splitOnP Option.isNone).map List.reduceOption

def glue (p : Piece κ) (ps : List (Piece κ)) : List (Piece κ) :=
  match p, ps with
  | .text s, .text t :: rest => .text (s ++ t) :: rest
  | p, ps => p :: ps

def fuse (ps : List (Piece κ)) : List (Piece κ) := ps.foldr glue []

def sameStyle (x y : Style × Piece κ) : Bool := x.1 = y.1

def ofBlock (block : List (Style × Piece κ)) : Style × List (Piece κ) :=
  ((block.head?.map Prod.fst).getD .empty, fuse (block.map Prod.snd))

/-- A run for each maximal block of neighbours of one style. -/
def runs (segment : List (Style × Piece κ)) : List (Style × List (Piece κ)) :=
  (segment.splitBy sameStyle).map ofBlock

variable (factory : ComponentFactory κ) (slot : Slot)

def made : Piece κ → κ
  | .text s => factory.text s
  | .component c => c

def component (run : Style × List (Piece κ)) : κ :=
  factory.applyStyle (run.1.diff slot.base) <|
    match run.2.map (made factory) with
    | [c] => c
    | cs => factory.append cs (factory.text "")

def entry (segment : List (Style × Piece κ)) : κ :=
  let root := factory.applyStyle slot.base (factory.text "")
  match (runs segment).map (component factory slot) with
  | [] => root
  | children => factory.append children root

/-- All but an empty segment at the end, which stays only if there is no other. -/
def kept {α : Type} (segments : List (List α)) : List (List α) :=
  if segments.getLast?.any List.isEmpty ∧ 1 < segments.length then segments.dropLast
  else segments

/-- The entries of some writes, made without frames. -/
def entries (ws : List (Style × Write κ)) : List κ :=
  (kept (segments (ws.flatMap (marks slot)))).map (entry factory slot)

def attach : List (Piece κ) → Piece κ → List (Piece κ)
  | [], p => [p]
  | [q], p => glue q [p]
  | q :: r :: rest, p => q :: attach (r :: rest) p

theorem attach_concat (ps : List (Piece κ)) (q p : Piece κ) :
    attach (ps ++ [q]) p = ps ++ glue q [p] := by
  induction ps with
  | nil => rfl
  | cons r rest ih =>
    rw [List.cons_append, List.cons_append, ← ih]
    cases rest <;> rfl

theorem reverse_push (r : Run κ) (p : Piece κ) :
    (r.push p).pieces.reverse = attach r.pieces.reverse p := by
  obtain ⟨style, pieces⟩ := r
  cases pieces with
  | nil => cases p <;> rfl
  | cons q rest =>
    rw [List.reverse_cons, attach_concat]
    cases q <;> cases p <;> simp [Run.push, glue]

theorem attach_glue (q : Piece κ) (ps : List (Piece κ)) (p : Piece κ) :
    attach (glue q ps) p = glue q (attach ps p) := by
  match ps with
  | [] => cases q <;> rfl
  | [r] => cases q <;> cases r <;> cases p <;> simp [glue, attach, String.append_assoc]
  | r :: r' :: rest => cases q <;> cases r <;> rfl

theorem fuse_concat (ps : List (Piece κ)) (p : Piece κ) :
    fuse (ps ++ [p]) = attach (fuse ps) p := by
  induction ps with
  | nil => cases p <;> rfl
  | cons q rest ih =>
    change glue q (fuse (rest ++ [p])) = attach (glue q (fuse rest)) p
    rw [ih, attach_glue]

theorem splitBy_concat_of_rel {α : Type} {r : α → α → Bool} {l : List α} {blocks : List (List α)}
    {block : List α} {y x : α} (h : l.splitBy r = blocks ++ [block ++ [y]]) (hr : r y x = true) :
    (l ++ [x]).splitBy r = blocks ++ [block ++ [y, x]] := by
  obtain ⟨hl, hn, hc, hb⟩ := List.splitBy_eq_iff.1 h
  rw [List.splitBy_eq_iff]
  refine ⟨by rw [hl]; simp, ?_, ?_, ?_⟩
  · simpa using hn
  · intro m hm
    rcases List.mem_append.1 hm with hm | hm
    · exact hc m (List.mem_append_left _ hm)
    · obtain rfl := List.mem_singleton.1 hm
      have hblock := hc (block ++ [y]) (by simp)
      rw [List.isChain_append] at hblock ⊢
      exact ⟨hblock.1, by simpa using hr, by simpa using hblock.2.2⟩
  · rw [List.isChain_append] at hb ⊢
    refine ⟨hb.1, by simp, fun a ha b hb' => ?_⟩
    obtain ⟨hne, _, hf⟩ := hb.2.2 a ha (block ++ [y]) (by simp)
    obtain rfl : block ++ [y, x] = b := by simpa using hb'
    refine ⟨hne, by simp, ?_⟩
    cases block <;> simpa using hf

theorem style_of_mem {block : List (Style × Piece κ)}
    (h : block.IsChain fun x y => sameStyle x y = true) (x : Style × Piece κ) (hx : x ∈ block) :
    x.1 = (ofBlock block).1 := by
  induction block with
  | nil => simp at hx
  | cons y rest ih =>
    rcases List.mem_cons.1 hx with rfl | hx
    · rfl
    · cases rest with
      | nil => simp at hx
      | cons z rest =>
        rw [List.isChain_cons_cons] at h
        have hyz : y.1 = z.1 := by simpa [sameStyle] using h.1
        exact (ih h.2 hx).trans hyz.symm

theorem runs_concat {l : List (Style × Piece κ)} {init : List (Style × List (Piece κ))}
    {t : Style} {ps : List (Piece κ)} (h : runs l = init ++ [(t, ps)]) (s : Style) (p : Piece κ) :
    runs (l ++ [(s, p)]) =
      if t = s then init ++ [(t, attach ps p)] else init ++ [(t, ps), (s, [p])] := by
  obtain ⟨blocks, rest, hsplit, rfl, hrest⟩ := List.map_eq_append_iff.1 h
  obtain ⟨block, rfl, hblock⟩ := List.map_eq_singleton_iff.1 hrest
  obtain ⟨hl, hn, hc, -⟩ := List.splitBy_eq_iff.1 hsplit
  have hne : block ≠ [] := by
    rintro rfl
    simp at hn
  obtain ⟨pre, y, rfl⟩ := (List.eq_nil_or_concat' block).resolve_left hne
  have hy : y.1 = t := by
    have := style_of_mem (hc (pre ++ [y]) (by simp)) y (by simp)
    rwa [hblock] at this
  have hp : fuse ((pre ++ [y]).map Prod.snd) = ps := congrArg Prod.snd hblock
  by_cases hts : t = s
  · have hr : sameStyle y (s, p) = true := by simp [sameStyle, hy, hts]
    rw [if_pos hts, runs, splitBy_concat_of_rel hsplit hr, List.map_append, List.map_singleton]
    have ht : ((pre ++ [y]).head?.map Prod.fst).getD .empty = t := congrArg Prod.fst hblock
    have hhead : ((pre ++ [y, (s, p)]).head?.map Prod.fst).getD .empty = t := by
      rw [← ht]
      cases pre <;> rfl
    have hfuse : fuse ((pre ++ [y, (s, p)]).map Prod.snd) = attach ps p := by
      rw [← hp, ← fuse_concat]
      simp
    rw [ofBlock, hhead, hfuse]
  · have hr : sameStyle y (s, p) = false := by simp [sameStyle, hy, hts]
    have hlast : ∀ x ∈ l.getLast?, sameStyle x (s, p) = false := by
      rw [hl]
      simpa using hr
    have hone : ([(s, p)].splitBy sameStyle).map ofBlock = [(s, [p])] := by cases p <;> rfl
    rw [if_neg hts, runs, List.splitBy_append_cons [] hlast, hsplit, List.map_append, hone,
      List.map_append, List.map_singleton, hblock, List.append_assoc]
    rfl

def forward (f : Frame κ) : List (Style × List (Piece κ)) :=
  f.reverse.map fun r => (r.style, r.pieces.reverse)

theorem forward_ofPieces (l : List (Style × Piece κ)) :
    forward (Frame.ofPieces l) = runs l := by
  induction l using List.reverseRecOn with
  | nil => rfl
  | append_singleton l x ih =>
    rw [Frame.ofPieces_concat]
    cases hf : Frame.ofPieces l with
    | nil =>
      rw [hf] at ih
      have hl : l = [] := List.splitBy_eq_nil.1 (List.map_eq_nil_iff.1 ih.symm)
      subst hl
      obtain ⟨s, p⟩ := x
      cases p <;> rfl
    | cons last rest =>
      have hruns : runs l = forward rest ++ [(last.style, last.pieces.reverse)] := by
        rw [← ih, hf]
        simp [forward]
      rw [runs_concat hruns, Frame.push, Frame.append_cons]
      by_cases h : last.style = x.1
      · rw [if_pos h, if_pos h, ← reverse_push]
        simp [forward, Run.extend]
      · rw [if_neg h, if_neg h]
        simp [forward]

/-- What a reader gets to see of a piece, one character or component at a time. -/
def atoms : Style × Piece κ → List (Style × (Char ⊕ κ))
  | (style, .text s) => s.toList.map fun c => (style, .inl c)
  | (style, .component c) => [(style, .inr c)]

theorem atoms_glue (style : Style) (p : Piece κ) (ps : List (Piece κ)) :
    (glue p ps).flatMap (fun q => atoms (style, q)) =
      atoms (style, p) ++ ps.flatMap fun q => atoms (style, q) := by
  cases p with
  | component c => rfl
  | text s =>
    match ps with
    | [] => rfl
    | .component _ :: _ => rfl
    | .text t :: rest => simp [glue, atoms]

theorem atoms_fuse (style : Style) (ps : List (Piece κ)) :
    (fuse ps).flatMap (fun q => atoms (style, q)) = ps.flatMap fun q => atoms (style, q) := by
  induction ps with
  | nil => rfl
  | cons p rest ih =>
    change (glue p (fuse rest)).flatMap _ = _
    rw [atoms_glue, ih, List.flatMap_cons]

/-- Grouping and fusing keep every character and component, in order and in its style. -/
theorem atoms_runs (l : List (Style × Piece κ)) :
    (runs l).flatMap (fun r => r.2.flatMap fun p => atoms (r.1, p)) = l.flatMap atoms := by
  have hblock : ∀ block ∈ l.splitBy sameStyle,
      (ofBlock block).2.flatMap (fun p => atoms ((ofBlock block).1, p)) = block.flatMap atoms := by
    intro block hb
    have hstyle := style_of_mem (List.isChain_of_mem_splitBy hb)
    change (fuse (block.map Prod.snd)).flatMap (fun p => atoms ((ofBlock block).1, p)) = _
    rw [atoms_fuse, List.flatMap_map]
    apply List.flatMap_congr
    intro x hx
    rw [← hstyle x hx]
  calc (runs l).flatMap (fun r => r.2.flatMap fun p => atoms (r.1, p))
      = (l.splitBy sameStyle).flatMap fun block => block.flatMap atoms := by
        rw [runs, List.flatMap_map]
        exact List.flatMap_congr hblock
    _ = (l.splitBy sameStyle).flatten.flatMap atoms := by
        rw [List.flatten_eq_flatMap, List.flatMap_assoc]
        rfl
    _ = l.flatMap atoms := by rw [List.flatten_splitBy]

theorem ofFrame_ofPieces (factory : ComponentFactory κ) (slot : Slot)
    (l : List (Style × Piece κ)) :
    Draft.ofFrame factory slot (Frame.ofPieces l) = entry factory slot l := by
  have h : (Frame.ofPieces l).reverse.map (Draft.ofRun factory slot) =
      (runs l).map (component factory slot) := by
    rw [← forward_ofPieces, forward, List.map_map]
    rfl
  rw [Draft.ofFrame, h]
  rfl

end RichText.Flat
