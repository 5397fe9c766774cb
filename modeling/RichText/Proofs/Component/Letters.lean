import RichText.Component.Basic

namespace RichText

namespace Component

def inked (path : List Style) (s : String) : List (Char × List Style) := s.toList.map (·, path)

mutual

/-- The characters of a component, each below the styles of the components around it, the outermost
first. -/
def letters (path : List Style) : Component → List (Char × List Style)
  | mk body style children =>
    bodyLetters (path ++ [style]) body ++ childLetters (path ++ [style]) children

def bodyLetters (path : List Style) : Body → List (Char × List Style)
  | .text s => inked path s
  | .keybind key => inked path (keybindText key)
  | .translate key fallback args => inked path (fallback.getD key) ++ argLetters path args
  | .score name objective => inked path (scoreText name objective)
  | .selector pattern _ => inked path pattern
  | .data source _ _ _ => inked path source

def childLetters (path : List Style) : List Component → List (Char × List Style)
  | [] => []
  | c :: cs => letters path c ++ childLetters path cs

def argLetters (path : List Style) : List Component → List (Char × List Style)
  | [] => []
  | c :: cs => inked path " " ++ (letters path c ++ argLetters path cs)

end

/-- What is left of the styles around a character, merged from the outermost to the innermost. -/
def effective (path : List Style) : Style := path.foldl Style.merge .empty

theorem effective_concat (path : List Style) (s : Style) :
    effective (path ++ [s]) = (effective path).merge s := by
  rw [effective, List.foldl_append]
  rfl

theorem inked_fst (path : List Style) (s : String) : (inked path s).map Prod.fst = s.toList := by
  rw [inked, List.map_map]
  exact List.map_id _

mutual

theorem letters_fst (path : List Style) :
    ∀ c : Component, (c.letters path).map Prod.fst = c.plainText.toList
  | mk body style children => by
    rw [letters, List.map_append, bodyLetters_fst, childLetters_fst, plainText,
      String.toList_append]

theorem bodyLetters_fst (path : List Style) :
    ∀ b : Body, (bodyLetters path b).map Prod.fst = (bodyText b).toList
  | .text _ | .keybind _ | .score _ _ | .selector _ _ | .data _ _ _ _ => inked_fst path _
  | .translate key fallback args => by
    rw [bodyLetters, List.map_append, inked_fst, argLetters_fst, bodyText, String.toList_append]

theorem childLetters_fst (path : List Style) :
    ∀ cs : List Component, (childLetters path cs).map Prod.fst = (plainTexts cs).toList
  | [] => rfl
  | c :: cs => by
    rw [childLetters, List.map_append, letters_fst, childLetters_fst, plainTexts,
      String.toList_append]

theorem argLetters_fst (path : List Style) :
    ∀ cs : List Component, (argLetters path cs).map Prod.fst = (argTexts cs).toList
  | [] => rfl
  | c :: cs => by
    rw [argLetters, List.map_append, List.map_append, inked_fst, letters_fst, argLetters_fst,
      argTexts, String.toList_append, String.toList_append]

end

def painted (fs : List (Style × String)) : List (Char × Style) :=
  fs.flatMap fun f => f.2.toList.map (·, f.1)

theorem painted_append (fs gs : List (Style × String)) :
    painted (fs ++ gs) = painted fs ++ painted gs := List.flatMap_append

theorem painted_cons (f : Style × String) (fs : List (Style × String)) :
    painted (f :: fs) = f.2.toList.map (·, f.1) ++ painted fs := rfl

def merged (ls : List (Char × List Style)) : List (Char × Style) :=
  ls.map fun l => (l.1, effective l.2)

theorem merged_append (ls ms : List (Char × List Style)) :
    merged (ls ++ ms) = merged ls ++ merged ms := List.map_append

theorem merged_inked (path : List Style) (s : String) :
    merged (inked path s) = s.toList.map (·, effective path) := List.map_map

mutual

theorem painted_fragments (path : List Style) :
    ∀ c : Component, painted (c.fragments (effective path)) = merged (c.letters path)
  | mk body style children => by
    rw [fragments, ← effective_concat, painted_append, painted_bodyFragments,
      painted_childFragments, letters, merged_append]

theorem painted_bodyFragments (path : List Style) :
    ∀ b : Body, painted (bodyFragments (effective path) b) = merged (bodyLetters path b)
  | .text _ | .keybind _ | .score _ _ | .selector _ _ | .data _ _ _ _ => by
    simp [bodyFragments, bodyLetters, painted, merged_inked]
  | .translate key fallback args => by
    rw [bodyFragments, painted_cons, painted_argFragments, bodyLetters, merged_append, merged_inked]

theorem painted_childFragments (path : List Style) : ∀ cs : List Component,
    painted (childFragments (effective path) cs) = merged (childLetters path cs)
  | [] => rfl
  | c :: cs => by
    rw [childFragments, painted_append, painted_fragments, painted_childFragments, childLetters,
      merged_append]

theorem painted_argFragments (path : List Style) : ∀ cs : List Component,
    painted (argFragments (effective path) cs) = merged (argLetters path cs)
  | [] => rfl
  | c :: cs => by
    rw [argFragments, painted_cons, painted_append, painted_fragments, painted_argFragments,
      argLetters, merged_append, merged_append, merged_inked]

end

end Component

end RichText
