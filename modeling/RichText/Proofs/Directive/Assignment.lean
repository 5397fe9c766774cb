import RichText.Proofs.Decimal.Numeral
import RichText.Proofs.Directive.SlotLine

namespace RichText

namespace Directive

variable {c : Char} {name value first : List Char} {rest : List (List Char)}

theorem tokensFrom_step (quoted : Bool) (c : Char) (cs : List Char) :
    (∀ begun, tokensFrom (some begun) quoted (c :: cs) =
      begun.reverse :: tokensFrom none false cs) ∨
    ∃ taken quoted' rest, rest.length ≤ cs.length ∧ ∀ begun,
      tokensFrom (some begun) quoted (c :: cs) =
        tokensFrom (some (taken ++ begun)) quoted' rest := by
  by_cases hmark : c = '"'
  · exact .inr ⟨[], !quoted, cs, Nat.le_refl _, fun begun => hmark ▸ tokensFrom_mark quoted⟩
  cases quoted with
  | false =>
    by_cases hblank : isAsciiBlank c = true
    · have hback : c ≠ '\\' := by
        rintro rfl
        cases hblank
      exact .inl fun begun => by simp [tokensFrom, hblank, hback]
    · exact .inr ⟨[c], false, cs, Nat.le_refl _, fun begun =>
        tokensFrom_plain (Bool.not_eq_true _ ▸ hblank) hmark⟩
  | true =>
    by_cases hback : c = '\\'
    · subst hback
      cases cs with
      | nil => exact .inr ⟨[], true, [], Nat.le_refl _, fun begun => by simp [tokensFrom]⟩
      | cons d ds =>
        refine .inr ⟨if d = '"' then ['"'] else [d, '\\'], true, ds, by simp, fun begun => ?_⟩
        by_cases hd : d = '"' <;> simp [tokensFrom, hd]
    · exact .inr ⟨[c], true, cs, Nat.le_refl _, fun begun => by simp [tokensFrom, hmark, hback]⟩

theorem exists_tokensFrom_some (quoted : Bool) (cs : List Char) :
    ∃ first rest, ∀ begun,
      tokensFrom (some begun) quoted cs = (begun.reverse ++ first) :: rest := by
  -- a step may take two characters, so the induction is on the length
  induction hn : cs.length using Nat.strongRecOn generalizing quoted cs with
  | ind n ih =>
    cases cs with
    | nil => exact ⟨[], [], fun begun => by simp [tokensFrom]⟩
    | cons c cs =>
      obtain hend | ⟨taken, quoted', rest, hlen, htake⟩ := tokensFrom_step quoted c cs
      · exact ⟨[], tokensFrom none false cs, fun begun => by rw [hend, List.append_nil]⟩
      · have hlt : rest.length < n := by
          rw [← hn, List.length_cons]
          omega
        obtain ⟨first, others, hrest⟩ := ih rest.length hlt quoted' rest rfl
        refine ⟨taken.reverse ++ first, others, fun begun => ?_⟩
        rw [htake, hrest, List.reverse_append, List.append_assoc]

theorem tokensFrom_none {cs : List Char} (h : isAsciiBlank c = false) :
    tokensFrom none false (c :: cs) = tokensFrom (some []) false (c :: cs) := by
  by_cases hmark : c = '"'
  · rw [hmark, tokensFrom_mark, tokensFrom_mark]
    rfl
  · rw [tokensFrom_plain h hmark, tokensFrom_plain h hmark]
    rfl

/-- A name in front of a blank is a token, and in front of an equals sign it is a part of the next
one. -/
theorem exists_tokens (hne : name ≠ []) (hname : name.all isPlain = true) (hvalue : value ≠ [])
    (htrim : Trimmed value) : ∃ first rest, tokens value = first :: rest ∧
      tokens (name ++ '=' :: value) = (name ++ '=' :: first) :: rest ∧
      tokens (name ++ ' ' :: value) = name :: first :: rest := by
  have hstart : tokens value = tokensFrom (some []) false value := by
    obtain ⟨c, cs, rfl⟩ := List.exists_cons_of_ne_nil hvalue
    refine tokensFrom_none (Bool.eq_false_iff.2 fun hc => ?_)
    have hblank := htrim.1 c rfl
    rw [isBlank_of_isAsciiBlank hc] at hblank
    cases hblank
  have hbegin : ∀ cs, tokens (name ++ cs) = tokensFrom (some name.reverse) false cs := by
    intro cs
    have hargument : argument name = name := if_pos ⟨hne, hname⟩
    rw [tokens, ← tokensFrom_argument, hargument]
  obtain ⟨first, rest, htokens⟩ := exists_tokensFrom_some false value
  have hfirst : tokens value = first :: rest := hstart.trans (htokens [])
  refine ⟨first, rest, hfirst, ?_, ?_⟩
  · rw [hbegin, tokensFrom_plain (by decide) (by decide), htokens]
    simp
  · rw [hbegin, tokensFrom_blank, List.reverse_reverse, ← tokens, hfirst]

theorem splitAssignment_append (h : '=' ∉ name) :
    splitAssignment (name ++ '=' :: value) = some (name, value) := by
  have hname : ∀ c ∈ name, decide (c ≠ '=') = true :=
    fun c hc => decide_eq_true fun heq => h (heq ▸ hc)
  rw [splitAssignment, if_pos (by simp), List.takeWhile_append_of_pos hname,
    List.dropWhile_append_of_pos hname]
  simp

theorem bindingOf_assigned (hne : name ≠ []) (h : '=' ∉ name) :
    bindingOf ((name ++ '=' :: first) :: rest) = .ok (String.ofList name, scalar first) := by
  simp only [bindingOf, splitAssignment_append h]
  change (if name = [] then _ else _) = _
  rw [if_neg hne]
  rfl

theorem bindingOf_spaced (hne : name ≠ []) (h : '=' ∉ name) :
    bindingOf (name :: first :: rest) =
      .ok (String.ofList name, scalar (joinTokens (first :: rest))) := by
  have hsides : splitAssignment name = none := if_neg (by simpa using h)
  simp only [bindingOf, hsides]
  change (if name = [] then _ else _) = _
  rw [if_neg hne]
  rfl

theorem scalar_of_mem (h : ' ' ∈ value) : scalar value = .str (String.ofList value) := by
  have hword : ∀ word : String, ' ' ∉ word.toList → String.ofList value ≠ word := by
    rintro _ hw rfl
    rw [String.toList_ofList] at hw
    exact hw h
  rw [scalar, Decimal.int64?_eq_none (by decide) h, Decimal.float?_eq_none (by decide) h]
  dsimp only
  rw [if_neg (hword "true" (by decide)), if_neg (hword "false" (by decide))]

theorem scalar_eq_str {s : String} (h : scalar value = .str s) : s = String.ofList value := by
  unfold scalar at h
  dsimp only at h
  repeat' split at h
  all_goals cases h
  all_goals rfl

theorem scalar_joinTokens_iff :
    scalar first = scalar (joinTokens (first :: rest)) ↔ rest = [] := by
  cases rest with
  | nil => exact iff_of_true (by rw [joinTokens, List.intercalate_singleton]) rfl
  | cons t ts =>
    have hjoin : joinTokens (first :: t :: ts) = first ++ ' ' :: joinTokens (t :: ts) := by
      rw [joinTokens, List.intercalate_cons_cons, List.append_assoc]
      rfl
    refine iff_of_false (fun h => ?_) (List.cons_ne_nil t ts)
    have hblank : ' ' ∈ joinTokens (first :: t :: ts) := by
      rw [hjoin]
      simp
    rw [scalar_of_mem hblank] at h
    have hlen := congrArg String.length (scalar_eq_str h)
    rw [String.length_ofList, String.length_ofList, hjoin, List.length_append,
      List.length_cons] at hlen
    omega

end Directive

namespace Config

theorem line_directive (c : Config) {name arguments : List Char}
    (hname : name.any isBlank = false) (hne : arguments ≠ []) (htrim : Trimmed arguments) :
    c.line ('/' :: (name ++ ' ' :: arguments)) =
      c.execute (String.ofList name) (Directive.tokens arguments) := by
  have hline : Trimmed ('/' :: (name ++ ' ' :: arguments)) := by
    have hsplit : '/' :: (name ++ ' ' :: arguments) = ('/' :: name ++ [' ']) ++ arguments := by simp
    rw [hsplit]
    refine trimmed_append (by simp) hne ?_ htrim.2
    rintro c ⟨⟩
    rfl
  have hword : ∀ x ∈ name, (!isAsciiBlank x) = true := by
    intro x hx
    rw [Bool.not_eq_true']
    refine Bool.eq_false_iff.2 fun hblank => ?_
    exact List.any_eq_false.1 hname x hx (isBlank_of_isAsciiBlank hblank)
  have htake : (name ++ ' ' :: arguments).takeWhile (!isAsciiBlank ·) = name := by
    rw [List.takeWhile_append_of_pos hword]
    simp [isAsciiBlank]
  have hdrop : (name ++ ' ' :: arguments).dropWhile (!isAsciiBlank ·) = ' ' :: arguments := by
    rw [List.dropWhile_append_of_pos hword]
    rfl
  unfold line
  rw [hline.trimBlanks]
  simp only [htake, hdrop, List.tail_cons, htrim.trimBlanks]

/-- A name that a directive can bind without quotation marks. -/
structure IsVariable (name : String) : Prop where
  ne_empty : name ≠ ""
  plain : name.toList.all Directive.isPlain = true
  unassigned : '=' ∉ name.toList

structure IsValueText (text : String) : Prop where
  ne_empty : text ≠ ""
  trimmed : Trimmed text.toList
  single : '\n' ∉ text.toList

variable {name text : String} {first : List Char} {rest : List (List Char)}

/-- A line that binds a variable to a value, with a character between the two. -/
theorem load_set (separator : Char) (hseparator : separator ≠ '\n') (hname : IsVariable name)
    (htext : IsValueText text) {value : Value}
    (h : Directive.bindingOf (Directive.tokens (name.toList ++ separator :: text.toList)) =
      .ok (name, value)) :
    load ("/set " ++ name ++ String.singleton separator ++ text) =
      ({ vars := [(name, value)] }, []) := by
  let arguments := name.toList ++ separator :: text.toList
  have hlist : ("/set " ++ name ++ String.singleton separator ++ text).toList =
      '/' :: (['s', 'e', 't'] ++ ' ' :: arguments) := by
    simp [arguments, String.toList_append]
  have hplain : ∀ {c : Char}, c ∈ name.toList → isBlank c = false := by
    intro c hc
    have hc := List.all_eq_true.1 hname.plain c hc
    rw [Directive.isPlain, Bool.and_eq_true, Bool.not_eq_true'] at hc
    exact hc.1
  have hne : name.toList ≠ [] := by simpa using hname.ne_empty
  have htrim : Trimmed arguments := by
    refine trimmed_append hne (List.cons_ne_nil _ _) (fun c hc => ?_) ?_
    · exact hplain (List.mem_of_head? hc)
    · have htext' : text.toList ≠ [] := by simpa using htext.ne_empty
      rw [List.getLast?_cons_of_ne_nil htext']
      exact htext.trimmed.2
  have hsingle : '\n' ∉ '/' :: (['s', 'e', 't'] ++ ' ' :: arguments) := by
    have hname' : '\n' ∉ name.toList := fun hmem => by cases hplain hmem
    simp [arguments, hname', hseparator.symm, htext.single]
  have hexecute : line {} ('/' :: (['s', 'e', 't'] ++ ' ' :: arguments)) =
      .ok { vars := [(name, value)] } := by
    rw [line_directive _ (by decide) (List.append_ne_nil_of_left_ne_nil hne _) htrim]
    change (Directive.bindingOf (Directive.tokens arguments)).map _ = _
    rw [h]
    rfl
  rw [load, hlist, splitLines_of_notMem hsingle, loadLines, hexecute]
  rfl

theorem exists_load_set (hname : IsVariable name) (htext : IsValueText text) :
    ∃ first rest, Directive.tokens text.toList = first :: rest ∧
      load ("/set " ++ name ++ "=" ++ text) =
        ({ vars := [(name, Directive.scalar first)] }, []) ∧
      load ("/set " ++ name ++ " " ++ text) =
        ({ vars := [(name, Directive.scalar (Directive.joinTokens (first :: rest)))] }, []) := by
  have hne : name.toList ≠ [] := by simpa using hname.ne_empty
  have hne' : text.toList ≠ [] := by simpa using htext.ne_empty
  have hlist : String.ofList name.toList = name := String.ofList_toList
  obtain ⟨first, rest, htokens, hassigned, hspaced⟩ :=
    Directive.exists_tokens hne hname.plain hne' htext.trimmed
  refine ⟨first, rest, htokens, ?_, ?_⟩
  · refine load_set '=' (by decide) hname htext ?_
    rw [hassigned, Directive.bindingOf_assigned hne hname.unassigned, hlist]
  · refine load_set ' ' (by decide) hname htext ?_
    rw [hspaced, Directive.bindingOf_spaced hne hname.unassigned, hlist]

theorem binding_inj {a b : Value} :
    (({ vars := [(name, a)] }, []) : Config × List (Nat × DirectiveError)) =
      ({ vars := [(name, b)] }, []) ↔ a = b := by
  simp

/-- A value is bound without an error behind an equals sign and behind a blank. The two bind the
same if it is a single token. If there are more of them, nothing behind the first counts after an
equals sign, and so they never do. -/
theorem load_set_spellings (hname : IsVariable name) (htext : IsValueText text) :
    ∃ first rest, Directive.tokens text.toList = first :: rest ∧
      load ("/set " ++ name ++ "=" ++ text) =
        ({ vars := [(name, Directive.scalar first)] }, []) ∧
      load ("/set " ++ name ++ " " ++ text) =
        ({ vars := [(name, Directive.scalar (Directive.joinTokens (first :: rest)))] }, []) ∧
      (load ("/set " ++ name ++ "=" ++ text) = load ("/set " ++ name ++ " " ++ text) ↔
        rest = []) := by
  obtain ⟨first, rest, htokens, hassigned, hspaced⟩ := exists_load_set hname htext
  refine ⟨first, rest, htokens, hassigned, hspaced, ?_⟩
  rw [hassigned, hspaced, binding_inj]
  exact Directive.scalar_joinTokens_iff

theorem load_set_spellings_quoted :
    IsVariable "motto" ∧ IsValueText "\"1 = 2\"" ∧
      load "/set motto=\"1 = 2\"" = ({ vars := [("motto", .str "1 = 2")] }, []) ∧
      load "/set motto \"1 = 2\"" = ({ vars := [("motto", .str "1 = 2")] }, []) := by
  have hname : IsVariable "motto" := ⟨by decide, by decide, by decide⟩
  have htext : IsValueText "\"1 = 2\"" := ⟨by decide, by decide, by decide⟩
  have htoken : Directive.tokens "\"1 = 2\"".toList = ["1 = 2".toList] :=
    Directive.tokens_arguments "1 = 2".toList []
  obtain ⟨first, rest, htokens, hassigned, -, hagree⟩ := load_set_spellings hname htext
  obtain ⟨rfl, rfl⟩ := List.cons.inj (htokens.symm.trans htoken)
  rw [Directive.scalar_of_mem (by decide)] at hassigned
  exact ⟨hname, htext, hassigned, (hagree.2 rfl).symm.trans hassigned⟩

/-- Of two words the second is dropped behind an equals sign. -/
theorem not_load_set_spellings :
    ¬ ∀ name text : String, IsVariable name → IsValueText text →
      load ("/set " ++ name ++ "=" ++ text) = load ("/set " ++ name ++ " " ++ text) := by
  intro h
  have hname : IsVariable "x" := ⟨by decide, by decide, by decide⟩
  have htext : IsValueText "1 2" := ⟨by decide, by decide, by decide⟩
  have hwords : Directive.tokens "1 2".toList = [['1'], ['2']] :=
    Directive.tokens_arguments ['1'] [['2']]
  obtain ⟨first, rest, htokens, hassigned, hspaced⟩ := exists_load_set hname htext
  obtain ⟨rfl, rfl⟩ := List.cons.inj (htokens.symm.trans hwords)
  have hvalue := h "x" "1 2" hname htext
  rw [hassigned, hspaced, binding_inj] at hvalue
  cases Directive.scalar_joinTokens_iff.1 hvalue

end Config

end RichText
