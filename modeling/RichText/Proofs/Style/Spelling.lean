import Mathlib.Data.List.Induction
import Mathlib.Data.Nat.Digits.Defs
import RichText.Proofs.Style.Digits
import RichText.Proofs.Text.Case

namespace RichText

namespace Hexadecimal

variable {ds : List Char} {n : Nat}

def Writes (ds : List Char) (n : Nat) : Prop :=
  ∃ vs : List Nat, ds.map digitValue? = vs.map some ∧ n = Nat.ofDigits 16 vs.reverse

theorem writes_concat {d : Char} :
    Writes (ds ++ [d]) n ↔ ∃ m v, Writes ds m ∧ digitValue? d = some v ∧ n = 16 * m + v := by
  constructor
  · rintro ⟨vs, hvs, rfl⟩
    rw [List.map_append, List.map_singleton] at hvs
    obtain ⟨us, ts, rfl, hus, hts⟩ := List.map_eq_append_iff.1 hvs.symm
    obtain ⟨v, rfl, hv⟩ := List.map_eq_singleton_iff.1 hts
    refine ⟨_, v, ⟨us, hus.symm, rfl⟩, hv.symm, ?_⟩
    rw [List.reverse_append, List.reverse_singleton, List.singleton_append, Nat.ofDigits_cons,
      Nat.add_comm]
  · rintro ⟨_, v, ⟨us, hus, rfl⟩, hv, rfl⟩
    refine ⟨us ++ [v], ?_, ?_⟩
    · rw [List.map_append, List.map_append, hus, List.map_singleton, hv, List.map_singleton]
    · rw [List.reverse_append, List.reverse_singleton, List.singleton_append, Nat.ofDigits_cons,
        Nat.add_comm]

theorem ofDigits?_eq_some_iff : ofDigits? ds = some n ↔ Writes ds n := by
  induction ds using List.reverseRecOn generalizing n with
  | nil =>
    refine ⟨fun h => ⟨[], rfl, (Option.some.inj h).symm⟩, ?_⟩
    rintro ⟨vs, hvs, rfl⟩
    obtain rfl := List.map_eq_nil_iff.1 hvs.symm
    rfl
  | append_singleton ds d ih =>
    rw [ofDigits?_concat, writes_concat, Option.bind_eq_some_iff]
    constructor
    · rintro ⟨m, hm, hn⟩
      obtain ⟨v, hv, rfl⟩ := Option.map_eq_some_iff.1 hn
      exact ⟨m, v, ih.1 hm, hv, rfl⟩
    · rintro ⟨m, v, hm, hv, rfl⟩
      exact ⟨m, ih.2 hm, by rw [hv, Option.map_some]⟩

theorem ofDigits?_map_toLower (ds : List Char) :
    ofDigits? (ds.map Char.toLower) = ofDigits? ds := by
  rw [ofDigits?, List.foldlM_map]
  simp only [digitValue?_toLower, ofDigits?]

end Hexadecimal

namespace Color

variable {cs : List Char} {color : Color}

def names : List (String × Color) :=
  palette ++ [("grey", ofRgb 0xAAAAAA), ("dark_grey", ofRgb 0x555555)]

/-- What a colour can be written as with no blanks around it: a marker and a digit for a place in
the palette, six or eight digits that may have a hash sign in front, or a name in letters of either
size. -/
inductive Spelling : List Char → Color → Prop
  | code {marker d : Char} (i : Fin palette.length) : marker = '&' ∨ marker = '§' →
      Hexadecimal.digitValue? d = some i.val → Spelling [marker, d] palette[i].2
  | rgb {hash ds : List Char} {n : Nat} : hash = [] ∨ hash = ['#'] →
      Hexadecimal.Writes ds n → ds.length = 6 → Spelling (hash ++ ds) (ofRgb (.ofNat n))
  | argb {hash ds : List Char} {n : Nat} : hash = [] ∨ hash = ['#'] →
      Hexadecimal.Writes ds n → ds.length = 8 → Spelling (hash ++ ds) ⟨.ofNat n⟩
  | named {cs : List Char} {name : String} {color : Color} : (name, color) ∈ names →
      asciiLower cs = name.toList → Spelling cs color

/-! ### How a text is read -/

def IsCode (cs : List Char) : Prop := ∃ marker d, cs = [marker, d] ∧ (marker = '&' ∨ marker = '§')

def dropHash : List Char → List Char
  | '#' :: ds => ds
  | ds => ds

theorem parseChars_code {marker d : Char} (h : trimBlanks cs = [marker, d])
    (hmarker : marker = '&' ∨ marker = '§') :
    parseChars cs = (codeIndex? d).bind ofIndex? := by
  unfold parseChars
  rw [h]
  obtain rfl | rfl := hmarker <;> rfl

theorem parseChars_word (h : ¬IsCode (trimBlanks cs)) :
    parseChars cs = (ofHex? (dropHash (trimBlanks cs))).or
      (ofName? (canonicalName (String.ofList (asciiLower (trimBlanks cs))))) := by
  unfold parseChars
  split
  next d hcs => exact absurd ⟨'&', d, hcs, .inl rfl⟩ h
  next d hcs => exact absurd ⟨'§', d, hcs, .inr rfl⟩ h
  next => rfl

theorem parseChars_trimBlanks (cs : List Char) : parseChars (trimBlanks cs) = parseChars cs := by
  have htrim := (trimmed_trimBlanks cs).trimBlanks
  by_cases h : IsCode (trimBlanks cs)
  · obtain ⟨marker, d, hcs, hmarker⟩ := h
    rw [parseChars_code (htrim.trans hcs) hmarker, parseChars_code hcs hmarker]
  · rw [parseChars_word h, parseChars_word (htrim.symm ▸ h), htrim]

/-! ### Capital and small letters -/

theorem trimBlanks_asciiLower (cs : List Char) :
    trimBlanks (asciiLower cs) = asciiLower (trimBlanks cs) :=
  trimBlanks_map isBlank_toLower cs

theorem asciiLower_asciiLower (cs : List Char) : asciiLower (asciiLower cs) = asciiLower cs := by
  rw [asciiLower, asciiLower, List.map_map]
  exact List.map_congr_left fun c _ => toLower_toLower c

theorem toLower_marker {marker : Char} :
    (marker.toLower = '&' ∨ marker.toLower = '§') ↔ (marker = '&' ∨ marker = '§') := by
  rw [toLower_eq_iff (by decide), toLower_eq_iff (by decide)]

theorem isCode_asciiLower : IsCode (asciiLower cs) ↔ IsCode cs := by
  constructor
  · rintro ⟨_, _, hcs, hmarker⟩
    match cs, hcs with
    | [marker, d], rfl => exact ⟨marker, d, rfl, toLower_marker.1 hmarker⟩
  · rintro ⟨marker, d, rfl, hmarker⟩
    exact ⟨marker.toLower, d.toLower, rfl, toLower_marker.2 hmarker⟩

theorem dropHash_cons_of_ne {c : Char} (h : c ≠ '#') : dropHash (c :: cs) = c :: cs := by
  simp [dropHash, h]

theorem dropHash_asciiLower (cs : List Char) :
    dropHash (asciiLower cs) = asciiLower (dropHash cs) := by
  cases cs with
  | nil => rfl
  | cons c cs =>
    by_cases hc : c = '#'
    · rw [hc]
      rfl
    · have hc' : c.toLower ≠ '#' := fun h => hc ((toLower_eq_iff (by decide) c).1 h)
      rw [dropHash_cons_of_ne hc]
      exact dropHash_cons_of_ne hc'

theorem ofHex?_asciiLower (ds : List Char) : ofHex? (asciiLower ds) = ofHex? ds := by
  rw [ofHex?, asciiLower, Hexadecimal.ofDigits?_map_toLower, List.length_map, ofHex?]

theorem parseChars_asciiLower (cs : List Char) : parseChars (asciiLower cs) = parseChars cs := by
  have htrim := trimBlanks_asciiLower cs
  by_cases h : IsCode (trimBlanks cs)
  · obtain ⟨marker, d, hcs, hmarker⟩ := h
    rw [hcs] at htrim
    rw [parseChars_code htrim (toLower_marker.2 hmarker), parseChars_code hcs hmarker,
      codeIndex?, Hexadecimal.digitValue?_toLower, codeIndex?]
  · have h' : ¬IsCode (trimBlanks (asciiLower cs)) := by rwa [htrim, isCode_asciiLower]
    rw [parseChars_word h', parseChars_word h, htrim, dropHash_asciiLower, ofHex?_asciiLower,
      asciiLower_asciiLower]

theorem parseChars_map_toUpper (cs : List Char) :
    parseChars (cs.map Char.toUpper) = parseChars cs := by
  have hlower : asciiLower (cs.map Char.toUpper) = asciiLower cs := by
    rw [asciiLower, asciiLower, List.map_map]
    exact List.map_congr_left fun c _ => toLower_toUpper c
  rw [← parseChars_asciiLower, hlower, parseChars_asciiLower]

/-! ### What is read as a colour -/

theorem mem_palette_of_ofName? {name : String} (h : ofName? name = some color) :
    (name, color) ∈ palette := by
  obtain ⟨before, after, hpalette, -⟩ := List.lookup_eq_some_iff.1 h
  rw [hpalette]
  simp

theorem mem_names_of_canonicalName {name : String} (h : ofName? (canonicalName name) = some color) :
    (name, color) ∈ names := by
  unfold canonicalName at h
  split at h
  next hname =>
    obtain rfl := Option.some.inj h
    rw [hname]
    decide
  next =>
    split at h
    next hname =>
      obtain rfl := Option.some.inj h
      rw [hname]
      decide
    next => exact List.mem_append_left _ (mem_palette_of_ofName? h)

theorem parseChars_of_mem_names {name : String} (h : (name, color) ∈ names) :
    parseChars name.toList = some color := by
  have hall : names.all (fun entry => parseChars entry.1.toList = some entry.2) = true := by decide
  exact of_decide_eq_true (List.all_eq_true.1 hall (name, color) h)

theorem dropHash_of_writes {ds : List Char} {n : Nat} (h : Hexadecimal.Writes ds n) :
    dropHash ds = ds := by
  cases ds with
  | nil => rfl
  | cons d ds =>
    refine dropHash_cons_of_ne ?_
    rintro rfl
    obtain ⟨vs, hvs, -⟩ := h
    have hmem : none ∈ vs.map some := by
      rw [← hvs]
      exact List.mem_cons_self
    simp at hmem

theorem exists_hash (cs : List Char) :
    ∃ hash, (hash = [] ∨ hash = ['#']) ∧ cs = hash ++ dropHash cs := by
  unfold dropHash
  split
  next ds => exact ⟨['#'], .inr rfl, rfl⟩
  next => exact ⟨[], .inl rfl, rfl⟩

theorem spelling_of_ofHex? (h : ofHex? (dropHash cs) = some color) : Spelling cs color := by
  obtain ⟨hash, hhash, hcs⟩ := exists_hash cs
  obtain ⟨n, hn, hcolor⟩ := Option.bind_eq_some_iff.1 h
  have hwrites := Hexadecimal.ofDigits?_eq_some_iff.1 hn
  rw [hcs]
  split at hcolor
  next hlen => exact Option.some.inj hcolor ▸ .rgb hhash hwrites hlen
  next =>
    split at hcolor
    next hlen => exact Option.some.inj hcolor ▸ .argb hhash hwrites hlen
    next => cases hcolor

theorem parseChars_of_ofHex? {hash ds : List Char} {n : Nat} (hcs : trimBlanks cs = hash ++ ds)
    (hhash : hash = [] ∨ hash = ['#']) (hn : Hexadecimal.Writes ds n) (hlen : 2 < ds.length)
    (hcolor : ofHex? ds = some color) : parseChars cs = some color := by
  have hword : ¬IsCode (trimBlanks cs) := by
    rintro ⟨marker, d, hcode, -⟩
    have hlength := congrArg List.length (hcs.symm.trans hcode)
    rw [List.length_append, List.length_cons, List.length_singleton] at hlength
    omega
  have hdrop : dropHash (hash ++ ds) = ds := by
    obtain rfl | rfl := hhash
    · exact dropHash_of_writes hn
    · rfl
  rw [parseChars_word hword, hcs, hdrop, hcolor, Option.some_or]

theorem parseChars_eq_some_iff : parseChars cs = some color ↔ Spelling (trimBlanks cs) color := by
  constructor
  · intro h
    by_cases hcode : IsCode (trimBlanks cs)
    · obtain ⟨marker, d, hcs, hmarker⟩ := hcode
      rw [parseChars_code hcs hmarker] at h
      obtain ⟨i, hi, hcolor⟩ := Option.bind_eq_some_iff.1 h
      obtain ⟨_, hentry, rfl⟩ := Option.map_eq_some_iff.1 hcolor
      obtain ⟨hlt, rfl⟩ := List.getElem?_eq_some_iff.1 hentry
      rw [hcs]
      exact .code ⟨i, hlt⟩ hmarker hi
    · rw [parseChars_word hcode, Option.or_eq_some_iff] at h
      obtain h | ⟨-, h⟩ := h
      · exact spelling_of_ofHex? h
      · exact .named (mem_names_of_canonicalName h) String.toList_ofList.symm
  · intro h
    generalize hcs : trimBlanks cs = ts at h
    cases h with
    | code i hmarker hd =>
      rw [parseChars_code hcs hmarker, codeIndex?, hd, Option.bind_some, ofIndex?,
        List.getElem?_eq_getElem i.2]
      rfl
    | rgb hhash hn hlen =>
      refine parseChars_of_ofHex? hcs hhash hn (by omega) ?_
      rw [ofHex?, Hexadecimal.ofDigits?_eq_some_iff.2 hn, Option.bind_some, if_pos hlen]
    | argb hhash hn hlen =>
      refine parseChars_of_ofHex? hcs hhash hn (by omega) ?_
      rw [ofHex?, Hexadecimal.ofDigits?_eq_some_iff.2 hn, Option.bind_some, if_neg (by omega),
        if_pos hlen]
    | named hname hlower =>
      rw [← parseChars_trimBlanks, hcs, ← parseChars_asciiLower, hlower]
      exact parseChars_of_mem_names hname

/-! ### What is written for a colour -/

theorem ofRgb_rgb (c : Color) : ofRgb c.rgb = c.withAlpha 0xff := by
  have halpha : (0xff : UInt8).toUInt32 <<< 24 = 0xff000000 := by decide
  rw [ofRgb, withAlpha, halpha, rgb, UInt32.and_assoc, UInt32.and_self]

theorem parse_toHex (c : Color) : parse c.toHex = some (c.withAlpha 0xff) := by
  have hroom : c.rgb.toNat % 16 ^ 6 = c.rgb.toNat := by
    refine Nat.mod_eq_of_lt (Nat.lt_of_le_of_lt (m := 0xffffff) ?_ (by decide))
    rw [rgb, UInt32.toNat_and]
    exact Nat.and_le_right
  have hwrites : Hexadecimal.Writes (Hexadecimal.digits 6 c.rgb.toNat) c.rgb.toNat := by
    rw [← Hexadecimal.ofDigits?_eq_some_iff, Hexadecimal.ofDigits?_digits, hroom]
  have htrim : trimBlanks c.toHex.toList = ['#'] ++ Hexadecimal.digits 6 c.rgb.toNat := by
    rw [toHex, String.toList_ofList]
    refine (trimmed_of_forall fun x hx => ?_).trimBlanks
    obtain rfl | hx := List.mem_cons.1 hx
    · rfl
    · exact Hexadecimal.isBlank_of_mem_digits hx
  have hspelling : Spelling (['#'] ++ Hexadecimal.digits 6 c.rgb.toNat)
      (ofRgb (.ofNat c.rgb.toNat)) :=
    .rgb (.inr rfl) hwrites (Hexadecimal.length_digits 6 _)
  rw [UInt32.ofNat_toNat, ofRgb_rgb] at hspelling
  rwa [parse, parseChars_eq_some_iff, htrim]

theorem parse_text (c : Color) : parse c.text = some (c.withAlpha 0xff) := by
  unfold text
  split
  next name entry hfind =>
    have hmem : (name, c) ∈ palette := by
      have hc : entry = c := by simpa using List.find?_some hfind
      exact hc ▸ List.mem_of_find?_eq_some hfind
    have hopaque : ∀ entry ∈ palette, entry.2.withAlpha 0xff = entry.2 := by decide
    rw [parse, parseChars_of_mem_names (List.mem_append_left _ hmem), hopaque _ hmem]
  next => exact parse_toHex c

/-- A text is read as a colour just if it spells one, and then as that one, whatever blanks stand
around it and whatever the size of its letters. What is written for a colour is read as that colour,
and as the opaque one if it leaves the alpha channel out. -/
theorem parse_spelling :
    (∀ s color, parse s = some color ↔ Spelling (trimBlanks s.toList) color) ∧
    (∀ s, parse (String.ofList (trimBlanks s.toList)) = parse s ∧
      parse s.toLower = parse s ∧ parse s.toUpper = parse s) ∧
    ∀ c : Color, parse c.text = some (c.withAlpha 0xff) ∧
      parse c.toHex = some (c.withAlpha 0xff) ∧
      parse (String.ofList c.argbText) = some c := by
  refine ⟨fun s color => parseChars_eq_some_iff, fun s => ⟨?_, ?_, ?_⟩, fun c =>
    ⟨parse_text c, parse_toHex c, ?_⟩⟩
  · rw [parse, String.toList_ofList, parseChars_trimBlanks, parse]
  · have hlower : s.toLower.toList = asciiLower s.toList := String.toList_map
    rw [parse, hlower, parseChars_asciiLower, parse]
  · have hupper : s.toUpper.toList = s.toList.map Char.toUpper := String.toList_map
    rw [parse, hupper, parseChars_map_toUpper, parse]
  · rw [parse, String.toList_ofList, parseChars_argbText]

end Color

end RichText
