import RichText.Characters

namespace RichText

theorem letter_cases {P : Char → Char → Prop} {f : Char → Char} {start target : Nat}
    (hletter : ∀ n < 26, f (.ofNat (start + n)) = .ofNat (target + n))
    (hother : ∀ c : Char, ¬(start ≤ c.toNat ∧ c.toNat < start + 26) → f c = c)
    (letter : ∀ n < 26, P (.ofNat (start + n)) (.ofNat (target + n))) (other : ∀ c, P c c)
    (c : Char) : P c (f c) := by
  by_cases h : start ≤ c.toNat ∧ c.toNat < start + 26
  · have hc : Char.ofNat (start + (c.toNat - start)) = c := by
      rw [Nat.add_sub_cancel' h.1, Char.ofNat_toNat]
    rw [← hc, hletter _ (by omega)]
    exact letter _ (by omega)
  · rw [hother c h]
    exact other c

theorem toLower_cases {P : Char → Char → Prop}
    (letter : ∀ n < 26, P (.ofNat (65 + n)) (.ofNat (97 + n))) (other : ∀ c, P c c) (c : Char) :
    P c c.toLower := by
  refine letter_cases (by decide) (fun c hc => dif_neg ?_) letter other c
  simp only [UInt32.le_iff_toNat_le]
  exact fun h => hc ⟨h.1, Nat.lt_succ_of_le h.2⟩

theorem toUpper_cases {P : Char → Char → Prop}
    (letter : ∀ n < 26, P (.ofNat (97 + n)) (.ofNat (65 + n))) (other : ∀ c, P c c) (c : Char) :
    P c c.toUpper := by
  refine letter_cases (by decide) (fun c hc => dif_neg ?_) letter other c
  simp only [UInt32.le_iff_toNat_le]
  exact fun h => hc ⟨h.1, Nat.lt_succ_of_le h.2⟩

theorem toLower_toUpper (c : Char) : c.toUpper.toLower = c.toLower :=
  toUpper_cases (P := fun c d => d.toLower = c.toLower) (by decide) (fun _ => rfl) c

theorem toLower_toLower (c : Char) : c.toLower.toLower = c.toLower :=
  toLower_cases (P := fun c d => d.toLower = c.toLower) (by decide) (fun _ => rfl) c

theorem isBlank_toLower (c : Char) : isBlank c.toLower = isBlank c :=
  toLower_cases (P := fun c d => isBlank d = isBlank c) (by decide) (fun _ => rfl) c

theorem toLower_eq_iff {mark : Char} (hmark : mark.isAlpha = false) (c : Char) :
    c.toLower = mark ↔ c = mark := by
  refine toLower_cases (P := fun c d => d = mark ↔ c = mark) (fun n hn => ?_) (fun _ => .rfl) c
  have halpha : ∀ n < 26, (Char.ofNat (97 + n)).isAlpha = true ∧
      (Char.ofNat (65 + n)).isAlpha = true := by decide
  have hne : ∀ {d : Char}, d.isAlpha = true → d ≠ mark := by
    rintro _ hd rfl
    rw [hmark] at hd
    cases hd
  exact iff_of_false (hne (halpha n hn).1) (hne (halpha n hn).2)

theorem Hexadecimal.digitValue?_toLower (c : Char) : digitValue? c.toLower = digitValue? c :=
  toLower_cases (P := fun c d => digitValue? d = digitValue? c) (by decide) (fun _ => rfl) c

end RichText
